import ConfigdExtra.NetObjects

/-!
# The lists that `scutil --net` keeps

`services` and `protocols` are kept from one search or listing to the next.

* `Coherent` — the services listed are of the selected set, or all services; the protocols listed
  are those of the selected service.
* `NetCommand.KeepsCaches` — what is listed fits the set that a command selects or creates.
* `netRun_cachesCoherent` — in a run whose commands all do that, the lists are coherent, and
  `select service` selects from the selected set.
-/

namespace ConfigdExtra

open FlaggedEdits

variable {π ν ι : Type} {lib : NetLibrary π ι}

/-! ## The property -/

/-- **The lists are coherent.** -/
structure Coherent (o : NetObjects) (sel : NetSelection ι) : Prop where
  /-- services are of the selected set, or of the preferences if all were listed -/
  services : ∀ l ∈ sel.services, ∀ r ∈ l.refs,
    if l.all then r.id ∈ o.services else ∀ set ∈ sel.netSet, r.id ∈ o.members set
  /-- protocols are those of the selected service -/
  protocols : ∀ l ∈ sel.protocols, ∃ service ∈ sel.netService,
    l = (o.protocols service.id).map fun type => ⟨service, type⟩

/-- The lists are coherent along a run, and `select service` finds a service of the selected set,
or of the preferences if all were listed. -/
structure CachesCoherent (lib : NetLibrary π ι) (commands : List (NetCommand π ν ι)) : Prop where
  coherent : ∀ before after, commands = before ++ after → ∀ d ∈ (netRun lib before).prefs,
    Coherent (lib.objects d.current) (netRun lib before).selection
  selects : ∀ before arg copied after,
    commands = before ++ .edit (.selectService arg copied) :: after →
    ∀ d ∈ (netRun lib before).prefs, ∀ set ∈ (netRun lib before).selection.netSet,
    let found := (netRun lib before).selection.findService lib d.current copied arg
    ∀ service ∈ found.1, ∃ l ∈ found.2.services,
      service.id ∈ if l.all then (lib.objects d.current).services
        else (lib.objects d.current).members set

/-! ## The condition -/

/-- What is listed fits a set with these services, and no protocols are listed. -/
def FitsSet (sel : NetSelection ι) (members : Set String) : Prop :=
  (∀ l ∈ sel.services, l.all = true ∨ ∀ r ∈ l.refs, r.id ∈ members) ∧ sel.protocols = none

/-- A set that is created, or removed while it is selected, has no services; and a service whose
ID is changed is listed as the object that is selected. -/
def NetCall.KeepsCaches (sel : NetSelection ι) (name : NetCall) (a : Attempt π) : Prop :=
  a.ok = true →
    match name with
    | .setCreate _ => FitsSet sel ∅
    | .setRemove set => sel.netSet = some set → FitsSet sel ∅
    | .serviceSetServiceID service id => id ≠ service → sel.ListsOnce service
    | _ => True

/-- The set that a command selects is one that what is listed fits. -/
def KeepsCachesOf (lib : NetLibrary π ι) (sel : NetSelection ι) (c : π) (set : String) : Prop :=
  FitsSet sel ((lib.objects c).members set)

/-- The commands that the lists are about: not those that rework the preferences as a whole -/
def NetCommand.listed : NetCommand π ν ι → Bool
  | .clean _ _ _ | .update _ _ _ | .upgrade _ _ _ _ => false
  | _ => true

/-- What a command has to keep to. -/
def NetCommand.KeepsCaches (lib : NetLibrary π ι) (s : NetState π ν ι) :
    NetCommand π ν ι → Prop
  | .edit e => ∀ d ∈ s.prefs,
      (scriptOf lib d.current s.selection e).Along (fun sel name _ a => name.KeepsCaches sel a)
        d.current ∧ e.Selects lib (KeepsCachesOf lib) d.current s.selection
  | _ => True

/-! ## One move -/

/-- What is known of each call. -/
def CacheCall (lib : NetLibrary π ι) (sel : NetSelection ι) (name : NetCall) (c : π)
    (a : Attempt π) : Prop :=
  name.Does lib sel c a ∧ name.KeepsCaches sel a

namespace Coherent

variable {o o' : NetObjects} {sel : NetSelection ι}

theorem of_services_eq_none {o : NetObjects} {sel : NetSelection ι} (hservices : sel.services = none)
    (hprotocols : sel.protocols = none) : Coherent o sel :=
  ⟨fun l hl => absurd (hservices.symm.trans hl) (by simp),
    fun l hl => absurd (hprotocols.symm.trans hl) (by simp)⟩

/-- Services are only added, and the selected service keeps its protocols. -/
theorem mono (h : Coherent o sel) (hservices : o.services ⊆ o'.services)
    (hmembers : ∀ set ∈ sel.netSet, o.members set ⊆ o'.members set)
    (hprotocols : ∀ service ∈ sel.netService,
      o'.protocols service.id = o.protocols service.id) : Coherent o' sel where
  services l hl r hr := by
    have hmem := h.services l hl r hr
    split_ifs at hmem ⊢
    · exact hservices hmem
    · exact fun set hset => hmembers set hset (hmem set hset)
  protocols l hl := by
    obtain ⟨service, hservice, hl'⟩ := h.protocols l hl
    exact ⟨service, hservice, by rw [hprotocols service hservice, ← hl']⟩

/-- Another set is selected that what is listed fits, or the selected one is emptied. -/
theorem fitted (h : Coherent o sel) (hservices : o.services ⊆ o'.services) {set : String}
    {sel' : NetSelection ι} (hset : sel'.netSet = some set) (hlisted : sel'.services = sel.services)
    (hprotocols : sel'.protocols = sel.protocols) {members : Set String}
    (hfits : FitsSet sel members) (hmembers : members ⊆ o'.members set) : Coherent o' sel' where
  services l hl r hr := by
    rw [hlisted] at hl
    have hmem := h.services l hl r hr
    rcases hfits.1 l hl with hall | hrefs
    · rw [if_pos hall] at hmem ⊢
      exact hservices hmem
    · split_ifs at hmem ⊢
      · exact hservices hmem
      · intro set' hset'
        obtain rfl := Option.some.inj (hset.symm.trans hset')
        exact hmembers (hrefs r hr)
  protocols l hl := by
    rw [hprotocols, hfits.2] at hl
    cases hl

/-- No other set is selected, and the objects stay. -/
theorem reselect (h : Coherent o sel) {sel' : NetSelection ι}
    (hset : ∀ set ∈ sel'.netSet, set ∈ sel.netSet) (hservices : sel'.services = sel.services)
    (hservice : sel'.netService = sel.netService) (hprotocols : sel'.protocols = sel.protocols) :
    Coherent o sel' where
  services l hl r hr := by
    have hmem := h.services l (hservices ▸ hl) r hr
    split_ifs at hmem ⊢
    · exact hmem
    · exact fun set hset' => hmem set (hset set hset')
  protocols l hl := by
    rw [hservice]
    exact h.protocols l (hprotocols ▸ hl)

/-- A service that is removed is not listed any more. -/
theorem unlistServices (h : Coherent o sel) : Coherent o { sel with services := none } :=
  ⟨fun l hl => (by cases hl), h.protocols⟩

theorem listServices (h : Coherent o sel) {all : Bool} {ids : List String}
    (hids : ∀ id ∈ ids, if all then id ∈ o.services else ∀ set ∈ sel.netSet, id ∈ o.members set) :
    Coherent o (sel.listServices all ids) where
  services l hl r hr := by
    obtain rfl := Option.some.inj hl
    exact hids r.id (NetSelection.id_mem_of_mem_newServices hr)
  protocols := h.protocols

end Coherent

/-- What a call that fails leaves is coherent with the lists. -/
theorem coherent_of_fails {sel : NetSelection ι} {name : NetCall} {c : π} {a : Attempt π}
    (h : Coherent (lib.objects c) sel) (hdoes : name.Does lib sel c a) (hfail : a.ok = false) :
    Coherent (lib.objects a.left) sel := by
  rcases hdoes.objects_of_fail hfail with hleft | ⟨id, hunused, hleft⟩ | ⟨id, types, hunused, hleft⟩
  · exact hleft ▸ h
  · rw [hleft]
    refine h.mono subset_rfl (fun set hset => ?_) fun _ _ => rfl
    have hne : set ≠ id := fun heq => hunused.netSet (heq ▸ hset)
    simp [NetObjects.createSet, hne]
  · rw [hleft]
    refine h.mono (Set.subset_insert _ _) (fun _ _ => subset_rfl) fun service hservice => ?_
    exact Function.update_of_ne (hunused.refs service (.inl hservice)) _ _

/-- A change of ID is seen in the lists. -/
theorem coherent_renameService {o : NetObjects} {sel : NetSelection ι} (h : Coherent o sel)
    (htidy : sel.Tidy) {service : ServiceRef} (hservice : sel.netService = some service)
    {id : String} (hlisted : id ≠ service.id → ∀ l ∈ sel.services, ∀ r ∈ l.refs,
      r.id = service.id → r.object = service.object) :
    Coherent (o.renameService service.id id) (sel.renameService service.object id) where
  services l hl r hr := by
    obtain ⟨l', hl', rfl⟩ := Option.map_eq_some_iff.mp hl
    obtain ⟨r', hr', rfl⟩ := List.mem_map.mp hr
    have hmem := h.services l' hl' r' hr'
    by_cases hobject : r'.object = service.object
    · -- the object has the new ID
      have hid : r'.id = service.id := htidy.same r' service (.inr (.inl ⟨l', hl', hr'⟩))
        (.inl hservice) hobject
      rw [if_pos hobject]
      dsimp only
      split_ifs at hmem ⊢
      · exact Set.mem_insert _ _
      · exact fun set hset => .inr ⟨rfl, hid ▸ hmem set hset⟩
    · rw [if_neg hobject]
      dsimp only
      by_cases hid : r'.id = service.id
      · -- another object with the ID, which can only have been changed to itself
        have heq : id = service.id := by
          by_contra hne
          exact hobject (hlisted hne l' hl' r' hr' hid)
        rw [hid] at hmem ⊢
        split_ifs at hmem ⊢
        · exact heq ▸ Set.mem_insert _ _
        · exact fun set hset => .inr ⟨heq.symm, hmem set hset⟩
      · split_ifs at hmem ⊢
        · exact Set.mem_insert_of_mem _ ⟨hmem, hid⟩
        · exact fun set hset => .inl ⟨hmem set hset, hid⟩
  protocols l hl := by
    obtain ⟨l', hl', rfl⟩ := Option.map_eq_some_iff.mp hl
    obtain ⟨service', hservice', rfl⟩ := h.protocols l' hl'
    obtain rfl := Option.some.inj (hservice.symm.trans hservice')
    refine ⟨⟨service.object, id⟩, ?_, ?_⟩
    · simp [NetSelection.renameService, hservice]
    · simp [NetObjects.renameService]

/-- Looking a set up again by its ID selects it, or none. -/
theorem coherent_refreshSets {o : NetObjects} {sel : NetSelection ι} (h : Coherent o sel)
    {set : String} (hset : sel.netSet = some set) {c : π} (hmem : set ∈ lib.sets c)
    (copied : Bool) : Coherent o (sel.refreshSets lib c copied set) := by
  rcases sel.refreshSets_cases lib c copied set with ⟨-, heq⟩ | heq | ⟨found, heq, hfound, -⟩
  · rwa [heq]
  · rw [heq]
    exact h.reselect (fun _ hnone => by cases hnone) rfl rfl rfl
  · rw [heq]
    refine h.reselect (fun set' hset' => ?_) rfl rfl rfl
    obtain rfl := Option.some.inj ((hfound hmem).symm.trans hset')
    exact hset

/-- **One move** keeps the lists coherent. -/
theorem coherent_of_move (hlib : lib.Lawful) {c c' : π} {sel sel' : NetSelection ι}
    (hmove : NetMove lib (CacheCall lib) (KeepsCachesOf lib) (c, sel) (c', sel'))
    (htidy : sel.Tidy) (h : Coherent (lib.objects c) sel) : Coherent (lib.objects c') sel' := by
  cases hmove with
  | listSets => exact ⟨h.services, h.protocols⟩
  | listAllServices => exact h.listServices fun id hid => hid
  | listServices hset hids =>
    refine h.listServices fun id hid => ?_
    rw [if_neg (by simp)]
    intro set' hset'
    obtain rfl := Option.some.inj (hset.symm.trans hset')
    -- the services of the set, in either order
    rcases hids with rfl | rfl
    · exact hid
    · exact (hlib.orderedServices c _ id).mp hid
  | unlistServices => exact h.unlistServices
  | listProtocols hservice =>
    refine ⟨h.services, fun l hl => ?_⟩
    obtain rfl := Option.some.inj hl
    exact ⟨_, hservice, rfl⟩
  | unlistProtocols => exact ⟨h.services, fun l hl => by cases hl⟩
  -- only the call that the cache is for can make this fail
  | selectSet hl hset hK => exact h.fitted subset_rfl rfl rfl rfl hK subset_rfl
  | selectService hl hservice => exact ⟨h.services, fun l hl => by cases hl⟩
  | selectProtocol hl hprotocol => exact ⟨h.services, h.protocols⟩
  | countsNull => exact ⟨h.services, h.protocols⟩
  | fails hD hfail => exact coherent_of_fails h hD.1 hfail
  | createSet hD hok =>
    obtain ⟨⟨hunused, hleft⟩, hkeeps⟩ := hD
    have hleft := hleft.resolve_right (by simp [hok])
    exact h.fitted (hleft ▸ subset_rfl) rfl rfl rfl (hkeeps hok) (Set.empty_subset _)
  | @removeSet _ _ set selected a hD hok hselected hne =>
    have hleft : lib.objects a.left = _ := hD.1.trans (if_pos hok)
    rw [hleft]
    have hkept : Coherent ((lib.objects c).removeSet set) sel := by
      refine h.mono subset_rfl (fun set' hset' => ?_) fun _ _ => rfl
      obtain rfl := Option.some.inj (hselected.symm.trans hset')
      exact (Function.update_of_ne hne.symm _ _).symm.subset
    exact ⟨hkept.services, hkept.protocols⟩
  | @removeSelectedSet _ _ set a hD hok hselected =>
    have hleft : lib.objects a.left = _ := hD.1.trans (if_pos hok)
    exact h.fitted (hleft ▸ subset_rfl) hselected rfl rfl (hD.2 hok hselected) (Set.empty_subset _)
  | @comparesNull _ _ set a hD hok hselected =>
    have hleft : lib.objects a.left = _ := hD.1.trans (if_pos hok)
    rw [hleft]
    have hkept : Coherent ((lib.objects c).removeSet set) sel :=
      h.mono subset_rfl (fun set' hset' => absurd (hselected.symm.trans hset') (by simp))
        fun _ _ => rfl
    exact ⟨hkept.services, hkept.protocols⟩
  -- the set is looked up again, by its old identifier
  | @nameSet _ _ set a copied hD hok hset =>
    obtain ⟨⟨hmem, hleft⟩, -⟩ := hD
    rw [hleft]
    have hfresh : set ∈ lib.sets a.left := by
      have := hmem hok
      rwa [← hleft] at this
    exact coherent_refreshSets h hset hfresh copied
  -- and here by its new one
  | @renameSet _ _ set id a copied hD hok hset =>
    obtain ⟨⟨hmem, hleft⟩, -⟩ := hD
    rw [if_pos hok] at hleft
    have hfresh : id ∈ lib.sets a.left := by
      have hinsert : id ∈ ((lib.objects c).renameSet set id).sets := Set.mem_insert _ _
      rwa [← hleft] at hinsert
    have hselected : Coherent (lib.objects a.left) { sel with netSet := some id } := by
      rw [hleft]
      refine ⟨fun l hl r hr => ?_, h.protocols⟩
      have hmember := h.services l hl r hr
      split_ifs at hmember ⊢
      · exact hmember
      · intro set' hset'
        obtain rfl := Option.some.inj hset'
        simpa [NetObjects.renameSet] using hmember set hset
    exact coherent_refreshSets hselected rfl hfresh copied
  | createService hD hok hset => exact ⟨fun l hl => (by cases hl), fun l hl => by cases hl⟩
  | adjust hD hok hadjusts => exact hD.1.objects_of_adjusts hadjusts ▸ h
  | @removeService _ _ service a hD hok hselected =>
    have hleft : lib.objects a.left = _ := hD.1.trans (if_pos hok)
    rw [hleft]
    refine ⟨fun l hl => (by cases hl), fun l hl => ?_⟩
    obtain ⟨selected, hselected', hl'⟩ := h.protocols l hl
    refine ⟨selected, hselected', hl'.trans ?_⟩
    -- the protocols are those of another service
    simp [NetObjects.removeService, hselected selected hselected']
  | removeSelectedService hD hok hselected hid =>
    exact ⟨fun l hl => (by cases hl), fun l hl => by cases hl⟩
  | @renameService _ _ service id _ hD hok hservice =>
    obtain ⟨⟨-, hleft⟩, hkeeps⟩ := hD
    rw [if_pos hok] at hleft
    rw [hleft]
    exact coherent_renameService h htidy hservice fun hne l hl r hr hid =>
      hkeeps hok hne l hl r hr hid service hservice
  | addProtocol hD hok hservice hselected =>
    obtain ⟨hdoes, -⟩ := hD
    simp only [NetCall.Does, hok, if_true] at hdoes
    obtain ⟨types, -, hleft⟩ := hdoes
    rw [hleft]
    exact ⟨h.services, fun l hl => by cases hl⟩
  -- a call that has succeeded was for the protocol of a service
  | @removeProtocol _ _ protocol a selected hD hok htarget hselected =>
    obtain ⟨hdoes, -⟩ := hD
    cases hservice : sel.netService with
    | none =>
      rw [hservice] at hdoes
      exact absurd (hok.symm.trans hdoes.1) (by simp)
    | some service =>
      rw [hservice] at hdoes
      have hleft : lib.objects a.left = _ := hdoes.trans (if_pos hok)
      rw [hleft]
      exact ⟨h.services, fun l hl => by cases hl⟩

/-! ## Runs -/

/-- The lists are tidy and coherent, and there are none while nothing is open. -/
structure CachesKept (lib : NetLibrary π ι) (s : NetState π ν ι) : Prop where
  tidy : s.selection.Tidy
  coherent : ∀ d ∈ s.prefs, Coherent (lib.objects d.current) s.selection
  closed : s.prefs = none → s.selection.services = none ∧ s.selection.protocols = none

theorem CachesKept.moves (hlib : lib.Lawful) {p p' : π × NetSelection ι}
    (hmoves : NetMoves lib (CacheCall lib) (KeepsCachesOf lib) p p') (htidy : p.2.Tidy)
    (h : Coherent (lib.objects p.1) p.2) : p'.2.Tidy ∧ Coherent (lib.objects p'.1) p'.2 := by
  induction hmoves with
  | refl => exact ⟨htidy, h⟩
  | tail _ hmove ih =>
    exact ⟨tidy_of_move hmove ih.1, coherent_of_move hlib hmove ih.1 ih.2⟩

theorem cachesKept_initial : CachesKept lib (.initial : NetState π ν ι) where
  tidy := NetSelection.tidy_empty 0
  coherent d hd := by cases hd
  closed _ := ⟨rfl, rfl⟩

namespace CachesKept

variable {s : NetState π ν ι}

/-- The sessions are closed. -/
theorem close (s : NetState π ν ι) : CachesKept lib s.netClose.prefsClose where
  tidy := NetSelection.tidy_empty _
  coherent d hd := by cases hd
  closed _ := ⟨rfl, rfl⟩

/-- While nothing is open there are no lists, and opening makes none. -/
theorem prefsOpen (h : CachesKept lib s) (hclosed : s.prefs = none) (path : Option String)
    (opened : Option π) : CachesKept lib (s.prefsOpen lib path opened) := by
  obtain ⟨hservices, hprotocols⟩ := h.closed hclosed
  cases opened with
  | none => exact ⟨h.tidy, h.coherent, h.closed⟩
  | some c =>
    exact ⟨h.tidy.mono le_rfl fun r hr => hr,
      fun d _ => .of_services_eq_none hservices hprotocols, fun _ => ⟨hservices, hprotocols⟩⟩

/-- Neither the objects nor what is listed change. -/
theorem of_objects (h : CachesKept lib s) {s' : NetState π ν ι}
    (hselection : s'.selection = s.selection)
    (hprefs : ∀ d' ∈ s'.prefs, ∃ d ∈ s.prefs, lib.objects d'.current = lib.objects d.current)
    (hopen : s'.prefs = none → s.prefs = none) : CachesKept lib s' where
  tidy := hselection ▸ h.tidy
  coherent d' hd' := by
    obtain ⟨d, hd, heq⟩ := hprefs d' hd'
    rw [heq, hselection]
    exact h.coherent d hd
  closed hnone := hselection ▸ h.closed (hopen hnone)

theorem setConfiguration (hlib : lib.Lawful) (h : CachesKept lib s) (target : Option (SetTarget ι))
    (command : SetCommand) (args : List String) :
    CachesKept lib (s.setConfiguration lib target command args) := by
  unfold NetState.setConfiguration
  split
  next d target hd =>
    refine h.of_objects rfl (fun d' hd' => ⟨d, hd, ?_⟩) (fun hnone => by cases hnone)
    obtain rfl := Option.some.inj hd'
    exact hlib.configured _ _ _
  · exact h

theorem edit (hlib : lib.Lawful) (h : CachesKept lib s) {e : NetEdit π ι}
    (hdoes : (NetCommand.edit e : NetCommand π ν ι).Documented lib s)
    (hkeeps : (NetCommand.edit e : NetCommand π ν ι).KeepsCaches lib s) :
    CachesKept lib (s.edit lib e) := by
  cases hd : s.prefs with
  | none => simpa [NetState.edit, hd] using h
  | some d =>
    obtain ⟨d', hd', houtcome⟩ := NetState.edit_eq lib hd e
    obtain ⟨hcalls, hselects⟩ := hkeeps d hd
    have hmoves := edit_moves e ((hdoes d hd).and hcalls) hselects
    obtain ⟨htidy, hcoherent⟩ := moves hlib hmoves h.tidy (h.coherent d hd)
    rw [← houtcome] at htidy hcoherent
    refine ⟨htidy, fun d₂ hd₂ => ?_, fun hnone => ?_⟩
    · obtain rfl := Option.some.inj (hd'.symm.trans hd₂)
      exact hcoherent
    · rw [hd'] at hnone
      cases hnone

end CachesKept

/-- **One command** keeps the lists coherent. -/
theorem netStep_cachesKept (hlib : lib.Lawful) {s : NetState π ν ι} (h : CachesKept lib s)
    {command : NetCommand π ν ι} (hlisted : command.listed = true)
    (hdoes : command.Documented lib s) (hkeeps : command.KeepsCaches lib s) :
    CachesKept lib (netStep lib s command) := by
  unfold netStep
  split_ifs
  · exact h
  cases command with
  | opens interactive path opened =>
    simp only [NetState.doNetOpen]
    split_ifs with hprefs
    · exact h
    · exact (CachesKept.close s).prefsOpen rfl path opened
    · exact h.prefsOpen (Option.not_isSome_iff_eq_none.mp hprefs) path opened
  | commit ok =>
    simp only [NetState.doNetCommit]
    split
    · exact h
    next d hd =>
      split_ifs
      · refine h.of_objects rfl (fun d' hd' => ⟨d, hd, ?_⟩) (fun hnone => by cases hnone)
        obtain rfl := Option.some.inj hd'
        rfl
      · exact h
  | close interactive arg | quit interactive arg =>
    simp only [NetState.doNetClose]
    split_ifs
    · exact h
    · exact .close s
  | edit e => exact h.edit hlib hdoes hkeeps
  | setInterface services args | setProtocol services args =>
    exact h.setConfiguration hlib _ _ args
  | createInterface i | selectInterface i =>
    refine ⟨h.tidy.mono le_rfl fun r hr => hr, fun d hd => ?_, h.closed⟩
    exact ⟨(h.coherent d hd).services, (h.coherent d hd).protocols⟩
  | apply | showInterfaces | migrate | snapshot => exact h
  | clean | update | upgrade => cases hlisted

/-- What `select service` finds is of the selected set, or one of all services. -/
theorem Coherent.findService {c : π} {sel : NetSelection ι} (h : Coherent (lib.objects c) sel)
    {set : String} (hset : sel.netSet = some set) (copied : Bool) (arg : String)
    {service : ServiceRef} (hservice : (sel.findService lib c copied arg).1 = some service) :
    ∃ l ∈ (sel.findService lib c copied arg).2.services,
      service.id ∈ if l.all then (lib.objects c).services else (lib.objects c).members set := by
  unfold NetSelection.findService at hservice ⊢
  cases hservices : sel.services with
  | some l =>
    simp only [hservices] at hservice ⊢
    have hmem := h.services l hservices service (findIn_mem hservice)
    refine ⟨l, rfl, ?_⟩
    split_ifs at hmem ⊢
    · exact hmem
    · exact hmem set hset
  | none =>
    simp only [hservices, hset] at hservice ⊢
    cases copied with
    | false => cases hservice
    | true =>
      refine ⟨_, rfl, ?_⟩
      rw [if_neg (by simp)]
      exact NetSelection.id_mem_of_mem_newServices (findIn_mem hservice)

/-- **The lists are coherent** along every run whose commands keep them so. -/
theorem netRun_cachesCoherent (hlib : lib.Lawful) {commands : List (NetCommand π ν ι)}
    (h : Run.Steps (netStep lib) (fun s command => command.listed = true ∧
      command.Documented lib s ∧ command.KeepsCaches lib s) .initial commands) :
    CachesCoherent lib commands := by
  have hkept : ∀ before after, commands = before ++ after → CachesKept lib (netRun lib before) := by
    rintro before after rfl
    exact Run.Steps.inv (I := CachesKept lib) (fun s command hs hcommand =>
      netStep_cachesKept hlib hs hcommand.1 hcommand.2.1 hcommand.2.2) cachesKept_initial h.split.1
  refine ⟨fun before after heq d hd => (hkept before after heq).coherent d hd, ?_⟩
  intro before arg copied after heq d hd set hset found service hservice
  exact ((hkept before _ heq).coherent d hd).findService hset copied arg hservice

/-- The services of the current set are listed, and one of them is selected and removed. -/
theorem cachesCoherent_remove : CachesCoherent (ν := Unit) servicesLibrary
    [.opens true none (some [("0", ["a"]), ("1", ["b"])]), .edit (.showServices false true),
      .edit (.selectService "a" true), .edit (.showProtocols true),
      .edit (.removeService none true ⟨true, [("0", []), ("1", ["b"])]⟩)] := by
  refine netRun_cachesCoherent servicesLibrary_lawful ⟨?_, ?_, ?_, ?_, ?_, trivial⟩
  all_goals refine ⟨rfl, ?_, ?_⟩
  iterate 8 first | exact trivial | exact fun d _ => trivial | exact fun d _ => ⟨trivial, trivial⟩
  · intro d hd
    cases hd
    exact ⟨servicesLibrary_removeService [("0", ["a"]), ("1", ["b"])] "a", fun _ => trivial⟩
  · intro d hd
    cases hd
    exact ⟨⟨fun _ => trivial, fun _ => trivial⟩, trivial⟩

/-- `select set` keeps the services of the set before, from which `select service` then selects;
and it keeps the protocols of the service before. -/
theorem netRun_not_cachesCoherent :
    ¬ CachesCoherent (ν := Unit) servicesLibrary
      [.opens true none (some [("0", ["a"]), ("1", ["b"])]), .edit (.showServices false true),
        .edit (.selectSet "1" true), .edit (.selectService "a" true)] ∧
    ¬ CachesCoherent (ν := Unit) servicesLibrary
      [.opens true none (some [("0", ["a"]), ("1", ["b"])]), .edit (.selectService "a" true),
        .edit (.showProtocols true), .edit (.selectSet "1" true)] := by
  constructor
  · intro h
    obtain ⟨l, hl, hmem⟩ := h.selects [_, _, _] "a" true [] rfl _ rfl "1" rfl _ rfl
    obtain rfl := Option.some.inj hl
    have hlisted : "a" ∈ servicesLibrary.setServices [("0", ["a"]), ("1", ["b"])] "1" := hmem
    revert hlisted
    decide
  · intro h
    obtain ⟨service, hservice, -⟩ := (h.coherent _ [] (List.append_nil _).symm _ rfl).protocols _ rfl
    cases hservice

end ConfigdExtra
