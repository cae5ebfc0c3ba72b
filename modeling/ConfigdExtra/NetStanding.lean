import ConfigdExtra.NetCaches

/-!
# What is selected in `scutil --net` exists

* `Standing` — the set, the service and the protocol that are selected are in the preferences.
* `Live` — so is what is listed, and the protocols are of the service that is selected; this is
  what the commands keep.
* `NetCommand.KeepsStanding` — a set is only removed while another one is selected, and no
  service is removed whose protocols are listed.
* `netRun_standing` — in a run whose commands all do that, nothing selected is gone.
-/

namespace ConfigdExtra

open FlaggedEdits

variable {π ν ι : Type} {lib : NetLibrary π ι}

/-! ## The property -/

/-- **What is selected exists.** -/
structure Standing (o : NetObjects) (sel : NetSelection ι) : Prop where
  netSet : ∀ set ∈ sel.netSet, set ∈ o.sets
  netService : ∀ service ∈ sel.netService, service.id ∈ o.services
  netProtocol : ∀ p ∈ sel.netProtocol,
    p.service.id ∈ o.services ∧ p.type ∈ o.protocols p.service.id

/-- When what is removed is selected, it is not any more, and neither is what hangs off it. -/
def Deselects (lib : NetLibrary π ι) (c : π) (sel sel' : NetSelection ι) : NetEdit π ι → Prop
  | .removeSet arg copied removed => removed.ok = true →
      ∀ set ∈ (sel.targetSet lib c copied arg).1, sel.netSet = some set →
        sel'.netSet = none ∧ sel'.netService = none ∧ sel'.netProtocol = none
  | .removeService arg copied removed => removed.ok = true →
      ∀ service ∈ (sel.targetService lib c copied arg).1, ∀ selected ∈ sel.netService,
        service.id = selected.id → sel'.netService = none ∧ sel'.netProtocol = none
  | .removeProtocol arg copied removed => removed.ok = true →
      ∀ protocol ∈ (sel.targetProtocol lib c copied arg).1, ∀ selected ∈ sel.netProtocol,
        protocol.service.id = selected.service.id → protocol.type = selected.type →
        sel'.netProtocol = none
  | _ => True

/-- Nothing that is selected is gone along a run, what is removed is deselected, and no removal
compares with `NULL`. -/
structure SelectionsStand (lib : NetLibrary π ι) (commands : List (NetCommand π ν ι)) : Prop where
  standing : ∀ before after, commands = before ++ after → ∀ d ∈ (netRun lib before).prefs,
    Standing (lib.objects d.current) (netRun lib before).selection
  deselects : ∀ before e after, commands = before ++ .edit e :: after →
    (netRun lib before).selection.fault = none → ∀ d ∈ (netRun lib before).prefs,
    Deselects lib d.current (netRun lib before).selection
      (netStep lib (netRun lib before) (.edit e)).selection e
  compares : ∀ before after, commands = before ++ after →
    (netRun lib before).selection.fault ≠ some .comparedNull

/-! ## The condition -/

/-- A set is removed while another one is selected. While no service is selected, none is removed
whose protocols are selected or listed; and one whose ID is changed is listed as the object that
is selected. -/
def NetCall.KeepsStanding (sel : NetSelection ι) (name : NetCall) (a : Attempt π) : Prop :=
  a.ok = true →
    match name with
    | .setRemove set => ∃ selected ∈ sel.netSet, selected ≠ set
    | .serviceRemove service =>
        sel.netService = none → ∀ p, sel.HoldsProtocol p → p.service.id ≠ service
    | .serviceSetServiceID service id => id ≠ service → sel.ListsOnce service
    | _ => True

/-- What is selected and listed exists, and the protocols are of the selected service. -/
structure Live (o : NetObjects) (sel : NetSelection ι) : Prop where
  netSet : ∀ set ∈ sel.netSet, set ∈ o.sets
  sets : ∀ l ∈ sel.sets, ∀ set ∈ l, set ∈ o.sets
  services : ∀ r, sel.Holds r → r.id ∈ o.services
  protocols : ∀ p, sel.HoldsProtocol p → p.type ∈ o.protocols p.service.id
  owner : ∀ service ∈ sel.netService, ∀ p, sel.HoldsProtocol p → p.service = service

/-- What a command has to keep to. -/
def NetCommand.KeepsStanding (lib : NetLibrary π ι) (s : NetState π ν ι) :
    NetCommand π ν ι → Prop
  | .edit e => ∀ d ∈ s.prefs,
      (scriptOf lib d.current s.selection e).Along (fun sel name _ a => name.KeepsStanding sel a)
        d.current
  | .clean _ cleaned _ => s.prefs.isSome → Live (lib.objects cleaned.left) s.selection
  | .upgrade arg _ upgraded _ => s.prefs.isSome → arg ≠ some interfacesDefaultConfigPlist →
      Live (lib.objects upgraded.left) s.selection
  | _ => True

/-! ## One move -/

/-- What is known of each call. -/
def StandingCall (lib : NetLibrary π ι) (sel : NetSelection ι) (name : NetCall) (c : π)
    (a : Attempt π) : Prop :=
  name.Does lib sel c a ∧ name.KeepsStanding sel a

namespace Live

variable {o o' : NetObjects} {sel sel' : NetSelection ι}

/-- What is selected and there stands. -/
theorem standing (h : Live o sel) : Standing o sel where
  netSet := h.netSet
  netService service hservice := h.services service (.inl hservice)
  netProtocol p hp := ⟨h.services _ (.of_netProtocol hp), h.protocols p (.inl hp)⟩

/-- Nothing that is selected or listed is gone. -/
theorem of_objects (h : Live o sel) (hsets : o.sets ⊆ o'.sets) (hservices : o.services ⊆ o'.services)
    (hprotocols : ∀ p, sel.HoldsProtocol p →
      o.protocols p.service.id ⊆ o'.protocols p.service.id) : Live o' sel where
  netSet set hset := hsets (h.netSet set hset)
  sets l hl set hset := hsets (h.sets l hl set hset)
  services r hr := hservices (h.services r hr)
  protocols p hp := hprotocols p hp (h.protocols p hp)
  owner := h.owner

/-- More objects do no harm. -/
theorem grow (h : Live o sel) (hgrows : o.Grows o') : Live o' sel :=
  h.of_objects hgrows.sets hgrows.services fun p hp =>
    hgrows.protocols p.service.id (h.services _ hp.holds)

/-- Less is selected and listed. -/
theorem of_selection (h : Live o sel) (hnetSet : ∀ set ∈ sel'.netSet, set ∈ o.sets)
    (hsets : ∀ l ∈ sel'.sets, ∀ set ∈ l, set ∈ o.sets)
    (hservice : ∀ service ∈ sel'.netService, service ∈ sel.netService)
    (hservices : ∀ l ∈ sel'.services, l ∈ sel.services)
    (hprotocol : ∀ p ∈ sel'.netProtocol, sel.HoldsProtocol p)
    (hprotocols : ∀ l ∈ sel'.protocols, l ∈ sel.protocols) : Live o sel' := by
  have hholds : ∀ p, sel'.HoldsProtocol p → sel.HoldsProtocol p := by
    rintro p (hp | ⟨l, hl, hp⟩)
    · exact hprotocol p hp
    · exact .inr ⟨l, hprotocols l hl, hp⟩
  refine ⟨hnetSet, hsets, ?_, fun p hp => h.protocols p (hholds p hp),
    fun service hs p hp => h.owner service (hservice service hs) p (hholds p hp)⟩
  rintro r (hr | ⟨l, hl, hr⟩ | ⟨p, hp, rfl⟩ | ⟨l, hl, p, hp, rfl⟩)
  · exact h.services r (.inl (hservice r hr))
  · exact h.services r (.of_services (hservices l hl) hr)
  · exact h.services _ (hholds p (.inl hp)).holds
  · exact h.services _ (hholds p (.inr ⟨l, hl, hp⟩)).holds

/-- No service is selected any more. -/
theorem deselectService (h : Live o sel) : Live o sel.deselectService :=
  h.of_selection h.netSet h.sets (fun _ hnone => by cases hnone) (fun _ => id)
    (fun _ hnone => by cases hnone) (fun _ => id)

theorem of_sets (h : Live o sel) {netSet : Option String} {sets : Option (List String)}
    (hnetSet : ∀ set ∈ netSet, set ∈ o.sets) (hsets : ∀ l ∈ sets, ∀ set ∈ l, set ∈ o.sets) :
    Live o { sel with netSet := netSet, sets := sets } :=
  h.of_selection hnetSet hsets (fun _ => id) (fun _ => id) (fun _ => .inl) (fun _ => id)

/-- A list of services that there are. -/
theorem listServices (h : Live o sel) {all : Bool} {ids : List String}
    (hids : ∀ id ∈ ids, id ∈ o.services) : Live o (sel.listServices all ids) where
  netSet := h.netSet
  sets := h.sets
  services := by
    rintro r (hr | ⟨l, hl, hr⟩ | hr | hr)
    · exact h.services r (.inl hr)
    · obtain rfl := Option.some.inj hl
      exact hids r.id (NetSelection.id_mem_of_mem_newServices hr)
    · exact h.services r (.inr (.inr (.inl hr)))
    · exact h.services r (.inr (.inr (.inr hr)))
  protocols := h.protocols
  owner := h.owner

/-- The protocols of the selected service are listed. -/
theorem listProtocols (h : Live o sel) {service : ServiceRef}
    (hservice : sel.netService = some service) :
    Live o (sel.listProtocols service (o.protocols service.id)) where
  netSet := h.netSet
  sets := h.sets
  services := by
    rintro r (hr | hr | hr | ⟨l, hl, p, hp, rfl⟩)
    · exact h.services r (.inl hr)
    · exact h.services r (.inr (.inl hr))
    · exact h.services r (.inr (.inr (.inl hr)))
    · obtain rfl := Option.some.inj hl
      obtain ⟨type, -, rfl⟩ := List.mem_map.mp hp
      exact h.services service (.inl hservice)
  protocols := by
    rintro p (hp | ⟨l, hl, hp⟩)
    · exact h.protocols p (.inl hp)
    · obtain rfl := Option.some.inj hl
      obtain ⟨type, htype, rfl⟩ := List.mem_map.mp hp
      exact htype
  owner := by
    rintro selected hselected p (hp | ⟨l, hl, hp⟩)
    · exact h.owner selected hselected p (.inl hp)
    · obtain rfl := Option.some.inj hl
      obtain ⟨type, -, rfl⟩ := List.mem_map.mp hp
      exact Option.some.inj (hservice.symm.trans hselected)

/-- The sets that were listed before do not matter. -/
theorem refreshSets {c : π} (h : Live (lib.objects c) { sel with sets := none }) (copied : Bool)
    (id : String) : Live (lib.objects c) (sel.refreshSets lib c copied id) := by
  rcases sel.refreshSets_cases lib c copied id with ⟨hnone, heq⟩ | heq | ⟨found, heq, -, hfound⟩
  · rw [heq]
    rwa [← hnone] at h
  · rw [heq]
    exact h.of_sets (fun _ hnone => by cases hnone) (fun _ hnone => by cases hnone)
  · rw [heq]
    have hsets : ∀ l ∈ some (lib.sets c), ∀ set ∈ l, set ∈ (lib.objects c).sets := by
      intro l hl set hset
      obtain rfl := Option.some.inj hl
      exact hset
    exact h.of_sets hfound hsets

/-- No protocols are selected or listed. -/
theorem of_no_protocols (hnetSet : ∀ set ∈ sel.netSet, set ∈ o.sets)
    (hsets : ∀ l ∈ sel.sets, ∀ set ∈ l, set ∈ o.sets)
    (hservice : ∀ service ∈ sel.netService, service.id ∈ o.services)
    (hservices : ∀ l ∈ sel.services, ∀ r ∈ l.refs, r.id ∈ o.services)
    (hprotocol : sel.netProtocol = none) (hprotocols : sel.protocols = none) : Live o sel := by
  have hnone : ∀ p, ¬ sel.HoldsProtocol p := by
    rintro p (hp | ⟨l, hl, -⟩)
    · exact absurd (hprotocol.symm.trans hp) (by simp)
    · exact absurd (hprotocols.symm.trans hl) (by simp)
  refine ⟨hnetSet, hsets, ?_, fun p hp => absurd hp (hnone p),
    fun _ _ p hp => absurd hp (hnone p)⟩
  rintro r (hr | ⟨l, hl, hr⟩ | ⟨p, hp, -⟩ | ⟨l, hl, p, hp, -⟩)
  · exact hservice r hr
  · exact hservices l hl r hr
  · exact absurd (.inl hp) (hnone p)
  · exact absurd (.inr ⟨l, hl, hp⟩) (hnone p)

/-- The protocols of a service change, and none are listed any more. -/
theorem setProtocols (h : Live o sel) {service : String} {types : List String}
    {selected : Option ProtocolRef}
    (hselected : ∀ p ∈ selected, p.service.id ∈ o.services ∧ p.service.id = service ∧
      p.type ∈ types ∧ ∀ s ∈ sel.netService, p.service = s) :
    Live (o.setProtocols service types) { sel with netProtocol := selected, protocols := none } := by
  have hholds : ∀ p, NetSelection.HoldsProtocol
      { sel with netProtocol := selected, protocols := none } p → p ∈ selected := by
    rintro p (hp | ⟨l, hl, hp⟩)
    · exact hp
    · cases hl
  refine ⟨h.netSet, h.sets, ?_, fun p hp => ?_, fun s hs p hp => ?_⟩
  · rintro r (hr | ⟨l, hl, hr⟩ | ⟨p, hp, rfl⟩ | ⟨l, hl, hr⟩)
    · exact h.services r (.inl hr)
    · exact h.services r (.of_services hl hr)
    · exact (hselected p hp).1
    · cases hl
  · obtain ⟨-, hid, htype, -⟩ := hselected p (hholds p hp)
    simpa [NetObjects.setProtocols, hid] using htype
  · exact (hselected p (hholds p hp)).2.2.2 s hs

/-- What a call that fails leaves has all that is selected and listed. -/
theorem of_fails {name : NetCall} {c : π} {a : Attempt π} (h : Live (lib.objects c) sel)
    (hdoes : name.Does lib sel c a) (hfail : a.ok = false) : Live (lib.objects a.left) sel := by
  rcases hdoes.objects_of_fail hfail with hleft | ⟨id, hunused, hleft⟩ | ⟨id, types, hunused, hleft⟩
  · exact hleft ▸ h
  · rw [hleft]
    exact h.of_objects (Set.subset_insert _ _) subset_rfl fun _ _ => List.Subset.refl _
  · rw [hleft]
    refine h.of_objects subset_rfl (Set.subset_insert _ _) fun p hp => ?_
    have hne : p.service.id ≠ id := hunused.refs p.service hp.holds
    simp [NetObjects.leaveService, hne]

end Live

/-- A protocol that is held after a change of ID is held before. -/
theorem NetSelection.holdsProtocol_renameService {sel : NetSelection ι} {object : Nat} {id : String}
    {p : ProtocolRef} (h : (sel.renameService object id).HoldsProtocol p) :
    ∃ p', sel.HoldsProtocol p' ∧
      p = ⟨if p'.service.object = object then ⟨object, id⟩ else p'.service, p'.type⟩ := by
  rcases h with hp | ⟨l, hl, hp⟩
  · obtain ⟨p', hp', rfl⟩ := Option.map_eq_some_iff.mp hp
    exact ⟨p', .inl hp', rfl⟩
  · obtain ⟨l', hl', rfl⟩ := Option.map_eq_some_iff.mp hl
    obtain ⟨p', hp', rfl⟩ := List.mem_map.mp hp
    exact ⟨p', .inr ⟨l', hl', hp'⟩, rfl⟩

/-- A service has a new ID, under which it is selected and listed. -/
theorem Live.renameService {o : NetObjects} {sel : NetSelection ι} (h : Live o sel)
    {service : ServiceRef} (hservice : sel.netService = some service) {id : String}
    (hlisted : id ≠ service.id → sel.ListsOnce service.id) :
    Live (o.renameService service.id id) (sel.renameService service.object id) where
  netSet := h.netSet
  sets := h.sets
  services r hr := by
    obtain ⟨r', hr', rfl⟩ := NetSelection.holds_renameService hr
    split_ifs with hobject
    · exact Set.mem_insert _ _
    · by_cases hid : id = service.id
      · rw [hid]
        by_cases hsame : r'.id = service.id
        · exact .inl hsame
        · exact .inr ⟨h.services r' hr', hsame⟩
      · refine .inr ⟨h.services r' hr', fun hsame => hobject ?_⟩
        rcases hr' with hr' | ⟨l, hl, hr'⟩ | ⟨p, hp, rfl⟩ | ⟨l, hl, p, hp, rfl⟩
        · rw [Option.some.inj (hservice.symm.trans hr')]
        · exact hlisted hid l hl r' hr' hsame service hservice
        · rw [h.owner service hservice p (.inl hp)]
        · rw [h.owner service hservice p (.inr ⟨l, hl, hp⟩)]
  protocols p hp := by
    obtain ⟨p', hp', rfl⟩ := NetSelection.holdsProtocol_renameService hp
    rw [if_pos (by rw [h.owner service hservice p' hp'])]
    have htype := h.protocols p' hp'
    rw [h.owner service hservice p' hp'] at htype
    simpa [NetObjects.renameService] using htype
  owner selected hselected p hp := by
    obtain ⟨p', hp', rfl⟩ := NetSelection.holdsProtocol_renameService hp
    obtain ⟨selected', hselected', rfl⟩ := Option.map_eq_some_iff.mp hselected
    rw [h.owner selected' hselected' p' hp']

/-- **One move** leaves everything that is selected and listed. -/
theorem live_of_move (hlib : lib.Lawful) {c c' : π} {sel sel' : NetSelection ι}
    {K : NetSelection ι → π → String → Prop}
    (hmove : NetMove lib (StandingCall lib) K (c, sel) (c', sel'))
    (h : Live (lib.objects c) sel) : Live (lib.objects c') sel' := by
  cases hmove with
  | listSets =>
    refine h.of_sets h.netSet fun l hl set hset => ?_
    obtain rfl := Option.some.inj hl
    exact hset
  | listAllServices => exact h.listServices fun id hid => hid
  | @listServices _ _ set hset ids hids =>
    refine h.listServices fun id hid => hlib.setServices c set id ?_
    rcases hids with rfl | rfl
    · exact hid
    · exact (hlib.orderedServices c set id).mp hid
  | unlistServices =>
    exact h.of_selection h.netSet h.sets (fun _ => id) (fun _ hnone => by cases hnone)
      (fun _ => .inl) (fun _ => id)
  | listProtocols hservice => exact h.listProtocols hservice
  | unlistProtocols =>
    exact h.of_selection h.netSet h.sets (fun _ => id) (fun _ => id) (fun _ => .inl)
      (fun _ hnone => by cases hnone)
  | selectSet hl hset hK =>
    refine h.deselectService.of_sets (fun set hset' => ?_) h.sets
    obtain rfl := Option.some.inj hset'
    exact h.sets _ hl _ hset
  | selectService hl hservice =>
    refine .of_no_protocols h.netSet h.sets (fun service hs => ?_)
      (fun l hl r hr => h.services r (.of_services hl hr)) rfl rfl
    obtain rfl := Option.some.inj hs
    exact h.services _ (.of_services hl hservice)
  | @selectProtocol _ _ l protocol hl hprotocol =>
    refine h.of_selection h.netSet h.sets (fun _ => id) (fun _ => id) (fun p hp => ?_) (fun _ => id)
    obtain rfl := Option.some.inj hp
    exact .inr ⟨l, hl, hprotocol⟩
  | countsNull =>
    exact h.of_selection h.netSet h.sets (fun _ => id) (fun _ => id) (fun _ => .inl) (fun _ => id)
  | fails hD hfail => exact h.of_fails hD.1 hfail
  | @createSet _ _ id a hD hok =>
    obtain ⟨⟨-, hleft⟩, -⟩ := hD
    rw [hleft.resolve_right (by simp [hok])]
    have hgrown : Live ((lib.objects c).createSet id) _ :=
      h.of_objects (Set.subset_insert _ _) subset_rfl fun _ _ => List.Subset.refl _
    refine hgrown.deselectService.of_sets (fun set hset => ?_) (fun _ hnone => by cases hnone)
    obtain rfl := Option.some.inj hset
    exact Set.mem_insert _ _
  | @removeSet _ _ set selected a hD hok hselected hne =>
    have hleft : lib.objects a.left = _ := hD.1.trans (if_pos hok)
    rw [hleft]
    have hkept : Live (lib.objects c) { sel with sets := none } :=
      h.of_sets h.netSet (fun _ hnone => by cases hnone)
    refine ⟨fun set' hset' => ⟨h.netSet set' hset', fun heq => ?_⟩,
      fun _ hnone => (by cases hnone), hkept.services, hkept.protocols, hkept.owner⟩
    obtain rfl := Option.some.inj (hselected.symm.trans hset')
    exact hne heq.symm
  | removeSelectedSet hD hok hselected =>
    obtain ⟨selected, hselected', hne⟩ := hD.2 hok
    exact absurd (Option.some.inj (hselected'.symm.trans hselected)) hne
  | comparesNull hD hok hselected =>
    obtain ⟨selected, hselected', -⟩ := hD.2 hok
    exact absurd (hselected'.symm.trans hselected) (by simp)
  | @nameSet _ _ set a copied hD hok hset =>
    obtain ⟨⟨-, hleft⟩, -⟩ := hD
    have hkept : Live (lib.objects a.left) sel := hleft ▸ h
    exact (hkept.of_sets hkept.netSet fun _ hnone => by cases hnone).refreshSets copied set
  | @renameSet _ _ set id a copied hD hok hset =>
    obtain ⟨⟨-, hleft⟩, -⟩ := hD
    rw [if_pos hok] at hleft
    have hselected : Live (lib.objects a.left) { sel with netSet := some id, sets := none } := by
      rw [hleft]
      refine ⟨fun set' hset' => ?_, fun _ hnone => (by cases hnone), h.services, h.protocols,
        h.owner⟩
      obtain rfl := Option.some.inj hset'
      exact Set.mem_insert _ _
    exact hselected.refreshSets copied id
  | createService hD hok hset =>
    obtain ⟨⟨-, types, hleft⟩, -⟩ := hD
    rw [if_pos hok] at hleft
    rw [hleft]
    refine .of_no_protocols h.netSet h.sets (fun service hs => ?_) (fun _ hnone => by cases hnone)
      rfl rfl
    obtain rfl := Option.some.inj hs
    exact Set.mem_insert _ _
  | adjust hD hok hadjusts => exact hD.1.objects_of_adjusts hadjusts ▸ h
  | @removeService _ _ service a hD hok hselected =>
    have hleft : lib.objects a.left = _ := hD.1.trans (if_pos hok)
    rw [hleft]
    -- the protocols are of another service
    have hothers : ∀ p, sel.HoldsProtocol p → p.service.id ≠ service := by
      intro p hp
      cases hservice : sel.netService with
      | none => exact hD.2 hok hservice p hp
      | some selected => exact h.owner selected hservice p hp ▸ hselected selected hservice
    refine ⟨h.netSet, h.sets, ?_, fun p hp => ?_, h.owner⟩
    · rintro r (hr | ⟨l, hl, -⟩ | ⟨p, hp, rfl⟩ | ⟨l, hl, p, hp, rfl⟩)
      · exact ⟨h.services r (.inl hr), hselected r hr⟩
      · cases hl
      · exact ⟨h.services _ (.of_netProtocol hp), hothers p (.inl hp)⟩
      · exact ⟨h.services _ (.of_protocols hl hp), hothers p (.inr ⟨l, hl, hp⟩)⟩
    · have htype := h.protocols p hp
      rwa [← Function.update_of_ne (hothers p hp) [] (lib.objects c).protocols] at htype
  | removeSelectedService hD hok hselected hid =>
    have hleft : lib.objects _ = _ := hD.1.trans (if_pos hok)
    rw [hleft]
    exact .of_no_protocols h.netSet h.sets (fun _ hnone => by cases hnone)
      (fun _ hnone => by cases hnone) rfl rfl
  | renameService hD hok hservice =>
    obtain ⟨⟨-, hleft⟩, hkeeps⟩ := hD
    rw [if_pos hok] at hleft
    rw [hleft]
    exact h.renameService hservice (hkeeps hok)
  | @addProtocol _ _ service type a selected hD hok hservice hselected =>
    obtain ⟨hdoes, -⟩ := hD
    simp only [NetCall.Does, hok, if_true] at hdoes
    obtain ⟨types, htypes, hleft⟩ := hdoes
    rw [hleft]
    refine h.setProtocols fun p hp => ?_
    obtain rfl := hselected p hp
    exact ⟨h.services service (.inl hservice), rfl, (htypes type).mpr (.inl rfl),
      fun s hs => Option.some.inj (hservice.symm.trans hs)⟩
  | @removeProtocol _ _ protocol a selected hD hok htarget hselected =>
    obtain ⟨hdoes, -⟩ := hD
    rcases Option.eq_none_or_eq_some sel.netService with hservice | ⟨service, hservice⟩
    · rw [hservice] at hdoes
      exact absurd (hok.symm.trans hdoes.1) (by simp)
    · rw [hservice] at hdoes
      have hleft : lib.objects a.left = _ := hdoes.trans (if_pos hok)
      rw [hleft]
      refine h.setProtocols fun p hp => ?_
      obtain ⟨hp, hne⟩ := hselected p hp
      have howner := h.owner service hservice p (.inl hp)
      have htarget := h.owner service hservice protocol htarget
      rw [howner, htarget] at hne
      have htype := h.protocols p (.inl hp)
      rw [howner] at htype
      refine ⟨h.services _ (.of_netProtocol hp), by rw [howner], ?_, fun s hs => ?_⟩
      · refine List.mem_filter.mpr ⟨htype, decide_eq_true fun heq => ?_⟩
        exact (hne.resolve_left (not_not.mpr rfl)) heq.symm
      · exact howner.trans (Option.some.inj (hservice.symm.trans hs))

/-- No move compares with `NULL`. -/
theorem compares_of_move {c c' : π} {sel sel' : NetSelection ι}
    {K : NetSelection ι → π → String → Prop}
    (hmove : NetMove lib (StandingCall lib) K (c, sel) (c', sel'))
    (h : sel.fault ≠ some .comparedNull) : sel'.fault ≠ some .comparedNull := by
  cases hmove with
  | comparesNull hD hok hselected =>
    obtain ⟨selected, hselected', -⟩ := hD.2 hok
    exact absurd (hselected'.symm.trans hselected) (by simp)
  | countsNull => exact fun heq => by cases heq
  | @nameSet _ _ set a copied hD hok hset =>
    rcases sel.refreshSets_cases lib a.left copied set with ⟨-, heq⟩ | heq | ⟨found, heq, -⟩
    all_goals rwa [heq]
  | @renameSet _ _ set id a copied hD hok hset =>
    rcases ({ sel with netSet := some id } : NetSelection ι).refreshSets_cases lib a.left copied id
      with ⟨-, heq⟩ | heq | ⟨found, heq, -⟩
    all_goals rwa [heq]
  | listSets | listAllServices | listServices | unlistServices | listProtocols | unlistProtocols
  | selectSet | selectService | selectProtocol | fails | createSet | removeSet | removeSelectedSet
  | createService | adjust | removeService | removeSelectedService | renameService | addProtocol
  | removeProtocol => exact h

/-! ## Removing -/

theorem NetSelection.targetSet_netSet (sel : NetSelection ι) (lib : NetLibrary π ι) (c : π)
    (copied : Bool)
    (arg : Option String) : (sel.targetSet lib c copied arg).2.netSet = sel.netSet := by
  cases arg with
  | none => rfl
  | some arg =>
    simp only [targetSet, findSet]
    split
    · rfl
    · split_ifs <;> rfl

theorem NetSelection.targetService_netService (sel : NetSelection ι) (lib : NetLibrary π ι) (c : π)
    (copied : Bool)
    (arg : Option String) : (sel.targetService lib c copied arg).2.netService = sel.netService := by
  cases arg with
  | none => rfl
  | some arg =>
    simp only [targetService, findService]
    split
    · rfl
    · split
      · rfl
      · split_ifs <;> rfl

theorem NetSelection.targetProtocol_netProtocol (sel : NetSelection ι) (lib : NetLibrary π ι) (c : π)
    (copied : Bool)
    (arg : Option String) :
    (sel.targetProtocol lib c copied arg).2.netProtocol = sel.netProtocol := by
  cases arg with
  | none => rfl
  | some arg =>
    simp only [targetProtocol, findProtocol]
    split
    · rfl
    · split
      · rfl
      · split_ifs <;> rfl

/-- What a command removes is deselected. -/
theorem deselects_outcome {c : π} {sel : NetSelection ι} (e : NetEdit π ι)
    (h : (scriptOf lib c sel e).Along (fun sel name _ a => name.KeepsStanding sel a) c) :
    Deselects lib c sel ((scriptOf lib c sel e).outcome c).2 e := by
  cases e with
  | removeSet arg copied removed =>
    intro hok set hset hselected
    have hnetSet := sel.targetSet_netSet lib c copied arg
    simp only [scriptOf, removeSet] at h
    generalize sel.targetSet lib c copied arg = r at h hset hnetSet
    obtain ⟨target, sel'⟩ := r
    obtain rfl := hset
    -- the condition excludes it
    obtain ⟨selected, hselected', hne⟩ := h.1 hok
    exact absurd (Option.some.inj ((hnetSet.symm.trans hselected').symm.trans hselected)) hne
  | removeService arg copied removed =>
    intro hok service hservice selected hselected hid
    have hnetService := sel.targetService_netService lib c copied arg
    simp only [scriptOf, removeService]
    generalize sel.targetService lib c copied arg = r at hservice hnetService
    obtain ⟨target, sel'⟩ := r
    obtain rfl := hservice
    have hany : sel'.netService.any fun x => decide (service.id = x.id) :=
      (Option.any_eq_true _ _).mpr ⟨selected, hnetService.trans hselected, decide_eq_true hid⟩
    simp only [Script.outcome, hok, if_true, hany]
    exact ⟨rfl, rfl⟩
  | removeProtocol arg copied removed =>
    intro hok protocol hprotocol selected hselected hid htype
    have hnetProtocol := sel.targetProtocol_netProtocol lib c copied arg
    simp only [scriptOf, removeProtocol]
    generalize sel.targetProtocol lib c copied arg = r at hprotocol hnetProtocol
    obtain ⟨target, sel'⟩ := r
    obtain rfl := hprotocol
    have hany : sel'.netProtocol.any fun x =>
        decide (protocol.service.id = x.service.id ∧ protocol.type = x.type) :=
      (Option.any_eq_true _ _).mpr
        ⟨selected, hnetProtocol.trans hselected, decide_eq_true ⟨hid, htype⟩⟩
    simp only [Script.outcome, hok, if_true, hany]
  | createSet | selectSet | setSet | showSet | showSets | createService | setServiceEnabled
  | selectService | setService | showService | showServices | createProtocol | setProtocolEnabled
  | selectProtocol | showProtocol | showProtocols => trivial

/-! ## Runs -/

/-- What is selected and listed exists; while nothing is open, nothing is selected or listed. -/
structure StandingKept (lib : NetLibrary π ι) (s : NetState π ν ι) : Prop where
  live : ∀ d ∈ s.prefs, Live (lib.objects d.current) s.selection
  closed : s.prefs = none → ∀ o, Live o s.selection
  compares : s.selection.fault ≠ some .comparedNull

theorem live_empty (o : NetObjects) (n : ℕ) : Live o (NetSelection.empty n : NetSelection ι) :=
  .of_no_protocols (fun _ h => by cases h) (fun _ h => by cases h) (fun _ h => by cases h)
    (fun _ h => by cases h) rfl rfl

theorem standingKept_initial : StandingKept lib (.initial : NetState π ν ι) where
  live d hd := by cases hd
  closed _ o := live_empty o 0
  compares h := by cases h

namespace StandingKept

variable {s : NetState π ν ι}

/-- Several moves keep what is selected, as each does. -/
theorem moves (hlib : lib.Lawful) {K : NetSelection ι → π → String → Prop}
    {p p' : π × NetSelection ι} (hmoves : NetMoves lib (StandingCall lib) K p p')
    (h : Live (lib.objects p.1) p.2) (hcompares : p.2.fault ≠ some .comparedNull) :
    Live (lib.objects p'.1) p'.2 ∧ p'.2.fault ≠ some .comparedNull := by
  induction hmoves with
  | refl => exact ⟨h, hcompares⟩
  | tail _ hmove ih => exact ⟨live_of_move hlib hmove ih.1, compares_of_move hmove ih.2⟩

/-- The sessions are closed. -/
theorem close (s : NetState π ν ι) : StandingKept lib s.netClose.prefsClose where
  live d hd := by cases hd
  closed _ o := live_empty o _
  compares h := by cases h

/-- The current set is selected. -/
theorem prefsOpen (hlib : lib.Lawful) (h : StandingKept lib s) (hclosed : s.prefs = none)
    (path : Option String) (opened : Option π) :
    StandingKept lib (s.prefsOpen lib path opened) := by
  cases opened with
  | none => exact ⟨h.live, h.closed, h.compares⟩
  | some c =>
    refine ⟨fun d hd => ?_, fun hnone => (by cases hnone), h.compares⟩
    obtain rfl := Option.some.inj hd
    have hnothing := h.closed hclosed (lib.objects c)
    exact hnothing.of_sets (fun set hset => hlib.currentSet c set hset) hnothing.sets

/-- The selection stays, and what is selected and listed still exists. -/
theorem of_selection (h : StandingKept lib s) {s' : NetState π ν ι}
    (hselection : s'.selection = s.selection)
    (hprefs : ∀ d' ∈ s'.prefs, Live (lib.objects d'.current) s.selection)
    (hopen : s'.prefs = none → s.prefs = none) : StandingKept lib s' :=
  ⟨fun d hd => hselection ▸ hprefs d hd, fun hnone => hselection ▸ h.closed (hopen hnone),
    hselection ▸ h.compares⟩

/-- Setting a configuration removes no object. -/
theorem setConfiguration (hlib : lib.Lawful) (h : StandingKept lib s)
    (target : Option (SetTarget ι)) (command : SetCommand) (args : List String) :
    StandingKept lib (s.setConfiguration lib target command args) := by
  unfold NetState.setConfiguration
  split
  next d target hd =>
    refine h.of_selection rfl (fun d' hd' => ?_) (fun hnone => by cases hnone)
    obtain rfl := Option.some.inj hd'
    have hsame := hlib.configured d.current target
    exact hsame _ ▸ h.live d hd
  · exact h

/-- An edit whose calls keep what is selected keeps it. -/
theorem edit (hlib : lib.Lawful) (h : StandingKept lib s) {e : NetEdit π ι}
    (hdoes : (NetCommand.edit e : NetCommand π ν ι).Documented lib s)
    (hkeeps : (NetCommand.edit e : NetCommand π ν ι).KeepsStanding lib s) :
    StandingKept lib (s.edit lib e) := by
  cases hd : s.prefs with
  | none => simpa [NetState.edit, hd] using h
  | some d =>
    obtain ⟨d', hd', houtcome⟩ := NetState.edit_eq lib hd e
    have hselects : e.Selects lib (fun _ _ _ => True) d.current s.selection := by
      cases e <;> first | trivial | exact fun _ _ => trivial
    have hmoves := edit_moves e ((hdoes d hd).and (hkeeps d hd)) hselects
    obtain ⟨hlive, hcompares⟩ := moves hlib hmoves (h.live d hd) h.compares
    rw [← houtcome] at hlive hcompares
    refine ⟨fun d₂ hd₂ => ?_, fun hnone => ?_, hcompares⟩
    · obtain rfl := Option.some.inj (hd'.symm.trans hd₂)
      exact hlive
    · rw [hd'] at hnone
      cases hnone

/-- A set may be created and is selected then, and a set may get new services. -/
theorem doNetUpdate (h : StandingKept lib s) {id : String} {created updated : Attempt π}
    (hdoes : (NetCommand.update id created updated : NetCommand π ν ι).Documented lib s) :
    StandingKept lib (s.doNetUpdate lib id created updated) := by
  cases hd : s.prefs with
  | none => simpa [NetState.doNetUpdate, hd] using h
  | some d =>
    have hdoes := hdoes d hd
    have hlive := h.live d hd
    simp only [NetState.doNetUpdate, hd]
    split_ifs at hdoes ⊢ with hset hok
    · refine h.of_selection rfl (fun d' hd' => ?_) (fun hnone => by cases hnone)
      obtain rfl := Option.some.inj hd'
      exact hlive.grow hdoes
    · obtain ⟨⟨hunused, hleft⟩, hgrows⟩ := hdoes
      have hgrows := hgrows hok
      rw [hleft.resolve_right (by simp [hok])] at hgrows
      have hcreated : Live ((lib.objects d.current).createSet id) _ :=
        hlive.of_objects (Set.subset_insert _ _) subset_rfl fun _ _ => List.Subset.refl _
      have hselected : Live ((lib.objects d.current).createSet id)
          { s.selection with netSet := some id, sets := none } := by
        refine hcreated.of_sets (fun set hset => ?_) (fun _ hnone => by cases hnone)
        obtain rfl := Option.some.inj hset
        exact Set.mem_insert _ _
      refine ⟨fun d' hd' => ?_, fun hnone => (by cases hnone), h.compares⟩
      obtain rfl := Option.some.inj hd'
      exact hselected.grow hgrows
    · refine h.of_selection rfl (fun d' hd' => ?_) (fun hnone => by cases hnone)
      obtain rfl := Option.some.inj hd'
      exact hlive.of_fails hdoes.1 (by simpa using hok)

end StandingKept

/-- **One command** leaves everything that is selected and listed. -/
theorem netStep_standingKept (hlib : lib.Lawful) {s : NetState π ν ι} (h : StandingKept lib s)
    {command : NetCommand π ν ι} (hdoes : command.Documented lib s)
    (hkeeps : command.KeepsStanding lib s) : StandingKept lib (netStep lib s command) := by
  unfold netStep
  split_ifs
  · exact h
  cases command with
  | opens interactive path opened =>
    simp only [NetState.doNetOpen]
    split_ifs with hprefs
    · exact h
    · exact (StandingKept.close s).prefsOpen hlib rfl path opened
    · exact h.prefsOpen hlib (Option.not_isSome_iff_eq_none.mp hprefs) path opened
  | commit ok =>
    simp only [NetState.doNetCommit]
    split
    · exact h
    next d hd =>
      split_ifs
      · refine h.of_selection rfl (fun d' hd' => ?_) (fun hnone => by cases hnone)
        obtain rfl := Option.some.inj hd'
        exact h.live d hd
      · exact h
  | close interactive arg | quit interactive arg =>
    simp only [NetState.doNetClose]
    split_ifs
    · exact h
    · exact .close s
  | edit e => exact h.edit hlib hdoes hkeeps
  | setInterface services args | setProtocol services args =>
    exact h.setConfiguration hlib _ _ args
  | createInterface i | selectInterface i =>
    have hselected : ∀ o, Live o s.selection → Live o { s.selection with
        netInterface := i.orElse fun _ => s.selection.netInterface } := fun o hlive =>
      hlive.of_selection hlive.netSet hlive.sets (fun _ => id) (fun _ => id) (fun _ => .inl)
        (fun _ => id)
    exact ⟨fun d hd => hselected _ (h.live d hd), fun hnone o => hselected o (h.closed hnone o),
      h.compares⟩
  -- what is selected has to outlive these, so it is asked for
  | clean created cleaned left =>
    cases hd : s.prefs with
    | none => simpa [NetState.doNetClean, hd] using h
    | some d =>
      simp only [NetState.doNetClean, hd]
      refine h.of_selection rfl (fun d' hd' => ?_) (fun hnone => by cases hnone)
      obtain rfl := Option.some.inj hd'
      exact hkeeps (by simp [hd])
  | update id created updated => exact h.doNetUpdate hdoes
  | upgrade arg created upgraded niLeft =>
    cases hd : s.prefs with
    | none => simpa [NetState.doNetUpgrade, hd] using h
    | some d =>
      have hlive := hkeeps (by simp [hd])
      have happlied : ∀ s' : NetState π ν ι, s'.selection = s.selection →
          s'.prefs = some (d.leave upgraded.left) → arg ≠ some interfacesDefaultConfigPlist →
          StandingKept lib s' := by
        intro s' hselection hprefs harg
        refine h.of_selection hselection (fun d' hd' => ?_) (fun hnone => ?_)
        · obtain rfl := Option.some.inj (hprefs.symm.trans hd')
          exact hlive harg
        · rw [hprefs] at hnone
          cases hnone
      simp only [NetState.doNetUpgrade, hd]
      split_ifs
      · exact h
      · split
        next plist =>
          split_ifs with hprefs hni
          · exact happlied _ rfl rfl (by simpa [hprefs] using by decide)
          · refine h.of_selection rfl (fun d' hd' => ?_) (fun hnone => by cases hnone)
            obtain rfl := Option.some.inj hd'
            exact h.live d hd
          · exact h
        · exact happlied _ rfl rfl (by simp)
  | apply | showInterfaces | migrate | snapshot => exact h

/-- **What is selected exists** along every run whose commands keep to it. -/
theorem netRun_selectionsStand (hlib : lib.Lawful) {commands : List (NetCommand π ν ι)}
    (h : Run.Steps (netStep lib) (fun s command =>
      command.Documented lib s ∧ command.KeepsStanding lib s) .initial commands) :
    SelectionsStand lib commands := by
  have hkept : ∀ before after, commands = before ++ after →
      StandingKept lib (netRun lib before) := by
    rintro before after rfl
    exact Run.Steps.inv (I := StandingKept lib) (fun s command hs hcommand =>
      netStep_standingKept hlib hs hcommand.1 hcommand.2) standingKept_initial h.split.1
  refine ⟨fun before after heq d hd => ((hkept before after heq).live d hd).standing, ?_,
    fun before after heq => (hkept before after heq).compares⟩
  rintro before e after rfl hfault d hd
  have hkeeps := h.split.2.1.2 d hd
  have hselection : (netStep lib (netRun lib before) (.edit e)).selection =
      ((scriptOf lib d.current (netRun lib before).selection e).outcome d.current).2 := by
    obtain ⟨d', -, houtcome⟩ := NetState.edit_eq lib hd e
    simp only [netStep, hfault, Option.isSome_none]
    exact congrArg Prod.snd houtcome
  rw [hselection]
  exact deselects_outcome e hkeeps

theorem servicesLibrary_removeSet :
    servicesLibrary.objects [("0", [])] =
      (servicesLibrary.objects [("0", []), ("1", [])]).removeSet "1" := by
  ext1
  · ext set
    simp only [NetLibrary.objects, NetObjects.removeSet, servicesLibrary]
    aesop
  · ext set id
    simp only [NetLibrary.objects, NetObjects.removeSet, servicesLibrary, Function.update_apply]
    aesop
  · ext id
    simp [NetLibrary.objects, NetObjects.removeSet, servicesLibrary]
  · funext id
    simp [NetLibrary.objects, NetObjects.removeSet, servicesLibrary]

/-- A service is selected and removed, and then a set that is not selected. -/
theorem selectionsStand_remove : SelectionsStand (ν := Unit) servicesLibrary
    [.opens true none (some [("0", ["a"]), ("1", [])]), .edit (.selectService "a" true),
      .edit (.removeService none true ⟨true, [("0", []), ("1", [])]⟩),
      .edit (.removeSet (some "1") true ⟨true, [("0", [])]⟩)] := by
  refine netRun_selectionsStand servicesLibrary_lawful
    ⟨⟨trivial, trivial⟩, ⟨?_, ?_⟩, ⟨?_, ?_⟩, ⟨?_, ?_⟩, trivial⟩
  all_goals
    intro d hd
    cases hd
  · exact trivial
  · exact trivial
  · exact ⟨servicesLibrary_removeService [("0", ["a"]), ("1", [])] "a", fun _ => trivial⟩
  · exact ⟨fun _ hnone => (by cases hnone), fun _ => trivial⟩
  · exact ⟨servicesLibrary_removeSet, fun _ => trivial⟩
  · exact ⟨fun _ => ⟨"0", rfl, by decide⟩, fun _ => trivial⟩

/-- `remove set` leaves the selected set selected; and with none selected it compares with
`NULL`. -/
theorem netRun_not_selectionsStand :
    ¬ SelectionsStand (ν := Unit) servicesLibrary
      [.opens true none (some [("0", []), ("1", [])]), .edit (.selectSet "1" true),
        .edit (.removeSet none true ⟨true, [("0", [])]⟩)] ∧
    ¬ SelectionsStand (ν := Unit) servicesLibrary
      [.opens true none (some [("1", [])]), .edit (.removeSet (some "1") true ⟨true, []⟩)] := by
  constructor
  · intro h
    have hmem := (h.standing _ [] (List.append_nil _).symm _ rfl).netSet "1" rfl
    have hsets : "1" ∈ servicesLibrary.sets [("0", [])] := hmem
    revert hsets
    decide
  · intro h
    exact h.compares _ [] (List.append_nil _).symm rfl

end ConfigdExtra
