import ConfigdExtra.NetFlag

/-!
# The objects behind a session of `scutil --net`

The sets, services and protocols of the preferences, and what the calls of the framework do to
them.

* `NetObjects` — which sets, services and protocols there are; its operations are what a call is
  for.
* `NetLibrary.objects` — those of the contents of the preferences.
* `NetCall.Does` — what the framework documents about a call.
* `NetSelection.Tidy` — service objects that are one object have one ID.
-/

namespace ConfigdExtra

open FlaggedEdits

/-! ## Sets, services and protocols -/

/-- The sets with their services, and the services with the types of their protocols. -/
@[ext]
structure NetObjects where
  sets : Set String
  members : String → Set String
  services : Set String
  protocols : String → List String

namespace NetObjects

variable (o : NetObjects)

/-- A new set -/
def createSet (id : String) : NetObjects :=
  { o with sets := insert id o.sets, members := Function.update o.members id ∅ }

/-- A set is gone; its services are not. -/
def removeSet (set : String) : NetObjects :=
  { o with sets := o.sets \ {set}, members := Function.update o.members set ∅ }

/-- A set has a new ID. -/
def renameSet (set id : String) : NetObjects :=
  { o with
    sets := insert id (o.sets \ {set})
    members := Function.update (Function.update o.members set ∅) id (o.members set) }

/-- A new service that is in no set -/
def leaveService (id : String) (types : List String) : NetObjects :=
  { o with
    services := insert id o.services
    protocols := Function.update o.protocols id types }

/-- A new service of a set -/
def createService (set id : String) (types : List String) : NetObjects :=
  { o.leaveService id types with
    members := Function.update o.members set (insert id (o.members set)) }

/-- A service is gone, from all sets. -/
def removeService (service : String) : NetObjects :=
  { o with
    services := o.services \ {service}
    members := fun set => o.members set \ {service}
    protocols := Function.update o.protocols service [] }

/-- A service has a new ID, in all sets. -/
def renameService (service id : String) : NetObjects :=
  { o with
    services := insert id (o.services \ {service})
    members := fun set =>
      {x | x ∈ o.members set ∧ x ≠ service ∨ x = id ∧ service ∈ o.members set}
    protocols := Function.update (Function.update o.protocols service []) id
      (o.protocols service) }

/-- A service has these protocols. -/
def setProtocols (service : String) (types : List String) : NetObjects :=
  { o with protocols := Function.update o.protocols service types }

/-- There are new objects, and nothing is gone. -/
structure Grows (o o' : NetObjects) : Prop where
  sets : o.sets ⊆ o'.sets
  services : o.services ⊆ o'.services
  protocols : ∀ service ∈ o.services, o.protocols service ⊆ o'.protocols service

end NetObjects

variable {π ν ι : Type}

/-- The objects in the contents of the preferences -/
def NetLibrary.objects (lib : NetLibrary π ι) (c : π) : NetObjects where
  sets := {id | id ∈ lib.sets c}
  members set := {id | id ∈ lib.setServices c set}
  services := {id | id ∈ lib.services c}
  protocols := lib.protocols c

/-- What is documented about reading and configuring. -/
structure NetLibrary.Lawful (lib : NetLibrary π ι) : Prop where
  /-- the current set is one of the sets -/
  currentSet : ∀ c, ∀ set ∈ lib.currentSet c, set ∈ lib.sets c
  /-- the services of a set are services -/
  setServices : ∀ c set, ∀ id ∈ lib.setServices c set, id ∈ lib.services c
  /-- sorting keeps the services of a set -/
  orderedServices : ∀ c set id, id ∈ lib.orderedServices c set ↔ id ∈ lib.setServices c set
  /-- a configuration is about one interface or protocol and leaves the objects -/
  configured : ∀ c target cs, lib.objects (lib.configured c target cs) = lib.objects c

/-! ## What is selected and listed -/

namespace NetSelection

variable {lib : NetLibrary π ι} {sel sel' : NetSelection ι}

/-- A service object that is selected or listed, or has a protocol that is. -/
def Holds (sel : NetSelection ι) (r : ServiceRef) : Prop :=
  r ∈ sel.netService ∨ (∃ l ∈ sel.services, r ∈ l.refs) ∨
    (∃ p ∈ sel.netProtocol, p.service = r) ∨ ∃ l ∈ sel.protocols, ∃ p ∈ l, p.service = r

/-- A protocol that is selected or listed -/
def HoldsProtocol (sel : NetSelection ι) (p : ProtocolRef) : Prop :=
  p ∈ sel.netProtocol ∨ ∃ l ∈ sel.protocols, p ∈ l

/-- Services are listed under an ID only as the object that is selected. -/
def ListsOnce (sel : NetSelection ι) (service : String) : Prop :=
  ∀ l ∈ sel.services, ∀ r ∈ l.refs, r.id = service →
    ∀ selected ∈ sel.netService, r.object = selected.object

/-- An ID that nothing selected or listed has. -/
structure Unused (sel : NetSelection ι) (id : String) : Prop where
  netSet : sel.netSet ≠ some id
  sets : ∀ l ∈ sel.sets, id ∉ l
  refs : ∀ r, sel.Holds r → r.id ≠ id

/-- Service objects are numbered, and one object has one ID. -/
structure Tidy (sel : NetSelection ι) : Prop where
  known : ∀ r, sel.Holds r → r.object < sel.objects
  same : ∀ r r', sel.Holds r → sel.Holds r' → r.object = r'.object → r.id = r'.id

/-- At the start nothing is selected or listed. -/
theorem tidy_empty (n : Nat) : (empty n : NetSelection ι).Tidy := by
  have hnone : ∀ r, ¬ (empty n : NetSelection ι).Holds r := by
    rintro r (h | ⟨l, h, -⟩ | ⟨p, h, -⟩ | ⟨l, h, -⟩) <;> cases h
  exact ⟨fun r h => absurd h (hnone r), fun r _ h => absurd h (hnone r)⟩

/-- Nothing new is held. -/
theorem Tidy.mono (h : sel.Tidy) (hobjects : sel.objects ≤ sel'.objects)
    (hholds : ∀ r, sel'.Holds r → sel.Holds r) : sel'.Tidy where
  known r hr := (h.known r (hholds r hr)).trans_le hobjects
  same r r' hr hr' := h.same r r' (hholds r hr) (hholds r' hr')

/-- The objects that a selection holds, by the variable that holds them. -/
theorem Holds.of_services {l : ServiceList} {r : ServiceRef} (hl : l ∈ sel.services)
    (hr : r ∈ l.refs) : sel.Holds r := .inr (.inl ⟨l, hl, hr⟩)

theorem Holds.of_netProtocol {p : ProtocolRef} (hp : p ∈ sel.netProtocol) :
    sel.Holds p.service := .inr (.inr (.inl ⟨p, hp, rfl⟩))

theorem Holds.of_protocols {l : List ProtocolRef} {p : ProtocolRef} (hl : l ∈ sel.protocols)
    (hp : p ∈ l) : sel.Holds p.service := .inr (.inr (.inr ⟨l, hl, p, hp, rfl⟩))

theorem HoldsProtocol.holds {p : ProtocolRef} (h : sel.HoldsProtocol p) :
    sel.Holds p.service := by
  rcases h with hp | ⟨l, hl, hp⟩
  · exact .of_netProtocol hp
  · exact .of_protocols hl hp

/-- The same, one variable at a time. -/
theorem Tidy.shrink (h : sel.Tidy) (hobjects : sel.objects ≤ sel'.objects)
    (hservice : ∀ r ∈ sel'.netService, sel.Holds r)
    (hservices : ∀ l ∈ sel'.services, ∀ r ∈ l.refs, sel.Holds r)
    (hprotocol : ∀ p ∈ sel'.netProtocol, sel.Holds p.service)
    (hprotocols : ∀ l ∈ sel'.protocols, ∀ p ∈ l, sel.Holds p.service) : sel'.Tidy := by
  refine h.mono hobjects ?_
  rintro r (hr | ⟨l, hl, hr⟩ | ⟨p, hp, rfl⟩ | ⟨l, hl, p, hp, rfl⟩)
  · exact hservice r hr
  · exact hservices l hl r hr
  · exact hprotocol p hp
  · exact hprotocols l hl p hp

/-- What is held is what was held, or new, and then it is the one object of its number. -/
theorem Tidy.extend (h : sel.Tidy) (hobjects : sel.objects ≤ sel'.objects) {n : List ServiceRef}
    (hholds : ∀ r, sel'.Holds r → sel.Holds r ∨ r ∈ n)
    (hnew : ∀ r ∈ n, sel.objects ≤ r.object ∧ r.object < sel'.objects)
    (hsame : ∀ r ∈ n, ∀ r' ∈ n, r.object = r'.object → r.id = r'.id) : sel'.Tidy where
  known r hr := by
    rcases hholds r hr with hold | hr
    · exact (h.known r hold).trans_le hobjects
    · exact (hnew r hr).2
  same r r' hr hr' heq := by
    rcases hholds r hr with hold | hr <;> rcases hholds r' hr' with hold' | hr'
    · exact h.same r r' hold hold' heq
    · have := h.known r hold
      have := (hnew r' hr').1
      omega
    · have := h.known r' hold'
      have := (hnew r hr).1
      omega
    · exact hsame r hr r' hr' heq

/-- Each listing makes new objects, one for each service. -/
theorem mem_newServices {first : Nat} {ids : List String} {r : ServiceRef} :
    r ∈ newServices first ids ↔
      first ≤ r.object ∧ ids[r.object - first]? = some r.id := by
  unfold newServices
  rw [List.mem_map]
  constructor
  · rintro ⟨p, hp, rfl⟩
    exact List.mk_mem_zipIdx_iff_le_and_getElem?_sub.mp hp
  · rintro ⟨hle, hget⟩
    exact ⟨(r.id, r.object), List.mk_mem_zipIdx_iff_le_and_getElem?_sub.mpr ⟨hle, hget⟩, rfl⟩

theorem id_mem_of_mem_newServices {first : Nat} {ids : List String} {r : ServiceRef}
    (h : r ∈ newServices first ids) : r.id ∈ ids :=
  List.mem_of_getElem? (mem_newServices.mp h).2

/-- A new list is tidy: its objects have not been seen before. -/
theorem Tidy.listServices (h : sel.Tidy) (all : Bool) (ids : List String) :
    (sel.listServices all ids).Tidy := by
  refine h.extend (n := newServices sel.objects ids) (Nat.le_add_right _ _) ?_ ?_ ?_
  · rintro r (hr | ⟨l, hl, hr⟩ | hr | hr)
    · exact .inl (.inl hr)
    · obtain rfl := Option.some.inj hl
      exact .inr hr
    · exact .inl (.inr (.inr (.inl hr)))
    · exact .inl (.inr (.inr (.inr hr)))
  · intro r hr
    obtain ⟨hle, hget⟩ := mem_newServices.mp hr
    obtain ⟨hlt, -⟩ := List.getElem?_eq_some_iff.mp hget
    exact ⟨hle, by change r.object < sel.objects + ids.length; omega⟩
  · intro r hr r' hr' heq
    have hget := (mem_newServices.mp hr).2
    rw [heq, (mem_newServices.mp hr').2] at hget
    exact (Option.some.inj hget).symm

/-- The protocols of the selected service belong to its object. -/
theorem Tidy.listProtocols (h : sel.Tidy) {service : ServiceRef}
    (hservice : sel.netService = some service) (types : List String) :
    (sel.listProtocols service types).Tidy := by
  refine h.mono le_rfl ?_
  rintro r (hr | hr | hr | ⟨l, hl, p, hp, rfl⟩)
  · exact .inl hr
  · exact .inr (.inl hr)
  · exact .inr (.inr (.inl hr))
  · obtain rfl := Option.some.inj hl
    obtain ⟨type, -, rfl⟩ := List.mem_map.mp hp
    exact .inl hservice

/-- What is held after a change of ID is held before, but for the ID of the object. -/
theorem holds_renameService {object : Nat} {id : String} {r : ServiceRef}
    (h : (sel.renameService object id).Holds r) :
    ∃ r', sel.Holds r' ∧ r = if r'.object = object then ⟨object, id⟩ else r' := by
  rcases h with hr | ⟨l, hl, hr⟩ | ⟨p, hp, rfl⟩ | ⟨l, hl, p, hp, rfl⟩
  · obtain ⟨r', hr', rfl⟩ := Option.map_eq_some_iff.mp hr
    exact ⟨r', .inl hr', rfl⟩
  · obtain ⟨l', hl', rfl⟩ := Option.map_eq_some_iff.mp hl
    obtain ⟨r', hr', rfl⟩ := List.mem_map.mp hr
    exact ⟨r', .inr (.inl ⟨l', hl', hr'⟩), rfl⟩
  · obtain ⟨p', hp', rfl⟩ := Option.map_eq_some_iff.mp hp
    exact ⟨p'.service, .inr (.inr (.inl ⟨p', hp', rfl⟩)), rfl⟩
  · obtain ⟨l', hl', rfl⟩ := Option.map_eq_some_iff.mp hl
    obtain ⟨p', hp', rfl⟩ := List.mem_map.mp hp
    exact ⟨p'.service, .inr (.inr (.inr ⟨l', hl', p', hp', rfl⟩)), rfl⟩

/-- A service that gets another identifier is renamed wherever its object is held. -/
theorem Tidy.renameService (h : sel.Tidy) (object : Nat) (id : String) :
    (sel.renameService object id).Tidy where
  known r hr := by
    obtain ⟨r', hr', rfl⟩ := holds_renameService hr
    have hknown := h.known r' hr'
    split_ifs with hobject
    · exact hobject ▸ hknown
    · exact hknown
  same r₁ r₂ hr₁ hr₂ heq := by
    obtain ⟨r₁', hr₁', rfl⟩ := holds_renameService hr₁
    obtain ⟨r₂', hr₂', rfl⟩ := holds_renameService hr₂
    split_ifs at heq ⊢ with h₁ h₂ h₂
    · rfl
    · exact absurd heq.symm h₂
    · exact absurd heq h₁
    · exact h.same r₁' r₂' hr₁' hr₂' heq

/-- With the service go the protocol and the interface that are selected. -/
theorem Tidy.deselectService (h : sel.Tidy) : sel.deselectService.Tidy :=
  h.shrink le_rfl (fun r hr => by cases hr) (fun _ hl _ hr => .of_services hl hr)
    (fun p hp => by cases hp) (fun _ hl _ hp => .of_protocols hl hp)

/-- Which sets are selected and listed does not matter. -/
theorem Tidy.of_sets (h : sel.Tidy) (netSet : Option String) (sets : Option (List String)) :
    { sel with netSet := netSet, sets := sets }.Tidy :=
  h.mono le_rfl fun _ hr => hr

/-- The set that is looked up again has the ID, if there is one; or no set is selected. -/
theorem refreshSets_cases (sel : NetSelection ι) (lib : NetLibrary π ι) (c : π) (copied : Bool)
    (id : String) :
    sel.sets = none ∧ sel.refreshSets lib c copied id = sel ∨
    sel.refreshSets lib c copied id = { sel with netSet := none, sets := none } ∨
    ∃ found, sel.refreshSets lib c copied id =
        { sel with netSet := found, sets := some (lib.sets c) } ∧
      (id ∈ lib.sets c → found = some id) ∧ ∀ set ∈ found, set ∈ lib.sets c := by
  unfold refreshSets
  cases hsets : sel.sets with
  | none => exact .inl ⟨rfl, rfl⟩
  | some l =>
    rw [if_pos Option.isSome_some]
    cases copied with
    | false => exact .inr (.inl rfl)
    | true =>
      refine .inr (.inr ⟨_, rfl, fun hid => ?_, fun set hset => findIn_mem hset⟩)
      simp only [findSet, if_true, findIn]
      cases hfind : (lib.sets c).find? (fun x => x == id) with
      | none => exact absurd (List.find?_eq_none.mp hfind id hid) (by simp)
      | some set => simpa using List.find?_some hfind

/-- When the sets are listed again, the selected one is looked up in the new list. -/
theorem Tidy.refreshSets (h : sel.Tidy) (lib : NetLibrary π ι) (c : π) (copied : Bool)
    (id : String) : (sel.refreshSets lib c copied id).Tidy := by
  rcases sel.refreshSets_cases lib c copied id with ⟨-, heq⟩ | heq | ⟨found, heq, -⟩
  · rwa [heq]
  · rw [heq]
    exact h.of_sets _ _
  · rw [heq]
    exact h.of_sets _ _

end NetSelection

/-! ## Calls -/

/-- What is documented about a call on the contents `c`: what it is for if it succeeds, and
nothing if it fails, but that an object that was created may be left behind. New IDs are not in
use. -/
def NetCall.Does (lib : NetLibrary π ι) (sel : NetSelection ι) (name : NetCall) (c : π)
    (a : Attempt π) : Prop :=
  let o := lib.objects c
  let o' := lib.objects a.left
  match name with
  | .setCreate id => sel.Unused id ∧ (o' = o.createSet id ∨ a.ok = false ∧ o' = o)
  | .setRemove set => o' = if a.ok then o.removeSet set else o
  | .setSetName set => (a.ok = true → set ∈ o.sets) ∧ o' = o
  | .setSetSetID set id =>
    (a.ok = true → set ∈ o.sets ∧ (id = set ∨ id ∉ o.sets)) ∧
      o' = if a.ok then o.renameSet set id else o
  | .serviceCreate set id =>
    sel.Unused id ∧ ∃ types,
      if a.ok then o' = o.createService set id types else o' = o ∨ o' = o.leaveService id types
  | .serviceRemove service => o' = if a.ok then o.removeService service else o
  | .serviceSetServiceID service id =>
    (a.ok = true → service ∈ o.services ∧ (id = service ∨ id ∉ o.services)) ∧
      o' = if a.ok then o.renameService service id else o
  | .serviceAddProtocolType service type =>
    if a.ok then ∃ types, (∀ t, t ∈ types ↔ t = type ∨ t ∈ o.protocols service) ∧
      o' = o.setProtocols service types
    else o' = o
  | .serviceRemoveProtocolType service type =>
    match service with
    | none => a.ok = false ∧ o' = o
    | some service =>
      o' = if a.ok then o.setProtocols service ((o.protocols service).filter fun t => t ≠ type)
        else o
  | .setSetCurrent _ | .serviceSetEnabled _ _ | .serviceSetName _ | .setSetServiceOrder _ _ _
  | .serviceSetPrimaryRank _ _ | .protocolSetEnabled _ _ _ => o' = o

/-- The calls that do not change which objects there are -/
def NetCall.adjusts : NetCall → Bool
  | .setSetCurrent _ | .serviceSetEnabled _ _ | .serviceSetName _ | .setSetServiceOrder _ _ _
  | .serviceSetPrimaryRank _ _ | .protocolSetEnabled _ _ _ => true
  | _ => false

/-- A call that only adjusts an object makes none and removes none. -/
theorem NetCall.Does.objects_of_adjusts {lib : NetLibrary π ι} {sel : NetSelection ι}
    {name : NetCall} {c : π} {a : Attempt π} (h : name.Does lib sel c a)
    (hadjusts : name.adjusts = true) : lib.objects a.left = lib.objects c := by
  cases name <;> first | exact h | cases hadjusts

/-- A call that fails leaves the objects, but for one that was created and is left behind. -/
theorem NetCall.Does.objects_of_fail {lib : NetLibrary π ι} {sel : NetSelection ι} {name : NetCall}
    {c : π} {a : Attempt π} (h : name.Does lib sel c a) (hfail : a.ok = false) :
    lib.objects a.left = lib.objects c ∨
    (∃ id, sel.Unused id ∧ lib.objects a.left = (lib.objects c).createSet id) ∨
    ∃ id types, sel.Unused id ∧ lib.objects a.left = (lib.objects c).leaveService id types := by
  cases name with
  | setCreate id =>
    obtain ⟨hunused, hleft | ⟨-, hleft⟩⟩ := h
    · exact .inr (.inl ⟨id, hunused, hleft⟩)
    · exact .inl hleft
  | serviceCreate set id =>
    obtain ⟨hunused, types, hleft⟩ := h
    rw [if_neg (by simp [hfail])] at hleft
    rcases hleft with hleft | hleft
    · exact .inl hleft
    · exact .inr (.inr ⟨id, types, hunused, hleft⟩)
  | serviceRemoveProtocolType service type =>
    cases service with
    | none => exact .inl h.2
    | some service => exact .inl (by simpa [NetCall.Does, hfail] using h)
  | setSetName set => exact .inl h.2
  | setSetSetID set id => exact .inl (by simpa [hfail] using h.2)
  | serviceSetServiceID service id => exact .inl (by simpa [hfail] using h.2)
  | setRemove _ | serviceRemove _ | serviceAddProtocolType _ _ =>
    exact .inl (by simpa [NetCall.Does, hfail] using h)
  | setSetCurrent _ | serviceSetEnabled _ _ | serviceSetName _ | setSetServiceOrder _ _ _
  | serviceSetPrimaryRank _ _ | protocolSetEnabled _ _ _ => exact .inl h

/-! ## What a command can do -/

section

variable (lib : NetLibrary π ι) (D : NetSelection ι → NetCall → π → Attempt π → Prop)
  (K : NetSelection ι → π → String → Prop)

/-- One thing that a command does, where its calls meet `D` and its selections of a set `K`. -/
inductive NetMove : π × NetSelection ι → π × NetSelection ι → Prop
  | listSets {c sel} : NetMove (c, sel) (c, { sel with sets := some (lib.sets c) })
  | listAllServices {c sel} : NetMove (c, sel) (c, sel.listServices true (lib.services c))
  | listServices {c sel set} (hset : sel.netSet = some set) {ids}
      (hids : ids = lib.setServices c set ∨ ids = lib.orderedServices c set) :
      NetMove (c, sel) (c, sel.listServices false ids)
  | unlistServices {c sel} : NetMove (c, sel) (c, { sel with services := none })
  | listProtocols {c sel service} (hservice : sel.netService = some service) :
      NetMove (c, sel) (c, sel.listProtocols service (lib.protocols c service.id))
  | unlistProtocols {c sel} : NetMove (c, sel) (c, { sel with protocols := none })
  | selectSet {c sel l set} (hl : sel.sets = some l) (hset : set ∈ l) (hK : K sel c set) :
      NetMove (c, sel) (c, { sel.deselectService with netSet := some set })
  | selectService {c sel l service i} (hl : sel.services = some l) (hservice : service ∈ l.refs) :
      NetMove (c, sel) (c, { sel with
        netService := some service, netInterface := i, protocols := none, netProtocol := none })
  | selectProtocol {c sel l protocol} (hl : sel.protocols = some l) (hprotocol : protocol ∈ l) :
      NetMove (c, sel) (c, { sel with netProtocol := some protocol })
  | countsNull {c sel} : NetMove (c, sel) (c, { sel with fault := some .countedNull })
  | fails {c sel name a} (hD : D sel name c a) (hfail : a.ok = false) :
      NetMove (c, sel) (a.left, sel)
  | createSet {c sel id a} (hD : D sel (.setCreate id) c a) (hok : a.ok = true) :
      NetMove (c, sel) (a.left, { sel.deselectService with netSet := some id, sets := none })
  | removeSet {c sel set selected a} (hD : D sel (.setRemove set) c a) (hok : a.ok = true)
      (hselected : sel.netSet = some selected) (hne : set ≠ selected) :
      NetMove (c, sel) (a.left, { sel with sets := none })
  | removeSelectedSet {c sel set a} (hD : D sel (.setRemove set) c a) (hok : a.ok = true)
      (hselected : sel.netSet = some set) :
      NetMove (c, sel) (a.left, { sel.deselectService with sets := none })
  | comparesNull {c sel set a} (hD : D sel (.setRemove set) c a) (hok : a.ok = true)
      (hselected : sel.netSet = none) :
      NetMove (c, sel) (a.left, { sel with fault := some .comparedNull })
  | nameSet {c sel set a copied} (hD : D sel (.setSetName set) c a) (hok : a.ok = true)
      (hset : sel.netSet = some set) :
      NetMove (c, sel) (a.left, sel.refreshSets lib a.left copied set)
  | renameSet {c sel set id a copied} (hD : D sel (.setSetSetID set id) c a) (hok : a.ok = true)
      (hset : sel.netSet = some set) :
      NetMove (c, sel)
        (a.left, { sel with netSet := some id }.refreshSets lib a.left copied id)
  | createService {c sel set id a i} (hD : D sel (.serviceCreate set id) c a) (hok : a.ok = true)
      (hset : sel.netSet = some set) :
      NetMove (c, sel) (a.left, { sel with
        netService := some ⟨sel.objects, id⟩, netInterface := i, protocols := none
        netProtocol := none, services := none, objects := sel.objects + 1 })
  | adjust {c sel name a} (hD : D sel name c a) (hok : a.ok = true)
      (hadjusts : name.adjusts = true) : NetMove (c, sel) (a.left, sel)
  | removeService {c sel service a} (hD : D sel (.serviceRemove service) c a) (hok : a.ok = true)
      (hselected : ∀ selected ∈ sel.netService, selected.id ≠ service) :
      NetMove (c, sel) (a.left, { sel with services := none })
  | removeSelectedService {c sel service selected a} (hD : D sel (.serviceRemove service) c a)
      (hok : a.ok = true) (hselected : sel.netService = some selected)
      (hid : selected.id = service) :
      NetMove (c, sel) (a.left, { sel.deselectService with protocols := none, services := none })
  | renameService {c sel service id a} (hD : D sel (.serviceSetServiceID service.id id) c a)
      (hok : a.ok = true) (hservice : sel.netService = some service) :
      NetMove (c, sel) (a.left, sel.renameService service.object id)
  | addProtocol {c sel service type a selected}
      (hD : D sel (.serviceAddProtocolType service.id type) c a) (hok : a.ok = true)
      (hservice : sel.netService = some service)
      (hselected : ∀ p ∈ selected, p = ⟨service, type⟩) :
      NetMove (c, sel) (a.left, { sel with protocols := none, netProtocol := selected })
  | removeProtocol {c sel protocol a selected}
      (hD : D sel (.serviceRemoveProtocolType (sel.netService.map ServiceRef.id) protocol.type) c a)
      (hok : a.ok = true)
      (htarget : sel.netProtocol = some protocol ∨ ∃ l ∈ sel.protocols, protocol ∈ l)
      (hselected : ∀ p ∈ selected, sel.netProtocol = some p ∧
        (protocol.service.id ≠ p.service.id ∨ protocol.type ≠ p.type)) :
      NetMove (c, sel) (a.left, { sel with netProtocol := selected, protocols := none })

/-- All that a command does. -/
abbrev NetMoves : π × NetSelection ι → π × NetSelection ι → Prop :=
  Relation.ReflTransGen (NetMove lib D K)

/-- The condition on what a command selects, other than by its calls -/
def NetEdit.Selects (c : π) (sel : NetSelection ι) : NetEdit π ι → Prop
  | .selectSet arg copied =>
    ∀ set ∈ (sel.findSet lib c copied arg).1, K (sel.findSet lib c copied arg).2 c set
  | _ => True

end

section

variable {lib : NetLibrary π ι} {D : NetSelection ι → NetCall → π → Attempt π → Prop}
  {K : NetSelection ι → π → String → Prop} {c : π} {sel : NetSelection ι}

/-- A call that succeeds is made and the command goes on, or it fails. -/
theorem moves_call {name : NetCall} {a : Attempt π} {next : NetScript π ι}
    (h : (Script.call sel name a next).Along D c)
    (hnext : a.ok = true → D sel name c a → next.Along D a.left →
      NetMoves lib D K (c, sel) (next.outcome a.left)) :
    NetMoves lib D K (c, sel) ((Script.call sel name a next).outcome c) := by
  obtain ⟨hD, hrest⟩ := h
  rcases Bool.eq_false_or_eq_true a.ok with hok | hok
  · rw [Script.outcome, if_pos hok]
    exact hnext hok hD (hrest hok)
  · rw [Script.outcome, if_neg (by simp [hok])]
    exact .single (.fails hD hok)

/-- A search may fill the list that it goes through, and finds an element of it. -/
theorem findSet_moves (lib : NetLibrary π ι) (sel : NetSelection ι) (copied : Bool)
    (arg : String) :
    NetMoves lib D K (c, sel) (c, (sel.findSet lib c copied arg).2) ∧
      ∀ set ∈ (sel.findSet lib c copied arg).1,
        ∃ l, (sel.findSet lib c copied arg).2.sets = some l ∧ set ∈ l := by
  unfold NetSelection.findSet
  dsimp only
  cases hsets : sel.sets with
  | some l => exact ⟨.refl, fun set hset => ⟨l, hsets, findIn_mem hset⟩⟩
  | none =>
    cases copied with
    | true => exact ⟨.single .listSets, fun set hset => ⟨_, rfl, findIn_mem hset⟩⟩
    | false => exact ⟨.refl, fun set hset => by cases hset⟩

/-- A service that is found is one of the list, which is made for it where there is none. -/
theorem findService_moves (lib : NetLibrary π ι) (sel : NetSelection ι) (copied : Bool)
    (arg : String) :
    NetMoves lib D K (c, sel) (c, (sel.findService lib c copied arg).2) ∧
      ∀ service ∈ (sel.findService lib c copied arg).1,
        ∃ l, (sel.findService lib c copied arg).2.services = some l ∧ service ∈ l.refs := by
  unfold NetSelection.findService
  dsimp only
  cases hservices : sel.services with
  | some l => exact ⟨.refl, fun service h => ⟨l, hservices, findIn_mem h⟩⟩
  | none =>
    cases hset : sel.netSet with
    | none => exact ⟨.refl, fun service h => by cases h⟩
    | some set =>
      cases copied with
      | true => exact ⟨.single (.listServices hset (.inl rfl)), fun r h => ⟨_, rfl, findIn_mem h⟩⟩
      | false => exact ⟨.refl, fun service h => by cases h⟩

/-- So is a protocol. -/
theorem findProtocol_moves (lib : NetLibrary π ι) (sel : NetSelection ι) (copied : Bool)
    (arg : String) :
    NetMoves lib D K (c, sel) (c, (sel.findProtocol lib c copied arg).2) ∧
      ∀ protocol ∈ (sel.findProtocol lib c copied arg).1,
        ∃ l, (sel.findProtocol lib c copied arg).2.protocols = some l ∧ protocol ∈ l := by
  unfold NetSelection.findProtocol
  dsimp only
  cases hprotocols : sel.protocols with
  | some l =>
    dsimp only
    exact ⟨.refl, fun p h => ⟨l, hprotocols, findIn_mem h⟩⟩
  | none =>
    cases hservice : sel.netService with
    | none => exact ⟨.refl, fun p h => by cases h⟩
    | some service =>
      cases copied with
      | true =>
        simp only [if_true]
        exact ⟨.single (.listProtocols hservice), fun p h => ⟨_, rfl, findIn_mem h⟩⟩
      | false => exact ⟨.refl, fun p h => by cases h⟩

/-- The set, service or protocol that a command is for is found or selected already. -/
theorem targetSet_moves (lib : NetLibrary π ι) (sel : NetSelection ι) (copied : Bool)
    (arg : Option String) :
    NetMoves lib D K (c, sel) (c, (sel.targetSet lib c copied arg).2) := by
  cases arg with
  | some arg => exact (findSet_moves lib sel copied arg).1
  | none => exact .refl

theorem targetService_moves (lib : NetLibrary π ι) (sel : NetSelection ι) (copied : Bool)
    (arg : Option String) :
    NetMoves lib D K (c, sel) (c, (sel.targetService lib c copied arg).2) := by
  cases arg with
  | some arg => exact (findService_moves lib sel copied arg).1
  | none => exact .refl

theorem targetProtocol_moves (lib : NetLibrary π ι) (sel : NetSelection ι) (copied : Bool)
    (arg : Option String) :
    NetMoves lib D K (c, sel) (c, (sel.targetProtocol lib c copied arg).2) ∧
      ∀ protocol ∈ (sel.targetProtocol lib c copied arg).1,
        (sel.targetProtocol lib c copied arg).2.netProtocol = some protocol ∨
        ∃ l ∈ (sel.targetProtocol lib c copied arg).2.protocols, protocol ∈ l := by
  cases arg with
  | some arg =>
    exact ⟨(findProtocol_moves lib sel copied arg).1, fun p h =>
      .inr ((findProtocol_moves (K := K) (D := D) lib sel copied arg).2 p h)⟩
  | none => exact ⟨.refl, fun p h => .inl h⟩

/-- Each argument of `set set` is a move, or several. -/
theorem setSetLoop_moves (calls : ℕ → Attempt π) (copied : ℕ → Bool) (args : List String)
    (hD : (setSetLoop lib calls copied args sel).Along D c) :
    NetMoves lib D K (c, sel) ((setSetLoop lib calls copied args sel).outcome c) := by
  fun_induction setSetLoop lib calls copied args sel generalizing c
  case case4 hset _ _ _ ih =>
    exact moves_call hD fun hok hD hrest => .head (.nameSet hD hok hset) (ih hrest)
  case case5 ih =>
    exact moves_call hD fun hok hD hrest => .head (.adjust hD hok rfl) (ih hrest)
  case case8 hset _ _ _ _ _ _ ih =>
    exact moves_call hD fun hok hD hrest => .head (.renameSet hD hok hset) (ih hrest)
  case case9 ih => exact ih hD
  all_goals exact .refl

/-- So is each argument of `set service`. -/
theorem setServiceLoop_moves (calls : ℕ → Attempt π) (args : List String)
    (hD : (setServiceLoop lib calls args c sel).Along D c) :
    NetMoves lib D K (c, sel) ((setServiceLoop lib calls args c sel).outcome c) := by
  fun_induction setServiceLoop lib calls args c sel
  case case4 ih | case8 ih | case12 ih =>
    exact moves_call hD fun hok hD hrest => .head (.adjust hD hok rfl) (ih hrest)
  case case5 => exact .single .countsNull
  case case14 ih => exact ih hD
  case case18 hservice _ _ _ _ _ _ _ ih =>
    exact moves_call hD fun hok hD hrest => .head (.renameService hD hok hservice) (ih hrest)
  case case19 ih => exact ih hD
  all_goals exact .refl

/-- **What a command can do.** -/
theorem edit_moves (e : NetEdit π ι) (hD : (scriptOf lib c sel e).Along D c)
    (hK : e.Selects lib K c sel) :
    NetMoves lib D K (c, sel) ((scriptOf lib c sel e).outcome c) := by
  cases e with
  | createSet name id created named removed =>
    exact moves_call hD fun hok hD _ => .single (.createSet hD hok)
  -- the set that is removed is compared with the selected one, which may be none
  | removeSet arg copied removed =>
    simp only [scriptOf, removeSet] at hD ⊢
    have htarget := targetSet_moves (D := D) (K := K) (c := c) lib sel copied arg
    generalize sel.targetSet lib c copied arg = r at hD htarget ⊢
    obtain ⟨set, sel⟩ := r
    cases set with
    | none => exact htarget
    | some set =>
      refine htarget.trans (moves_call hD fun hok hD _ => ?_)
      dsimp only [Script.outcome]
      split
      next hselected => exact .single (.comparesNull hD hok hselected)
      next selected hselected =>
        split_ifs with heq
        · exact .single (.removeSelectedSet hD hok (heq ▸ hselected))
        · exact .single (.removeSet hD hok hselected heq)
  | selectSet arg copied =>
    obtain ⟨hmoves, hfound⟩ := findSet_moves (D := D) (K := K) (c := c) lib sel copied arg
    simp only [scriptOf, selectSet, NetEdit.Selects] at hK ⊢
    generalize sel.findSet lib c copied arg = r at hmoves hfound hK ⊢
    obtain ⟨set, sel⟩ := r
    cases set with
    | none => exact hmoves
    | some set =>
      obtain ⟨l, hl, hset⟩ := hfound set rfl
      exact hmoves.tail (.selectSet hl hset (hK set rfl))
  | setSet args calls copied => exact setSetLoop_moves calls copied args hD
  | showSet arg copied => exact targetSet_moves lib sel copied arg
  | showSets copied =>
    simp only [scriptOf, showSets, Script.outcome]
    split_ifs
    · exact .refl
    · exact .single .listSets
    · exact .refl
  -- without a set or an interface there is no call
  | createService interface name id created named established added removed =>
    simp only [scriptOf, createService] at hD ⊢
    split
    · exact .refl
    next set hset =>
      simp only [hset] at hD
      split
      · exact .refl
      next i hi =>
        simp only [hi] at hD
        split_ifs at hD ⊢
        · exact .refl
        all_goals exact moves_call hD fun hok hD _ => .single (.createService hD hok hset)
  | setServiceEnabled enabled arg copied call =>
    simp only [scriptOf, setServiceEnabled] at hD ⊢
    have htarget := targetService_moves (D := D) (K := K) (c := c) lib sel copied arg
    generalize sel.targetService lib c copied arg = r at hD htarget ⊢
    obtain ⟨service, sel⟩ := r
    cases service with
    | none => exact htarget
    | some service =>
      exact htarget.trans (moves_call hD fun hok hD _ => .single (.adjust hD hok rfl))
  | removeService arg copied removed =>
    simp only [scriptOf, removeService] at hD ⊢
    have htarget := targetService_moves (D := D) (K := K) (c := c) lib sel copied arg
    generalize sel.targetService lib c copied arg = r at hD htarget ⊢
    obtain ⟨service, sel⟩ := r
    cases service with
    | none => exact htarget
    | some service =>
      refine htarget.trans (moves_call hD fun hok hD _ => ?_)
      dsimp only [Script.outcome]
      split_ifs with hselected
      · obtain ⟨selected, hsel, hid⟩ := (Option.any_eq_true _ _).mp hselected
        exact .single (.removeSelectedService hD hok hsel (of_decide_eq_true hid).symm)
      · refine .single (.removeService hD hok fun selected hsel hid => hselected ?_)
        exact (Option.any_eq_true _ _).mpr ⟨selected, hsel, decide_eq_true hid.symm⟩
  | selectService arg copied =>
    obtain ⟨hmoves, hfound⟩ := findService_moves (D := D) (K := K) (c := c) lib sel copied arg
    simp only [scriptOf, selectService] at hD ⊢
    generalize sel.findService lib c copied arg = r at hmoves hfound ⊢
    obtain ⟨service, sel⟩ := r
    cases service with
    | none => exact hmoves
    | some service =>
      obtain ⟨l, hl, hservice⟩ := hfound service rfl
      exact hmoves.tail (.selectService hl hservice)
  | setService args calls => exact setServiceLoop_moves calls args hD
  | showService arg copied => exact targetService_moves lib sel copied arg
  -- a list of all services, of the services of the set, or none
  | showServices all copied =>
    simp only [scriptOf, showServices, Script.outcome]
    split_ifs
    · exact .single .listAllServices
    · exact .single .unlistServices
    · split
      · exact .refl
      next set hset => exact .single (.listServices hset (.inr rfl))
    · split
      · exact .refl
      · exact .single .unlistServices
  | createProtocol type added copied =>
    simp only [scriptOf, createProtocol] at hD ⊢
    split
    · exact .refl
    next service hservice =>
      simp only [hservice] at hD
      split_ifs at hD ⊢
      · exact .refl
      · exact moves_call hD fun hok hD _ =>
          .single (.addProtocol hD hok hservice fun p hp => (Option.some.inj hp).symm)
      · exact moves_call hD fun hok hD _ =>
          .single (.addProtocol hD hok hservice fun p hp => (by cases hp))
  | setProtocolEnabled enabled arg copied call =>
    simp only [scriptOf, setProtocolEnabled] at hD ⊢
    obtain ⟨htarget, -⟩ := targetProtocol_moves (D := D) (K := K) (c := c) lib sel copied arg
    generalize sel.targetProtocol lib c copied arg = r at hD htarget ⊢
    obtain ⟨protocol, sel⟩ := r
    cases protocol with
    | none => exact htarget
    | some protocol =>
      exact htarget.trans (moves_call hD fun hok hD _ => .single (.adjust hD hok rfl))
  | removeProtocol arg copied removed =>
    simp only [scriptOf, removeProtocol] at hD ⊢
    obtain ⟨hmoves, htarget⟩ := targetProtocol_moves (D := D) (K := K) (c := c) lib sel copied arg
    generalize sel.targetProtocol lib c copied arg = r at hD hmoves htarget ⊢
    obtain ⟨protocol, sel⟩ := r
    cases protocol with
    | none => exact hmoves
    | some protocol =>
      refine hmoves.trans (moves_call hD fun hok hD _ => ?_)
      refine .single (.removeProtocol hD hok (htarget protocol rfl) fun p hp => ?_)
      split_ifs at hp with hany
      · cases hp
      · refine ⟨hp, not_and_or.mp fun hsame => hany ?_⟩
        exact (Option.any_eq_true _ _).mpr ⟨p, hp, decide_eq_true hsame⟩
  | selectProtocol arg copied =>
    obtain ⟨hmoves, hfound⟩ := findProtocol_moves (D := D) (K := K) (c := c) lib sel copied arg
    simp only [scriptOf, selectProtocol] at hD ⊢
    generalize sel.findProtocol lib c copied arg = r at hmoves hfound ⊢
    obtain ⟨protocol, sel⟩ := r
    cases protocol with
    | none => exact hmoves
    | some protocol =>
      obtain ⟨l, hl, hprotocol⟩ := hfound protocol rfl
      exact hmoves.tail (.selectProtocol hl hprotocol)
  | showProtocol arg copied => exact (targetProtocol_moves lib sel copied arg).1
  -- the protocols are listed anew, or the list is dropped
  | showProtocols copied =>
    simp only [scriptOf, showProtocols, Script.outcome]
    split
    · exact .refl
    next service hservice =>
      split_ifs
      · exact .single (.listProtocols hservice)
      · exact .single .unlistProtocols

end

/-- Every move keeps the service objects apart. -/
theorem tidy_of_move {lib : NetLibrary π ι} {D : NetSelection ι → NetCall → π → Attempt π → Prop}
    {K : NetSelection ι → π → String → Prop} {p p' : π × NetSelection ι}
    (hmove : NetMove lib D K p p') (h : p.2.Tidy) : p'.2.Tidy := by
  cases hmove with
  | listSets | countsNull | fails | comparesNull | removeSet | adjust =>
    exact h.mono le_rfl fun r hr => hr
  | listAllServices => exact h.listServices true _
  | listServices => exact h.listServices false _
  | unlistServices =>
    exact h.shrink le_rfl (fun _ => .inl) (fun l hl => by cases hl) (fun _ hp => .of_netProtocol hp)
      (fun _ hl _ => .of_protocols hl)
  | listProtocols hservice => exact h.listProtocols hservice _
  | unlistProtocols =>
    exact h.shrink le_rfl (fun _ => .inl) (fun _ hl _ hr => .of_services hl hr)
      (fun _ hp => .of_netProtocol hp)
      (fun l hl => by cases hl)
  | selectSet => exact h.deselectService.of_sets _ _
  | selectService hl hservice =>
    refine h.shrink le_rfl (fun r hr => ?_) (fun _ hl _ hr => .of_services hl hr)
      (fun p hp => by cases hp) (fun l hl => by cases hl)
    obtain rfl := Option.some.inj hr
    exact .of_services hl hservice
  | selectProtocol hl hprotocol =>
    refine h.shrink le_rfl (fun _ => .inl) (fun _ hl _ hr => .of_services hl hr) (fun p hp => ?_)
      (fun _ hl _ => .of_protocols hl)
    obtain rfl := Option.some.inj hp
    exact .of_protocols hl hprotocol
  | createSet | removeSelectedSet => exact h.deselectService.of_sets _ _
  | @nameSet c sel set a copied =>
    exact h.refreshSets lib a.left copied set
  | @renameSet c sel set id a copied =>
    exact (h.of_sets (some id) sel.sets).refreshSets lib a.left copied id
  -- the new object has the next number
  | @createService c sel set id a i =>
    refine h.extend (n := [⟨sel.objects, id⟩]) (Nat.le_succ _) ?_ ?_ ?_
    · -- all lists are dropped, so it is the only one
      rintro r (hr | ⟨l, hl, -⟩ | ⟨p, hp, -⟩ | ⟨l, hl, -⟩)
      · exact .inr (List.mem_singleton.mpr (Option.some.inj hr).symm)
      · cases hl
      · cases hp
      · cases hl
    · intro r hr
      obtain rfl := List.mem_singleton.mp hr
      exact ⟨le_rfl, Nat.lt_succ_self _⟩
    · intro r hr r' hr' _
      rw [List.mem_singleton.mp hr, List.mem_singleton.mp hr']
  | removeService =>
    exact h.shrink le_rfl (fun _ => .inl) (fun l hl => by cases hl) (fun _ hp => .of_netProtocol hp)
      (fun _ hl _ => .of_protocols hl)
  | removeSelectedService =>
    exact h.shrink le_rfl (fun r hr => by cases hr) (fun l hl => by cases hl)
      (fun p hp => by cases hp) (fun l hl => by cases hl)
  | renameService => exact h.renameService _ _
  | addProtocol hD hok hservice hselected =>
    refine h.shrink le_rfl (fun _ => .inl) (fun _ hl _ hr => .of_services hl hr) (fun p hp => ?_)
      (fun l hl => by cases hl)
    rw [hselected p hp]
    exact .inl hservice
  | removeProtocol hD hok htarget hselected =>
    exact h.shrink le_rfl (fun _ => .inl) (fun _ hl _ hr => .of_services hl hr)
      (fun p hp => .of_netProtocol (hselected p hp).1) (fun l hl => by cases hl)

/-- Running the calls of a command -/
theorem NetState.edit_eq (lib : NetLibrary π ι) {s : NetState π ν ι} {d : Document π}
    (hd : s.prefs = some d) (e : NetEdit π ι) :
    ∃ d', (s.edit lib e).prefs = some d' ∧
      (d'.current, (s.edit lib e).selection) =
        (scriptOf lib d.current s.selection e).outcome d.current := by
  refine ⟨((scriptOf lib d.current s.selection e).run ⟨d, s.prefsChanged⟩).1.document, ?_, ?_⟩
  · simp [NetState.edit, hd]
  · rw [← Script.run_eq_outcome _ ⟨d, s.prefsChanged⟩]
    simp [NetState.edit, hd]

/-- What is documented about the calls of a command. A set that is updated may get new services,
and nothing is gone. -/
def NetCommand.Documented (lib : NetLibrary π ι) (s : NetState π ν ι) :
    NetCommand π ν ι → Prop
  | .edit e => ∀ d ∈ s.prefs,
      (scriptOf lib d.current s.selection e).Along (NetCall.Does lib) d.current
  | .update id created updated => ∀ d ∈ s.prefs,
      if s.selection.netSet.isSome ∨ (lib.currentSet d.current).isSome then
        (lib.objects d.current).Grows (lib.objects updated.left)
      else
        (NetCall.setCreate id).Does lib s.selection d.current created ∧
          (created.ok = true → (lib.objects created.left).Grows (lib.objects updated.left))
  | _ => True

/-- Network preferences with sets and their services, all of them for IPv4 -/
def servicesLibrary : NetLibrary (List (String × List String)) Unit where
  sets c := c.map Prod.fst
  setName _ _ := none
  currentSet c := (c.map Prod.fst).find? fun set => set = "0"
  services c := c.flatMap Prod.snd
  setServices c set := (c.filter fun s => s.1 = set).flatMap Prod.snd
  orderedServices c set := (c.filter fun s => s.1 = set).flatMap Prod.snd
  serviceName _ _ := none
  bsdName _ _ := none
  interface _ _ := none
  supportedTypes _ := some ["IPv4"]
  protocols c service := if service ∈ c.flatMap Prod.snd then ["IPv4"] else []
  configurations _ _ := ⟨∅, ∅, ∅⟩
  configured c _ _ := c
  configured_configurations _ _ := rfl
  caseless := strcasecmp

/-- A library with services only is a library. -/
theorem servicesLibrary_lawful : servicesLibrary.Lawful where
  currentSet _ _ hset := List.mem_of_find?_eq_some hset
  setServices c set id hid := by
    obtain ⟨s, hs, hid⟩ := List.mem_flatMap.mp hid
    exact List.mem_flatMap.mpr ⟨s, (List.mem_filter.mp hs).1, hid⟩
  orderedServices _ _ _ := Iff.rfl
  configured _ _ _ := rfl

/-- A service is removed by removing it from every set. -/
theorem servicesLibrary_removeService (c : List (String × List String)) (service : String) :
    servicesLibrary.objects (c.map fun s => (s.1, s.2.filter fun id => id ≠ service)) =
      (servicesLibrary.objects c).removeService service := by
  have hmem : ∀ id, id ∈ (c.map fun s => (s.1, s.2.filter fun id => id ≠ service)).flatMap Prod.snd ↔
      id ∈ c.flatMap Prod.snd ∧ id ≠ service := by
    intro id
    simp only [List.flatMap_map, List.mem_flatMap, List.mem_filter, decide_eq_true_eq]
    constructor
    · rintro ⟨s, hs, hid, hne⟩
      exact ⟨⟨s, hs, hid⟩, hne⟩
    · rintro ⟨⟨s, hs, hid⟩, hne⟩
      exact ⟨s, hs, hid, hne⟩
  ext1
  · ext set
    simp [NetLibrary.objects, NetObjects.removeService, servicesLibrary]
  · ext set id
    simp only [NetLibrary.objects, NetObjects.removeService, servicesLibrary]
    aesop
  · ext id
    exact hmem id
  · funext id
    simp only [NetLibrary.objects, NetObjects.removeService, servicesLibrary, hmem,
      Function.update_apply]
    by_cases hid : id = service
    · rw [if_pos hid, if_neg fun h => h.2 hid]
    · rw [if_neg hid]
      exact if_congr (and_iff_left hid) rfl rfl

end ConfigdExtra
