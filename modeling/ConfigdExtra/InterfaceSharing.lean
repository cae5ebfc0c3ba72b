import ConfigdExtra.InterfaceParts

/-!
# Interfaces that share objects

While the cache is open, what is found under a BSD name is the same object for everyone. What else
an interface is made of is new.

* `HoldsPart` — an object that holds a part of an interface.
* `createFound_holds` — what is found of an entity holds its parts, whatever is in memory.
* `createParent_of` — so does what is returned, up to whose it is.
-/

namespace ConfigdExtra

open ObjectPool

variable {π : Type} {find : String → Option (List SCNetworkInterface)} {n m start : ℕ}
  {opened : Bool} {marks marks' : List (Mark String)} {pool pool' : InterfacePool π}

/-! ## Objects in memory -/

/-- An object that holds a part of an interface: one of the registry is remembered if the cache is
open, and the others are new. -/
structure HoldsPart (n start : ℕ) (opened : Bool) (marks : List (Mark String))
    (pool : InterfacePool π) (a : ℕ) (part : InterfacePart π) : Prop where
  /-- it is what the part is -/
  value : pool.value? a = some part.content
  /-- remembered if the cache is open -/
  remembered : ∀ ifDevice k, part.slot = some (ifDevice, k) → opened = true →
    marks[a]? = some (Mark.remembered n ifDevice k)
  /-- new otherwise -/
  fresh : part.slot = none ∨ opened = false →
    start ≤ a ∧ marks[a]? = some (Mark.fresh a) ∧ pool.label? a = some part.owner

/-- What is found before it is layered -/
structure FoundHolds (n start : ℕ) (opened : Bool) (marks : List (Mark String))
    (pool : InterfacePool π) (found : FoundInterface) (parts : InterfaceParts π) : Prop where
  /-- the interface -/
  interface : HoldsPart n start opened marks pool found.interface parts.interface
  /-- the members -/
  members : List.Forall₂ (HoldsPart n start opened marks pool) found.members parts.others

/-- A virtual interface that is found -/
structure VirtualHolds (n start : ℕ) (opened : Bool) (marks : List (Mark String))
    (pool : InterfacePool π) (found : VirtualFound π) (v : VirtualParts π) : Prop where
  /-- what it is -/
  content : found.content = v.content
  /-- the preferences -/
  prefs : found.prefs = v.prefs
  /-- the members -/
  members : List.Forall₂ (HoldsPart n start opened marks pool) found.members v.members

/-- What holds a part is in the pool. -/
theorem HoldsPart.lt (h : HoldsPart n start opened marks pool a part) : a < pool.cells.length := by
  obtain ⟨cell, hcell, -⟩ := Option.map_eq_some_iff.mp h.value
  exact (List.getElem?_eq_some_iff.mp hcell).1

/-- An object stays when others are made. -/
theorem HoldsPart.grows {a : ℕ} {part : InterfacePart π}
    (h : HoldsPart n start opened marks pool a part)
    (hgrows : Grows find m unowned marks pool marks' pool') :
    HoldsPart n start opened marks' pool' a part where
  value := value?_extends hgrows.cells h.value
  remembered := fun ifDevice k hslot hopened =>
    getElem?_extends hgrows.marks (h.remembered ifDevice k hslot hopened)
  fresh := fun hslot => by
    obtain ⟨hstart, hmark, hlabel⟩ := h.fresh hslot
    refine ⟨hstart, getElem?_extends hgrows.marks hmark, ?_⟩
    rw [label?_extends hgrows.cells h.lt]
    exact hlabel

theorem HoldsPart.start_le {a start' : ℕ} {part : InterfacePart π}
    (h : HoldsPart n start opened marks pool a part) (hle : start' ≤ start) :
    HoldsPart n start' opened marks pool a part :=
  { h with fresh := fun hslot => ⟨hle.trans (h.fresh hslot).1, (h.fresh hslot).2⟩ }

/-- What was found holds its parts in every later pool. -/
theorem FoundHolds.grows {found : FoundInterface} {parts : InterfaceParts π}
    (h : FoundHolds n start opened marks pool found parts)
    (hgrows : Grows find n unowned marks pool marks' pool') :
    FoundHolds n start opened marks' pool' found parts where
  interface := h.interface.grows hgrows
  members := h.members.imp fun _ _ hpart => hpart.grows hgrows

theorem FoundHolds.start_le {start' : ℕ} {found : FoundInterface} {parts : InterfaceParts π}
    (h : FoundHolds n start opened marks pool found parts) (hle : start' ≤ start) :
    FoundHolds n start' opened marks pool found parts where
  interface := h.interface.start_le hle
  members := h.members.imp fun _ _ hpart => hpart.start_le hle

theorem optionRel_imp {α β : Type} {R S : α → β → Prop} {x : Option α} {y : Option β}
    (h : Option.Rel R x y) (himp : ∀ a b, R a b → S a b) : Option.Rel S x y := by
  cases h with
  | some hab => exact Option.Rel.some (himp _ _ hab)
  | none => exact Option.Rel.none

/-! ## What is new -/

/-- One new object holds its part. -/
theorem makeOne_holds (opened : Bool) (h : Marked find n marks pool) (part : InterfacePart π)
    (hslot : part.slot = none) :
    ∃ marks', Grows find n unowned marks pool marks'
        (makeOne ⟨part.content, part.owner⟩ pool).2 ∧
      HoldsPart n pool.cells.length opened marks' (makeOne ⟨part.content, part.owner⟩ pool).2
        (makeOne ⟨part.content, part.owner⟩ pool).1 part := by
  obtain ⟨hgrows, hcell⟩ := makeOne_grows unowned h ⟨part.content, part.owner⟩
  refine ⟨_, hgrows, ?_, ?_, ?_⟩
  · rw [Pool.value?]
    exact Option.map_eq_some_iff.mpr ⟨_, hcell, rfl⟩
  · intro ifDevice k hsome
    rw [hslot] at hsome
    cases hsome
  · intro _
    refine ⟨le_refl _, ?_, Option.map_eq_some_iff.mpr ⟨_, hcell, rfl⟩⟩
    have hlen : marks.length = pool.cells.length := h.length
    simp only [makeOne]
    rw [List.getElem?_append_right (le_of_eq hlen), hlen, Nat.sub_self]
    rfl

/-- An interface that is made is new, with an address of its own. -/
theorem createFresh_holds (opened : Bool) (h : Marked find n marks pool)
    (content : Option SCNetworkInterface) :
    ∃ marks', Grows find n unowned marks pool marks' (createFresh content pool).2 ∧
      Option.Rel (FoundHolds n pool.cells.length opened marks' (createFresh content pool).2)
        (createFresh content pool).1 (freshParts content) := by
  cases content with
  | none => exact ⟨marks, Grows.refl h, Option.Rel.none⟩
  | some i =>
    obtain ⟨marks', hgrows, hpart⟩ := makeOne_holds opened h
      (⟨i, none, unowned⟩ : InterfacePart π) rfl
    exact ⟨marks', hgrows, Option.Rel.some ⟨hpart, List.Forall₂.nil⟩⟩

/-- What `virtual` has to do: it finds a virtual interface, whatever is in memory. -/
def FindsVirtualParts (find : String → Option (List SCNetworkInterface)) (n : ℕ)
    (virtual : InterfacePool π → Option (VirtualFound π) × InterfacePool π)
    (v : Option (VirtualParts π)) : Prop :=
  ∀ marks pool, Marked find n marks pool →
    ∃ marks', Grows find n unowned marks pool marks' (virtual pool).2 ∧
      Option.Rel (VirtualHolds n pool.cells.length pool.table.isSome marks' (virtual pool).2)
        (virtual pool).1 v

/-- A virtual interface that is found is what was found. One that has to be made is new. -/
theorem createVirtual_holds (sys : SystemInterfaces) (search : Search) (entity : InterfaceEntity)
    {virtual : InterfacePool π → Option (VirtualFound π) × InterfacePool π}
    {v : Option (VirtualParts π)} (hvirtual : FindsVirtualParts find n virtual v)
    (h : Marked find n marks pool) :
    ∃ marks', Grows find n unowned marks pool marks'
        (createVirtual sys search entity virtual pool).2 ∧
      Option.Rel (FoundHolds n pool.cells.length pool.table.isSome marks'
          (createVirtual sys search entity virtual pool).2)
        (createVirtual sys search entity virtual pool).1 (orVirtualParts sys search entity v) := by
  obtain ⟨marks₁, hgrows, hrel⟩ := hvirtual marks pool h
  rw [createVirtual]
  rcases hfound : virtual pool with ⟨found?, pool₁⟩
  rw [hfound] at hgrows hrel
  cases hrel with
  | none =>
    obtain ⟨marks₂, hgrows', hrel'⟩ := createFresh_holds pool.table.isSome
      hgrows.marked (baseInterface sys search entity)
    refine ⟨marks₂, hgrows.trans hgrows', ?_⟩
    exact optionRel_imp hrel' fun _ _ hholds => hholds.start_le hgrows.cells.length_le
  | @some found v hholds =>
    obtain ⟨marks₂, hgrows', hpart⟩ := makeOne_holds pool.table.isSome hgrows.marked
      (⟨hideVirtual search entity found.content, none, ⟨some found.prefs, none⟩⟩ :
        InterfacePart π) rfl
    refine ⟨marks₂, hgrows.trans hgrows', Option.Rel.some ⟨?_, ?_⟩⟩
    · rw [← hholds.content, ← hholds.prefs]
      exact hpart.start_le hgrows.cells.length_le
    · exact hholds.members.imp fun _ _ hmember => hmember.grows hgrows'

/-! ## What is found -/

theorem filterMap_eq_of_forall {α β : Type} {f : α → Option β} {l : List α} {values : List β}
    (hlen : l.length = values.length) (h : ∀ (i : ℕ) (a : α), l[i]? = some a → f a = values[i]?) :
    l.filterMap f = values := by
  induction l generalizing values with
  | nil => exact (List.length_eq_zero_iff.mp hlen.symm).symm
  | cons a l ih =>
    cases values with
    | nil => cases hlen
    | cons b values =>
      have ha : f a = some b := h 0 a rfl
      rw [List.filterMap_cons_some ha, ih (Nat.succ.inj hlen) fun i a ha => h (i + 1) a ha]

/-- What is found of an entity holds its parts. -/
theorem createFound_holds (sys : SystemInterfaces) (search : Search) (entity : InterfaceEntity)
    {virtual : InterfacePool π → Option (VirtualFound π) × InterfacePool π}
    {v : Option (VirtualParts π)} (hfind : findByBSDName sys search.keepHidden = find)
    (hvirtual : FindsVirtualParts find n virtual v) (h : Marked find n marks pool) :
    ∃ marks', Grows find n unowned marks pool marks'
        (createFound sys search entity virtual pool).2 ∧
      Option.Rel (FoundHolds n pool.cells.length pool.table.isSome marks'
          (createFound sys search entity virtual pool).2)
        (createFound sys search entity virtual pool).1 (foundParts sys search entity v) := by
  subst hfind
  rw [createFound, foundParts]
  cases cachedDevice search entity with
  | none =>
    dsimp only
    split_ifs
    · exact createFresh_holds _ h _
    · exact createVirtual_holds _ _ _ hvirtual h
  | some ifDevice =>
    dsimp only
    obtain ⟨marks₁, hgrows, hfetched⟩ := fetch_grows unowned h ifDevice
    rw [copyMatching]
    rcases hfetch : fetch unowned ifDevice (findByBSDName sys search.keepHidden ifDevice) pool with
      ⟨addresses?, pool₁⟩
    rw [hfetch] at hgrows hfetched
    cases addresses? with
    | none =>
      dsimp only at hfetched hgrows ⊢
      rw [hfetched]
      obtain ⟨marks₂, hgrows', hrel⟩ := createFresh_holds pool.table.isSome
        hgrows.marked (baseInterface sys search entity)
      exact ⟨marks₂, hgrows.trans hgrows',
        optionRel_imp hrel fun _ _ hholds => hholds.start_le hgrows.cells.length_le⟩
    | some addresses =>
      obtain ⟨values, hvalues, hfetched⟩ := hfetched
      dsimp only at hgrows hfetched ⊢
      rw [hvalues, filterMap_eq_of_forall hfetched.length hfetched.value]
      dsimp only
      cases hindex : matchingIndex entity values with
      | none =>
        obtain ⟨marks₂, hgrows', hrel⟩ := createVirtual_holds sys search entity hvirtual
          hgrows.marked
        refine ⟨marks₂, hgrows.trans hgrows', optionRel_imp hrel fun _ _ hholds => ?_⟩
        rw [hgrows.isOpen] at hholds
        exact hholds.start_le hgrows.cells.length_le
      | some k =>
        -- an object of the registry
        have hk := matchingIndex_lt hindex
        have hk' : k < addresses.length := by rw [hfetched.length]; exact hk
        dsimp only
        rw [List.getElem?_eq_getElem hk, List.getElem?_eq_getElem hk']
        have ha : addresses[k]? = some addresses[k] := List.getElem?_eq_getElem hk'
        refine ⟨marks₁, hgrows, Option.Rel.some ⟨⟨?_, ?_, ?_⟩, List.Forall₂.nil⟩⟩
        · rw [hfetched.value k _ ha, List.getElem?_eq_getElem hk]
        · intro device index hslot hopened
          cases hslot
          exact hfetched.remembered hopened k _ ha
        · intro hfresh
          obtain hnone | hclosed := hfresh
          · cases hnone
          · exact hfetched.fresh (by simp [hclosed]) _ (List.getElem_mem hk')

/-! ## Virtual interfaces -/

theorem findsVirtualParts_none :
    FindsVirtualParts find n (fun pool : InterfacePool π => (none, pool)) none :=
  fun marks _ h => ⟨marks, Grows.refl h, Option.Rel.none⟩

variable {w : InterfaceWorld π}

/-- Members hold their parts. -/
theorem addInterfaces_holds (hfind : findByBSDName w.registry true = find)
    (members : List VirtualMember) (h : Marked find n marks pool) :
    ∃ marks', Grows find n unowned marks pool marks' (addInterfaces w members pool).2 ∧
      List.Forall₂ (HoldsPart n pool.cells.length pool.table.isSome marks'
          (addInterfaces w members pool).2)
        (addInterfaces w members pool).1 (members.filterMap w.memberPart) := by
  induction members generalizing marks pool with
  | nil => exact ⟨marks, Grows.refl h, List.Forall₂.nil⟩
  | cons member members ih =>
    cases member with
    | stored i =>
      obtain ⟨marks₁, hgrows, hpart⟩ := makeOne_holds pool.table.isSome h
        (⟨i, none, unowned⟩ : InterfacePart π) rfl
      obtain ⟨marks₂, hgrows', hrest⟩ := ih hgrows.marked
      rw [hgrows.isOpen] at hrest
      refine ⟨marks₂, hgrows.trans hgrows', List.Forall₂.cons (hpart.grows hgrows') ?_⟩
      exact hrest.imp fun _ _ hmember => hmember.start_le hgrows.cells.length_le
    | device bsdName =>
      obtain ⟨marks₁, hgrows, hrel⟩ := createFound_holds w.registry .system
        (memberEntity bsdName) hfind findsVirtualParts_none h
      rw [addInterfaces, createMember]
      rcases hfound : createFound w.registry .system (memberEntity bsdName)
        (fun pool => (none, pool)) pool with ⟨found?, pool₁⟩
      rw [hfound] at hgrows hrel
      obtain ⟨marks₂, hgrows', hrest⟩ := ih hgrows.marked
      rw [hgrows.isOpen] at hrest
      refine ⟨marks₂, hgrows.trans hgrows', ?_⟩
      have hrest' := hrest.imp fun _ _ hmember => hmember.start_le hgrows.cells.length_le
      dsimp only at hrel ⊢
      generalize hparts : foundParts w.registry .system (memberEntity bsdName)
        (none : Option (VirtualParts π)) = parts? at hrel
      have hmember : w.memberPart (.device bsdName) = parts?.map InterfaceParts.interface := by
        rw [InterfaceWorld.memberPart, hparts]
      cases hrel with
      | none =>
        rw [List.filterMap_cons_none hmember]
        exact hrest'
      | some hholds =>
        rw [List.filterMap_cons_some hmember]
        exact List.Forall₂.cons (hholds.interface.grows hgrows') hrest'

/-- The contents of a list of addresses are those of the parts. -/
theorem filterMap_value_of_holds {addresses : List ℕ} {parts : List (InterfacePart π)}
    (h : List.Forall₂ (HoldsPart n start opened marks pool) addresses parts) :
    addresses.filterMap pool.value? = parts.map InterfacePart.content := by
  induction h with
  | nil => rfl
  | cons hpart _ ih => rw [List.filterMap_cons_some hpart.value, ih, List.map_cons]

theorem VirtualHolds.grows {found : VirtualFound π} {v : VirtualParts π}
    (h : VirtualHolds n start opened marks pool found v)
    (hgrows : Grows find n unowned marks pool marks' pool') :
    VirtualHolds n start opened marks' pool' found v :=
  { h with members := h.members.imp fun _ _ hpart => hpart.grows hgrows }

theorem VirtualHolds.start_le {start' : ℕ} {found : VirtualFound π} {v : VirtualParts π}
    (h : VirtualHolds n start opened marks pool found v) (hle : start' ≤ start) :
    VirtualHolds n start' opened marks pool found v :=
  { h with members := h.members.imp fun _ _ hpart => hpart.start_le hle }

/-- Virtual interfaces hold their parts. -/
theorem copyAllVirtual_holds (hfind : findByBSDName w.registry true = find) (p : π)
    (shapes : List VirtualShape) (h : Marked find n marks pool) :
    ∃ marks', Grows find n unowned marks pool marks' (copyAllVirtual w p shapes pool).2 ∧
      List.Forall₂ (VirtualHolds n pool.cells.length pool.table.isSome marks'
          (copyAllVirtual w p shapes pool).2)
        (copyAllVirtual w p shapes pool).1 (shapes.map (w.shapeParts p)) := by
  induction shapes generalizing marks pool with
  | nil => exact ⟨marks, Grows.refl h, List.Forall₂.nil⟩
  | cons shape shapes ih =>
    obtain ⟨marks₁, hgrows, hmembers⟩ := addInterfaces_holds hfind shape.members h
    obtain ⟨marks₂, hgrows', hrest⟩ := ih hgrows.marked
    rw [hgrows.isOpen] at hrest
    refine ⟨marks₂, hgrows.trans hgrows', List.Forall₂.cons ⟨?_, rfl, ?_⟩ ?_⟩
    · exact congrArg shape.make (filterMap_value_of_holds hmembers)
    · exact hmembers.imp fun _ _ hmember => hmember.grows hgrows'
    · exact hrest.imp fun _ _ hvirtual => hvirtual.start_le hgrows.cells.length_le

/-- The search among objects finds what the search among contents finds. -/
theorem find?_holds (ifDevice : String) {all : List (VirtualFound π)} {vs : List (VirtualParts π)}
    (h : List.Forall₂ (VirtualHolds n start opened marks pool) all vs) :
    Option.Rel (VirtualHolds n start opened marks pool)
      (all.find? fun found => found.content.info.entityDevice = some ifDevice)
      (vs.find? fun v => v.content.info.entityDevice = some ifDevice) := by
  induction h with
  | nil => exact Option.Rel.none
  | @cons found v all vs hholds _ ih =>
    rw [List.find?_cons, List.find?_cons, hholds.content]
    split
    · exact Option.Rel.some hholds
    · exact ih

/-- The kinds are searched in order: bonds, bridges, VLANs. -/
theorem findInKinds_holds (hfind : findByBSDName w.registry true = find) (p : π)
    (ifDevice : String) (kinds : List (List VirtualShape)) (h : Marked find n marks pool) :
    ∃ marks', Grows find n unowned marks pool marks' (findInKinds w p ifDevice kinds pool).2 ∧
      Option.Rel (VirtualHolds n pool.cells.length pool.table.isSome marks'
          (findInKinds w p ifDevice kinds pool).2)
        (findInKinds w p ifDevice kinds pool).1 (w.kindsParts p ifDevice kinds) := by
  induction kinds generalizing marks pool with
  | nil => exact ⟨marks, Grows.refl h, Option.Rel.none⟩
  | cons shapes kinds ih =>
    obtain ⟨marks₁, hgrows, hall⟩ := copyAllVirtual_holds hfind p shapes h
    have hrel := find?_holds ifDevice hall
    rw [findInKinds, InterfaceWorld.kindsParts, List.findSome?_cons]
    rcases hcopy : copyAllVirtual w p shapes pool with ⟨all, pool₁⟩
    rw [hcopy] at hgrows hrel
    dsimp only at hrel hgrows ⊢
    generalize (shapes.map (w.shapeParts p)).find?
      (fun v => v.content.info.entityDevice = some ifDevice) = v? at hrel ⊢
    generalize all.find? (fun found => found.content.info.entityDevice = some ifDevice) = found?
      at hrel ⊢
    cases hrel with
    | some hholds => exact ⟨marks₁, hgrows, Option.Rel.some hholds⟩
    | none =>
      obtain ⟨marks₂, hgrows', hrel'⟩ := ih hgrows.marked
      rw [hgrows.isOpen] at hrel'
      exact ⟨marks₂, hgrows.trans hgrows',
        optionRel_imp hrel' fun _ _ hholds => hholds.start_le hgrows.cells.length_le⟩

/-- The virtual interface of an entity is found, whatever is in memory. -/
theorem findVirtualInterface_finds (hfind : findByBSDName w.registry true = find)
    (caller : InterfaceCaller π) (entity : InterfaceEntity) :
    FindsVirtualParts find n (findVirtualInterface w caller entity)
      (w.virtualParts caller entity) := by
  intro marks pool h
  unfold findVirtualInterface InterfaceWorld.virtualParts
  rcases virtualKinds w caller entity with - | ⟨p, kinds⟩
  · exact ⟨marks, Grows.refl h, Option.Rel.none⟩
  · cases entity.deviceName with
    | none => exact ⟨marks, Grows.refl h, Option.Rel.none⟩
    | some ifDevice => exact findInKinds_holds hfind p ifDevice kinds h

/-! ## What is returned -/

/-- What is returned is what is found, perhaps below a new interface. -/
inductive CreatedOf (marks : List (Mark String)) (pool : InterfacePool π) (c : Creation π)
    (label : InterfaceOwner π) (found : FoundInterface) (parts : InterfaceParts π)
    (created : CreatedInterface) (parts' : InterfaceParts π) : Prop where
  /-- not layered -/
  | plain (hinterface : created.interface = found.interface)
    (hparts : created.parts = found.members)
    (hplain : parts' = ⟨c.owned parts.interface, parts.others.map c.owned⟩)
  /-- layered -/
  | layered (parent : SCNetworkInterface)
    (hparts : created.parts = found.interface :: found.members)
    (hlayered : parts' = ⟨⟨parent, none, (c.owned parts.interface).owner⟩,
      c.owned parts.interface :: parts.others.map c.owned⟩)
    (hvalue : pool.value? created.interface = some parent)
    (hlabel : pool.label? created.interface = some label)
    (hmark : marks[created.interface]? = some (Mark.fresh created.interface))

/-- What is said of the parts that are found, and of a new interface, is said of all parts. -/
theorem CreatedOf.forall₂ {c : Creation π} {label : InterfaceOwner π} {found : FoundInterface}
    {parts parts' : InterfaceParts π} {created : CreatedInterface}
    {R : ℕ → InterfacePart π → Prop}
    (h : CreatedOf marks pool c label found parts created parts')
    (hfound : List.Forall₂ (fun a part => R a (c.owned part)) (found.interface :: found.members)
      (parts.interface :: parts.others))
    (hnew : ∀ a parent, pool.value? a = some parent → pool.label? a = some label →
      marks[a]? = some (Mark.fresh a) → R a ⟨parent, none, (c.owned parts.interface).owner⟩) :
    List.Forall₂ R (created.interface :: created.parts) (parts'.interface :: parts'.others) := by
  have hmap := List.forall₂_map_right_iff.mpr hfound
  cases h with
  | plain hinterface hparts hplain =>
    rw [hinterface, hparts, hplain]
    exact hmap
  | layered parent hparts hlayered hvalue hlabel hmark =>
    rw [hparts, hlayered]
    exact List.Forall₂.cons (hnew _ _ hvalue hlabel hmark) hmap

/-- PPP and VPN are layered on what is found. -/
theorem createParent_of {c : Creation π} {found : FoundInterface} {parts : InterfaceParts π}
    {label : InterfaceOwner π} (hparts : c.found w = some parts) (h : Marked find n marks pool)
    (hcell : pool.cells[found.interface]? = some ⟨parts.interface.content, label⟩) :
    ∃ marks', Grows find n unowned marks pool marks'
        (createParent (c.entity.type.getD "Ethernet") found pool).2 ∧
      Option.Rel (CreatedOf marks' (createParent (c.entity.type.getD "Ethernet") found pool).2 c
          label found parts)
        (createParent (c.entity.type.getD "Ethernet") found pool).1 (c.createdParts w) := by
  rw [createParent, Creation.createdParts, hparts, Option.bind_some]
  dsimp only
  split_ifs with hlayered
  · rw [hcell]
    dsimp only
    cases layerInterface (c.entity.type.getD "Ethernet") parts.interface.content with
    | none => exact ⟨marks, Grows.refl h, Option.Rel.none⟩
    | some parent =>
      obtain ⟨marks', hgrows, hpart⟩ := makeOne_holds false h
        (⟨parent, none, label⟩ : InterfacePart π) rfl
      obtain ⟨-, hmark, hlabel⟩ := hpart.fresh (Or.inl rfl)
      exact ⟨marks', hgrows,
        Option.Rel.some (CreatedOf.layered parent rfl rfl hpart.value hlabel hmark)⟩
  · exact ⟨marks, Grows.refl h, Option.Rel.some (CreatedOf.plain rfl rfl rfl)⟩

end ConfigdExtra
