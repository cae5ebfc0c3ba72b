import ConfigdExtra.InterfaceSharing

/-!
# Whose the interfaces are

While the cache is open, an interface of the registry is for the service that it was last created
for.

* `slotOwner` — whose an interface of the registry is after some creations.
* `createdParts_owner` — whose it was created for.
* `Owners` — this is so in memory; `Owners.grows`, `Owners.setService` — it stays so when objects
  are made and when the service is set.
-/

namespace ConfigdExtra

open ObjectPool

variable {π : Type} {w : InterfaceWorld π} {find : String → Option (List SCNetworkInterface)}
  {n m start : ℕ} {opened : Bool} {marks marks' : List (Mark String)} {pool pool' : InterfacePool π}
  {xs : List (Option ℕ × Creation π)} {c : Creation π} {found : FoundInterface}
  {parts : InterfaceParts π}

/-! ## Owners -/

theorem owner?_ne_unowned {caller : InterfaceCaller π} {owner : InterfaceOwner π}
    (h : caller.owner? = some owner) : owner ≠ unowned := by
  cases caller with
  | service prefs serviceID =>
    cases h
    intro hunowned
    cases congrArg InterfaceOwner.serviceID hunowned
  | _ => cases h

/-- Whose an interface of the registry is after some creations, each with the number of the cache
that is open. -/
def slotOwner (w : InterfaceWorld π) (n : ℕ) (slot : String × ℕ)
    (xs : List (Option ℕ × Creation π)) : InterfaceOwner π :=
  xs.foldl (fun owner x => if x.1 = some n ∧ slot ∈ x.2.slots w
    then x.2.caller.owner?.getD owner else owner) unowned

/-- Of several callers that have a service, the last one is the owner. -/
theorem slotOwner_concat (n : ℕ) (slot : String × ℕ) (xs : List (Option ℕ × Creation π))
    (x : Option ℕ × Creation π) :
    slotOwner w n slot (xs ++ [x]) =
      if x.1 = some n ∧ slot ∈ x.2.slots w then x.2.caller.owner?.getD (slotOwner w n slot xs)
      else slotOwner w n slot xs :=
  List.foldl_concat ..

/-- What no caller with a service has asked for has no owner. -/
theorem slotOwner_of_unclaimed {slot : String × ℕ}
    (h : ∀ x ∈ xs, x.1 = some n → slot ∈ x.2.slots w → x.2.caller.owner? = none) :
    slotOwner w n slot xs = unowned := by
  induction xs using List.reverseRecOn with
  | nil => rfl
  | append_singleton xs x ih =>
    have hxs := ih fun y hy => h y (List.mem_append_left _ hy)
    rw [slotOwner_concat, hxs]
    split_ifs with hseen
    · rw [h x (List.mem_append_right _ (List.mem_singleton_self x)) hseen.1 hseen.2]
      rfl
    · rfl

/-- An interface that is for a service stays for one. -/
theorem slotOwner_ne_unowned {slot : String × ℕ} (x : Option ℕ × Creation π)
    (h : slotOwner w n slot xs ≠ unowned) : slotOwner w n slot (xs ++ [x]) ≠ unowned := by
  rw [slotOwner_concat]
  split_ifs
  · cases howner : x.2.caller.owner? with
    | none => exact h
    | some owner => exact owner?_ne_unowned howner
  · exact h

/-- What one has asked for has an owner from then on. -/
theorem slotOwner_of_claimed {slot : String × ℕ} {x : Option ℕ × Creation π} (hx : x ∈ xs)
    (hn : x.1 = some n) (hslot : slot ∈ x.2.slots w) {owner : InterfaceOwner π}
    (howner : x.2.caller.owner? = some owner) : slotOwner w n slot xs ≠ unowned := by
  induction xs using List.reverseRecOn with
  | nil => cases hx
  | append_singleton xs y ih =>
    obtain hx | hx := List.mem_append.mp hx
    · exact slotOwner_ne_unowned y (ih hx)
    · rw [List.mem_singleton.mp hx] at hn hslot howner
      rw [slotOwner_concat, if_pos ⟨hn, hslot⟩, howner]
      exact owner?_ne_unowned howner

/-! ## Parts of the registry -/

/-- What is in the registry is nobody's. -/
def InterfacePart.Blank (part : InterfacePart π) : Prop :=
  part.slot.isSome → part.owner = unowned

/-- Every way of making or finding an interface gives parts without an owner. The owner is set
afterwards, in one place. -/
theorem freshParts_blank {content : Option SCNetworkInterface}
    (h : freshParts content = some parts) :
    ∀ part ∈ parts.interface :: parts.others, part.Blank := by
  obtain ⟨i, -, rfl⟩ := Option.map_eq_some_iff.mp h
  intro part hpart hslot
  rw [List.mem_singleton.mp hpart]

theorem orVirtualParts_blank {sys : SystemInterfaces} {search : Search} {entity : InterfaceEntity}
    {v : Option (VirtualParts π)} (hvirtual : ∀ v', v = some v' → ∀ part ∈ v'.members, part.Blank)
    (h : orVirtualParts sys search entity v = some parts) :
    ∀ part ∈ parts.interface :: parts.others, part.Blank := by
  cases v with
  | none => exact freshParts_blank h
  | some v =>
    cases h
    intro part hpart
    obtain rfl | hpart := List.mem_cons.mp hpart
    · intro hslot
      cases hslot
    · exact hvirtual v rfl part hpart

theorem foundParts_blank {sys : SystemInterfaces} {search : Search} {entity : InterfaceEntity}
    {v : Option (VirtualParts π)} (hvirtual : ∀ v', v = some v' → ∀ part ∈ v'.members, part.Blank)
    (h : foundParts sys search entity v = some parts) :
    ∀ part ∈ parts.interface :: parts.others, part.Blank := by
  rw [foundParts] at h
  split at h
  · split at h
    · exact freshParts_blank h
    · split at h
      · obtain ⟨i, -, rfl⟩ := Option.map_eq_some_iff.mp h
        intro part hpart hslot
        rw [List.mem_singleton.mp hpart]
      · exact orVirtualParts_blank hvirtual h
  · split_ifs at h
    · exact freshParts_blank h
    · exact orVirtualParts_blank hvirtual h

theorem memberPart_blank {member : VirtualMember} {part : InterfacePart π}
    (h : w.memberPart member = some part) : part.Blank := by
  cases member with
  | stored i =>
    cases h
    exact fun _ => rfl
  | device bsdName =>
    obtain ⟨parts, hparts, rfl⟩ := Option.map_eq_some_iff.mp h
    exact foundParts_blank (fun v hv => by cases hv) hparts _ List.mem_cons_self

theorem virtualParts_blank {caller : InterfaceCaller π} {entity : InterfaceEntity}
    {v : VirtualParts π} (h : w.virtualParts caller entity = some v) :
    ∀ part ∈ v.members, part.Blank := by
  rw [InterfaceWorld.virtualParts] at h
  split at h
  · obtain ⟨shapes, -, hfind⟩ := List.exists_of_findSome?_eq_some h
    obtain ⟨shape, -, rfl⟩ := List.mem_map.mp (List.mem_of_find?_eq_some hfind)
    intro part hpart
    obtain ⟨member, -, hmember⟩ := List.mem_filterMap.mp hpart
    exact memberPart_blank hmember
  · cases h

theorem Creation.found_blank (h : c.found w = some parts) :
    ∀ part ∈ parts.interface :: parts.others, part.Blank :=
  foundParts_blank (fun _ hv => virtualParts_blank hv) h

/-- The interfaces of the registry that an interface is made of -/
theorem Creation.createdParts_slots (h : c.createdParts w = some parts) :
    (parts.interface :: parts.others).filterMap InterfacePart.slot = c.slots w := by
  obtain ⟨found, hfound, h⟩ := Option.bind_eq_some_iff.mp h
  have howned : ∀ l : List (InterfacePart π),
      (l.map c.owned).filterMap InterfacePart.slot = l.filterMap InterfacePart.slot :=
    fun l => List.filterMap_map
  rw [Creation.slots, hfound]
  dsimp only at h ⊢
  split_ifs at h
  · obtain ⟨parent, -, rfl⟩ := Option.map_eq_some_iff.mp h
    rw [List.filterMap_cons_none rfl]
    exact howned (found.interface :: found.others)
  · cases h
    exact howned (found.interface :: found.others)

/-- After it is set, the owner of what has a slot is the service of the caller. -/
theorem Creation.createdParts_owner (h : c.createdParts w = some parts) {part : InterfacePart π}
    (hpart : part ∈ parts.interface :: parts.others) (hslot : part.slot.isSome) :
    part.owner = c.caller.owner?.getD unowned := by
  obtain ⟨found, hfound, h⟩ := Option.bind_eq_some_iff.mp h
  have howned : ∀ part' ∈ (found.interface :: found.others).map c.owned, part'.slot.isSome →
      part'.owner = c.caller.owner?.getD unowned := by
    intro part' hpart' hslot'
    obtain ⟨part, hpart, rfl⟩ := List.mem_map.mp hpart'
    exact congrArg c.caller.owner?.getD (Creation.found_blank hfound part hpart hslot')
  dsimp only at h
  split_ifs at h
  · obtain ⟨parent, -, rfl⟩ := Option.map_eq_some_iff.mp h
    obtain rfl | hpart := List.mem_cons.mp hpart
    · cases hslot
    · exact howned part hpart hslot
  · cases h
    exact howned part hpart hslot

/-! ## Setting the service -/

theorem exists_of_mem_left {α β : Type} {R : α → β → Prop} {l : List α} {l' : List β}
    (h : List.Forall₂ R l l') {a : α} (ha : a ∈ l) : ∃ b ∈ l', R a b := by
  induction h with
  | nil => cases ha
  | @cons a' b l l' hab _ ih =>
    obtain rfl | ha := List.mem_cons.mp ha
    · exact ⟨b, List.mem_cons_self, hab⟩
    · obtain ⟨b', hb', hR⟩ := ih ha
      exact ⟨b', List.mem_cons_of_mem _ hb', hR⟩

/-- The interface and its members, as one list. -/
theorem FoundHolds.all (h : FoundHolds n start opened marks pool found parts) :
    List.Forall₂ (HoldsPart n start opened marks pool) (found.interface :: found.members)
      (parts.interface :: parts.others) :=
  List.Forall₂.cons h.interface h.members

/-- An interface of the registry is where its mark says. -/
theorem FoundHolds.exists_address (h : FoundHolds n start opened marks pool found parts)
    (hopened : opened = true) {slot : String × ℕ}
    (hslot : slot ∈ (parts.interface :: parts.others).filterMap InterfacePart.slot) :
    ∃ a ∈ found.interface :: found.members,
      marks[a]? = some (Mark.remembered n slot.1 slot.2) := by
  obtain ⟨part, hpart, hslot⟩ := List.mem_filterMap.mp hslot
  obtain ⟨a, ha, hholds⟩ := exists_of_mem_left h.all.flip hpart
  exact ⟨a, ha, hholds.remembered slot.1 slot.2 hslot hopened⟩

theorem FoundHolds.slot_of_address (h : FoundHolds n start opened marks pool found parts) {a : ℕ}
    (ha : a ∈ found.interface :: found.members) {ifDevice : String} {k : ℕ}
    (hmark : marks[a]? = some (Mark.remembered m ifDevice k)) :
    opened = true ∧ m = n ∧
      (ifDevice, k) ∈ (parts.interface :: parts.others).filterMap InterfacePart.slot := by
  obtain ⟨part, hpart, hholds⟩ := exists_of_mem_left h.all ha
  by_cases hfresh : part.slot = none ∨ opened = false
  · have hcase := (hholds.fresh hfresh).2.1.symm.trans hmark
    cases hcase
  · rw [not_or, Bool.not_eq_false] at hfresh
    obtain ⟨slot, hslot⟩ := Option.ne_none_iff_exists'.mp hfresh.1
    have hmark' := hholds.remembered slot.1 slot.2 hslot hfresh.2
    rw [hmark] at hmark'
    cases hmark'
    exact ⟨hfresh.2, rfl, List.mem_filterMap.mpr ⟨part, hpart, hslot⟩⟩

/-- What was made before is not what is found, unless it is remembered. -/
theorem FoundHolds.notMem_of_fresh (h : FoundHolds n start opened marks pool found parts) {a : ℕ}
    (hlt : a < start) (hmark : marks[a]? = some (Mark.fresh a)) :
    a ∉ found.interface :: found.members := by
  intro ha
  obtain ⟨part, hpart, hholds⟩ := exists_of_mem_left h.all ha
  by_cases hfresh : part.slot = none ∨ opened = false
  · exact absurd (hholds.fresh hfresh).1 (by omega)
  · rw [not_or, Bool.not_eq_false] at hfresh
    obtain ⟨slot, hslot⟩ := Option.ne_none_iff_exists'.mp hfresh.1
    have hcase := hmark.symm.trans (hholds.remembered slot.1 slot.2 hslot hfresh.2)
    cases hcase

section

variable (owner? : Option (InterfaceOwner π)) (found : FoundInterface)

/-- The owner is a label: the contents are not touched. -/
theorem value?_setService (pool : InterfacePool π) (a : ℕ) :
    (setService owner? found pool).value? a = pool.value? a := by
  cases owner? with
  | none => rfl
  | some owner => exact value?_relabel owner _ pool a

/-- What was found gets the owner, if the caller has a service. -/
theorem label?_setService_of_mem {a : ℕ} (ha : a ∈ found.interface :: found.members)
    (pool : InterfacePool π) :
    (setService owner? found pool).label? a = (pool.label? a).map owner?.getD := by
  cases owner? with
  | none => exact (congrFun Option.map_id_fun' _).symm
  | some owner =>
    rw [setService, label?_relabel]
    simp only [if_pos ha]
    rfl

/-- And nothing else does. -/
theorem label?_setService_of_notMem {a : ℕ} (ha : a ∉ found.interface :: found.members)
    (pool : InterfacePool π) : (setService owner? found pool).label? a = pool.label? a := by
  cases owner? with
  | none => rfl
  | some owner =>
    rw [setService, label?_relabel]
    simp only [if_neg ha]
    exact congrFun Option.map_id_fun' _

theorem marked_setService (h : Marked find n marks pool) :
    Marked find n marks (setService owner? found pool) := by
  cases owner? with
  | none => exact h
  | some owner => exact h.relabel owner _

theorem isSome_setService : (setService owner? found pool).table = pool.table := by
  cases owner? <;> rfl

end

/-! ## Owners in memory -/

/-- Each interface of the registry is for the service that it was last created for. -/
structure Owners (w : InterfaceWorld π) (marks : List (Mark String)) (pool : InterfacePool π)
    (xs : List (Option ℕ × Creation π)) : Prop where
  /-- what was looked up is in memory -/
  seen : ∀ x ∈ xs, ∀ m, x.1 = some m → ∀ slot ∈ x.2.slots w,
    Mark.remembered m slot.1 slot.2 ∈ marks
  /-- whose it is -/
  owner : ∀ a m ifDevice k, marks[a]? = some (Mark.remembered m ifDevice k) →
    pool.label? a = some (slotOwner w m (ifDevice, k) xs)

/-- Objects that are added change no owner. -/
theorem Owners.grows (h : Owners w marks pool xs) (hmarked : Marked find n marks pool)
    (hgrows : Grows find n unowned marks pool marks' pool') : Owners w marks' pool' xs where
  seen := fun x hx m hm slot hslot => hgrows.marks.subset (h.seen x hx m hm slot hslot)
  owner := by
    intro a m ifDevice k hmark
    by_cases hlt : a < pool.cells.length
    · have hold : marks[a]? = some (Mark.remembered m ifDevice k) := by
        obtain ⟨rest, hrest⟩ := hgrows.marks
        have hlt' : a < marks.length := by rw [hmarked.length]; exact hlt
        rw [← hrest, List.getElem?_append_left hlt'] at hmark
        exact hmark
      rw [label?_extends hgrows.cells hlt]
      exact h.owner a m ifDevice k hold
    · -- a new object, which nobody has looked up
      rw [hgrows.blank a m ifDevice k (by omega) hmark, slotOwner_of_unclaimed]
      intro x hx hm hslot
      obtain ⟨b, hb⟩ := List.getElem?_of_mem (h.seen x hx m hm _ hslot)
      have hab := hgrows.marked.eq_of_mark hmark (getElem?_extends hgrows.marks hb)
      have hblt : b < marks.length := (List.getElem?_eq_some_iff.mp hb).1
      rw [hmarked.length] at hblt
      omega

/-- Nothing of the registry is found. -/
theorem Owners.concat_nil (h : Owners w marks pool xs) {x : Option ℕ × Creation π}
    (hslots : x.2.slots w = []) : Owners w marks pool (xs ++ [x]) where
  seen := by
    intro y hy m hm slot hslot
    obtain hy | hy := List.mem_append.mp hy
    · exact h.seen y hy m hm slot hslot
    · rw [List.mem_singleton.mp hy, hslots] at hslot
      cases hslot
  owner := by
    intro a m ifDevice k hmark
    rw [slotOwner_concat, if_neg (by simp [hslots])]
    exact h.owner a m ifDevice k hmark

/-- What is found is for the service that it is created for. -/
theorem Owners.setService (h : Owners w marks pool xs) (hmarked : Marked find n marks pool)
    (hfound : c.found w = some parts)
    (hholds : FoundHolds n start opened marks pool found parts) :
    Owners w marks (setService c.caller.owner? found pool) (xs ++ [(cacheWindow opened n, c)]) := by
  have hslots : c.slots w =
      (parts.interface :: parts.others).filterMap InterfacePart.slot := by
    rw [Creation.slots, hfound]
  have hwindow : ∀ {m}, cacheWindow opened n = some m → opened = true ∧ m = n := by
    intro m hm
    cases opened with
    | true => exact ⟨rfl, (Option.some.inj hm).symm⟩
    | false => cases hm
  constructor
  case seen =>
    intro y hy m hm slot hslot
    obtain hy | hy := List.mem_append.mp hy
    · exact h.seen y hy m hm slot hslot
    · rw [List.mem_singleton.mp hy] at hm hslot
      obtain ⟨hopened, rfl⟩ := hwindow hm
      rw [hslots] at hslot
      obtain ⟨a, -, hmark⟩ := hholds.exists_address hopened hslot
      exact List.mem_of_getElem? hmark
  case owner =>
    intro a m ifDevice k hmark
    rw [slotOwner_concat]
    by_cases ha : a ∈ found.interface :: found.members
    · obtain ⟨hopened, rfl, hslot⟩ := hholds.slot_of_address ha hmark
      have hnow : cacheWindow opened m = some m := by rw [cacheWindow, if_pos hopened]
      rw [if_pos ⟨hnow, hslots ▸ hslot⟩, label?_setService_of_mem _ _ ha,
        h.owner a m ifDevice k hmark]
      rfl
    · have hunseen : ¬ (cacheWindow opened n = some m ∧ (ifDevice, k) ∈ c.slots w) := by
        rintro ⟨hm, hslot⟩
        obtain ⟨hopened, rfl⟩ := hwindow hm
        obtain ⟨a', ha', hmark'⟩ := hholds.exists_address hopened (hslots ▸ hslot)
        rw [hmarked.eq_of_mark hmark hmark'] at ha
        exact ha ha'
      rw [if_neg hunseen, label?_setService_of_notMem _ _ ha]
      exact h.owner a m ifDevice k hmark

end ConfigdExtra
