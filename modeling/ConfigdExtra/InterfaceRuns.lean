import ConfigdExtra.InterfaceOwners
import ConfigdExtra.InterfaceStorage

/-!
# Runs of the interface cache

* `CacheInv`, `createInterface_inv`, `runCache_inv` — what is in memory, in every state of a run.
* `runCache_content` — what is returned is what `createWithEntity` says.
* `KeepsInterfaces` — every interface is what was created, and for whom, all the time.
* `Creation.Spares` — a creation does not take an object away from an earlier one, and does not
  come by its service.
* `runCache_kept_iff` — the interfaces are kept if and only if each creation spares the earlier
  ones.
-/

namespace ConfigdExtra

open ObjectPool

variable {π : Type} {w : InterfaceWorld π} {n m start : ℕ} {opened : Bool}
  {marks marks' : List (Mark String)} {pool pool' : InterfacePool π}
  {xs : List (Option ℕ × Creation π)} {c : Creation π} {found : FoundInterface}
  {parts : InterfaceParts π}

/-! ## Interfaces that were created -/

/-- An interface for nobody is made of one that is for a service. -/
def TakenOver (w : InterfaceWorld π) (xs : List (Option ℕ × Creation π))
    (x : Option ℕ × Creation π) : Prop :=
  x.2.caller.owner? = none ∧
    ∃ m slot, x.1 = some m ∧ slot ∈ x.2.slots w ∧ slotOwner w m slot xs ≠ unowned

/-- An object that holds a part of an interface that was created. What is layered on an interface
that is for another service is for that service. -/
def RecordedPart (w : InterfaceWorld π) (xs : List (Option ℕ × Creation π))
    (marks : List (Mark String)) (pool : InterfacePool π) (x : Option ℕ × Creation π) (a : ℕ)
    (part : InterfacePart π) : Prop :=
  pool.value? a = some part.content ∧
    (HoldsPart (x.1.getD 0) 0 x.1.isSome marks pool a part ∨
      part.slot = none ∧ TakenOver w xs x)

/-- An interface that was created is still in memory. -/
def Recorded (w : InterfaceWorld π) (xs : List (Option ℕ × Creation π))
    (marks : List (Mark String)) (pool : InterfacePool π) (x : Option ℕ × Creation π)
    (r : Creation π × Option CreatedInterface) : Prop :=
  r.1 = x.2 ∧ Option.Rel (fun created parts => List.Forall₂ (RecordedPart w xs marks pool x)
    (created.interface :: created.parts) (parts.interface :: parts.others)) r.2
      (x.2.createdParts w)

theorem TakenOver.concat {x : Option ℕ × Creation π} (h : TakenOver w xs x)
    (y : Option ℕ × Creation π) : TakenOver w (xs ++ [y]) x := by
  obtain ⟨howner, m, slot, hm, hslot, hne⟩ := h
  exact ⟨howner, m, slot, hm, hslot, slotOwner_ne_unowned y hne⟩

theorem Recorded.imp {xs' : List (Option ℕ × Creation π)} {x : Option ℕ × Creation π}
    {r : Creation π × Option CreatedInterface} (h : Recorded w xs marks pool x r)
    (hvalue : ∀ a i, pool.value? a = some i → pool'.value? a = some i)
    (hparts : ∀ a part, HoldsPart (x.1.getD 0) 0 x.1.isSome marks pool a part →
      HoldsPart (x.1.getD 0) 0 x.1.isSome marks' pool' a part)
    (htaken : TakenOver w xs x → TakenOver w xs' x) : Recorded w xs' marks' pool' x r :=
  ⟨h.1, optionRel_imp h.2 fun _ _ hall => hall.imp fun a part hpart =>
    hpart.imp (hvalue a _) (Or.imp (hparts a part) (And.imp_right htaken))⟩

theorem HoldsPart.cacheWindow {a : ℕ} {part : InterfacePart π}
    (h : HoldsPart n start opened marks pool a part) :
    HoldsPart ((cacheWindow opened n).getD 0) 0 (cacheWindow opened n).isSome marks pool a
      part where
  value := h.value
  remembered := by
    intro ifDevice k hslot hopened
    cases opened with
    | true => exact h.remembered ifDevice k hslot rfl
    | false => cases hopened
  fresh := by
    intro hfresh
    have hfresh' : part.slot = none ∨ opened = false := by
      cases opened with
      | true => exact hfresh
      | false => exact Or.inr rfl
    exact ⟨Nat.zero_le a, (h.fresh hfresh').2⟩

/-- What was made before is not changed. -/
theorem HoldsPart.setService {n' : ℕ} {opened' : Bool} {a : ℕ} {part : InterfacePart π}
    (h : HoldsPart n' 0 opened' marks pool a part) (hlt : a < start)
    (hholds : FoundHolds n start opened marks pool found parts)
    (owner? : Option (InterfaceOwner π)) :
    HoldsPart n' 0 opened' marks (ConfigdExtra.setService owner? found pool) a part where
  value := (value?_setService owner? found pool a).trans h.value
  remembered := h.remembered
  fresh := by
    intro hfresh
    obtain ⟨-, hmark, hlabel⟩ := h.fresh hfresh
    refine ⟨Nat.zero_le a, hmark, ?_⟩
    rw [label?_setService_of_notMem owner? found (hholds.notMem_of_fresh hlt hmark)]
    exact hlabel

/-- What is found is for the service. -/
theorem FoundHolds.setService (h : FoundHolds n start opened marks pool found parts) :
    List.Forall₂ (fun a part => HoldsPart n start opened marks
        (ConfigdExtra.setService c.caller.owner? found pool) a (c.owned part))
      (found.interface :: found.members) (parts.interface :: parts.others) := by
  have hall := (List.forall₂_and_left (p := (· ∈ found.interface :: found.members)) _ _).mpr
    ⟨fun _ ha => ha, h.all⟩
  refine hall.imp fun a part hpart => ⟨?_, hpart.2.remembered, fun hfresh => ?_⟩
  · exact (value?_setService _ found pool a).trans hpart.2.value
  · obtain ⟨hstart, hmark, hlabel⟩ := hpart.2.fresh hfresh
    refine ⟨hstart, hmark, ?_⟩
    rw [label?_setService_of_mem _ found hpart.1, hlabel]
    rfl

/-- An interface that is layered on one that is for another service -/
theorem FoundHolds.taken (h : FoundHolds n start opened marks pool found parts)
    (hfound : c.found w = some parts)
    (howners : Owners w marks (ConfigdExtra.setService c.caller.owner? found pool)
      (xs ++ [(cacheWindow opened n, c)])) {label : InterfaceOwner π}
    (hlabel : (ConfigdExtra.setService c.caller.owner? found pool).label? found.interface =
      some label) (hne : label ≠ (c.owned parts.interface).owner) :
    TakenOver w (xs ++ [(cacheWindow opened n, c)]) (cacheWindow opened n, c) := by
  have hpart := (List.forall₂_cons.mp (h.setService (c := c))).1
  have hfresh : ¬ (parts.interface.slot = none ∨ opened = false) := by
    intro hfresh
    have hsome := (hpart.fresh hfresh).2.2.symm.trans hlabel
    exact hne (Option.some.inj hsome).symm
  rw [not_or, Bool.not_eq_false] at hfresh
  obtain ⟨hslot, hopened⟩ := hfresh
  obtain ⟨slot, hslot⟩ := Option.ne_none_iff_exists'.mp hslot
  have hn : cacheWindow opened n = some n := by rw [cacheWindow, if_pos hopened]
  have hmem : slot ∈ c.slots w := by
    rw [Creation.slots, hfound]
    exact List.mem_filterMap.mpr ⟨_, List.mem_cons_self, hslot⟩
  have howner := howners.owner _ _ _ _ (hpart.remembered slot.1 slot.2 hslot hopened)
  rw [hlabel] at howner
  have hblank : parts.interface.owner = unowned :=
    Creation.found_blank hfound _ List.mem_cons_self (by rw [hslot]; rfl)
  cases hcaller : c.caller.owner? with
  | some owner =>
    rw [slotOwner_concat, if_pos ⟨hn, hmem⟩, hcaller] at howner
    refine absurd (Option.some.inj howner) ?_
    rwa [Creation.owned, hcaller] at hne
  | none =>
    refine ⟨hcaller, n, slot, hn, hmem, ?_⟩
    rw [← Option.some.inj howner]
    rwa [Creation.owned, hcaller, Option.getD_none, hblank] at hne

/-! ## Runs -/

/-- What is in memory after some creations. -/
structure CacheInv (w : InterfaceWorld π) (n : ℕ) (marks : List (Mark String))
    (pool : InterfacePool π) (xs : List (Option ℕ × Creation π))
    (rs : List (Creation π × Option CreatedInterface)) : Prop where
  /-- the cache has the interfaces that were found -/
  marked : Marked (findByBSDName w.registry true) n marks pool
  /-- the interfaces of the registry are for the services -/
  owners : Owners w marks pool xs
  /-- what was returned is in memory -/
  records : List.Forall₂ (Recorded w xs marks pool) xs rs

/-- What is found under a BSD name does not depend on who asks. -/
def HidesNothing (w : InterfaceWorld π) : Prop :=
  w.registry.byBSDName false = w.registry.byBSDName true

theorem findByBSDName_eq (h : HidesNothing w) (keep : Bool) :
    findByBSDName w.system keep = findByBSDName w.registry true := by
  funext ifDevice
  cases keep with
  | false =>
    rw [findByBSDName, findByBSDName, ← show w.registry.byBSDName false = _ from h]
    rfl
  | true => rfl

theorem forall₂_concat {α β : Type} {R : α → β → Prop} {l : List α} {l' : List β}
    (h : List.Forall₂ R l l') {a : α} {b : β} (hab : R a b) :
    List.Forall₂ R (l ++ [a]) (l' ++ [b]) :=
  List.rel_append h (List.Forall₂.cons hab List.Forall₂.nil)

/-- A call of `createInterface` adds one interface to those in memory. -/
theorem createInterface_inv (hhides : HidesNothing w)
    {rs : List (Creation π × Option CreatedInterface)} (h : CacheInv w n marks pool xs rs)
    (c : Creation π) :
    ∃ marks', CacheInv w n marks' (createInterface w c.caller c.entity pool).2
        (xs ++ [(cacheWindow pool.table.isSome n, c)])
        (rs ++ [(c, (createInterface w c.caller c.entity pool).1)]) ∧
      (createInterface w c.caller c.entity pool).2.table.isSome = pool.table.isSome := by
  obtain ⟨marks₁, hgrows, hrel⟩ := createFound_holds w.system (c.caller.search w) c.entity
    (findByBSDName_eq hhides _) (findVirtualInterface_finds rfl c.caller c.entity) h.marked
  rw [createInterface]
  rcases hcreate : createFound w.system (c.caller.search w) c.entity
    (findVirtualInterface w c.caller c.entity) pool with ⟨found?, pool₁⟩
  rw [hcreate] at hgrows hrel
  have howners := h.owners.grows h.marked hgrows
  generalize hparts : foundParts w.system (c.caller.search w) c.entity
    (w.virtualParts c.caller c.entity) = parts? at hrel
  have hfound : c.found w = parts? := hparts
  cases hrel with
  | none =>
    have hslots : c.slots w = [] := by rw [Creation.slots, hfound]
    have hnone : c.createdParts w = none := by rw [Creation.createdParts, hfound]; rfl
    refine ⟨marks₁, ⟨hgrows.marked, howners.concat_nil hslots, forall₂_concat ?_ ⟨rfl, ?_⟩⟩,
      hgrows.isOpen⟩
    · exact h.records.imp fun x r hrecord =>
        hrecord.imp (fun _ _ hvalue => value?_extends hgrows.cells hvalue)
          (fun _ _ hpart => hpart.grows hgrows) fun htaken => htaken.concat _
    · rw [hnone]
      exact Option.Rel.none
  | @some found parts hholds =>
    have hmarked := marked_setService c.caller.owner? found hgrows.marked
    have howners' := howners.setService hgrows.marked hfound hholds
    have hall := hholds.setService (c := c)
    obtain ⟨⟨value, label⟩, hcell, hvalue⟩ :=
      Option.map_eq_some_iff.mp (List.forall₂_cons.mp hall).1.value
    cases hvalue
    obtain ⟨marks₂, hgrows', hrel'⟩ := createParent_of hfound hmarked hcell
    refine ⟨marks₂, ⟨hgrows'.marked, howners'.grows hmarked hgrows', forall₂_concat ?_ ⟨rfl, ?_⟩⟩,
      ?_⟩
    · -- what was created before
      refine h.records.imp fun x r hrecord => hrecord.imp (fun a i hvalue => ?_)
        (fun a part hpart => ?_) fun htaken => htaken.concat _
      · refine value?_extends hgrows'.cells ((value?_setService _ found pool₁ a).trans ?_)
        exact value?_extends hgrows.cells hvalue
      · exact ((hpart.grows hgrows).setService hpart.lt hholds _).grows hgrows'
    · refine optionRel_imp hrel' fun created parts' hcreated => hcreated.forall₂ ?_ ?_
      · exact hall.imp fun a part hpart =>
          ⟨(hpart.grows hgrows').value, Or.inl (hpart.grows hgrows').cacheWindow⟩
      · intro a parent hvalue hlabel hmark
        refine ⟨hvalue, ?_⟩
        by_cases howned : label = (c.owned parts.interface).owner
        · refine Or.inl ⟨hvalue, fun _ _ hslot => (by cases hslot), fun _ => ?_⟩
          exact ⟨Nat.zero_le a, hmark, howned ▸ hlabel⟩
        · exact Or.inr ⟨rfl, hholds.taken hfound howners'
            (Option.map_eq_some_iff.mpr ⟨_, hcell, rfl⟩) howned⟩
    · rw [hgrows'.isOpen, isSome_setService]
      exact hgrows.isOpen

/-- The cache is opened or closed. -/
theorem CacheInv.retable {rs : List (Creation π × Option CreatedInterface)}
    (h : CacheInv w n marks pool xs rs) (hcells : pool'.cells = pool.cells)
    (hmarked : Marked (findByBSDName w.registry true) m marks pool') :
    CacheInv w m marks pool' xs rs where
  marked := hmarked
  owners :=
    { seen := h.owners.seen
      owner := by
        intro a m ifDevice k hmark
        rw [Pool.label?, hcells]
        exact h.owners.owner a m ifDevice k hmark }
  records := h.records.imp fun x r hrecord => hrecord.imp (fun a i hvalue => by
    rw [Pool.value?, hcells]; exact hvalue) (fun a part hpart =>
    { value := by rw [Pool.value?, hcells]; exact hpart.value
      remembered := hpart.remembered
      fresh := by rw [Pool.label?, hcells]; exact hpart.fresh }) id

/-- What is in memory in every state of a run -/
theorem runCache_inv (hhides : HidesNothing w) (ops : List (CacheOp π))
    {rs : List (Creation π × Option CreatedInterface)} (h : CacheInv w n marks pool xs rs) :
    ∃ n' marks', CacheInv w n' marks' (runCache w ops pool).2
      (xs ++ cacheWindows n pool.table.isSome ops) (rs ++ (runCache w ops pool).1) := by
  induction ops generalizing n marks pool xs rs with
  | nil =>
    refine ⟨n, marks, ?_⟩
    rw [cacheWindows, runCache, List.append_nil, List.append_nil]
    exact h
  | cons op ops ih =>
    cases op with
    | cacheOpen =>
      obtain ⟨n', hn', hmarked⟩ := h.marked.openTable
      have hcells : (openTable pool).cells = pool.cells := by
        rw [openTable]
        split <;> rfl
      have hopen : (openTable pool).table.isSome = true := by
        rw [openTable]
        split
        next htable => rw [htable]; rfl
        next => rfl
      obtain ⟨n'', marks', hrest⟩ := ih (h.retable hcells hmarked)
      have hcount : n' = if pool.table.isSome then n else n + 1 := by
        split_ifs at hn' ⊢ <;> exact hn'
      rw [hopen, hcount] at hrest
      exact ⟨n'', marks', hrest⟩
    | cacheClose =>
      have hclosed : CacheInv w n marks (closeTable pool) xs rs :=
        h.retable rfl h.marked.closeTable
      exact ih hclosed
    | create c =>
      obtain ⟨marks₁, hinv, hopen⟩ := createInterface_inv hhides h c
      obtain ⟨n', marks', hrest⟩ := ih hinv
      rw [hopen, List.append_assoc, List.append_assoc] at hrest
      exact ⟨n', marks', hrest⟩

theorem cacheInv_empty : CacheInv w 0 [] (Pool.empty : InterfacePool π) [] [] where
  marked :=
    { length := rfl
      nodup := List.nodup_nil
      fresh := fun a b hmark => by cases hmark
      older := fun m k i hmem => by cases hmem
      known := fun table htable => by cases htable
      found := fun table htable => by cases htable }
  owners :=
    { seen := fun x hx => by cases hx
      owner := fun a m ifDevice k hmark => by cases hmark }
  records := List.Forall₂.nil

/-! ## What is kept -/

/-- An object that is what a part of an interface is, and whose it is. -/
def HoldsOwned (pool : InterfacePool π) (a : ℕ) (part : InterfacePart π) : Prop :=
  pool.value? a = some part.content ∧ pool.label? a = some part.owner

/-- What was returned is still what was created, and for the same service. -/
def KeptInterface (w : InterfaceWorld π) (pool : InterfacePool π)
    (r : Creation π × Option CreatedInterface) : Prop :=
  Option.Rel (fun created parts => List.Forall₂ (HoldsOwned pool)
    (created.interface :: created.parts) (parts.interface :: parts.others)) r.2 (r.1.createdParts w)

/-- Every interface that was returned is at any time what was created, and for the service that it
was created for. -/
def KeepsInterfaces (w : InterfaceWorld π) (ops : List (CacheOp π)) : Prop :=
  ∀ before, before <+: ops → ∀ r ∈ (runCache w before Pool.empty).1,
    KeptInterface w (runCache w before Pool.empty).2 r

/-- The interfaces of the registry that a creation returned are for its service. -/
def KeepsOwner (w : InterfaceWorld π) (xs : List (Option ℕ × Creation π))
    (x : Option ℕ × Creation π) : Prop :=
  (x.2.createdParts w).isSome → ∀ m, x.1 = some m → ∀ slot ∈ x.2.slots w,
    slotOwner w m slot xs = x.2.caller.owner?.getD unowned

theorem forall₂_imp_mem {α β : Type} {R S : α → β → Prop} {l : List α} {l' : List β}
    (h : List.Forall₂ R l l') (himp : ∀ a b, b ∈ l' → R a b → S a b) : List.Forall₂ S l l' := by
  induction h with
  | nil => exact List.Forall₂.nil
  | cons hab _ ih =>
    refine List.Forall₂.cons (himp _ _ List.mem_cons_self hab) (ih fun a b hb => ?_)
    exact himp a b (List.mem_cons_of_mem _ hb)

/-- An interface is kept if it is for the service. -/
theorem Recorded.kept (howners : Owners w marks pool xs) {x : Option ℕ × Creation π}
    {r : Creation π × Option CreatedInterface} (h : Recorded w xs marks pool x r)
    (hkeeps : KeepsOwner w xs x) : KeptInterface w pool r := by
  obtain ⟨hcreation, hrel⟩ := h
  rw [KeptInterface, hcreation]
  rw [KeepsOwner] at hkeeps
  generalize r.2 = created? at hrel ⊢
  cases hparts : x.2.createdParts w with
  | none =>
    rw [hparts] at hrel
    cases hrel
    exact Option.Rel.none
  | some parts =>
    rw [hparts] at hrel hkeeps
    cases hrel with
    | some hall =>
      have hslots := Creation.createdParts_slots hparts
      refine Option.Rel.some (forall₂_imp_mem hall fun a part hpart hrecord => ?_)
      obtain ⟨hvalue, hholds | ⟨-, howner, m, slot, hm, hslot, hne⟩⟩ := hrecord
      · refine ⟨hvalue, ?_⟩
        by_cases hfresh : part.slot = none ∨ x.1.isSome = false
        · exact (hholds.fresh hfresh).2.2
        · rw [not_or, Bool.not_eq_false] at hfresh
          obtain ⟨slot, hslot⟩ := Option.ne_none_iff_exists'.mp hfresh.1
          obtain ⟨m, hm⟩ := Option.isSome_iff_exists.mp hfresh.2
          have hmem : slot ∈ x.2.slots w := by
            rw [← hslots]
            exact List.mem_filterMap.mpr ⟨part, hpart, hslot⟩
          have hmark := hholds.remembered slot.1 slot.2 hslot hfresh.2
          rw [hm, Option.getD_some] at hmark
          rw [howners.owner _ _ _ _ hmark, hkeeps rfl m hm slot hmem,
            Creation.createdParts_owner hparts hpart (by rw [hslot]; rfl)]
      · have hunowned := hkeeps rfl m hm slot hslot
        rw [howner] at hunowned
        exact absurd hunowned hne

/-- An interface that is kept is for the service. -/
theorem Recorded.keepsOwner (howners : Owners w marks pool xs) {x : Option ℕ × Creation π}
    {r : Creation π × Option CreatedInterface} (h : Recorded w xs marks pool x r)
    (hkept : KeptInterface w pool r) : KeepsOwner w xs x := by
  obtain ⟨hcreation, hrel⟩ := h
  rw [KeptInterface, hcreation] at hkept
  intro hsome m hm slot hslot
  obtain ⟨parts, hparts⟩ := Option.isSome_iff_exists.mp hsome
  rw [hparts] at hrel hkept
  rw [← Creation.createdParts_slots hparts] at hslot
  obtain ⟨part, hpart, hslot⟩ := List.mem_filterMap.mp hslot
  generalize r.2 = created? at hrel hkept
  cases hrel with
  | some hall =>
    cases hkept with
    | some hheld =>
      have hboth := List.Forall₂.mp (S := fun a part => RecordedPart w xs marks pool x a part ∧
        HoldsOwned pool a part) (fun _ _ hrecord howned => ⟨hrecord, howned⟩) hall hheld
      obtain ⟨a, -, hrecord, howned⟩ := exists_of_mem_left hboth.flip hpart
      obtain ⟨-, hholds | ⟨hnone, -⟩⟩ := hrecord
      · have hmark := hholds.remembered slot.1 slot.2 hslot (by rw [hm]; rfl)
        rw [hm, Option.getD_some] at hmark
        have howner := (howners.owner _ _ _ _ hmark).symm.trans howned.2
        rw [Creation.createdParts_owner hparts hpart (by rw [hslot]; rfl)] at howner
        exact Option.some.inj howner
      · rw [hslot] at hnone
        cases hnone

/-! ## Creations that spare others -/

/-- A creation does not write its service to an object of an earlier one, unless it is for the
same service, and it does not find the service of an earlier one. -/
def Creation.Spares (w : InterfaceWorld π) (x y : Option ℕ × Creation π) : Prop :=
  ∀ m, x.1 = some m → y.1 = some m → ∀ slot ∈ x.2.slots w, slot ∈ y.2.slots w →
    ((x.2.createdParts w).isSome → ∀ owner, y.2.caller.owner? = some owner →
      x.2.caller.owner? = some owner) ∧
    ((y.2.createdParts w).isSome → y.2.caller.owner? = none → x.2.caller.owner? = none)

/-- The last creation spares the others if all are for their services. -/
theorem spares_of_keepsOwner {y : Option ℕ × Creation π}
    (h : ∀ x ∈ xs ++ [y], KeepsOwner w (xs ++ [y]) x) :
    ∀ x ∈ xs, Creation.Spares w x y := by
  intro x hx m hmx hmy slot hslotx hsloty
  constructor
  · intro hcreated owner howner
    have hkeeps := h x (List.mem_append_left _ hx) hcreated m hmx slot hslotx
    rw [slotOwner_concat, if_pos ⟨hmy, hsloty⟩, howner, Option.getD_some] at hkeeps
    cases hx' : x.2.caller.owner? with
    | none =>
      rw [hx'] at hkeeps
      exact absurd hkeeps (owner?_ne_unowned howner)
    | some owner' =>
      rw [hx'] at hkeeps
      exact congrArg some hkeeps.symm
  · intro hcreated howner
    have hkeeps := h y (List.mem_append_right _ (List.mem_singleton_self y)) hcreated m hmy slot
      hsloty
    rw [slotOwner_concat, if_pos ⟨hmy, hsloty⟩, howner] at hkeeps
    cases hx' : x.2.caller.owner? with
    | none => rfl
    | some owner' => exact absurd hkeeps (slotOwner_of_claimed hx hmx hslotx hx')

/-- All are for their services if the last creation spares the others. -/
theorem keepsOwner_concat {y : Option ℕ × Creation π} (h : ∀ x ∈ xs, KeepsOwner w xs x)
    (hspares : ∀ x ∈ xs, Creation.Spares w x y) :
    ∀ x ∈ xs ++ [y], KeepsOwner w (xs ++ [y]) x := by
  intro x hx hcreated m hm slot hslot
  rw [slotOwner_concat]
  obtain hx | hx := List.mem_append.mp hx
  · have hkeeps := h x hx hcreated m hm slot hslot
    split_ifs with hseen
    · cases hy : y.2.caller.owner? with
      | none => exact hkeeps
      | some owner =>
        rw [(hspares x hx m hm hseen.1 slot hslot hseen.2).1 hcreated owner hy]
        rfl
    · exact hkeeps
  · rw [List.mem_singleton.mp hx] at hm hslot hcreated ⊢
    rw [if_pos ⟨hm, hslot⟩]
    cases hy : y.2.caller.owner? with
    | none =>
      refine slotOwner_of_unclaimed fun x hx hmx hslotx => ?_
      exact (hspares x hx m hmx hm slot hslotx hslot).2 hcreated hy
    | some owner => rfl

/-- All are for their services all the time if and only if each creation spares the earlier
ones. -/
theorem keepsOwner_iff_spares (ys : List (Option ℕ × Creation π)) :
    (∀ xs, xs <+: ys → ∀ x ∈ xs, KeepsOwner w xs x) ↔ ys.Pairwise (Creation.Spares w) := by
  induction ys using List.reverseRecOn with
  | nil =>
    refine iff_of_true (fun xs hxs x hx => ?_) List.Pairwise.nil
    rw [List.prefix_nil.mp hxs] at hx
    cases hx
  | append_singleton ys y ih =>
    have hpair : (ys ++ [y]).Pairwise (Creation.Spares w) ↔
        ys.Pairwise (Creation.Spares w) ∧ ∀ x ∈ ys, Creation.Spares w x y := by
      simp [List.pairwise_append]
    rw [hpair, ← ih]
    constructor
    · intro h
      exact ⟨fun xs hxs => h xs (hxs.trans (List.prefix_append _ _)),
        spares_of_keepsOwner (h _ List.prefix_rfl)⟩
    · rintro ⟨h, hspares⟩ xs hxs
      obtain rfl | hxs := List.prefix_concat_iff.mp hxs
      · exact keepsOwner_concat (h ys List.prefix_rfl) hspares
      · exact h xs hxs

/-! ## Runs and their beginnings -/

theorem cacheWindows_beginning {before ops : List (CacheOp π)} (h : before <+: ops) (n : ℕ)
    (opened : Bool) : cacheWindows n opened before <+: cacheWindows n opened ops := by
  induction before generalizing ops n opened with
  | nil => exact List.nil_prefix
  | cons op before ih =>
    obtain ⟨rest, rfl⟩ := h
    have hrest : before <+: before ++ rest := List.prefix_append _ _
    cases op with
    | cacheOpen => exact ih hrest _ _
    | cacheClose => exact ih hrest _ _
    | create c => exact (List.prefix_cons_inj _).mpr (ih hrest _ _)

theorem exists_beginning {ops : List (CacheOp π)} {xs : List (Option ℕ × Creation π)} {n : ℕ}
    {opened : Bool} (h : xs <+: cacheWindows n opened ops) :
    ∃ before, before <+: ops ∧ cacheWindows n opened before = xs := by
  induction ops generalizing xs n opened with
  | nil => exact ⟨[], List.prefix_rfl, (List.prefix_nil.mp h).symm⟩
  | cons op ops ih =>
    cases op with
    | cacheOpen =>
      obtain ⟨before, hbefore, hxs⟩ := ih h
      exact ⟨.cacheOpen :: before, (List.prefix_cons_inj _).mpr hbefore, hxs⟩
    | cacheClose =>
      obtain ⟨before, hbefore, hxs⟩ := ih h
      exact ⟨.cacheClose :: before, (List.prefix_cons_inj _).mpr hbefore, hxs⟩
    | create c =>
      cases xs with
      | nil => exact ⟨[], List.nil_prefix, rfl⟩
      | cons x xs =>
        obtain ⟨rfl, hxs⟩ := List.cons_prefix_cons.mp h
        obtain ⟨before, hbefore, hxs⟩ := ih hxs
        exact ⟨.create c :: before, (List.prefix_cons_inj _).mpr hbefore, congrArg _ hxs⟩

/-- After a run, the interfaces are kept if and only if they are for their services. -/
theorem runCache_kept (hhides : HidesNothing w) (ops : List (CacheOp π)) :
    (∀ r ∈ (runCache w ops Pool.empty).1, KeptInterface w (runCache w ops Pool.empty).2 r) ↔
      ∀ x ∈ cacheWindows 0 false ops, KeepsOwner w (cacheWindows 0 false ops) x := by
  obtain ⟨n, marks, hinv⟩ := runCache_inv hhides ops (cacheInv_empty (w := w))
  constructor
  · intro hkept x hx
    obtain ⟨r, hr, hrecord⟩ := exists_of_mem_left hinv.records hx
    exact hrecord.keepsOwner hinv.owners (hkept r hr)
  · intro hkeeps r hr
    obtain ⟨x, hx, hrecord⟩ := exists_of_mem_left hinv.records.flip hr
    exact Recorded.kept hinv.owners hrecord (hkeeps x hx)

/-- In a run of the calls that concern the cache, every interface that was returned is at any time
what `createWithEntity` says, whatever was found in the cache. -/
theorem runCache_content (hhides : HidesNothing w) (ops : List (CacheOp π)) :
    ∀ r ∈ (runCache w ops Pool.empty).1,
      (r.2.bind fun created => (runCache w ops Pool.empty).2.value? created.interface) =
        createWithEntity w.system (r.1.caller.search w) r.1.entity := by
  intro r hr
  obtain ⟨n, marks, hinv⟩ := runCache_inv hhides ops (cacheInv_empty (w := w))
  obtain ⟨x, -, hcreation, hrel⟩ := exists_of_mem_left hinv.records.flip hr
  rw [← createdParts_content, hcreation]
  generalize r.2 = created? at hrel ⊢
  cases hparts : x.2.createdParts w with
  | none =>
    rw [hparts] at hrel
    cases hrel
    rfl
  | some parts =>
    rw [hparts] at hrel
    cases hrel with
    | some hall => exact (List.forall₂_cons.mp hall).1.1

/-- A system with `en0`, and no virtual interfaces -/
def en0World : InterfaceWorld String where
  registry :=
    { emptySystem with
      byBSDName := fun _ bsdName => some (if bsdName = "en0" then [storedEn0] else []) }
  bonds := fun _ => []
  bridges := fun _ => []
  vlans := fun _ => []
  bypass := fun _ => false
  defaultPrefs := none

/-- `en0`, for a service -/
def createEn0 (serviceID : String) : CacheOp String :=
  .create ⟨.service (some "prefs") serviceID, { memberEntity "en0" with type := some "Ethernet" }⟩

theorem runCache_content_en0 :
    ∃ r ∈ (runCache en0World [.cacheOpen, createEn0 "1", createEn0 "2"] Pool.empty).1,
      r.2.isSome ∧ (r.2.bind fun created =>
          (runCache en0World [.cacheOpen, createEn0 "1", createEn0 "2"] Pool.empty).2.value?
            created.interface) =
        createWithEntity en0World.system (r.1.caller.search en0World) r.1.entity :=
  ⟨_, List.mem_cons_self, rfl, runCache_content (w := en0World) rfl _ _ List.mem_cons_self⟩

/-- In a run of the calls that concern the cache, the interfaces are kept if and only if no creation
takes an object away from an earlier one or comes by its service. -/
theorem runCache_kept_iff (hhides : HidesNothing w) (ops : List (CacheOp π)) :
    KeepsInterfaces w ops ↔ (cacheWindows 0 false ops).Pairwise (Creation.Spares w) := by
  rw [← keepsOwner_iff_spares]
  constructor
  · intro hkept xs hxs
    obtain ⟨before, hbefore, rfl⟩ := exists_beginning hxs
    exact (runCache_kept hhides before).mp (hkept before hbefore)
  · intro hkeeps before hbefore
    exact (runCache_kept hhides before).mpr (hkeeps _ (cacheWindows_beginning hbefore 0 false))

/-- Two services on one device share the object, if the cache stays open. -/
theorem runCache_kept_en0 :
    ¬ KeepsInterfaces en0World [.cacheOpen, createEn0 "1", createEn0 "2"] ∧
      KeepsInterfaces en0World
        [.cacheOpen, createEn0 "1", .cacheClose, .cacheOpen, createEn0 "2"] := by
  constructor
  · intro hkept
    have hpair := (runCache_kept_iff (w := en0World) rfl _).mp hkept
    have hspares := List.rel_of_pairwise_cons hpair List.mem_cons_self
    have howner := (hspares 1 rfl rfl ("en0", 0) (by decide) (by decide)).1 rfl _ rfl
    exact absurd howner (by decide)
  · refine (runCache_kept_iff (w := en0World) rfl _).mpr ?_
    refine List.Pairwise.cons (fun y hy m hm hm' => ?_) (List.pairwise_singleton _ _)
    cases List.mem_singleton.mp hy
    cases hm
    cases hm'

end ConfigdExtra
