import Mathlib.Order.Defs.LinearOrder
import Mathlib.Data.List.Perm.Basic
import Mathlib.Data.List.Pairwise

/-!
# Sorting by a comparison with ties

A comparison that is oriented and transitive, but may find different elements equal.

* `transCmp_comap` — comparing images.
* `forall₂_eq_of_perm` — a sorted list is determined by its elements, up to ties.
* `Cyclic`, `transCmp_iff_not_cyclic` — an oriented comparison is transitive just if no three
  elements go round in a circle.
* `compareIfBoth`, `cyclic_ifBoth_iff` — the circles of a criterion for values that may be missing,
  followed by other criteria.
-/

namespace SortedTies

open Std

variable {α β : Type} {cmp : α → α → Ordering}

/-- Comparing what a function gives. -/
theorem transCmp_comap (_ : TransCmp cmp) (f : β → α) : TransCmp fun a b => cmp (f a) (f b) where
  eq_swap {a b} := (OrientedCmp.eq_swap : cmp (f a) (f b) = (cmp (f b) (f a)).swap)
  isLE_trans hab hbc := TransCmp.isLE_trans hab hbc

/-- The elements before `a` in the order are before index `i` in a sorted list, if the rest is not
before `a`. -/
theorem countP_le_of_pairwise [TransCmp cmp] {l : List α} {i : Nat} (hi : i < l.length)
    (hl : l.Pairwise fun a b => (cmp a b).isLE) :
    (l.countP fun b => cmp b l[i] == .lt) ≤ i := by
  have hsplit : l.countP (fun b => cmp b l[i] == .lt) =
      (l.take i).countP (fun b => cmp b l[i] == .lt) +
        (l.drop i).countP (fun b => cmp b l[i] == .lt) := by
    rw [← List.countP_append, List.take_append_drop]
  have hrest : (l.drop i).countP (fun b => cmp b l[i] == .lt) = 0 := by
    rw [List.countP_eq_zero]
    intro b hb hlt
    obtain ⟨j, hj, rfl⟩ := List.mem_iff_getElem.mp hb
    rw [List.getElem_drop] at hlt
    rw [List.length_drop] at hj
    have hlt' : i + j < l.length := by omega
    have hle : (cmp l[i] l[i + j]).isLE := by
      rcases Nat.eq_zero_or_pos j with rfl | hpos
      · exact ReflCmp.isLE_rfl
      · exact List.pairwise_iff_getElem.mp hl i (i + j) hi _ (by omega)
    exact OrientedCmp.not_lt_of_isLE hle (beq_iff_eq.mp hlt)
  have htake := List.countP_le_length (p := fun b => cmp b l[i] == .lt) (l := l.take i)
  rw [List.length_take] at htake
  omega

/-- The elements up to index `i` of a sorted list are before all that are after the one at `i`. -/
theorem le_countP_of_pairwise [TransCmp cmp] {l : List α} {i : Nat} (hi : i < l.length)
    (hl : l.Pairwise fun a b => (cmp a b).isLE) {a : α} (ha : cmp l[i] a = .lt) :
    i + 1 ≤ l.countP fun b => cmp b a == .lt := by
  have hall : (l.take (i + 1)).countP (fun b => cmp b a == .lt) = (l.take (i + 1)).length := by
    rw [List.countP_eq_length]
    intro b hb
    obtain ⟨j, hj, rfl⟩ := List.mem_iff_getElem.mp hb
    rw [List.length_take] at hj
    rw [List.getElem_take, beq_iff_eq]
    have hlt : j < l.length := by omega
    have hle : (cmp l[j] l[i]).isLE := by
      rcases Nat.lt_or_ge j i with hji | hji
      · exact List.pairwise_iff_getElem.mp hl j i _ hi hji
      · obtain rfl : j = i := by omega
        exact ReflCmp.isLE_rfl
    exact TransCmp.lt_of_isLE_of_lt hle ha
  have hle := (List.take_sublist (i + 1) l).countP_le (p := fun b => cmp b a == .lt)
  rw [hall, List.length_take] at hle
  omega

/-- **Two sorted lists of the same elements** have ties at each index. -/
theorem forall₂_eq_of_perm [TransCmp cmp] {l l' : List α} (hperm : l.Perm l')
    (hl : l.Pairwise fun a b => (cmp a b).isLE) (hl' : l'.Pairwise fun a b => (cmp a b).isLE) :
    List.Forall₂ (fun a b => cmp a b = .eq) l l' := by
  have hnot : ∀ {l l' : List α}, l.Perm l' → (l.Pairwise fun a b => (cmp a b).isLE) →
      (l'.Pairwise fun a b => (cmp a b).isLE) → ∀ i (hi : i < l.length) (hi' : i < l'.length),
      cmp l[i] l'[i] ≠ .lt := by
    intro l l' hperm hl hl' i hi hi' hlt
    have hbefore := le_countP_of_pairwise hi hl hlt
    have hafter := countP_le_of_pairwise hi' hl'
    rw [hperm.countP_eq] at hbefore
    omega
  rw [List.forall₂_iff_get]
  refine ⟨hperm.length_eq, fun i hi hi' => ?_⟩
  have hlt := hnot hperm hl hl' i hi hi'
  have hgt := hnot hperm.symm hl' hl i hi' hi
  rw [List.get_eq_getElem, List.get_eq_getElem]
  cases hcmp : cmp l[i] l'[i] with
  | lt => exact absurd hcmp hlt
  | eq => rfl
  | gt => exact absurd (OrientedCmp.lt_of_gt hcmp) hgt

/-! ## Circles -/

/-- Each of three elements is not behind the next one, and they are not all equal. -/
def Cyclic (cmp : α → α → Ordering) (a b c : α) : Prop :=
  cmp a b ≠ .gt ∧ cmp b c ≠ .gt ∧ cmp c a ≠ .gt ∧
    ¬ (cmp a b = .eq ∧ cmp b c = .eq ∧ cmp c a = .eq)

variable {a b c : α}

theorem not_cyclic [TransCmp cmp] (a b c : α) : ¬ Cyclic cmp a b c := by
  rintro ⟨hab, hbc, hca, hne⟩
  replace hab := Ordering.ne_gt_iff_isLE.mp hab
  replace hbc := Ordering.ne_gt_iff_isLE.mp hbc
  replace hca := Ordering.ne_gt_iff_isLE.mp hca
  have hba := OrientedCmp.isLE_antisymm hab (TransCmp.isLE_trans hbc hca)
  have hcb := OrientedCmp.isLE_antisymm hbc (TransCmp.isLE_trans hca hab)
  have hac := OrientedCmp.isLE_antisymm hca (TransCmp.isLE_trans hab hbc)
  exact hne ⟨hba, hcb, hac⟩

/-- **Transitive is without circles.** -/
theorem transCmp_iff_not_cyclic (horiented : ∀ a b, cmp a b = (cmp b a).swap) :
    TransCmp cmp ↔ ∀ a b c, ¬ Cyclic cmp a b c := by
  constructor
  · intro _ a b c
    exact not_cyclic a b c
  · intro h
    refine { eq_swap := fun {a b} => horiented a b, isLE_trans := fun {a b c} hab hbc => ?_ }
    refine Ordering.ne_gt_iff_isLE.mp fun hac => ?_
    have hca : cmp c a = .lt := by
      rw [horiented, hac]
      rfl
    refine h a b c ⟨Ordering.ne_gt_iff_isLE.mpr hab, Ordering.ne_gt_iff_isLE.mpr hbc,
      by rw [hca]; exact nofun, fun heq => ?_⟩
    rw [hca] at heq
    cases heq.2.2

/-- A circle of two criteria is one of the second among elements that are equal by the first, or
one of the first where the second agrees with it. -/
theorem cyclic_then_iff {cmp₁ cmp₂ : α → α → Ordering} :
    Cyclic (fun a b => (cmp₁ a b).then (cmp₂ a b)) a b c ↔
      ((cmp₁ a b = .eq ∧ cmp₁ b c = .eq ∧ cmp₁ c a = .eq) ∧ Cyclic cmp₂ a b c) ∨
      (Cyclic cmp₁ a b c ∧ (cmp₁ a b = .eq → cmp₂ a b ≠ .gt) ∧
        (cmp₁ b c = .eq → cmp₂ b c ≠ .gt) ∧ (cmp₁ c a = .eq → cmp₂ c a ≠ .gt)) := by
  simp only [Cyclic]
  cases cmp₁ a b <;> cases cmp₁ b c <;> cases cmp₁ c a <;> simp

/-- A first criterion that is transitive has no circles. -/
theorem cyclic_transCmp_then_iff {cmp₁ cmp₂ : α → α → Ordering} [TransCmp cmp₁] :
    Cyclic (fun a b => (cmp₁ a b).then (cmp₂ a b)) a b c ↔
      (cmp₁ a b = .eq ∧ cmp₁ b c = .eq ∧ cmp₁ c a = .eq) ∧ Cyclic cmp₂ a b c := by
  rw [cyclic_then_iff, or_iff_left fun h => not_cyclic a b c h.1]

/-! ## Values that may be missing -/

variable {ω : Type}

/-- A criterion for values that both have. -/
def compareIfBoth (crit : ω → ω → Ordering) : Option ω → Option ω → Ordering
  | some v₁, some v₂ => crit v₁ v₂
  | _, _ => .eq

variable {crit : ω → ω → Ordering}

theorem compareIfBoth_swap (hcrit : ∀ v w, crit v w = (crit w v).swap) (v w : Option ω) :
    compareIfBoth crit v w = (compareIfBoth crit w v).swap := by
  cases v <;> cases w <;> first | rfl | exact hcrit _ _

/-- Both values are there, and the first is before the second. -/
def ValueBefore (crit : ω → ω → Ordering) (v w : Option ω) : Prop :=
  ∃ v₁ ∈ v, ∃ w₁ ∈ w, crit v₁ w₁ = .lt

theorem compareIfBoth_eq_lt {v w : Option ω} :
    compareIfBoth crit v w = .lt ↔ ValueBefore crit v w := by
  cases v <;> cases w <;> simp [compareIfBoth, ValueBefore]

theorem compareIfBoth_eq_gt (hcrit : ∀ v w, crit v w = (crit w v).swap) {v w : Option ω} :
    compareIfBoth crit v w = .gt ↔ ValueBefore crit w v := by
  rw [← compareIfBoth_eq_lt, compareIfBoth_swap hcrit]
  cases compareIfBoth crit w v <;> simp [Ordering.swap]

/-- Neither is before the other. -/
theorem compareIfBoth_eq_eq (hcrit : ∀ v w, crit v w = (crit w v).swap) {v w : Option ω} :
    compareIfBoth crit v w = .eq ↔ ¬ ValueBefore crit v w ∧ ¬ ValueBefore crit w v := by
  rw [← compareIfBoth_eq_lt, ← compareIfBoth_eq_gt hcrit]
  cases compareIfBoth crit v w <;> simp

/-- One element is before another by their values, and one without a value is between them the
other way round. -/
def Bypassed (crit : ω → ω → Ordering) (value : α → Option ω) (cmp : α → α → Ordering)
    (a b c : α) : Prop :=
  ValueBefore crit (value a) (value c) ∧ value b = none ∧ cmp c b ≠ .gt ∧ cmp b a ≠ .gt

/-- One of three elements in a circle is gone by. -/
def SomeBypassed (crit : ω → ω → Ordering) (value : α → Option ω) (cmp : α → α → Ordering)
    (a b c : α) : Prop :=
  Bypassed crit value cmp c b a ∨ Bypassed crit value cmp a c b ∨ Bypassed crit value cmp b a c

theorem not_someBypassed {value : α → Option ω}
    (h : ∀ x ∈ [a, b, c], ∀ y ∈ [a, b, c], ∀ z ∈ [a, b, c], ¬ Bypassed crit value cmp x y z) :
    ¬ SomeBypassed crit value cmp a b c := by
  rintro (hby | hby | hby)
  · exact h c (by simp) b (by simp) a (by simp) hby
  · exact h a (by simp) c (by simp) b (by simp) hby
  · exact h b (by simp) a (by simp) c (by simp) hby

/-- Three values in a circle, where what follows agrees with it. -/
def CyclicValues (crit : ω → ω → Ordering) (value : α → Option ω) (cmp : α → α → Ordering)
    (a b c : α) : Prop :=
  ∃ u ∈ value a, ∃ v ∈ value b, ∃ w ∈ value c, Cyclic crit u v w ∧
    (crit u v = .eq → cmp a b ≠ .gt) ∧ (crit v w = .eq → cmp b c ≠ .gt) ∧
    (crit w u = .eq → cmp c a ≠ .gt)

/-- **The circles** of a criterion for values that may be missing, followed by others: one of the
others, one of the values, or one that goes by an element without a value. -/
theorem cyclic_ifBoth_iff {value : α → Option ω} :
    Cyclic (fun a b => (compareIfBoth crit (value a) (value b)).then (cmp a b)) a b c ↔
      ((compareIfBoth crit (value a) (value b) = .eq ∧
        compareIfBoth crit (value b) (value c) = .eq ∧
        compareIfBoth crit (value c) (value a) = .eq) ∧ Cyclic cmp a b c) ∨
      CyclicValues crit value cmp a b c ∨ SomeBypassed crit value cmp a b c := by
  rw [cyclic_then_iff]
  refine or_congr_right ?_
  simp only [CyclicValues, SomeBypassed, Bypassed, ValueBefore, Cyclic]
  cases ha : value a <;> cases hb : value b <;> cases hc : value c <;>
    simp [compareIfBoth, and_assoc]
  -- one of the values is missing
  case none.some.some v w => cases crit v w <;> simp [and_comm]
  case some.none.some u w => cases crit w u <;> simp
  case some.some.none u v => cases crit u v <;> simp

/-- A transitive criterion has no circles of values. -/
theorem not_cyclicValues [TransCmp crit] {value : α → Option ω} :
    ¬ CyclicValues crit value cmp a b c := by
  rintro ⟨u, -, v, -, w, -, hcyclic, -⟩
  exact not_cyclic u v w hcyclic

/-- The values of three elements do not tell any of them from another. -/
def Silent (crit : ω → ω → Ordering) (value : α → Option ω) (a b c : α) : Prop :=
  ∀ x ∈ [a, b, c], ∀ y ∈ [a, b, c], ¬ ValueBefore crit (value x) (value y)

theorem silent_iff (hcrit : ∀ v w, crit v w = (crit w v).swap) {value : α → Option ω} :
    Silent crit value a b c ↔
      compareIfBoth crit (value a) (value b) = .eq ∧
        compareIfBoth crit (value b) (value c) = .eq ∧
        compareIfBoth crit (value c) (value a) = .eq := by
  have hself (v : Option ω) : ¬ ValueBefore crit v v := by
    rintro ⟨u, hu, w, hw, hlt⟩
    obtain rfl := Option.some.inj (hu.symm.trans hw)
    have hswap := hcrit u u
    rw [hlt] at hswap
    cases hswap
  simp only [Silent, compareIfBoth_eq_eq hcrit, List.forall_mem_cons, List.not_mem_nil,
    false_imp_iff, implies_true, hself, not_false_eq_true, true_and, and_true]
  tauto

end SortedTies
