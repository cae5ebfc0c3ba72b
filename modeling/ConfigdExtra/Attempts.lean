import Mathlib

/-!
# Attempts

A loop that tries every item of a list on a state, and goes on where one fails.

* `tryEach` — the loop, with the items for which the step succeeded and those for which it failed.
* `tryEach_keeps` — what every step keeps holds in the end.
* `tryEach_keeps_of_done_nil` — what every failed step keeps, where none has succeeded.
* `tryEach_done` — what a successful step has brought about, and later steps keep, holds in the end.
-/

/-- What a loop over some items has come to. -/
structure Attempted (π α : Type) where
  /-- the items for which the step succeeded -/
  done : List α
  /-- the items for which it failed -/
  failed : List α
  /-- the state in the end -/
  state : π

section

variable {π α : Type} (step : π → α → Bool × π)

/-- Tries each item in turn. -/
def tryEach : π → List α → Attempted π α
  | p, [] => ⟨[], [], p⟩
  | p, x :: xs =>
    let rest := tryEach (step p x).2 xs
    if (step p x).1 then ⟨x :: rest.done, rest.failed, rest.state⟩
    else ⟨rest.done, x :: rest.failed, rest.state⟩

@[simp] theorem tryEach_cons_state (p : π) (x : α) (xs : List α) :
    (tryEach step p (x :: xs)).state = (tryEach step (step p x).2 xs).state := by
  rw [tryEach]
  split <;> rfl

theorem mem_done_cons {p : π} {x y : α} {xs : List α} :
    y ∈ (tryEach step p (x :: xs)).done ↔
      (y = x ∧ (step p x).1 = true) ∨ y ∈ (tryEach step (step p x).2 xs).done := by
  rw [tryEach]
  split <;> simp [*]

theorem mem_failed_cons {p : π} {x y : α} {xs : List α} :
    y ∈ (tryEach step p (x :: xs)).failed ↔
      (y = x ∧ (step p x).1 = false) ∨ y ∈ (tryEach step (step p x).2 xs).failed := by
  rw [tryEach]
  split <;> simp [*]

/-- Every item was tried. -/
theorem mem_done_or_failed (p : π) (xs : List α) :
    ∀ x ∈ xs, x ∈ (tryEach step p xs).done ∨ x ∈ (tryEach step p xs).failed := by
  induction xs generalizing p with
  | nil => simp
  | cons y ys ih =>
    intro x hx
    rw [mem_done_cons, mem_failed_cons]
    obtain rfl | hx := List.mem_cons.mp hx
    · cases h : (step p x).1
      · exact .inr (.inl ⟨rfl, rfl⟩)
      · exact .inl (.inl ⟨rfl, rfl⟩)
    · exact (ih (step p y).2 x hx).imp .inr .inr

variable {step} (Inv : π → Prop)

/-- **What every step keeps** holds in the end. -/
theorem tryEach_keeps {xs : List α} (hstep : ∀ p, ∀ x ∈ xs, Inv p → Inv (step p x).2) {p : π}
    (hp : Inv p) : Inv (tryEach step p xs).state := by
  induction xs generalizing p with
  | nil => exact hp
  | cons x xs ih =>
    rw [tryEach_cons_state]
    exact ih (fun p y hy => hstep p y (List.mem_cons_of_mem x hy))
      (hstep p x List.mem_cons_self hp)

/-- **What every failed step keeps** holds in the end if no step succeeded. -/
theorem tryEach_keeps_of_done_nil {xs : List α}
    (hstep : ∀ p, ∀ x ∈ xs, Inv p → (step p x).1 = false → Inv (step p x).2) {p : π}
    (hnil : (tryEach step p xs).done = []) (hp : Inv p) : Inv (tryEach step p xs).state := by
  induction xs generalizing p with
  | nil => exact hp
  | cons x xs ih =>
    have hnone : ∀ y, y ∉ (tryEach step p (x :: xs)).done := by simp [hnil]
    have hfailed : (step p x).1 = false := by
      have hx := mt (mem_done_cons step).mpr (hnone x)
      rw [not_or] at hx
      simpa using hx.1
    have hrest : (tryEach step (step p x).2 xs).done = [] := List.eq_nil_iff_forall_not_mem.mpr
      fun y hy => hnone y ((mem_done_cons step).mpr (.inr hy))
    rw [tryEach_cons_state]
    exact ih (fun p y hy => hstep p y (List.mem_cons_of_mem x hy)) hrest
      (hstep p x List.mem_cons_self hp hfailed)

/-- **What a successful step has brought about** holds in the end, if the steps for later items
keep it. -/
theorem tryEach_done (Done : α → π → Prop) {xs : List α}
    (hstep : ∀ p, ∀ x ∈ xs, Inv p → Inv (step p x).2)
    (hdone : ∀ p, ∀ x ∈ xs, Inv p → (step p x).1 = true → Done x (step p x).2)
    (hlater : xs.Pairwise fun x y => ∀ p, Inv p → Done x p → Done x (step p y).2) {p : π}
    (hp : Inv p) : ∀ x ∈ (tryEach step p xs).done, Done x (tryEach step p xs).state := by
  induction xs generalizing p with
  | nil => simp [tryEach]
  | cons x xs ih =>
    intro y hy
    rw [List.pairwise_cons] at hlater
    rw [tryEach_cons_state]
    have hinv : Inv (step p x).2 := hstep p x List.mem_cons_self hp
    have hstep' : ∀ p, ∀ z ∈ xs, Inv p → Inv (step p z).2 := fun p z hz =>
      hstep p z (List.mem_cons_of_mem x hz)
    obtain ⟨rfl, hok⟩ | hy := (mem_done_cons step).mp hy
    · -- the steps that follow keep it
      have hkept : Inv (tryEach step (step p y).2 xs).state ∧
          Done y (tryEach step (step p y).2 xs).state :=
        tryEach_keeps (fun p => Inv p ∧ Done y p)
          (fun p z hz h => ⟨hstep' p z hz h.1, hlater.1 z hz p h.1 h.2⟩)
          ⟨hinv, hdone p y List.mem_cons_self hp hok⟩
      exact hkept.2
    · exact ih hstep' (fun p z hz => hdone p z (List.mem_cons_of_mem x hz)) hlater.2 hinv y hy

end
