import Mathlib

/-!
# Handles on stored records

A store has records by key, and a handle has a copy of one of them. What is set through a handle is
stored first, and then set in the copy. Handles may be on the same record, so that a copy may be
out of date.

* `Handles` — a store with its handles.
* `HandleUse`, `HandleStep` — a step, and the handle that it uses.
* `Coherent` — a handle that is not out of date.
* `Spares` — a step that does not bring a handle out of date.
* `coherent_of_reflTransGen` — a handle that is spared stays coherent.
-/

/-- A store with its handles, each a key with a copy of the record. -/
structure Handles (κ ρ : Type) where
  store : κ → Option ρ
  handles : List (κ × ρ)

/-- What a step uses. -/
inductive HandleUse
  /-- no handle -/
  | none
  /-- a handle, to change its record -/
  | write (i : ℕ)
  /-- a handle, to remove its record -/
  | remove (i : ℕ)

namespace Handles

variable {κ ρ : Type} [DecidableEq κ] {s s' : Handles κ ρ} {i : ℕ} {use : HandleUse}

/-- A step. -/
inductive HandleStep : Handles κ ρ → HandleUse → Handles κ ρ → Prop
  | failed (s : Handles κ ρ) (use : HandleUse) : HandleStep s use s
  | copied (s : Handles κ ρ) (copies : List (κ × ρ))
      (hcopies : ∀ h ∈ copies, s.store h.1 = some h.2) :
      HandleStep s .none { s with handles := s.handles ++ copies }
  | created (s : Handles κ ρ) (k : κ) (r : ρ) (hk : s.store k = none) :
      HandleStep s .none ⟨Function.update s.store k (some r), s.handles ++ [(k, r)]⟩
  | written (s : Handles κ ρ) (i : ℕ) (k : κ) (copy r : ρ) (f : ρ → ρ)
      (hi : s.handles[i]? = some (k, copy)) (hk : s.store k = some r) :
      HandleStep s (.write i)
        ⟨Function.update s.store k (some (f r)), s.handles.set i (k, f copy)⟩
  | removed (s : Handles κ ρ) (i : ℕ) (k : κ) (copy : ρ) (hi : s.handles[i]? = some (k, copy)) :
      HandleStep s (.remove i) { s with store := Function.update s.store k none }

/-- The handle, if there is one, has the record as it is stored. -/
def Coherent (s : Handles κ ρ) (i : ℕ) : Prop :=
  ∀ h ∈ s.handles[i]?, s.store h.1 = some h.2

/-- Two handles are on different records. -/
def Apart (s : Handles κ ρ) (i j : ℕ) : Prop :=
  ∀ h ∈ s.handles[i]?, ∀ h' ∈ s.handles[j]?, h.1 ≠ h'.1

/-- Only the handle itself changes its record, which is not removed. -/
def Spares (s : Handles κ ρ) (i : ℕ) : HandleUse → Prop
  | .none => True
  | .write j => j = i ∨ s.Apart i j
  | .remove j => s.Apart i j

/-- What was stored under another key is still there. -/
theorem Coherent.update (hc : s.Coherent i) {k : κ} {r : Option ρ}
    (hk : ∀ h ∈ s.handles[i]?, h.1 ≠ k) :
    ∀ h ∈ s.handles[i]?, Function.update s.store k r h.1 = some h.2 := by
  intro h hh
  rw [Function.update_of_ne (hk h hh)]
  exact hc h hh

/-- **A step that spares a handle** keeps it coherent. -/
theorem HandleStep.coherent (hstep : HandleStep s use s') (hspares : s.Spares i use)
    (hc : s.Coherent i) : s'.Coherent i := by
  cases hstep with
  | failed => exact hc
  | copied copies hcopies =>
    intro h hh
    rw [Option.mem_def, List.getElem?_append] at hh
    split_ifs at hh
    · exact hc h hh
    · exact hcopies h (List.mem_of_getElem? hh)
  | created k r hk =>
    intro h hh
    rw [Option.mem_def, List.getElem?_append] at hh
    split_ifs at hh
    · refine hc.update (fun h' hh' heq => ?_) h hh
      have hsome := hc h' hh'
      rw [heq, hk] at hsome
      cases hsome
    · obtain rfl := List.mem_singleton.mp (List.mem_of_getElem? hh)
      exact Function.update_self k (some r) s.store
  | written j k copy r f hj hk =>
    intro h hh
    by_cases hij : j = i
    · -- the handle itself: its copy was the stored record
      subst hij
      have hcopy : some r = some copy := hk.symm.trans (hc (k, copy) hj)
      have hlt : j < s.handles.length := (List.getElem?_eq_some_iff.mp hj).1
      rw [Option.mem_def, List.getElem?_set_self hlt] at hh
      obtain rfl := Option.some.inj hh
      obtain rfl := Option.some.inj hcopy
      exact Function.update_self k _ s.store
    · rw [Option.mem_def, List.getElem?_set_ne hij] at hh
      have hapart : s.Apart i j := hspares.resolve_left hij
      exact hc.update (fun h' hh' => hapart h' hh' (k, copy) hj) h hh
  | removed j k copy hj =>
    exact hc.update fun h' hh' => hspares h' hh' (k, copy) hj

/-- **A handle that every step spares** stays coherent. -/
theorem coherent_of_reflTransGen
    (hrun : Relation.ReflTransGen
      (fun s s' : Handles κ ρ => ∃ use, s.Spares i use ∧ HandleStep s use s') s s')
    (hc : s.Coherent i) : s'.Coherent i := by
  induction hrun with
  | refl => exact hc
  | tail _ hlast ih =>
    obtain ⟨use, hspares, hstep⟩ := hlast
    exact hstep.coherent hspares ih

end Handles
