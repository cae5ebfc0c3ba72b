import Mathlib

/-!
# Edits under an unsaved-changes flag

A document is edited by calls that may fail, and a flag is to say whether it differs from what
was saved.

* `Attempt` — how a call turns out; `Attempt.andThen` — a second call, with a removal to take the
  first one back.
* `Script` — a command, as the calls it makes: it can touch the document only by them, and sets
  the flag after each one that succeeds.
* `Script.run_tracked_iff` — run on a saved document, a script leaves no change without the flag
  if and only if its first call succeeds or leaves the document as it was.
* `Script.outcome`, `Script.Along` — what a script leaves, and a property of every call it makes.
-/

namespace FlaggedEdits

universe u v w

/-! ## Documents -/

/-- A document, and what of it has been saved. -/
structure Document (π : Type u) where
  saved : π
  current : π
deriving DecidableEq

namespace Document

variable {π : Type u}

/-- A document as it has been read. -/
def read (c : π) : Document π := ⟨c, c⟩

/-- It has changes that are not saved. -/
def Modified (d : Document π) : Prop := d.current ≠ d.saved

/-- What a call has left. -/
def leave (d : Document π) (c : π) : Document π := { d with current := c }

/-- All changes are saved. -/
def save (d : Document π) : Document π := { d with saved := d.current }

theorem not_modified_read (c : π) : ¬ (read c).Modified := fun h => h rfl

theorem not_modified_save (d : Document π) : ¬ d.save.Modified := fun h => h rfl

theorem current_of_not_modified {d : Document π} (h : ¬ d.Modified) : d.current = d.saved :=
  not_not.mp h

/-- On a saved document, a call leaves no change if and only if it leaves it as it was. -/
theorem not_modified_leave_iff {d : Document π} (h : ¬ d.Modified) (c : π) :
    ¬ (d.leave c).Modified ↔ c = d.current := by
  rw [current_of_not_modified h]
  exact not_not

end Document

/-! ## Calls -/

/-- How a call turns out, and what it leaves of the document. -/
structure Attempt (π : Type u) where
  ok : Bool
  left : π
deriving DecidableEq

namespace Attempt

variable {π : Type u}

/-- A second call, if the first one has succeeded. If it fails, `removal` is called and its
result is ignored. -/
def andThen (a b removal : Attempt π) : Attempt π :=
  if a.ok then if b.ok then b else ⟨false, removal.left⟩ else a

/-- A call that fails leaves the document as it was. -/
def Clean (a : Attempt π) (c : π) : Prop := a.ok = false → a.left = c

end Attempt

/-! ## Scripts -/

/-- A document and its flag. -/
structure Flagged (π : Type u) where
  document : Document π
  changed : Bool

/-- The flag is not missing. -/
def Flagged.Tracked {π : Type u} (f : Flagged π) : Prop :=
  f.document.Modified → f.changed = true

/-- The calls of a command, each with its name and with the variables of the program where it
stands. -/
inductive Script (κ : Type w) (π : Type u) (σ : Type v)
  /-- the command has returned -/
  | done (vars : σ)
  /-- it makes a call; it returns if the call fails, and else sets the flag and goes on -/
  | call (vars : σ) (name : κ) (a : Attempt π) (next : Script κ π σ)

namespace Script

variable {κ : Type w} {π : Type u} {σ : Type v}

/-- Run the command. -/
def run : Script κ π σ → Flagged π → Flagged π × σ
  | done vars, f => (f, vars)
  | call vars _ a next, f =>
    if a.ok then next.run ⟨f.document.leave a.left, true⟩
    else (⟨f.document.leave a.left, f.changed⟩, vars)

/-- The first call succeeds, or leaves the document as it was. -/
def Settles (c : π) : Script κ π σ → Prop
  | done _ => True
  | call _ _ a _ => a.Clean c

@[simp] theorem run_done (vars : σ) (f : Flagged π) :
    (done vars : Script κ π σ).run f = (f, vars) := rfl

theorem run_call_of_ok {a : Attempt π} (h : a.ok = true) (vars : σ) (name : κ)
    (next : Script κ π σ) (f : Flagged π) :
    (call vars name a next).run f = next.run ⟨f.document.leave a.left, true⟩ := by
  rw [run, if_pos h]

theorem run_call_of_fail {a : Attempt π} (h : a.ok = false) (vars : σ) (name : κ)
    (next : Script κ π σ) (f : Flagged π) :
    (call vars name a next).run f = (⟨f.document.leave a.left, f.changed⟩, vars) := by
  rw [run, if_neg (by simp [h])]

/-- A flag that is set stays set. -/
theorem run_changed (script : Script κ π σ) {f : Flagged π} (h : f.changed = true) :
    (script.run f).1.changed = true := by
  induction script generalizing f with
  | done vars => exact h
  | call vars name a next ih =>
    rcases Bool.eq_false_or_eq_true a.ok with hok | hok
    · rw [run_call_of_ok hok]
      exact ih rfl
    · rw [run_call_of_fail hok]
      exact h

/-- On a saved document, a script leaves no change without the flag if and only if its first
call succeeds or leaves the document as it was. -/
theorem run_tracked_iff (script : Script κ π σ) {f : Flagged π} (hsaved : ¬ f.document.Modified)
    (hchanged : f.changed = false) :
    (script.run f).1.Tracked ↔ script.Settles f.document.current := by
  cases script with
  | done vars => exact iff_of_true (fun h => absurd h hsaved) trivial
  | call vars name a next =>
    rcases Bool.eq_false_or_eq_true a.ok with hok | hok
    · rw [run_call_of_ok hok]
      refine iff_of_true (fun _ => next.run_changed rfl) fun hfail => ?_
      rw [hok] at hfail
      cases hfail
    · rw [run_call_of_fail hok]
      have hleft := Document.not_modified_leave_iff hsaved a.left
      constructor
      · intro htracked _
        refine hleft.mp fun hmodified => ?_
        have hflag := htracked hmodified
        rw [hchanged] at hflag
        cases hflag
      · intro hsettles hmodified
        exact absurd hmodified (hleft.mpr (hsettles hok))

/-! ## What a script leaves -/

/-- The document and the variables that are left. -/
def outcome : Script κ π σ → π → π × σ
  | done vars, c => (c, vars)
  | call vars _ a next, _ => if a.ok then next.outcome a.left else (a.left, vars)

/-- Every call that is made meets `D`, which is about the variables, the call, the document
before, and how it turns out. -/
def Along (D : σ → κ → π → Attempt π → Prop) : Script κ π σ → π → Prop
  | done _, _ => True
  | call vars name a next, c => D vars name c a ∧ (a.ok = true → next.Along D a.left)

/-- What a run leaves is the outcome. -/
theorem run_eq_outcome (script : Script κ π σ) (f : Flagged π) :
    ((script.run f).1.document.current, (script.run f).2) = script.outcome f.document.current := by
  induction script generalizing f with
  | done vars => rfl
  | call vars name a next ih =>
    rcases Bool.eq_false_or_eq_true a.ok with hok | hok
    · rw [run_call_of_ok hok, outcome, if_pos hok]
      exact ih _
    · rw [run_call_of_fail hok, outcome, if_neg (by simp [hok])]
      rfl

theorem Along.and {D E : σ → κ → π → Attempt π → Prop} {script : Script κ π σ} {c : π}
    (hD : script.Along D c) (hE : script.Along E c) :
    script.Along (fun vars name c a => D vars name c a ∧ E vars name c a) c := by
  induction script generalizing c with
  | done vars => trivial
  | call vars name a next ih =>
    exact ⟨⟨hD.1, hE.1⟩, fun hok => ih (hD.2 hok) (hE.2 hok)⟩

end Script

end FlaggedEdits
