import Mathlib

/-!
# Objects that are used as if at once

Callers use an object at the same time, each call taking several steps. The object is as good as one
whose calls take effect at once if nothing can be seen of a difference.

* `Transitions`, `Transitions.Run` — systems with steps that are seen and steps that are not, and
  their runs with what is seen.
* `Simulates`, `Simulates.run` — a system each of whose steps another can follow shows nothing that
  the other cannot show.
* `AtomicObject` — an object whose calls take effect at once.
* `AtomicObject.transitions` — the object with its callers.
-/

/-- A system. A step without a label is not seen. -/
structure Transitions (σ ℓ : Type) where
  step : σ → Option ℓ → σ → Prop

namespace Transitions

variable {σ ℓ : Type} {M : Transitions σ ℓ} {s s' s'' : σ} {t t' : List ℓ}

/-- A run, with what is seen of it. -/
inductive Run (M : Transitions σ ℓ) (s : σ) : List ℓ → σ → Prop
  | start : Run M s [] s
  | next {t : List ℓ} {s' s'' : σ} (o : Option ℓ) (hrun : Run M s t s') (hstep : M.step s' o s'') :
    Run M s (t ++ o.toList) s''

theorem Run.trans (h : M.Run s t s') (h' : M.Run s' t' s'') : M.Run s (t ++ t') s'' := by
  induction h' with
  | start => simpa using h
  | next o _ hstep ih =>
    rw [← List.append_assoc]
    exact ih.next o hstep

/-- A run of one step. -/
theorem Run.single {o : Option ℓ} (hstep : M.step s o s') : M.Run s o.toList s' :=
  Run.start.next o hstep

end Transitions

section

variable {σ τ ℓ : Type} {M : Transitions σ ℓ} {N : Transitions τ ℓ} {R : σ → τ → Prop}

/-- Each step can be followed by a run with the same label. -/
def Simulates (M : Transitions σ ℓ) (N : Transitions τ ℓ) (R : σ → τ → Prop) : Prop :=
  ∀ s a o s', R s a → M.step s o s' → ∃ a', N.Run a o.toList a' ∧ R s' a'

/-- What is seen of a run can be seen of a run that follows it. -/
theorem Simulates.run (h : Simulates M N R) {s s' : σ} {a : τ} {t : List ℓ} (hR : R s a)
    (hrun : M.Run s t s') : ∃ a', N.Run a t a' ∧ R s' a' := by
  induction hrun with
  | start => exact ⟨a, .start, hR⟩
  | next o _ hstep ih =>
    obtain ⟨b, hb, hRb⟩ := ih
    obtain ⟨c, hc, hRc⟩ := h _ b o _ hRb hstep
    exact ⟨c, hb.trans hc, hRc⟩

end

/-! ## Atomic objects -/

/-- An object with states `σ`, calls `ω` and results `ρ`. -/
structure AtomicObject (σ ω ρ : Type) where
  /-- a call, in a state, with its result and the state after it -/
  apply : ω → σ → ρ → σ → Prop
  /-- the result of a call that is refused -/
  refusal : ρ

/-- How far a caller is. -/
inductive CallStatus (ω ρ : Type)
  | idle
  | called (o : ω)
  | answered (r : ρ)

/-- What is seen of an object and its callers `ι`. -/
inductive CallEvent (ι σ ω ρ : Type)
  | invoke (i : ι) (o : ω)
  | answer (i : ι) (r : ρ)
  /-- the object cannot be reached for the call -/
  | refuse (i : ι)
  /-- others have changed the state -/
  | change (s : σ)

namespace AtomicObject

variable {ι σ ω ρ : Type} [DecidableEq ι]

/-- A step of a caller or of others. A call takes effect without being seen, at some moment between
the invocation and the return. -/
inductive Step (O : AtomicObject σ ω ρ) : σ × (ι → CallStatus ω ρ) →
    Option (CallEvent ι σ ω ρ) → σ × (ι → CallStatus ω ρ) → Prop
  | invoke {s : σ} {c : ι → CallStatus ω ρ} (i : ι) (o : ω) (hi : c i = .idle) :
    Step O (s, c) (some (.invoke i o)) (s, Function.update c i (.called o))
  | apply {s s' : σ} {c : ι → CallStatus ω ρ} (i : ι) (o : ω) (r : ρ) (hi : c i = .called o)
    (h : O.apply o s r s') : Step O (s, c) none (s', Function.update c i (.answered r))
  | refuse {s : σ} {c : ι → CallStatus ω ρ} (i : ι) (o : ω) (hi : c i = .called o) :
    Step O (s, c) (some (.refuse i)) (s, Function.update c i (.answered O.refusal))
  | answer {s : σ} {c : ι → CallStatus ω ρ} (i : ι) (r : ρ) (hi : c i = .answered r) :
    Step O (s, c) (some (.answer i r)) (s, Function.update c i .idle)
  | change {s : σ} {c : ι → CallStatus ω ρ} (s' : σ) : Step O (s, c) (some (.change s')) (s', c)

/-- The object with its callers. -/
def transitions (O : AtomicObject σ ω ρ) :
    Transitions (σ × (ι → CallStatus ω ρ)) (CallEvent ι σ ω ρ) where
  step := O.Step

end AtomicObject
