import Mathlib

/-!
# Runs whose steps meet a condition

A system moves from state to state under labels: commands, or the unit label for a
deterministic program. A run is guarded when each of its steps is taken in a state, and under
a label, that meets a condition.

* `GuardedRun δ G s₀ s` — `s` is reached from `s₀` by steps that meet `G`.
* `GuardedRun.inv` — what a guarded step preserves holds after every guarded run.
* `forall_reached_iff` — when a property of steps agrees with a condition wherever an invariant
  holds, and the condition keeps the invariant, then every step of every run has the property
  if and only if it meets the condition.
* `Run.forall_prefix_iff`, `Run.forall_prefix_iff_of_inv`, `Run.forall_step_iff_of_inv` — the same
  for one run, given as the list of its labels.
* `Run.Steps`, `Run.Steps.inv` — a run whose steps meet a condition, and what it preserves.
* `Program.Reaches`, `Program.exists_done` — deterministic programs, and their termination by
  a measure.
-/

universe u v

/-- `s` is reached from `s₀` by steps that meet `G`. -/
inductive GuardedRun {σ : Type u} {ρ : Type v} (δ : σ → ρ → σ) (G : σ → ρ → Prop) (s₀ : σ) :
    σ → Prop where
  /-- the empty run -/
  | start : GuardedRun δ G s₀ s₀
  /-- one more step -/
  | next {s : σ} (c : ρ) : GuardedRun δ G s₀ s → G s c → GuardedRun δ G s₀ (δ s c)

namespace GuardedRun

variable {σ : Type u} {ρ : Type v} {δ : σ → ρ → σ} {G G' C P : σ → ρ → Prop} {I : σ → Prop}
  {s₀ s : σ}

/-- **The invariant rule.** -/
theorem inv (h0 : I s₀) (hstep : ∀ s c, I s → G s c → I (δ s c)) (h : GuardedRun δ G s₀ s) :
    I s := by
  induction h with
  | start => exact h0
  | next c _ hG ih => exact hstep _ c ih hG

theorem mono (hG : ∀ s c, G s c → G' s c) (h : GuardedRun δ G s₀ s) : GuardedRun δ G' s₀ s := by
  induction h with
  | start => exact .start
  | next c _ hc ih => exact .next c ih (hG _ c hc)

/-- The invariant rule for a condition that every step of every run meets. -/
theorem inv_of_forall (h0 : I s₀) (hstep : ∀ s c, I s → G s c → C s c → I (δ s c))
    (hC : ∀ s c, GuardedRun δ G s₀ s → G s c → C s c) (h : GuardedRun δ G s₀ s) : I s := by
  induction h with
  | start => exact h0
  | next c hrun hG ih => exact hstep _ c ih hG (hC _ c hrun hG)

/-- A property of steps that agrees with a condition wherever the invariant holds, when the
condition keeps the invariant: all steps of all runs have the property if and only if all of
them meet the condition. -/
theorem forall_reached_iff (h0 : I s₀) (hstep : ∀ s c, I s → G s c → C s c → I (δ s c))
    (hP : ∀ s c, I s → G s c → (P s c ↔ C s c)) :
    (∀ s c, GuardedRun δ G s₀ s → G s c → P s c) ↔
      ∀ s c, GuardedRun δ G s₀ s → G s c → C s c := by
  constructor
  · intro h
    have hI : ∀ s, GuardedRun δ G s₀ s → I s := by
      intro s hrun
      induction hrun with
      | start => exact h0
      | next d hrun' hd ih => exact hstep _ d ih hd ((hP _ d ih hd).mp (h _ d hrun' hd))
    exact fun s c hrun hG => (hP s c (hI s hrun) hG).mp (h s c hrun hG)
  · intro h s c hrun hG
    exact (hP s c (inv_of_forall h0 hstep h hrun) hG).mpr (h s c hrun hG)

end GuardedRun

/-! ## Runs as lists -/

namespace Run

variable {σ : Type u} {ρ : Type v} {δ : σ → ρ → σ} {I : σ → Prop} {C : σ → ρ → Prop} {s : σ}

/-- The invariant holds all along a run if and only if each of its steps meets the condition
under which a step keeps it. -/
theorem forall_prefix_iff (hstep : ∀ s c, I s → (I (δ s c) ↔ C s c)) (h0 : I s) (l : List ρ) :
    (∀ before after, l = before ++ after → I (before.foldl δ s)) ↔
      ∀ before c after, l = before ++ c :: after → C (before.foldl δ s) c := by
  constructor
  · rintro h before c after rfl
    have hnext := h (before ++ [c]) after (List.append_cons before c after)
    rw [List.foldl_concat] at hnext
    exact (hstep _ c (h before (c :: after) rfl)).mp hnext
  · intro h before
    induction before using List.reverseRecOn with
    | nil => exact fun _ _ => h0
    | append_singleton before c ih =>
      intro after hl
      rw [← List.append_cons] at hl
      rw [List.foldl_concat]
      exact (hstep _ c (ih (c :: after) hl)).mpr (h before c after hl)

/-- The same with a second invariant that every step keeps. -/
theorem forall_prefix_iff_of_inv {J : σ → Prop} (hJ : ∀ s c, J s → J (δ s c))
    (hstep : ∀ s c, J s → I s → (I (δ s c) ↔ C s c)) (hJ0 : J s) (h0 : I s) (l : List ρ) :
    (∀ before after, l = before ++ after → I (before.foldl δ s)) ↔
      ∀ before c after, l = before ++ c :: after → C (before.foldl δ s) c := by
  have hinv : ∀ before : List ρ, J (before.foldl δ s) := by
    intro before
    induction before using List.reverseRecOn with
    | nil => exact hJ0
    | append_singleton before c ih =>
      rw [List.foldl_concat]
      exact hJ _ c ih
  have hboth := forall_prefix_iff (I := fun s => J s ∧ I s) (C := C) (δ := δ)
    (fun s c h => ⟨fun h' => (hstep s c h.1 h.2).mp h'.2,
      fun h' => ⟨hJ s c h.1, (hstep s c h.1 h.2).mpr h'⟩⟩) ⟨hJ0, h0⟩ l
  rw [← hboth]
  exact ⟨fun h before after hl => ⟨hinv before, h before after hl⟩,
    fun h before after hl => (h before after hl).2⟩

/-- Every step of a run meets `P`. -/
def Steps (δ : σ → ρ → σ) (P : σ → ρ → Prop) : σ → List ρ → Prop
  | _, [] => True
  | s, c :: l => P s c ∧ Steps δ P (δ s c) l

theorem Steps.split {P : σ → ρ → Prop} {before after : List ρ}
    (h : Steps δ P s (before ++ after)) :
    Steps δ P s before ∧ Steps δ P (before.foldl δ s) after := by
  induction before generalizing s with
  | nil => exact ⟨trivial, h⟩
  | cons c l ih =>
    obtain ⟨hl, hafter⟩ := ih h.2
    exact ⟨⟨h.1, hl⟩, hafter⟩

/-- **The invariant rule** for a run whose steps meet a condition. -/
theorem Steps.inv {P : σ → ρ → Prop} (hstep : ∀ s c, I s → P s c → I (δ s c)) (h0 : I s)
    {l : List ρ} (h : Steps δ P s l) : I (l.foldl δ s) := by
  induction l generalizing s with
  | nil => exact h0
  | cons c l ih => exact ih (hstep s c h0 h.1) h.2

end Run

/-! ## Deterministic programs -/

namespace Program

variable {σ : Type u} {step : σ → σ} {G I Done : σ → Prop} {s₀ s s' : σ}

/-- `s` is reached from `s₀` by steps taken in states that meet `G`. -/
abbrev GuardedReaches (step : σ → σ) (G : σ → Prop) (s₀ s : σ) : Prop :=
  GuardedRun (fun s (_ : Unit) => step s) (fun s _ => G s) s₀ s

/-- `s` is reached from `s₀`. -/
abbrev Reaches (step : σ → σ) (s₀ s : σ) : Prop := GuardedReaches step (fun _ => True) s₀ s

theorem Reaches.iterate (step : σ → σ) (s₀ : σ) (n : ℕ) : Reaches step s₀ (step^[n] s₀) := by
  induction n with
  | zero => exact .start
  | succ n ih =>
    rw [Function.iterate_succ_apply']
    exact .next () ih trivial

theorem Reaches.single (h : step s₀ = s) : Reaches step s₀ s :=
  h ▸ .next (δ := fun s _ => step s) () .start trivial

theorem Reaches.trans (h : Reaches step s₀ s) (h' : Reaches step s s') : Reaches step s₀ s' := by
  induction h' with
  | start => exact h
  | next c _ hG ih => exact .next c ih hG

/-- A step on the way. -/
theorem Reaches.head (h : Reaches step (step s₀) s) : Reaches step s₀ s :=
  Reaches.trans (.single rfl) h

/-- A program that has come to rest after `n` steps has been everywhere it will ever be. -/
theorem Reaches.le_of_rest (h : Reaches step s₀ s) {n : ℕ}
    (hrest : step (step^[n] s₀) = step^[n] s₀) : ∃ k ≤ n, step^[k] s₀ = s := by
  induction h with
  | start => exact ⟨0, Nat.zero_le n, rfl⟩
  | next _ _ _ ih =>
    obtain ⟨k, hk, rfl⟩ := ih
    rcases hk.eq_or_lt with rfl | hlt
    · exact ⟨k, le_rfl, hrest.symm⟩
    · exact ⟨k + 1, hlt, Function.iterate_succ_apply' step k s₀⟩

/-- **The termination rule**: an invariant, and a measure that falls until the program is
done. -/
theorem exists_done (μ : σ → ℕ) (h0 : I s₀) (hG : ∀ s, Reaches step s₀ s → G s)
    (hstep : ∀ s, I s → G s → ¬ Done s → I (step s) ∧ μ (step s) < μ s) :
    ∃ n ≤ μ s₀, Done (step^[n] s₀) := by
  induction hμ : μ s₀ using Nat.strong_induction_on generalizing s₀ with
  | _ m ih =>
    by_cases hdone : Done s₀
    · exact ⟨0, Nat.zero_le _, hdone⟩
    · obtain ⟨hI, hlt⟩ := hstep s₀ h0 (hG s₀ .start) hdone
      obtain ⟨n, hn, hend⟩ := ih _ (hμ ▸ hlt) hI (fun s hs => hG s hs.head) rfl
      exact ⟨n + 1, by omega, by rwa [Function.iterate_succ_apply]⟩

end Program
