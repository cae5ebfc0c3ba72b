import Mathlib

/-!
# Programs that issue calls, and their pre- and postconditions

A program logic for code that asks its environment to do things and is told, each time,
whether it was done: system calls, `ioctl`s, writes to a store. The environment is not part
of the program; what it makes of the calls is described by a `Machine`.

* `Calls ρ α` — programs: a free monad over calls of type `ρ` with a yes/no answer, and an
  early exit.
* `Calls.run` — running against an environment that answers from the history so far.
* `Machine` — the effect of a call, the answers to reckon with, an invariant of the states in
  between, and when a call may be issued.
* `Calls.wp`, `Calls.wp_bind`, `Calls.wp_mono`, `Calls.wp_foldlM` — weakest preconditions,
  with the rules for sequence and for loops over a list.
* `Calls.wp_sound` — what a precondition promises of every run.
* `Calls.RunsSafely`, `Calls.runsSafely_iff_wp` — every run is safe, and this is what the
  precondition says.
* `Calls.Only`, `Calls.granted` — what a program may issue, whatever the answers, and what it
  issues when every call is granted.
-/

universe u w

/-- A program that issues calls of type `ρ` and may exit early. -/
inductive Calls (ρ : Type u) (α : Type) : Type u where
  /-- return a value -/
  | ret (a : α)
  /-- leave the whole program -/
  | exit
  /-- issue a call and go on with its answer -/
  | call (c : ρ) (k : Bool → Calls ρ α)

namespace Calls

variable {ρ : Type u} {α β : Type}

/-- Sequence two programs. -/
protected def bind : Calls ρ α → (α → Calls ρ β) → Calls ρ β
  | ret a, f => f a
  | exit, _ => exit
  | call c k, f => call c fun b => (k b).bind f

instance : Monad (Calls ρ) where
  pure := ret
  bind := Calls.bind

/-- The program that issues one call and returns the answer. -/
def issue (c : ρ) : Calls ρ Bool := call c ret

@[simp] theorem pure_eq (a : α) : (pure a : Calls ρ α) = ret a := rfl

@[simp] theorem bind_eq (p : Calls ρ α) (f : α → Calls ρ β) : p >>= f = p.bind f := rfl

/-- What a program does: the value it returns, `none` after an early exit, and the history of
its calls with their answers. -/
def run (env : List (ρ × Bool) → ρ → Bool) :
    Calls ρ α → List (ρ × Bool) → Option α × List (ρ × Bool)
  | ret a, h => (some a, h)
  | exit, h => (none, h)
  | call c k, h => (k (env h c)).run env (h ++ [(c, env h c)])

end Calls

/-! ## Machines -/

/-- What calls do. -/
structure Machine (σ : Type w) (ρ : Type u) where
  /-- the state after a call and its answer -/
  step : σ → ρ → Bool → σ
  /-- the answers to reckon with -/
  Answers : σ → ρ → Bool → Prop
  /-- what every state of a run must satisfy -/
  Inv : σ → Prop
  /-- when a call may be issued -/
  Allowed : σ → ρ → Prop

namespace Machine

variable {σ : Type w} {ρ : Type u} (M : Machine σ ρ)

/-- The state after a sequence of answered calls. -/
def exec (s : σ) (events : List (ρ × Bool)) : σ := events.foldl (fun s e => M.step s e.1 e.2) s

/-- Every answer is one to reckon with. -/
def Answered : σ → List (ρ × Bool) → Prop
  | _, [] => True
  | s, e :: events => M.Answers s e.1 e.2 ∧ Answered (M.step s e.1 e.2) events

/-- The invariant holds in every state, and every call is issued where it may be. -/
def Safe : σ → List (ρ × Bool) → Prop
  | s, [] => M.Inv s
  | s, e :: events => M.Inv s ∧ M.Allowed s e.1 ∧ Safe (M.step s e.1 e.2) events

variable {M} {s : σ} {events : List (ρ × Bool)}

/-- Calls that are all granted are answered as the machine allows, if it allows to grant every
call. -/
theorem answered_of_forall (hM : ∀ s c, M.Answers s c true) (h : ∀ e ∈ events, e.2 = true) :
    M.Answered s events := by
  induction events generalizing s with
  | nil => trivial
  | cons e events ih =>
    refine ⟨?_, ih fun e' he' => h e' (List.mem_cons_of_mem _ he')⟩
    rw [h e List.mem_cons_self]
    exact hM s e.1

theorem Safe.inv (h : M.Safe s events) : M.Inv s := by
  cases events with
  | nil => exact h
  | cons e events => exact h.1

/-- The invariant at any point of a safe run. -/
theorem Safe.inv_exec (h : M.Safe s events) {before after : List (ρ × Bool)}
    (hsplit : events = before ++ after) : M.Inv (M.exec s before) := by
  subst hsplit
  induction before generalizing s with
  | nil => exact h.inv
  | cons e before ih => exact ih h.2.2

/-- A call at any point of a safe run was allowed. -/
theorem Safe.allowed_exec (h : M.Safe s events) {before after : List (ρ × Bool)} {e : ρ × Bool}
    (hsplit : events = before ++ e :: after) : M.Allowed (M.exec s before) e.1 := by
  subst hsplit
  induction before generalizing s with
  | nil => exact h.2.1
  | cons e' before ih => exact ih h.2.2

end Machine

/-! ## Weakest preconditions -/

namespace Calls

variable {σ : Type w} {ρ : Type u} {α β γ : Type} (M : Machine σ ρ)

/-- The weakest precondition of a program: from here, whatever the answers, every state
satisfies the invariant, every call is allowed, and the end satisfies `Q`. -/
def wp : Calls ρ α → (Option α → σ → Prop) → σ → Prop
  | ret a, Q, s => M.Inv s ∧ Q (some a) s
  | exit, Q, s => M.Inv s ∧ Q none s
  | call c k, Q, s => M.Inv s ∧ M.Allowed s c ∧
      ∀ b, M.Answers s c b → (k b).wp Q (M.step s c b)

/-- The program returns, and its value and the final state satisfy `Q`. -/
def Ensures (p : Calls ρ α) (Q : α → σ → Prop) (s : σ) : Prop :=
  p.wp M (fun r s => ∃ a, r = some a ∧ Q a s) s

variable {M} {s : σ} {p : Calls ρ α} {f : α → Calls ρ β}

/-- A weaker end has a weaker precondition. -/
theorem wp_mono {Q Q' : Option α → σ → Prop} (hQ : ∀ r s, Q r s → Q' r s) (h : p.wp M Q s) :
    p.wp M Q' s := by
  induction p generalizing s with
  | ret a => exact ⟨h.1, hQ _ _ h.2⟩
  | exit => exact ⟨h.1, hQ _ _ h.2⟩
  | call c k ih => exact ⟨h.1, h.2.1, fun b hb => ih b (h.2.2 b hb)⟩

/-- The rule for two programs in a row: where the first ends with a value, the second goes on from
there; where it ends early, so does the whole. -/
theorem wp_bind {Q : Option β → σ → Prop}
    (h : p.wp M (fun r s => match r with
      | none => Q none s
      | some a => (f a).wp M Q s) s) : (p.bind f).wp M Q s := by
  induction p generalizing s with
  | ret a => exact h.2
  | exit => exact h
  | call c k ih => exact ⟨h.1, h.2.1, fun b hb => ih b (h.2.2 b hb)⟩

/-- Every precondition includes the invariant. -/
theorem inv_of_wp {Q : Option α → σ → Prop} (h : p.wp M Q s) : M.Inv s := by
  cases p with
  | ret a => exact h.1
  | exit => exact h.1
  | call c k => exact h.1

/-- The precondition of a sequence. -/
theorem wp_bind_iff {Q : Option β → σ → Prop} :
    (p.bind f).wp M Q s ↔ p.wp M (fun r s => match r with
      | none => Q none s
      | some a => (f a).wp M Q s) s := by
  refine ⟨fun h => ?_, wp_bind⟩
  induction p generalizing s with
  | ret a => exact ⟨inv_of_wp h, h⟩
  | exit => exact h
  | call c k ih => exact ⟨h.1, h.2.1, fun b hb => ih b (h.2.2 b hb)⟩

theorem ensures_ret {a : α} {Q : α → σ → Prop} (hinv : M.Inv s) (hQ : Q a s) :
    Ensures M (ret a) Q s := ⟨hinv, a, rfl, hQ⟩

/-- The rule for sequence. -/
theorem ensures_bind {R : α → σ → Prop} {Q : β → σ → Prop} (hp : Ensures M p R s)
    (hf : ∀ a s, R a s → Ensures M (f a) Q s) : Ensures M (p.bind f) Q s := by
  refine wp_bind (wp_mono (fun r s hr => ?_) hp)
  obtain ⟨a, rfl, ha⟩ := hr
  exact hf a s ha

/-- The rule for a call. -/
theorem ensures_issue {c : ρ} {k : Bool → Calls ρ β} {Q : β → σ → Prop} (hinv : M.Inv s)
    (hallowed : M.Allowed s c)
    (hk : ∀ b, M.Answers s c b → Ensures M (k b) Q (M.step s c b)) :
    Ensures M ((issue c).bind k) Q s := ⟨hinv, hallowed, hk⟩

/-- A program that ends in `Q` ends in what `Q` implies. -/
theorem ensures_mono {Q Q' : α → σ → Prop} (hQ : ∀ a s, Q a s → Q' a s) (h : Ensures M p Q s) :
    Ensures M p Q' s := by
  refine wp_mono (fun r s hr => ?_) h
  obtain ⟨a, rfl, ha⟩ := hr
  exact ⟨a, rfl, hQ a s ha⟩

/-- The end of a program is a state like any other. -/
theorem ensures_inv {Q : α → σ → Prop} (h : Ensures M p Q s) :
    Ensures M p (fun a s => M.Inv s ∧ Q a s) s := by
  induction p generalizing s with
  | ret a =>
    obtain ⟨hinv, a', ha, hQ⟩ := h
    exact ⟨hinv, a', ha, hinv, hQ⟩
  | exit =>
    obtain ⟨-, a, ha, -⟩ := h
    cases ha
  | call c k ih => exact ⟨h.1, h.2.1, fun b hb => ih b (h.2.2 b hb)⟩

/-- The rule for a loop over a list: an invariant of what is still to do, the accumulator and
the state, kept by each turn. -/
theorem ensures_foldlM {g : α → γ → Calls ρ α} (I : List γ → α → σ → Prop)
    (hinv : ∀ a s, I [] a s → M.Inv s)
    (hstep : ∀ c l a s, I (c :: l) a s → Ensures M (g a c) (fun a' s' => I l a' s') s) :
    ∀ (l : List γ) (a : α) (s : σ), I l a s →
      Ensures M (l.foldlM g a) (fun a' s' => I [] a' s') s := by
  intro l
  induction l with
  | nil => exact fun a s h => ensures_ret (hinv a s h) h
  | cons c l ih =>
    intro a s h
    rw [List.foldlM_cons]
    exact ensures_bind (hstep c l a s h) ih

/-- The rule for a loop over a list with distinct keys whose state has a part for each key: if
each turn takes its own part to where it is to end, the loop does so for all. -/
theorem ensures_foldlM_keyed {κ ω : Type} [DecidableEq κ] {M : Machine (κ → ω) ρ}
    (hinv : ∀ s, M.Inv s) {body : α → γ → Calls ρ α} {key : γ → κ} {l : List γ}
    (hnodup : (l.map key).Nodup) (start target : κ → ω)
    (hstep : ∀ c ∈ l, ∀ a s, s (key c) = start (key c) →
      Ensures M (body a c) (fun _ s' => s' = Function.update s (key c) (target (key c))) s)
    (a : α) :
    Ensures M (l.foldlM body a)
      (fun _ s' => ∀ n, s' n = if n ∈ l.map key then target n else start n) start := by
  -- what is to do is as it was
  have hloop := ensures_foldlM (M := M) (g := body)
    (fun todo _ s => todo <:+ l ∧ ∀ n, s n =
      if n ∈ todo.map key then start n else if n ∈ l.map key then target n else start n)
    (fun _ s _ => hinv s)
    (by
      rintro c todo a s ⟨hsuffix, hs⟩
      have hmem : c ∈ l := hsuffix.subset List.mem_cons_self
      have hnot : key c ∉ todo.map key :=
        (List.nodup_cons.mp (hnodup.sublist (hsuffix.sublist.map key))).1
      refine ensures_mono ?_ (hstep c hmem a s (by rw [hs, List.map_cons, if_pos List.mem_cons_self]))
      rintro a' s' rfl
      refine ⟨(List.suffix_cons _ _).trans hsuffix, fun n => ?_⟩
      by_cases hn : n = key c
      · subst hn
        rw [Function.update_self, if_neg hnot, if_pos (List.mem_map_of_mem hmem)]
      · rw [Function.update_of_ne hn, hs]
        refine if_congr ?_ rfl rfl
        rw [List.map_cons, List.mem_cons]
        exact or_iff_right hn)
  refine ensures_mono ?_ (hloop l a start ⟨List.suffix_refl _, fun n => ?_⟩)
  · rintro a' s' ⟨-, hs'⟩ n
    rw [hs', List.map_nil, if_neg List.not_mem_nil]
  · split <;> rfl

/-- A run only adds to its history. -/
theorem run_append (env : List (ρ × Bool) → ρ → Bool) (p : Calls ρ α)
    (history : List (ρ × Bool)) : ∃ events, (p.run env history).2 = history ++ events := by
  induction p generalizing history with
  | ret a => exact ⟨[], (List.append_nil _).symm⟩
  | exit => exact ⟨[], (List.append_nil _).symm⟩
  | call c k ih =>
    obtain ⟨events, hrun⟩ := ih _ (history ++ [(c, env history c)])
    exact ⟨(c, env history c) :: events, by rw [run, hrun, List.append_assoc]; rfl⟩

/-- **Soundness.** A run of a program whose precondition holds is safe, and ends as the
postcondition says, provided its answers are among those reckoned with. -/
theorem wp_sound {Q : Option α → σ → Prop} (env : List (ρ × Bool) → ρ → Bool)
    (h : p.wp M Q s) (history : List (ρ × Bool)) :
    ∃ events, (p.run env history).2 = history ++ events ∧
      (M.Answered s events →
        M.Safe s events ∧ Q (p.run env history).1 (M.exec s events)) := by
  induction p generalizing s history with
  | ret a => exact ⟨[], (List.append_nil _).symm, fun _ => h⟩
  | exit => exact ⟨[], (List.append_nil _).symm, fun _ => h⟩
  | call c k ih =>
    obtain ⟨hinv, hallowed, hk⟩ := h
    by_cases hb : M.Answers s c (env history c)
    · obtain ⟨events, hrun, hsafe⟩ := ih _ (hk _ hb) (history ++ [(c, env history c)])
      refine ⟨(c, env history c) :: events, by rw [run, hrun, List.append_assoc]; rfl, ?_⟩
      rintro ⟨-, hanswered⟩
      obtain ⟨hsafe, hQ⟩ := hsafe hanswered
      exact ⟨⟨hinv, hallowed, hsafe⟩, hQ⟩
    · obtain ⟨events, hrun⟩ := run_append env (k (env history c)) (history ++ [(c, env history c)])
      refine ⟨(c, env history c) :: events, by rw [run, hrun, List.append_assoc]; rfl, ?_⟩
      rintro ⟨hanswer, -⟩
      exact absurd hanswer hb

/-! ## Safety of all runs -/

/-- What the environment does before a history does not matter after it. -/
theorem run_congr {env env' : List (ρ × Bool) → ρ → Bool} {p : Calls ρ α}
    {history : List (ρ × Bool)} (h : ∀ later, history <+: later → env later = env' later) :
    p.run env history = p.run env' history := by
  induction p generalizing history with
  | ret a => rfl
  | exit => rfl
  | call c k ih =>
    rw [run, run, h history (List.prefix_refl _)]
    exact ih _ fun later hlater => h later ((List.prefix_append _ _).trans hlater)

/-- An environment can give any answer and then behave like any other. -/
theorem exists_run_call (c : ρ) (k : Bool → Calls ρ α) (b : Bool)
    (env' : List (ρ × Bool) → ρ → Bool) (history : List (ρ × Bool)) :
    ∃ env, (call c k).run env history = (k b).run env' (history ++ [(c, b)]) := by
  classical
  refine ⟨fun h c' => if h = history then b else env' h c', ?_⟩
  rw [run, if_pos rfl]
  refine run_congr fun later hlater => funext fun c' => if_neg ?_
  rintro rfl
  exact absurd hlater.length_le (by simp)

/-- There is a run whose answers are among those reckoned with. -/
theorem exists_run_answered (hM : ∀ s c, ∃ b, M.Answers s c b) (p : Calls ρ α) (s : σ)
    (history : List (ρ × Bool)) :
    ∃ env events, (p.run env history).2 = history ++ events ∧ M.Answered s events := by
  induction p generalizing s history with
  | ret a => exact ⟨fun _ _ => true, [], (List.append_nil _).symm, trivial⟩
  | exit => exact ⟨fun _ _ => true, [], (List.append_nil _).symm, trivial⟩
  | call c k ih =>
    obtain ⟨b, hb⟩ := hM s c
    obtain ⟨env', events, hrun, hanswered⟩ := ih b (M.step s c b) (history ++ [(c, b)])
    obtain ⟨env, henv⟩ := exists_run_call c k b env' history
    exact ⟨env, (c, b) :: events, by rw [henv, hrun, List.append_assoc]; rfl, hb, hanswered⟩

/-- Without the precondition there is a run that is not safe. -/
theorem exists_run_not_safe (hM : ∀ s c, ∃ b, M.Answers s c b)
    (h : ¬ p.wp M (fun _ _ => True) s) (history : List (ρ × Bool)) :
    ∃ env events, (p.run env history).2 = history ++ events ∧ M.Answered s events ∧
      ¬ M.Safe s events := by
  induction p generalizing s history with
  | ret a =>
    exact ⟨fun _ _ => true, [], (List.append_nil _).symm, trivial, fun hsafe => h ⟨hsafe, trivial⟩⟩
  | exit =>
    exact ⟨fun _ _ => true, [], (List.append_nil _).symm, trivial, fun hsafe => h ⟨hsafe, trivial⟩⟩
  | call c k ih =>
    by_cases hcall : M.Inv s ∧ M.Allowed s c
    · -- the call may be issued: some answer to it leads on to the fault
      obtain ⟨b, hb, hk⟩ :
          ∃ b, M.Answers s c b ∧ ¬ (k b).wp M (fun _ _ => True) (M.step s c b) := by
        by_contra hnone
        refine h ⟨hcall.1, hcall.2, fun b hb => ?_⟩
        by_contra hk
        exact hnone ⟨b, hb, hk⟩
      obtain ⟨env', events, hrun, hanswered, hsafe⟩ := ih b hk (history ++ [(c, b)])
      obtain ⟨env, henv⟩ := exists_run_call c k b env' history
      exact ⟨env, (c, b) :: events, by rw [henv, hrun, List.append_assoc]; rfl, ⟨hb, hanswered⟩,
        fun hall => hsafe hall.2.2⟩
    · -- it may not be issued: any answers will do
      obtain ⟨b, hb⟩ := hM s c
      obtain ⟨env', events, hrun, hanswered⟩ :=
        exists_run_answered hM (k b) (M.step s c b) (history ++ [(c, b)])
      obtain ⟨env, henv⟩ := exists_run_call c k b env' history
      exact ⟨env, (c, b) :: events, by rw [henv, hrun, List.append_assoc]; rfl, ⟨hb, hanswered⟩,
        fun hall => hcall ⟨hall.1, hall.2.1⟩⟩

variable (M) in
/-- Every run whose answers are among those reckoned with is safe. -/
def RunsSafely (p : Calls ρ α) (s : σ) : Prop :=
  ∀ env, M.Answered s (p.run env []).2 → M.Safe s (p.run env []).2

/-- **Soundness and completeness.** The precondition says that every run is safe. -/
theorem runsSafely_iff_wp (hM : ∀ s c, ∃ b, M.Answers s c b) :
    p.RunsSafely M s ↔ p.wp M (fun _ _ => True) s := by
  constructor
  · intro h
    by_contra hwp
    obtain ⟨env, events, hrun, hanswered, hsafe⟩ := exists_run_not_safe hM hwp []
    rw [List.nil_append] at hrun
    exact hsafe (hrun ▸ h env (hrun ▸ hanswered))
  · intro h env hanswered
    obtain ⟨events, hrun, hsafe⟩ := wp_sound env h []
    rw [List.nil_append] at hrun
    rw [hrun] at hanswered ⊢
    exact (hsafe hanswered).1

/-! ## The calls of a program -/

/-- Every call that the program may issue, whatever the answers, satisfies `P`. -/
def Only (P : ρ → Prop) : Calls ρ α → Prop
  | ret _ => True
  | exit => True
  | call c k => P c ∧ ∀ b, (k b).Only P

/-- Two programs in a row make the calls of both. -/
theorem only_bind {P : ρ → Prop} (hp : p.Only P) (hf : ∀ a, (f a).Only P) : (p.bind f).Only P := by
  induction p with
  | ret a => exact hf a
  | exit => trivial
  | call c k ih => exact ⟨hp.1, fun b => ih b (hp.2 b)⟩

/-- A loop makes the calls of its passes. -/
theorem only_foldlM {P : ρ → Prop} {body : α → γ → Calls ρ α} {l : List γ}
    (h : ∀ c ∈ l, ∀ a, (body a c).Only P) (a : α) : (l.foldlM body a).Only P := by
  induction l generalizing a with
  | nil => trivial
  | cons c l ih =>
    rw [List.foldlM_cons]
    exact only_bind (h c List.mem_cons_self a)
      (ih fun c' hc' => h c' (List.mem_cons_of_mem _ hc'))

/-- The calls of a run are among those a program may issue. -/
theorem Only.run {P : ρ → Prop} (h : p.Only P) (env : List (ρ × Bool) → ρ → Bool)
    {history : List (ρ × Bool)} (hhistory : ∀ e ∈ history, P e.1) :
    ∀ e ∈ (p.run env history).2, P e.1 := by
  induction p generalizing history with
  | ret a => exact hhistory
  | exit => exact hhistory
  | call c k ih =>
    refine ih _ (h.2 _) fun e he => ?_
    rcases List.mem_append.mp he with he | he
    · exact hhistory e he
    · rw [List.mem_singleton.mp he]
      exact h.1

/-- The value and the calls of a program whose calls are all granted. -/
def granted : Calls ρ α → Option α × List ρ
  | ret a => (some a, [])
  | exit => (none, [])
  | call c k => ((k true).granted.1, c :: (k true).granted.2)

/-- With every call granted, a program makes the same calls whatever was called before. -/
theorem run_granted (p : Calls ρ α) (history : List (ρ × Bool)) :
    p.run (fun _ _ => true) history =
      (p.granted.1, history ++ p.granted.2.map fun c => (c, true)) := by
  induction p generalizing history with
  | ret a => rw [run, granted, List.map_nil, List.append_nil]
  | exit => rw [run, granted, List.map_nil, List.append_nil]
  | call c k ih => rw [run, ih, granted, List.append_assoc]; rfl

/-- The calls of two programs in a row, where the first ends with a value. -/
theorem granted_bind {a : α} {calls : List ρ} (hp : p.granted = (some a, calls)) :
    (p.bind f).granted = ((f a).granted.1, calls ++ (f a).granted.2) := by
  induction p generalizing calls with
  | ret a' =>
    obtain ⟨hvalue, rfl⟩ := Prod.mk.inj (show (some a', []) = (some a, calls) from hp)
    obtain rfl := Option.some.inj hvalue
    rfl
  | exit => cases hp
  | call c k ih =>
    obtain ⟨hvalue, rfl⟩ := Prod.mk.inj
      (show ((k true).granted.1, c :: (k true).granted.2) = (some a, calls) from hp)
    have hk := ih true (show (k true).granted = (some a, (k true).granted.2) from
      Prod.ext hvalue rfl)
    rw [show ((call c k).bind f).granted =
      (((k true).bind f).granted.1, c :: ((k true).bind f).granted.2) from rfl, hk]
    rfl

/-- The program returns when its calls are granted. -/
def Returns (p : Calls ρ α) : Prop := ∃ a, p.granted.1 = some a

theorem returns_ret (a : α) : (ret a : Calls ρ α).Returns := ⟨a, rfl⟩

/-- A single call returns. -/
theorem returns_issue (c : ρ) : (issue c).Returns := ⟨true, rfl⟩

/-- Two programs in a row return, if both do. -/
theorem returns_bind (hp : p.Returns) (hf : ∀ a, (f a).Returns) : (p.bind f).Returns := by
  obtain ⟨a, ha⟩ := hp
  obtain ⟨a', ha'⟩ := hf a
  exact ⟨a', by rw [granted_bind (Prod.ext ha rfl)]; exact ha'⟩

/-- A loop returns, if each pass does. -/
theorem returns_foldlM {body : α → γ → Calls ρ α} {l : List γ}
    (h : ∀ c ∈ l, ∀ a, (body a c).Returns) (a : α) : (l.foldlM body a).Returns := by
  induction l generalizing a with
  | nil => exact returns_ret a
  | cons c l ih =>
    rw [List.foldlM_cons]
    exact returns_bind (h c List.mem_cons_self a)
      (ih fun c' hc' => h c' (List.mem_cons_of_mem _ hc'))

/-- The calls of the first part of a sequence are issued. -/
theorem mem_granted_bind_left {c : ρ} (hp : p.Returns) (hc : c ∈ p.granted.2) :
    c ∈ (p.bind f).granted.2 := by
  obtain ⟨a, ha⟩ := hp
  rw [granted_bind (Prod.ext ha rfl)]
  exact List.mem_append_left _ hc

/-- The calls of the second part of a sequence are issued if the first part returns. -/
theorem mem_granted_bind_right {c : ρ} (hp : p.Returns) (hc : ∀ a, c ∈ (f a).granted.2) :
    c ∈ (p.bind f).granted.2 := by
  obtain ⟨a, ha⟩ := hp
  rw [granted_bind (Prod.ext ha rfl)]
  exact List.mem_append_right _ (hc a)

/-- The calls of one turn of a loop are issued if every turn returns. -/
theorem mem_granted_foldlM {body : α → γ → Calls ρ α} {l : List γ} {c : ρ} {x : γ}
    (hreturns : ∀ y a, (body a y).Returns) (hx : x ∈ l) (hc : ∀ a, c ∈ (body a x).granted.2)
    (a : α) : c ∈ (l.foldlM body a).granted.2 := by
  induction l generalizing a with
  | nil => cases hx
  | cons y l ih =>
    rw [List.foldlM_cons]
    rcases List.mem_cons.mp hx with rfl | hx
    · exact mem_granted_bind_left (hreturns x a) (hc a)
    · exact mem_granted_bind_right (hreturns y a) (ih hx)

end Calls
