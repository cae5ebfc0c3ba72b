import Mathlib

/-!
# Threads that hold rights

The threads of a process call a system that hands out rights, such as references to ports or open
files, and takes them back. They share one variable. A lock protects it and the rights that go
with its value, but anyone may read it.

* `RightsSystem` — the calls: what each needs, what it takes back and what its replies grant. Some
  calls may be made without their rights, and then go to whatever has the name.
* `Thread` — the code of a thread: calls, the variable, the lock, sequences and loops.
* `Process`, `Process.Step` — the threads of a process, and the steps that they take in any order.
* `Safe` — a thread that only ever uses what it holds, with the rules `safe_pure`, `safe_call`,
  `safe_load`, `safe_store`, `safe_lock`, `safe_unlock`, `safe_bind` and `safe_iterate`.
* `Accounted` — every right belongs to one thread, to the variable or to others.
* `Accounted.step` — safe threads keep it so, in every interleaving.
-/

namespace SharedRights

/-- The calls of a system. -/
structure RightsSystem where
  Right : Type
  Call : Type
  /-- what a call may reply -/
  Reply : Call → Type
  /-- the rights that a call uses -/
  needs : Call → Multiset Right
  /-- the calls that may be made without their rights, for their replies tell -/
  mayLack : Call → Bool
  /-- the rights that a call takes back -/
  releases : Call → Multiset Right
  /-- the rights that come with a reply -/
  grants : (c : Call) → Reply c → Multiset Right
  releases_le (c : Call) : releases c ≤ needs c
  releases_of_mayLack (c : Call) : mayLack c = true → releases c = 0

variable {S : RightsSystem} {V : Type}

/-- What a thread may do at once. -/
inductive Primitive (S : RightsSystem) (V : Type)
  | call (c : S.Call)
  /-- reads the variable -/
  | load
  /-- sets the variable -/
  | store (v : V)
  | lock
  | unlock

/-- What comes of it. -/
def Primitive.Answer : Primitive S V → Type
  | call c => S.Reply c
  | load => V
  | store _ => Unit
  | lock => Unit
  | unlock => Unit

/-- The code of a thread. -/
inductive Thread (S : RightsSystem) (V : Type) : Type → Type 1
  /-- the end, with a result -/
  | done {α : Type} (a : α) : Thread S V α
  | act {α : Type} (o : Primitive S V) (next : o.Answer → Thread S V α) : Thread S V α
  /-- repeats the body, from a state, until it has a result -/
  | loop {σ β α : Type} (body : σ → Thread S V (σ ⊕ β)) (s : σ) (next : β → Thread S V α) :
    Thread S V α

namespace Thread

variable {α β γ σ : Type}

/-- One after the other. -/
def bind : Thread S V α → (α → Thread S V β) → Thread S V β
  | done a, f => f a
  | act o next, f => act o fun x => (next x).bind f
  | loop body s next, f => loop body s fun b => (next b).bind f

instance : Monad (Thread S V) where
  pure := done
  bind := bind

/-- A call. -/
def call (c : S.Call) : Thread S V (S.Reply c) := act (.call c) done

/-- Reads the variable. -/
def load : Thread S V V := act .load done

/-- Sets the variable. -/
def store (v : V) : Thread S V Unit := act (.store v) done

/-- Takes the lock. -/
def lock : Thread S V Unit := act .lock done

/-- Gives it back. -/
def unlock : Thread S V Unit := act .unlock done

/-- `while (TRUE)`, from a state: each pass goes on with a state, or ends with a result. -/
def iterate (body : σ → Thread S V (σ ⊕ β)) (s : σ) : Thread S V β := loop body s done

/-- A loop, after one more pass has begun. -/
def unroll (body : σ → Thread S V (σ ⊕ β)) (s : σ) (next : β → Thread S V α) : Thread S V α :=
  (body s).bind fun
    | .inl s' => loop body s' next
    | .inr b => next b

theorem bind_done (t : Thread S V α) : t.bind done = t := by
  induction t with
  | done a => rfl
  | act o next ih => simp only [bind, ih]
  | loop body s next _ ih => simp only [bind, ih]

theorem bind_assoc (t : Thread S V α) (f : α → Thread S V β) (g : β → Thread S V γ) :
    (t.bind f).bind g = t.bind fun a => (f a).bind g := by
  induction t with
  | done a => rfl
  | act o next ih => simp only [bind, ih]
  | loop body s next _ ih => simp only [bind, ih]

/-- What follows a loop may be moved into its last pass. -/
theorem unroll_bind (body : σ → Thread S V (σ ⊕ β)) (s : σ) (next : β → Thread S V α)
    (f : α → Thread S V γ) :
    (unroll body s next).bind f = unroll body s fun b => (next b).bind f := by
  rw [unroll, bind_assoc]
  congr 1
  funext x
  cases x <;> rfl

/-- The end has been reached. -/
def IsDone (t : Thread S V α) : Prop := ∃ a, t = done a

end Thread

/-! ## Processes -/

/-- The threads of a process. -/
structure Process (S : RightsSystem) (V ι : Type) where
  /-- the rights of the process, whoever they belong to -/
  held : Multiset S.Right
  /-- the value of the variable -/
  shared : V
  /-- who has the lock -/
  owner : Option ι
  threads : ι → Thread S V Unit

namespace Process

variable {ι : Type} [DecidableEq ι] [DecidableEq S.Right]

/-- The code of one thread is now what follows. -/
def goOn (p : Process S V ι) (i : ι) (t : Thread S V Unit) : Process S V ι :=
  { p with threads := Function.update p.threads i t }

/-- What thread `i` does at once, and how the process then is. -/
inductive Acts (p : Process S V ι) (i : ι) : (o : Primitive S V) → o.Answer → Process S V ι → Prop
  | call (c : S.Call) (r : S.Reply c) (h : S.mayLack c = false → S.needs c ≤ p.held) :
    Acts p i (.call c) r { p with held := p.held - S.releases c + S.grants c r }
  | load : Acts p i .load p.shared p
  | store (v : V) (h : p.owner = some i) : Acts p i (.store v) () { p with shared := v }
  | lock (h : p.owner = none) : Acts p i .lock () { p with owner := some i }
  | unlock (h : p.owner = some i) : Acts p i .unlock () { p with owner := none }

/-- Some thread takes a step. -/
inductive Step (p : Process S V ι) : Process S V ι → Prop
  | act (i : ι) (o : Primitive S V) (next : o.Answer → Thread S V Unit) (x : o.Answer)
    (p' : Process S V ι) (h : p.threads i = .act o next) (ho : Acts p i o x p') :
    Step p (p'.goOn i (next x))
  | loop (i : ι) {σ β : Type} (body : σ → Thread S V (σ ⊕ β)) (s : σ) (next : β → Thread S V Unit)
    (h : p.threads i = .loop body s next) : Step p (p.goOn i (.unroll body s next))

/-- Thread `i` is about to make a call whose rights the process does not hold. -/
def Lacks (p : Process S V ι) (i : ι) (c : S.Call) : Prop :=
  (∃ next, p.threads i = .act (.call c) next) ∧ ¬ S.needs c ≤ p.held

/-- A thread is about to do what it must not: a call without the rights that it needs, if it may not
be made so, a change of the variable or the end of the protection without the lock, or to wait for
itself. -/
inductive Faulty (p : Process S V ι) : Prop
  | call (i : ι) (c : S.Call) (hlacks : p.Lacks i c) (hmay : S.mayLack c = false)
  | store (i : ι) (v : V) (next : Unit → Thread S V Unit)
    (h : p.threads i = .act (.store v) next) (howner : p.owner ≠ some i)
  | lock (i : ι) (next : Unit → Thread S V Unit)
    (h : p.threads i = .act .lock next) (howner : p.owner = some i)
  | unlock (i : ι) (next : Unit → Thread S V Unit)
    (h : p.threads i = .act .unlock next) (howner : p.owner ≠ some i)

end Process

/-! ## Safe threads -/

section

variable [DecidableEq S.Right] {α β σ : Type}

/-- `n` steps of a thread that holds the rights `R` only use these, but for the calls that may lack
theirs, whatever the others do, and if it has ended then with `Q`. While it has the lock, `l` is the
value of the variable. `guarded` are the rights that go with a value of the variable. -/
def SafeFor (guarded : V → Multiset S.Right) (Q : α → Multiset S.Right → Option V → Prop) :
    ℕ → Thread S V α → Multiset S.Right → Option V → Prop
  | 0, _, _, _ => True
  | _ + 1, .done a, R, l => Q a R l
  | n + 1, .act (.call c) next, R, l =>
    (S.mayLack c = false → S.needs c ≤ R) ∧
      ∀ r, SafeFor guarded Q n (next r) (R - S.releases c + S.grants c r) l
  | n + 1, .act .load next, R, none => ∀ v, SafeFor guarded Q n (next v) R none
  | n + 1, .act .load next, R, some v => SafeFor guarded Q n (next v) R (some v)
  | n + 1, .act (.store v) next, R, l => l.isSome ∧ SafeFor guarded Q n (next ()) R (some v)
  | n + 1, .act .lock next, R, l =>
    l = none ∧ ∀ v, SafeFor guarded Q n (next ()) (R + guarded v) (some v)
  | n + 1, .act .unlock next, R, l =>
    ∃ v, l = some v ∧ guarded v ≤ R ∧ SafeFor guarded Q n (next ()) (R - guarded v) none
  | n + 1, .loop body s next, R, l => SafeFor guarded Q n (.unroll body s next) R l

/-- A thread that only ever uses what it holds, and ends with `Q` if it ends. -/
def Safe (guarded : V → Multiset S.Right) (t : Thread S V α)
    (Q : α → Multiset S.Right → Option V → Prop) (R : Multiset S.Right) (l : Option V) : Prop :=
  ∀ n, SafeFor guarded Q n t R l

variable {guarded : V → Multiset S.Right} {R : Multiset S.Right} {l : Option V}
  {Q : β → Multiset S.Right → Option V → Prop} {Q' : α → Multiset S.Right → Option V → Prop}

@[simp] theorem safe_pure {b : β} : Safe guarded (pure b : Thread S V β) Q R l ↔ Q b R l :=
  ⟨fun h => h 1, fun h n => by cases n <;> trivial⟩

/-- The rule for two threads in a row, by the number of steps that are left: the second has no more
of them than the whole. -/
theorem safeFor_bind {n : ℕ} {t : Thread S V α} {f : α → Thread S V β}
    (ht : SafeFor guarded Q' n t R l)
    (hf : ∀ a R l, Q' a R l → ∀ m ≤ n, SafeFor guarded Q m (f a) R l) :
    SafeFor guarded Q n (t.bind f) R l := by
  induction n generalizing t R l with
  | zero => trivial
  | succ n ih =>
    have hf' : ∀ a R l, Q' a R l → ∀ m ≤ n, SafeFor guarded Q m (f a) R l := fun a R l ha m hm =>
      hf a R l ha m (by omega)
    cases t with
    | done a => exact hf a R l ht _ le_rfl
    | act o next =>
      cases o with
      | call c => exact ⟨ht.1, fun r => ih (ht.2 r) hf'⟩
      | load =>
        cases l with
        | none => exact fun v => ih (ht v) hf'
        | some v => exact ih (t := next v) ht hf'
      | store v => exact ⟨ht.1, ih ht.2 hf'⟩
      | lock => exact ⟨ht.1, fun v => ih (ht.2 v) hf'⟩
      | unlock =>
        obtain ⟨v, hl, hR, ht⟩ := ht
        exact ⟨v, hl, hR, ih ht hf'⟩
    | loop body s next =>
      have h := ih (t := .unroll body s next) ht hf'
      rwa [Thread.unroll_bind] at h

/-- The rule for sequences. -/
theorem safe_bind {t : Thread S V α} {f : α → Thread S V β}
    (ht : Safe guarded t (fun a R l => Safe guarded (f a) Q R l) R l) :
    Safe guarded (t >>= f) Q R l := by
  intro n
  refine safeFor_bind (ht n) fun a R l ha m _ => ?_
  exact ha m

/-- A weaker postcondition. -/
theorem Safe.mono {t : Thread S V α} {Q₁ Q₂ : α → Multiset S.Right → Option V → Prop}
    (ht : Safe guarded t Q₁ R l) (hQ : ∀ a R l, Q₁ a R l → Q₂ a R l) : Safe guarded t Q₂ R l := by
  intro n
  rw [← t.bind_done]
  refine safeFor_bind (ht n) fun a R l ha m _ => ?_
  exact safe_pure.mpr (hQ a R l ha) m

/-- The rule for loops: an invariant of the state that each pass begins with. -/
theorem safe_iterate {body : σ → Thread S V (σ ⊕ β)}
    (I : σ → Multiset S.Right → Option V → Prop)
    (hbody : ∀ s R l, I s R l →
      Safe guarded (body s) (fun x R l => x.elim (I · R l) (Q · R l)) R l)
    {s : σ} (hs : I s R l) : Safe guarded (.iterate body s) Q R l := by
  intro n
  induction n using Nat.strong_induction_on generalizing s R l with
  | _ n ih =>
    cases n with
    | zero => trivial
    | succ n =>
      refine safeFor_bind (hbody s R l hs n) fun x R l hx m hm => ?_
      cases x with
      | inl s' => exact ih m (by omega) hx
      | inr b => exact safe_pure.mpr hx m

section

/-- The rule for calls. -/
@[simp] theorem safe_call {c : S.Call} {f : S.Reply c → Thread S V β} :
    Safe guarded (Thread.call c >>= f) Q R l ↔
      (S.mayLack c = false → S.needs c ≤ R) ∧
        ∀ r, Safe guarded (f r) Q (R - S.releases c + S.grants c r) l := by
  constructor
  · intro h
    exact ⟨(h 1).1, fun r n => (h (n + 1)).2 r⟩
  · rintro ⟨hR, h⟩ (_ | n)
    · trivial
    · exact ⟨hR, fun r => h r n⟩

/-- Without the lock, any value may be read. -/
@[simp] theorem safe_load_none {f : V → Thread S V β} :
    Safe guarded (Thread.load >>= f) Q R none ↔ ∀ v, Safe guarded (f v) Q R none := by
  constructor
  · exact fun h v n => h (n + 1) v
  · rintro h (_ | n)
    · trivial
    · exact fun v => h v n

/-- With the lock, only the value that is known. -/
@[simp] theorem safe_load_some {v : V} {f : V → Thread S V β} :
    Safe guarded (Thread.load >>= f) Q R (some v) ↔ Safe guarded (f v) Q R (some v) := by
  constructor
  · exact fun h n => h (n + 1)
  · rintro h (_ | n)
    · trivial
    · exact h n

/-- With the lock held, the variable may change as it likes. The rights that it stands for are
counted when the lock is given up. -/
@[simp] theorem safe_store {v w : V} {f : Unit → Thread S V β} :
    Safe guarded (Thread.store w >>= f) Q R (some v) ↔ Safe guarded (f ()) Q R (some w) := by
  constructor
  · exact fun h n => (h (n + 1)).2
  · rintro h (_ | n)
    · trivial
    · exact ⟨rfl, h n⟩

/-- The lock brings the rights that go with the value of the variable. -/
@[simp] theorem safe_lock {f : Unit → Thread S V β} :
    Safe guarded (Thread.lock >>= f) Q R none ↔
      ∀ v, Safe guarded (f ()) Q (R + guarded v) (some v) := by
  constructor
  · exact fun h v n => (h (n + 1)).2 v
  · rintro h (_ | n)
    · trivial
    · exact ⟨rfl, fun v => h v n⟩

/-- Who gives the lock back has to leave the rights that go with the value. -/
@[simp] theorem safe_unlock {v : V} {f : Unit → Thread S V β} :
    Safe guarded (Thread.unlock >>= f) Q R (some v) ↔
      guarded v ≤ R ∧ Safe guarded (f ()) Q (R - guarded v) none := by
  constructor
  · intro h
    refine ⟨?_, fun n => ?_⟩
    · obtain ⟨w, hw, hR, -⟩ := h 1
      cases hw
      exact hR
    · obtain ⟨w, hw, -, h⟩ := h (n + 1)
      cases hw
      exact h
  · rintro ⟨hR, h⟩ (_ | n)
    · trivial
    · exact ⟨v, rfl, hR, h n⟩

end

/-! ## Whose rights they are -/

section

variable {ι : Type} [DecidableEq ι] [Fintype ι]

/-- The rights that go with the variable, while nobody has the lock. -/
def Process.free (p : Process S V ι) (guarded : V → Multiset S.Right) : Multiset S.Right :=
  if p.owner = none then guarded p.shared else 0

/-- What a thread knows about the variable. -/
def Process.known (p : Process S V ι) (i : ι) : Option V :=
  if p.owner = some i then some p.shared else none

/-- Every right belongs to a thread, to the variable or to others (`base`), and the threads are
safe with what belongs to them. In the end nothing is left to them. -/
def Accounted (guarded : V → Multiset S.Right) (base : Multiset S.Right) (p : Process S V ι) :
    Prop :=
  ∃ own : ι → Multiset S.Right, p.held = base + p.free guarded + ∑ i, own i ∧
    ∀ i, Safe guarded (p.threads i) (fun _ R l => R = 0 ∧ l = none) (own i) (p.known i)

variable {base : Multiset S.Right} {p p' : Process S V ι}

omit [Fintype ι] [DecidableEq ι] [DecidableEq S.Right] in
/-- What a call takes back is there. -/
theorem releases_le_of_needs {c : S.Call} {R : Multiset S.Right}
    (h : S.mayLack c = false → S.needs c ≤ R) : S.releases c ≤ R := by
  cases hmay : S.mayLack c with
  | true =>
    rw [S.releases_of_mayLack c hmay]
    exact zero_le
  | false => exact (S.releases_le c).trans (h hmay)

omit [Fintype ι] [DecidableEq S.Right] in
@[simp] theorem known_goOn {i j : ι} {t : Thread S V Unit} : (p.goOn i t).known j = p.known j :=
  rfl

omit [Fintype ι] [DecidableEq S.Right] in
@[simp] theorem free_goOn {i : ι} {t : Thread S V Unit} :
    (p.goOn i t).free guarded = p.free guarded := rfl

omit [DecidableEq S.Right] in
/-- The rights of all threads, when those of one are others. -/
theorem sum_update_add (own : ι → Multiset S.Right) (i : ι) (R : Multiset S.Right) :
    ∑ j, Function.update own i R j + own i = ∑ j, own j + R := by
  have hrest : ∑ j ∈ Finset.univ.erase i, Function.update own i R j =
      ∑ j ∈ Finset.univ.erase i, own j :=
    Finset.sum_congr rfl fun j hj => Function.update_of_ne (Finset.ne_of_mem_erase hj) _ _
  rw [← Finset.add_sum_erase _ own (Finset.mem_univ i),
    ← Finset.add_sum_erase _ (Function.update own i R) (Finset.mem_univ i), hrest,
    Function.update_self]
  abel

/-- One thread has gone on with other rights, and the others do not notice. -/
theorem Accounted.goOn {i : ι} {own : ι → Multiset S.Right} {t : Thread S V Unit}
    {R : Multiset S.Right} (howner : p.held = base + p.free guarded + ∑ i, own i)
    (hsafe : ∀ i, Safe guarded (p.threads i) (fun _ R l => R = 0 ∧ l = none) (own i) (p.known i))
    (hthreads : p'.threads = p.threads)
    (hbalance : p'.held + p.free guarded + own i = p.held + p'.free guarded + R)
    (hothers : ∀ j ≠ i, p'.known j = p.known j)
    (ht : Safe guarded t (fun _ R l => R = 0 ∧ l = none) R (p'.known i)) :
    Accounted guarded base (p'.goOn i t) := by
  refine ⟨Function.update own i R, ?_, fun j => ?_⟩
  · apply add_right_cancel (b := p.free guarded + own i)
    calc p'.held + (p.free guarded + own i) = p.held + p'.free guarded + R := by
          rw [← add_assoc, hbalance]
      _ = base + p.free guarded + p'.free guarded + (∑ j, own j + R) := by
          rw [howner]
          abel
      _ = _ := by
          rw [← sum_update_add, free_goOn]
          abel
  · rw [known_goOn]
    by_cases hj : j = i
    · subst hj
      simpa [Process.goOn] using ht
    · have := hsafe j
      rw [← hothers j hj] at this
      simpa [Process.goOn, hj, hthreads] using this

/-- **Safe threads keep every right accounted for.** -/
theorem Accounted.step (h : Accounted guarded base p) (hstep : p.Step p') :
    Accounted guarded base p' := by
  obtain ⟨own, howner, hsafe⟩ := h
  cases hstep with
  | loop i body s next hi =>
    refine Accounted.goOn howner hsafe rfl (R := own i) (by abel) (fun _ _ => rfl) fun n => ?_
    have := hsafe i (n + 1)
    rwa [hi] at this
  | act i o next x p₁ hi ho =>
    have hi' := hsafe i
    rw [hi] at hi'
    cases ho with
    | call c r hneeds =>
      -- what is taken back is there, both in the process and with the thread
      obtain ⟨a, ha⟩ := exists_add_of_le (releases_le_of_needs hneeds)
      obtain ⟨b, hb⟩ := exists_add_of_le (releases_le_of_needs (hi' 1).1)
      refine Accounted.goOn howner hsafe rfl (R := own i - S.releases c + S.grants c r) ?_
        (fun _ _ => rfl) fun n => (hi' (n + 1)).2 r
      rw [ha, hb, add_tsub_cancel_left, add_tsub_cancel_left]
      show a + S.grants c r + p.free guarded + (S.releases c + b) =
        S.releases c + a + p.free guarded + (b + S.grants c r)
      abel
    | load =>
      refine Accounted.goOn howner hsafe rfl (R := own i) (by abel) (fun _ _ => rfl) fun n => ?_
      have hn := hi' (n + 1)
      -- with the lock the value is known; without it any may be read
      by_cases hown : p.owner = some i
      · have hknown : p.known i = some p.shared := if_pos hown
        rw [hknown] at hn ⊢
        exact hn
      · have hknown : p.known i = none := if_neg hown
        rw [hknown] at hn ⊢
        exact hn p.shared
    | store v hown =>
      refine Accounted.goOn howner hsafe rfl (R := own i) ?_ ?_ fun n => ?_
      · simp [Process.free, hown]
      · intro j hj
        simp [Process.known, hown, hj.symm]
      · have := (hi' (n + 1)).2
        simpa [Process.known, hown] using this
    -- the rights of the variable go over to the thread
    | lock hown =>
      refine Accounted.goOn howner hsafe rfl (R := own i + guarded p.shared) ?_ ?_ fun n => ?_
      · simp [Process.free, hown]
        abel
      · intro j hj
        simp [Process.known, hown, hj.symm]
      · have := (hi' (n + 1)).2 p.shared
        simpa [Process.known, hown] using this
    -- and back
    | unlock hown =>
      have hknown : p.known i = some p.shared := if_pos hown
      rw [hknown] at hi'
      have hR : guarded p.shared ≤ own i := by
        obtain ⟨_, hv, hR, -⟩ := hi' 1
        cases hv
        exact hR
      refine Accounted.goOn howner hsafe rfl (R := own i - guarded p.shared) ?_ ?_ fun n => ?_
      · obtain ⟨b, hb⟩ := exists_add_of_le hR
        rw [hb, add_tsub_cancel_left]
        simp [Process.free, hown]
        abel
      · intro j hj
        simp [Process.known, hown, hj.symm]
      · obtain ⟨_, hv, -, hn⟩ := hi' (n + 1)
        cases hv
        exact hn

/-- The step lemma, for every run. -/
theorem Accounted.run (h : Accounted guarded base p)
    (hrun : Relation.ReflTransGen Process.Step p p') : Accounted guarded base p' := by
  induction hrun with
  | refl => exact h
  | tail _ hstep ih => exact ih.step hstep

/-! ## What follows for the process -/

/-- The rights of others are there. -/
theorem Accounted.base_le (h : Accounted guarded base p) : base ≤ p.held := by
  obtain ⟨own, howner, -⟩ := h
  rw [howner, add_assoc]
  exact le_add_right le_rfl

omit [DecidableEq ι] [DecidableEq S.Right] in
/-- What one thread holds, the process holds. -/
theorem le_held {own : ι → Multiset S.Right} (howner : p.held = base + p.free guarded + ∑ i, own i)
    (i : ι) : own i ≤ p.held := by
  rw [howner]
  exact le_add_left (Finset.single_le_sum (fun _ _ => zero_le) (Finset.mem_univ i))

/-- No thread does what it must not. -/
theorem Accounted.not_faulty (h : Accounted guarded base p) : ¬ p.Faulty := by
  obtain ⟨own, howner, hsafe⟩ := h
  intro hf
  cases hf with
  | call i c hlacks hmay =>
    obtain ⟨⟨next, hi⟩, hneeds⟩ := hlacks
    have hi' := hsafe i 1
    rw [hi] at hi'
    exact hneeds ((hi'.1 hmay).trans (le_held howner i))
  | store i v next hi hown =>
    have hi' := hsafe i 1
    rw [hi, Process.known, if_neg hown] at hi'
    cases hi'.1
  | lock i next hi hown =>
    have hi' := hsafe i 1
    rw [hi, Process.known, if_pos hown] at hi'
    cases hi'.1
  | unlock i next hi hown =>
    have hi' := hsafe i 1
    rw [hi, Process.known, if_neg hown] at hi'
    obtain ⟨_, hv, -⟩ := hi'
    cases hv

/-- A call whose rights are not there is one that may be made so. -/
theorem Accounted.mayLack_of_lacks (h : Accounted guarded base p) {i : ι} {c : S.Call}
    (hlacks : p.Lacks i c) : S.mayLack c = true := by
  by_contra hmay
  exact h.not_faulty (.call i c hlacks (by simpa using hmay))

/-- When all threads have ended, the process has its own rights and those of the variable. -/
theorem Accounted.of_done (h : Accounted guarded base p) (hdone : ∀ i, (p.threads i).IsDone) :
    p.owner = none ∧ p.held = base + guarded p.shared := by
  obtain ⟨own, howner, hsafe⟩ := h
  have hend : ∀ i, own i = 0 ∧ p.known i = none := by
    intro i
    have hi := hsafe i 1
    obtain ⟨a, ha⟩ := hdone i
    rwa [ha] at hi
  have hnone : p.owner = none := by
    cases ho : p.owner with
    | none => rfl
    | some i =>
      have hi := (hend i).2
      rw [Process.known, if_pos ho] at hi
      cases hi
  refine ⟨hnone, ?_⟩
  rw [howner, Process.free, if_pos hnone, Finset.sum_eq_zero fun i _ => (hend i).1, add_zero]

/-- A thread that has not ended can go on, but for one that waits for the lock. -/
theorem Accounted.step_or_waits (h : Accounted guarded base p)
    (hreply : ∀ c, Nonempty (S.Reply c)) (i : ι) :
    (p.threads i).IsDone ∨ (∃ p', p.Step p') ∨
      p.known i = none ∧ ∃ j, p.owner = some j := by
  obtain ⟨own, howner, hsafe⟩ := h
  have hi' := hsafe i 1
  cases hi : p.threads i with
  | done a => exact .inl ⟨a, rfl⟩
  | loop body s next => exact .inr (.inl ⟨_, .loop i body s next hi⟩)
  | act o next =>
    rw [hi] at hi'
    cases o with
    | call c =>
      obtain ⟨r⟩ := hreply c
      have hneeds : S.mayLack c = false → S.needs c ≤ p.held := fun hmay =>
        (hi'.1 hmay).trans (le_held howner i)
      exact .inr (.inl ⟨_, .act i _ next _ _ hi (.call c r hneeds)⟩)
    | load => exact .inr (.inl ⟨_, .act i _ next _ _ hi .load⟩)
    | store v =>
      have hown : p.owner = some i := by
        by_contra hown
        rw [Process.known, if_neg hown] at hi'
        cases hi'.1
      exact .inr (.inl ⟨_, .act i _ next _ _ hi (.store v hown)⟩)
    | lock =>
      cases hown : p.owner with
      | none => exact .inr (.inl ⟨_, .act i _ next _ _ hi (.lock hown)⟩)
      | some j => exact .inr (.inr ⟨hi'.1, j, rfl⟩)
    | unlock =>
      have hown : p.owner = some i := by
        by_contra hown
        rw [Process.known, if_neg hown] at hi'
        obtain ⟨_, hv, -⟩ := hi'
        cases hv
      exact .inr (.inl ⟨_, .act i _ next _ _ hi (.unlock hown)⟩)

/-- The threads never wait for each other for ever. -/
theorem Accounted.exists_step (h : Accounted guarded base p) (hreply : ∀ c, Nonempty (S.Reply c))
    (hrest : ∃ i, ¬ (p.threads i).IsDone) : ∃ p', p.Step p' := by
  obtain ⟨i, hi⟩ := hrest
  obtain hdone | hstep | ⟨-, j, hj⟩ := h.step_or_waits hreply i
  · exact absurd hdone hi
  · exact hstep
  · -- the one that has the lock does not wait for it, and has not ended
    have hknown : p.known j = some p.shared := if_pos hj
    obtain ⟨a, ha⟩ | hstep | ⟨hnone, -⟩ := h.step_or_waits hreply j
    · obtain ⟨own, -, hsafe⟩ := h
      have hj' := hsafe j 1
      rw [ha, hknown] at hj'
      cases hj'.2
    · exact hstep
    · rw [hknown] at hnone
      cases hnone

/-- A process whose threads have not begun. -/
theorem Accounted.of_safe (howner : p.owner = none) (hheld : p.held = base + guarded p.shared)
    (hsafe : ∀ i, Safe guarded (p.threads i) (fun _ R l => R = 0 ∧ l = none) 0 none) :
    Accounted guarded base p := by
  refine ⟨fun _ => 0, ?_, fun i => ?_⟩
  · simp [Process.free, howner, hheld]
  · have hknown : p.known i = none := by simp [Process.known, howner]
    rw [hknown]
    exact hsafe i

end

end

end SharedRights
