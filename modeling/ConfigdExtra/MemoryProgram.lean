import ConfigdExtra.ByteMemory

/-!
# Programs over a region of memory

A program logic for code that reads and writes one region of memory through addresses it
computes. An access that is not inside the region ends the program in a fault; besides, the
program may give up by itself. A program can leave notes in a trace, which it cannot read.

* `Region`, `World`, `Stop`, `Prog` — regions, what a program works on, how it ends early, and
  programs.
* `Prog.load`, `Prog.loadBytes`, `Prog.store`, `Prog.note`, `Prog.stop` — the operations.
* `Prog.Ensures` — a postcondition for the end and one for early ends, with the rules
  `ensures_bind`, `ensures_load`, `ensures_store` and `ensures_mono`.
* `StructLayout` — the fields of a structure: they fit in it and do not overlap.
  `StructLayout.values` reads all of them; `values_put` and `values_eq` say what a store does
  to them. `StructLayout.Rewritten` says that only one structure has changed.
-/

universe u

/-- A range of addresses. -/
structure Region where
  /-- the first address -/
  start : ℕ
  /-- the number of bytes -/
  size : ℕ
  deriving DecidableEq, Repr

namespace Region

/-- The first address behind the region. -/
def stop (r : Region) : ℕ := r.start + r.size

/-- The `n` bytes from `a` are in the region. -/
def Contains (r : Region) (a n : ℕ) : Prop := r.start ≤ a ∧ a + n ≤ r.stop

instance (r : Region) (a n : ℕ) : Decidable (r.Contains a n) :=
  inferInstanceAs (Decidable (_ ∧ _))

/-- The regions have no byte in common. -/
def Apart (r s : Region) : Prop := r.stop ≤ s.start ∨ s.stop ≤ r.start

theorem Apart.symm {r s : Region} (h : r.Apart s) : s.Apart r := Or.symm h

/-- Part of what is in the region. -/
theorem Contains.sub {r : Region} {a n b w : ℕ} (h : r.Contains a n) (hlo : a ≤ b)
    (hhi : b + w ≤ a + n) : r.Contains b w := ⟨h.1.trans hlo, hhi.trans h.2⟩

end Region

/-- What a program works on. -/
structure World (τ : Type u) where
  /-- the memory -/
  memory : Memory
  /-- the notes so far -/
  trace : List τ

/-- How a program ends early. -/
inductive Stop where
  /-- it gives up -/
  | error
  /-- it accesses what is not in its region -/
  | fault
  deriving DecidableEq, Repr

/-- A program that leaves notes of type `τ` and returns an `α`. -/
def Prog (τ : Type u) (α : Type) : Type u := World τ → Except Stop α × World τ

namespace Prog

variable {τ : Type u} {α β : Type}

/-- Sequence two programs. -/
protected def bind (p : Prog τ α) (f : α → Prog τ β) : Prog τ β := fun w =>
  match p w with
  | (.ok a, w') => f a w'
  | (.error e, w') => (.error e, w')

instance : Monad (Prog τ) where
  pure a := fun w => (.ok a, w)
  bind := Prog.bind

/-- End early. -/
def stop (e : Stop) : Prog τ α := fun w => (.error e, w)

/-- Read the number of `n` bytes at `a`. -/
def load (r : Region) (a n : ℕ) : Prog τ ℕ := fun w =>
  if r.Contains a n then (.ok (w.memory.load a n), w) else (.error .fault, w)

/-- Write the `n` bytes of `v` at `a`. -/
def store (r : Region) (a n v : ℕ) : Prog τ Unit := fun w =>
  if r.Contains a n then (.ok (), { w with memory := w.memory.store a n v })
  else (.error .fault, w)

/-- Read the `n` bytes at `a`. -/
def loadBytes (r : Region) (a n : ℕ) : Prog τ (List UInt8) := fun w =>
  if r.Contains a n then (.ok ((List.range n).map fun i => w.memory (a + i)), w)
  else (.error .fault, w)

/-- Leave a note. -/
def note (t : τ) : Prog τ Unit := fun w => (.ok (), { w with trace := w.trace ++ [t] })

/-! ## Running forward -/

section

variable {p : Prog τ α} {w w' : World τ} {r : Region} {a n v : ℕ}

theorem bind_load (h : r.Contains a n) (f : ℕ → Prog τ β) (w : World τ) :
    (load r a n >>= f) w = f (w.memory.load a n) w := by
  change Prog.bind (load r a n) f w = _
  unfold Prog.bind load
  rw [if_pos h]

theorem bind_loadBytes (h : r.Contains a n) (f : List UInt8 → Prog τ β) (w : World τ) :
    (loadBytes r a n >>= f) w = f ((List.range n).map fun i => w.memory (a + i)) w := by
  change Prog.bind (loadBytes r a n) f w = _
  unfold Prog.bind loadBytes
  rw [if_pos h]

theorem bind_of_ok {a : α} (h : p w = (.ok a, w')) (f : α → Prog τ β) :
    (p >>= f) w = f a w' := by
  change Prog.bind p f w = _
  unfold Prog.bind
  rw [h]

theorem bind_of_error {e : Stop} (h : p w = (.error e, w')) (f : α → Prog τ β) :
    (p >>= f) w = (.error e, w') := by
  change Prog.bind p f w = _
  unfold Prog.bind
  rw [h]

end

/-! ## Rules -/

/-- When the program returns, its value and the world then satisfy `R`; when it ends early,
how it does and the world then satisfy `E`. -/
def Ensures (p : Prog τ α) (R : α → World τ → Prop) (E : Stop → World τ → Prop)
    (w : World τ) : Prop :=
  match p w with
  | (.ok a, w') => R a w'
  | (.error e, w') => E e w'

variable {p : Prog τ α} {f : α → Prog τ β} {R R' : α → World τ → Prop} {Q : β → World τ → Prop}
  {E E' : Stop → World τ → Prop} {w : World τ} {r : Region} {a n v : ℕ}

theorem ensures_iff : Ensures p R E w ↔
    (∀ a w', p w = (.ok a, w') → R a w') ∧ (∀ e w', p w = (.error e, w') → E e w') := by
  unfold Ensures
  rcases hp : p w with ⟨a | e, w'⟩
  · simp
  · simp

theorem ensures_pure {a : α} (h : R a w) : Ensures (pure a) R E w := h

theorem ensures_stop {e : Stop} (h : E e w) : Ensures (stop e) R E w := h

/-- The rule for sequence. -/
theorem ensures_bind (hp : Ensures p R E w) (hf : ∀ a w', R a w' → Ensures (f a) Q E w') :
    Ensures (p >>= f) Q E w := by
  unfold Ensures at hp ⊢
  rcases h : p w with ⟨e | a, w'⟩
  · rw [h] at hp
    rw [bind_of_error h]
    exact hp
  · rw [h] at hp
    rw [bind_of_ok h]
    exact hf a w' hp

theorem ensures_mono (hR : ∀ a w', R a w' → R' a w') (hE : ∀ e w', E e w' → E' e w')
    (h : Ensures p R E w) : Ensures p R' E' w := by
  rw [ensures_iff] at h ⊢
  exact ⟨fun a w' hp => hR a w' (h.1 a w' hp), fun e w' hp => hE e w' (h.2 e w' hp)⟩

/-- Sequence, when nothing is asked of the first program. -/
theorem ensures_skip (hE : ∀ e w', E e w') (hf : ∀ a w', Ensures (f a) Q E w') :
    Ensures (p >>= f) Q E w := by
  refine ensures_bind (R := fun _ _ => True) ?_ fun a w' _ => hf a w'
  rw [ensures_iff]
  exact ⟨fun _ _ _ => trivial, fun e w' _ => hE e w'⟩

/-- The rule for a load, and what comes after it. -/
theorem ensures_load {f : ℕ → Prog τ β}
    (hin : r.Contains a n → Ensures (f (w.memory.load a n)) Q E w)
    (hout : ¬ r.Contains a n → E .fault w) : Ensures (load r a n >>= f) Q E w := by
  by_cases h : r.Contains a n
  · unfold Ensures
    rw [bind_load h]
    exact hin h
  · unfold Ensures
    rw [bind_of_error (if_neg h)]
    exact hout h

/-- The rule for a store. -/
theorem ensures_store {R : Unit → World τ → Prop}
    (hin : r.Contains a n → R () { w with memory := w.memory.store a n v })
    (hout : ¬ r.Contains a n → E .fault w) : Ensures (store r a n v) R E w := by
  unfold Ensures store
  by_cases h : r.Contains a n
  · rw [if_pos h]
    exact hin h
  · rw [if_neg h]
    exact hout h

/-- The rule for a note, and what comes after it. -/
theorem ensures_note {t : τ} {f : Unit → Prog τ β}
    (h : Ensures (f ()) Q E { w with trace := w.trace ++ [t] }) : Ensures (note t >>= f) Q E w := h

end Prog

/-! ## Structures -/

/-- Where the fields of a structure lie. -/
structure StructLayout (F : Type) where
  /-- the number of bytes of the structure -/
  size : ℕ
  /-- where a field begins -/
  offset : F → ℕ
  /-- the number of bytes of a field -/
  width : F → ℕ
  /-- every field is inside the structure -/
  fits : ∀ f, offset f + width f ≤ size
  /-- the fields do not overlap -/
  apart : ∀ f g, f ≠ g → offset f + width f ≤ offset g ∨ offset g + width g ≤ offset f

namespace StructLayout

variable {τ : Type u} {β F : Type} (S : StructLayout F) {m m' : Memory} {w : World τ}
  {r : Region} {a b n v : ℕ} {f : F}

/-- The fields of the structure at `a`. -/
def values (m : Memory) (a : ℕ) (f : F) : ℕ := m.load (a + S.offset f) (S.width f)

/-- Write a field of the structure at `a`. -/
def put (m : Memory) (a : ℕ) (f : F) (v : ℕ) : Memory := m.store (a + S.offset f) (S.width f) v

/-- Read a field. -/
def get (r : Region) (a : ℕ) (f : F) : Prog τ ℕ := Prog.load r (a + S.offset f) (S.width f)

/-- Write a field. -/
def set (r : Region) (a : ℕ) (f : F) (v : ℕ) : Prog τ Unit :=
  Prog.store r (a + S.offset f) (S.width f) v

variable {S}

/-- A store to a field changes that field. -/
theorem values_put [DecidableEq F] (m : Memory) (a : ℕ) (hv : v < 256 ^ S.width f) :
    S.values (S.put m a f v) a = Function.update (S.values m a) f v := by
  funext g
  by_cases hg : g = f
  · subst hg
    rw [Function.update_self]
    exact Memory.load_store_self m hv
  · rw [Function.update_of_ne hg]
    refine Memory.load_store_of_apart ?_
    rcases S.apart g f hg with h | h
    · exact .inr (by omega)
    · exact .inl (by omega)

/-- A store to a field leaves everything outside the structure. -/
theorem put_eqOn (m : Memory) (f : F) (v : ℕ) (h : a + S.size ≤ b ∨ b + n ≤ a) :
    m.EqOn (S.put m a f v) b n := by
  have hfit := S.fits f
  exact Memory.EqOn.store (by rcases h with h | h <;> omega)

/-- Memories that agree on a structure give it the same fields. -/
theorem values_eq (h : m.EqOn m' a S.size) : S.values m a = S.values m' a := by
  funext f
  have hfit := S.fits f
  exact (h.sub (Nat.le_add_right _ _) (by omega)).load_eq

theorem contains_field (h : r.Contains a S.size) (f : F) :
    r.Contains (a + S.offset f) (S.width f) := by
  have hfit := S.fits f
  exact h.sub (Nat.le_add_right _ _) (by omega)

/-! ### Rewriting a structure -/

/-- `w'` is `w` but for the structure at `a`, whose fields are `g`. -/
structure Rewritten (S : StructLayout F) (w w' : World τ) (a : ℕ) (g : F → ℕ) : Prop where
  /-- the fields -/
  values : S.values w'.memory a = g
  /-- what is outside the structure -/
  frame : ∀ b n, b + n ≤ a ∨ a + S.size ≤ b → w.memory.EqOn w'.memory b n
  /-- the notes -/
  trace : w'.trace = w.trace

theorem Rewritten.refl (w : World τ) (a : ℕ) : S.Rewritten w w a (S.values w.memory a) :=
  ⟨rfl, fun b n _ => .refl _ b n, rfl⟩

variable {w₀ : World τ} {g : F → ℕ} {Q : β → World τ → Prop} {E : Stop → World τ → Prop}

theorem Rewritten.put [DecidableEq F] (h : S.Rewritten w₀ w a g) (hv : v < 256 ^ S.width f) :
    S.Rewritten w₀ { w with memory := S.put w.memory a f v } a (Function.update g f v) where
  values := by rw [values_put _ _ hv, h.values]
  frame b n hb := (h.frame b n hb).trans (put_eqOn _ _ _ hb.symm)
  trace := h.trace

/-- The rule for reading a field. -/
theorem ensures_get {k : ℕ → Prog τ β} (h : S.Rewritten w₀ w a g)
    (hin : r.Contains (a + S.offset f) (S.width f) → Prog.Ensures (k (g f)) Q E w)
    (hout : ¬ r.Contains a S.size → E .fault w) :
    Prog.Ensures (S.get r a f >>= k) Q E w := by
  refine Prog.ensures_load (fun hc => ?_) fun hc => hout fun hall => hc (contains_field hall f)
  rw [← h.values] at hin
  exact hin hc

/-- The rule for writing a field. -/
theorem ensures_set [DecidableEq F] {k : Unit → Prog τ β} (h : S.Rewritten w₀ w a g)
    (hv : v < 256 ^ S.width f)
    (hin : ∀ w', S.Rewritten w₀ w' a (Function.update g f v) → Prog.Ensures (k ()) Q E w')
    (hout : ¬ r.Contains a S.size → E .fault w) :
    Prog.Ensures (S.set r a f v >>= k) Q E w := by
  refine Prog.ensures_bind
    (R := fun _ w' => S.Rewritten w₀ w' a (Function.update g f v)) ?_ fun _ w' => hin w'
  exact Prog.ensures_store (fun _ => h.put hv) fun hc => hout fun hall => hc (contains_field hall f)

end StructLayout
