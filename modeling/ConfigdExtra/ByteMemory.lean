import Mathlib

/-!
# Bytes in memory

A memory holds a byte at every address. Numbers of several bytes are stored with the least
significant byte first; the network has it the other way round.

* `Memory.load`, `Memory.store` — numbers in memory; `Memory.loadNet` — a number in network
  byte order; `swapBytes` — reversing the bytes of a number, and `swapBytes_load`.
* `Memory.CopyAt`, `Memory.EqOn` — a range of one memory holds the bytes of a range of another,
  or of the same range, and what then is the same in both.
* `Memory.BytesAt` — a sequence of bytes at an address.
* `Memory.PointersAt` — a sequence of pointers at an address; `Memory.pointers` reads one.
-/

/-- A byte at every address. -/
abbrev Memory : Type := ℕ → UInt8

/-- The number made of the same `w` bytes in the other order: `ntohl`, `ntohs`. -/
def swapBytes : ℕ → ℕ → ℕ
  | 0, _ => 0
  | w + 1, v => v % 256 * 256 ^ w + swapBytes w (v / 256)

/-- A swapped value fits where the value was. -/
theorem swapBytes_lt (w v : ℕ) : swapBytes w v < 256 ^ w := by
  induction w generalizing v with
  | zero => exact Nat.one_pos
  | succ w ih =>
    have hb : v % 256 ≤ 255 := Nat.le_of_lt_succ (Nat.mod_lt v (by decide))
    calc v % 256 * 256 ^ w + swapBytes w (v / 256)
        < v % 256 * 256 ^ w + 256 ^ w := Nat.add_lt_add_left (ih (v / 256)) _
      _ = (v % 256 + 1) * 256 ^ w := by ring
      _ ≤ 256 * 256 ^ w := Nat.mul_le_mul_right _ (Nat.succ_le_succ hb)
      _ = 256 ^ (w + 1) := by ring

namespace Memory

variable {m m' m'' : Memory} {a b v w n : ℕ}

/-! ## Numbers -/

/-- The `w` bytes at `a` as a number, least significant byte first. -/
def load (m : Memory) (a : ℕ) : ℕ → ℕ
  | 0 => 0
  | w + 1 => (m a).toNat + 256 * load m (a + 1) w

/-- The `w` bytes at `a` as a number in network byte order. -/
def loadNet (m : Memory) (a : ℕ) : ℕ → ℕ
  | 0 => 0
  | w + 1 => (m a).toNat * 256 ^ w + loadNet m (a + 1) w

/-- Put the `w` bytes of `v` at `a`. -/
def store (m : Memory) (a w v : ℕ) : Memory := fun x =>
  if a ≤ x ∧ x < a + w then UInt8.ofNat (v / 256 ^ (x - a)) else m x

/-- Reversing the bytes of a number from memory gives the number in network byte order. -/
theorem swapBytes_load (m : Memory) (a w : ℕ) : swapBytes w (m.load a w) = m.loadNet a w := by
  induction w generalizing a with
  | zero => rfl
  | succ w ih =>
    have hb : (m a).toNat < 256 := (m a).toNat_lt
    rw [load, swapBytes, loadNet, Nat.add_mul_mod_self_left, Nat.mod_eq_of_lt hb,
      Nat.add_mul_div_left _ _ (by decide), Nat.div_eq_of_lt hb, Nat.zero_add, ih]

/-- A number is made of its bytes. -/
theorem load_eq_of_bytes (h : ∀ i < w, m (a + i) = UInt8.ofNat (v / 256 ^ i)) :
    m.load a w = v % 256 ^ w := by
  induction w generalizing a v with
  | zero => rw [pow_zero, Nat.mod_one]; rfl
  | succ w ih =>
    have h0 : m a = UInt8.ofNat v := by simpa using h 0 (Nat.succ_pos w)
    have hrest : m.load (a + 1) w = v / 256 % 256 ^ w := by
      refine ih fun i hi => ?_
      have hi' := h (i + 1) (Nat.succ_lt_succ hi)
      rw [show a + 1 + i = a + (i + 1) by ring, hi', Nat.div_div_eq_div_mul, pow_succ']
    rw [load, hrest, h0, UInt8.toNat_ofNat', show 2 ^ 8 = 256 from rfl, pow_succ' 256,
      Nat.mod_mul]

/-- What was stored is loaded, if it fits. -/
theorem load_store_self (m : Memory) (hv : v < 256 ^ w) : (m.store a w v).load a w = v := by
  have hbytes : ∀ i < w, m.store a w v (a + i) = UInt8.ofNat (v / 256 ^ i) := by
    intro i hi
    rw [store, if_pos ⟨Nat.le_add_right a i, Nat.add_lt_add_left hi a⟩, Nat.add_sub_cancel_left]
  rw [load_eq_of_bytes hbytes, Nat.mod_eq_of_lt hv]

/-- A store changes nothing outside of its bytes. -/
theorem store_of_not_mem {x : ℕ} (h : x < a ∨ a + w ≤ x) : m.store a w v x = m x :=
  if_neg fun ⟨hlo, hhi⟩ => by cases h <;> omega

/-! ## Memories that agree on a range -/

/-- The `n` bytes from `a` in one memory are those from `b` in the other. -/
def CopyAt (m m' : Memory) (a b n : ℕ) : Prop := ∀ i < n, m (a + i) = m' (b + i)

namespace CopyAt

theorem symm (h : m.CopyAt m' a b n) : m'.CopyAt m b a n := fun i hi => (h i hi).symm

theorem trans {c : ℕ} (h : m.CopyAt m' a b n) (h' : m'.CopyAt m'' b c n) :
    m.CopyAt m'' a c n := fun i hi => (h i hi).trans (h' i hi)

/-- Part of a copy. -/
theorem sub {d : ℕ} (h : m.CopyAt m' a b n) (hd : d + w ≤ n) :
    m.CopyAt m' (a + d) (b + d) w := by
  intro i hi
  have hcopy := h (d + i) (by omega)
  rwa [← Nat.add_assoc, ← Nat.add_assoc] at hcopy

/-- Equal bytes load as equal values, wherever they are. -/
theorem load_eq (h : m.CopyAt m' a b w) : m.load a w = m'.load b w := by
  induction w generalizing a b with
  | zero => rfl
  | succ w ih =>
    have hrest : m.load (a + 1) w = m'.load (b + 1) w := ih (h.sub (by omega))
    rw [load, load, hrest, show m a = m' b from h 0 (Nat.succ_pos w)]

theorem loadNet_eq (h : m.CopyAt m' a b w) : m.loadNet a w = m'.loadNet b w := by
  rw [← swapBytes_load, ← swapBytes_load, h.load_eq]

end CopyAt

/-- The memories agree on the `n` bytes from `a`. -/
def EqOn (m m' : Memory) (a n : ℕ) : Prop := ∀ x, a ≤ x → x < a + n → m x = m' x

namespace EqOn

theorem refl (m : Memory) (a n : ℕ) : m.EqOn m a n := fun _ _ _ => rfl

theorem symm (h : m.EqOn m' a n) : m'.EqOn m a n := fun x hlo hhi => (h x hlo hhi).symm

theorem trans (h : m.EqOn m' a n) (h' : m'.EqOn m'' a n) : m.EqOn m'' a n :=
  fun x hlo hhi => (h x hlo hhi).trans (h' x hlo hhi)

/-- Agreement on part of the range. -/
theorem sub (h : m.EqOn m' a n) (hlo : a ≤ b) (hhi : b + w ≤ a + n) : m.EqOn m' b w :=
  fun x hx hx' => h x (hlo.trans hx) (hx'.trans_le hhi)

theorem copyAt (h : m.EqOn m' a n) : m.CopyAt m' a a n :=
  fun i hi => h (a + i) (Nat.le_add_right a i) (Nat.add_lt_add_left hi a)

theorem load_eq (h : m.EqOn m' a w) : m.load a w = m'.load a w := h.copyAt.load_eq

theorem loadNet_eq (h : m.EqOn m' a w) : m.loadNet a w = m'.loadNet a w := h.copyAt.loadNet_eq

/-- A store elsewhere. -/
theorem store (h : b + w ≤ a ∨ a + n ≤ b) : m.EqOn (m.store b w v) a n := by
  intro x hlo hhi
  exact (store_of_not_mem (by cases h <;> omega)).symm

end EqOn

theorem load_store_of_apart {w' : ℕ} (h : b + w' ≤ a ∨ a + w ≤ b) :
    (m.store b w' v).load a w = m.load a w := (EqOn.store h).load_eq.symm

/-! ## Bytes -/

/-- The bytes `bs` lie at `a`. -/
def BytesAt (m : Memory) : ℕ → List UInt8 → Prop
  | _, [] => True
  | a, b :: bs => m a = b ∧ BytesAt m (a + 1) bs

/-- Bytes that are somewhere are there also where they were copied to. -/
theorem BytesAt.congr {bs : List UInt8} (h : m.BytesAt a bs) (hcopy : m.CopyAt m' a b bs.length) :
    m'.BytesAt b bs := by
  induction bs generalizing a b with
  | nil => trivial
  | cons x bs ih =>
    rw [List.length_cons] at hcopy
    exact ⟨(hcopy 0 (Nat.succ_pos _)).symm.trans h.1, ih h.2 (hcopy.sub (by omega))⟩

/-- The memory that holds the bytes `bs` at `a` and zeroes elsewhere. -/
def ofBytes (a : ℕ) (bs : List UInt8) : Memory := fun x =>
  if a ≤ x then bs.getD (x - a) 0 else 0

/-- The memory made of the bytes of another. -/
theorem ofBytes_copyAt (m : Memory) (a b n : ℕ) :
    (ofBytes a ((List.range n).map fun i => m (b + i))).CopyAt m a b n := by
  intro i hi
  rw [ofBytes, if_pos (Nat.le_add_right a i), Nat.add_sub_cancel_left,
    List.getD_eq_getElem?_getD, List.getElem?_map, List.getElem?_range hi]
  rfl

/-! ## Pointers -/

/-- The number of bytes of a pointer. -/
def pointerSize : ℕ := 8

/-- The pointers `ps` lie at `a`, one after the other. -/
def PointersAt (m : Memory) : ℕ → List ℕ → Prop
  | _, [] => True
  | a, p :: ps => m.load a pointerSize = p ∧ PointersAt m (a + pointerSize) ps

/-- The `n` pointers at `a`. -/
def pointers (m : Memory) : ℕ → ℕ → List ℕ
  | _, 0 => []
  | a, n + 1 => m.load a pointerSize :: pointers m (a + pointerSize) n

/-- The pointers that are in memory are read back. -/
theorem PointersAt.pointers_eq {ps : List ℕ} (h : m.PointersAt a ps) :
    m.pointers a ps.length = ps := by
  induction ps generalizing a with
  | nil => rfl
  | cons p ps ih => rw [List.length_cons, pointers, h.1, ih h.2]

theorem PointersAt.congr {ps : List ℕ} (h : m.PointersAt a ps)
    (heq : m.EqOn m' a (pointerSize * ps.length)) : m'.PointersAt a ps := by
  induction ps generalizing a with
  | nil => trivial
  | cons p ps ih =>
    rw [List.length_cons, Nat.mul_succ] at heq
    refine ⟨(heq.sub le_rfl (by omega)).load_eq.symm.trans h.1, ih h.2 (heq.sub ?_ ?_)⟩ <;> omega

/-- One array behind another. -/
theorem pointersAt_append {ps qs : List ℕ} :
    m.PointersAt a (ps ++ qs) ↔
      m.PointersAt a ps ∧ m.PointersAt (a + pointerSize * ps.length) qs := by
  induction ps generalizing a with
  | nil => simp [PointersAt]
  | cons p ps ih =>
    have ha : a + pointerSize + pointerSize * ps.length =
        a + pointerSize * (ps.length + 1) := by ring
    rw [List.cons_append, PointersAt, PointersAt, ih, List.length_cons, ha, and_assoc]

/-- One more pointer behind the others. -/
theorem PointersAt.concat {ps : List ℕ} {p : ℕ} (h : m.PointersAt a ps) (hp : p < 2 ^ 64) :
    (m.store (a + pointerSize * ps.length) pointerSize p).PointersAt a (ps ++ [p]) := by
  refine pointersAt_append.mpr ⟨h.congr (EqOn.store (.inr le_rfl)), ?_, trivial⟩
  exact load_store_self m (by simpa [pointerSize] using hp)

end Memory
