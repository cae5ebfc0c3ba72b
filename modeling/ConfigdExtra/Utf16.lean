import Mathlib

/-!
# UTF-16

Characters as code units of 16 bits, and code units as bytes.

* `utf16Units`, `decodeUtf16` — characters to code units and back. A surrogate without its partner
  is not a character.
* `decodeUtf16_eq_some` — the code units determine the characters, and the characters the units.
* `ByteOrder`, `ByteOrder.bytes`, `ByteOrder.units` — the two orders of the bytes of a unit.
* `ByteOrder.units_bytes`, `ByteOrder.units_bytes_other` — what is read in the order of the writer,
  and in the other one.
-/

namespace ConfigdExtra

/-! ## Code units -/

/-- The UTF-16 code units of a character. -/
def utf16Units (c : Char) : List Nat :=
  if c.toNat < 0x10000 then [c.toNat]
  else [0xD800 + (c.toNat - 0x10000) / 0x400, 0xDC00 + (c.toNat - 0x10000) % 0x400]

/-- The characters that code units encode. -/
def decodeUtf16 : List ℕ → Option (List Char)
  | [] => some []
  | u :: us =>
    if u < 0xD800 ∨ 0xE000 ≤ u then (decodeUtf16 us).map (Char.ofNat u :: ·)
    else if u < 0xDC00 then
      match us with
      | [] => none
      | v :: us =>
        if 0xDC00 ≤ v ∧ v < 0xE000 then
          (decodeUtf16 us).map
            (Char.ofNat (0x10000 + (u - 0xD800) * 0x400 + (v - 0xDC00)) :: ·)
        else none
    else none

/-- A code unit has 16 bits. -/
def IsUnit16 (u : ℕ) : Prop := u < 0x10000

theorem char_ranges (c : Char) :
    c.toNat < 0xD800 ∨ 0xE000 ≤ c.toNat ∧ c.toNat < 0x110000 := by
  have h := c.valid
  rcases h with h | ⟨h, h'⟩
  · exact .inl h
  · refine .inr ⟨?_, h'⟩
    change 0xE000 ≤ c.val.toNat
    change 0xDFFF < c.val.toNat at h
    omega

theorem isUnit16_of_mem_utf16Units {c : Char} {u : ℕ} (h : u ∈ utf16Units c) : IsUnit16 u := by
  have hc := char_ranges c
  unfold utf16Units at h
  unfold IsUnit16
  split at h
  · simp only [List.mem_singleton] at h
    omega
  · simp only [List.mem_cons, List.not_mem_nil, or_false] at h
    omega

theorem toNat_ofNat_of_ranges {n : ℕ} (h : n < 0xD800 ∨ 0xE000 ≤ n ∧ n < 0x110000) :
    (Char.ofNat n).toNat = n := by
  have hvalid : n.isValidChar := by
    unfold Nat.isValidChar
    omega
  simp [Char.ofNat, hvalid, Char.toNat, Char.ofNatAux]

theorem decodeUtf16_single {u : ℕ} (hu : u < 0xD800 ∨ 0xE000 ≤ u) (us : List ℕ) :
    decodeUtf16 (u :: us) = (decodeUtf16 us).map (Char.ofNat u :: ·) := by
  rw [decodeUtf16.eq_def]
  simp only [if_pos hu]

theorem decodeUtf16_pair {u v : ℕ} (hu : 0xD800 ≤ u ∧ u < 0xDC00) (hv : 0xDC00 ≤ v ∧ v < 0xE000)
    (us : List ℕ) : decodeUtf16 (u :: v :: us) =
      (decodeUtf16 us).map (Char.ofNat (0x10000 + (u - 0xD800) * 0x400 + (v - 0xDC00)) :: ·) := by
  have hsurrogate : ¬ (u < 0xD800 ∨ 0xE000 ≤ u) := by omega
  rw [decodeUtf16.eq_def]
  simp only [if_neg hsurrogate, if_pos hu.2, if_pos hv]

/-- The units of a character in front are read as that character. -/
theorem decodeUtf16_utf16Units_append (c : Char) (us : List ℕ) :
    decodeUtf16 (utf16Units c ++ us) = (decodeUtf16 us).map (c :: ·) := by
  have hc := char_ranges c
  unfold utf16Units
  split
  · rename_i hlt
    have hchar : Char.ofNat c.toNat = c := Char.ofNat_toNat c
    rw [List.singleton_append, decodeUtf16_single (by omega), hchar]
  · rename_i hge
    have hchar : Char.ofNat (0x10000 + (0xD800 + (c.toNat - 0x10000) / 0x400 - 0xD800) * 0x400 +
        (0xDC00 + (c.toNat - 0x10000) % 0x400 - 0xDC00)) = c := by
      rw [show 0x10000 + (0xD800 + (c.toNat - 0x10000) / 0x400 - 0xD800) * 0x400 +
        (0xDC00 + (c.toNat - 0x10000) % 0x400 - 0xDC00) = c.toNat by omega]
      exact Char.ofNat_toNat c
    rw [List.cons_append, List.singleton_append, decodeUtf16_pair (by omega) (by omega), hchar]

theorem decodeUtf16_flatMap (cs : List Char) :
    decodeUtf16 (cs.flatMap utf16Units) = some cs := by
  induction cs with
  | nil => rfl
  | cons c cs ih => rw [List.flatMap_cons, decodeUtf16_utf16Units_append, ih, Option.map_some]

/-- What is read encodes to what it was read from. -/
theorem flatMap_of_decodeUtf16 {us : List ℕ} (hus : ∀ u ∈ us, IsUnit16 u) {cs : List Char}
    (h : decodeUtf16 us = some cs) : cs.flatMap utf16Units = us := by
  fun_induction decodeUtf16 us generalizing cs with
  | case1 =>
    obtain rfl : [] = cs := by simpa using h
    rfl
  | case2 u us hu ih =>
    obtain ⟨rest, hrest, rfl⟩ := Option.map_eq_some_iff.mp h
    have hbound : IsUnit16 u := hus u List.mem_cons_self
    unfold IsUnit16 at hbound
    have hchar := toNat_ofNat_of_ranges (n := u) (by omega)
    rw [List.flatMap_cons, ih (fun v hv => hus v (List.mem_cons_of_mem _ hv)) hrest, utf16Units,
      hchar, if_pos hbound]
    rfl
  | case3 => simp at h
  | case4 u hu hlow v us hv ih =>
    obtain ⟨rest, hrest, rfl⟩ := Option.map_eq_some_iff.mp h
    have hchar := toNat_ofNat_of_ranges
      (n := 0x10000 + (u - 0xD800) * 0x400 + (v - 0xDC00)) (by omega)
    rw [List.flatMap_cons, ih (fun w hw => hus w (by simp [hw])) hrest, utf16Units, hchar,
      if_neg (by omega), show 0xD800 + (0x10000 + (u - 0xD800) * 0x400 + (v - 0xDC00) - 0x10000) /
        0x400 = u by omega, show 0xDC00 + (0x10000 + (u - 0xD800) * 0x400 + (v - 0xDC00) -
        0x10000) % 0x400 = v by omega]
    rfl
  | case5 => simp at h
  | case6 => simp at h

theorem decodeUtf16_eq_some {us : List ℕ} (hus : ∀ u ∈ us, IsUnit16 u) {cs : List Char} :
    decodeUtf16 us = some cs ↔ us = cs.flatMap utf16Units :=
  ⟨fun h => (flatMap_of_decodeUtf16 hus h).symm, fun h => h ▸ decodeUtf16_flatMap cs⟩

/-! ## Bytes -/

/-- The order of the bytes of a unit. -/
inductive ByteOrder where
  | little
  | big
  deriving DecidableEq

/-- The unit with its two bytes swapped. -/
def swapBytes (u : ℕ) : ℕ := 256 * (u % 256) + u / 256

namespace ByteOrder

/-- The bytes of units. -/
def bytes (order : ByteOrder) (us : List ℕ) : List UInt8 :=
  us.flatMap fun u =>
    match order with
    | little => [UInt8.ofNat u, UInt8.ofNat (u / 256)]
    | big => [UInt8.ofNat (u / 256), UInt8.ofNat u]

/-- The units of bytes; half a unit at the end is left out. -/
def units (order : ByteOrder) : List UInt8 → List ℕ
  | a :: b :: bytes =>
    (match order with
      | little => a.toNat + 256 * b.toNat
      | big => 256 * a.toNat + b.toNat) :: units order bytes
  | _ => []

theorem isUnit16_of_mem_units {order : ByteOrder} {bytes : List UInt8} {u : ℕ}
    (h : u ∈ order.units bytes) : IsUnit16 u := by
  induction bytes using List.twoStepInduction with
  | nil => simp [units] at h
  | singleton a => simp [units] at h
  | cons_cons a b bytes ih _ =>
    have ha := a.toNat_lt
    have hb := b.toNat_lt
    simp only [units, List.mem_cons] at h
    rcases h with rfl | h
    · unfold IsUnit16
      cases order <;> simp only <;> omega
    · exact ih h

theorem length_bytes (order : ByteOrder) (us : List ℕ) :
    (order.bytes us).length = 2 * us.length := by
  induction us with
  | nil => rfl
  | cons u us ih =>
    rw [bytes, List.flatMap_cons, List.length_append, ← bytes, ih, List.length_cons]
    cases order <;> simp <;> ring

/-- The two bytes of a unit. -/
theorem bytes_of_isUnit16 {u : ℕ} (hu : IsUnit16 u) :
    (UInt8.ofNat u).toNat = u % 256 ∧ (UInt8.ofNat (u / 256)).toNat = u / 256 := by
  unfold IsUnit16 at hu
  refine ⟨by simp, ?_⟩
  simp only [UInt8.toNat_ofNat']
  omega

theorem units_bytes (order : ByteOrder) {us : List ℕ} (hus : ∀ u ∈ us, IsUnit16 u) :
    order.units (order.bytes us) = us := by
  induction us with
  | nil => rfl
  | cons u us ih =>
    have ih := ih fun v hv => hus v (List.mem_cons_of_mem _ hv)
    obtain ⟨hlow, hhigh⟩ := bytes_of_isUnit16 (hus u List.mem_cons_self)
    cases order with
    | little =>
      change ((UInt8.ofNat u).toNat + 256 * (UInt8.ofNat (u / 256)).toNat) ::
        little.units (little.bytes us) = _
      rw [ih, hlow, hhigh, show u % 256 + 256 * (u / 256) = u by omega]
    | big =>
      change (256 * (UInt8.ofNat (u / 256)).toNat + (UInt8.ofNat u).toNat) ::
        big.units (big.bytes us) = _
      rw [ih, hlow, hhigh, show 256 * (u / 256) + u % 256 = u by omega]

/-- In the other order every unit is swapped. -/
theorem units_bytes_other {us : List ℕ} (hus : ∀ u ∈ us, IsUnit16 u) :
    big.units (little.bytes us) = us.map swapBytes := by
  induction us with
  | nil => rfl
  | cons u us ih =>
    have ih := ih fun v hv => hus v (List.mem_cons_of_mem _ hv)
    obtain ⟨hlow, hhigh⟩ := bytes_of_isUnit16 (hus u List.mem_cons_self)
    change (256 * (UInt8.ofNat u).toNat + (UInt8.ofNat (u / 256)).toNat) ::
      big.units (little.bytes us) = _
    rw [ih, hlow, hhigh, List.map_cons, swapBytes]

end ByteOrder

end ConfigdExtra
