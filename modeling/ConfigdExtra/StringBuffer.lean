import Mathlib.Data.List.GetD
import Mathlib.Logic.Function.Basic
import Mathlib.Order.Lattice

/-!
# Strings in a buffer

A buffer holds characters, and a string in it ends with a NUL. The functions that write strings get
the size of the buffer, and return the length that the string would have without it.

* `Holds` — the string that a buffer starts with.
* `snprintf`, `strlcpy`, `strlcat` — the functions.
* `Holds.strlcat`, `Holds.put` — a string that fits is added at the end.
* `Holds.truncate`, `Holds.setLast` — the string after a character of it was changed.
-/

namespace StringBuffer

/-- A character at every offset. -/
abbrev Buffer : Type := ℕ → Char

/-- The buffer starts with the string, and a NUL after it. -/
def Holds (b : Buffer) (s : List Char) : Prop := ∀ i ≤ s.length, b i = s.getD i '\x00'

/-! ## The functions -/

/-- The string and a NUL, written from `k` on. -/
def put (b : Buffer) (k : ℕ) (s : List Char) : Buffer := fun i =>
  if k ≤ i ∧ i ≤ k + s.length then s.getD (i - k) '\x00' else b i

/-- `str[k] = c` -/
def setChar (b : Buffer) (k : ℕ) (c : Char) : Buffer := Function.update b k c

/-- `strnlen` -/
def strnlen (b : Buffer) (size : ℕ) : ℕ :=
  ((List.range size).find? fun i => b i = '\x00').getD size

/-- `snprintf(str + k, size, …)`, for what it prints -/
def snprintf (b : Buffer) (k size : ℕ) (s : List Char) : Buffer × ℕ :=
  (if size = 0 then b else put b k (s.take (size - 1)), s.length)

/-- `strlcpy(str, s, size)` -/
def strlcpy (b : Buffer) (s : List Char) (size : ℕ) : Buffer × ℕ := snprintf b 0 size s

/-- `strlcat(str, s, size)` -/
def strlcat (b : Buffer) (s : List Char) (size : ℕ) : Buffer × ℕ :=
  if strnlen b size = size then (b, size + s.length)
  else (put b (strnlen b size) (s.take (size - strnlen b size - 1)), strnlen b size + s.length)

/-! ## What the buffer holds -/

variable {b : Buffer} {s t : List Char} {c d : Char} {k n size : ℕ}

theorem put_of_lt {i : ℕ} (h : k + s.length < i) : put b k s i = b i := if_neg (by omega)

theorem holds_put_zero (b : Buffer) (s : List Char) : Holds (put b 0 s) s := by
  intro i hi
  rw [put, if_pos ⟨Nat.zero_le i, by omega⟩, Nat.sub_zero]

theorem holds_setChar_zero (b : Buffer) : Holds (setChar b 0 '\x00') [] := by
  intro i hi
  rw [Nat.le_zero.mp hi, setChar, Function.update_self]
  rfl

/-- A string that is written at the end is added. -/
theorem Holds.put (h : Holds b s) (t : List Char) : Holds (put b s.length t) (s ++ t) := by
  intro i hi
  rw [List.length_append] at hi
  rw [StringBuffer.put]
  by_cases hlt : i < s.length
  · rw [if_neg (by omega), h i hlt.le, List.getD_append _ _ _ _ hlt]
  · rw [if_pos (by omega), List.getD_append_right _ _ _ _ (by omega)]

/-- The end of the string is found. -/
theorem Holds.strnlen (h : Holds b s) (hnul : '\x00' ∉ s) (hsize : s.length < size) :
    strnlen b size = s.length := by
  have hfind : (List.range size).find? (fun i => b i = '\x00') = some s.length := by
    rw [List.find?_range_eq_some]
    refine ⟨?_, List.mem_range.mpr hsize, fun i hi => ?_⟩
    · rw [h s.length le_rfl, List.getD_eq_default _ _ le_rfl]
      exact decide_eq_true rfl
    · rw [h i hi.le, List.getD_eq_getElem _ _ hi]
      have hne : s[i] ≠ '\x00' := fun heq => hnul (heq ▸ List.getElem_mem hi)
      simp [hne]
  rw [StringBuffer.strnlen, hfind, Option.getD_some]

/-- Only one string without a NUL is held. -/
theorem Holds.unique (hs : Holds b s) (ht : Holds b t) (hnul : '\x00' ∉ s) (hnul' : '\x00' ∉ t) :
    s = t := by
  have hlen : s.length = t.length := by
    have hs' : StringBuffer.strnlen b (s.length + t.length + 1) = s.length :=
      hs.strnlen hnul (by omega)
    have ht' : StringBuffer.strnlen b (s.length + t.length + 1) = t.length :=
      ht.strnlen hnul' (by omega)
    exact hs'.symm.trans ht'
  refine List.ext_getElem hlen fun i hi hi' => ?_
  rw [← List.getD_eq_getElem s '\x00' hi, ← List.getD_eq_getElem t '\x00' hi', ← hs i hi.le,
    ← ht i hi'.le]

theorem snprintf_of_lt (h : s.length < size) : snprintf b k size s = (put b k s, s.length) := by
  rw [snprintf, if_neg (by omega), List.take_of_length_le (by omega)]

/-- `strlcat` with a string that fits. -/
theorem Holds.strlcat (h : Holds b s) (hnul : '\x00' ∉ s) (hsize : s.length + t.length < size) :
    strlcat b t size = (StringBuffer.put b s.length t, s.length + t.length) := by
  rw [StringBuffer.strlcat, h.strnlen hnul (by omega), if_neg (by omega),
    List.take_of_length_le (by omega)]

/-- The string is cut off. -/
theorem Holds.truncate (h : Holds b (s ++ t)) : Holds (setChar b s.length '\x00') s := by
  intro i hi
  rcases Nat.lt_or_eq_of_le hi with hlt | rfl
  · rw [setChar, Function.update_of_ne hlt.ne, h i (by rw [List.length_append]; omega),
      List.getD_append _ _ _ _ hlt]
  · rw [setChar, Function.update_self, List.getD_eq_default _ _ le_rfl]

/-- The last character is another one. -/
theorem Holds.setLast (h : Holds b (s ++ [c])) (d : Char) :
    Holds (setChar b s.length d) (s ++ [d]) := by
  intro i hi
  rw [List.length_append, List.length_singleton] at hi
  by_cases hi' : i = s.length
  · rw [hi', setChar, Function.update_self, List.getD_append_right _ _ _ _ le_rfl, Nat.sub_self]
    rfl
  · rw [setChar, Function.update_of_ne hi', h i (by rw [List.length_append]; exact hi)]
    by_cases hlt : i < s.length
    · rw [List.getD_append _ _ _ _ hlt, List.getD_append _ _ _ _ hlt]
    · rw [List.getD_eq_default _ _ (by rw [List.length_append, List.length_singleton]; omega),
        List.getD_eq_default _ _ (by rw [List.length_append, List.length_singleton]; omega)]

end StringBuffer
