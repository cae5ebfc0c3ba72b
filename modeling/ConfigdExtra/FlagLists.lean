import Mathlib

/-!
# Lists of flags

A word of flags is written as a list of the names of flags, and a hexadecimal number with the flags
that are not named.

* `hexText`, `hexValue` — hexadecimal numbers, and reading them.
* `FlagTable` — flags with names that can be told apart from each other and from numbers.
* `clear` — a word without the flags that were named.
* `Lists` — the items of a list for a word; `Lists.unique` — there is only one word for them.
* `commaEnded` — items with a comma after each, and how they are told apart.
* `fitting` — the names that fit into a bounded text; `fitting_eq_filter` — when all fit.
-/

namespace FlagLists

/-! ## Hexadecimal numbers -/

/-- `0x%0<width>x` -/
def hexText (width v : ℕ) : List Char :=
  '0' :: 'x' :: (List.replicate (width - (Nat.toDigits 16 v).length) '0' ++ Nat.toDigits 16 v)

/-- The value of a hexadecimal digit. -/
def digitValue (c : Char) : ℕ := if c.isDigit then c.toNat - 48 else c.toNat - 87

/-- The value of hexadecimal digits. -/
def hexValue (cs : List Char) : ℕ := cs.foldl (fun v c => 16 * v + digitValue c) 0

/-- The digits are read as they are written. -/
theorem digitValue_digitChar : ∀ d < 16, digitValue d.digitChar = d := by decide

/-- What holds of all digits holds of all characters of a number. -/
theorem forall_mem_toDigits {p : Char → Prop} (h : ∀ d < 16, p d.digitChar) (v : ℕ) :
    ∀ c ∈ Nat.toDigits 16 v, p c := by
  induction v using Nat.strongRecOn with
  | ind v ih =>
    intro c hc
    rw [Nat.toDigits_eq_if (by decide)] at hc
    split at hc
    next hlt => rw [List.mem_singleton.mp hc]; exact h v hlt
    next hge =>
      rcases List.mem_append.mp hc with hc | hc
      · exact ih (v / 16) (by omega) c hc
      · rw [List.mem_singleton.mp hc]
        exact h _ (Nat.mod_lt v (by decide))

/-- So are the numbers. -/
theorem hexValue_toDigits (v : ℕ) : hexValue (Nat.toDigits 16 v) = v := by
  induction v using Nat.strongRecOn with
  | ind v ih =>
    rw [Nat.toDigits_eq_if (by decide)]
    split
    next hlt =>
      rw [hexValue, List.foldl_cons, List.foldl_nil, digitValue_digitChar v hlt, Nat.mul_zero,
        Nat.zero_add]
    next hge =>
      rw [hexValue, List.foldl_append, ← hexValue, ih (v / 16) (by omega), List.foldl_cons,
        List.foldl_nil, digitValue_digitChar _ (Nat.mod_lt v (by decide))]
      exact Nat.div_add_mod v 16

/-- Zeros in front do not matter. -/
theorem hexValue_replicate (n : ℕ) (cs : List Char) :
    hexValue (List.replicate n '0' ++ cs) = hexValue cs := by
  induction n with
  | zero => rfl
  | succ n ih => exact ih

/-- A number can be read back. -/
theorem hexValue_hexText (width v : ℕ) : hexValue ((hexText width v).drop 2) = v := by
  rw [hexText, List.drop_succ_cons, List.drop_succ_cons, List.drop_zero, hexValue_replicate,
    hexValue_toDigits]

/-- Two numbers are never written the same way, whatever the width. -/
theorem hexText_injective (width : ℕ) : Function.Injective (hexText width) := by
  intro v v' h
  rw [← hexValue_hexText width v, h, hexValue_hexText]

/-- What holds of `x` and of all digits holds of all characters of the text. -/
theorem forall_mem_hexText {p : Char → Prop} (hx : p 'x') (h : ∀ d < 16, p d.digitChar)
    (width v : ℕ) : ∀ c ∈ hexText width v, p c := by
  have hzero : p '0' := h 0 (by decide)
  intro c hc
  rw [hexText, List.mem_cons, List.mem_cons, List.mem_append] at hc
  rcases hc with rfl | rfl | hc | hc
  · exact hzero
  · exact hx
  · rw [List.eq_of_mem_replicate hc]
    exact hzero
  · exact forall_mem_toDigits h v c hc

/-- With the `0x`. -/
theorem length_hexText {width v : ℕ} (hwidth : 0 < width) (hv : v < 16 ^ width) :
    (hexText width v).length = width + 2 := by
  have hle := (Nat.length_toDigits_le_iff (by decide) hwidth).mpr hv
  rw [hexText, List.length_cons, List.length_cons, List.length_append, List.length_replicate]
  omega

/-! ## Flags -/

/-- A flag, by the number of its bit. -/
structure Flag where
  bit : ℕ
  name : String
deriving DecidableEq

/-- The name can be an item of a list, and is no number. -/
structure Flag.Plain (f : Flag) : Prop where
  ne_nil : f.name.toList ≠ []
  comma : ',' ∉ f.name.toList
  nul : '\x00' ∉ f.name.toList
  zero : f.name.toList.head? ≠ some '0'

instance (f : Flag) : Decidable f.Plain :=
  decidable_of_iff (f.name.toList ≠ [] ∧ ',' ∉ f.name.toList ∧ '\x00' ∉ f.name.toList ∧
    f.name.toList.head? ≠ some '0')
    ⟨fun ⟨hnil, hcomma, hnul, hzero⟩ => ⟨hnil, hcomma, hnul, hzero⟩,
      fun h => ⟨h.ne_nil, h.comma, h.nul, h.zero⟩⟩

/-- Flags with different bits and different names. -/
structure FlagTable where
  flags : List Flag
  bits : (flags.map Flag.bit).Nodup
  names : (flags.map Flag.name).Nodup
  plain : ∀ f ∈ flags, f.Plain

variable {w : ℕ}

/-- The flags without those that were named. -/
def clear (flags : BitVec w) (named : List Flag) : BitVec w :=
  named.foldl (fun remaining f => remaining &&& ~~~BitVec.twoPow w f.bit) flags

/-- A flag stays where no named flag has its bit. -/
theorem getLsbD_clear (flags : BitVec w) (named : List Flag) (i : ℕ) :
    (clear flags named).getLsbD i = (flags.getLsbD i && named.all fun f => f.bit ≠ i) := by
  induction named generalizing flags with
  | nil => rw [clear, List.foldl_nil, List.all_nil, Bool.and_true]
  | cons f named ih =>
    rw [clear, List.foldl_cons, ← clear, ih, List.all_cons, BitVec.getLsbD_and, BitVec.getLsbD_not,
      BitVec.getLsbD_twoPow]
    by_cases hi : i < w
    · by_cases hf : f.bit = i <;> simp [hi, hf]
    · simp [BitVec.getLsbD_of_ge flags i (by omega)]

/-- The test of a flag. -/
theorem and_twoPow_ne_zero_iff (flags : BitVec w) (i : ℕ) :
    flags &&& BitVec.twoPow w i ≠ 0 ↔ flags.getLsbD i = true := by
  rw [BitVec.and_twoPow]
  by_cases h : flags.getLsbD i = true
  · have hi : i < w := BitVec.lt_of_getLsbD h
    simp only [h, if_true, ne_eq, iff_true]
    intro hzero
    have hbit := congrArg (BitVec.getLsbD · i) hzero
    simp [hi] at hbit
  · simp [h]

/-! ## Items -/

/-- The items of a list: names, and a number unless it is zero. -/
def itemsOf (width : ℕ) (named : List Flag) (rest : BitVec w) : List (List Char) :=
  named.map (fun f => f.name.toList) ++ if rest = 0 then [] else [hexText width rest.toNat]

/-- The items are names of flags that are set, and a number that holds the flags that are set and
not named. -/
def Lists (T : FlagTable) (width : ℕ) (flags : BitVec w) (items : List (List Char)) : Prop :=
  ∃ named : List Flag, named.Sublist T.flags ∧ (∀ f ∈ named, flags.getLsbD f.bit = true) ∧
    items = itemsOf width named (clear flags named)

variable {T : FlagTable} {width : ℕ} {flags flags' : BitVec w} {items : List (List Char)}

theorem mem_itemsOf {named : List Flag} {rest : BitVec w} {item : List Char} :
    item ∈ itemsOf width named rest ↔
      (∃ f ∈ named, f.name.toList = item) ∨ rest ≠ 0 ∧ item = hexText width rest.toNat := by
  rw [itemsOf, List.mem_append, List.mem_map]
  by_cases h : rest = 0 <;> simp [h]

/-- A name is never taken for a number: numbers start with `0x`, and no name with `0`. -/
theorem Flag.Plain.ne_hexText {f : Flag} (h : f.Plain) (v : ℕ) :
    f.name.toList ≠ hexText width v := by
  intro heq
  exact h.zero (heq ▸ rfl)

/-- A flag is known by its name. -/
theorem FlagTable.eq_of_name {f g : Flag} (hf : f ∈ T.flags) (hg : g ∈ T.flags)
    (h : f.name.toList = g.name.toList) : f = g :=
  List.inj_on_of_nodup_map T.names hf hg (String.toList_inj.mp h)

/-- The flags can be told from the items. -/
theorem Lists.getLsbD_iff (h : Lists T width flags items) (i : ℕ) :
    flags.getLsbD i = true ↔
      (∃ f ∈ T.flags, f.name.toList ∈ items ∧ f.bit = i) ∨
        ∃ v : BitVec w, hexText width v.toNat ∈ items ∧ v.getLsbD i = true := by
  obtain ⟨named, hsub, hset, rfl⟩ := h
  constructor
  · intro hi
    by_cases hnamed : ∃ f ∈ named, f.bit = i
    · obtain ⟨f, hf, hbit⟩ := hnamed
      exact .inl ⟨f, hsub.subset hf, mem_itemsOf.mpr (.inl ⟨f, hf, rfl⟩), hbit⟩
    · have hrest : (clear flags named).getLsbD i = true := by
        rw [getLsbD_clear, hi, Bool.true_and, List.all_eq_true]
        exact fun f hf => decide_eq_true fun hbit => hnamed ⟨f, hf, hbit⟩
      refine .inr ⟨clear flags named, mem_itemsOf.mpr (.inr ⟨fun hzero => ?_, rfl⟩), hrest⟩
      rw [hzero, BitVec.ofNat_eq_ofNat, BitVec.getLsbD_zero] at hrest
      cases hrest
  · rintro (⟨f, hf, hitem, rfl⟩ | ⟨v, hitem, hv⟩)
    · rcases mem_itemsOf.mp hitem with ⟨g, hg, hname⟩ | ⟨-, hname⟩
      · rw [T.eq_of_name hf (hsub.subset hg) hname.symm]
        exact hset g hg
      · exact absurd hname ((T.plain f hf).ne_hexText _)
    · rcases mem_itemsOf.mp hitem with ⟨g, hg, hname⟩ | ⟨-, hname⟩
      · exact absurd hname ((T.plain g (hsub.subset hg)).ne_hexText _)
      · obtain rfl := BitVec.eq_of_toNat_eq (hexText_injective width hname)
        rw [getLsbD_clear, Bool.and_eq_true] at hv
        exact hv.1

/-- **One word.** The items of a list belong to one word of flags only. -/
theorem Lists.unique (h : Lists T width flags items) (h' : Lists T width flags' items) :
    flags = flags' := by
  refine BitVec.eq_of_getLsbD_eq fun i _ => ?_
  rw [Bool.eq_iff_iff, h.getLsbD_iff, h'.getLsbD_iff]

/-! ## Commas -/

/-- The items, with a comma after each. -/
def commaEnded (items : List (List Char)) : List Char := items.flatMap (· ++ [','])

theorem commaEnded_cons (item : List Char) (items : List (List Char)) :
    commaEnded (item :: items) = item ++ ',' :: commaEnded items := by
  rw [commaEnded, List.flatMap_cons, List.append_assoc]
  rfl

/-- A list in two parts: the commas of the first all stay. -/
theorem intercalate_append (xs : List (List Char)) {ys : List (List Char)} (h : ys ≠ []) :
    [','].intercalate (xs ++ ys) = commaEnded xs ++ [','].intercalate ys := by
  induction xs with
  | nil => rfl
  | cons x xs ih =>
    rw [List.cons_append, List.intercalate_cons_of_ne_nil (List.append_ne_nil_of_right_ne_nil xs h),
      ih, commaEnded_cons, List.append_assoc, List.append_assoc]
    rfl

theorem commaEnded_append (xs ys : List (List Char)) :
    commaEnded (xs ++ ys) = commaEnded xs ++ commaEnded ys := List.flatMap_append

/-- The last comma is the one that the closing parenthesis replaces. -/
theorem commaEnded_eq {items : List (List Char)} (h : items ≠ []) :
    commaEnded items = [','].intercalate items ++ [','] := by
  obtain ⟨xs, x, rfl⟩ := List.eq_nil_or_concat items |>.resolve_left h
  rw [List.concat_eq_append, commaEnded_append, intercalate_append xs (List.cons_ne_nil x []),
    commaEnded_cons, List.intercalate_singleton, List.append_assoc]
  rfl

/-- What may be an item. -/
structure PlainItem (item : List Char) : Prop where
  ne_nil : item ≠ []
  comma : ',' ∉ item
  nul : '\x00' ∉ item

/-- A number is an item like the names: it holds no comma, and it is not empty. -/
theorem plainItem_hexText (width v : ℕ) : PlainItem (hexText width v) where
  ne_nil := List.cons_ne_nil _ _
  comma := fun h =>
    forall_mem_hexText (p := fun c => c ≠ ',') (by decide) (by decide) width v ',' h rfl
  nul := fun h =>
    forall_mem_hexText (p := fun c => c ≠ '\x00') (by decide) (by decide) width v '\x00' h rfl

theorem Lists.plain (h : Lists T width flags items) : ∀ item ∈ items, PlainItem item := by
  obtain ⟨named, hsub, -, rfl⟩ := h
  intro item hitem
  rcases mem_itemsOf.mp hitem with ⟨f, hf, rfl⟩ | ⟨-, rfl⟩
  · have hplain := T.plain f (hsub.subset hf)
    exact ⟨hplain.ne_nil, hplain.comma, hplain.nul⟩
  · exact plainItem_hexText width _

theorem Lists.ne_nil (h : Lists T width flags items) (hflags : flags ≠ 0) : items ≠ [] := by
  obtain ⟨named, -, -, rfl⟩ := h
  intro hnil
  rw [itemsOf, List.append_eq_nil_iff, List.map_eq_nil_iff] at hnil
  obtain ⟨rfl, hrest⟩ := hnil
  rw [clear, List.foldl_nil, if_neg hflags] at hrest
  cases hrest

/-- The text is not cut short by a character of its own. -/
theorem nul_notMem_commaEnded (h : ∀ item ∈ items, PlainItem item) : '\x00' ∉ commaEnded items := by
  rw [commaEnded, List.mem_flatMap]
  rintro ⟨item, hitem, hmem⟩
  rcases List.mem_append.mp hmem with hmem | hmem
  · exact (h item hitem).nul hmem
  · revert hmem
    decide

/-- The items can be told apart. -/
theorem eq_of_intercalate_eq {items items' : List (List Char)} (hne : items ≠ [])
    (hne' : items' ≠ []) (h : ∀ item ∈ items, ',' ∉ item) (h' : ∀ item ∈ items', ',' ∉ item)
    (heq : [','].intercalate items = [','].intercalate items') : items = items' := by
  rw [← List.splitOn_intercalate ',' h hne, heq, List.splitOn_intercalate ',' h' hne']

/-! ## The names that fit -/

/-- The length of the names, with a comma after each. -/
def listWidth (named : List Flag) : ℕ := (named.map fun f => f.name.toList.length + 1).sum

/-- The length of a list of names only depends on which they are. -/
theorem length_commaEnded (named : List Flag) :
    (commaEnded (named.map fun f => f.name.toList)).length = listWidth named := by
  induction named with
  | nil => rfl
  | cons f named ih =>
    rw [List.map_cons, commaEnded_cons, List.length_append, List.length_cons, ih, listWidth,
      listWidth, List.map_cons, List.sum_cons]
    omega

/-- The flags that are set and whose names fit, one after the other, into a text of `len` characters
from `n` on. -/
def fitting (len : ℕ) : ℕ → BitVec w → List Flag → List Flag
  | _, _, [] => []
  | n, flags, f :: fs =>
    if flags.getLsbD f.bit = true ∧ n + f.name.toList.length + 2 < len then
      f :: fitting len (n + f.name.toList.length + 1) (flags &&& ~~~BitVec.twoPow w f.bit) fs
    else fitting len n flags fs

variable {len n : ℕ} {fs : List Flag}

/-- The flags that fit come in the order of the table. -/
theorem fitting_sublist (len n : ℕ) (flags : BitVec w) (fs : List Flag) :
    (fitting len n flags fs).Sublist fs := by
  induction fs generalizing n flags with
  | nil => exact List.Sublist.slnil
  | cons f fs ih =>
    rw [fitting]
    split
    · exact (ih _ _).cons_cons f
    · exact (ih _ _).cons f

/-- Only flags that are set are named. -/
theorem getLsbD_of_mem_fitting {f : Flag} (h : f ∈ fitting len n flags fs) :
    flags.getLsbD f.bit = true := by
  induction fs generalizing n flags with
  | nil => cases h
  | cons g fs ih =>
    rw [fitting] at h
    split at h
    next hg =>
      rcases List.mem_cons.mp h with rfl | h
      · exact hg.1
      · have hbit := ih h
        rw [BitVec.getLsbD_and, Bool.and_eq_true] at hbit
        exact hbit.1
    next => exact ih h

theorem fitting_zero : fitting len n (0 : BitVec w) fs = [] := by
  refine List.eq_nil_iff_forall_not_mem.mpr fun f hf => ?_
  have hbit := getLsbD_of_mem_fitting hf
  rw [BitVec.ofNat_eq_ofNat, BitVec.getLsbD_zero] at hbit
  cases hbit

/-- The names that fit leave room for a character and a NUL. -/
theorem fitting_fits (flags : BitVec w) (fs : List Flag) (h : n + 1 < len) :
    n + listWidth (fitting len n flags fs) + 1 < len := by
  induction fs generalizing n flags with
  | nil => exact h
  | cons f fs ih =>
    rw [fitting]
    split
    next hf =>
      have hroom : n + f.name.toList.length + 1 + 1 < len := by omega
      have hrest := ih (flags &&& ~~~BitVec.twoPow w f.bit) hroom
      rw [listWidth, List.map_cons, List.sum_cons, ← listWidth]
      omega
    next => exact ih flags h

/-- If there is room for them, all names fit. -/
theorem fitting_eq_filter (hbits : (fs.map Flag.bit).Nodup)
    (h : n + listWidth (fs.filter fun f => flags.getLsbD f.bit) + 1 < len) :
    fitting len n flags fs = fs.filter fun f => flags.getLsbD f.bit := by
  induction fs generalizing n flags with
  | nil => rfl
  | cons f fs ih =>
    obtain ⟨hnot, hbits⟩ := List.nodup_cons.mp hbits
    rw [fitting]
    by_cases hf : flags.getLsbD f.bit = true
    · -- the flags that come later are not cleared
      have hfilter : (fs.filter fun g => (flags &&& ~~~BitVec.twoPow w f.bit).getLsbD g.bit) =
          fs.filter fun g => flags.getLsbD g.bit := by
        refine List.filter_congr fun g hg => ?_
        have hne : f.bit ≠ g.bit := fun heq => hnot (heq ▸ List.mem_map_of_mem hg)
        have hclear := getLsbD_clear flags [f] g.bit
        rw [clear, List.foldl_cons, List.foldl_nil] at hclear
        rw [hclear, List.all_cons, List.all_nil, Bool.and_true, decide_eq_true hne, Bool.and_true]
      rw [List.filter_cons_of_pos (p := fun g : Flag => flags.getLsbD g.bit) hf] at h ⊢
      rw [listWidth, List.map_cons, List.sum_cons, ← listWidth] at h
      rw [if_pos ⟨hf, by omega⟩, ih hbits (by rw [hfilter]; omega), hfilter]
    · rw [List.filter_cons_of_neg (p := fun g : Flag => flags.getLsbD g.bit) hf] at h ⊢
      rw [if_neg fun hc => hf hc.1, ih hbits h]

end FlagLists
