import ConfigdExtra.FlagLists
import ConfigdExtra.StringBuffer

/-!
# Strings for flags

The log shows the flags of a reachability target and of an interface by name. The names are added
to a bounded string one after the other, as long as there is room, each with a comma; the flags that
are left over follow as a number, for which the names are given up if there is no room for it. At
the end the last comma is overwritten.

* `appendName` — adding a name, in both functions.
* `reachabilityFlagsString` — `__SCNetworkReachability_flags_string`.
* `nwiIfstateFlagsStr` — `_nwi_ifstate_flags_str`.
* `ReachabilityText`, `NwiText` — the strings that stand for flags.
* `flagStrings_denote_iff` — when the functions write them.
-/

namespace ConfigdExtra.FlagStrings

open FlagLists StringBuffer

/-! ## The functions -/

section

variable {w : ℕ}

/-- The variables of the functions. -/
structure Writer (w : ℕ) where
  str : Buffer
  n : ℕ
  remaining : BitVec w

/-- `sizeof` of a string literal -/
def sizeof (s : List Char) : ℕ := s.length + 1

/-- A string is added if there is room for one more character, and flags are taken off. -/
def appendGuarded (len : ℕ) (s : List Char) (remaining : BitVec w) (st : Writer w) : Writer w :=
  if st.n < len ∧ len - st.n > sizeof s then
    let (str, n) := strlcat st.str s len
    ⟨str, n, remaining⟩
  else st

/-- The name of a flag is added, if the flag is set. -/
def appendName (len : ℕ) (st : Writer w) (f : Flag) : Writer w :=
  if st.remaining &&& BitVec.twoPow w f.bit ≠ 0 then
    appendGuarded len (f.name.toList ++ [',']) (st.remaining &&& ~~~BitVec.twoPow w f.bit) st
  else st

end

/-- The flags of `__SCNetworkReachability_flags_string`, in its order; the last one only if
`TARGET_OS_IPHONE`. -/
def reachabilityTable (iphone : Bool) : FlagTable where
  flags :=
    [⟨1, "Reachable"⟩, ⟨0, "Transient Connection"⟩, ⟨2, "Connection Required"⟩,
      ⟨3, "Automatic Connection On Traffic"⟩, ⟨5, "Automatic Connection On Demand"⟩,
      ⟨4, "Intervention Required"⟩, ⟨16, "Local Address"⟩, ⟨17, "Directly Reachable Address"⟩] ++
    if iphone then [⟨18, "WWAN"⟩] else []
  bits := by cases iphone <;> decide
  names := by cases iphone <;> decide
  plain := by cases iphone <;> decide

/-- The lengths that the assertion allows. -/
def ReachabilityAssertion (len : ℕ) : Prop :=
  len ≥ sizeof "Not Reachable,".toList ∧ len ≥ sizeof "0x01234567 (Not Reachable)".toList ∧
    len ≥ sizeof "0x01234567 (0x01234567)".toList

instance (len : ℕ) : Decidable (ReachabilityAssertion len) := instDecidableAnd

/-- The flags that remain are added as a number; where there is no room, the names are given up. -/
def appendRemaining (len op : ℕ) (flags : BitVec 32) (st : Writer 32) : Writer 32 :=
  if st.remaining ≠ 0 then
    let st :=
      if st.n ≥ len ∨ len - st.n ≤ sizeof "0x01234567,".toList then
        ⟨setChar st.str op '\x00', op, flags⟩
      else st
    let (str, printed) :=
      snprintf st.str st.n (len - st.n) (hexText 8 st.remaining.toNat ++ [','])
    { st with str := str, n := st.n + printed }
  else st

/-- `__SCNetworkReachability_flags_string`; there is no result if the assertion fails. -/
def reachabilityFlagsString (iphone : Bool) (flags : BitVec 32) (debug : Bool) (str : Buffer)
    (len : ℕ) : Option Buffer :=
  if ReachabilityAssertion len then
    let (str, op) :=
      if debug then snprintf str 0 len (hexText 8 flags.toNat ++ [' ', '('])
      else (setChar str 0 '\x00', 0)
    -- leave room for the closing paren
    let len := if debug then len - 1 else len
    let st : Writer 32 := ⟨str, op, flags⟩
    let st :=
      if st.remaining = 0 then appendGuarded len "Not Reachable,".toList st.remaining st else st
    let st := (reachabilityTable iphone).flags.foldl (appendName len) st
    let st := appendRemaining len op flags st
    some (if st.n > 0 then setChar st.str (st.n - 1) (if debug then ')' else '\x00') else st.str)
  else none

/-- `NWI_IFSTATE_FLAGS_MASK` -/
def nwiMask : BitVec 64 := 0xff

/-- The flags of `_nwi_ifstate_flags_str`, in its order. -/
def nwiTable : FlagTable where
  flags := [⟨0, "IPv4"⟩, ⟨1, "IPv6"⟩, ⟨2, "DNS"⟩, ⟨6, "CLAT46"⟩, ⟨3, "NOT-IN-LIST"⟩,
    ⟨4, "SIGNATURE"⟩, ⟨5, "NOT-IN-IFLIST"⟩]
  bits := by decide
  names := by decide
  plain := by decide

/-- The lengths that the assertion allows. -/
def NwiAssertion (len : ℕ) : Prop := len ≥ sizeof "(0x01234567)".toList

instance (len : ℕ) : Decidable (NwiAssertion len) := Nat.decLe _ _

/-- The flags that remain are added as a number, with a comma before it. -/
def nwiAppendRemaining (len : ℕ) (flags : BitVec 64) (st : Writer 64) : Writer 64 :=
  if st.remaining ≠ 0 then
    let st :=
      if st.n ≥ len ∨ len - st.n ≤ sizeof "0x01234567,".toList then
        let (str, n) := StringBuffer.strlcpy st.str ['('] len
        ⟨str, n, flags⟩
      else st
    let (str, printed) := snprintf st.str st.n (len - st.n) (',' :: hexText 0 st.remaining.toNat)
    { st with str := str, n := st.n + printed }
  else st

/-- `_nwi_ifstate_flags_str`; there is no result if the assertion fails. -/
def nwiIfstateFlagsStr (flags : BitVec 64) (str : Buffer) (len : ℕ) : Option Buffer :=
  if NwiAssertion len then
    let flags := flags &&& nwiMask
    if flags = 0 then some (setChar str 0 '\x00')
    else
      -- leave room for the closing paren
      let len := len - 1
      let (str, n) := StringBuffer.strlcpy str ['('] len
      let st := nwiTable.flags.foldl (appendName len) ⟨str, n, flags⟩
      let st := nwiAppendRemaining len flags st
      some (if st.n > 0 then setChar st.str (st.n - 1) ')' else st.str)
  else none

/-! ## The strings -/

/-- The string stands for reachability flags. -/
def ReachabilityText (iphone debug : Bool) (flags : BitVec 32) (s : List Char) : Prop :=
  ∃ items, (if flags = 0 then items = ["Not Reachable".toList]
      else Lists (reachabilityTable iphone) 8 flags items) ∧
    s = if debug then hexText 8 flags.toNat ++ [' ', '('] ++ [','].intercalate items ++ [')']
      else [','].intercalate items

/-- The string stands for the flags of an interface. -/
def NwiText (flags : BitVec 64) (s : List Char) : Prop :=
  if flags = 0 then s = []
  else ∃ items, Lists nwiTable 0 flags items ∧ s = ['('] ++ [','].intercalate items ++ [')']

/-- The buffer of the length holds a string that stands for the word and for no other, and nothing
is written behind the buffer. -/
structure Denotes {α : Type} (text : α → List Char → Prop) (word : α) (len : ℕ)
    (str str' : Buffer) : Prop where
  string : ∃ s, Holds str' s ∧ '\x00' ∉ s ∧ s.length < len ∧ text word s ∧
    ∀ other, text other s → other = word
  frame : ∀ i ≥ len, str' i = str i

/-! ## Adding names -/

section

variable {w len : ℕ} {text : List Char} {st st' : Writer w} {fs named : List Flag} {f : Flag}

/-- What the names that were added have done. -/
structure Appended (len : ℕ) (text : List Char) (st st' : Writer w) (named : List Flag) : Prop where
  holds : Holds st'.str (text ++ commaEnded (named.map fun f => f.name.toList))
  n : st'.n = (text ++ commaEnded (named.map fun f => f.name.toList)).length
  remaining : st'.remaining = clear st.remaining named
  frame : ∀ i ≥ len, st'.str i = st.str i

/-- A string that is added. -/
theorem appendGuarded_of_lt (st : Writer w) (h : Holds st.str text) (hnul : '\x00' ∉ text)
    (hn : st.n = text.length) {s : List Char} (hlt : st.n + s.length + 1 < len)
    (remaining : BitVec w) :
    appendGuarded len s remaining st =
      ⟨put st.str text.length s, text.length + s.length, remaining⟩ := by
  rw [appendGuarded, if_pos ⟨by omega, by rw [sizeof]; omega⟩, h.strlcat hnul (by omega)]

/-- A string for which there is no room. -/
theorem appendGuarded_of_not_lt (st : Writer w) {s : List Char} (hlt : ¬ st.n + s.length + 1 < len)
    (remaining : BitVec w) : appendGuarded len s remaining st = st := by
  rw [appendGuarded, if_neg fun h => hlt (by rw [sizeof] at h; omega)]

/-- **The names that fit are added.** -/
theorem foldl_appendName (len : ℕ) (st : Writer w) (h : Holds st.str text)
    (hnul : '\x00' ∉ text) (hn : st.n = text.length) (hplain : ∀ f ∈ fs, f.Plain) :
    Appended len text st (fs.foldl (appendName len) st) (fitting len st.n st.remaining fs) := by
  induction fs generalizing st text with
  | nil =>
    refine ⟨?_, ?_, rfl, fun _ _ => rfl⟩
    · rwa [fitting, List.map_nil, commaEnded, List.flatMap_nil, List.append_nil]
    · rwa [fitting, List.map_nil, commaEnded, List.flatMap_nil, List.append_nil]
  | cons f fs ih =>
    obtain ⟨hf, hfs⟩ := List.forall_mem_cons.mp hplain
    have hlength : (f.name.toList ++ [',']).length = f.name.toList.length + 1 := by
      rw [List.length_append, List.length_singleton]
    rw [List.foldl_cons, fitting]
    by_cases hset : st.remaining.getLsbD f.bit = true
    · rw [appendName, if_pos ((and_twoPow_ne_zero_iff _ _).mpr hset)]
      by_cases hlt : st.n + f.name.toList.length + 2 < len
      · rw [if_pos ⟨hset, hlt⟩, appendGuarded_of_lt st h hnul hn (by omega)]
        have hnul' : '\x00' ∉ text ++ (f.name.toList ++ [',']) := by
          rw [List.mem_append, List.mem_append]
          rintro (hmem | hmem | hmem)
          · exact hnul hmem
          · exact hf.nul hmem
          · revert hmem
            decide
        have hrest := ih
          ⟨put st.str text.length (f.name.toList ++ [',']),
            text.length + (f.name.toList ++ [',']).length,
            st.remaining &&& ~~~BitVec.twoPow w f.bit⟩
          (h.put _) hnul' List.length_append.symm hfs
        have htext : ∀ names, text ++ (f.name.toList ++ [',']) ++ commaEnded names =
            text ++ commaEnded (f.name.toList :: names) := fun names => by
          rw [commaEnded_cons, List.append_assoc, List.append_assoc]
          rfl
        have hnext : text.length + (f.name.toList ++ [',']).length =
            st.n + f.name.toList.length + 1 := by omega
        obtain ⟨hholds, hlen, hremaining, hframe⟩ := hrest
        rw [htext] at hholds hlen
        simp only [hnext] at hholds hlen hremaining hframe ⊢
        refine ⟨hholds, hlen, hremaining, fun i hi => (hframe i hi).trans ?_⟩
        exact put_of_lt (by omega)
      · rw [if_neg fun hc => hlt hc.2, appendGuarded_of_not_lt st (by omega)]
        exact ih st h hnul hn hfs
    · rw [appendName, if_neg fun hc => hset ((and_twoPow_ne_zero_iff _ _).mp hc),
        if_neg fun hc => hset hc.1]
      exact ih st h hnul hn hfs

end

/-! ## Reachability flags -/

section

variable {len : ℕ} {pre : List Char} {flags : BitVec 32} {str : Buffer} {st : Writer 32}
  {T : FlagTable}

theorem length_hexText_eight (flags : BitVec 32) : (hexText 8 flags.toNat).length = 10 :=
  length_hexText (by decide) (lt_of_lt_of_eq flags.isLt (by decide))

/-- A number that is printed at the end. -/
theorem snprintf_hexText (flags : BitVec 32) {n : ℕ} (hroom : n + 12 ≤ len) :
    snprintf str n (len - n) (hexText 8 flags.toNat ++ [',']) =
      (put str n (hexText 8 flags.toNat ++ [',']), 11) := by
  have hlength : (hexText 8 flags.toNat ++ [',']).length = 11 := by
    rw [List.length_append, length_hexText_eight, List.length_singleton]
  rw [snprintf_of_lt (by omega), hlength]

/-- What is in the buffer before the last comma is overwritten. -/
structure Listed (T : FlagTable) (len : ℕ) (pre : List Char) (flags : BitVec 32)
    (st st' : Writer 32) (items : List (List Char)) : Prop where
  lists : Lists T 8 flags items
  holds : Holds st'.str (pre ++ commaEnded items)
  n : st'.n = (pre ++ commaEnded items).length
  lt : st'.n < len
  frame : ∀ i ≥ len, st'.str i = st.str i

/-- After a text, a number is printed and a comma. -/
theorem listed_put {text : List Char} {items : List (List Char)} {remaining : BitVec 32}
    (hlists : Lists T 8 flags (items ++ [hexText 8 remaining.toNat]))
    (htext : text = pre ++ commaEnded items) (hholds : Holds str text)
    (hroom : text.length + 12 ≤ len) (hframe : ∀ i ≥ len, str i = st.str i) :
    Listed T len pre flags st
      ⟨put str text.length (hexText 8 remaining.toNat ++ [',']), text.length + 11, remaining⟩
      (items ++ [hexText 8 remaining.toNat]) := by
  have heq : pre ++ commaEnded (items ++ [hexText 8 remaining.toNat]) =
      text ++ (hexText 8 remaining.toNat ++ [',']) := by
    rw [htext, commaEnded_append, commaEnded_cons, List.append_assoc]
    rfl
  have hlength : (hexText 8 remaining.toNat ++ [',']).length = 11 := by
    rw [List.length_append, length_hexText_eight, List.length_singleton]
  refine ⟨hlists, ?_, ?_, ?_, fun i hi => ?_⟩
  · rw [heq]
    exact hholds.put _
  · rw [heq, List.length_append, hlength]
  · exact Nat.lt_of_lt_of_le (Nat.add_lt_add_left (by decide) _) hroom
  · exact (put_of_lt (by omega)).trans (hframe i hi)

/-- **Names and a number.** The names that fit are added, and the flags that remain as a number. -/
theorem exists_listed (st : Writer 32) (hholds : Holds st.str pre) (hnul : '\x00' ∉ pre)
    (hn : st.n = pre.length) (hremaining : st.remaining = flags) (hroom : pre.length + 12 ≤ len) :
    ∃ items, Listed T len pre flags st
      (appendRemaining len pre.length flags (T.flags.foldl (appendName len) st)) items := by
  obtain ⟨hholds', hn', hremaining', hframe'⟩ := foldl_appendName len st hholds hnul hn T.plain
  have hfits : pre.length + listWidth (fitting len st.n st.remaining T.flags) + 1 < len := by
    rw [← hn]
    exact fitting_fits _ _ (by omega)
  have hsub := fitting_sublist len st.n st.remaining T.flags
  have hset : ∀ f ∈ fitting len st.n st.remaining T.flags, flags.getLsbD f.bit = true :=
    fun f hf => hremaining ▸ getLsbD_of_mem_fitting hf
  generalize fitting len st.n st.remaining T.flags = named at *
  generalize T.flags.foldl (appendName len) st = st' at *
  rw [hremaining] at hremaining'
  have hlists : Lists T 8 flags (itemsOf 8 named (clear flags named)) := ⟨named, hsub, hset, rfl⟩
  rw [itemsOf] at hlists
  rw [appendRemaining]
  by_cases hrest : clear flags named = 0
  · rw [if_neg fun hne => hne (hremaining'.trans hrest)]
    rw [if_pos hrest, List.append_nil] at hlists
    refine ⟨_, hlists, hholds', hn', ?_, hframe'⟩
    rw [hn', List.length_append, length_commaEnded]
    omega
  · rw [if_pos fun heq => hrest (hremaining'.symm.trans heq)]
    rw [if_neg hrest] at hlists
    by_cases hlong : st'.n ≥ len ∨ len - st'.n ≤ sizeof "0x01234567,".toList
    · -- the names are given up
      have hlists' : Lists T 8 flags ([] ++ [hexText 8 flags.toNat]) := by
        refine ⟨[], List.nil_sublist _, fun f hf => absurd hf List.not_mem_nil, ?_⟩
        have hne : flags ≠ 0 := fun hzero => hrest (by
          refine BitVec.eq_of_getLsbD_eq fun i _ => ?_
          rw [getLsbD_clear, hzero]
          simp)
        rw [itemsOf, clear, List.foldl_nil, if_neg hne, List.map_nil]
      simp only [if_pos hlong, snprintf_hexText flags hroom]
      refine ⟨_, listed_put hlists' (List.append_nil pre).symm hholds'.truncate hroom
        fun i hi => ?_⟩
      have hne : i ≠ pre.length := by omega
      rw [setChar, Function.update_of_ne hne, hframe' i hi]
    · have hroom' : st'.n + 12 ≤ len := by
        have hsize : sizeof "0x01234567,".toList = 12 := by decide
        omega
      simp only [if_neg hlong, snprintf_hexText _ hroom']
      rw [hremaining'] at *
      rw [hn'] at hroom' ⊢
      exact ⟨_, listed_put hlists rfl hholds' hroom' hframe'⟩

/-- What is written before the names. -/
def opening (debug : Bool) (flags : BitVec 32) : List Char :=
  if debug then hexText 8 flags.toNat ++ [' ', '('] else []

/-- What is written after the names. -/
def closing (debug : Bool) : List Char := if debug then [')'] else []

theorem reachabilityText_iff {iphone debug : Bool} {s : List Char} :
    ReachabilityText iphone debug flags s ↔
      ∃ items, (if flags = 0 then items = ["Not Reachable".toList]
        else Lists (reachabilityTable iphone) 8 flags items) ∧
        s = opening debug flags ++ [','].intercalate items ++ closing debug := by
  cases debug with
  | false => simp only [ReachabilityText, opening, closing, Bool.false_eq_true, if_false,
      List.nil_append, List.append_nil]
  | true => simp only [ReachabilityText, opening, closing, if_true]

/-- The items for reachability flags. -/
theorem plain_of_reachability {iphone : Bool} {items : List (List Char)}
    (h : if flags = 0 then items = ["Not Reachable".toList]
      else Lists (reachabilityTable iphone) 8 flags items) :
    items ≠ [] ∧ ∀ item ∈ items, PlainItem item := by
  split at h
  next =>
    subst h
    refine ⟨List.cons_ne_nil _ _, fun item hitem => ?_⟩
    rw [List.mem_singleton.mp hitem]
    exact ⟨by decide, by decide, by decide⟩
  next hne => exact ⟨h.ne_nil hne, h.plain⟩

/-- A list for flags that are not zero does not read as that for zero. -/
theorem not_lists_notReachable {iphone : Bool} (hne : flags ≠ 0) :
    ¬ Lists (reachabilityTable iphone) 8 flags ["Not Reachable".toList] := by
  intro h
  refine hne (BitVec.eq_of_getLsbD_eq fun i _ => ?_)
  rw [BitVec.ofNat_eq_ofNat, BitVec.getLsbD_zero, ← Bool.not_eq_true, h.getLsbD_iff]
  rintro (⟨f, hf, hname, -⟩ | ⟨v, hv, -⟩)
  · have hnames : ∀ f ∈ (reachabilityTable iphone).flags,
        f.name.toList ≠ "Not Reachable".toList := by
      cases iphone <;> decide
    exact hnames f hf (List.mem_singleton.mp hname)
  · have hhead : some '0' = "Not Reachable".toList.head? :=
      congrArg List.head? (List.mem_singleton.mp hv)
    revert hhead
    decide

/-- A string stands for one word only. -/
theorem ReachabilityText.unique {iphone debug : Bool} {flags' : BitVec 32} {s : List Char}
    (h : ReachabilityText iphone debug flags s) (h' : ReachabilityText iphone debug flags' s) :
    flags' = flags := by
  obtain ⟨items, hitems, rfl⟩ := reachabilityText_iff.mp h
  obtain ⟨items', hitems', heq⟩ := reachabilityText_iff.mp h'
  cases debug with
  | true =>
    -- the number at the start
    simp only [opening, if_true, List.append_assoc] at heq
    have hhex := (List.append_inj heq
      ((length_hexText_eight flags).trans (length_hexText_eight flags').symm)).1
    exact (BitVec.eq_of_toNat_eq (hexText_injective 8 hhex)).symm
  | false =>
    simp only [opening, closing, Bool.false_eq_true, if_false, List.nil_append,
      List.append_nil] at heq
    obtain ⟨hne, hplain⟩ := plain_of_reachability hitems
    obtain ⟨hne', hplain'⟩ := plain_of_reachability hitems'
    obtain rfl := eq_of_intercalate_eq hne hne' (fun item h => (hplain item h).comma)
      (fun item h => (hplain' item h).comma) heq
    split at hitems
    next hzero =>
      subst hitems
      split at hitems'
      next hzero' => rw [hzero, hzero']
      next hflags' => exact absurd hitems' (not_lists_notReachable hflags')
    next hflags =>
      split at hitems'
      next hzero' =>
        subst hitems'
        exact absurd hitems (not_lists_notReachable hflags)
      next => exact hitems'.unique hitems

theorem nul_notMem_opening (debug : Bool) (flags : BitVec 32) : '\x00' ∉ opening debug flags := by
  cases debug with
  | false => exact List.not_mem_nil
  | true =>
    rw [opening, if_pos rfl, List.mem_append]
    rintro (h | h)
    · exact (plainItem_hexText 8 flags.toNat).nul h
    · revert h
      decide

/-- The last comma is overwritten. -/
theorem holds_closed {items : List (List Char)} (hne : items ≠ [])
    (hholds : Holds st.str (pre ++ commaEnded items))
    (hn : st.n = (pre ++ commaEnded items).length) (debug : Bool) :
    Holds (if st.n > 0 then setChar st.str (st.n - 1) (if debug then ')' else '\x00') else st.str)
      (pre ++ [','].intercalate items ++ closing debug) := by
  rw [commaEnded_eq hne, ← List.append_assoc] at hholds hn
  rw [List.length_append, List.length_singleton] at hn
  rw [if_pos (by omega), hn, Nat.add_sub_cancel]
  cases debug with
  | true => exact hholds.setLast ')'
  | false =>
    have hclosing : closing false = [] := rfl
    rw [hclosing, List.append_nil]
    exact hholds.truncate

/-- Items that are closed stand for their flags. -/
theorem denotes_of_items {iphone debug : Bool} {items : List (List Char)}
    (hitems : if flags = 0 then items = ["Not Reachable".toList]
      else Lists (reachabilityTable iphone) 8 flags items)
    (hholds : Holds st.str (opening debug flags ++ commaEnded items))
    (hn : st.n = (opening debug flags ++ commaEnded items).length)
    (hlt : st.n < if debug then len - 1 else len)
    (hframe : ∀ i ≥ len, st.str i = str i) :
    Denotes (ReachabilityText iphone debug) flags len str
      (if st.n > 0 then setChar st.str (st.n - 1) (if debug then ')' else '\x00') else st.str) := by
  obtain ⟨hne, hplain⟩ := plain_of_reachability hitems
  have htext : ReachabilityText iphone debug flags
      (opening debug flags ++ [','].intercalate items ++ closing debug) :=
    reachabilityText_iff.mpr ⟨items, hitems, rfl⟩
  have hlast := commaEnded_eq hne
  have hnul : '\x00' ∉ opening debug flags ++ [','].intercalate items ++ closing debug := by
    have hcomma := nul_notMem_commaEnded hplain
    rw [hlast, List.mem_append, not_or] at hcomma
    rw [List.mem_append, List.mem_append]
    rintro ((h | h) | h)
    · exact nul_notMem_opening debug flags h
    · exact hcomma.1 h
    · cases debug <;> revert h <;> decide
  have hlength :
      (opening debug flags ++ [','].intercalate items ++ closing debug).length < len := by
    rw [hlast] at hn
    rw [List.length_append, List.length_append] at hn ⊢
    rw [List.length_singleton] at hn
    cases debug with
    | false =>
      simp only [Bool.false_eq_true, if_false] at hlt
      simp only [closing, Bool.false_eq_true, if_false, List.length_nil]
      omega
    | true =>
      simp only [if_true] at hlt
      simp only [closing, if_true, List.length_singleton]
      omega
  refine ⟨⟨_, holds_closed hne hholds hn debug, hnul, hlength, htext,
    fun other h => htext.unique h⟩, fun i hi => ?_⟩
  have hlt' : st.n ≤ len := by
    cases debug with
    | false => exact hlt.le
    | true => exact hlt.le.trans (Nat.sub_le len 1)
  split
  next hpos =>
    rw [setChar, Function.update_of_ne (by omega), hframe i hi]
  next => exact hframe i hi

/-- The start of the string. -/
theorem holds_opening (debug : Bool) (flags : BitVec 32) (str : Buffer) (hlen : 27 ≤ len) :
    ∃ str', (if debug then snprintf str 0 len (hexText 8 flags.toNat ++ [' ', '('])
        else (setChar str 0 '\x00', 0)) = (str', (opening debug flags).length) ∧
      Holds str' (opening debug flags) ∧ ∀ i ≥ len, str' i = str i := by
  cases debug with
  | false =>
    refine ⟨_, rfl, holds_setChar_zero str, fun i hi => ?_⟩
    exact Function.update_of_ne (by omega) _ _
  | true =>
    have hlength : (hexText 8 flags.toNat ++ [' ', '(']).length = 12 := by
      rw [List.length_append, length_hexText_eight]
      rfl
    refine ⟨_, ?_, holds_put_zero str _, fun i hi => put_of_lt ?_⟩
    · rw [if_pos rfl, snprintf_of_lt (by omega)]
      rfl
    · rw [opening, if_pos rfl]
      omega

theorem length_opening (debug : Bool) (flags : BitVec 32) :
    (opening debug flags).length = if debug then 12 else 0 := by
  cases debug with
  | false => rfl
  | true =>
    rw [opening, if_pos rfl, List.length_append, length_hexText_eight]
    rfl

/-- Without flags, nothing is added. -/
theorem appended_zero {text : List Char} (len op : ℕ) (st : Writer 32) (hholds : Holds st.str text)
    (hnul : '\x00' ∉ text) (hn : st.n = text.length) (hzero : st.remaining = 0) :
    ∃ st', appendRemaining len op 0 (T.flags.foldl (appendName len) st) = st' ∧
      Holds st'.str text ∧ st'.n = text.length ∧ ∀ i ≥ len, st'.str i = st.str i := by
  obtain ⟨hholds', hn', hremaining', hframe'⟩ := foldl_appendName len st hholds hnul hn T.plain
  rw [hzero, fitting_zero] at hholds' hn' hremaining'
  rw [List.map_nil, commaEnded, List.flatMap_nil, List.append_nil] at hholds' hn'
  refine ⟨_, ?_, hholds', hn', hframe'⟩
  rw [appendRemaining, if_neg fun hne => hne hremaining']

/-- The string for no flags is the claimed one, unless there is no room for it. -/
theorem reachability_zero_iff {iphone debug : Bool} {op : ℕ} {str' : Buffer}
    (hassert : 27 ≤ len) (hholds : Holds str' (opening debug 0))
    (hop : op = (opening debug 0).length) (hframe : ∀ i ≥ len, str' i = str i) :
    Denotes (ReachabilityText iphone debug) 0 len str
      (let len' := if debug then len - 1 else len
      let st := appendRemaining len' op 0 ((reachabilityTable iphone).flags.foldl (appendName len')
        (appendGuarded len' "Not Reachable,".toList 0 ⟨str', op, 0⟩))
      if st.n > 0 then setChar st.str (st.n - 1) (if debug then ')' else '\x00') else st.str) ↔
      ¬ (debug = true ∧ len ≤ 28) := by
  have hlength := length_opening debug 0
  have hfourteen : "Not Reachable,".toList.length = 14 := by decide
  have hnul := nul_notMem_opening debug 0
  by_cases hlt : op + 14 + 1 < if debug then len - 1 else len
  · have hadded := appendGuarded_of_lt ⟨str', op, (0 : BitVec 32)⟩
      (s := "Not Reachable,".toList) hholds hnul hop (by rwa [hfourteen]) 0
    have htext : opening debug 0 ++ commaEnded ["Not Reachable".toList] =
        opening debug 0 ++ "Not Reachable,".toList := rfl
    have hnul' : '\x00' ∉ opening debug 0 ++ commaEnded ["Not Reachable".toList] := by
      rw [List.mem_append, not_or]
      exact ⟨hnul, by decide⟩
    obtain ⟨st', hst', hholds', hn', hframe'⟩ := appended_zero (T := reachabilityTable iphone)
      (if debug then len - 1 else len) op ⟨put str' (opening debug 0).length
        "Not Reachable,".toList, (opening debug 0).length + "Not Reachable,".toList.length, 0⟩
      (htext ▸ hholds.put "Not Reachable,".toList) hnul' (by rw [htext, List.length_append]) rfl
    simp only [hadded, hst']
    have hitems : if (0 : BitVec 32) = 0 then ["Not Reachable".toList] = ["Not Reachable".toList]
        else Lists (reachabilityTable iphone) 8 (0 : BitVec 32) ["Not Reachable".toList] := by
      rw [if_pos rfl]
    refine iff_of_true (denotes_of_items hitems hholds' hn' ?_ fun i hi => ?_) ?_
    · rw [hn', htext, List.length_append, hfourteen]
      omega
    · have hle : (if debug then len - 1 else len) ≤ len := by cases debug <;> simp
      have hput : put str' (opening debug 0).length "Not Reachable,".toList i = str' i :=
        put_of_lt (by omega)
      exact (hframe' i (hle.trans hi)).trans (hput.trans (hframe i hi))
    · rintro ⟨rfl, hle⟩
      simp only [if_true] at hlt hlength
      omega
  · -- the opening parenthesis is overwritten
    have hdebug : debug = true ∧ len ≤ 28 := by
      cases debug with
      | false => simp only [Bool.false_eq_true, if_false] at hlt hlength; omega
      | true => simp only [if_true] at hlt hlength; exact ⟨rfl, by omega⟩
    obtain ⟨rfl, hle⟩ := hdebug
    have hadded := appendGuarded_of_not_lt ⟨str', op, (0 : BitVec 32)⟩
      (s := "Not Reachable,".toList) (by rwa [hfourteen]) 0
    obtain ⟨st', hst', hholds', hn', -⟩ := appended_zero (T := reachabilityTable iphone)
      (len - 1) op ⟨str', op, 0⟩ hholds hnul hop rfl
    simp only [if_true] at hadded ⊢
    simp only [hadded, hst']
    refine iff_of_false (fun h => ?_) fun h => h ⟨trivial, hle⟩
    obtain ⟨s, hs, hsnul, -, htext, -⟩ := h.string
    have hparts : opening true 0 = hexText 8 0 ++ [' '] ++ ['('] := rfl
    rw [hparts] at hholds' hn'
    rw [List.length_append, List.length_singleton] at hn'
    rw [if_pos (by omega), hn', Nat.add_sub_cancel] at hs
    have hnul' : '\x00' ∉ hexText 8 0 ++ [' '] ++ [')'] := by decide
    obtain rfl := hs.unique (hholds'.setLast ')') hsnul hnul'
    obtain ⟨items, -, heq⟩ := reachabilityText_iff.mp htext
    rw [hparts, List.append_assoc, List.append_assoc, List.append_assoc] at heq
    have hparen := List.append_cancel_left heq
    cases hparen

theorem le_of_reachabilityAssertion (h : ReachabilityAssertion len) : 27 ≤ len := by
  have hsize : sizeof "0x01234567 (Not Reachable)".toList = 27 := by decide
  rw [← hsize]
  exact h.2.1

/-- The string for reachability flags is the claimed one, unless there are no flags and the buffer
is too short for the words for this behind the number. -/
theorem reachability_denotes_iff (iphone debug : Bool) (flags : BitVec 32) (str : Buffer)
    (hassert : ReachabilityAssertion len) :
    (∃ str', reachabilityFlagsString iphone flags debug str len = some str' ∧
      Denotes (ReachabilityText iphone debug) flags len str str') ↔
      ¬ (flags = 0 ∧ debug = true ∧ len ≤ 28) := by
  have hlen := le_of_reachabilityAssertion hassert
  obtain ⟨str', hstart, hholds, hframe⟩ := holds_opening debug flags str hlen
  rw [reachabilityFlagsString, if_pos hassert, hstart]
  simp only [Option.some.injEq, exists_eq_left']
  by_cases hzero : flags = 0
  · subst hzero
    rw [if_pos rfl]
    refine (reachability_zero_iff hlen hholds rfl hframe).trans ?_
    simp
  · rw [if_neg hzero]
    refine iff_of_true ?_ fun h => hzero h.1
    have hroom : (opening debug flags).length + 12 ≤ if debug then len - 1 else len := by
      rw [length_opening]
      cases debug with
      | false => simp only [Bool.false_eq_true, if_false]; omega
      | true => simp only [if_true]; omega
    obtain ⟨items, hlisted⟩ := exists_listed (T := reachabilityTable iphone)
      ⟨str', (opening debug flags).length, flags⟩ hholds (nul_notMem_opening debug flags)
      rfl rfl hroom
    have hle : (if debug then len - 1 else len) ≤ len := by cases debug <;> simp
    refine denotes_of_items (if_neg hzero ▸ hlisted.lists) hlisted.holds hlisted.n hlisted.lt
      fun i hi => ?_
    exact (hlisted.frame i (hle.trans hi)).trans (hframe i hi)

end

/-! ## Flags of an interface -/

section

variable {len : ℕ} {flags : BitVec 64} {str : Buffer} {st : Writer 64}

/-- A string stands for one word only. -/
theorem NwiText.unique {flags' : BitVec 64} {s : List Char} (h : NwiText flags s)
    (h' : NwiText flags' s) : flags' = flags := by
  rw [NwiText] at h h'
  split at h
  next hzero =>
    split at h'
    next hzero' => rw [hzero, hzero']
    next =>
      obtain ⟨items, -, rfl⟩ := h'
      cases h
  next hne =>
    obtain ⟨items, hitems, rfl⟩ := h
    split at h'
    next => cases h'
    next hne' =>
      obtain ⟨items', hitems', heq⟩ := h'
      rw [List.append_assoc, List.append_assoc] at heq
      have hlists := List.append_cancel_right (List.append_cancel_left heq)
      obtain rfl := eq_of_intercalate_eq (hitems.ne_nil hne) (hitems'.ne_nil hne')
        (fun item h => (hitems.plain item h).comma) (fun item h => (hitems'.plain item h).comma)
        hlists
      exact hitems'.unique hitems

/-- The flags are all named, and there is room for the names, a parenthesis on each side, and one
more character with the NUL. -/
def NamesFit (flags : BitVec 64) (len : ℕ) : Prop :=
  (∀ i, flags.getLsbD i = true → ∃ f ∈ nwiTable.flags, f.bit = i) ∧
    listWidth (nwiTable.flags.filter fun f => flags.getLsbD f.bit) + 4 ≤ len

/-- Nothing remains if and only if the names fit. -/
theorem clear_fitting_eq_zero_iff (hlen : 13 ≤ len) :
    clear flags (fitting (len - 1) 1 flags nwiTable.flags) = 0 ↔ NamesFit flags len := by
  constructor
  · intro hzero
    have hnamed : ∀ i, flags.getLsbD i = true →
        ∃ f ∈ fitting (len - 1) 1 flags nwiTable.flags, f.bit = i := by
      intro i hi
      have hbit := congrArg (BitVec.getLsbD · i) hzero
      simp only [getLsbD_clear, hi, Bool.true_and, BitVec.ofNat_eq_ofNat,
        BitVec.getLsbD_zero] at hbit
      simpa using hbit
    have hsub := fitting_sublist (len - 1) 1 flags nwiTable.flags
    refine ⟨fun i hi => ?_, ?_⟩
    · obtain ⟨f, hf, hbit⟩ := hnamed i hi
      exact ⟨f, hsub.subset hf, hbit⟩
    · -- the flags that are set are those that were named
      have hsub' := hsub.filter fun f => flags.getLsbD f.bit
      rw [List.filter_eq_self.mpr fun f hf => getLsbD_of_mem_fitting hf] at hsub'
      have hsubset : (nwiTable.flags.filter fun f => flags.getLsbD f.bit) ⊆
          fitting (len - 1) 1 flags nwiTable.flags := by
        intro f hf
        obtain ⟨hmem, hset⟩ := List.mem_filter.mp hf
        obtain ⟨g, hg, hbit⟩ := hnamed f.bit hset
        rwa [List.inj_on_of_nodup_map nwiTable.bits (hsub.subset hg) hmem hbit] at hg
      have hnodup := (List.Nodup.of_map _ nwiTable.bits).filter fun f => flags.getLsbD f.bit
      rw [← hsub'.eq_of_length_le (hnodup.subperm hsubset).length_le]
      have hroom : 1 + 1 < len - 1 := by omega
      have hfits := fitting_fits flags nwiTable.flags hroom
      omega
  · rintro ⟨hnamed, hroom⟩
    rw [fitting_eq_filter nwiTable.bits (by omega)]
    refine BitVec.eq_of_getLsbD_eq fun i _ => ?_
    rw [getLsbD_clear, BitVec.ofNat_eq_ofNat, BitVec.getLsbD_zero]
    by_cases hi : flags.getLsbD i = true
    · obtain ⟨f, hf, rfl⟩ := hnamed i hi
      have hmem : f ∈ nwiTable.flags.filter fun f => flags.getLsbD f.bit :=
        List.mem_filter.mpr ⟨hf, hi⟩
      rw [Bool.and_eq_false_iff, List.all_eq_false]
      exact .inr ⟨f, hmem, by simp⟩
    · rw [Bool.eq_false_iff.mpr hi, Bool.false_and]

/-- The masked flags print as at most two digits. -/
theorem length_hexText_clear (flags : BitVec 64) (named : List Flag) :
    (hexText 0 (clear (flags &&& nwiMask) named).toNat).length ≤ 4 := by
  have hmask : clear (flags &&& nwiMask) named = clear (flags &&& nwiMask) named &&& nwiMask := by
    refine BitVec.eq_of_getLsbD_eq fun i _ => ?_
    rw [BitVec.getLsbD_and, getLsbD_clear, BitVec.getLsbD_and]
    cases nwiMask.getLsbD i <;> simp
  have hle : (clear (flags &&& nwiMask) named).toNat ≤ 255 := by
    rw [hmask, BitVec.toNat_and]
    exact Nat.and_le_right
  have hdigits := (Nat.length_toDigits_le_iff (b := 16) (by decide) (by decide : 0 < 2)).mpr
    (Nat.lt_of_le_of_lt hle (by decide))
  rw [hexText, Nat.zero_sub, List.replicate_zero, List.nil_append, List.length_cons,
    List.length_cons]
  omega

/-- With a number behind a comma, the last digit is overwritten, and the string has an item that is
empty. -/
theorem not_denotes_of_number {names : List (List Char)} {v : ℕ} {text : List Char}
    (hflags : flags ≠ 0) (hnames : ∀ item ∈ names, PlainItem item)
    (htext : text = ['('] ++ commaEnded names) (hholds : Holds str text) (str₀ : Buffer) :
    ¬ Denotes NwiText flags len str₀ (setChar (put str text.length (',' :: hexText 0 v))
      (text.length + (',' :: hexText 0 v).length - 1) ')') := by
  intro h
  obtain ⟨digits, last, hhex⟩ : ∃ digits last, hexText 0 v = digits ++ [last] := by
    obtain ⟨digits, last, hhex⟩ :=
      (List.eq_nil_or_concat (hexText 0 v)).resolve_left (List.cons_ne_nil _ _)
    exact ⟨digits, last, hhex.trans List.concat_eq_append⟩
  have hplain := plainItem_hexText 0 v
  rw [hhex] at hplain h
  have hput := hholds.put (',' :: (digits ++ [last]))
  have hsplit : text ++ ',' :: (digits ++ [last]) = text ++ ',' :: digits ++ [last] := by
    rw [List.append_assoc]
    rfl
  have hplace : text.length + (',' :: (digits ++ [last])).length - 1 =
      (text ++ ',' :: digits).length := by
    simp only [List.length_cons, List.length_append, List.length_nil]
    omega
  rw [hsplit] at hput
  rw [hplace] at h
  have hnul : '\x00' ∉ text ++ ',' :: digits ++ [')'] := by
    simp only [htext, List.mem_append, List.mem_cons, List.not_mem_nil, or_false, not_or]
    refine ⟨⟨⟨by decide, nul_notMem_commaEnded hnames⟩, by decide, fun hmem => ?_⟩, by decide⟩
    exact hplain.nul (List.mem_append_left _ hmem)
  obtain ⟨s, hs, hsnul, -, hs', -⟩ := h.string
  obtain rfl := hs.unique (hput.setLast ')') hsnul hnul
  rw [NwiText, if_neg hflags] at hs'
  obtain ⟨items, hitems, heq⟩ := hs'
  -- between the two commas there is an empty item,
  have hlists : [','].intercalate (names ++ [[], digits]) = [','].intercalate items := by
    have hpair : [','].intercalate [[], digits] = ',' :: digits := by
      rw [List.intercalate_cons_cons, List.intercalate_singleton]
      rfl
    rw [intercalate_append names (List.cons_ne_nil _ _), hpair]
    rw [htext, List.append_assoc ['(']] at heq
    exact List.append_cancel_left (List.append_cancel_right heq)
  have hcomma : ∀ item ∈ names ++ [[], digits], ',' ∉ item := by
    intro item hitem
    rw [List.mem_append, List.mem_cons, List.mem_singleton] at hitem
    rcases hitem with hitem | rfl | rfl
    · exact (hnames item hitem).comma
    · exact List.not_mem_nil
    · exact fun hmem => hplain.comma (List.mem_append_left _ hmem)
  -- and no list of flags has one
  have hitems' := eq_of_intercalate_eq (List.append_ne_nil_of_right_ne_nil _ (List.cons_ne_nil _ _))
    (hitems.ne_nil hflags) hcomma (fun item h => (hitems.plain item h).comma) hlists
  refine (hitems.plain [] ?_).ne_nil rfl
  rw [← hitems']
  exact List.mem_append_right _ List.mem_cons_self

/-- The names in parentheses are the claimed string. -/
theorem denotes_of_names {named : List Flag} (hflags : flags ≠ 0)
    (hlists : Lists nwiTable 0 flags (named.map fun f => f.name.toList))
    (hholds : Holds st.str (['('] ++ commaEnded (named.map fun f => f.name.toList)))
    (hn : st.n = (['('] ++ commaEnded (named.map fun f => f.name.toList)).length)
    (hlt : st.n + 1 < len) (hframe : ∀ i ≥ len, st.str i = str i) :
    Denotes NwiText flags len str
      (if st.n > 0 then setChar st.str (st.n - 1) ')' else st.str) := by
  have hne := hlists.ne_nil hflags
  have hnames := nul_notMem_commaEnded hlists.plain
  generalize named.map (fun f => f.name.toList) = names at *
  have htext : NwiText flags (['('] ++ [','].intercalate names ++ [')']) := by
    rw [NwiText, if_neg hflags]
    exact ⟨names, hlists, rfl⟩
  rw [commaEnded_eq hne, ← List.append_assoc] at hholds hn
  rw [commaEnded_eq hne, List.mem_append, not_or] at hnames
  have hlength : (['('] ++ [','].intercalate names ++ [')']).length = st.n := by
    simp only [hn, List.length_append, List.length_singleton]
  have hlast : st.n = (['('] ++ [','].intercalate names).length + 1 := hn.trans List.length_append
  rw [if_pos (by omega), hlast, Nat.add_sub_cancel]
  refine ⟨⟨_, hholds.setLast ')', ?_, by omega, htext, fun other h => htext.unique h⟩,
    fun i hi => ?_⟩
  · rw [List.mem_append, List.mem_append]
    rintro ((h | h) | h)
    · revert h
      decide
    · exact hnames.1 h
    · revert h
      decide
  · rw [setChar, Function.update_of_ne (by omega), hframe i hi]

/-- The number behind a comma, after the names or in their place. -/
theorem nwiAppendRemaining_of_ne (len : ℕ) (flags : BitVec 64) {names : List (List Char)}
    (hne : st.remaining ≠ 0) (hlen : 12 ≤ len) (hnames : ∀ item ∈ names, PlainItem item)
    (hholds : Holds st.str (['('] ++ commaEnded names))
    (hn : st.n = (['('] ++ commaEnded names).length)
    (hremaining : (hexText 0 st.remaining.toNat).length ≤ 4)
    (hflags : (hexText 0 flags.toNat).length ≤ 4) :
    ∃ str' names' v remaining, (∀ item ∈ names', PlainItem item) ∧
      Holds str' (['('] ++ commaEnded names') ∧ nwiAppendRemaining len flags st =
        ⟨put str' (['('] ++ commaEnded names').length (',' :: hexText 0 v),
          (['('] ++ commaEnded names').length + (',' :: hexText 0 v).length, remaining⟩ := by
  rw [nwiAppendRemaining, if_pos hne]
  by_cases hlong : st.n ≥ len ∨ len - st.n ≤ sizeof "0x01234567,".toList
  · -- the names are given up
    have hcopy : StringBuffer.strlcpy st.str ['('] len = (put st.str 0 ['('], 1) :=
      snprintf_of_lt (by rw [List.length_singleton]; omega)
    simp only [if_pos hlong, hcopy]
    rw [snprintf_of_lt (by rw [List.length_cons]; omega)]
    exact ⟨_, [], _, _, fun _ h => absurd h List.not_mem_nil, holds_put_zero st.str ['('], rfl⟩
  · have hsize : sizeof "0x01234567,".toList = 12 := by decide
    simp only [if_neg hlong]
    rw [snprintf_of_lt (by rw [List.length_cons]; omega), hn]
    exact ⟨_, names, _, _, hnames, hholds, rfl⟩

/-- The string for the flags of an interface is the claimed one if and only if the names fit. -/
theorem nwi_denotes_iff (flags : BitVec 64) (str : Buffer) (hassert : NwiAssertion len) :
    (∃ str', nwiIfstateFlagsStr flags str len = some str' ∧
      Denotes NwiText (flags &&& nwiMask) len str str') ↔ NamesFit (flags &&& nwiMask) len := by
  have hlen : 13 ≤ len := hassert
  rw [nwiIfstateFlagsStr, if_pos hassert]
  by_cases hzero : flags &&& nwiMask = 0
  · -- the empty string
    have hfit : NamesFit 0 len := by
      refine ⟨fun i hi => ?_, hlen.trans' (by decide)⟩
      rw [BitVec.ofNat_eq_ofNat, BitVec.getLsbD_zero] at hi
      cases hi
    have htext : NwiText 0 [] := by rw [NwiText, if_pos rfl]
    rw [hzero]
    refine iff_of_true ⟨_, if_pos rfl, ?_⟩ hfit
    refine ⟨⟨[], holds_setChar_zero str, List.not_mem_nil, by rw [List.length_nil]; omega, htext,
      fun other h => htext.unique h⟩, fun i hi => ?_⟩
    exact Function.update_of_ne (by omega) _ _
  · have hcopy : StringBuffer.strlcpy str ['('] (len - 1) = (put str 0 ['('], 1) :=
      snprintf_of_lt (by rw [List.length_singleton]; omega)
    simp only [if_neg hzero, hcopy, Option.some.injEq, exists_eq_left']
    have hholds := holds_put_zero str ['(']
    obtain ⟨hholds', hn', hremaining', hframe'⟩ := foldl_appendName (len - 1)
      ⟨put str 0 ['('], 1, flags &&& nwiMask⟩ hholds (by decide) rfl nwiTable.plain
    have hsub := fitting_sublist (len - 1) 1 (flags &&& nwiMask) nwiTable.flags
    have hset : ∀ f ∈ fitting (len - 1) 1 (flags &&& nwiMask) nwiTable.flags,
        (flags &&& nwiMask).getLsbD f.bit = true := fun f hf => getLsbD_of_mem_fitting hf
    have hroom : 1 + 1 < len - 1 := by omega
    have hfits := fitting_fits (flags &&& nwiMask) nwiTable.flags hroom
    rw [← clear_fitting_eq_zero_iff hlen]
    simp only at hholds' hn' hremaining' hframe'
    generalize fitting (len - 1) 1 (flags &&& nwiMask) nwiTable.flags = named at *
    generalize nwiTable.flags.foldl (appendName (len - 1)) _ = st at *
    by_cases hrest : clear (flags &&& nwiMask) named = 0
    · have hst : nwiAppendRemaining (len - 1) (flags &&& nwiMask) st = st := by
        rw [nwiAppendRemaining, if_neg fun hne => hne (hremaining'.trans hrest)]
      have hlists : Lists nwiTable 0 (flags &&& nwiMask) (named.map fun f => f.name.toList) := by
        refine ⟨named, hsub, hset, ?_⟩
        rw [itemsOf, if_pos hrest, List.append_nil]
      rw [hst]
      refine iff_of_true (denotes_of_names hzero hlists hholds' hn' ?_ fun i hi => ?_) hrest
      · rw [hn', List.length_append, length_commaEnded, List.length_singleton]
        omega
      · rw [hframe' i (by omega)]
        exact put_of_lt (by rw [List.length_singleton]; omega)
    · have hnames : ∀ item ∈ named.map (fun f => f.name.toList), PlainItem item := by
        intro item hitem
        obtain ⟨f, hf, rfl⟩ := List.mem_map.mp hitem
        have hplain := nwiTable.plain f (hsub.subset hf)
        exact ⟨hplain.ne_nil, hplain.comma, hplain.nul⟩
      obtain ⟨str', names', v, remaining, hnames', hholds'', hst⟩ :=
        nwiAppendRemaining_of_ne (len - 1) (flags &&& nwiMask)
          (fun heq => hrest (hremaining'.symm.trans heq)) (by omega) hnames hholds' hn'
          (hremaining' ▸ length_hexText_clear flags named) (length_hexText_clear flags [])
      rw [hst, if_pos (by simp)]
      exact iff_of_false (not_denotes_of_number hzero hnames' rfl hholds'' str) hrest

end

/-! ## Both functions -/

/-- **Strings for flags.** In a buffer that the assertion allows, the string for reachability flags
stands for them unless there are none and the buffer is too short to say so behind the number, and
the string for the flags of an interface stands for them if and only if all of them can be
named. -/
theorem flagStrings_denote_iff (iphone debug : Bool) (flags : BitVec 32) (str : Buffer) (len : ℕ)
    (hlen : ReachabilityAssertion len) (nwiFlags : BitVec 64) (nwiStr : Buffer) (nwiLen : ℕ)
    (hnwi : NwiAssertion nwiLen) :
    ((∃ str', reachabilityFlagsString iphone flags debug str len = some str' ∧
      Denotes (ReachabilityText iphone debug) flags len str str') ↔
      ¬ (flags = 0 ∧ debug = true ∧ len ≤ 28)) ∧
    ((∃ str', nwiIfstateFlagsStr nwiFlags nwiStr nwiLen = some str' ∧
      Denotes NwiText (nwiFlags &&& nwiMask) nwiLen nwiStr str') ↔
      NamesFit (nwiFlags &&& nwiMask) nwiLen) :=
  ⟨reachability_denotes_iff iphone debug flags str hlen, nwi_denotes_iff nwiFlags nwiStr hnwi⟩

theorem flagStrings_denote_thirty :
    ((∃ str', reachabilityFlagsString false 2 true (fun _ => 'a') 30 = some str' ∧
      Denotes (ReachabilityText false true) 2 30 (fun _ => 'a') str') ↔
      ¬ ((2 : BitVec 32) = 0 ∧ true = true ∧ 30 ≤ 28)) ∧
    ((∃ str', nwiIfstateFlagsStr 3 (fun _ => 'a') 30 = some str' ∧
      Denotes NwiText (3 &&& nwiMask) 30 (fun _ => 'a') str') ↔ NamesFit (3 &&& nwiMask) 30) :=
  flagStrings_denote_iff false true 2 (fun _ => 'a') 30 (by decide) 3 (fun _ => 'a') 30 (by decide)

/-- In the shortest buffers, without flags, and with a flag that has no name. -/
theorem flagStrings_not_denote :
    ¬ (∃ str', reachabilityFlagsString false 0 true (fun _ => 'a') 27 = some str' ∧
      Denotes (ReachabilityText false true) 0 27 (fun _ => 'a') str') ∧
    ¬ (∃ str', nwiIfstateFlagsStr 0x80 (fun _ => 'a') 13 = some str' ∧
      Denotes NwiText (0x80 &&& nwiMask) 13 (fun _ => 'a') str') := by
  constructor
  · rw [reachability_denotes_iff false true 0 (fun _ => 'a') (by decide)]
    decide
  · rw [nwi_denotes_iff 0x80 (fun _ => 'a') (by decide)]
    intro h
    obtain ⟨f, hf, hbit⟩ := h.1 7 (by decide)
    have hbits : ∀ f ∈ nwiTable.flags, f.bit ≠ 7 := by decide
    exact hbits f hf hbit

end ConfigdExtra.FlagStrings
