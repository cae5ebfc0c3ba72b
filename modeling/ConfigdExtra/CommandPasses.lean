import ConfigdExtra.CommandSafety

/-!
# The two passes of `getString`

The first pass takes a backslash and the character behind it as a pair, from the left, and counts
the pairs that escape a quote or white space. The second looks at each backslash by itself.

* `dropCounted` — a string without the backslashes the first pass counts.
* `pairsClear` — no backslash that another one escapes is directly before a quote or white space.
* `PassesAgree` — the string of a call is `dropCounted` of what was scanned.
* `passesAgree_iff` — all calls on a line agree if and only if its pairs are clear.
-/

namespace ConfigdExtra

/-! ## Pairs -/

/-- A string can end before it. -/
def isStop (c : Char) : Bool := c == '\x00' || c == '"' || isSpace c

/-- The backslashes that `countEscaped` counts go. -/
def dropCounted : List Char → List Char
  | [] => []
  | [c] => [c]
  | c :: d :: cs =>
    if c = '\\' then
      if d == '"' || isSpace d then d :: dropCounted cs else c :: d :: dropCounted cs
    else c :: dropCounted (d :: cs)

/-- No pair of two backslashes is directly before a quote, white space or the NUL. -/
def pairsClear : List Char → Bool
  | [] => true
  | [_] => true
  | c :: d :: cs =>
    if c = '\\' then !(d == '\\' && cs.head?.any isStop) && pairsClear cs
    else pairsClear (d :: cs)

/-- Every backslash has the character it escapes. -/
def paired : List Char → Bool
  | [] => true
  | [c] => c != '\\'
  | c :: d :: cs => if c = '\\' then paired cs else paired (d :: cs)

section Pairs

variable {c d : Char} {cs ds tok : List Char}

/-- Only a backslash starts a pair. -/
theorem pairsClear_cons (h : c ≠ '\\') (cs : List Char) :
    pairsClear (c :: cs) = pairsClear cs := by
  cases cs with
  | nil => rfl
  | cons d cs => rw [pairsClear, if_neg h]

theorem paired_cons (h : c ≠ '\\') (cs : List Char) : paired (c :: cs) = paired cs := by
  cases cs with
  | nil => simpa [paired] using h
  | cons d cs => rw [paired, if_neg h]

theorem isStop_ne_backslash (h : isStop c = true) : c ≠ '\\' := by
  rintro rfl
  exact absurd h (by decide)

/-- What a backslash escapes would stop the scan. -/
theorem isStop_of_escaped (h : (c == '"' || isSpace c) = true) : isStop c = true := by
  rw [isStop, Bool.or_assoc, h, Bool.or_true]

/-- What stops the scan can be escaped, but for the terminator. -/
theorem escaped_of_isStop (hc : c ≠ '\x00') (h : isStop c = true) :
    (c == '"' || isSpace c) = true := by
  simpa [isStop, hc] using h

theorem pairsClear_dropWhile (line : List Char) :
    pairsClear (line.dropWhile isSpace) = pairsClear line := by
  induction line with
  | nil => rfl
  | cons c cs ih =>
    by_cases hspace : isSpace c = true
    · have hback : c ≠ '\\' := by
        rintro rfl
        exact absurd hspace (by decide)
      rw [List.dropWhile_cons_of_pos hspace, ih, pairsClear_cons hback]
    · rw [List.dropWhile_cons_of_neg hspace]

/-- Each backslash that is counted is dropped. -/
theorem length_dropCounted_add (tok : List Char) :
    (dropCounted tok).length + countEscaped tok = tok.length := by
  fun_induction countEscaped tok with
  | case1 => rfl
  | case2 => rfl
  | case3 d cs ih =>
    by_cases hescape : (d == '"' || isSpace d) = true
    · rw [dropCounted, if_pos rfl, if_pos hescape, if_pos hescape]
      simp only [List.length_cons]
      omega
    · rw [dropCounted, if_pos rfl, if_neg hescape, if_neg hescape]
      simp only [List.length_cons]
      omega
  | case4 c d cs hback ih =>
    rw [dropCounted, if_neg hback]
    simp only [List.length_cons] at ih ⊢
    omega

/-- Pairs do not reach over the end of a string that has all of its own. -/
theorem pairsClear_append (h : paired tok = true) (d : Char) (ds : List Char) :
    pairsClear (tok ++ d :: ds) = (pairsClear (tok ++ [d]) && pairsClear (d :: ds)) := by
  fun_induction paired tok with
  | case1 => rfl
  | case2 c =>
    have hback : c ≠ '\\' := by simpa using h
    simp only [List.cons_append, List.nil_append, pairsClear, if_neg hback, Bool.true_and]
  | case3 e cs ih =>
    have hhead : (cs ++ d :: ds).head? = (cs ++ [d]).head? := by
      cases cs <;> rfl
    simp only [List.cons_append, pairsClear, if_true, hhead, ih h, Bool.and_assoc]
  | case4 c e cs hback ih =>
    simp only [List.cons_append, pairsClear, if_neg hback] at ih ⊢
    exact ih h

/-- It does not matter before which character a string ends. -/
theorem pairsClear_concat {d' : Char} (hd : isStop d = true) (hd' : isStop d' = true)
    (tok : List Char) : pairsClear (tok ++ [d]) = pairsClear (tok ++ [d']) := by
  fun_induction paired tok with
  | case1 => rfl
  | case2 c => simp [pairsClear]
  | case3 e cs ih =>
    have hhead : (cs ++ [d]).head?.any isStop = (cs ++ [d']).head?.any isStop := by
      cases cs with
      | nil => exact hd.trans hd'.symm
      | cons b cs => rfl
    simp only [List.cons_append, pairsClear, if_true, hhead, ih]
  | case4 c e cs hback ih =>
    simp only [List.cons_append, pairsClear, if_neg hback] at ih ⊢
    exact ih

/-- The second pass, at a backslash and the character behind it. -/
theorem unescape_pair (after : Option Char) (d : Char) (cs : List Char) :
    unescape after ('\\' :: d :: cs) =
      if d == '"' || isSpace d then d :: unescape after cs
      else if d = '\\' ∧ ((cs.head?.or after).any fun b => b == '"' || isSpace b) then
        '\\' :: unescape after cs
      else '\\' :: d :: unescape after cs := by
  rw [unescape]
  by_cases hescape : (d == '"' || isSpace d) = true
  · have hback : d ≠ '\\' := by
      rintro rfl
      exact absurd hescape (by decide)
    rw [if_pos hescape, if_pos ⟨rfl, hescape⟩, unescape, if_neg fun hand => hback hand.1]
  · rw [if_neg hescape, if_neg fun hand => hescape hand.2, unescape]
    split_ifs <;> rfl

theorem unescape_cons (h : c ≠ '\\') (after : Option Char) (cs : List Char) :
    unescape after (c :: cs) = c :: unescape after cs := by
  rw [unescape, if_neg fun hand => h hand.1]

/-- Where the pairs are clear, the second pass drops what the first counts. -/
theorem unescape_eq_dropCounted (hend : paired tok = true ∨ (d == '"' || isSpace d) = false)
    (h : pairsClear (tok ++ [d]) = true) : unescape (some d) tok = dropCounted tok := by
  fun_induction dropCounted tok with
  | case1 => rfl
  | case2 c =>
    rw [unescape, if_neg]
    · rfl
    rintro ⟨rfl, hescape⟩
    obtain hpaired | hend := hend
    · exact absurd hpaired (by decide)
    · rw [List.head?_nil, Option.none_or, Option.any_some, hend] at hescape
      cases hescape
  | case3 d' cs hescape ih =>
    simp only [List.cons_append, pairsClear, paired, if_true, Bool.and_eq_true] at h hend
    rw [unescape_pair, if_pos hescape, ih hend h.2]
  | case4 d' cs hescape ih =>
    simp only [List.cons_append, pairsClear, paired, if_true, Bool.and_eq_true] at h hend
    rw [unescape_pair, if_neg hescape, if_neg, ih hend h.2]
    rintro ⟨rfl, hnext⟩
    have hclear := h.1
    cases cs with
    | nil => simp [isStop_of_escaped (show (d == '"' || isSpace d) = true from hnext)] at hclear
    | cons b cs =>
      simp [isStop_of_escaped (show (b == '"' || isSpace b) = true from hnext)] at hclear
  | case5 c d' cs hback ih =>
    rw [List.cons_append, pairsClear_cons hback] at h
    rw [paired_cons hback] at hend
    rw [unescape_cons hback, ih hend h]

/-- Where the second pass drops what the first counts, the pairs are clear. -/
theorem pairsClear_of_unescape_eq (hnul : '\x00' ∉ tok)
    (hend : paired tok = true → (d == '"' || isSpace d) = true)
    (h : unescape (some d) tok = dropCounted tok) : pairsClear (tok ++ [d]) = true := by
  fun_induction dropCounted tok with
  | case1 => rfl
  | case2 c => simp [pairsClear]
  | case3 d' cs hescape ih =>
    have hback : d' ≠ '\\' := by
      rintro rfl
      exact absurd hescape (by decide)
    rw [unescape_pair, if_pos hescape] at h
    simp only [List.mem_cons, not_or] at hnul
    rw [paired, if_pos rfl] at hend
    have hcs := ih hnul.2.2 hend (List.cons.inj h).2
    simp [pairsClear, hback, hcs]
  | case4 d' cs hescape ih =>
    simp only [List.mem_cons, not_or] at hnul
    rw [paired, if_pos rfl] at hend
    rw [unescape_pair, if_neg hescape] at h
    by_cases hdrop : d' = '\\' ∧ ((cs.head?.or (some d)).any fun b => b == '"' || isSpace b)
    · -- a backslash goes that was not counted
      rw [if_pos hdrop] at h
      have hlength := congrArg List.length h
      have hle := unescape_length_add_countEscaped_le (some d) cs
      have heq := length_dropCounted_add cs
      simp only [List.length_cons] at hlength
      omega
    · rw [if_neg hdrop] at h
      have hcs := ih hnul.2.2 hend (List.cons.inj (List.cons.inj h).2).2
      have hnext : (d' == '\\' && (cs ++ [d]).head?.any isStop) = false := by
        by_contra hne
        rw [Bool.not_eq_false, Bool.and_eq_true] at hne
        obtain ⟨hback, hstop⟩ := hne
        refine hdrop ⟨eq_of_beq hback, ?_⟩
        cases cs with
        | nil => exact hend rfl
        | cons b cs =>
          exact escaped_of_isStop (fun heq => hnul.2.2 (heq ▸ List.mem_cons_self)) hstop
      simp only [List.cons_append, pairsClear, if_true, hnext, hcs]
      rfl
  | case5 c d' cs hback ih =>
    rw [paired_cons hback] at hend
    rw [unescape_cons hback] at h
    rw [List.cons_append, pairsClear_cons hback]
    exact ih (fun hmem => hnul (List.mem_cons_of_mem c hmem)) hend (List.cons.inj h).2

end Pairs

/-! ## Scanned strings -/

section Scanned

variable {isQuoted : Bool} {line ds : List Char} {d : Char}

/-- A string ends at a quote, white space or the NUL, and only at the NUL within a pair. -/
theorem isStop_of_scanString (h : (scanString isQuoted line).2 = d :: ds) :
    isStop d = true ∧ (paired (scanString isQuoted line).1 = true ∨ d = '\x00') := by
  fun_induction scanString isQuoted line with
  | case1 => cases h
  | case2 cs =>
    obtain ⟨rfl, -⟩ := List.cons.inj h
    exact ⟨rfl, .inl rfl⟩
  | case3 c cs hnul hquote =>
    obtain ⟨rfl, -⟩ := List.cons.inj h
    obtain ⟨-, hc⟩ := Bool.and_eq_true_iff.mp hquote
    exact ⟨isStop_of_escaped (by rw [hc, Bool.true_or]), .inl rfl⟩
  | case4 => cases h
  | case5 ds' hnul hquote =>
    obtain ⟨rfl, -⟩ := List.cons.inj h
    exact ⟨rfl, .inr rfl⟩
  | case6 d' ds' hd r hnul hquote ih => exact ih h
  | case7 c cs hnul hquote hback hspace =>
    obtain ⟨rfl, -⟩ := List.cons.inj h
    obtain ⟨-, hc⟩ := Bool.and_eq_true_iff.mp hspace
    exact ⟨isStop_of_escaped (by rw [hc, Bool.or_true]), .inl rfl⟩
  | case8 c cs hnul hquote hback hspace r ih =>
    rw [paired_cons hback]
    exact ih h

/-- A string that has its pairs can be followed by another character it can end before. -/
theorem scanString_of_stop {d' : Char} (ds' : List Char)
    (hpaired : paired (scanString isQuoted line).1 = true)
    (hstop : (if isQuoted then d' == '"' else isSpace d') = true) :
    scanString isQuoted ((scanString isQuoted line).1 ++ d' :: ds') =
      ((scanString isQuoted line).1, d' :: ds') := by
  have hnul' : d' ≠ '\x00' := by
    rintro rfl
    cases isQuoted <;> exact absurd hstop (by decide)
  have hback' : d' ≠ '\\' := by
    rintro rfl
    cases isQuoted <;> exact absurd hstop (by decide)
  have hbase : scanString isQuoted (d' :: ds') = ([], d' :: ds') := by
    rw [scanString.eq_def]
    cases isQuoted with
    | false =>
      rw [if_neg Bool.false_ne_true] at hstop
      simp only [hnul', hback', hstop, if_true, if_false, Bool.false_and, Bool.not_false,
        Bool.true_and, Bool.false_eq_true]
    | true =>
      rw [if_pos rfl] at hstop
      simp only [hnul', hstop, if_true, if_false, Bool.true_and]
  fun_induction scanString isQuoted line with
  | case1 => exact hbase
  | case2 => exact hbase
  | case3 => exact hbase
  | case4 => exact absurd hpaired (by decide)
  | case5 => exact absurd hpaired Bool.false_ne_true
  | case6 e es he r hnul hquote ih =>
    rw [paired, if_pos rfl] at hpaired
    rw [List.cons_append, List.cons_append, scanString.eq_def]
    simp only [hnul, hquote, he, if_true, if_false, Bool.false_eq_true, r, ih hpaired]
  | case7 => exact hbase
  | case8 c cs hnul hquote hback hspace r ih =>
    rw [paired_cons hback] at hpaired
    rw [List.cons_append, scanString.eq_def]
    simp only [hnul, hquote, hback, hspace, if_false, Bool.false_eq_true, r, ih hpaired]

end Scanned

/-! ## Calls -/

namespace LineBuffer

variable {l : LineBuffer} {p : ℕ} {scan : Scan} {tok ds : List Char} {d : Char}

/-- The characters from `s` to `e - 1`. -/
def scanned (l : LineBuffer) (scan : Scan) : List Char :=
  (l.bytes.drop scan.s).take (scan.e - scan.s)

/-- The token is what lies between the start of the scan and its end. -/
theorem Found.scanned_eq (h : l.Found p scan tok d ds) : l.scanned scan = tok := by
  rw [scanned, h.drop_s, h.e_eq, Nat.add_sub_cancel_left, List.take_left]

/-- The second pass copies the token without the backslashes. -/
theorem Found.copyPass_eq (h : l.Found p scan tok d ds) :
    copyPass l scan = some (unescape (some d) tok) :=
  LineBuffer.copyPass_eq scan h.drop_s h.e_eq h.escaped_eq

/-- The scan has stopped where it should, or at the terminator. -/
theorem Found.isStop_next (h : l.Found p scan tok d ds) :
    isStop d = true ∧ (paired tok = true ∨ d = '\x00') := by
  have hscan := isStop_of_scanString (congrArg Prod.snd h.scanString_eq)
  rwa [h.scanString_eq] at hscan

/-- Where a call leaves the cursor. -/
def after (scan : Scan) : ℕ := if scan.isQuoted then scan.e + 1 else scan.e

/-- The cursor moves on. -/
theorem Found.lt_after (h : l.Found p scan tok d ds) : p < after scan := by
  have hsome := h.getString_eq
  refine lt_of_getString_drop (hsome.trans (congrArg some (Prod.ext rfl ?_)))
  rw [after]
  by_cases hquoted : scan.isQuoted = true
  · rw [if_pos hquoted, if_pos hquoted, drop_succ_of_drop h.drop_e]
  · rw [if_neg hquoted, if_neg hquoted, h.drop_e]

/-- The pairs of a line are those of its next string and those behind it. -/
theorem Found.pairsClear_eq (h : l.Found p scan tok d ds) :
    pairsClear (l.bytes.drop p) =
      (pairsClear (tok ++ [d]) && pairsClear (l.bytes.drop (after scan))) := by
  obtain ⟨hstop, hpaired⟩ := h.isStop_next
  have hline : pairsClear (l.bytes.drop p) = pairsClear (tok ++ d :: ds) := by
    rw [← pairsClear_dropWhile, h.line_eq, ← h.drop_s]
    split
    · exact pairsClear_cons (by decide) _
    · rfl
  have hbehind : pairsClear (d :: ds) = pairsClear (l.bytes.drop (after scan)) := by
    rw [after]
    split
    · rw [drop_succ_of_drop h.drop_e, pairsClear_cons (isStop_ne_backslash hstop)]
    · rw [h.drop_e]
  rw [hline, ← hbehind]
  obtain hpaired | rfl := hpaired
  · exact pairsClear_append hpaired d ds
  · obtain ⟨-, rfl⟩ := eq_nil_of_drop h.drop_e
    exact (Bool.and_true _).symm

/-- The two passes agree on a string: the text is what was scanned without the backslashes that
were counted, its length is the one that was allocated, and the character behind the string is
of no account. -/
structure PassesAgree (l : LineBuffer) (scan : Scan) : Prop where
  /-- the text -/
  text : copyPass l scan = some (dropCounted (l.scanned scan))
  /-- its length -/
  length : ∀ string, copyPass l scan = some string →
    string.length = scan.e - scan.s - scan.escaped
  /-- the same characters, scanned elsewhere -/
  follower : ∀ (l' : LineBuffer) (p' : ℕ) (scan' : Scan), l'.Called p' →
    scanPass l' p' = some (.scanned scan') → scan'.isQuoted = scan.isQuoted →
    l'.scanned scan' = l.scanned scan → copyPass l' scan' = copyPass l scan

/-- **A string whose pairs are clear.** -/
theorem Found.passesAgree (h : l.Found p scan tok d ds) (hclear : pairsClear (tok ++ [d]) = true) :
    l.PassesAgree scan := by
  have htext : ∀ {l' : LineBuffer} {p' : ℕ} {scan' : Scan} {d' : Char} {ds' : List Char},
      l'.Found p' scan' tok d' ds' → copyPass l' scan' = some (dropCounted tok) := by
    intro l' p' scan' d' ds' h'
    obtain ⟨hstop, hpaired⟩ := h'.isStop_next
    rw [h'.copyPass_eq, unescape_eq_dropCounted]
    · refine hpaired.imp_right ?_
      rintro rfl
      decide
    · rw [pairsClear_concat hstop h.isStop_next.1, hclear]
  refine ⟨?_, fun string hstring => ?_, fun l' p' scan' _ hscan' _ heq => ?_⟩
  · rw [htext h, h.scanned_eq]
  · obtain rfl := Option.some.inj ((htext h).symm.trans hstring)
    have hlength := length_dropCounted_add tok
    rw [h.e_eq, h.escaped_eq]
    omega
  · obtain ⟨tok', d', ds', h'⟩ := exists_found hscan'
    obtain rfl : tok' = tok := by rw [← h'.scanned_eq, heq, h.scanned_eq]
    rw [htext h', htext h]

/-- A string that has its pairs, with another character behind it. -/
theorem Found.exists_follower (h : l.Found p scan tok d ds) (hpaired : paired tok = true)
    {d' : Char} (hstop : (if scan.isQuoted then d' == '"' else isSpace d') = true) :
    ∃ (l' : LineBuffer) (scan' : Scan) (ds' : List Char),
      l'.Found 0 scan' tok d' ds' ∧ scan'.isQuoted = scan.isQuoted := by
  have hd' : d' ≠ '\x00' := by
    rintro rfl
    by_cases hquoted : scan.isQuoted = true
    · rw [if_pos hquoted] at hstop
      exact absurd hstop (by decide)
    · rw [if_neg hquoted] at hstop
      exact absurd hstop (by decide)
  have hnul : '\x00' ∉ tok ++ [d'] := by
    rw [List.mem_append, List.mem_singleton, not_or]
    exact ⟨nul_not_mem_of_drop h.drop_s, Ne.symm hd'⟩
  have hscan := h.scanString_eq
  have hagain : scanString scan.isQuoted (tok ++ d' :: ['\x00']) = (tok, d' :: ['\x00']) := by
    have hrescan := scanString_of_stop ['\x00'] (by rw [hscan]; exact hpaired) hstop
    rwa [hscan] at hrescan
  -- the string, or the string in quotes, is a line of its own
  suffices hline : ∃ (l' : LineBuffer) (c : Char) (cs : List Char),
      (l'.bytes.drop 0).dropWhile isSpace = c :: cs ∧ c ≠ '\x00' ∧
      (c == '"') = scan.isQuoted ∧
      (if c == '"' then cs else c :: cs) = tok ++ d' :: ['\x00'] by
    obtain ⟨l', c, cs, hline, hc, hquoted, hcs⟩ := hline
    obtain ⟨scan', tok', d'', ds', h', hquoted', hdrop⟩ :=
      exists_found_of_line (Nat.zero_le _) hline hc
    have hscan' := h'.scanString_eq
    rw [hdrop, hcs, hquoted', hquoted, hagain] at hscan'
    obtain ⟨rfl, hds⟩ := Prod.mk.inj hscan'
    obtain ⟨rfl, rfl⟩ := List.cons.inj hds
    exact ⟨l', scan', _, h', hquoted'.trans hquoted⟩
  by_cases hquoted : scan.isQuoted = true
  · refine ⟨{ text := '"' :: (tok ++ [d']), nul_not_mem := by simpa using hnul }, '"',
      tok ++ d' :: ['\x00'], ?_, by decide, hquoted.symm, rfl⟩
    rw [List.drop_zero, bytes, List.cons_append, List.append_assoc]
    rfl
  · rw [Bool.not_eq_true] at hquoted
    obtain ⟨c, cs, hdrop, hc, hspace, hquote⟩ := h.word hquoted
    have hlt : (scanString false (c :: cs)).2.length < (c :: cs).length :=
      scanString_length_lt hc hspace
    rw [hquoted, hdrop] at hscan
    rw [hscan, ← hdrop, h.drop_s, List.length_append] at hlt
    cases tok with
    | nil => exact absurd hlt (by simp)
    | cons b tok =>
      obtain rfl : b = c := (List.cons.inj (h.drop_s.symm.trans hdrop)).1
      refine ⟨{ text := b :: tok ++ [d'], nul_not_mem := hnul }, b, tok ++ d' :: ['\x00'], ?_, hc,
        hquote.trans hquoted.symm, by rw [hquote, if_neg Bool.false_ne_true]; rfl⟩
      have hword : ¬isSpace b = true := by
        rw [hspace]
        exact Bool.false_ne_true
      have hbytes : b :: tok ++ [d'] ++ ['\x00'] = b :: (tok ++ d' :: ['\x00']) := by
        rw [List.append_assoc, List.cons_append, List.singleton_append]
      rw [List.drop_zero]
      exact (congrArg (List.dropWhile isSpace) hbytes).trans (List.dropWhile_cons_of_neg hword)

/-- **A string on which the passes agree.** -/
theorem Found.pairsClear_of_agree (h : l.Found p scan tok d ds) (hagree : l.PassesAgree scan) :
    pairsClear (tok ++ [d]) = true := by
  obtain ⟨hstop, hend⟩ := h.isStop_next
  have hnul := nul_not_mem_of_drop h.drop_s
  have htext := hagree.text
  rw [h.scanned_eq] at htext
  by_cases hpaired : paired tok = true
  · obtain ⟨d', hd'⟩ : ∃ d', (if scan.isQuoted then d' == '"' else isSpace d') = true := by
      cases scan.isQuoted with
      | false => exact ⟨' ', by decide⟩
      | true => exact ⟨'"', by decide⟩
    have hescape : (d' == '"' || isSpace d') = true := by
      split at hd'
      · rw [hd', Bool.true_or]
      · rw [hd', Bool.or_true]
    obtain ⟨l', scan', ds', h', hquoted⟩ := h.exists_follower hpaired hd'
    have hsame := hagree.follower l' 0 scan' .start h'.scanPass_eq hquoted
      (h'.scanned_eq.trans h.scanned_eq.symm)
    rw [htext, h'.copyPass_eq] at hsame
    rw [pairsClear_concat hstop (isStop_of_escaped hescape)]
    exact pairsClear_of_unescape_eq hnul (fun _ => hescape) (Option.some.inj hsame)
  · rw [h.copyPass_eq] at htext
    exact pairsClear_of_unescape_eq hnul (fun hp => absurd hp hpaired) (Option.some.inj htext)

/-- The next call finds the cursor where a call may find it. -/
theorem Found.called_after (h : l.Found p scan tok d ds) (hp : l.Called p) :
    l.Called (after scan) :=
  hp.next h.getStringAt_eq

theorem exists_found_of_getStringAt {s : List Char} {q : ℕ}
    (h : getStringAt l p = some { string := some s, line := q }) :
    ∃ scan tok d ds, l.Found p scan tok d ds := by
  rw [getStringAt] at h
  cases hscan : scanPass l p with
  | none =>
    rw [hscan] at h
    cases h
  | some result =>
    cases result with
    | null =>
      rw [hscan] at h
      cases h
    | scanned scan =>
      obtain ⟨tok, d, ds, hfound⟩ := exists_found hscan
      exact ⟨scan, tok, d, ds, hfound⟩

/-- The pairs behind a call are clear if those of the line are. -/
theorem Called.pairsClear (h : l.Called p) (hclear : ConfigdExtra.pairsClear l.bytes = true) :
    ConfigdExtra.pairsClear (l.bytes.drop p) = true := by
  induction h with
  | start => rwa [List.drop_zero]
  | next h hcall ih =>
    obtain ⟨scan, tok, d, ds, hfound⟩ := exists_found_of_getStringAt hcall
    rw [hfound.getStringAt_eq] at hcall
    cases hcall
    rw [hfound.pairsClear_eq, Bool.and_eq_true] at ih
    exact ih.2

/-- Calls that agree, from a cursor of the loop. -/
theorem pairsClear_of_called (hagree : ∀ p scan, l.Called p →
      scanPass l p = some (.scanned scan) → l.PassesAgree scan)
    (p : ℕ) (hp : l.Called p) : pairsClear (l.bytes.drop p) = true := by
  by_cases hle : p ≤ l.nul
  · obtain ⟨-, hline⟩ | ⟨scan, tok, d, ds, h⟩ := scanPass_cases hle
    · rw [← pairsClear_dropWhile, hline]
      rfl
    · have hlt := h.lt_after
      have hnext := pairsClear_of_called hagree (after scan) (h.called_after hp)
      rw [h.pairsClear_eq, h.pairsClear_of_agree (hagree p scan hp h.scanPass_eq), hnext]
      rfl
  · have hnil : l.bytes.drop p = [] := by
      rw [List.drop_eq_nil_iff, length_bytes]
      omega
    rw [hnil]
    rfl
termination_by l.nul + 1 - p

/-- **Both passes of `getString`, on every call of `process_line`.** -/
theorem passesAgree_iff (l : LineBuffer) :
    (∀ p scan, l.Called p → scanPass l p = some (.scanned scan) → l.PassesAgree scan) ↔
      pairsClear l.bytes = true := by
  constructor
  · intro hagree
    have hclear := pairsClear_of_called hagree 0 .start
    rwa [List.drop_zero] at hclear
  · intro hclear p scan hp hscan
    obtain ⟨tok, d, ds, h⟩ := exists_found hscan
    have hhere := hp.pairsClear hclear
    rw [h.pairsClear_eq, Bool.and_eq_true] at hhere
    exact h.passesAgree hhere.1

/-- Two backslashes before a quote: the second is not counted, and is left out. -/
theorem not_passesAgree : ¬∀ (l : LineBuffer) (p : ℕ) (scan : Scan), l.Called p →
    scanPass l p = some (.scanned scan) → l.PassesAgree scan := by
  intro h
  let l : LineBuffer := { text := ['a', '\\', '\\', '"'], nul_not_mem := by decide }
  have hclear := pairsClear_of_called (h l) 0 .start
  exact absurd hclear (by decide)

end LineBuffer

end ConfigdExtra
