import ConfigdExtra.CommandCursor

/-!
# Where the cursor of a line goes

`process_line` calls `getString` until it returns `NULL`, and each call moves the cursor.

* `ScanState`, `QuotesClosed` — a line read from the left: does it end in a quoted string?
* `Called`, `Split` — the cursors `getString` is called with, and the loop.
* `cursorSafe_iff` — the cursor stays in the line if and only if its quotes are closed.

A quoted string is followed by its quote, which `getString` steps over. It also steps over the NUL
of a line that ends in a quoted string.
-/

namespace ConfigdExtra

/-! ## Lines from the left -/

/-- Where a character of a line stands. -/
inductive ScanState where
  /-- between two strings -/
  | between
  /-- in a string that is not quoted -/
  | word
  /-- behind a backslash of it -/
  | wordEscape
  /-- in a quoted string -/
  | quoted
  /-- behind a backslash of it -/
  | quotedEscape
  deriving DecidableEq

namespace ScanState

/-- A character of a line is read. -/
def step : ScanState → Char → ScanState
  | between, c =>
    if isSpace c then between else if c = '"' then quoted else if c = '\\' then wordEscape else word
  | word, c => if c = '\\' then wordEscape else if isSpace c then between else word
  | wordEscape, _ => word
  | quoted, c => if c = '"' then between else if c = '\\' then quotedEscape else quoted
  | quotedEscape, _ => quoted

/-- The quote has not been closed. -/
def isOpen : ScanState → Bool
  | quoted | quotedEscape => true
  | between | word | wordEscape => false

/-- A line that starts in this state ends in a quoted string. -/
def opens (state : ScanState) (line : List Char) : Bool :=
  ((line.takeWhile (· ≠ '\x00')).foldl step state).isOpen

variable {state : ScanState} {c : Char} {cs : List Char}

theorem opens_cons (h : c ≠ '\x00') : state.opens (c :: cs) = (state.step c).opens cs := by
  have hend : decide (c ≠ '\x00') = true := decide_eq_true h
  simp only [opens, List.takeWhile_cons, hend, if_true, List.foldl_cons]

theorem opens_dropWhile (line : List Char) :
    between.opens (line.dropWhile isSpace) = between.opens line := by
  induction line with
  | nil => rfl
  | cons c cs ih =>
    by_cases hspace : isSpace c = true
    · have hnul : c ≠ '\x00' := by
        rintro rfl
        exact absurd hspace (by decide)
      rw [List.dropWhile_cons_of_pos hspace, ih, opens_cons hnul, step, if_pos hspace]
    · rw [List.dropWhile_cons_of_neg hspace]

/-- A string that is not quoted ends where nothing is open. -/
theorem opens_scanString_word (line : List Char) :
    between.opens (scanString false line).2 = word.opens line := by
  fun_induction scanString false line with
  | case1 => rfl
  | case2 => rfl
  | case3 c cs hnul hquote => exact absurd hquote Bool.false_ne_true
  | case4 => rfl
  | case5 => rfl
  | case6 d ds hd r hnul hquote ih =>
    rw [ih, opens_cons hnul, opens_cons hd]
    rfl
  | case7 c cs hnul hquote hback hspace =>
    have hspace' : isSpace c = true := by simpa using hspace
    rw [opens_cons hnul, opens_cons hnul, step, step, if_pos hspace', if_neg hback,
      if_pos hspace']
  | case8 c cs hnul hquote hback hspace r ih =>
    have hspace' : ¬isSpace c = true := by simpa using hspace
    rw [ih, opens_cons hnul, step, if_neg hback, if_neg hspace']

/-- A quoted string ends with its quote, or its quote is not closed. -/
theorem opens_scanString_quoted (line : List Char) :
    (∃ cs, (scanString true line).2 = '"' :: cs ∧ between.opens cs = quoted.opens line) ∨
      (∀ c ∈ (scanString true line).2.head?, c = '\x00') ∧ quoted.opens line = true := by
  fun_induction scanString true line with
  | case1 => exact .inr ⟨by simp, rfl⟩
  | case2 => exact .inr ⟨by simp, rfl⟩
  | case3 c cs hnul hquote =>
    obtain rfl : c = '"' := by simpa using hquote
    exact .inl ⟨cs, rfl, rfl⟩
  | case4 => exact .inr ⟨by simp, rfl⟩
  | case5 => exact .inr ⟨by simp, rfl⟩
  | case6 d ds hd r hnul hquote ih =>
    rw [opens_cons hnul, opens_cons hd]
    exact ih
  | case7 c cs hnul hquote hback hspace => exact absurd hspace Bool.false_ne_true
  | case8 c cs hnul hquote hback hspace r ih =>
    have hquote' : c ≠ '"' := by simpa using hquote
    rw [opens_cons hnul, step, if_neg hquote', if_neg hback]
    exact ih

end ScanState

/-! ## Behind the line -/

theorem dropWhile_append_of_cons {line stale cs : List Char} {c : Char} {f : Char → Bool}
    (h : line.dropWhile f = c :: cs) : (line ++ stale).dropWhile f = c :: (cs ++ stale) := by
  rw [List.dropWhile_append, h]
  rfl

/-- A scan that ends in a line does not depend on what is behind it. -/
theorem scanString_append_stale {isQuoted : Bool} {line : List Char}
    (h : (scanString isQuoted line).2 ≠ []) (stale : List Char) :
    scanString isQuoted (line ++ stale) =
      ((scanString isQuoted line).1, (scanString isQuoted line).2 ++ stale) := by
  fun_induction scanString isQuoted line with
  | case1 => exact absurd rfl h
  | case2 cs => rw [List.cons_append, scanString.eq_def]; rfl
  | case3 c cs hnul hquote =>
    rw [List.cons_append, scanString.eq_def]
    simp only [hnul, hquote, if_true, if_false]
  | case4 => exact absurd rfl h
  | case5 ds hnul hquote =>
    rw [List.cons_append, scanString.eq_def]
    simp only [hnul, hquote, if_true, if_false, List.cons_append, Bool.false_eq_true]
  | case6 d ds hd r hnul hquote ih =>
    rw [List.cons_append, List.cons_append, scanString.eq_def]
    simp only [hnul, hquote, hd, if_true, if_false, ih h, Bool.false_eq_true, r]
  | case7 c cs hnul hquote hback hspace =>
    rw [List.cons_append, scanString.eq_def]
    simp only [hnul, hquote, hback, hspace, if_true, if_false, Bool.false_eq_true]
  | case8 c cs hnul hquote hback hspace r ih =>
    rw [List.cons_append, scanString.eq_def]
    simp only [hnul, hquote, hback, hspace, if_false, ih h, Bool.false_eq_true, r]

/-- A string that ends in a line does not depend on what is behind it. -/
theorem getString_append_stale {line s rest : List Char} (h : getString line = some (s, rest))
    (hrest : rest ≠ []) (stale : List Char) :
    getString (line ++ stale) = some (s, rest ++ stale) := by
  cases hline : line.dropWhile isSpace with
  | nil =>
    unfold getString at h
    split at h
    · cases h
    · cases h
    · rw [hline] at h
      cases h
  | cons c cs =>
    by_cases hc : c = '\x00'
    · obtain rfl := hc
      rw [getString_eq_none hline] at h
      cases h
    rw [getString_eq_some hline hc] at h
    rw [getString_eq_some (dropWhile_append_of_cons hline) hc]
    by_cases hquoted : (c == '"') = true
    · simp only [hquoted, if_true, Option.some.injEq, Prod.mk.injEq] at h ⊢
      obtain ⟨rfl, rfl⟩ := h
      have hne : (scanString true cs).2 ≠ [] := fun hnil => hrest (by rw [hnil, List.tail_nil])
      rw [scanString_append_stale hne]
      exact ⟨by rw [List.head?_append_of_ne_nil _ hne], List.tail_append_of_ne_nil hne⟩
    · rw [Bool.not_eq_true] at hquoted
      simp only [hquoted, if_false, Bool.false_eq_true, Option.some.injEq, Prod.mk.injEq] at h ⊢
      obtain ⟨rfl, rfl⟩ := h
      rw [← List.cons_append, scanString_append_stale hrest]
      exact ⟨by rw [List.head?_append_of_ne_nil _ hrest], rfl⟩

/-! ## A call -/

namespace LineBuffer

variable {l : LineBuffer} {p : ℕ}

theorem lt_of_getString_drop {s : List Char} {q : ℕ}
    (h : getString (l.bytes.drop p) = some (s, l.bytes.drop q)) : p < q := by
  have hlt := getString_length h
  rw [List.length_drop, List.length_drop] at hlt
  omega

/-- A quoted string is read in its quotes, another one as a word. -/
theorem Found.opens_eq {scan : Scan} {tok ds : List Char} {d : Char}
    (h : l.Found p scan tok d ds) :
    ScanState.between.opens (l.bytes.drop p) =
      (if scan.isQuoted then ScanState.quoted else ScanState.word).opens
        (l.bytes.drop scan.s) := by
  rw [← ScanState.opens_dropWhile, h.line_eq]
  by_cases hquoted : scan.isQuoted = true
  · rw [if_pos hquoted, if_pos hquoted, ScanState.opens_cons (by decide)]
    rfl
  · obtain ⟨c, cs, hdrop, hnul, hspace, hquote⟩ := h.word (Bool.eq_false_of_not_eq_true hquoted)
    have hstep : ScanState.between.step c = ScanState.word.step c := by
      have hspace' : ¬isSpace c = true := by rw [hspace]; exact Bool.false_ne_true
      have hquote' : c ≠ '"' := by simpa using hquote
      rw [ScanState.step, ScanState.step, if_neg hspace', if_neg hquote', if_neg hspace']
    rw [if_neg hquoted, if_neg hquoted, hdrop, ScanState.opens_cons hnul, hstep,
      ← ScanState.opens_cons hnul]

/-- A call finds no string, or one that ends in the line, or a quote that is not closed. -/
theorem getString_drop_cases (hp : p ≤ l.nul) :
    (getString (l.bytes.drop p) = none ∧
      (∀ stale, getString (l.bytes.drop p ++ stale) = none) ∧
      ScanState.between.opens (l.bytes.drop p) = false) ∨
    (∃ s q, getString (l.bytes.drop p) = some (s, l.bytes.drop q) ∧ p < q ∧ q ≤ l.nul ∧
      ScanState.between.opens (l.bytes.drop p) = ScanState.between.opens (l.bytes.drop q)) ∨
    (∃ s, getString (l.bytes.drop p) = some (s, []) ∧
      ScanState.between.opens (l.bytes.drop p) = true) := by
  obtain ⟨-, hline⟩ | ⟨scan, tok, d, ds, h⟩ := scanPass_cases hp
  · left
    refine ⟨getString_eq_none hline,
      fun stale => getString_eq_none (dropWhile_append_of_cons hline), ?_⟩
    rw [← ScanState.opens_dropWhile, hline]
    rfl
  right
  have hsome := h.getString_eq
  have hopens := h.opens_eq
  have hscan := h.scanString_eq
  by_cases hquoted : scan.isQuoted = true
  · rw [if_pos hquoted] at hsome hopens
    rw [hquoted] at hscan
    obtain ⟨cs, hclosed, hcs⟩ | ⟨hunclosed, hopen⟩ :=
      ScanState.opens_scanString_quoted (l.bytes.drop scan.s)
    · left
      rw [hscan] at hclosed
      obtain ⟨rfl, rfl⟩ := List.cons.inj hclosed
      have hbehind := lt_nul_of_drop h.e_le h.drop_e (by decide)
      rw [← drop_succ_of_drop h.drop_e] at hsome hcs
      exact ⟨_, _, hsome, lt_of_getString_drop hsome, hbehind, hopens.trans hcs.symm⟩
    · right
      rw [hscan] at hunclosed
      obtain rfl := hunclosed d rfl
      obtain ⟨-, rfl⟩ := eq_nil_of_drop h.drop_e
      exact ⟨_, hsome, hopens.trans hopen⟩
  · left
    rw [if_neg hquoted] at hsome hopens
    rw [Bool.eq_false_of_not_eq_true hquoted] at hscan
    have hword := ScanState.opens_scanString_word (l.bytes.drop scan.s)
    rw [hscan, ← h.drop_e] at hword
    rw [← h.drop_e] at hsome
    exact ⟨_, _, hsome, lt_of_getString_drop hsome, h.e_le, hopens.trans hword.symm⟩

/-- A call with the cursor in the line, and where it leaves the cursor. -/
theorem getStringAt_cases (hp : p ≤ l.nul) :
    (getStringAt l p = some { string := none, line := l.nul } ∧
      (∀ stale, getString (l.bytes.drop p ++ stale) = none) ∧
      ScanState.between.opens (l.bytes.drop p) = false) ∨
    (∃ s q, getStringAt l p = some { string := some s, line := q } ∧ p < q ∧ q ≤ l.nul ∧
      (∀ stale, getString (l.bytes.drop p ++ stale) = some (s, l.bytes.drop q ++ stale)) ∧
      ScanState.between.opens (l.bytes.drop p) = ScanState.between.opens (l.bytes.drop q)) ∨
    (∃ s, getStringAt l p = some { string := some s, line := l.nul + 1 } ∧
      ScanState.between.opens (l.bytes.drop p) = true) := by
  have hcall := getStringAt_eq hp
  obtain ⟨hnone, hstale, hopens⟩ | ⟨s, q, hsome, hlt, hq, hopens⟩ | ⟨s, hsome, hopens⟩ :=
    getString_drop_cases hp
  · rw [hnone] at hcall
    exact .inl ⟨hcall, hstale, hopens⟩
  · rw [hsome] at hcall
    have hne : l.bytes.drop q ≠ [] := by
      obtain ⟨c, cs, hdrop⟩ := exists_drop hq
      exact hdrop ▸ List.cons_ne_nil c cs
    have hcursor : l.bytes.length - (l.bytes.drop q).length = q := by
      rw [List.length_drop, length_bytes]
      omega
    refine .inr (.inl ⟨s, q, ?_, hlt, hq, getString_append_stale hsome hne, hopens⟩)
    simp only [hcall, hcursor]
  · rw [hsome] at hcall
    simp only [List.length_nil, length_bytes, Nat.sub_zero] at hcall
    exact .inr (.inr ⟨s, hcall, hopens⟩)

/-! ## The loop of `process_line` -/

/-- The cursors `getString` is called with. -/
inductive Called (l : LineBuffer) : ℕ → Prop
  | start : Called l 0
  | next {p q : ℕ} {s : List Char} : Called l p →
      getStringAt l p = some { string := some s, line := q } → Called l q

/-- From this cursor, the loop ends with these strings. -/
inductive Split (l : LineBuffer) : ℕ → List (List Char) → Prop
  | done {p q : ℕ} : getStringAt l p = some { string := none, line := q } → Split l p []
  | next {p q : ℕ} {s : List Char} {argv : List (List Char)} :
      getStringAt l p = some { string := some s, line := q } → Split l q argv →
      Split l p (s :: argv)

/-- No call reads behind the NUL or leaves the cursor there, and the loop ends with the strings of
the line, whatever the buffer holds behind it. -/
structure CursorSafe (l : LineBuffer) : Prop where
  /-- every call ends with the cursor in the line -/
  line_le : ∀ p, l.Called p → ∃ call, getStringAt l p = some call ∧ call.line ≤ l.nul
  /-- the loop ends -/
  ends : ∃ argv, l.Split 0 argv ∧
    ∀ stale, splitLine (l.bytes ++ stale).length (l.bytes ++ stale) = argv

/-- The line does not end in a quoted string. -/
def QuotesClosed (l : LineBuffer) : Prop :=
  (l.text.foldl ScanState.step .between).isOpen = false

instance (l : LineBuffer) : Decidable l.QuotesClosed :=
  inferInstanceAs (Decidable (_ = _))

theorem opens_bytes (l : LineBuffer) :
    ScanState.between.opens l.bytes = (l.text.foldl ScanState.step .between).isOpen := by
  have htake : l.bytes.takeWhile (· ≠ '\x00') = l.text := by
    rw [bytes, List.takeWhile_append_of_pos]
    · exact List.append_nil _
    · intro c hc
      refine decide_eq_true ?_
      rintro rfl
      exact l.nul_not_mem hc
  rw [ScanState.opens, htake]

/-- While nothing is left open, the cursor stays in the line. -/
theorem Called.closed {p : ℕ} (h : l.Called p) (hclosed : l.QuotesClosed) :
    p ≤ l.nul ∧ ScanState.between.opens (l.bytes.drop p) = false := by
  induction h with
  | start => exact ⟨Nat.zero_le _, by rw [List.drop_zero, opens_bytes, hclosed]⟩
  | next h hcall ih =>
    obtain ⟨hp, hopens⟩ := ih
    obtain ⟨hnone, -, -⟩ | ⟨s, q, hsome, -, hq, -, hnext⟩ | ⟨s, -, hopen⟩ := getStringAt_cases hp
    · rw [hnone] at hcall
      cases hcall
    · rw [hsome] at hcall
      cases hcall
      exact ⟨hq, hnext.symm.trans hopens⟩
    · rw [hopens] at hopen
      cases hopen

/-- While nothing is left open, the loop ends, with the strings of the buffer. -/
theorem exists_split {p : ℕ} (hp : p ≤ l.nul)
    (hopens : ScanState.between.opens (l.bytes.drop p) = false) :
    ∃ argv, l.Split p argv ∧ ∀ (stale : List Char) (n : ℕ),
      l.nul - p < n → splitLine n (l.bytes.drop p ++ stale) = argv := by
  obtain ⟨hnone, hstale, -⟩ | ⟨s, q, hsome, hlt, hq, hstale, hnext⟩ | ⟨s, -, hopen⟩ :=
    getStringAt_cases hp
  · refine ⟨[], .done hnone, fun stale n hn => ?_⟩
    obtain ⟨n, rfl⟩ := Nat.exists_eq_add_one.mpr (Nat.zero_lt_of_lt hn)
    rw [splitLine, hstale]
  · obtain ⟨argv, hsplit, hline⟩ := exists_split hq (hnext.symm.trans hopens)
    refine ⟨s :: argv, .next hsome hsplit, fun stale n hn => ?_⟩
    obtain ⟨n, rfl⟩ := Nat.exists_eq_add_one.mpr (Nat.zero_lt_of_lt hn)
    rw [splitLine, hstale]
    exact congrArg (s :: ·) (hline stale n (by omega))
  · rw [hopens] at hopen
    cases hopen
termination_by l.nul - p

/-- From a cursor where a quote is left open, a call leaves the line. -/
theorem not_cursorSafe_of_called {p : ℕ} (h : l.Called p) (hp : p ≤ l.nul)
    (hopens : ScanState.between.opens (l.bytes.drop p) = true) : ¬l.CursorSafe := by
  intro hsafe
  obtain ⟨-, -, hclosed⟩ | ⟨s, q, hsome, hlt, hq, -, hnext⟩ | ⟨s, hsome, -⟩ :=
    getStringAt_cases hp
  · rw [hopens] at hclosed
    cases hclosed
  · exact not_cursorSafe_of_called (h.next hsome) hq (hnext.symm.trans hopens) hsafe
  · obtain ⟨call, hcall, hle⟩ := hsafe.line_le p h
    rw [hsome] at hcall
    obtain rfl := Option.some.inj hcall
    exact absurd hle (Nat.not_succ_le_self _)
termination_by l.nul - p

theorem cursorSafe_iff (l : LineBuffer) : l.CursorSafe ↔ l.QuotesClosed := by
  constructor
  · intro hsafe
    by_contra hopen
    rw [QuotesClosed, Bool.not_eq_false, ← opens_bytes] at hopen
    exact not_cursorSafe_of_called .start (Nat.zero_le _) hopen hsafe
  · intro hclosed
    refine ⟨fun p hp => ?_, ?_⟩
    · obtain ⟨hle, hopens⟩ := hp.closed hclosed
      obtain ⟨hnone, -, -⟩ | ⟨s, q, hsome, -, hq, -, -⟩ | ⟨s, -, hopen⟩ := getStringAt_cases hle
      · exact ⟨_, hnone, Nat.le_refl _⟩
      · exact ⟨_, hsome, hq⟩
      · rw [hopens] at hopen
        cases hopen
    · have hopens : ScanState.between.opens (l.bytes.drop 0) = false := by
        rw [List.drop_zero, opens_bytes, hclosed]
      obtain ⟨argv, hsplit, hline⟩ := exists_split (Nat.zero_le _) hopens
      refine ⟨argv, hsplit, fun stale => ?_⟩
      rw [← hline stale _ ?_, List.drop_zero]
      rw [List.length_append, length_bytes]
      omega

/-- A line of a quote that is not closed. -/
theorem not_cursorSafe : ¬∀ l : LineBuffer, l.CursorSafe := by
  intro h
  let l : LineBuffer := { text := ['"', 'a'], nul_not_mem := by decide }
  have hopens : ScanState.between.opens (l.bytes.drop 0) = true := by decide
  exact not_cursorSafe_of_called .start (Nat.zero_le _) hopens (h l)

end LineBuffer

end ConfigdExtra
