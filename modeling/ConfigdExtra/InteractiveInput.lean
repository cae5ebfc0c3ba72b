import Mathlib.Data.List.DropRight
import ConfigdExtra.ScutilOptions

/-!
# Interactive input

`_copyStringFromSTDIN` reads a line into a buffer and trims it there: `modbuf` moves over the
white space in front, and what is behind is overwritten through `buf`.

* `fgets`, `trimFront`, `trimBack`, `copyStringFromStdin` — the function, on its buffer.
* `trimmedBytes`, `copyStringFromStdin_eq` — what it makes of a line, without the buffer.
* `copyStringFromStdin_trims_iff` — when that is the trimmed line.

The loop from the back starts at `buf[modlen - 1]`. Once `modbuf` has moved, that is not the last
byte of the text.
-/

namespace ConfigdExtra

/-! ## The buffer -/

/-- `fgets`: the bytes up to a newline, as many as leave room for the NUL. -/
def fgets (size : ℕ) (stdin : List Char) : Option (List Char) :=
  match stdin with
  | [] => none
  | stdin =>
    let line := stdin.takeWhile (· ≠ '\n')
    some ((line ++ (stdin.drop line.length).take 1).take (size - 1) ++ ['\x00'])

/-- `strlen` -/
def strlen (buf : List Char) : ℕ := (buf.takeWhile (· ≠ '\x00')).length

/-- A byte of the buffer. -/
def byteAt (buf : List Char) (i : ℕ) : Char := buf.getD i '\x00'

/-- Trim new-line: the buffer and `modlen`. -/
def trimNewline (buf : List Char) : List Char × ℕ :=
  let len := strlen buf
  if 0 < len ∧ byteAt buf (len - 1) = '\n' then (buf.set (len - 1) '\x00', len - 1)
  else (buf, len)

/-- Trim spaces from front: `modbuf` and `modlen`. -/
def trimFront (buf : List Char) : (modbuf modlen : ℕ) → ℕ × ℕ
  | modbuf, 0 => (modbuf, 0)
  | modbuf, modlen + 1 =>
    if isSpace (byteAt buf modbuf) then trimFront buf (modbuf + 1) modlen
    else (modbuf, modlen + 1)

/-- Trim spaces from back, from `buf[n - 1]` on. -/
def trimBack : (n : ℕ) → List Char → (modlen : ℕ) → List Char × ℕ
  | 0, buf, modlen => (buf, modlen)
  | i + 1, buf, modlen =>
    if isSpace (byteAt buf i) then trimBack i (buf.set i '\x00') (modlen - 1) else (buf, modlen)

/-- What `_copyStringFromSTDIN` returns, for strings `κ`. -/
inductive StdinResult (κ : Type) where
  /-- `NULL` -/
  | null
  /-- the default, retained -/
  | defaultValue (value : κ)
  /-- a string of these bytes -/
  | string (bytes : List Char)
  deriving DecidableEq

/-- `_copyStringFromSTDIN` -/
def copyStringFromStdin {κ : Type} (isattyStdin isattyStdout : Bool)
    (prompt defaultValue : Option κ) (stdin : List Char) : StdinResult κ :=
  let isUserPrompt := prompt.isSome && isattyStdin && isattyStdout
  match fgets 1024 stdin with
  | none => .null
  | some buf =>
    let (buf, modlen) := trimNewline buf
    match isUserPrompt, defaultValue, modlen with
    | true, some value, 0 => .defaultValue value
    | _, _, _ =>
      let (modbuf, modlen) := trimFront buf 0 modlen
      let (buf, modlen) := trimBack modlen buf modlen
      .string ((buf.drop modbuf).take modlen)

/-! ## The loops -/

/-- The line without white space at its ends. -/
def trimBlanks (line : List Char) : List Char := (line.dropWhile isSpace).rdropWhile isSpace

theorem byteAt_append (before rest : List Char) (c : Char) :
    byteAt (before ++ c :: rest) before.length = c := by
  rw [byteAt, List.getD_eq_getElem?_getD, List.getElem?_append_right (Nat.le_refl _), Nat.sub_self]
  rfl

theorem trimFront_eq (before text rest : List Char) :
    trimFront (before ++ text ++ rest) before.length text.length =
      (before.length + (text.takeWhile isSpace).length, (text.dropWhile isSpace).length) := by
  induction text generalizing before with
  | nil => rfl
  | cons c text ih =>
    have hbyte : byteAt (before ++ c :: text ++ rest) before.length = c := by
      rw [List.append_assoc, List.cons_append, byteAt_append]
    rw [List.length_cons, trimFront, hbyte]
    by_cases hspace : isSpace c = true
    · have hnext := ih (before ++ [c])
      rw [List.length_append, List.length_singleton, List.append_assoc before,
        List.singleton_append] at hnext
      rw [if_pos hspace, hnext, List.takeWhile_cons_of_pos hspace,
        List.dropWhile_cons_of_pos hspace, List.length_cons]
      congr 1
      omega
    · rw [if_neg hspace, List.takeWhile_cons_of_neg hspace, List.dropWhile_cons_of_neg hspace]
      rfl

/-- The loop from the back clears the white space at the end of the first `n` bytes. -/
theorem trimBack_eq (head rest : List Char) (modlen : ℕ) :
    trimBack head.length (head ++ rest) modlen =
      (head.rdropWhile isSpace ++
          List.replicate (head.length - (head.rdropWhile isSpace).length) '\x00' ++ rest,
        modlen - (head.length - (head.rdropWhile isSpace).length)) := by
  induction head using List.reverseRecOn generalizing rest modlen with
  | nil => rfl
  | append_singleton head c ih =>
    have hbyte : byteAt (head ++ [c] ++ rest) head.length = c := by
      rw [List.append_assoc, List.singleton_append, byteAt_append]
    rw [List.length_append, List.length_singleton, trimBack, hbyte]
    have hle := (List.rdropWhile_prefix isSpace head).length_le
    by_cases hspace : isSpace c = true
    · have hset : (head ++ [c] ++ rest).set head.length '\x00' = head ++ '\x00' :: rest := by
        rw [List.append_assoc, List.set_append_right _ _ (Nat.le_refl _), Nat.sub_self]
        rfl
      have hcount : head.length + 1 - (head.rdropWhile isSpace).length =
          head.length - (head.rdropWhile isSpace).length + 1 := by omega
      rw [if_pos hspace, hset, ih, List.rdropWhile_concat_pos _ _ _ hspace, hcount,
        List.replicate_succ']
      congr 1
      · simp only [List.append_assoc, List.singleton_append]
      · omega
    · rw [if_neg hspace, List.rdropWhile_concat_neg _ _ _ hspace, List.length_append,
        List.length_singleton, Nat.sub_self]
      simp

/-! ## A line -/

/-- What the loops leave of a text. -/
def trimmedBytes (text : List Char) : List Char :=
  let modlen := (text.dropWhile isSpace).length
  let kept := (text.take modlen).rdropWhile isSpace
  let buf := kept ++ List.replicate (modlen - kept.length) '\x00' ++ text.drop modlen
  (buf.drop (text.length - modlen)).take kept.length

section Loops

variable {text : List Char}

theorem length_takeWhile_eq (text : List Char) :
    (text.takeWhile isSpace).length = text.length - (text.dropWhile isSpace).length := by
  have hlength := congrArg List.length (List.takeWhile_append_dropWhile (p := isSpace) (l := text))
  rw [List.length_append] at hlength
  omega

theorem length_kept_le (text : List Char) :
    ((text.take (text.dropWhile isSpace).length).rdropWhile isSpace).length ≤
      (text.dropWhile isSpace).length :=
  (List.rdropWhile_prefix isSpace _).length_le.trans (List.length_take_le _ _)

/-- Both loops, on a text in a buffer. -/
theorem loops_eq (text rest : List Char) :
    (((trimBack (text.dropWhile isSpace).length (text ++ rest)
        (text.dropWhile isSpace).length).1.drop (text.takeWhile isSpace).length).take
      (trimBack (text.dropWhile isSpace).length (text ++ rest)
        (text.dropWhile isSpace).length).2) = trimmedBytes text := by
  have hle : (text.dropWhile isSpace).length ≤ text.length :=
    (List.dropWhile_suffix isSpace).length_le
  have hkept := length_kept_le text
  have hback := trimBack_eq (text.take (text.dropWhile isSpace).length)
    (text.drop (text.dropWhile isSpace).length ++ rest) (text.dropWhile isSpace).length
  rw [← List.append_assoc, List.take_append_drop, List.length_take, Nat.min_eq_left hle] at hback
  rw [hback, trimmedBytes, length_takeWhile_eq]
  simp only
  rw [Nat.sub_sub_self hkept, ← List.append_assoc, List.drop_append_of_le_length,
    List.take_append_of_le_length]
  · simp only [List.length_drop, List.length_append, List.length_replicate]
    omega
  · simp only [List.length_drop, List.length_append, List.length_replicate]
    omega

/-- A byte of the text at the end of its first bytes. -/
theorem byteAt_of_take {n : ℕ} {before : List Char} {c : Char} (h : text.take n = before ++ [c])
    (hn : n ≤ text.length) : byteAt text (n - 1) = c := by
  have hlength := congrArg List.length h
  rw [List.length_take, Nat.min_eq_left hn, List.length_append, List.length_singleton] at hlength
  rw [← List.take_append_drop n text, h, hlength, Nat.add_sub_cancel, List.append_assoc,
    List.singleton_append, byteAt_append]

/-- Where the text behind the white space starts at a byte that is not white space. -/
theorem exists_of_dropWhile_ne_nil (h : text.dropWhile isSpace ≠ []) :
    ∃ c cs, text.dropWhile isSpace = c :: cs ∧ isSpace c = false := by
  cases hdrop : text.dropWhile isSpace with
  | nil => exact absurd hdrop h
  | cons c cs =>
    have hhead := List.head?_dropWhile_not isSpace text
    rw [hdrop] at hhead
    exact ⟨c, cs, rfl, by simpa using hhead⟩

theorem trimBlanks_ne_nil (h : text.dropWhile isSpace ≠ []) : trimBlanks text ≠ [] := by
  obtain ⟨c, cs, hdrop, hspace⟩ := exists_of_dropWhile_ne_nil h
  intro hnil
  rw [trimBlanks, hdrop, List.rdropWhile_eq_nil_iff] at hnil
  have hc := hnil c List.mem_cons_self
  rw [hspace] at hc
  cases hc

theorem mem_of_mem_trimBlanks {c : Char} (h : c ∈ trimBlanks text) : c ∈ text :=
  (List.dropWhile_suffix isSpace).subset ((List.rdropWhile_prefix isSpace _).subset h)

/-- No white space in front: the text is trimmed. -/
theorem trimmedBytes_of_dropWhile_eq (h : text.dropWhile isSpace = text) :
    trimmedBytes text = trimBlanks text := by
  rw [trimmedBytes, trimBlanks, h]
  simp only [List.take_length, Nat.sub_self, List.drop_zero, List.append_assoc, List.take_left]

theorem drop_eq_dropWhile (text : List Char) :
    text.drop (text.length - (text.dropWhile isSpace).length) = text.dropWhile isSpace := by
  calc text.drop (text.length - (text.dropWhile isSpace).length)
    _ = (text.takeWhile isSpace ++ text.dropWhile isSpace).drop
          (text.takeWhile isSpace).length := by
        rw [List.takeWhile_append_dropWhile, length_takeWhile_eq]
    _ = text.dropWhile isSpace := List.drop_left

/-- The bytes the loop from the back looks at, up to the one it starts at. -/
theorem exists_take_eq (hne : text.dropWhile isSpace ≠ []) :
    ∃ before, text.take (text.dropWhile isSpace).length =
      before ++ [byteAt text ((text.dropWhile isSpace).length - 1)] := by
  have hle : (text.dropWhile isSpace).length ≤ text.length :=
    (List.dropWhile_suffix isSpace).length_le
  have hpos := List.length_pos_iff.mpr hne
  obtain hnil | ⟨before, c, h⟩ :=
    List.eq_nil_or_concat' (text.take (text.dropWhile isSpace).length)
  · have hlength := congrArg List.length hnil
    rw [List.length_take, List.length_nil] at hlength
    omega
  · exact ⟨before, by rw [byteAt_of_take h hle, h]⟩

/-- The byte the loop from the back starts at is not white space: the loop does nothing. -/
theorem trimmedBytes_of_not_isSpace (hne : text.dropWhile isSpace ≠ [])
    (h : isSpace (byteAt text ((text.dropWhile isSpace).length - 1)) = false) :
    trimmedBytes text = text.dropWhile isSpace := by
  have hle : (text.dropWhile isSpace).length ≤ text.length :=
    (List.dropWhile_suffix isSpace).length_le
  have hkept : (text.take (text.dropWhile isSpace).length).rdropWhile isSpace =
      text.take (text.dropWhile isSpace).length := by
    obtain ⟨before, htake⟩ := exists_take_eq hne
    rw [htake, List.rdropWhile_concat_neg]
    rw [h]
    exact Bool.false_ne_true
  rw [trimmedBytes]
  simp only [hkept, List.length_take, Nat.min_eq_left hle, Nat.sub_self, List.replicate_zero,
    List.append_nil, List.take_append_drop, drop_eq_dropWhile, List.take_length]

/-- It is white space, and there is some in front: all of the text goes, or a byte of it is
overwritten. -/
theorem trimmedBytes_of_isSpace (hfront : text.dropWhile isSpace ≠ text)
    (hne : text.dropWhile isSpace ≠ [])
    (h : isSpace (byteAt text ((text.dropWhile isSpace).length - 1)) = true) :
    trimmedBytes text = [] ∨ '\x00' ∈ trimmedBytes text := by
  obtain ⟨before, htake⟩ := exists_take_eq hne
  have hkept : (text.take (text.dropWhile isSpace).length).rdropWhile isSpace =
      before.rdropWhile isSpace := by
    rw [htake, List.rdropWhile_concat_pos _ _ _ h]
  have hbefore := (List.rdropWhile_prefix isSpace before).length_le
  have hprefix : before.rdropWhile isSpace <+: text := by
    rw [← hkept]
    exact (List.rdropWhile_prefix isSpace _).trans (List.take_prefix _ _)
  have hlength := congrArg List.length htake
  have hle : (text.dropWhile isSpace).length ≤ text.length :=
    (List.dropWhile_suffix isSpace).length_le
  rw [List.length_take, Nat.min_eq_left hle, List.length_append, List.length_singleton] at hlength
  rw [trimmedBytes]
  simp only [hkept]
  by_cases hnil : before.rdropWhile isSpace = []
  · left
    rw [hnil, List.length_nil, List.take_zero]
  right
  have hfront' : 0 < (text.takeWhile isSpace).length := by
    rw [List.length_pos_iff]
    intro htakeWhile
    have happend := List.takeWhile_append_dropWhile (p := isSpace) (l := text)
    rw [htakeWhile, List.nil_append] at happend
    exact hfront happend
  -- something is kept, so the loop stopped behind the white space in front
  have hbehind : (text.takeWhile isSpace).length < (before.rdropWhile isSpace).length := by
    by_contra hshort
    have hspaces : before.rdropWhile isSpace <+: text.takeWhile isSpace :=
      List.prefix_of_prefix_length_le hprefix (List.takeWhile_prefix isSpace)
        (Nat.le_of_not_lt hshort)
    have hlast := hspaces.subset (List.getLast_mem hnil)
    exact List.rdropWhile_last_not isSpace before hnil (List.mem_takeWhile_imp hlast)
  rw [length_takeWhile_eq] at hfront' hbehind
  obtain ⟨r, hr⟩ := Nat.exists_eq_add_one.mpr
    (show 0 < (text.dropWhile isSpace).length - (before.rdropWhile isSpace).length by omega)
  refine List.mem_of_getElem? (i := (before.rdropWhile isSpace).length -
    (text.length - (text.dropWhile isSpace).length)) ?_
  rw [List.getElem?_take_of_lt (by omega), List.getElem?_drop, hr, List.replicate_succ,
    List.append_assoc, List.getElem?_append_right (by omega)]
  rw [Nat.add_sub_cancel' (by omega), Nat.sub_self]
  rfl

/-- The text has no NUL, and the loop from the back starts at its end or removes nothing there. -/
def TrimsExactly (text : List Char) : Prop :=
  '\x00' ∉ text ∧
    (text.dropWhile isSpace = text ∨ text.dropWhile isSpace = [] ∨
      isSpace (byteAt text ((text.dropWhile isSpace).length - 1)) = false ∧
        isSpace (byteAt text (text.length - 1)) = false)

instance (text : List Char) : Decidable (TrimsExactly text) :=
  inferInstanceAs (Decidable (_ ∧ _))

/-- Behind the white space in front, nothing is trimmed if the last byte is not white space. -/
theorem trimBlanks_eq_iff (hne : text.dropWhile isSpace ≠ []) :
    trimBlanks text = text.dropWhile isSpace ↔ isSpace (byteAt text (text.length - 1)) = false := by
  obtain hnil | ⟨before, c, hdrop⟩ := List.eq_nil_or_concat' (text.dropWhile isSpace)
  · exact absurd hnil hne
  have htext : text = text.takeWhile isSpace ++ before ++ [c] := by
    rw [List.append_assoc, ← hdrop, List.takeWhile_append_dropWhile]
  have htake : text.take text.length = text.takeWhile isSpace ++ before ++ [c] := by
    rw [List.take_length]
    exact htext
  rw [byteAt_of_take htake (Nat.le_refl _), trimBlanks, hdrop]
  by_cases hspace : isSpace c = true
  · rw [List.rdropWhile_concat_pos _ _ _ hspace]
    refine iff_of_false (fun heq => ?_)
      (fun hfalse => Bool.false_ne_true (hfalse.symm.trans hspace))
    have hle := (List.rdropWhile_prefix isSpace before).length_le
    rw [heq, List.length_append, List.length_singleton] at hle
    omega
  · rw [List.rdropWhile_concat_neg _ _ _ hspace]
    exact iff_of_true rfl (Bool.eq_false_of_not_eq_true hspace)

/-- Without a NUL, the loops trim a text exactly in these cases. -/
theorem trimmedBytes_eq_iff (hnul : '\x00' ∉ text) :
    trimmedBytes text = trimBlanks text ↔ TrimsExactly text := by
  rw [TrimsExactly, and_iff_right hnul]
  by_cases hfront : text.dropWhile isSpace = text
  · exact iff_of_true (trimmedBytes_of_dropWhile_eq hfront) (.inl hfront)
  rw [or_iff_right hfront]
  by_cases hne : text.dropWhile isSpace = []
  · refine iff_of_true ?_ (.inl hne)
    rw [trimmedBytes, trimBlanks, hne]
    rfl
  rw [or_iff_right hne]
  by_cases hspace : isSpace (byteAt text ((text.dropWhile isSpace).length - 1)) = true
  · refine iff_of_false (fun heq => ?_) (fun hand => Bool.false_ne_true (hand.1.symm.trans hspace))
    obtain hnil | hmem := trimmedBytes_of_isSpace hfront hne hspace
    · exact trimBlanks_ne_nil hne (heq.symm.trans hnil)
    · exact hnul (mem_of_mem_trimBlanks (heq ▸ hmem))
  · rw [Bool.not_eq_true] at hspace
    rw [trimmedBytes_of_not_isSpace hne hspace, and_iff_right hspace, ← trimBlanks_eq_iff hne]
    exact eq_comm

theorem rdropWhile_append_cons {c : Char} (h : ¬isSpace c = true) (before behind : List Char) :
    (before ++ c :: behind).rdropWhile isSpace = before ++ c :: behind.rdropWhile isSpace := by
  induction behind using List.reverseRecOn with
  | nil => rw [List.rdropWhile_concat_neg _ _ _ h, List.rdropWhile_nil]
  | append_singleton behind b ih =>
    rw [← List.cons_append, ← List.append_assoc]
    by_cases hspace : isSpace b = true
    · rw [List.rdropWhile_concat_pos _ _ _ hspace, List.rdropWhile_concat_pos _ _ _ hspace, ih]
    · rw [List.rdropWhile_concat_neg _ _ _ hspace, List.rdropWhile_concat_neg _ _ _ hspace,
        List.append_assoc, List.cons_append]

/-- With a NUL, the loops see less than the line. -/
theorem trimmedBytes_ne (before behind : List Char) :
    trimmedBytes before ≠ trimBlanks (before ++ '\x00' :: behind) := by
  intro heq
  have hshort : (trimmedBytes before).length ≤ (before.dropWhile isSpace).length :=
    (List.length_take_le _ _).trans (length_kept_le before)
  have hdrop : (before ++ '\x00' :: behind).dropWhile isSpace =
      before.dropWhile isSpace ++ '\x00' :: behind := by
    rw [List.dropWhile_append]
    split
    next hempty =>
      rw [List.isEmpty_iff.mp hempty]
      rfl
    · rfl
  rw [heq, trimBlanks, hdrop, rdropWhile_append_cons (by decide), List.length_append,
    List.length_cons] at hshort
  omega

end Loops

/-! ## A line of input -/

/-- A line of input that fits in the buffer. -/
structure InputLine where
  /-- the line -/
  text : List Char
  /-- without its newline -/
  newline_not_mem : '\n' ∉ text
  /-- a newline ends it, and not the end of the file -/
  ended : Bool
  /-- the buffer has room for it -/
  short : text.length + ended.toNat < 1024
  /-- there is something to read -/
  ne_nil : ended = false → text ≠ []

namespace InputLine

/-- The input that starts with the line. -/
def stdin (line : InputLine) (rest : List Char) : List Char :=
  line.text ++ if line.ended then '\n' :: rest else []

/-- The buffer, once the line has been read. -/
theorem fgets_stdin (line : InputLine) (rest : List Char) :
    fgets 1024 (line.stdin rest) =
      some (line.text ++ (if line.ended then ['\n'] else []) ++ ['\x00']) := by
  have hne : line.stdin rest ≠ [] := by
    rw [stdin]
    by_cases hended : line.ended = true
    · rw [if_pos hended]
      exact List.append_ne_nil_of_right_ne_nil _ (List.cons_ne_nil _ _)
    · exact List.append_ne_nil_of_left_ne_nil
        (line.ne_nil (Bool.eq_false_of_not_eq_true hended)) _
  have htext : ∀ c ∈ line.text, decide (c ≠ '\n') = true := fun c hc =>
    decide_eq_true fun heq => line.newline_not_mem (heq ▸ hc)
  have hline : (line.stdin rest).takeWhile (· ≠ '\n') = line.text := by
    rw [stdin, List.takeWhile_append_of_pos htext]
    split
    · exact List.append_nil _
    · exact List.append_nil _
  have hbehind : ((line.stdin rest).drop line.text.length).take 1 =
      if line.ended then ['\n'] else [] := by
    rw [stdin, List.drop_left]
    split <;> rfl
  have hshort : (line.text ++ if line.ended then ['\n'] else []).length ≤ 1024 - 1 := by
    have hlt := line.short
    cases hended : line.ended <;> rw [hended] at hlt <;>
      simp only [List.length_append, Bool.toNat_true, Bool.toNat_false, List.length_cons,
        List.length_nil, if_true, if_false, Bool.false_eq_true] at hlt ⊢ <;> omega
  unfold fgets
  split
  next hnil => exact absurd hnil hne
  next => simp only [hline, hbehind, List.take_of_length_le hshort]

end InputLine

theorem strlen_eq {text : List Char} (hnul : '\x00' ∉ text) (rest : List Char) :
    strlen (text ++ '\x00' :: rest) = text.length := by
  have htext : ∀ c ∈ text, decide (c ≠ '\x00') = true := fun c hc =>
    decide_eq_true fun heq => hnul (heq ▸ hc)
  rw [strlen, List.takeWhile_append_of_pos htext]
  exact congrArg List.length (List.append_nil text)

/-- A text in the buffer, without a newline behind it. -/
theorem trimNewline_of_nul {text : List Char} (hnul : '\x00' ∉ text) (hnewline : '\n' ∉ text)
    (rest : List Char) :
    trimNewline (text ++ '\x00' :: rest) = (text ++ '\x00' :: rest, text.length) := by
  rw [trimNewline, strlen_eq hnul]
  refine if_neg ?_
  rintro ⟨hpos, hbyte⟩
  obtain rfl | ⟨before, c, rfl⟩ := List.eq_nil_or_concat' text
  · exact absurd hpos (Nat.lt_irrefl 0)
  · rw [List.length_append, List.length_singleton, Nat.add_sub_cancel, List.append_assoc,
      List.singleton_append, byteAt_append] at hbyte
    exact hnewline (hbyte ▸ List.mem_append_right _ (List.mem_singleton_self c))

/-- A text in the buffer, with one. -/
theorem trimNewline_of_newline {text : List Char} (hnul : '\x00' ∉ text) (rest : List Char) :
    trimNewline (text ++ '\n' :: '\x00' :: rest) =
      (text ++ '\x00' :: '\x00' :: rest, text.length) := by
  have hnul' : '\x00' ∉ text ++ ['\n'] := by
    rw [List.mem_append, not_or]
    exact ⟨hnul, by decide⟩
  have hlen := strlen_eq hnul' rest
  rw [List.append_assoc, List.singleton_append, List.length_append, List.length_singleton] at hlen
  rw [trimNewline, hlen]
  simp only [Nat.add_sub_cancel, byteAt_append, Nat.zero_lt_succ, true_and, if_true]
  rw [List.set_append_right _ _ (Nat.le_refl _), Nat.sub_self]
  rfl

/-- Text and buffer when the loops start. -/
theorem exists_trimNewline (line : InputLine) :
    ∃ text rest, trimNewline (line.text ++ (if line.ended then ['\n'] else []) ++ ['\x00']) =
        (text ++ '\x00' :: rest, text.length) ∧
      ('\x00' ∉ line.text ∧ text = line.text ∨
        ∃ behind, line.text = text ++ '\x00' :: behind) := by
  by_cases hnul : '\x00' ∈ line.text
  · obtain ⟨before, behind, heq, hbefore⟩ := List.eq_append_cons_of_mem hnul
    refine ⟨before, behind ++ (if line.ended then ['\n'] else []) ++ ['\x00'], ?_,
      .inr ⟨behind, heq⟩⟩
    have hnewline : '\n' ∉ before := fun hmem =>
      line.newline_not_mem (heq ▸ List.mem_append_left _ hmem)
    rw [heq, List.append_assoc, List.append_assoc, List.cons_append, ← List.append_assoc behind]
    exact trimNewline_of_nul hbefore hnewline _
  · by_cases hended : line.ended = true
    · refine ⟨line.text, ['\x00'], ?_, .inl ⟨hnul, rfl⟩⟩
      rw [if_pos hended, List.append_assoc]
      exact trimNewline_of_newline hnul []
    · refine ⟨line.text, [], ?_, .inl ⟨hnul, rfl⟩⟩
      rw [if_neg hended, List.append_nil]
      exact trimNewline_of_nul hnul line.newline_not_mem []

section Result

variable {κ : Type} {isattyStdin isattyStdout : Bool} {prompt defaultValue : Option κ}

/-- **What is returned for a line.** -/
theorem copyStringFromStdin_trims_iff (line : InputLine) (rest : List Char)
    (hdefault : ∀ value, copyStringFromStdin isattyStdin isattyStdout prompt defaultValue
      (line.stdin rest) ≠ .defaultValue value) :
    copyStringFromStdin isattyStdin isattyStdout prompt defaultValue (line.stdin rest) =
      .string (trimBlanks line.text) ↔ TrimsExactly line.text := by
  obtain ⟨text, rest', hnewline, htext⟩ := exists_trimNewline line
  have hfront := trimFront_eq [] text ('\x00' :: rest')
  rw [List.nil_append, List.length_nil, Nat.zero_add] at hfront
  have hstring : copyStringFromStdin isattyStdin isattyStdout prompt defaultValue
      (line.stdin rest) = .string (trimmedBytes text) := by
    rw [copyStringFromStdin, line.fgets_stdin rest] at hdefault ⊢
    simp only [hnewline] at hdefault ⊢
    split
    next value hprompt hlen =>
      rw [hprompt, hlen] at hdefault
      exact absurd rfl (hdefault value)
    · simp only [hfront]
      exact congrArg _ (loops_eq text _)
  rw [hstring, StdinResult.string.injEq]
  obtain ⟨hnul, rfl⟩ | ⟨behind, heq⟩ := htext
  · exact trimmedBytes_eq_iff hnul
  · refine iff_of_false (heq ▸ trimmedBytes_ne text behind) fun hexact => hexact.1 ?_
    rw [heq]
    exact List.mem_append_right _ List.mem_cons_self

/-- `ab` and white space. -/
theorem copyStringFromStdin_trims_ab :
    copyStringFromStdin true true (none : Option String) none ['a', 'b', ' ', '\t', '\n'] =
      .string ['a', 'b'] :=
  (copyStringFromStdin_trims_iff
    { text := ['a', 'b', ' ', '\t'], newline_not_mem := by decide, ended := true,
      short := by decide, ne_nil := nofun } [] nofun).mpr (by decide)

/-- White space, `ab` and white space: what is behind stays. -/
theorem not_copyStringFromStdin_trims :
    ¬∀ (line : InputLine) (rest : List Char),
      copyStringFromStdin true true (none : Option String) none (line.stdin rest) =
        .string (trimBlanks line.text) := by
  intro h
  have htrim := h { text := [' ', ' ', 'a', 'b', ' ', ' '], newline_not_mem := by decide,
                    ended := true, short := by decide, ne_nil := nofun } []
  exact absurd htrim (by decide)

end Result

end ConfigdExtra
