import ConfigdExtra.CommandLine

/-!
# `getString`, access by access

`getString` of `CommandLine` is a function of the bytes it works on. Here are its two passes as
the source runs them, with a cursor that moves over the line and an allocated block that is
written byte by byte. A byte is a character; a read behind the NUL that ends the line and a write
outside the block are faults, `none`.

* `LineBuffer`, `Block` — a line up to its NUL, and an allocated block.
* `scanPass`, `copyPass`, `getStringAt` — the first pass, the second, and the whole call.
* `copyPass_eq` — the block is large enough, whatever the two passes make of the line.
* `getStringAt_eq` — from a cursor in the line, a call is what `getString` says.
-/

namespace ConfigdExtra

/-! ## Accesses -/

/-- A line in its buffer. -/
structure LineBuffer where
  /-- the line -/
  text : List Char
  /-- the NUL behind it is the first -/
  nul_not_mem : '\x00' ∉ text

namespace LineBuffer

/-- The bytes of a line, with its NUL. -/
def bytes (l : LineBuffer) : List Char := l.text ++ ['\x00']

/-- Where the NUL is. -/
def nul (l : LineBuffer) : ℕ := l.text.length

/-- Read a byte. Nothing is known of the bytes behind the NUL. -/
def read (l : LineBuffer) (p : ℕ) : Option Char := l.bytes[p]?

end LineBuffer

/-- An allocated block; `none` is a byte that has not been written. -/
abbrev Block : Type := List (Option Char)

/-- `malloc` -/
def malloc (size : ℕ) : Block := List.replicate size none

/-- Write a byte of a block. -/
def Block.write (string : Block) (i : ℕ) (c : Char) : Option Block :=
  if i < string.length then some (string.set i (some c)) else none

/-- The string in a block, up to its NUL. -/
def Block.text : Block → Option (List Char)
  | [] => none
  | none :: _ => none
  | some c :: string => if c = '\x00' then some [] else (Block.text string).map (c :: ·)

/-! ## The passes -/

/-- A character that is read is in the buffer. -/
theorem LineBuffer.lt_of_read {l : LineBuffer} {p : ℕ} {c : Char} (h : l.read p = some c) :
    p < l.bytes.length := (List.getElem?_eq_some_iff.mp h).1

/-- `while (isspace(**line)) *line += 1` -/
def skipSpaces (l : LineBuffer) (line : ℕ) : Option ℕ :=
  match h : l.read line with
  | none => none
  | some c => if isSpace c then skipSpaces l (line + 1) else some line
termination_by l.bytes.length - line
decreasing_by
  have := LineBuffer.lt_of_read h
  omega

/-- The loop over `e`, which also counts `escaped`. -/
def scanEnd (l : LineBuffer) (isQuoted : Bool) (e escaped : ℕ) : Option (ℕ × ℕ) :=
  match h : l.read e with
  | none => none
  | some c =>
    if c = '\x00' then some (e, escaped)
    else if isQuoted && c == '"' then some (e, escaped)
    else if c = '\\' then
      match l.read (e + 1) with
      | none => none
      | some d =>
        -- premature end of string
        if d = '\x00' then some (e + 1, escaped)
        else scanEnd l isQuoted (e + 2) (if d == '"' || isSpace d then escaped + 1 else escaped)
    else if !isQuoted && isSpace c then some (e, escaped)
    else scanEnd l isQuoted (e + 1) escaped
termination_by l.bytes.length - e
decreasing_by
  all_goals
    have := LineBuffer.lt_of_read h
    omega

/-- What the first pass finds: the string is `s` to `e - 1`. -/
structure Scan where
  /-- the string is quoted -/
  isQuoted : Bool
  /-- where it starts -/
  s : ℕ
  /-- where it ends -/
  e : ℕ
  /-- escaped quotes and white space in it -/
  escaped : ℕ

/-- The result of the first pass. -/
inductive ScanResult where
  /-- there is no string: `NULL`, and where the cursor is left -/
  | null (line : ℕ)
  /-- there is one -/
  | scanned (scan : Scan)

/-- `getString` up to the allocation. -/
def scanPass (l : LineBuffer) (line : ℕ) : Option ScanResult := do
  let c ← l.read line
  if c = '\x00' then
    return .null line
  let line ← skipSpaces l line
  let c ← l.read line
  if c = '\x00' then
    return .null line
  let isQuoted := c == '"'
  let s := if isQuoted then line + 1 else line
  let (e, escaped) ← scanEnd l isQuoted s 0
  return .scanned { isQuoted := isQuoted, s := s, e := e, escaped := escaped }

/-- `(s[0] == '\\') && ((s[1] == '"') || isspace(s[1]))` -/
def LineBuffer.isEscape (l : LineBuffer) (s : ℕ) (c : Char) : Option Bool :=
  if c = '\\' then (l.read (s + 1)).map fun d => d == '"' || isSpace d else some false

/-- The copying loop, over `n` bytes from `s`. -/
def copyLoop (l : LineBuffer) : (n s i : ℕ) → Block → Option (ℕ × Block)
  | 0, _, i, string => some (i, string)
  | n + 1, s, i, string => do
    let c ← l.read s
    let string ← string.write i c
    let escape ← l.isEscape s c
    copyLoop l n (s + 1) (if escape then i else i + 1) string

/-- `getString` from the allocation. -/
def copyPass (l : LineBuffer) (scan : Scan) : Option (List Char) := do
  let string := malloc (scan.e - scan.s - scan.escaped + 1)
  let (i, string) ← copyLoop l (scan.e - scan.s) scan.s 0 string
  let string ← string.write i '\x00'
  string.text

/-- What a call returns, and where it leaves the cursor. -/
structure StringCall where
  /-- the string, or `NULL` -/
  string : Option (List Char)
  /-- `*line` -/
  line : ℕ
  deriving DecidableEq

/-- `getString`, called with the cursor at `line`. -/
def getStringAt (l : LineBuffer) (line : ℕ) : Option StringCall := do
  match ← scanPass l line with
  | .null line => return { string := none, line := line }
  | .scanned scan =>
    let string ← copyPass l scan
    -- move past the end of a quoted string
    return { string := some string, line := if scan.isQuoted then scan.e + 1 else scan.e }

/-! ## The first pass -/

namespace LineBuffer

variable {l : LineBuffer} {p : ℕ} {c : Char} {cs : List Char}

theorem length_bytes (l : LineBuffer) : l.bytes.length = l.nul + 1 := by
  rw [bytes, List.length_append, List.length_singleton, nul]

theorem read_eq_head? (l : LineBuffer) (p : ℕ) : l.read p = (l.bytes.drop p).head? := by
  rw [read, List.head?_drop]

theorem read_of_drop (h : l.bytes.drop p = c :: cs) : l.read p = some c := by
  rw [read_eq_head?, h, List.head?_cons]

theorem drop_succ_of_drop (h : l.bytes.drop p = c :: cs) : l.bytes.drop (p + 1) = cs := by
  rw [← List.tail_drop, h, List.tail_cons]

/-- The NUL of a line is its last byte. -/
theorem eq_nil_of_drop (h : l.bytes.drop p = '\x00' :: cs) : p = l.nul ∧ cs = [] := by
  have hlt : p < l.bytes.length := lt_of_read (read_of_drop h)
  rw [length_bytes] at hlt
  have hp : p = l.nul := by
    by_contra hne
    have hget : l.read p = l.text[p]? :=
      List.getElem?_append_left (by rw [← nul]; omega)
    rw [read_of_drop h] at hget
    exact l.nul_not_mem (List.mem_of_getElem? hget.symm)
  refine ⟨hp, ?_⟩
  rw [← drop_succ_of_drop h, List.drop_eq_nil_iff, length_bytes]
  omega

/-- Up to the NUL there is a byte to read. -/
theorem exists_drop (hp : p ≤ l.nul) : ∃ c cs, l.bytes.drop p = c :: cs := by
  cases h : l.bytes.drop p with
  | nil =>
    rw [List.drop_eq_nil_iff, length_bytes] at h
    omega
  | cons c cs => exact ⟨c, cs, rfl⟩

/-- Behind the text there is the terminator, and no more. -/
theorem drop_nul (l : LineBuffer) : l.bytes.drop l.nul = ['\x00'] := by
  rw [bytes, nul, List.drop_left]

/-- A byte other than the NUL is before it. -/
theorem lt_nul_of_drop (hp : p ≤ l.nul) (h : l.bytes.drop p = c :: cs) (hc : c ≠ '\x00') :
    p < l.nul := by
  refine lt_of_le_of_ne hp ?_
  rintro rfl
  rw [drop_nul] at h
  exact hc (List.cons.inj h).1.symm

/-- The scan of the spaces stops at the terminator at the latest. -/
theorem skipSpaces_eq (hp : p ≤ l.nul) :
    ∃ q, skipSpaces l p = some q ∧ q ≤ l.nul ∧
      l.bytes.drop q = (l.bytes.drop p).dropWhile isSpace := by
  fun_induction skipSpaces l p with
  | case1 p h =>
    obtain ⟨c, cs, hdrop⟩ := exists_drop hp
    rw [read_of_drop hdrop] at h
    cases h
  | case2 p c h hspace ih =>
    obtain ⟨c', cs, hdrop⟩ := exists_drop hp
    obtain rfl := Option.some.inj (h.symm.trans (read_of_drop hdrop))
    have hlt : p < l.nul := lt_nul_of_drop hp hdrop (by
      rintro rfl
      exact absurd hspace (by decide))
    obtain ⟨q, hq, hle, hdrop'⟩ := ih hlt
    refine ⟨q, hq, hle, ?_⟩
    rw [hdrop', drop_succ_of_drop hdrop, hdrop, List.dropWhile_cons_of_pos hspace]
  | case3 p c h hspace =>
    obtain ⟨c', cs, hdrop⟩ := exists_drop hp
    obtain rfl := Option.some.inj (h.symm.trans (read_of_drop hdrop))
    refine ⟨p, rfl, hp, ?_⟩
    rw [hdrop, List.dropWhile_cons_of_neg hspace]

end LineBuffer

/-- The backslashes the first pass counts: pairs of a backslash and a quote or white space. -/
def countEscaped : List Char → ℕ
  | [] => 0
  | [_] => 0
  | c :: d :: cs =>
    if c = '\\' then (if d == '"' || isSpace d then 1 else 0) + countEscaped cs
    else countEscaped (d :: cs)

/-- Only a backslash is counted. -/
theorem countEscaped_cons {c : Char} (h : c ≠ '\\') (cs : List Char) :
    countEscaped (c :: cs) = countEscaped cs := by
  cases cs with
  | nil => rfl
  | cons d cs => rw [countEscaped, if_neg h]

namespace LineBuffer

variable {l : LineBuffer} {e : ℕ}

/-- The first pass scans what `scanString` does, and counts its escapes. -/
theorem scanEnd_eq (isQuoted : Bool) (escaped : ℕ) (he : e ≤ l.nul) :
    scanEnd l isQuoted e escaped =
        some (e + (scanString isQuoted (l.bytes.drop e)).1.length,
          escaped + countEscaped (scanString isQuoted (l.bytes.drop e)).1) ∧
      e + (scanString isQuoted (l.bytes.drop e)).1.length ≤ l.nul ∧
      l.bytes.drop (e + (scanString isQuoted (l.bytes.drop e)).1.length) =
        (scanString isQuoted (l.bytes.drop e)).2 := by
  fun_induction scanEnd l isQuoted e escaped with
  | case1 e escaped h =>
    obtain ⟨c, cs, hdrop⟩ := exists_drop he
    rw [read_of_drop hdrop] at h
    -- within the line there is always a character to read
    cases h
  | case2 e escaped h =>
    obtain ⟨c, cs, hdrop⟩ := exists_drop he
    obtain rfl := Option.some.inj (h.symm.trans (read_of_drop hdrop))
    rw [hdrop, scanString.eq_def]
    exact ⟨rfl, he, hdrop⟩
  | case3 e escaped c h hnul hquote =>
    obtain ⟨c', cs, hdrop⟩ := exists_drop he
    obtain rfl := Option.some.inj (h.symm.trans (read_of_drop hdrop))
    rw [hdrop, scanString.eq_def]
    simp only [hnul, hquote, if_true, if_false]
    exact ⟨rfl, he, hdrop⟩
  | case4 e escaped hnext h hnul hquote =>
    obtain ⟨c', cs, hdrop⟩ := exists_drop he
    obtain rfl := Option.some.inj (h.symm.trans (read_of_drop hdrop))
    obtain ⟨d, ds, hdrop'⟩ := exists_drop (lt_nul_of_drop he hdrop hnul)
    rw [read_of_drop hdrop'] at hnext
    cases hnext
  | case5 e escaped h hnul hquote hnext =>
    obtain ⟨c', cs, hdrop⟩ := exists_drop he
    obtain rfl := Option.some.inj (h.symm.trans (read_of_drop hdrop))
    have hlt := lt_nul_of_drop he hdrop hnul
    obtain ⟨d, ds, hdrop'⟩ := exists_drop hlt
    obtain rfl := Option.some.inj (hnext.symm.trans (read_of_drop hdrop'))
    obtain rfl : cs = '\x00' :: ds := (drop_succ_of_drop hdrop).symm.trans hdrop'
    rw [hdrop, scanString.eq_def]
    -- a backslash, and then the end
    simp only [hnul, hquote, if_true, if_false, Bool.false_eq_true]
    exact ⟨rfl, hlt, hdrop'⟩
  | case6 e escaped d hnext hd h hnul hquote ih =>
    obtain ⟨c', cs, hdrop⟩ := exists_drop he
    obtain rfl := Option.some.inj (h.symm.trans (read_of_drop hdrop))
    have hlt := lt_nul_of_drop he hdrop hnul
    obtain ⟨d', ds, hdrop'⟩ := exists_drop hlt
    obtain rfl := Option.some.inj (hnext.symm.trans (read_of_drop hdrop'))
    obtain rfl : cs = d :: ds := (drop_succ_of_drop hdrop).symm.trans hdrop'
    -- a backslash and the character behind it are passed over together
    have hds : l.bytes.drop (e + 2) = ds := drop_succ_of_drop hdrop'
    obtain ⟨hscan, hle, hrest⟩ := ih (lt_nul_of_drop hlt hdrop' hd)
    rw [hds] at hscan hle hrest
    rw [hdrop, scanString.eq_def]
    simp only [hnul, hquote, hd, if_true, if_false, List.length_cons, countEscaped,
      Bool.false_eq_true]
    refine ⟨hscan.trans ?_, ?_, ?_⟩
    · congr 2
      · omega
      · split <;> omega
    · omega
    · rw [← hrest]
      congr 1
      omega
  | case7 e escaped c h hnul hquote hback hspace =>
    obtain ⟨c', cs, hdrop⟩ := exists_drop he
    obtain rfl := Option.some.inj (h.symm.trans (read_of_drop hdrop))
    rw [hdrop, scanString.eq_def]
    simp only [hnul, hquote, hback, hspace, if_true, if_false, Bool.false_eq_true]
    exact ⟨rfl, he, hdrop⟩
  | case8 e escaped c h hnul hquote hback hspace ih =>
    obtain ⟨c', cs, hdrop⟩ := exists_drop he
    obtain rfl := Option.some.inj (h.symm.trans (read_of_drop hdrop))
    have hcs := drop_succ_of_drop hdrop
    obtain ⟨hscan, hle, hrest⟩ := ih (lt_nul_of_drop he hdrop hnul)
    rw [hcs] at hscan hle hrest
    rw [hdrop, scanString.eq_def]
    simp only [hnul, hquote, hback, hspace, if_false, List.length_cons, Bool.false_eq_true]
    refine ⟨hscan.trans ?_, ?_, ?_⟩
    · rw [countEscaped_cons hback]
      congr 2
      omega
    · omega
    · rw [← hrest]
      congr 1
      omega

end LineBuffer

/-! ## The second pass -/

/-- A character adds one at most to what is left of a token. -/
theorem unescape_length_le_succ (after : Option Char) (c : Char) (tok : List Char) :
    (unescape after (c :: tok)).length ≤ (unescape after tok).length + 1 := by
  rw [unescape]
  split_ifs
  · exact Nat.le_succ _
  · exact Nat.le_refl _

/-- What the first pass counts is not more than what the second leaves out. -/
theorem unescape_length_add_countEscaped_le (after : Option Char) (tok : List Char) :
    (unescape after tok).length + countEscaped tok ≤ tok.length := by
  fun_induction countEscaped tok with
  | case1 => exact Nat.le_refl _
  | case2 c => exact unescape_length_le_succ after c []
  | case3 d cs ih =>
    have hd := unescape_length_le_succ after d cs
    by_cases hescape : (d == '"' || isSpace d) = true
    · rw [if_pos hescape, unescape, if_pos ⟨rfl, hescape⟩]
      simp only [List.length_cons]
      omega
    · have hback := unescape_length_le_succ after '\\' (d :: cs)
      rw [if_neg hescape]
      simp only [List.length_cons]
      omega
  | case4 c d cs hback ih =>
    have hc := unescape_length_le_succ after c (d :: cs)
    simp only [List.length_cons] at ih ⊢
    omega

namespace LineBuffer

variable {l : LineBuffer} {p s : ℕ} {c d : Char} {cs ds tok : List Char}

theorem drop_add_of_drop (h : l.bytes.drop p = cs ++ ds) :
    l.bytes.drop (p + cs.length) = ds := by
  rw [← List.drop_drop, h, List.drop_left]

/-- No NUL is before another byte. -/
theorem nul_not_mem_of_drop (h : l.bytes.drop p = cs ++ d :: ds) : '\x00' ∉ cs := by
  intro hmem
  obtain ⟨before, behind, rfl⟩ := List.append_of_mem hmem
  rw [List.append_assoc, List.cons_append] at h
  obtain ⟨-, hnil⟩ := eq_nil_of_drop (drop_add_of_drop h)
  exact List.cons_ne_nil d ds (List.append_eq_nil_iff.mp hnil).2

/-- A backslash escapes a space or a quotation mark, the one behind the token included. -/
theorem isEscape_eq (h : l.bytes.drop s = c :: (tok ++ d :: ds)) :
    l.isEscape s c = some (decide (c = '\\' ∧
      (tok.head?.or (some d)).any fun b => b == '"' || isSpace b)) := by
  obtain ⟨b, hb⟩ : ∃ b, tok.head?.or (some d) = some b := by
    cases tok with
    | nil => exact ⟨d, rfl⟩
    | cons b tok => exact ⟨b, rfl⟩
  have hnext : l.read (s + 1) = some b := by
    rw [read_eq_head?, drop_succ_of_drop h, List.head?_append, List.head?_cons, hb]
  rw [isEscape, hb]
  by_cases hback : c = '\\'
  · rw [if_pos hback, hnext, Option.map_some, Option.any_some]
    simp only [hback, true_and, Bool.decide_eq_true]
  · rw [if_neg hback, decide_eq_false fun hand => hback hand.1]

/-- The loop copies what `unescape` leaves of the string, behind what is in the block. -/
theorem copyLoop_eq {i : ℕ} {string : Block} (copied : List Char)
    (h : l.bytes.drop s = tok ++ d :: ds) (hi : copied.length = i)
    (hcopied : string.take i = copied.map some)
    (hroom : i + (unescape (some d) tok).length < string.length) :
    ∃ string', copyLoop l tok.length s i string =
        some (i + (unescape (some d) tok).length, string') ∧
      string'.length = string.length ∧
      string'.take (i + (unescape (some d) tok).length) =
        (copied ++ unescape (some d) tok).map some := by
  induction tok generalizing s i string copied with
  | nil => exact ⟨string, rfl, rfl, by rwa [unescape, List.append_nil]⟩
  | cons c tok ih =>
    have hwrite : string.write i c = some (string.set i (some c)) := if_pos (by omega)
    have htake : (string.set i (some c)).take i = copied.map some := by
      rw [List.take_set_of_le (Nat.le_refl i), hcopied]
    simp only [List.length_cons, copyLoop, read_of_drop h, isEscape_eq h, Option.bind_eq_bind,
      Option.bind_some, hwrite, decide_eq_true_eq]
    rw [unescape] at hroom ⊢
    split_ifs at hroom ⊢ with hescape
    · obtain ⟨string', hloop, hlength, hstring⟩ :=
        ih copied (drop_succ_of_drop h) hi htake (by rwa [List.length_set])
      exact ⟨string', hloop, hlength.trans List.length_set, hstring⟩
    · have hnext : (string.set i (some c)).take (i + 1) = (copied ++ [c]).map some := by
        rw [List.take_add_one, htake, List.getElem?_set_self (by omega), List.map_append]
        rfl
      rw [List.length_cons] at hroom
      obtain ⟨string', hloop, hlength, hstring⟩ :=
        ih (copied ++ [c]) (drop_succ_of_drop h) (by rw [List.length_append, hi]; rfl) hnext
          (by rw [List.length_set]; omega)
      have hadd : i + 1 + (unescape (some d) tok).length =
          i + (c :: unescape (some d) tok).length := by
        rw [List.length_cons]
        omega
      rw [hadd] at hloop hstring
      refine ⟨string', hloop, hlength.trans List.length_set, ?_⟩
      rw [hstring, List.append_assoc, List.singleton_append]

end LineBuffer

/-- A block that holds a string and its NUL. -/
theorem Block.text_eq {string : Block} {copied : List Char} (hnul : '\x00' ∉ copied)
    (h : string.take copied.length = copied.map some)
    (hend : string[copied.length]? = some (some '\x00')) : string.text = some copied := by
  induction copied generalizing string with
  | nil =>
    cases string with
    | nil => cases hend
    | cons b string =>
      obtain rfl := Option.some.inj hend
      rfl
  | cons c copied ih =>
    cases string with
    | nil => cases hend
    | cons b string =>
      rw [List.length_cons, List.take_succ_cons, List.map_cons] at h
      obtain ⟨rfl, hcopied⟩ := List.cons.inj h
      rw [List.mem_cons, not_or] at hnul
      obtain ⟨hc, hnul'⟩ := hnul
      rw [Block.text, if_neg (Ne.symm hc), ih hnul' hcopied hend, Option.map_some]

/-- Nothing is added to a token. -/
theorem mem_of_mem_unescape {after : Option Char} {c : Char} {tok : List Char}
    (h : c ∈ unescape after tok) : c ∈ tok := by
  induction tok with
  | nil => exact h
  | cons b tok ih =>
    rw [unescape] at h
    split_ifs at h
    · exact List.mem_cons_of_mem _ (ih h)
    · obtain rfl | hmem := List.mem_cons.mp h
      · exact List.mem_cons_self
      · exact List.mem_cons_of_mem _ (ih hmem)

/-- The scan cuts the line in two. -/
theorem scanString_append (isQuoted : Bool) (line : List Char) :
    (scanString isQuoted line).1 ++ (scanString isQuoted line).2 = line := by
  fun_induction scanString isQuoted line with
  | case1 | case2 | case3 | case4 | case5 | case7 => rfl
  | case6 _ _ _ _ _ _ ih => exact congrArg _ (congrArg _ ih)
  | case8 _ _ _ _ _ _ _ ih => exact congrArg _ ih

namespace LineBuffer

variable {l : LineBuffer} {p s : ℕ} {c d : Char} {cs ds tok : List Char}

/-- The block has room for every byte of the second pass. -/
theorem copyPass_eq (scan : Scan) (h : l.bytes.drop scan.s = tok ++ d :: ds)
    (he : scan.e = scan.s + tok.length) (hescaped : scan.escaped = countEscaped tok) :
    copyPass l scan = some (unescape (some d) tok) := by
  have hroom := unescape_length_add_countEscaped_le (some d) tok
  have hn : scan.e - scan.s = tok.length := by omega
  have hsize : (malloc (scan.e - scan.s - scan.escaped + 1)).length =
      scan.e - scan.s - scan.escaped + 1 := List.length_replicate
  have hfits : 0 + (unescape (some d) tok).length <
      (malloc (scan.e - scan.s - scan.escaped + 1)).length := by omega
  obtain ⟨string, hloop, hlength, hstring⟩ := copyLoop_eq [] h rfl rfl hfits
  rw [List.length_nil, Nat.zero_add] at hloop hstring
  have hin : (unescape (some d) tok).length < string.length := by omega
  have hwrite : string.write (unescape (some d) tok).length '\x00' =
      some (string.set (unescape (some d) tok).length (some '\x00')) := if_pos hin
  rw [copyPass]
  simp only [hn] at hloop ⊢
  simp only [hloop, Option.bind_eq_bind, Option.bind_some, hwrite]
  refine Block.text_eq (fun hmem => nul_not_mem_of_drop h (mem_of_mem_unescape hmem)) ?_ ?_
  · rw [List.take_set_of_le (Nat.le_refl _), hstring, List.nil_append]
  · rw [List.getElem?_set_self hin]

/-- The first pass: the string it finds, its escapes, and what is behind it. -/
theorem scanEnd_spec (isQuoted : Bool) (hs : s ≤ l.nul) :
    ∃ tok d ds, scanString isQuoted (l.bytes.drop s) = (tok, d :: ds) ∧
      l.bytes.drop s = tok ++ d :: ds ∧ s + tok.length ≤ l.nul ∧
      scanEnd l isQuoted s 0 = some (s + tok.length, countEscaped tok) := by
  obtain ⟨hscan, hle, hrest⟩ := scanEnd_eq isQuoted 0 hs
  obtain ⟨d, ds, hdrop⟩ := exists_drop hle
  have hds : (scanString isQuoted (l.bytes.drop s)).2 = d :: ds := hrest.symm.trans hdrop
  refine ⟨_, d, ds, Prod.ext rfl hds, ?_, hle, ?_⟩
  · rw [← hds, scanString_append]
  · rw [hscan, Nat.zero_add]

end LineBuffer

theorem getString_eq_none {line cs : List Char} (h : line.dropWhile isSpace = '\x00' :: cs) :
    getString line = none := by
  unfold getString
  split
  · rfl
  · rfl
  · simp only [h]

theorem getString_eq_some {line cs : List Char} {c : Char} (h : line.dropWhile isSpace = c :: cs)
    (hc : c ≠ '\x00') :
    getString line =
      let isQuoted := c == '"'
      let r := scanString isQuoted (if isQuoted then cs else c :: cs)
      some (unescape r.2.head? r.1, if isQuoted then r.2.tail else r.2) := by
  unfold getString
  split
  · cases h
  · obtain rfl := (List.cons.inj h).1
    exact absurd rfl hc
  · rw [h]
    split
    next heq => cases heq
    next heq => exact absurd (List.cons.inj heq).1 hc
    next heq =>
      obtain ⟨rfl, rfl⟩ := List.cons.inj heq
      rfl

/-! ## A call -/

namespace LineBuffer

variable {l : LineBuffer} {p : ℕ} {scan : Scan} {tok : List Char} {d : Char} {ds : List Char}

/-- From this cursor, the first pass finds the string `tok`, and `d :: ds` behind it. -/
structure Found (l : LineBuffer) (p : ℕ) (scan : Scan) (tok : List Char) (d : Char)
    (ds : List Char) : Prop where
  /-- the pass -/
  scanPass_eq : scanPass l p = some (.scanned scan)
  /-- the quote, if there is one, is not in it -/
  line_eq : (l.bytes.drop p).dropWhile isSpace =
    if scan.isQuoted then '"' :: l.bytes.drop scan.s else l.bytes.drop scan.s
  /-- a string without a quote has a first character -/
  word : scan.isQuoted = false →
    ∃ c cs, l.bytes.drop scan.s = c :: cs ∧ c ≠ '\x00' ∧ isSpace c = false ∧ (c == '"') = false
  /-- where it ends -/
  scanString_eq : scanString scan.isQuoted (l.bytes.drop scan.s) = (tok, d :: ds)
  /-- what is behind it -/
  drop_s : l.bytes.drop scan.s = tok ++ d :: ds
  /-- the cursor at its end -/
  e_eq : scan.e = scan.s + tok.length
  /-- is in the line -/
  e_le : scan.e ≤ l.nul
  /-- the escapes in it -/
  escaped_eq : scan.escaped = countEscaped tok

/-- From a cursor in the line, the first pass finds no string, or one. -/
theorem scanPass_cases (hp : p ≤ l.nul) :
    (scanPass l p = some (.null l.nul) ∧ (l.bytes.drop p).dropWhile isSpace = ['\x00']) ∨
      ∃ scan tok d ds, l.Found p scan tok d ds := by
  obtain ⟨b, bs, hb⟩ := exists_drop hp
  obtain ⟨q, hskip, hq, hdropWhile⟩ := skipSpaces_eq hp
  obtain ⟨c, cs, hdrop⟩ := exists_drop hq
  have hline : (l.bytes.drop p).dropWhile isSpace = c :: cs := hdropWhile.symm.trans hdrop
  rw [scanPass, read_of_drop hb]
  simp only [Option.bind_eq_bind, Option.bind_some]
  by_cases hb0 : b = '\x00'
  · obtain rfl := hb0
    obtain ⟨rfl, rfl⟩ := eq_nil_of_drop hb
    left
    rw [if_pos rfl, hb]
    exact ⟨rfl, rfl⟩
  rw [if_neg hb0, hskip]
  simp only [Option.bind_some, read_of_drop hdrop]
  by_cases hc0 : c = '\x00'
  · obtain rfl := hc0
    obtain ⟨rfl, rfl⟩ := eq_nil_of_drop hdrop
    left
    rw [if_pos rfl, hline]
    exact ⟨rfl, rfl⟩
  rw [if_neg hc0]
  right
  by_cases hquoted : (c == '"') = true
  · obtain rfl : c = '"' := eq_of_beq hquoted
    have hlt : q + 1 ≤ l.nul := lt_nul_of_drop hq hdrop hc0
    obtain ⟨tok, d, ds, hscan, htok, hle, hend⟩ := scanEnd_spec true hlt
    refine ⟨⟨true, q + 1, q + 1 + tok.length, countEscaped tok⟩, tok, d, ds, ?_, ?_, nofun,
      hscan, htok, rfl, hle, rfl⟩
    · simp only [scanPass, read_of_drop hb, Option.bind_eq_bind, Option.bind_some, if_neg hb0,
        hskip, read_of_drop hdrop, if_neg hc0, hquoted, if_true, hend, Option.pure_def]
    · rw [hline, if_pos rfl, drop_succ_of_drop hdrop]
  · rw [Bool.not_eq_true] at hquoted
    have hspace : isSpace c = false := by
      have hhead := List.head?_dropWhile_not isSpace (l.bytes.drop p)
      rw [hline] at hhead
      simpa using hhead
    obtain ⟨tok, d, ds, hscan, htok, hle, hend⟩ := scanEnd_spec false hq
    refine ⟨⟨false, q, q + tok.length, countEscaped tok⟩, tok, d, ds, ?_, ?_,
      fun _ => ⟨c, cs, hdrop, hc0, hspace, hquoted⟩, hscan, htok, rfl, hle, rfl⟩
    · simp only [scanPass, read_of_drop hb, Option.bind_eq_bind, Option.bind_some, if_neg hb0,
        hskip, read_of_drop hdrop, if_neg hc0, hquoted, Bool.false_eq_true, if_false, hend,
        Option.pure_def]
    · rw [hline, if_neg Bool.false_ne_true, hdrop]

/-- A line whose first character is `c` has a string there, quoted or not. -/
theorem exists_found_of_line {c : Char} {cs : List Char} (hp : p ≤ l.nul)
    (hline : (l.bytes.drop p).dropWhile isSpace = c :: cs) (hc : c ≠ '\x00') :
    ∃ scan tok d ds, l.Found p scan tok d ds ∧ scan.isQuoted = (c == '"') ∧
      l.bytes.drop scan.s = if c == '"' then cs else c :: cs := by
  obtain ⟨-, hnull⟩ | ⟨scan, tok, d, ds, h⟩ := scanPass_cases hp
  · exact absurd (List.cons.inj (hline.symm.trans hnull)).1 hc
  refine ⟨scan, tok, d, ds, h, ?_⟩
  have heq := hline.symm.trans h.line_eq
  by_cases hquoted : scan.isQuoted = true
  · rw [if_pos hquoted] at heq
    obtain ⟨rfl, rfl⟩ := List.cons.inj heq
    exact ⟨hquoted, rfl⟩
  · rw [if_neg hquoted] at heq
    rw [Bool.not_eq_true] at hquoted
    obtain ⟨c', cs', hdrop, -, -, hword⟩ := h.word hquoted
    obtain ⟨rfl, rfl⟩ := List.cons.inj (heq.trans hdrop)
    rw [hquoted, hword, if_neg Bool.false_ne_true]
    exact ⟨rfl, hdrop⟩

/-- What a pass has scanned is a token, and the character that ended it. -/
theorem exists_found (h : scanPass l p = some (.scanned scan)) :
    ∃ tok d ds, l.Found p scan tok d ds := by
  have hp : p ≤ l.nul := by
    by_contra hlt
    have hread : l.read p = none := by
      rw [read, List.getElem?_eq_none_iff, length_bytes]
      omega
    rw [scanPass, hread] at h
    cases h
  obtain ⟨hnull, -⟩ | ⟨scan', tok, d, ds, hfound⟩ := scanPass_cases hp
  · rw [hnull] at h
    cases h
  · obtain rfl : scan' = scan := by
      rw [hfound.scanPass_eq] at h
      cases h
      rfl
    exact ⟨tok, d, ds, hfound⟩

/-- The cursor is left at the character that ended the token. -/
theorem Found.drop_e (h : l.Found p scan tok d ds) : l.bytes.drop scan.e = d :: ds := by
  rw [h.e_eq, drop_add_of_drop h.drop_s]

/-- The token is the one that the scan without a buffer finds. -/
theorem Found.getString_eq (h : l.Found p scan tok d ds) :
    getString (l.bytes.drop p) =
      some (unescape (some d) tok, if scan.isQuoted then ds else d :: ds) := by
  have hline := h.line_eq
  have hscan := h.scanString_eq
  by_cases hquoted : scan.isQuoted = true
  · rw [if_pos hquoted] at hline ⊢
    rw [hquoted] at hscan
    rw [getString_eq_some hline (by decide)]
    simp only [beq_self_eq_true, if_true, hscan, List.head?_cons, List.tail_cons]
  · rw [Bool.not_eq_true] at hquoted
    obtain ⟨c, cs, hdrop, hc0, -, hc⟩ := h.word hquoted
    rw [hquoted, if_neg Bool.false_ne_true, hdrop] at hline
    rw [hquoted, hdrop] at hscan
    rw [getString_eq_some hline hc0, hquoted]
    simp only [hc, Bool.false_eq_true, if_false, hscan, List.head?_cons]

/-- The character that ends a quoted token is passed over. One that ends a word is not. -/
theorem Found.getStringAt_eq (h : l.Found p scan tok d ds) :
    getStringAt l p = some { string := some (unescape (some d) tok),
                             line := if scan.isQuoted then scan.e + 1 else scan.e } := by
  rw [getStringAt, h.scanPass_eq]
  simp only [Option.bind_eq_bind, Option.bind_some, copyPass_eq scan h.drop_s h.e_eq h.escaped_eq,
    Option.pure_def]

/-- From a cursor in the line, a call returns what `getString` does, and leaves the cursor behind
what that takes. -/
theorem getStringAt_eq (hp : p ≤ l.nul) :
    getStringAt l p = some (match getString (l.bytes.drop p) with
      | none => { string := none, line := l.nul }
      | some (string, rest) =>
        { string := some string, line := l.bytes.length - rest.length }) := by
  obtain ⟨hnull, hline⟩ | ⟨scan, tok, d, ds, h⟩ := scanPass_cases hp
  · rw [getStringAt, hnull, getString_eq_none hline]
    rfl
  · have hrest : scan.e + ds.length = l.nul := by
      have hlength := congrArg List.length h.drop_e
      have hle := h.e_le
      rw [List.length_drop, length_bytes, List.length_cons] at hlength
      omega
    rw [h.getStringAt_eq, h.getString_eq]
    simp only [length_bytes]
    split
    · congr 2
      omega
    · congr 2
      rw [List.length_cons]
      omega

end LineBuffer

end ConfigdExtra
