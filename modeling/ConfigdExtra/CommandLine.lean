import ConfigdExtra.ScutilOptions

/-!
# Command lines of `scutil`

* `getString`, `arguments` — how a line is broken up.
* `CommandInfo`, `doCommand` — how a command is found, and its arguments are counted.
-/

namespace ConfigdExtra

/-! ## Lines -/

/-- `LINE_LENGTH` -/
def lineLength : ℕ := 2048

/-- Where `getString` stops: at a quote if the string is quoted, else at white space. -/
def scanString (isQuoted : Bool) : List Char → List Char × List Char
  | [] => ([], [])
  | c :: cs =>
    if c = '\x00' then ([], c :: cs)
    else if isQuoted && c == '"' then ([], c :: cs)
    else if c = '\\' then
      match cs with
      | [] => ([c], [])
      | d :: ds =>
        if d = '\x00' then ([c], d :: ds)
        else
          let r := scanString isQuoted ds
          (c :: d :: r.1, r.2)
    else if !isQuoted && isSpace c then ([], c :: cs)
    else
      let r := scanString isQuoted cs
      (c :: r.1, r.2)

/-- The backslashes before quotes and white space go; `after` is what follows the string. -/
def unescape (after : Option Char) : List Char → List Char
  | [] => []
  | c :: cs =>
    if c = '\\' ∧ ((cs.head?.or after).any fun d => d == '"' || isSpace d) then unescape after cs
    else c :: unescape after cs

/-- `getString`: the next string of a line, and the rest of its buffer. A string whose quote is not
closed ends with the line, and the rest is what follows in the buffer. -/
def getString (line : List Char) : Option (List Char × List Char) :=
  match line with
  | [] | '\x00' :: _ => none
  | line =>
    match line.dropWhile isSpace with
    | [] | '\x00' :: _ => none
    | c :: cs =>
      let isQuoted := c == '"'
      let r := scanString isQuoted (if isQuoted then cs else c :: cs)
      some (unescape r.2.head? r.1, if isQuoted then r.2.tail else r.2)

theorem scanString_length (isQuoted : Bool) (line : List Char) :
    (scanString isQuoted line).2.length ≤ line.length := by
  fun_induction scanString isQuoted line with
  | case1 | case2 | case3 | case4 | case5 | case7 => simp
  | case6 _ _ _ _ _ _ ih => exact ih.trans (by simp only [List.length_cons]; omega)
  | case8 _ _ _ _ _ _ _ ih => exact ih.trans (by simp)

/-- Something is read of a string that is not quoted. -/
theorem scanString_length_lt {c : Char} {cs : List Char} (hend : c ≠ '\x00')
    (hspace : isSpace c = false) :
    (scanString false (c :: cs)).2.length < (c :: cs).length := by
  rw [scanString.eq_def]
  simp only [hend, hspace, if_false, Bool.false_and, Bool.not_false, Bool.and_false,
    Bool.false_eq_true]
  split_ifs
  · cases cs with
    | nil => simp
    | cons d ds =>
      dsimp only
      split_ifs
      · simp
      · exact (scanString_length false ds).trans_lt (by simp only [List.length_cons]; omega)
  · exact (scanString_length false cs).trans_lt (by simp)

/-- Each string takes something of the line. -/
theorem getString_length {line s rest : List Char} (h : getString line = some (s, rest)) :
    rest.length < line.length := by
  unfold getString at h
  split at h
  · cases h
  · cases h
  · have hdrop := (List.dropWhile_suffix (l := line) isSpace).length_le
    split at h
    · cases h
    · cases h
    next c cs hend heq =>
      rw [heq] at hdrop
      have hspace : isSpace c = false := by
        have := List.head?_dropWhile_not isSpace line
        rw [heq] at this
        simpa using this
      obtain ⟨-, rfl⟩ := Prod.mk.inj (Option.some.inj h)
      refine lt_of_lt_of_le ?_ hdrop
      by_cases hquoted : (c == '"') = true
      · rw [if_pos hquoted, if_pos hquoted, List.length_tail]
        have := scanString_length (c == '"') cs
        simp only [List.length_cons]
        omega
      · rw [if_neg hquoted, if_neg hquoted, Bool.eq_false_of_not_eq_true hquoted]
        exact scanString_length_lt hend hspace

/-- The strings of a line, in its buffer. Each takes a character at least, so that the length of the
buffer is fuel enough. -/
def splitLine : ℕ → List Char → List (List Char)
  | 0, _ => []
  | n + 1, line =>
    match getString line with
    | none => []
    | some (s, rest) => s :: splitLine n rest

/-- The `argv` of a line; `stale` is what the buffer holds behind the line. -/
def arguments (line stale : List Char) : List String :=
  let buffer := line.take (lineLength - 1) ++ '\x00' :: stale
  (splitLine buffer.length buffer).map String.ofList

/-! ## Commands -/

/-- An entry of a table of commands, for handlers `κ`. -/
structure CommandInfo (κ : Type) where
  cmd : String
  minArgs : ℕ
  maxArgs : ℕ
  func : κ
  /-- hidden, normal, limited or private -/
  ctype : Int
deriving DecidableEq, Repr

/-- What becomes of a command. -/
inductive Dispatch (κ : Type)
  | call (func : κ) (argv : List String)
  | tooFew
  | tooMany
  | unknown
deriving DecidableEq, Repr

/-- `do_command` -/
def doCommand {κ : Type} (enablePrivateAPI : Bool) (cmd : String) (argv : List String) :
    List (CommandInfo κ) → Dispatch κ
  | [] => .unknown
  | info :: rest =>
    if info.ctype > 1 ∧ !enablePrivateAPI then doCommand enablePrivateAPI cmd argv rest
    else if strcasecmp cmd info.cmd then
      if argv.length < info.minArgs then .tooFew
      else if info.maxArgs < argv.length then .tooMany
      else .call info.func argv
    else doCommand enablePrivateAPI cmd argv rest

/-- A handler is called with as many arguments as an entry of the table allows. -/
theorem doCommand_call {κ : Type} {enablePrivateAPI : Bool} {cmd : String} {argv args : List String}
    {table : List (CommandInfo κ)} {func : κ}
    (h : doCommand enablePrivateAPI cmd argv table = .call func args) :
    args = argv ∧ ∃ info ∈ table, info.func = func ∧ info.minArgs ≤ argv.length ∧
      argv.length ≤ info.maxArgs := by
  induction table with
  | nil => cases h
  | cons info rest ih =>
    rw [doCommand] at h
    split_ifs at h with hprivate hcmd hfew hmany
    · obtain ⟨hargs, info', hmem, hinfo⟩ := ih h
      exact ⟨hargs, info', List.mem_cons_of_mem _ hmem, hinfo⟩
    · obtain ⟨rfl, rfl⟩ := Dispatch.call.inj h
      exact ⟨rfl, info, List.mem_cons_self, rfl, by omega, by omega⟩
    · obtain ⟨hargs, info', hmem, hinfo⟩ := ih h
      exact ⟨hargs, info', List.mem_cons_of_mem _ hmem, hinfo⟩

end ConfigdExtra
