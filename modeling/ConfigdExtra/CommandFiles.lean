import ConfigdExtra.CommandLine

/-!
# Files of commands

`f.read` reads commands from a file, whose lines may read other files.

* `ScriptFile` — a file, with the files that its lines read.
* `doReadFile` — the reader, through the line reader and the commands.
* `ScriptFile.flatten` — all lines in order, each file in the place of the line that reads it.
* `doReadFile_executes` — the lines are executed in that order, until one quits.
* `readsFile_iff` — but the interpreter is not as before, unless the file cannot be opened.
-/

namespace ConfigdExtra

/-! ## The reader -/

mutual

/-- What `fopen` gives for a file: nothing, or an input stream with lines. -/
inductive ScriptFile
  | missing
  | file (src : ℕ) (lines : ScriptLines)

/-- The lines of a file, each with what the buffer holds behind it, and with the file that it
reads if it is `f.read`. -/
inductive ScriptLines
  | nil
  | cons (text stale : List Char) (opens : ScriptFile) (rest : ScriptLines)

end

/-- The handlers of a table of commands: `do_readFile`, and others, which work on a state of their
own and may request to quit. -/
inductive CommandFunc (σ : Type)
  | readFile
  | other (f : List String → σ → σ × Bool)

/-- The globals of the interpreter. -/
structure Interpreter (σ : Type) where
  nesting : ℕ
  /-- the input stream of the last command -/
  currentInput : Option ℕ
  termRequested : Bool
  /-- the lines that were printed, with the nesting level -/
  printed : List (ℕ × List Char)
  /-- what the other commands work on -/
  rest : σ

section

variable {σ : Type} (table : List (CommandInfo (CommandFunc σ))) (enablePrivateAPI : Bool)

/-- `process_line`, which returns whether to go on; `readFile` is `do_readFile` for the file that
the line names. -/
def processLine (src : ℕ) (text stale : List Char) (readFile : Interpreter σ → Interpreter σ)
    (s : Interpreter σ) : Bool × Interpreter σ :=
  let line := text.take (lineLength - 1)
  let s := if 0 < s.nesting then { s with printed := s.printed ++ [(s.nesting, line)] } else s
  match arguments text stale with
  | [] => (true, s)
  | cmd :: argv =>
    let s :=
      if cmd.toList.head? = some '#' then s
      else
        let s := { s with currentInput := some src }
        match doCommand enablePrivateAPI cmd argv table with
        | .call .readFile _ => readFile s
        | .call (.other f) args =>
          let r := f args s.rest
          { s with rest := r.1, termRequested := s.termRequested || r.2 }
        | .tooFew | .tooMany | .unknown => s
    (!s.termRequested, s)

mutual

/-- `do_readFile` -/
def doReadFile : ScriptFile → Interpreter σ → Interpreter σ
  | .missing, s => s
  | .file src lines, s => readLines src lines { s with nesting := s.nesting + 1 }

/-- Its loop -/
def readLines (src : ℕ) : ScriptLines → Interpreter σ → Interpreter σ
  | .nil, s => s
  | .cons text stale opens rest, s =>
    let r := processLine table enablePrivateAPI src text stale (doReadFile opens) s
    if r.1 then readLines src rest r.2 else r.2

end

/-! ## The order of the lines -/

/-- What a line calls, if anything. -/
def lineCommand (text stale : List Char) : Option (CommandFunc σ × List String) :=
  match arguments text stale with
  | [] => none
  | cmd :: argv =>
    if cmd.toList.head? = some '#' then none
    else
      match doCommand enablePrivateAPI cmd argv table with
      | .call func args => some (func, args)
      | .tooFew | .tooMany | .unknown => none

/-- Does a line read a file? -/
def readsFile (text stale : List Char) : Bool :=
  match lineCommand table enablePrivateAPI text stale with
  | some (.readFile, _) => true
  | _ => false

/-- What a line does to the state of the other commands, and whether it quits. -/
def executeLine (line : List Char × List Char) (x : σ) : σ × Bool :=
  match lineCommand table enablePrivateAPI line.1 line.2 with
  | some (.other f, args) => f args x
  | _ => (x, false)

mutual

/-- All lines, each file in the place of the line that reads it. -/
def ScriptFile.flatten : ScriptFile → List (List Char × List Char)
  | .missing => []
  | .file _ lines => lines.flatten

def ScriptLines.flatten : ScriptLines → List (List Char × List Char)
  | .nil => []
  | .cons text stale opens rest =>
    (text, stale) :: ((if readsFile table enablePrivateAPI text stale then opens.flatten else []) ++
      rest.flatten)

end

/-- Execute lines in order until one quits: the lines that are executed, the state that is left,
and whether one has quit. -/
def untilQuit {α : Type} (execute : α → σ → σ × Bool) : List α → σ → List α × σ × Bool
  | [], x => ([], x, false)
  | line :: lines, x =>
    let r := execute line x
    if r.2 then ([line], r.1, true)
    else
      let t := untilQuit execute lines r.1
      (line :: t.1, t.2)

/-- The interpreter has executed lines in order until one has quit, and has printed them. -/
structure ExecutesLines (lines : List (List Char × List Char)) (s s' : Interpreter σ) : Prop where
  rest : s'.rest = (untilQuit (executeLine table enablePrivateAPI) lines s.rest).2.1
  termRequested :
    s'.termRequested = (untilQuit (executeLine table enablePrivateAPI) lines s.rest).2.2
  printed : s'.printed.map Prod.snd = s.printed.map Prod.snd ++
    (untilQuit (executeLine table enablePrivateAPI) lines s.rest).1.map fun line =>
      line.1.take (lineLength - 1)

/-- **A file is read** as it should be: its lines are executed in order, with those of each file
it reads, until one quits; and the interpreter is back where it was. -/
structure ReadsFile (f : ScriptFile) (s : Interpreter σ) : Prop where
  follows : ExecutesLines table enablePrivateAPI (f.flatten table enablePrivateAPI) s
    (doReadFile table enablePrivateAPI f s)
  nesting : (doReadFile table enablePrivateAPI f s).nesting = s.nesting
  currentInput : (doReadFile table enablePrivateAPI f s).currentInput = s.currentInput

/-! ## One line -/

/-- A line is printed, inside a file. -/
def Interpreter.print (s : Interpreter σ) (text : List Char) : Interpreter σ :=
  { s with printed := s.printed ++ [(s.nesting, text.take (lineLength - 1))] }

variable {table enablePrivateAPI}

variable (table enablePrivateAPI) in
/-- **What a line does**, inside a file: nothing but maybe set the input, or read a file, or call
another handler. -/
theorem processLine_cases (src : ℕ) (text stale : List Char)
    (readFile : Interpreter σ → Interpreter σ) {s : Interpreter σ} (hnesting : 0 < s.nesting)
    (hterm : s.termRequested = false) :
    let r := processLine table enablePrivateAPI src text stale readFile s
    (lineCommand table enablePrivateAPI text stale = none ∧ r.1 = true ∧
      ∃ input, r.2 = { s.print text with currentInput := input }) ∨
    (∃ args, lineCommand table enablePrivateAPI text stale = some (.readFile, args) ∧
      r.2 = readFile { s.print text with currentInput := some src } ∧
      r.1 = !r.2.termRequested) ∨
    ∃ f args, lineCommand table enablePrivateAPI text stale = some (.other f, args) ∧
      r.1 = !(f args s.rest).2 ∧
      r.2 = { s.print text with
        currentInput := some src
        rest := (f args s.rest).1
        termRequested := (f args s.rest).2 } := by
  intro r
  have hprint : (if 0 < s.nesting then
      { s with printed := s.printed ++ [(s.nesting, text.take (lineLength - 1))] } else s) =
      s.print text := if_pos hnesting
  have hterm' : (s.print text).termRequested = false := hterm
  simp only [r, processLine, lineCommand, hprint]
  cases arguments text stale with
  | nil => exact .inl ⟨rfl, rfl, _, rfl⟩
  | cons cmd argv =>
    dsimp only
    by_cases hcomment : cmd.toList.head? = some '#'
    · rw [if_pos hcomment, if_pos hcomment]
      exact .inl ⟨rfl, by rw [hterm']; rfl, _, rfl⟩
    · rw [if_neg hcomment, if_neg hcomment]
      cases doCommand enablePrivateAPI cmd argv table with
      | tooFew | tooMany | unknown => exact .inl ⟨rfl, by simp [hterm'], _, rfl⟩
      | call func args =>
        cases func with
        | readFile => exact .inr (.inl ⟨args, rfl, rfl, rfl⟩)
        | other f =>
          refine .inr (.inr ⟨f, args, rfl, ?_, ?_⟩)
          · simp [hterm, Interpreter.print]
          · simp [hterm, Interpreter.print]

/-! ## The whole file -/

/-- Lines one after the other. -/
theorem untilQuit_append {α : Type} (execute : α → σ → σ × Bool) (a b : List α) (x : σ) :
    untilQuit execute (a ++ b) x =
      let u := untilQuit execute a x
      if u.2.2 then u
      else
        let v := untilQuit execute b u.2.1
        (u.1 ++ v.1, v.2) := by
  induction a generalizing x with
  | nil => rfl
  | cons line lines ih =>
    by_cases hquit : (execute line x).2 = true
    · simp only [List.cons_append, untilQuit, hquit, if_true]
    · simp only [List.cons_append, untilQuit, hquit, if_false, Bool.false_eq_true, ih]
      split_ifs <;> rfl

namespace ExecutesLines

variable {lines lines' : List (List Char × List Char)} {s s' s'' : Interpreter σ}

/-- Nothing is executed. -/
theorem nil (s : Interpreter σ) (hterm : s.termRequested = false) :
    ExecutesLines table enablePrivateAPI [] s s :=
  ⟨rfl, hterm, (List.append_nil _).symm⟩

/-- One part has quit, or is followed by another. -/
theorem append (h : ExecutesLines table enablePrivateAPI lines s s')
    (h' : s'.termRequested = false → ExecutesLines table enablePrivateAPI lines' s' s'')
    (hquit : s'.termRequested = true → s'' = s') :
    ExecutesLines table enablePrivateAPI (lines ++ lines') s s'' := by
  rcases Bool.eq_false_or_eq_true s'.termRequested with hterm | hterm
  · rw [hquit hterm]
    have hquit := h.termRequested.symm.trans hterm
    refine ⟨?_, ?_, ?_⟩ <;> rw [untilQuit_append] <;> simp only [hquit, if_true]
    · exact h.rest
    · exact hterm
    · exact h.printed
  · have hgoes := h.termRequested.symm.trans hterm
    have h' := h' hterm
    refine ⟨?_, ?_, ?_⟩ <;> rw [untilQuit_append] <;>
      simp only [hgoes, if_false, Bool.false_eq_true]
    · rw [h'.rest, h.rest]
    · rw [h'.termRequested, h.rest]
    · rw [h'.printed, h.printed, h.rest, List.map_append, List.append_assoc]

end ExecutesLines

/-- One line is printed and executed. -/
theorem executes_line {s s' : Interpreter σ} {line : List Char × List Char}
    (hrest : s'.rest = (executeLine table enablePrivateAPI line s.rest).1)
    (hterm : s'.termRequested = (executeLine table enablePrivateAPI line s.rest).2)
    (hprinted : s'.printed = (s.print line.1).printed) :
    ExecutesLines table enablePrivateAPI [line] s s' := by
  have hlines : s'.printed.map Prod.snd =
      s.printed.map Prod.snd ++ [line.1.take (lineLength - 1)] := by
    simp [hprinted, Interpreter.print]
  by_cases hquit : (executeLine table enablePrivateAPI line s.rest).2 = true
  · refine ⟨?_, ?_, ?_⟩ <;> simp only [untilQuit, hquit, if_true]
    · exact hrest
    · exact hterm.trans hquit
    · exact hlines
  · refine ⟨?_, ?_, ?_⟩ <;> simp only [untilQuit, hquit, if_false, Bool.false_eq_true]
    · exact hrest
    · exact hterm.trans (Bool.eq_false_of_not_eq_true hquit)
    · exact hlines

/-- How much deeper a file nests. -/
def ScriptFile.depth : ScriptFile → ℕ
  | .missing => 0
  | .file _ _ => 1

mutual

/-- **The lines are executed in order**, with those of each file that is read in the place of the
line that reads it, until one quits; and the nesting level does not come back. -/
theorem doReadFile_executes (f : ScriptFile) (s : Interpreter σ) (hterm : s.termRequested = false) :
    ExecutesLines table enablePrivateAPI (f.flatten table enablePrivateAPI) s
        (doReadFile table enablePrivateAPI f s) ∧
      s.nesting + f.depth ≤ (doReadFile table enablePrivateAPI f s).nesting := by
  cases f with
  | missing => exact ⟨.nil s hterm, le_rfl⟩
  | file src lines =>
    obtain ⟨hfollows, hnesting⟩ := readLines_executes src lines
      { s with nesting := s.nesting + 1 } hterm (Nat.succ_pos _)
    exact ⟨⟨hfollows.rest, hfollows.termRequested, hfollows.printed⟩, hnesting⟩

/-- A file is executed line by line, with the lines of the files that it names in their place. -/
theorem readLines_executes (src : ℕ) (lines : ScriptLines) (s : Interpreter σ)
    (hterm : s.termRequested = false) (hnesting : 0 < s.nesting) :
    ExecutesLines table enablePrivateAPI (lines.flatten table enablePrivateAPI) s
        (readLines table enablePrivateAPI src lines s) ∧
      s.nesting ≤ (readLines table enablePrivateAPI src lines s).nesting := by
  cases lines with
  | nil => exact ⟨.nil s hterm, le_rfl⟩
  | cons text stale opens rest =>
    -- the line has left `s'`, and the rest of the file follows if it has not quit
    have hgo : ∀ {b : Bool} {s' : Interpreter σ} {l : List (List Char × List Char)},
        processLine table enablePrivateAPI src text stale
          (doReadFile table enablePrivateAPI opens) s = (b, s') →
        b = !s'.termRequested → ExecutesLines table enablePrivateAPI l s s' → s.nesting ≤ s'.nesting →
        l = (text, stale) ::
          (if readsFile table enablePrivateAPI text stale then opens.flatten table enablePrivateAPI
            else []) →
        ExecutesLines table enablePrivateAPI
            ((ScriptLines.cons text stale opens rest).flatten table enablePrivateAPI) s
            (readLines table enablePrivateAPI src (.cons text stale opens rest) s) ∧
          s.nesting ≤
            (readLines table enablePrivateAPI src (.cons text stale opens rest) s).nesting := by
      rintro b s' l hline rfl hfollows hle rfl
      have hnext := readLines_executes src rest s'
      simp only [readLines, hline, ScriptLines.flatten]
      rw [← List.cons_append]
      cases hquit : s'.termRequested with
      | true => exact ⟨hfollows.append (by simp [hquit]) (fun _ => rfl), hle⟩
      | false =>
        obtain ⟨hrest, hle'⟩ := hnext hquit (hnesting.trans_le hle)
        exact ⟨hfollows.append (fun _ => hrest) (by simp [hquit]), hle.trans hle'⟩
    rcases processLine_cases table enablePrivateAPI src text stale
      (doReadFile table enablePrivateAPI opens) hnesting hterm with
        ⟨hnone, hok, input, hs⟩ | ⟨args, hread, hs, hok⟩ | ⟨f, args, hcall, hok, hs⟩
    · -- nothing is called
      have hreads : readsFile table enablePrivateAPI text stale = false := by simp [readsFile, hnone]
      have hexecutes : executeLine table enablePrivateAPI (text, stale) s.rest = (s.rest, false) := by
        simp [executeLine, hnone]
      refine hgo (Prod.ext hok hs) (by simp [Interpreter.print, hterm]) (l := [(text, stale)])
        (executes_line ?_ ?_ rfl) le_rfl (by simp [hreads])
      · rw [hexecutes]
        rfl
      · rw [hexecutes]
        exact hterm
    · -- another file is read
      have hreads : readsFile table enablePrivateAPI text stale = true := by simp [readsFile, hread]
      have hexecutes : executeLine table enablePrivateAPI (text, stale) s.rest = (s.rest, false) := by
        simp [executeLine, hread]
      have hline : ExecutesLines table enablePrivateAPI [(text, stale)] s
          { s.print text with currentInput := some src } := by
        refine executes_line ?_ ?_ rfl
        · rw [hexecutes]
          rfl
        · rw [hexecutes]
          exact hterm
      obtain ⟨hfile, hle⟩ := doReadFile_executes opens
        { s.print text with currentInput := some src } hterm
      refine hgo (Prod.ext (hok.trans (by rw [hs])) hs) rfl
        (hline.append (fun _ => hfile) fun hquit => ?_) ((Nat.le_add_right _ _).trans hle)
        (by simp [hreads])
      exact absurd (hterm.symm.trans hquit) (by simp)
    · -- another handler is called
      have hreads : readsFile table enablePrivateAPI text stale = false := by simp [readsFile, hcall]
      have hexecutes : executeLine table enablePrivateAPI (text, stale) s.rest = f args s.rest := by
        simp [executeLine, hcall]
      refine hgo (Prod.ext hok hs) rfl (l := [(text, stale)]) (executes_line ?_ ?_ rfl) le_rfl
        (by simp [hreads])
      · rw [hexecutes]
      · rw [hexecutes]

end

/-- **Reading a file** executes its lines in order until one quits; but it is as it should be if
and only if the file cannot be opened. -/
theorem readsFile_iff (f : ScriptFile) (s : Interpreter σ) (hterm : s.termRequested = false) :
    ExecutesLines table enablePrivateAPI (f.flatten table enablePrivateAPI) s
        (doReadFile table enablePrivateAPI f s) ∧
      (ReadsFile table enablePrivateAPI f s ↔ f = .missing) := by
  obtain ⟨hfollows, hle⟩ := @doReadFile_executes σ table enablePrivateAPI f s hterm
  refine ⟨hfollows, ?_⟩
  cases f with
  | missing => exact iff_of_true ⟨hfollows, rfl, rfl⟩ rfl
  | file src lines =>
    refine iff_of_false (fun h => ?_) (by simp)
    have hnesting := h.nesting
    simp only [ScriptFile.depth] at hle
    omega

end

/-- Commands that read files, that note something, and that quit -/
def notingCommands : List (CommandInfo (CommandFunc (List String))) :=
  [⟨"f.read", 1, 1, .readFile, 0⟩, ⟨"note", 1, 1, .other fun args x => (x ++ args, false), 0⟩,
    ⟨"quit", 0, 0, .other fun _ x => (x, true), 0⟩]

/-- A file whose second line reads another, which quits -/
def nestedFile : ScriptFile :=
  .file 1 <| .cons "note a".toList [] .missing <|
    .cons "f.read \"inner file\"".toList []
      (.file 2 <| .cons "note b".toList [] .missing <| .cons "quit".toList [] .missing .nil) <|
    .cons "note c".toList [] .missing .nil

theorem readsFile_iff_nested :
    ExecutesLines notingCommands false (nestedFile.flatten notingCommands false) ⟨0, none, false, [], []⟩
        (doReadFile notingCommands false nestedFile ⟨0, none, false, [], []⟩) ∧
      (ReadsFile notingCommands false nestedFile ⟨0, none, false, [], []⟩ ↔
        nestedFile = .missing) :=
  readsFile_iff nestedFile _ rfl

/-- The second line of the file is printed at the level of the file that it reads, which stays
the input. -/
theorem not_readsFile : ¬ ReadsFile notingCommands false nestedFile ⟨0, none, false, [], []⟩ := by
  intro h
  have hnesting := h.nesting
  revert hnesting
  decide +kernel

example : (doReadFile notingCommands false nestedFile ⟨0, none, false, [], []⟩).rest =
    ["a", "b"] := by decide +kernel

end ConfigdExtra
