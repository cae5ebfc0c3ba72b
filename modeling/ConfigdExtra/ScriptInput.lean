import ConfigdExtra.CommandFiles
import Mathlib.Data.List.TakeWhile

/-!
# Reading a script line by line

`process_line` gets a line of a script through `getLine`, which reads with `fgets` into a buffer of
`LINE_LENGTH` bytes. From the last byte of the string in the buffer it tells whether the whole line
has been read, and if not it skips the rest.

* `LineBuffer` — the buffer, with access by index.
* `fgets`, `getLine`, `processLine`, `processLines` — the reader.
* `physicalLines`, `lineText` — the lines of a file, and what should be processed of them.
* `getLine_eq` — what one call does.
* `linesInOrder_iff` — the lines are processed one by one in order, unless a NUL is in the way.
-/

namespace ConfigdExtra.ScriptInput

/-! ## The buffer -/

/-- `'\n'` -/
def newline : UInt8 := 10

/-- An access outside of the buffer. -/
structure OutOfBounds where
  /-- the index -/
  index : ℤ
  deriving DecidableEq, Repr

/-- `char line[LINE_LENGTH]` -/
structure LineBuffer where
  /-- the bytes -/
  bytes : List UInt8
  /-- how many there are -/
  length_eq : bytes.length = lineLength

namespace LineBuffer

/-- The string in the buffer. -/
def string (buf : LineBuffer) : List UInt8 := buf.bytes.takeWhile (· ≠ 0)

/-- `strlen`, which goes on until there is a NUL. -/
def strlen (buf : LineBuffer) : Except OutOfBounds ℕ :=
  if 0 ∈ buf.bytes then .ok buf.string.length else .error ⟨lineLength⟩

/-- The byte at an index. -/
def read (buf : LineBuffer) (i : ℤ) : Except OutOfBounds UInt8 :=
  if i < 0 then .error ⟨i⟩
  else
    match buf.bytes[i.toNat]? with
    | none => .error ⟨i⟩
    | some byte => .ok byte

/-- Ends the string at an index in the buffer. -/
def terminate (buf : LineBuffer) (i : ℕ) : LineBuffer where
  bytes := buf.bytes.set i 0
  length_eq := by rw [List.length_set, buf.length_eq]

/-- Stores bytes and a NUL at the front. -/
def store (buf : LineBuffer) (data : List UInt8) (hdata : data.length < lineLength) :
    LineBuffer where
  bytes := data ++ 0 :: buf.bytes.drop (data.length + 1)
  length_eq := by
    rw [List.length_append, List.length_cons, List.length_drop, buf.length_eq]
    omega

end LineBuffer

/-! ## Reading -/

/-- What `fgets` reads, and what it leaves: no more than `len` bytes, up to a newline. -/
def fgetsRead : ℕ → List UInt8 → List UInt8 × List UInt8
  | 0, fp => ([], fp)
  | _ + 1, [] => ([], [])
  | len + 1, c :: fp =>
    if c = newline then ([c], fp)
    else (c :: (fgetsRead len fp).1, (fgetsRead len fp).2)

/-- `fgets` never reads more than fits. -/
theorem fgetsRead_length_le (len : ℕ) (fp : List UInt8) : (fgetsRead len fp).1.length ≤ len := by
  induction len generalizing fp with
  | zero => rfl
  | succ len ih =>
    cases fp with
    | nil => exact Nat.zero_le _
    | cons c fp =>
      rw [fgetsRead]
      split
      · exact Nat.le_add_left 1 len
      · exact Nat.succ_le_succ (ih fp)

/-- `fgets`, which gives `NULL` at the end of the file. -/
def fgets (buf : LineBuffer) (fp : List UInt8) : Option (LineBuffer × List UInt8) :=
  if fp = [] then none
  else
    let r := fgetsRead (lineLength - 1) fp
    some (buf.store r.1 (Nat.lt_of_le_of_lt (fgetsRead_length_le _ fp) (by decide)), r.2)

/-- Eats the remainder of the line. -/
def eatLine : List UInt8 → List UInt8
  | [] => []
  | c :: fp => if c = newline then fp else eatLine fp

/-- `getLine`, for an input without line editing -/
def getLine (buf : LineBuffer) (fp : List UInt8) :
    Except OutOfBounds (Option (LineBuffer × List UInt8)) :=
  match fgets buf fp with
  | none => .ok none
  | some (buf, fp) => do
    let n ← buf.strlen
    let last ← buf.read (n - 1)
    if last = newline then return some (buf.terminate (n - 1), fp)
    else return some (buf, eatLine fp)

/-! ## What a call does -/

/-- A terminator that is written ends the string there, if it has not ended before. -/
theorem takeWhile_set_zero (l : List UInt8) (n : ℕ) :
    (l.set n 0).takeWhile (· ≠ 0) = (l.takeWhile (· ≠ 0)).take n := by
  induction l generalizing n with
  | nil => simp
  | cons c l ih =>
    cases n with
    | zero => simp
    | succ n =>
      by_cases hc : c = 0
      · simp [hc]
      · simpa [hc] using ih n

namespace LineBuffer

variable (buf : LineBuffer) {data : List UInt8} (hdata : data.length < lineLength)

/-- The string in the buffer ends at the first NUL of the data. -/
theorem string_store : (buf.store data hdata).string = data.takeWhile (· ≠ 0) := by
  rw [string, store, List.takeWhile_append]
  split
  · rename_i hall
    rw [List.takeWhile_cons_of_neg (by simp), List.append_nil]
    exact ((List.takeWhile_prefix _).eq_of_length hall).symm
  · rfl

/-- It has an end, since the data leave room for the terminator. -/
theorem strlen_store :
    (buf.store data hdata).strlen = .ok (data.takeWhile (· ≠ 0)).length := by
  have hmem : 0 ∈ (buf.store data hdata).bytes :=
    List.mem_append_right _ List.mem_cons_self
  rw [strlen, if_pos hmem, string_store]

/-- The last byte of the string. -/
theorem read_store {text : List UInt8} {c : UInt8}
    (htext : data.takeWhile (· ≠ 0) = text ++ [c]) :
    (buf.store data hdata).read ((text ++ [c]).length - 1) = .ok c := by
  obtain ⟨rest, hrest⟩ : text ++ [c] <+: data := htext ▸ List.takeWhile_prefix _
  have hindex : ((text ++ [c]).length - 1 : ℤ) = text.length := by simp
  rw [hindex, read, if_neg (by omega), Int.toNat_natCast]
  simp [store, ← hrest]

/-- Cutting off the newline shortens the string by that. -/
theorem string_terminate (n : ℕ) : (buf.terminate n).string = buf.string.take n :=
  takeWhile_set_zero buf.bytes n

end LineBuffer

/-- What `getLine` makes of what `fgets` has read. -/
theorem getLine_of_fgets (buf : LineBuffer) {fp data rest text : List UInt8} (hne : fp ≠ [])
    (hread : fgetsRead (lineLength - 1) fp = (data, rest))
    (htext : data.takeWhile (· ≠ 0) = text) :
    (text = [] → getLine buf fp = .error ⟨-1⟩) ∧
    (∀ line, text = line ++ [newline] →
      ∃ buf', buf'.string = line ∧ getLine buf fp = .ok (some (buf', rest))) ∧
    (text ≠ [] → (∀ line, text ≠ line ++ [newline]) →
      ∃ buf', buf'.string = text ∧ getLine buf fp = .ok (some (buf', eatLine rest))) := by
  have hdata : data.length < lineLength := by
    have := fgetsRead_length_le (lineLength - 1) fp
    rw [hread] at this
    exact Nat.lt_of_le_of_lt this (by decide)
  have hget : getLine buf fp = do
      let n ← (buf.store data hdata).strlen
      let last ← (buf.store data hdata).read (n - 1)
      if last = newline then return some ((buf.store data hdata).terminate (n - 1), rest)
      else return some (buf.store data hdata, eatLine rest) := by
    rw [getLine, fgets, if_neg hne]
    simp only [hread]
  have hstring := buf.string_store hdata
  rw [hget, buf.strlen_store hdata, htext]
  rw [htext] at hstring
  refine ⟨?_, fun line hline => ?_, fun hne' hnot => ?_⟩
  · rintro rfl
    rfl
  · subst hline
    have hlast := buf.read_store hdata htext
    refine ⟨(buf.store data hdata).terminate ((line ++ [newline]).length - 1), ?_, ?_⟩
    · rw [LineBuffer.string_terminate, hstring]
      simp
    · change (do
        let last ← (buf.store data hdata).read ((line ++ [newline]).length - 1)
        if last = newline then _ else _) = _
      rw [hlast]
      rfl
  · obtain ⟨line, c, rfl⟩ := (List.eq_nil_or_concat' text).resolve_left hne'
    refine ⟨buf.store data hdata, hstring, ?_⟩
    change (do
      let last ← (buf.store data hdata).read ((line ++ [c]).length - 1)
      if last = newline then _ else _) = _
    rw [buf.read_store hdata htext]
    have hc : c ≠ newline := fun hc => hnot line (by rw [hc])
    exact if_neg hc

/-! ## Lines -/

/-- The lines of a file, without newlines. -/
def physicalLines : List UInt8 → List (List UInt8)
  | [] => []
  | c :: fp =>
    if c = newline then [] :: physicalLines fp
    else
      match physicalLines fp with
      | [] => [[c]]
      | line :: lines => (c :: line) :: lines

/-- What should be processed of a line: no more than fits in the buffer, up to a NUL. -/
def lineText (line : List UInt8) : List UInt8 :=
  (line.take (lineLength - 1)).takeWhile (· ≠ 0)

/-- The first line. -/
def firstLine (fp : List UInt8) : List UInt8 := fp.takeWhile (· ≠ newline)

/-- The lines of a file are its first line and those of the rest. -/
theorem physicalLines_eq {fp : List UInt8} (hne : fp ≠ []) :
    physicalLines fp = firstLine fp :: physicalLines (eatLine fp) := by
  induction fp with
  | nil => exact absurd rfl hne
  | cons c fp ih =>
    rw [physicalLines, firstLine, eatLine]
    by_cases hc : c = newline
    · simp [hc]
    · cases fp with
      | nil => simp [hc, physicalLines, eatLine]
      | cons d fp =>
        rw [if_neg hc, if_neg hc, ih (List.cons_ne_nil d fp), List.takeWhile_cons_of_pos (by simpa)]
        rfl

theorem newline_notMem_firstLine (fp : List UInt8) : newline ∉ firstLine fp := fun h => by
  have := List.mem_takeWhile_imp h
  simp at this

/-- A line that fits, with its newline if it has one. -/
theorem fgetsRead_of_lt {len : ℕ} {fp : List UInt8} (hlt : (firstLine fp).length < len) :
    fgetsRead len fp =
      (firstLine fp ++ (if newline ∈ fp then [newline] else []), eatLine fp) := by
  induction len generalizing fp with
  | zero => exact absurd hlt (Nat.not_lt_zero _)
  | succ len ih =>
    cases fp with
    | nil => rfl
    | cons c fp =>
      rw [fgetsRead, eatLine]
      by_cases hc : c = newline
      · simp [hc, firstLine]
      · have hfirst : firstLine (c :: fp) = c :: firstLine fp :=
          List.takeWhile_cons_of_pos (by simpa)
        rw [hfirst] at hlt ⊢
        rw [if_neg hc, if_neg hc, ih (Nat.lt_of_succ_lt_succ hlt)]
        have hmem : newline ∈ c :: fp ↔ newline ∈ fp := by simp [Ne.symm hc]
        simp only [hmem, List.cons_append]

/-- A line that does not fit. -/
theorem fgetsRead_of_le {len : ℕ} {fp : List UInt8} (hle : len ≤ (firstLine fp).length) :
    ∃ rest, fgetsRead len fp = ((firstLine fp).take len, rest) ∧ eatLine rest = eatLine fp := by
  induction len generalizing fp with
  | zero => exact ⟨fp, by rw [fgetsRead, List.take_zero], rfl⟩
  | succ len ih =>
    cases fp with
    | nil => exact absurd hle (Nat.not_succ_le_zero _)
    | cons c fp =>
      have hc : c ≠ newline := by
        rintro rfl
        simp [firstLine] at hle
      have hfirst : firstLine (c :: fp) = c :: firstLine fp :=
        List.takeWhile_cons_of_pos (by simpa)
      rw [hfirst] at hle ⊢
      obtain ⟨rest, hread, heat⟩ := ih (Nat.le_of_succ_le_succ hle)
      refine ⟨rest, ?_, ?_⟩
      · rw [fgetsRead, if_neg hc, hread, List.take_succ_cons]
      · rw [heat, eatLine, if_neg hc]

/-- What `getLine` leaves of a file: what is behind the first line, and if there is a NUL in a line
that fits, what is behind the line after it. -/
def leaves (fp : List UInt8) : List UInt8 :=
  if (firstLine fp).length < lineLength - 1 ∧ 0 ∈ firstLine fp then eatLine (eatLine fp)
  else eatLine fp

theorem eatLine_eq_nil_of_notMem {fp : List UInt8} (h : newline ∉ fp) : eatLine fp = [] := by
  induction fp with
  | nil => rfl
  | cons c fp ih =>
    rw [List.mem_cons, not_or] at h
    rw [eatLine, if_neg (Ne.symm h.1), ih h.2]

/-- A line is empty in the buffer exactly if it starts with a NUL. -/
theorem takeWhile_eq_nil_iff_head {l : List UInt8} (hne : l ≠ []) :
    l.takeWhile (· ≠ 0) = [] ↔ l.head? = some 0 := by
  cases l with
  | nil => exact absurd rfl hne
  | cons c l => by_cases hc : c = 0 <;> simp [hc]

/-- **One call of `getLine`.** -/
theorem getLine_eq (buf : LineBuffer) {fp : List UInt8} (hne : fp ≠ []) :
    ((firstLine fp).head? = some 0 → getLine buf fp = .error ⟨-1⟩) ∧
    ((firstLine fp).head? ≠ some 0 → ∃ buf', buf'.string = lineText (firstLine fp) ∧
      getLine buf fp = .ok (some (buf', leaves fp))) := by
  have hnewline : ∀ {text : List UInt8}, text <+: firstLine fp →
      ∀ line, text ≠ line ++ [newline] := by
    rintro text hpre line rfl
    exact newline_notMem_firstLine fp (hpre.subset (by simp))
  rcases lt_or_ge (firstLine fp).length (lineLength - 1) with hlt | hle
  · have hread := fgetsRead_of_lt hlt
    have htext : lineText (firstLine fp) = (firstLine fp).takeWhile (· ≠ 0) := by
      rw [lineText, List.take_of_length_le hlt.le]
    obtain ⟨hempty, hwhole, hcut⟩ := getLine_of_fgets buf hne hread rfl
    by_cases hmem : 0 ∈ firstLine fp
    · -- a NUL in the line hides its newline
      have hcutText : (firstLine fp ++ if newline ∈ fp then [newline] else []).takeWhile (· ≠ 0) =
          (firstLine fp).takeWhile (· ≠ 0) := by
        rw [List.takeWhile_append, if_neg]
        intro hall
        have hwholeText := (List.takeWhile_prefix _).eq_of_length hall
        rw [← hwholeText] at hmem
        simpa using List.mem_takeWhile_imp hmem
      have hempty_iff := takeWhile_eq_nil_iff_head (List.ne_nil_of_mem hmem)
      rw [hcutText] at hempty hcut
      rw [htext, leaves, if_pos ⟨hlt, hmem⟩]
      exact ⟨fun hhead => hempty (hempty_iff.mpr hhead), fun hhead =>
        hcut (fun hnil => hhead (hempty_iff.mp hnil)) (hnewline (List.takeWhile_prefix _))⟩
    · have hall : (firstLine fp).takeWhile (· ≠ 0) = firstLine fp :=
        List.takeWhile_eq_self_iff.mpr fun c hc => by
          rw [decide_eq_true_eq]
          rintro rfl
          exact hmem hc
      rw [htext, hall, leaves, if_neg fun h => hmem h.2]
      refine ⟨fun hhead => absurd (List.mem_of_mem_head? (hhead ▸ rfl)) hmem, fun _ => ?_⟩
      rw [List.takeWhile_append, hall, if_pos rfl] at hwhole hcut
      by_cases hend : newline ∈ fp
      · rw [if_pos hend] at hwhole
        exact hwhole (firstLine fp) rfl
      · -- the last line, without a newline
        have hfirst : firstLine fp = fp := List.takeWhile_eq_self_iff.mpr fun c hc => by
          rw [decide_eq_true_eq]
          rintro rfl
          exact hend hc
        rw [if_neg hend, List.takeWhile_nil, List.append_nil, eatLine_eq_nil_of_notMem hend] at hcut
        rw [eatLine_eq_nil_of_notMem hend]
        exact hcut (hfirst.symm ▸ hne) (hnewline List.prefix_rfl)
  · obtain ⟨rest, hread, heat⟩ := fgetsRead_of_le hle
    obtain ⟨hempty, -, hcut⟩ := getLine_of_fgets buf hne hread rfl
    have hleaves : leaves fp = eatLine fp := if_neg fun h => absurd h.1 (Nat.not_lt.mpr hle)
    have hne' : firstLine fp ≠ [] := by
      intro hnil
      rw [hnil] at hle
      exact absurd hle (by decide)
    have htake : ((firstLine fp).take (lineLength - 1)).head? = (firstLine fp).head? :=
      List.head?_take.trans (if_neg (by decide))
    have htake' : (firstLine fp).take (lineLength - 1) ≠ [] := by
      intro hnil
      rw [hnil] at htake
      exact hne' (List.head?_eq_none_iff.mp htake.symm)
    have hempty_iff := takeWhile_eq_nil_iff_head htake'
    rw [htake] at hempty_iff
    rw [hleaves, ← heat]
    refine ⟨fun hhead => hempty (hempty_iff.mpr hhead), fun hhead =>
      hcut (fun hnil => hhead (hempty_iff.mp hnil)) (hnewline ?_)⟩
    exact (List.takeWhile_prefix _).trans (List.take_prefix _ _)

theorem eatLine_length_le (fp : List UInt8) : (eatLine fp).length ≤ fp.length := by
  induction fp with
  | nil => rfl
  | cons c fp ih =>
    rw [eatLine]
    split
    · exact Nat.le_succ _
    · exact ih.trans (Nat.le_succ _)

/-- Each line takes something from the file, so the loop ends. -/
theorem eatLine_length_lt {fp : List UInt8} (hne : fp ≠ []) : (eatLine fp).length < fp.length := by
  obtain ⟨c, fp, rfl⟩ := List.exists_cons_of_ne_nil hne
  rw [eatLine]
  split
  · exact Nat.lt_succ_self _
  · exact Nat.lt_succ_of_le (eatLine_length_le fp)

/-- So does each call of `process_line`. -/
theorem leaves_length_lt {fp : List UInt8} (hne : fp ≠ []) : (leaves fp).length < fp.length := by
  rw [leaves]
  split
  · exact (eatLine_length_le _).trans_lt (eatLine_length_lt hne)
  · exact eatLine_length_lt hne

/-! ## Processing -/

/-- What a call of `process_line` does. -/
structure ProcessedLine (σ : Type) where
  /-- the line that is processed -/
  line : Option (List UInt8)
  /-- what it returns -/
  ok : Bool
  /-- what is left of the input -/
  src : List UInt8
  /-- what the commands have made of their state -/
  state : σ

section

variable {σ : Type} (execute : List UInt8 → σ → σ × Bool)

/-- `process_line`: `execute` breaks up a line and does the command, and says whether to quit. -/
def processLine (line : LineBuffer) (src : List UInt8) (s : σ) :
    Except OutOfBounds (ProcessedLine σ) :=
  match getLine line src with
  | .error e => .error e
  | .ok none => .ok ⟨none, false, src, s⟩
  | .ok (some (line, src)) =>
    let r := execute line.string s
    .ok ⟨some line.string, !r.2, src, r.1⟩

theorem processLine_nil (line : LineBuffer) (s : σ) :
    processLine execute line [] s = .ok ⟨none, false, [], s⟩ := rfl

/-- What a call does with a line. -/
theorem processLine_eq (line : LineBuffer) {src : List UInt8} (hne : src ≠ []) (s : σ) :
    processLine execute line src s =
      if (firstLine src).head? = some 0 then .error ⟨-1⟩
      else
        let r := execute (lineText (firstLine src)) s
        .ok ⟨some (lineText (firstLine src)), !r.2, leaves src, r.1⟩ := by
  obtain ⟨hnul, hline⟩ := getLine_eq line hne
  by_cases hhead : (firstLine src).head? = some 0
  · rw [if_pos hhead, processLine, hnul hhead]
  · obtain ⟨buf, hstring, hget⟩ := hline hhead
    rw [if_neg hhead, processLine, hget]
    simp only [hstring]

/-- A call that succeeds has read something. -/
theorem processLine_src_lt {line : LineBuffer} {src : List UInt8} {s : σ} {r : ProcessedLine σ}
    (h : processLine execute line src s = .ok r) (hok : r.ok = true) :
    r.src.length < src.length := by
  by_cases hnil : src = []
  · rw [hnil, processLine_nil, Except.ok.injEq] at h
    rw [← h] at hok
    exact absurd hok Bool.false_ne_true
  · rw [processLine_eq execute line hnil] at h
    split_ifs at h
    rw [Except.ok.injEq] at h
    rw [← h]
    exact leaves_length_lt hnil

/-- The successive calls, until one returns `FALSE`: the lines that are processed, the state that is
left, and whether the last one has quit. `uninit` is what the array holds at each call. -/
def processLines (uninit : ℕ → LineBuffer) (call : ℕ) (src : List UInt8) (s : σ) :
    Except OutOfBounds (List (List UInt8) × σ × Bool) :=
  match _hline : processLine execute (uninit call) src s with
  | .error e => .error e
  | .ok r =>
    if _hok : r.ok = true then
      match processLines uninit (call + 1) r.src r.state with
      | .error e => .error e
      | .ok t => .ok (r.line.toList ++ t.1, t.2)
    else .ok (r.line.toList, r.state, r.line.isSome)
termination_by src.length
decreasing_by exact processLine_src_lt execute (by assumption) (by assumption)

variable (uninit : ℕ → LineBuffer)

theorem processLines_nil (call : ℕ) (s : σ) :
    processLines execute uninit call [] s = .ok ([], s, false) := by
  rw [processLines]
  rfl

/-- One call, and those that follow. -/
theorem processLines_eq (call : ℕ) {src : List UInt8} (hne : src ≠ []) (s : σ) :
    processLines execute uninit call src s =
      if (firstLine src).head? = some 0 then .error ⟨-1⟩
      else
        let r := execute (lineText (firstLine src)) s
        if r.2 = true then .ok ([lineText (firstLine src)], r.1, true)
        else
          match processLines execute uninit (call + 1) (leaves src) r.1 with
          | .error e => .error e
          | .ok t => .ok (lineText (firstLine src) :: t.1, t.2) := by
  have hline := processLine_eq execute (uninit call) hne s
  rw [processLines]
  by_cases hhead : (firstLine src).head? = some 0
  · rw [if_pos hhead] at hline ⊢
    split
    · rename_i e he
      cases he.symm.trans hline
      rfl
    · rename_i r hr
      cases hr.symm.trans hline
  · rw [if_neg hhead] at hline ⊢
    split
    · rename_i e he
      cases he.symm.trans hline
    · rename_i r hr
      cases hr.symm.trans hline
      cases hquit : (execute (lineText (firstLine src)) s).2 with
      | true => simp [hquit]
      | false => simp [hquit]

end

/-! ## The lines in order -/

/-- The lines of the file are processed one by one in order, until one quits, whatever the commands
do and whatever the array holds before. -/
def LinesInOrder (file : List UInt8) : Prop :=
  ∀ (σ : Type) (execute : List UInt8 → σ → σ × Bool) (uninit : ℕ → LineBuffer) (s : σ),
    processLines execute uninit 0 file s =
      .ok (untilQuit execute ((physicalLines file).map lineText) s)

/-- No line begins with a NUL, and there is none in a line that fits in the buffer with its newline,
unless it is the last one. -/
structure NoStrayNul (file : List UInt8) : Prop where
  /-- at the front -/
  front : ∀ line ∈ physicalLines file, line.head? ≠ some 0
  /-- inside -/
  inside : ∀ line ∈ (physicalLines file).dropLast, line.length < lineLength - 1 → 0 ∉ line

theorem physicalLines_eq_nil_iff {fp : List UInt8} : physicalLines fp = [] ↔ fp = [] := by
  constructor
  · intro h
    by_contra hne
    rw [physicalLines_eq hne] at h
    exact List.cons_ne_nil _ _ h
  · rintro rfl
    rfl

/-- The condition, line by line. -/
theorem noStrayNul_iff {fp : List UInt8} (hne : fp ≠ []) :
    NoStrayNul fp ↔ (firstLine fp).head? ≠ some 0 ∧
      (eatLine fp ≠ [] → (firstLine fp).length < lineLength - 1 → 0 ∉ firstLine fp) ∧
      NoStrayNul (eatLine fp) := by
  by_cases hrest : eatLine fp = []
  · have hlines : physicalLines fp = [firstLine fp] := by
      rw [physicalLines_eq hne, hrest]
      rfl
    have hnil : NoStrayNul (eatLine fp) := by
      rw [hrest]
      exact ⟨fun _ h => absurd h List.not_mem_nil, fun _ h => absurd h List.not_mem_nil⟩
    constructor
    · intro h
      exact ⟨h.front _ (hlines ▸ List.mem_singleton_self _), fun h' => absurd hrest h', hnil⟩
    · rintro ⟨hfront, -, -⟩
      refine ⟨fun line hline => ?_, fun line hline => ?_⟩
      · rw [hlines, List.mem_singleton] at hline
        exact hline ▸ hfront
      · rw [hlines] at hline
        exact absurd hline List.not_mem_nil
  · have hlines := physicalLines_eq hne
    have hdrop : (physicalLines fp).dropLast =
        firstLine fp :: (physicalLines (eatLine fp)).dropLast := by
      rw [hlines, List.dropLast_cons_of_ne_nil (mt physicalLines_eq_nil_iff.mp hrest)]
    constructor
    · rintro ⟨hfront, hinside⟩
      rw [hlines, List.forall_mem_cons] at hfront
      rw [hdrop, List.forall_mem_cons] at hinside
      exact ⟨hfront.1, fun _ => hinside.1, hfront.2, hinside.2⟩
    · rintro ⟨hfront, hinside, h⟩
      refine ⟨?_, ?_⟩
      · rw [hlines, List.forall_mem_cons]
        exact ⟨hfront, h.front⟩
      · rw [hdrop, List.forall_mem_cons]
        exact ⟨hinside hrest, h.inside⟩

/-- Without a stray NUL the lines are processed in order. -/
theorem processLines_of_noStrayNul {σ : Type} (execute : List UInt8 → σ → σ × Bool)
    (uninit : ℕ → LineBuffer) (call : ℕ) {src : List UInt8} (h : NoStrayNul src) (s : σ) :
    processLines execute uninit call src s =
      .ok (untilQuit execute ((physicalLines src).map lineText) s) := by
  by_cases hne : src = []
  · rw [hne, processLines_nil]
    rfl
  · obtain ⟨hfront, hinside, hrest⟩ := (noStrayNul_iff hne).mp h
    have hleaves : leaves src = eatLine src := by
      rw [leaves]
      split
      · rename_i hnul
        by_contra hmore
        have hmore' : eatLine src ≠ [] := by
          intro hnil
          rw [hnil] at hmore
          exact hmore rfl
        exact hinside hmore' hnul.1 hnul.2
      · rfl
    have hlt := eatLine_length_lt hne
    rw [processLines_eq execute uninit call hne, if_neg hfront, hleaves, physicalLines_eq hne,
      List.map_cons, untilQuit]
    cases hquit : (execute (lineText (firstLine src)) s).2 with
    | true => simp [hquit]
    | false => simp [hquit, processLines_of_noStrayNul execute uninit (call + 1) hrest]
termination_by src.length

/-- Commands that never quit. -/
def goOn : List UInt8 → Unit → Unit × Bool := fun _ s => (s, false)

/-- A run in which nothing quits reads one line after the other. -/
theorem processLines_goOn {uninit : ℕ → LineBuffer} {call : ℕ} {src : List UInt8} (hne : src ≠ [])
    {t : List (List UInt8) × Unit × Bool} (h : processLines goOn uninit call src () = .ok t) :
    (firstLine src).head? ≠ some 0 ∧
      ∃ lines, processLines goOn uninit (call + 1) (leaves src) () = .ok (lines, t.2) ∧
        t.1 = lineText (firstLine src) :: lines := by
  rw [processLines_eq goOn uninit call hne] at h
  split at h
  · cases h
  · rename_i hhead
    refine ⟨hhead, ?_⟩
    simp only [goOn, Bool.false_eq_true, if_false] at h
    split at h
    · cases h
    · rename_i t' ht'
      cases h
      exact ⟨t'.1, ht', rfl⟩

/-- No lines appear when one is taken away. -/
theorem physicalLines_eatLine_length_le (fp : List UInt8) :
    (physicalLines (eatLine fp)).length ≤ (physicalLines fp).length := by
  by_cases hne : fp = []
  · rw [hne, eatLine]
  · rw [physicalLines_eq hne]
    exact Nat.le_succ _

/-- No more lines are processed than there are. -/
theorem processLines_length_le {uninit : ℕ → LineBuffer} {call : ℕ} {src : List UInt8}
    {t : List (List UInt8) × Unit × Bool} (h : processLines goOn uninit call src () = .ok t) :
    t.1.length ≤ (physicalLines src).length := by
  by_cases hne : src = []
  · rw [hne, processLines_nil, Except.ok.injEq] at h
    rw [← h]
    exact Nat.zero_le _
  · obtain ⟨-, lines, hlines, ht⟩ := processLines_goOn hne h
    have hlt := leaves_length_lt hne
    have ih : lines.length ≤ (physicalLines (leaves src)).length := processLines_length_le hlines
    have hle : (physicalLines (leaves src)).length ≤ (physicalLines (eatLine src)).length := by
      rw [leaves]
      split
      · exact physicalLines_eatLine_length_le _
      · exact le_rfl
    rw [ht, physicalLines_eq hne, List.length_cons, List.length_cons]
    exact Nat.succ_le_succ (ih.trans hle)
termination_by src.length

/-- If the lines are processed in order, there is no stray NUL. -/
theorem noStrayNul_of_processLines {uninit : ℕ → LineBuffer} {call : ℕ} {src : List UInt8}
    (h : processLines goOn uninit call src () = .ok ((physicalLines src).map lineText, (), false)) :
    NoStrayNul src := by
  by_cases hne : src = []
  · rw [hne]
    exact ⟨fun _ h => absurd h List.not_mem_nil, fun _ h => absurd h List.not_mem_nil⟩
  · obtain ⟨hhead, lines, hlines, hmap⟩ := processLines_goOn hne h
    rw [physicalLines_eq hne, List.map_cons, List.cons.injEq] at hmap
    have hlt := eatLine_length_lt hne
    by_cases hnul : (firstLine src).length < lineLength - 1 ∧ 0 ∈ firstLine src
    · -- the line after this one is lost
      have hlast : eatLine src = [] := by
        by_contra hmore
        have hle : lines.length ≤ (physicalLines (leaves src)).length :=
          processLines_length_le hlines
        rw [← hmap.2, List.length_map, leaves, if_pos hnul, physicalLines_eq hmore,
          List.length_cons] at hle
        omega
      refine (noStrayNul_iff hne).mpr ⟨hhead, fun hmore => absurd hlast hmore, ?_⟩
      rw [hlast]
      exact ⟨fun _ h => absurd h List.not_mem_nil, fun _ h => absurd h List.not_mem_nil⟩
    · rw [leaves, if_neg hnul, ← hmap.2] at hlines
      exact (noStrayNul_iff hne).mpr ⟨hhead, fun _ hfits hmem => hnul ⟨hfits, hmem⟩,
        noStrayNul_of_processLines hlines⟩
termination_by src.length

/-- Where nothing quits, all the lines are executed. -/
theorem untilQuit_goOn (lines : List (List UInt8)) (s : Unit) :
    untilQuit goOn lines s = (lines, (), false) := by
  induction lines with
  | nil => rfl
  | cons line lines ih => rw [untilQuit, goOn, ih]; rfl

/-- If the lines come out in order, there was no NUL that would have hidden the rest of its line. -/
theorem noStrayNul_of_linesInOrder {file : List UInt8} (h : LinesInOrder file) :
    NoStrayNul file := by
  have hgo := h Unit goOn (fun _ => ⟨List.replicate lineLength 0, List.length_replicate⟩) ()
  rw [untilQuit_goOn] at hgo
  exact noStrayNul_of_processLines hgo

/-- **The lines of a script.** The successive calls of `process_line` process the lines of a file
one by one in order, cut off at the end of the buffer and at a NUL, and stay in the buffer, just if
there is no NUL at the front of a line or in a line that fits and is not the last. -/
theorem linesInOrder_iff (file : List UInt8) : LinesInOrder file ↔ NoStrayNul file :=
  ⟨noStrayNul_of_linesInOrder, fun h _ execute uninit s =>
    processLines_of_noStrayNul execute uninit 0 h s⟩

/-- `a`, a NUL and `b` on a line, and `c` on the next one, which is lost. -/
theorem nulInside_not_linesInOrder : ¬ LinesInOrder [97, 0, 98, 10, 99, 10] := by
  intro h
  exact (noStrayNul_of_linesInOrder h).inside [97, 0, 98] (by decide) (by decide) (by decide)

end ConfigdExtra.ScriptInput
