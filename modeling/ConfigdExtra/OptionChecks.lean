import Mathlib.Data.List.Forall2
import ConfigdExtra.ProtocolOptions

/-!
# Options, with their faults

`_process_options` and the handlers, with what they may do wrong: an argument is read that is not
there, or `NULL` is used in the place of a string. The bytes of an argument are told from its
characters only by `strlcpy`-like limits, which are not looked at here: `cleanupName`, `separated`
and `fitsAddressBuffer` work on characters.

* `ArgumentFault`, `CheckedHandler` — the faults, and handlers that may meet them.
* `checkedTurn`, `checkedProcess` — a turn of the loop, and the loop.
* `checkedProcess_eq_ok` — without a fault they do what `processOptions` does.
* `GuardedRow`, `checkedProcess_guarded` — handlers that check the count of the arguments.
* `PairTurn`, `PairRun`, `checkedProcess_pairs` — tables whose options all take one argument.
* `unguarded`, `ipv4Handlers` and so on — the handlers of `set protocol`.
-/

namespace ConfigdExtra

open DeferredEdits

variable {o i : CFConfiguration} {l : CFConfiguration → CFConfiguration}

/-! ## Faults -/

/-- What goes wrong. -/
inductive ArgumentFault where
  /-- `argv[argc]` is read -/
  | beyondArgc
  /-- `_find_selection` is called with `NULL` -/
  | nullSelection
  /-- a handler returns more than `argc` -/
  | negativeArgc
  /-- there are arguments left -/
  | unfinished
  /-- `NULL` is used as a string elsewhere -/
  | nullString
  /-- an object is used as a string -/
  | notString
  deriving DecidableEq

/-- The faults that are about the arguments and the selections. -/
def ArgumentFault.isArgument : ArgumentFault → Bool
  | .nullString | .notString => false
  | _ => true

/-- No argument is read that is not there, nor `NULL` looked up. -/
def ArgumentsSafe {α : Type} (r : Except ArgumentFault α) : Prop :=
  ∀ f, r = .error f → f.isArgument = false

theorem argumentsSafe_ok {α : Type} (a : α) : ArgumentsSafe (.ok a : Except ArgumentFault α) :=
  nofun

/-- A fault that is about no argument is safe here. -/
theorem argumentsSafe_error {α : Type} {f : ArgumentFault} :
    ArgumentsSafe (.error f : Except ArgumentFault α) ↔ f.isArgument = false := by
  simp [ArgumentsSafe]

instance {α : Type} (r : Except ArgumentFault α) : Decidable (ArgumentsSafe r) :=
  match r with
  | .ok a => isTrue (argumentsSafe_ok a)
  | .error _ => decidable_of_iff _ argumentsSafe_error.symm

/-- `optionHandler`, which may meet a fault -/
abbrev CheckedHandler (o i : CFConfiguration) (l : CFConfiguration → CFConfiguration) :=
  List String → Draft o i l → SetWorld → Except ArgumentFault (Handled o i l)

/-- An entry of a table with its handler. -/
abbrev CheckedRow (o i : CFConfiguration) (l : CFConfiguration → CFConfiguration) :=
  OptionRow o i l × Option (CheckedHandler o i l)

/-- A handler that meets none. -/
def guarded (h : OptionHandler o i l) : CheckedHandler o i l := fun args d w => .ok (h args d w)

section

variable (text : String → Bool)

/-- A handler that makes a string of an argument that is not empty, and uses it. `text` holds for
the arguments of which `CFStringCreateWithCString` makes a string. -/
def converted (h : OptionHandler o i l) : CheckedHandler o i l := fun args d w =>
  match args with
  | [] => .ok (h [] d w)
  | arg :: rest =>
    if arg = "" ∨ text arg = true then .ok (h (arg :: rest) d w) else .error .nullString

/-! ## The loop -/

/-- The `switch` of `_process_options`. -/
def checkedSwitch (row : OptionRow o i l) (args : List String) (d : Draft o i l) :
    Except ArgumentFault (Switched o i l) :=
  match row.type, args with
  | .isChooseOne _ _, arg :: _ =>
    if text arg then .ok (row.switch args d) else .error .nullSelection
  | .isChooseMultiple _ _, arg :: _ | .isString _, arg :: _ | .isStringArray _, arg :: _ =>
    if arg = "" ∨ text arg = true then .ok (row.switch args d) else .error .nullString
  | _, _ => .ok (row.switch args d)

/-- The handler of an entry, if it has one. -/
def checkedHandle (handler : Option (CheckedHandler o i l)) : CheckedHandler o i l :=
  fun args d w =>
    match handler with
    | none => .ok (.uses 0 d w)
    | some h => h args d w

/-- `argv += nArgs` and `argc -= nArgs`, or the end -/
def checkedAfter (args : List String) (reports : List Report) (h : Handled o i l) :
    Except ArgumentFault (Bool × SetState o i l) :=
  match h.nArgs with
  | none => .ok (false, ⟨args, h.draft, h.world, reports ++ h.reports⟩)
  | some n =>
    if n ≤ args.length then .ok (true, ⟨args.drop n, h.draft, h.world, reports ++ h.reports⟩)
    else .error .negativeArgc

/-- What is done for an entry, with the arguments behind its option. -/
def checkedTurn (row : CheckedRow o i l) (args : List String) (s : SetState o i l) :
    Except ArgumentFault (Bool × SetState o i l) := do
  match ← checkedSwitch text row.1 args s.draft with
  | .fails r => return (false, { s with reports := s.reports ++ [r] })
  | .goesOn args' draft reports =>
    checkedAfter args' (s.reports ++ reports) (← checkedHandle row.2 args' draft s.world)

/-- One turn of the loop of `_process_options`. -/
def checkedPass (rows : List (CheckedRow o i l)) (s : SetState o i l) :
    Except ArgumentFault (Bool × SetState o i l) :=
  match s.args with
  | [] => .ok (true, s)
  | name :: args =>
    match rows.find? fun row => strcasecmp name row.1.option with
    | none => .ok (false, { s with reports := s.reports ++ [.refused "set what?\n"] })
    | some row => checkedTurn text row args s

/-- The loop of `_process_options`, for at most `fuel` turns. -/
def checkedLoop (rows : List (CheckedRow o i l)) :
    ℕ → SetState o i l → Except ArgumentFault (Bool × SetState o i l)
  | 0, s => if s.args = [] then .ok (true, s) else .error .unfinished
  | fuel + 1, s =>
    if s.args = [] then .ok (true, s)
    else do
      let pass ← checkedPass text rows s
      if pass.1 then checkedLoop rows fuel pass.2 else return pass

/-- `_process_options`, with as many turns as there are arguments -/
def checkedProcess (rows : List (CheckedRow o i l)) (args : List String) (d : Draft o i l)
    (w : SetWorld) : Except ArgumentFault (Bool × SetState o i l) :=
  checkedLoop text rows args.length ⟨args, d, w, []⟩

end

/-! ## Runs without faults -/

/-- What a handler does without a fault is what the one of the entry does. -/
def CheckedRow.Refines (row : CheckedRow o i l) : Prop :=
  ∀ args d w h, checkedHandle row.2 args d w = .ok h → row.1.handle args d w = h

variable {text : String → Bool} {rows : List (CheckedRow o i l)}

/-- A computation in two steps succeeds if both do. -/
theorem checked_bind_eq_ok {α β : Type} {first : Except ArgumentFault α}
    {next : α → Except ArgumentFault β} {b : β} :
    (first >>= next) = .ok b ↔ ∃ a, first = .ok a ∧ next a = .ok b := by
  cases first <;> simp [bind, Except.bind]

/-- A check that passes changes nothing. -/
theorem checkedSwitch_eq_ok {row : OptionRow o i l} {args : List String} {d : Draft o i l}
    {r : Switched o i l} (h : checkedSwitch text row args d = .ok r) : row.switch args d = r := by
  unfold checkedSwitch at h
  split at h
  · split_ifs at h
    exact Except.ok.inj h
  all_goals first
    | exact Except.ok.inj h
    | split_ifs at h
      exact Except.ok.inj h

/-- Nor does one that passes in a pass over an option. -/
theorem checkedPass_eq_ok (hrows : ∀ row ∈ rows, row.Refines) {s : SetState o i l}
    {r : Bool × SetState o i l} (h : checkedPass text rows s = .ok r) :
    optionPass (rows.map Prod.fst) s = r := by
  obtain ⟨_ | ⟨name, args⟩, d, w, rs⟩ := s
  · exact Except.ok.inj h
  have hfind : findOption name (rows.map Prod.fst) =
      (rows.find? fun row => strcasecmp name row.1.option).map Prod.fst := by
    rw [findOption, List.find?_map]
    rfl
  simp only [checkedPass] at h
  simp only [optionPass, hfind]
  split at h
  · next hnone =>
    rw [hnone]
    exact Except.ok.inj h
  next row hrow =>
  rw [hrow]
  obtain ⟨switched, hswitch, h⟩ := checked_bind_eq_ok.mp h
  simp only [Option.map_some, checkedSwitch_eq_ok hswitch]
  cases switched with
  | fails report => exact Except.ok.inj h
  | goesOn args' draft reports =>
    obtain ⟨handled, hhandle, h⟩ := checked_bind_eq_ok.mp h
    have hmem : row ∈ rows := List.mem_of_find?_eq_some hrow
    simp only [hrows row hmem args' draft w handled hhandle]
    unfold checkedAfter at h
    cases hn : handled.nArgs with
    | none =>
      simp only [hn, Except.ok.injEq] at h
      simp [← h]
    | some n =>
      simp only [hn] at h
      split_ifs at h
      simp [← Except.ok.inj h]

/-- Without a fault the loop does what `processOptions` does. -/
theorem checkedProcess_eq_ok (hrows : ∀ row ∈ rows, row.Refines) {args : List String}
    {d : Draft o i l} {w : SetWorld} {r : Bool × SetState o i l}
    (h : checkedProcess text rows args d w = .ok r) :
    processOptions (rows.map Prod.fst) args d w = r := by
  suffices hloop : ∀ fuel (s : SetState o i l), checkedLoop text rows fuel s = .ok r →
      optionLoop (rows.map Prod.fst) fuel s = r from hloop _ _ h
  intro fuel
  induction fuel with
  | zero =>
    intro s h
    unfold checkedLoop at h
    split_ifs at h
    exact Except.ok.inj h
  | succ fuel ih =>
    intro s h
    unfold checkedLoop at h
    unfold optionLoop
    split_ifs at h ⊢
    · exact Except.ok.inj h
    · obtain ⟨pass, hpass, h⟩ := checked_bind_eq_ok.mp h
      simp only [checkedPass_eq_ok hrows hpass]
      split_ifs at h ⊢
      · exact ih _ h
      · exact Except.ok.inj h

/-! ## Tables whose handlers check the count -/

/-- A handler uses no more arguments than there are, and meets no fault that is about them. -/
inductive Harmless (args : List String) : Except ArgumentFault (Handled o i l) → Prop where
  | ok (h : Handled o i l) (hn : ∀ n ∈ h.nArgs, n ≤ args.length) : Harmless args (.ok h)
  | error (f : ArgumentFault) (hf : f.isArgument = false) : Harmless args (.error f)

/-- A selection is looked up by the `switch`. -/
def OptionType.isSelection : OptionType → Bool
  | .isChooseOne _ _ => true
  | _ => false

/-- An entry without a selection, whose handler is harmless. -/
structure GuardedRow (row : CheckedRow o i l) : Prop where
  type : row.1.type.isSelection = false
  handler : ∀ args d w, Harmless args (checkedHandle row.2 args d w)

/-- How a turn goes then. -/
inductive TurnSafe (args : List String) : Except ArgumentFault (Bool × SetState o i l) → Prop where
  | error (f : ArgumentFault) (hf : f.isArgument = false) : TurnSafe args (.error f)
  | ends (s : SetState o i l) : TurnSafe args (.ok (false, s))
  | goesOn (s : SetState o i l) (h : s.args.length ≤ args.length) : TurnSafe args (.ok (true, s))

variable (text) in
/-- Without a selection the `switch` meets no fault that is about arguments. -/
theorem checkedSwitch_safe {row : OptionRow o i l}
    (htype : row.type.isSelection = false) (args : List String)
    (d : Draft o i l) : checkedSwitch text row args d = .ok (row.switch args d) ∨
      checkedSwitch text row args d = .error .nullString := by
  unfold checkedSwitch
  split
  · next h =>
    rw [h] at htype
    cases htype
  all_goals first
    | exact .inl rfl
    | split_ifs
      · exact .inl rfl
      · exact .inr rfl

/-- A handler that takes no more than there is leaves the next turn safe. -/
theorem checkedAfter_safe {args args' : List String} (hargs : args'.length ≤ args.length)
    (reports : List Report) {h : Handled o i l} (hn : ∀ n ∈ h.nArgs, n ≤ args'.length) :
    TurnSafe args (checkedAfter args' reports h) := by
  unfold checkedAfter
  cases hh : h.nArgs with
  | none => exact .ends _
  | some n =>
    simp only [if_pos (hn n hh)]
    refine .goesOn _ ?_
    rw [List.length_drop]
    omega

variable (text) in
/-- A guarded row is safe with any arguments. -/
theorem checkedTurn_safe {row : CheckedRow o i l} (hrow : GuardedRow row) (args : List String)
    (s : SetState o i l) : TurnSafe args (checkedTurn text row args s) := by
  unfold checkedTurn
  rcases checkedSwitch_safe text hrow.type args s.draft with h | h
  · rw [h]
    have hregular := row.1.switch_regular args s.draft
    cases hswitch : row.1.switch args s.draft with
    | fails r => exact .ends _
    | goesOn args' draft reports =>
      rw [hswitch] at hregular
      simp only [bind, Except.bind]
      cases hhandler : checkedHandle row.2 args' draft s.world with
      | error f =>
        have hharmless := hrow.handler args' draft s.world
        rw [hhandler] at hharmless
        cases hharmless with
        | error _ hf => exact .error f hf
      | ok handled =>
        have hharmless := hrow.handler args' draft s.world
        rw [hhandler] at hharmless
        cases hharmless with
        | ok _ hn => exact checkedAfter_safe hregular.1.length_le _ hn
  · rw [h]
    exact .error _ rfl

/-- The loop ends, and no argument is missing. -/
theorem checkedProcess_guarded (hrows : ∀ row ∈ rows, GuardedRow row) (args : List String)
    (d : Draft o i l) (w : SetWorld) : ArgumentsSafe (checkedProcess text rows args d w) := by
  suffices hloop : ∀ fuel (s : SetState o i l), s.args.length ≤ fuel →
      ArgumentsSafe (checkedLoop text rows fuel s) from hloop _ _ le_rfl
  intro fuel
  induction fuel with
  | zero =>
    intro s hs
    rw [checkedLoop, if_pos (List.length_eq_zero_iff.mp (Nat.le_zero.mp hs))]
    exact argumentsSafe_ok _
  | succ fuel ih =>
    rintro ⟨_ | ⟨name, args⟩, d, w, rs⟩ hs
    · exact argumentsSafe_ok _
    rw [checkedLoop, if_neg (List.cons_ne_nil name args)]
    simp only [checkedPass]
    split
    · exact argumentsSafe_ok _
    next row hfind =>
    have hturn := checkedTurn_safe text (hrows row (List.mem_of_find?_eq_some hfind)) args
      ⟨name :: args, d, w, rs⟩
    cases hr : checkedTurn text row args ⟨name :: args, d, w, rs⟩ with
    | error f =>
      rw [hr] at hturn
      cases hturn with
      | error _ hf => exact argumentsSafe_error.mpr hf
    | ok pass =>
      rw [hr] at hturn
      cases hturn with
      | ends s => exact argumentsSafe_ok _
      | goesOn s hle =>
        refine ih s ?_
        simp only [List.length_cons] at hs
        omega

/-! ## Tables whose options take one argument -/

/-- Searches in two lists that go together find what goes together. -/
theorem find?_forall₂ {α β : Type} {R : α → β → Prop} {p : α → Bool} {q : β → Bool}
    (hpq : ∀ a b, R a b → p a = q b) {as : List α} {bs : List β} (h : List.Forall₂ R as bs) :
    (as.find? p = none ∧ bs.find? q = none) ∨
      ∃ a b, as.find? p = some a ∧ bs.find? q = some b ∧ R a b := by
  induction h with
  | nil => exact .inl ⟨rfl, rfl⟩
  | @cons a b as bs hab _ ih =>
    rw [List.find?_cons, List.find?_cons, hpq a b hab]
    cases q b with
    | true => exact .inr ⟨a, b, rfl, rfl, hab⟩
    | false => exact ih

/-- What an option that takes one argument does with it. -/
structure PairKind where
  /-- the arguments that are accepted -/
  accepts : String → Bool
  /-- its handler does not look at the count -/
  unguarded : Bool
  /-- the argument is a selection -/
  selects : Bool

/-- The selection that a key has after an option. -/
def SelectionAfter (key : PropertyKey) (selected : Prop) (d d' : Draft o i l) : Prop :=
  (selected → ∃ name, d'.pending.lookup key = some (.string name)) ∧
    (¬ selected → d'.pending.lookup key = d.pending.lookup key)

/-- How a turn goes for an option that takes one argument, or for one that is not in the table. -/
inductive PairTurn (text : String → Bool) (key : PropertyKey) (kind : Option PairKind)
    (d : Draft o i l) : List String → Except ArgumentFault (Bool × SetState o i l) → Prop where
  /-- the missing argument is read -/
  | beyond {k : PairKind} (hk : k ∈ kind) (h : k.unguarded = true) :
      PairTurn text key kind d [] (.error .beyondArgc)
  /-- it is missing -/
  | missing (h : ∀ k ∈ kind, k.unguarded = false) (s : SetState o i l) :
      PairTurn text key kind d [] (.ok (false, s))
  /-- there is no string to select by -/
  | nullSelection {k : PairKind} (hk : k ∈ kind) (h : k.selects = true) {value : String}
      (htext : text value = false) (rest : List String) :
      PairTurn text key kind d (value :: rest) (.error .nullSelection)
  /-- another fault -/
  | harmless {f : ArgumentFault} (hf : f.isArgument = false) {value : String}
      (h : ∀ k ∈ kind, k.accepts value = false ∧ (k.selects = true → text value = true))
      (rest : List String) : PairTurn text key kind d (value :: rest) (.error f)
  /-- the argument is refused -/
  | refused {value : String}
      (h : ∀ k ∈ kind, k.accepts value = false ∧ (k.selects = true → text value = true))
      (rest : List String) (s : SetState o i l) :
      PairTurn text key kind d (value :: rest) (.ok (false, s))
  /-- the argument is accepted -/
  | accepted {k : PairKind} (hk : k ∈ kind) {value : String} (h : k.accepts value = true)
      (htext : k.selects = true → text value = true) (rest : List String) {d' : Draft o i l}
      (hkey : SelectionAfter key (k.selects = true) d d') (w : SetWorld) (rs : List Report) :
      PairTurn text key kind d (value :: rest) (.ok (true, ⟨rest, d', w, rs⟩))

/-- An entry is about an option that takes one argument, or prints a help text. -/
def PairRow (text : String → Bool) (key : PropertyKey) (row : CheckedRow o i l)
    (kind : Option PairKind) : Prop :=
  ∀ args s, PairTurn text key kind s.draft args (checkedTurn text row args s)

section

variable (text : String → Bool) (kinds : List (String × Option PairKind))

/-- What an option does with its argument. -/
def pairKind (name : String) : Option PairKind :=
  (kinds.find? fun e => strcasecmp name e.1).bind Prod.snd

/-- Options with arguments that are accepted. -/
def AllAccepted : List String → Prop
  | [] => True
  | [_] => False
  | name :: value :: rest => (∃ k ∈ pairKind kinds name, k.accepts value = true) ∧ AllAccepted rest

/-- One of the options is a selection. -/
def HasSelection : List String → Prop
  | name :: _ :: rest => (∃ k ∈ pairKind kinds name, k.selects = true) ∨ HasSelection rest
  | _ => False

/-- The argument of the last option is missing, and its handler does not see that. -/
def EndsUnguarded (args : List String) : Prop :=
  ∃ front name, args = front ++ [name] ∧ AllAccepted kinds front ∧
    ∃ k ∈ pairKind kinds name, k.unguarded = true

/-- A selection is reached whose argument is not text. -/
def SelectsNull (args : List String) : Prop :=
  ∃ front name value rest, args = front ++ name :: value :: rest ∧ AllAccepted kinds front ∧
    ∃ k ∈ pairKind kinds name, k.selects = true ∧ text value = false

/-- How the loop ends for a table of options that take one argument. -/
inductive PairRun (key : PropertyKey) (args : List String) (d : Draft o i l) :
    Except ArgumentFault (Bool × SetState o i l) → Prop where
  | beyond (h : EndsUnguarded kinds args) : PairRun key args d (.error .beyondArgc)
  | nullSelection (h : SelectsNull text kinds args) : PairRun key args d (.error .nullSelection)
  | harmless {f : ArgumentFault} (hf : f.isArgument = false) (hends : ¬ EndsUnguarded kinds args)
      (hnull : ¬ SelectsNull text kinds args) (haccepted : ¬ AllAccepted kinds args) :
      PairRun key args d (.error f)
  | refused (s : SetState o i l) (hends : ¬ EndsUnguarded kinds args)
      (hnull : ¬ SelectsNull text kinds args) (haccepted : ¬ AllAccepted kinds args) :
      PairRun key args d (.ok (false, s))
  | accepted (s : SetState o i l) (hends : ¬ EndsUnguarded kinds args)
      (hnull : ¬ SelectsNull text kinds args) (haccepted : AllAccepted kinds args)
      (hkey : SelectionAfter key (HasSelection kinds args) d s.draft) :
      PairRun key args d (.ok (true, s))

theorem not_endsUnguarded_nil : ¬ EndsUnguarded kinds [] := by
  rintro ⟨front, name, h, -⟩
  simp at h

/-- What is last is read beyond, if its handler does not ask. -/
theorem endsUnguarded_single {name : String} :
    EndsUnguarded kinds [name] ↔ ∃ k ∈ pairKind kinds name, k.unguarded = true := by
  constructor
  · rintro ⟨_ | ⟨x, front⟩, name', h, -, hk⟩
    · obtain rfl : name = name' := by simpa using h
      exact hk
    · simp at h
  · exact fun hk => ⟨[], name, rfl, trivial, hk⟩

/-- A pair that is accepted leaves it to the rest. -/
theorem endsUnguarded_cons {name value : String} {rest : List String} :
    EndsUnguarded kinds (name :: value :: rest) ↔
      (∃ k ∈ pairKind kinds name, k.accepts value = true) ∧ EndsUnguarded kinds rest := by
  constructor
  · rintro ⟨_ | ⟨x, _ | ⟨y, front⟩⟩, name', h, haccepted, hk⟩
    · simp at h
    · exact haccepted.elim
    · obtain ⟨rfl, rfl, rfl⟩ : name = x ∧ value = y ∧ rest = front ++ [name'] := by simpa using h
      exact ⟨haccepted.1, front, name', rfl, haccepted.2, hk⟩
  · rintro ⟨haccepts, front, name', rfl, haccepted, hk⟩
    exact ⟨name :: value :: front, name', rfl, ⟨haccepts, haccepted⟩, hk⟩

theorem not_selectsNull_nil : ¬ SelectsNull text kinds [] := by
  rintro ⟨front, name, value, rest, h, -⟩
  simp at h

theorem not_selectsNull_single {name : String} : ¬ SelectsNull text kinds [name] := by
  rintro ⟨_ | ⟨x, front⟩, name', value, rest, h, -⟩
  · simp at h
  · simp at h

/-- A pair selects nothing, or it is accepted and one of the rest does. -/
theorem selectsNull_cons {name value : String} {rest : List String} :
    SelectsNull text kinds (name :: value :: rest) ↔
      (∃ k ∈ pairKind kinds name, k.selects = true ∧ text value = false) ∨
        (∃ k ∈ pairKind kinds name, k.accepts value = true) ∧ SelectsNull text kinds rest := by
  constructor
  · rintro ⟨_ | ⟨x, _ | ⟨y, front⟩⟩, name', value', rest', h, haccepted, hk⟩
    · obtain ⟨rfl, rfl, rfl⟩ : name = name' ∧ value = value' ∧ rest = rest' := by simpa using h
      exact .inl hk
    · exact haccepted.elim
    · obtain ⟨rfl, rfl, rfl⟩ : name = x ∧ value = y ∧ rest = front ++ name' :: value' :: rest' := by
        simpa using h
      exact .inr ⟨haccepted.1, front, name', value', rest', rfl, haccepted.2, hk⟩
  · rintro (hk | ⟨haccepts, front, name', value', rest', rfl, haccepted, hk⟩)
    · exact ⟨[], name, value, rest, rfl, trivial, hk⟩
    · exact ⟨name :: value :: front, name', value', rest', rfl, ⟨haccepts, haccepted⟩, hk⟩

end

/-- A run goes on with the arguments behind an option that was accepted. -/
theorem PairRun.cons {kinds : List (String × Option PairKind)} {key : PropertyKey}
    {name value : String} {rest : List String} {k : PairKind} (hk : k ∈ pairKind kinds name)
    (haccepts : k.accepts value = true) (htext : k.selects = true → text value = true)
    {d d' : Draft o i l} (hkey : SelectionAfter key (k.selects = true) d d')
    {r : Except ArgumentFault (Bool × SetState o i l)} (h : PairRun text kinds key rest d' r) :
    PairRun text kinds key (name :: value :: rest) d r := by
  have hunique : ∀ k' ∈ pairKind kinds name, k' = k := fun k' hk' =>
    Option.some.inj (hk'.symm.trans hk)
  have hends : EndsUnguarded kinds (name :: value :: rest) ↔ EndsUnguarded kinds rest := by
    rw [endsUnguarded_cons]
    exact and_iff_right ⟨k, hk, haccepts⟩
  have hnull : SelectsNull text kinds (name :: value :: rest) ↔ SelectsNull text kinds rest := by
    rw [selectsNull_cons]
    constructor
    · rintro (⟨k', hk', hselects, hvalue⟩ | ⟨-, hrest⟩)
      · obtain rfl := hunique k' hk'
        rw [htext hselects] at hvalue
        cases hvalue
      · exact hrest
    · exact fun hrest => .inr ⟨⟨k, hk, haccepts⟩, hrest⟩
  have haccepted : AllAccepted kinds (name :: value :: rest) ↔ AllAccepted kinds rest :=
    and_iff_right ⟨k, hk, haccepts⟩
  cases h with
  | beyond h => exact .beyond (hends.mpr h)
  | nullSelection h => exact .nullSelection (hnull.mpr h)
  | harmless hf h1 h2 h3 =>
    exact .harmless hf (mt hends.mp h1) (mt hnull.mp h2) (mt haccepted.mp h3)
  | refused s h1 h2 h3 => exact .refused s (mt hends.mp h1) (mt hnull.mp h2) (mt haccepted.mp h3)
  | accepted s h1 h2 h3 hafter =>
    refine .accepted s (mt hends.mp h1) (mt hnull.mp h2) (haccepted.mpr h3) ?_
    have hselection : HasSelection kinds (name :: value :: rest) ↔
        k.selects = true ∨ HasSelection kinds rest := by
      refine or_congr ⟨?_, fun h => ⟨k, hk, h⟩⟩ Iff.rfl
      rintro ⟨k', hk', h⟩
      exact hunique k' hk' ▸ h
    rw [hselection]
    by_cases hrest : HasSelection kinds rest
    · exact ⟨fun _ => hafter.1 hrest, fun h => absurd (.inr hrest) h⟩
    · have hsame := hafter.2 hrest
      constructor
      · rintro (h | h)
        · obtain ⟨n, hn⟩ := hkey.1 h
          exact ⟨n, hsame.trans hn⟩
        · exact absurd h hrest
      · intro h
        exact hsame.trans (hkey.2 fun hselects => h (.inl hselects))

/-- An argument that is refused ends what is accepted. -/
theorem not_of_refused {kinds : List (String × Option PairKind)} {name value : String}
    (h : ∀ k ∈ pairKind kinds name,
      k.accepts value = false ∧ (k.selects = true → text value = true)) (rest : List String) :
    ¬ EndsUnguarded kinds (name :: value :: rest) ∧
      ¬ SelectsNull text kinds (name :: value :: rest) ∧
        ¬ AllAccepted kinds (name :: value :: rest) := by
  have hno : ¬ ∃ k ∈ pairKind kinds name, k.accepts value = true := by
    rintro ⟨k, hk, haccepts⟩
    rw [(h k hk).1] at haccepts
    cases haccepts
  refine ⟨fun hends => hno ((endsUnguarded_cons kinds).mp hends).1, fun hnull => ?_,
    fun haccepted => hno haccepted.1⟩
  rcases (selectsNull_cons text kinds).mp hnull with ⟨k, hk, hselects, htext⟩ | ⟨haccepts, -⟩
  · rw [(h k hk).2 hselects] at htext
    cases htext
  · exact hno haccepts

/-- A pass takes a name and what belongs to it. -/
theorem checkedPass_pairTurn {kinds : List (String × Option PairKind)} {key : PropertyKey}
    (hrows : List.Forall₂ (fun row e => row.1.option = e.1 ∧ PairRow text key row e.2) rows kinds)
    (name : String) (args : List String) (d : Draft o i l) (w : SetWorld) (rs : List Report) :
    PairTurn text key (pairKind kinds name) d args
      (checkedPass text rows ⟨name :: args, d, w, rs⟩) := by
  obtain ⟨hrow, hkind⟩ | ⟨row, e, hrow, hkind, -, hpair⟩ :=
    find?_forall₂ (p := fun row : CheckedRow o i l => strcasecmp name row.1.option)
      (q := fun e => strcasecmp name e.1)
      (fun row e h => congrArg (strcasecmp name) h.1) hrows
  · simp only [checkedPass, hrow, pairKind, hkind, Option.bind_none]
    cases args with
    | nil => exact .missing (fun k hk => absurd hk (Option.not_mem_none k)) _
    | cons value rest => exact .refused (fun k hk => absurd hk (Option.not_mem_none k)) rest _
  · simp only [checkedPass, hrow, pairKind, hkind, Option.bind_some]
    exact hpair args ⟨name :: args, d, w, rs⟩

/-- A turn with a fault ends the loop. -/
theorem PairRun.of_error {kinds : List (String × Option PairKind)} {key : PropertyKey}
    {name : String} {args : List String} {d : Draft o i l} {f : ArgumentFault}
    (h : PairTurn text key (pairKind kinds name) d args (.error f)) :
    PairRun text kinds key (name :: args) d (.error f) := by
  generalize hkind : pairKind kinds name = kind at h
  cases h with
  | beyond hk hunguarded =>
    exact .beyond ((endsUnguarded_single kinds).mpr ⟨_, hkind ▸ hk, hunguarded⟩)
  | nullSelection hk hselects htext rest =>
    exact .nullSelection ((selectsNull_cons text kinds).mpr (.inl ⟨_, hkind ▸ hk, hselects, htext⟩))
  | harmless hf hno rest =>
    subst hkind
    have hrefused := not_of_refused hno rest
    exact .harmless hf hrefused.1 hrefused.2.1 hrefused.2.2

/-- So does one that is refused. -/
theorem PairRun.of_refused {kinds : List (String × Option PairKind)} {key : PropertyKey}
    {name : String} {args : List String} {d : Draft o i l} {s : SetState o i l}
    (h : PairTurn text key (pairKind kinds name) d args (.ok (false, s))) :
    PairRun text kinds key (name :: args) d (.ok (false, s)) := by
  generalize hkind : pairKind kinds name = kind at h
  cases h with
  | missing hk =>
    refine .refused s ?_ (not_selectsNull_single text kinds) id
    rw [endsUnguarded_single, hkind]
    rintro ⟨k, hmem, hunguarded⟩
    rw [hk k hmem] at hunguarded
    cases hunguarded
  | refused hno rest =>
    subst hkind
    have hrefused := not_of_refused hno rest
    exact .refused s hrefused.1 hrefused.2.1 hrefused.2.2

/-- So does the loop, until the arguments are used up. -/
theorem checkedProcess_pairs {kinds : List (String × Option PairKind)} {key : PropertyKey}
    (hrows : List.Forall₂ (fun row e => row.1.option = e.1 ∧ PairRow text key row e.2) rows kinds)
    (args : List String) (d : Draft o i l) (w : SetWorld) :
    PairRun text kinds key args d (checkedProcess text rows args d w) := by
  suffices hloop : ∀ fuel args d w rs, args.length ≤ fuel → PairRun text kinds key args d
      (checkedLoop text rows fuel ⟨args, d, w, rs⟩) from hloop _ _ _ _ _ le_rfl
  intro fuel
  induction fuel with
  | zero =>
    intro args d w rs hargs
    obtain rfl := List.length_eq_zero_iff.mp (Nat.le_zero.mp hargs)
    exact .accepted _ (not_endsUnguarded_nil kinds) (not_selectsNull_nil text kinds) trivial
      ⟨False.elim, fun _ => rfl⟩
  | succ fuel ih =>
    intro args d w rs hargs
    cases args with
    | nil =>
      exact .accepted _ (not_endsUnguarded_nil kinds) (not_selectsNull_nil text kinds) trivial
        ⟨False.elim, fun _ => rfl⟩
    | cons name args =>
      have hturn := checkedPass_pairTurn hrows name args d w rs
      rw [checkedLoop, if_neg (List.cons_ne_nil name args)]
      cases hr : checkedPass text rows ⟨name :: args, d, w, rs⟩ with
      | error f =>
        rw [hr] at hturn
        exact PairRun.of_error hturn
      | ok pass =>
        rw [hr] at hturn
        obtain ⟨ok, s⟩ := pass
        cases ok with
        | false => exact PairRun.of_refused hturn
        | true =>
          generalize hkind : pairKind kinds name = kind at hturn
          cases hturn with
          | accepted hk haccepts htext rest hkey w' rs' =>
            refine PairRun.cons (hkind ▸ hk) haccepts htext hkey (ih rest _ w' rs' ?_)
            simp only [List.length_cons] at hargs
            omega

/-! ## The handlers of `set protocol` -/

/-- A handler that reads its argument without looking at the count. -/
def unguarded (h : OptionHandler o i l) : CheckedHandler o i l := fun args d w =>
  match args with
  | [] => .error .beyondArgc
  | arg :: rest => .ok (h (arg :: rest) d w)

/-- `_find_selection` of the configuration method: it has to be a string. -/
def checkedMethod (key : PropertyKey) (c : CFConfiguration) : Except ArgumentFault Unit :=
  match c.lookup key with
  | none => .error .nullSelection
  | some (.string _) => .ok ()
  | some _ => .error .notString

/-- A handler of a configuration method. -/
def checkedConfigMethod (h : PropertyKey → OptionHandler o i l) (key : PropertyKey) :
    CheckedHandler o i l := fun args d w =>
  checkedMethod key d.pending >>= fun _ => .ok (h key args d w)

section

variable (text : String → Bool)

/-- A handler that has checked the proxy and the count when it makes a string of its argument. -/
def checkedModifier (h : OptionHandler o i l) : CheckedHandler o i l := fun args d w =>
  match args with
  | [] => .ok (h [] d w)
  | arg :: rest =>
    if (h (arg :: rest) d w).nArgs.isSome ∧ arg ≠ "" ∧ text arg = false then .error .nullString
    else .ok (h (arg :: rest) d w)

/-! ## Their tables -/

/-- The handlers of `dnsOptions` in their order. -/
def dnsHandlers (svc : ProtocolServices) : List (Option (CheckedHandler o i l)) := [
  some (converted text (doDNSDomain .kSCPropNetDNSDomainName)),
  some (converted text (doDNSDomain .kSCPropNetDNSDomainName)),
  some (converted text (doDNSDomainArray .kSCPropNetDNSSearchDomains)),
  some (converted text (doDNSDomainArray .kSCPropNetDNSSearchDomains)),
  some (converted text (doDNSServerAddresses svc .kSCPropNetDNSServerAddresses)),
  some (converted text (doDNSServerAddresses svc .kSCPropNetDNSServerAddresses)),
  some (converted text (doDNSServerAddresses svc .kSCPropNetDNSServerAddresses)),
  some (converted text (doDNSDomainArray .kSCPropNetDNSSupplementalMatchDomains)),
  none]

/-- The handlers of `ipv4Options`. -/
def ipv4Handlers (svc : ProtocolServices) : List (Option (CheckedHandler o i l)) := [
  some (checkedConfigMethod doIPv4ConfigMethod .kSCPropNetIPv4ConfigMethod),
  some (checkedConfigMethod doIPv4ConfigMethod .kSCPropNetIPv4ConfigMethod),
  some (unguarded (doIPv4Addresses svc .kSCPropNetIPv4Addresses true)),
  some (unguarded (doIPv4Addresses svc .kSCPropNetIPv4Addresses true)),
  some (unguarded (doIPv4Addresses svc .kSCPropNetIPv4SubnetMasks true)),
  some (unguarded (doIPv4Addresses svc .kSCPropNetIPv4SubnetMasks true)),
  some (unguarded (doIPv4Addresses svc .kSCPropNetIPv4Router false)),
  none,
  none]

/-- The handlers of `ipv6Options`. -/
def ipv6Handlers (svc : ProtocolServices) : List (Option (CheckedHandler o i l)) := [
  some (checkedConfigMethod doIPv6ConfigMethod .kSCPropNetIPv6ConfigMethod),
  some (checkedConfigMethod doIPv6ConfigMethod .kSCPropNetIPv6ConfigMethod),
  some (unguarded (doIPv6Addresses svc .kSCPropNetIPv6Addresses true)),
  some (unguarded (doIPv6Addresses svc .kSCPropNetIPv6Addresses true)),
  none,
  some (unguarded (doIPv6PrefixLength .kSCPropNetIPv6PrefixLength)),
  some (unguarded (doIPv6Addresses svc .kSCPropNetIPv6Router false)),
  none]

/-- The handlers of `proxyOptions`. -/
def proxyHandlers : List (Option (CheckedHandler o i l)) := [
  none,
  none,
  some (guarded (doProxySelect proxyKeysFTP)),
  some (guarded (doProxySelect proxyKeysGopher)),
  some (guarded (doProxySelect proxyKeysHTTP)),
  some (guarded (doProxySelect proxyKeysHTTPS)),
  some (guarded (doProxySelect proxyKeysRTSP)),
  some (guarded (doProxySelect proxyKeysSOCKS)),
  some (guarded (doProxySelect proxyKeysTransportConverter)),
  some (guarded (doProxySelect proxyKeysPAC)),
  some (guarded (doProxySelect proxyKeysPAC)),
  some (guarded (doProxySelect proxyKeysWPAD)),
  some (guarded (doProxySelect proxyKeysWPAD)),
  some (guarded (doProxyEnable false)),
  some (guarded (doProxyEnable true)),
  some (checkedModifier text doProxyHost),
  some (checkedModifier text doProxyHost),
  some (checkedModifier text doProxyHost),
  some (checkedModifier text doProxyHost),
  some (guarded doProxyPort),
  some (checkedModifier text doProxyURL),
  some (guarded doProxyFTPPassive),
  some (guarded doProxyFTPPassive),
  none]

/-- The handlers of `smbOptions`. -/
def smbHandlers (svc : ProtocolServices) : List (Option (CheckedHandler o i l)) := [
  some (converted text (doSMBName .kSCPropNetSMBNetBIOSName)),
  some (converted text (doSMBName .kSCPropNetSMBNetBIOSName)),
  none,
  none,
  some (converted text (doSMBWorkgroup .kSCPropNetSMBWorkgroup)),
  some (converted text (doSMBWINSAddresses svc .kSCPropNetSMBWINSAddresses)),
  some (converted text (doSMBWINSAddresses svc .kSCPropNetSMBWINSAddresses)),
  none]

end

/-- The options whose handlers read `argv[0]` when there are no arguments. -/
def readsBeyond (rows : List (CheckedRow o i l)) (d : Draft o i l) (w : SetWorld) : List String :=
  (rows.filter fun row =>
    match checkedHandle row.2 [] d w with
    | .error .beyondArgc => true
    | _ => false).map (·.1.option)

end ConfigdExtra
