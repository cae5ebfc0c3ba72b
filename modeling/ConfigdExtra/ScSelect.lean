import ConfigdExtra.PropertyLists

/-!
# scselect

The command selects the network set to be used. It looks for a set with the given name in two
loops, first by key and then by user-defined name, and makes it the current set; without a set
argument it lists the sets.

* `NetworkSet`, `Preferences` — the parts of the preferences that are read and written.
* `System` — the arguments and the results of the calls.
* `main` — the command, with `matchKeys` and `matchNames` for the loops.
* `committed_eq_some_iff` — what is committed, and when.
* `changesOnlyAsked_iff` — when only what was asked for is changed.
-/

namespace ConfigdExtra.ScSelect

/-! ## The preferences -/

/-- A set, with its key in `kSCPrefSets`. -/
structure NetworkSet where
  key : String
  dict : List (String × PropertyList)

/-- `CFDictionaryGetValue(dict, kSCPropUserDefinedName)` -/
def NetworkSet.userDefinedName (set : NetworkSet) : Option PropertyList :=
  set.dict.lookup "UserDefinedName"

/-- `CFEqual` with the user-defined name of a set; objects that are no strings are not equal. -/
def NetworkSet.isNamed (set : NetworkSet) (name : String) : Bool :=
  set.userDefinedName.any fun udn => udn.string? = some name

/-- `kSCPrefSets`, in the order of `CFDictionaryGetKeysAndValues` -/
structure NetworkSets where
  list : List NetworkSet
  nodup : (list.map NetworkSet.key).Nodup

structure Preferences where
  /-- `kSCPrefSets` -/
  sets : Option NetworkSets
  /-- `kSCPrefCurrentSet` -/
  currentSet : Option String
  /-- all other values -/
  others : List (String × PropertyList)

/-- `/Sets/` -/
def setsPrefix : String := "/Sets/"

/-- The preferences with a set as the current one. -/
def Preferences.select (prefs : Preferences) (set : NetworkSet) : Preferences :=
  { prefs with currentSet := some (setsPrefix ++ set.key) }

/-! ## The calls -/

/-- `SCError` -/
inductive SCError
  /-- `kSCStatusAccessError` -/
  | access
  | other (status : ℤ)

/-- What the calls of the command return. -/
structure System where
  /-- the options that `getopt_long` returns, and the arguments from `optind` on -/
  getopt : List (List UInt8) → List Char × List (List UInt8)
  /-- `CFStringCreateWithCString(…, kCFStringEncodingMacRoman)` -/
  macRoman : List UInt8 → String
  /-- `AuthorizationCreate` -/
  authorization : ℤ
  /-- `SCPreferencesCreateWithOptions` -/
  prefs : Option Preferences
  /-- `SCPreferencesCommitChanges`, with `SCError` if it fails -/
  commit : Option SCError
  /-- `SCPreferencesApplyChanges`, with `SCError` if it fails -/
  apply : Option SCError
  /-- `SCErrorString` -/
  errorString : SCError → String
  /-- `%@` -/
  description : PropertyList → String

inductive Stream
  | stdout
  | stderr

/-- What the command leaves. -/
structure Outcome where
  /-- the preferences that were committed -/
  committed : Option Preferences
  /-- the changes were applied -/
  applied : Bool
  /-- what was printed -/
  output : List (Stream × String)
  /-- the exit status -/
  status : ℕ

/-- An exit with a message, before anything is committed. -/
def Outcome.failed (status : ℕ) (message : String) : Outcome :=
  ⟨none, false, [(.stderr, message)], status⟩

/-! ## The command -/

/-- What the options set. -/
structure Options where
  /-- `_sc_debug` and `_sc_log` -/
  debug : Bool := false
  /-- `_sc_verbose` -/
  verbose : Bool := false
  apply : Bool := true

/-- The loop over the options; `none` is `usage`. -/
def processOptions (options : Options) : List Char → Option Options
  | [] => some options
  | 'd' :: rest => processOptions { options with debug := true } rest
  | 'v' :: rest => processOptions { options with verbose := true } rest
  | 'n' :: rest => processOptions { options with apply := false } rest
  | _ :: _ => none

/-- A string without the prefix, if it has it. -/
def afterPrefix (s : String) : Option String :=
  (List.isPrefixOf? setsPrefix.toList s.toList).map String.ofList

/-- The name that the command looks for; an error is a set that it refuses to look for. -/
def newSet (sys : System) : List (List UInt8) → Except String String
  | [arg] =>
    match afterPrefix (sys.macRoman arg) with
    | some name => if '/' ∈ name.toList then .error name else .ok name
    | none => .ok (sys.macRoman arg)
  | _ => .ok ""

/-- `current`, and the start of `currentMatched` -/
def current : Option String → String × ℤ
  | some s =>
    match afterPrefix s with
    | some name => (name, 0)
    | none => (s, -1)
  | none => ("", -2)

/-- The loop that looks for a set with matching name, and `currentMatched` after it. -/
def matchKeys (newSet current : String) (currentMatched : ℤ) :
    List NetworkSet → ℤ × Option NetworkSet
  | [] => (currentMatched, none)
  | set :: rest =>
    let currentMatched :=
      if currentMatched ≥ 0 ∧ set.key = current then currentMatched + 1 else currentMatched
    if newSet = set.key then (currentMatched, some set)
    else matchKeys newSet current currentMatched rest

/-- The loop that looks for a set with matching user-defined name. -/
def matchNames (newSet : String) : List NetworkSet → Option NetworkSet
  | [] => none
  | set :: rest => if set.isNamed newSet then some set else matchNames newSet rest

/-- `%@` for a user-defined name -/
def describeName (sys : System) (udn : Option PropertyList) : String :=
  match udn with
  | some udn => sys.description udn
  | none => ""

/-- The list of sets, when there is nothing to select. -/
def listing (sys : System) (sets : List NetworkSet) (current : String) (currentMatched : ℤ) :
    Outcome where
  committed := none
  applied := false
  output :=
    let header := if currentMatched > 0 then " (* == current set)" else ""
    let line := fun set : NetworkSet =>
      " " ++ (if currentMatched > 0 ∧ set.key = current then "*" else " ") ++ " " ++ set.key ++
        "\t(" ++ describeName sys set.userDefinedName ++ ")\n"
    let trailer :=
      if currentMatched = -2 then ["\nCurrent set not defined.\n"]
      else if currentMatched = -1 then ["\nCurrent set \"" ++ current ++ "\" may not be valid\n"]
      else if currentMatched = 0 then ["\nCurrent set \"" ++ current ++ "\" not valid\n"]
      else []
    (("Defined sets include:" ++ header ++ "\n") :: sets.map line ++ trailer).map (Stream.stdout, ·)
  status := 0

/-- What is done with the set that was found. -/
def found (sys : System) (options : Options) (prefs : Preferences) (set : NetworkSet) : Outcome :=
  match sys.commit with
  | some .access =>
    .failed 77 "Only local console users and administrators can change locations\n"
  | some status =>
    .failed 1 ("SCPreferencesCommitChanges() failed: " ++ sys.errorString status ++ "\n")
  | none =>
    let done := [(Stream.stdout, "CurrentSet updated to " ++ set.key ++ " (" ++
      describeName sys set.userDefinedName ++ ")\n")]
    if options.apply then
      match sys.apply with
      | some status => ⟨some (prefs.select set), false,
          [(.stderr, "SCPreferencesApplyChanges() failed " ++ sys.errorString status ++ "\n")], 1⟩
      | none => ⟨some (prefs.select set), true, done, 0⟩
    else ⟨some (prefs.select set), false, done, 0⟩

/-- The command, from `AuthorizationCreate` on. -/
def selectSet (sys : System) (options : Options) (argc : ℕ) (newSet : String) : Outcome :=
  if sys.authorization ≠ 0 then
    .failed 1 ("AuthorizationCreate() failed: status = " ++ toString sys.authorization ++ "\n")
  else
    match sys.prefs with
    | none => .failed 1 "SCPreferencesCreate() failed\n"
    | some prefs =>
      match prefs.sets with
      | none => .failed 1 "No network sets defined.\n"
      | some sets =>
        let (current, start) := current prefs.currentSet
        match matchKeys newSet current start sets.list with
        | (_, some set) => found sys options prefs set
        | (currentMatched, none) =>
          match matchNames newSet sets.list with
          | some set => found sys options prefs set
          | none =>
            if argc = 1 then .failed 1 ("Set \"" ++ newSet ++ "\" not available.\n")
            else listing sys sets.list current currentMatched

/-- `main`, for a command with these arguments -/
def main (sys : System) (command : String) (args : List (List UInt8)) : Outcome :=
  let (opts, argv) := sys.getopt args
  match processOptions {} opts with
  | none => .failed 64 ("usage: " ++ command ++ " [-n] new-set-name\n")
  | some options =>
    match newSet sys argv with
    | .error name => .failed 1 ("Set \"" ++ name ++ "\" not available\n")
    | .ok newSet => selectSet sys options argv.length newSet

/-! ## What is found -/

/-- The set that the loops find. -/
def search (name : String) (sets : List NetworkSet) : Option NetworkSet :=
  (sets.find? fun set => name = set.key).or (matchNames name sets)

/-- A set is meant by a name: by its key, or by its user-defined name if no set has the key. -/
def Means (sets : List NetworkSet) (name : String) (set : NetworkSet) : Prop :=
  set ∈ sets ∧ (set.key = name ∨ (∀ s ∈ sets, s.key ≠ name) ∧ set.isNamed name)

/-- Some set has the name, as a key or as a user-defined name. -/
def Named (sets : List NetworkSet) (name : String) : Prop :=
  ∃ set ∈ sets, set.key = name ∨ set.isNamed name

variable {name : String} {sets : List NetworkSet} {set : NetworkSet}

theorem matchKeys_snd (name cur : String) (matched : ℤ) (sets : List NetworkSet) :
    (matchKeys name cur matched sets).2 = sets.find? fun set => name = set.key := by
  induction sets generalizing matched with
  | nil => rfl
  | cons set rest ih =>
    rw [matchKeys, List.find?_cons]
    by_cases h : name = set.key
    · simp [h]
    · simp only [h, if_false, decide_false]
      exact ih _

theorem matchNames_eq : matchNames name sets = sets.find? fun set => set.isNamed name := by
  induction sets with
  | nil => rfl
  | cons set rest ih =>
    rw [matchNames, List.find?_cons, ih]
    cases set.isNamed name <;> rfl

/-- What is found is meant, whatever the order of the sets. -/
theorem means_of_search (h : search name sets = some set) : Means sets name set := by
  rw [search, Option.or_eq_some_iff, matchNames_eq] at h
  rcases h with hkey | ⟨hnone, hname⟩
  · have h := List.find?_some hkey
    exact ⟨List.mem_of_find?_eq_some hkey, .inl (of_decide_eq_true h).symm⟩
  · have hudn : set.isNamed name = true := List.find?_some (p := (NetworkSet.isNamed · name)) hname
    refine ⟨List.mem_of_find?_eq_some hname, .inr ⟨fun s hs heq => ?_, hudn⟩⟩
    exact List.find?_eq_none.mp hnone s hs (decide_eq_true heq.symm)

/-- Something is found if and only if some set has the name. -/
theorem search_eq_none_iff : search name sets = none ↔ ¬ Named sets name := by
  rw [search, Option.or_eq_none_iff, matchNames_eq, List.find?_eq_none, List.find?_eq_none]
  constructor
  · rintro ⟨hkeys, hnames⟩ ⟨set, hset, hkey | hname⟩
    · exact hkeys set hset (decide_eq_true hkey.symm)
    · exact hnames set hset hname
  · intro h
    refine ⟨fun set hset hkey => ?_, fun set hset hname => h ⟨set, hset, .inr hname⟩⟩
    exact h ⟨set, hset, .inl (of_decide_eq_true hkey).symm⟩

/-! ## What is committed -/

/-- The preferences can be opened and committed. -/
structure System.Writes (sys : System) (prefs : Preferences) (sets : NetworkSets) : Prop where
  authorized : sys.authorization = 0
  opened : sys.prefs = some prefs
  sets : prefs.sets = some sets
  commits : sys.commit = none

/-- The name that the command looks for, if it comes to look for one. -/
def System.lookedFor (sys : System) (args : List (List UInt8)) : Option String :=
  match processOptions {} (sys.getopt args).1, newSet sys (sys.getopt args).2 with
  | some _, .ok name => some name
  | _, _ => none

variable {sys : System} (command : String) {args : List (List UInt8)}

theorem found_committed (options : Options) (prefs : Preferences) (set : NetworkSet) :
    (found sys options prefs set).committed =
      if sys.commit.isNone then some (prefs.select set) else none := by
  unfold found
  cases sys.commit with
  | some status => cases status <;> rfl
  | none =>
    cases options.apply with
    | false => rfl
    | true => cases sys.apply <;> rfl

/-- With the sets at hand, what is found decides. -/
theorem selectSet_committed (options : Options) (argc : ℕ) (name : String) {prefs : Preferences}
    {sets : NetworkSets} (hauth : sys.authorization = 0) (hprefs : sys.prefs = some prefs)
    (hsets : prefs.sets = some sets) :
    (selectSet sys options argc name).committed =
      (search name sets.list).bind fun set =>
        if sys.commit.isNone then some (prefs.select set) else none := by
  have hsnd := matchKeys_snd name (current prefs.currentSet).1 (current prefs.currentSet).2
    sets.list
  simp only [selectSet, hauth, hprefs, hsets, ne_eq, not_true_eq_false, if_false, search]
  rw [← hsnd]
  split
  next hkeys => rw [hkeys, Option.some_or, Option.bind_some, found_committed]
  next hkeys =>
    rw [hkeys, Option.none_or]
    cases matchNames name sets.list with
    | some set => exact found_committed options prefs set
    | none =>
      by_cases hargc : argc = 1
      · simp [hargc, Outcome.failed]
      · simp [hargc, listing]

/-- If the preferences cannot be opened or committed, nothing is committed. -/
theorem selectSet_writes {options : Options} {argc : ℕ} {prefs' : Preferences}
    (h : (selectSet sys options argc name).committed = some prefs') :
    ∃ prefs sets, sys.Writes prefs sets := by
  by_cases hauth : sys.authorization = 0
  · cases hprefs : sys.prefs with
    | none => simp [selectSet, hauth, hprefs, Outcome.failed] at h
    | some prefs =>
      cases hsets : prefs.sets with
      | none => simp [selectSet, hauth, hprefs, hsets, Outcome.failed] at h
      | some sets =>
        rw [selectSet_committed options argc name hauth hprefs hsets] at h
        obtain ⟨set, -, hset⟩ := Option.bind_eq_some_iff.mp h
        cases hcommit : sys.commit with
        | some status => simp [hcommit] at hset
        | none => exact ⟨prefs, sets, hauth, hprefs, hsets, hcommit⟩
  · simp [selectSet, hauth, Outcome.failed] at h

theorem main_committed :
    (main sys command args).committed = (sys.lookedFor args).bind fun name =>
      (selectSet sys ((processOptions {} (sys.getopt args).1).getD {}) (sys.getopt args).2.length
        name).committed := by
  unfold main System.lookedFor
  obtain ⟨opts, argv⟩ := sys.getopt args
  dsimp only
  cases processOptions {} opts with
  | none => cases newSet sys argv <;> rfl
  | some options => cases newSet sys argv <;> rfl

/-- **What is committed**: the set that is found for the name that is looked for, if the
preferences can be opened and committed. -/
theorem committed_eq_some_iff {prefs' : Preferences} :
    (main sys command args).committed = some prefs' ↔
      ∃ prefs sets name set, sys.Writes prefs sets ∧ sys.lookedFor args = some name ∧
        search name sets.list = some set ∧ prefs' = prefs.select set := by
  rw [main_committed, Option.bind_eq_some_iff]
  constructor
  · rintro ⟨name, hname, h⟩
    obtain ⟨prefs, sets, hwrites⟩ := selectSet_writes h
    rw [selectSet_committed _ _ name hwrites.authorized hwrites.opened hwrites.sets] at h
    obtain ⟨set, hset, h⟩ := Option.bind_eq_some_iff.mp h
    rw [hwrites.commits] at h
    exact ⟨prefs, sets, name, set, hwrites, hname, hset, (Option.some.inj h).symm⟩
  · rintro ⟨prefs, sets, name, set, hwrites, hname, hset, rfl⟩
    refine ⟨name, hname, ?_⟩
    rw [selectSet_committed _ _ name hwrites.authorized hwrites.opened hwrites.sets, hset,
      hwrites.commits]
    rfl

/-! ## What is asked for -/

/-- The set argument without the prefix, if the command line has just one argument. -/
def System.setArgument (sys : System) (args : List (List UInt8)) : Option String :=
  match processOptions {} (sys.getopt args).1, (sys.getopt args).2 with
  | some _, [arg] => some ((afterPrefix (sys.macRoman arg)).getD (sys.macRoman arg))
  | _, _ => none

/-- Only what is asked for is changed. -/
structure ChangesOnlyAsked (sys : System) (command : String) (args : List (List UInt8)) : Prop where
  /-- without a set argument, nothing is committed -/
  unasked : sys.setArgument args = none → (main sys command args).committed = none
  /-- what is committed has the set that the argument means as the current one -/
  selects : ∀ name prefs', sys.setArgument args = some name →
    (main sys command args).committed = some prefs' →
      ∃ prefs sets set, sys.Writes prefs sets ∧ Means sets.list name set ∧
        prefs' = prefs.select set
  /-- if the argument means a set, it is committed -/
  commits : ∀ name prefs sets, sys.setArgument args = some name → sys.Writes prefs sets →
    Named sets.list name → (main sys command args).committed ≠ none

/-- The command looks for something else than it is asked for, and it is there: it looks for the
empty name without an argument, and refuses an argument with a further slash. -/
def Misled (sys : System) (args : List (List UInt8)) (sets : List NetworkSet) : Prop :=
  match processOptions {} (sys.getopt args).1, (sys.getopt args).2 with
  | none, _ => False
  | some _, [arg] => ∃ name, newSet sys [arg] = .error name ∧ Named sets name
  | some _, _ => Named sets ""

/-- An argument is looked for, or it is refused. -/
theorem newSet_singleton (sys : System) (arg : List UInt8) :
    newSet sys [arg] = .ok ((afterPrefix (sys.macRoman arg)).getD (sys.macRoman arg)) ∨
      newSet sys [arg] = .error ((afterPrefix (sys.macRoman arg)).getD (sys.macRoman arg)) := by
  rw [newSet]
  cases afterPrefix (sys.macRoman arg) with
  | none => exact .inl rfl
  | some name =>
    by_cases h : '/' ∈ name.toList
    · exact .inr (if_pos h)
    · exact .inl (if_neg h)

/-- The kinds of command lines: what is asked for, what is looked for, and how this misleads. -/
theorem lookedFor_cases (sys : System) (args : List (List UInt8)) :
    (sys.setArgument args = none ∧ sys.lookedFor args = none ∧
      ∀ sets, ¬ Misled sys args sets) ∨
    (∃ name, sys.setArgument args = some name ∧ sys.lookedFor args = some name ∧
      ∀ sets, ¬ Misled sys args sets) ∨
    (∃ name, sys.setArgument args = some name ∧ sys.lookedFor args = none ∧
      ∀ sets, Misled sys args sets ↔ Named sets name) ∨
    (sys.setArgument args = none ∧ sys.lookedFor args = some "" ∧
      ∀ sets, Misled sys args sets ↔ Named sets "") := by
  unfold System.setArgument System.lookedFor Misled
  obtain ⟨opts, argv⟩ := sys.getopt args
  dsimp only
  cases processOptions {} opts with
  | none => exact .inl ⟨rfl, rfl, fun _ => id⟩
  | some options =>
    match argv with
    | [] => exact .inr (.inr (.inr ⟨rfl, rfl, fun _ => Iff.rfl⟩))
    | _ :: _ :: _ => exact .inr (.inr (.inr ⟨rfl, rfl, fun _ => Iff.rfl⟩))
    | [arg] =>
      refine .inr ((newSet_singleton sys arg).imp (fun h => ?_) fun h => .inl ?_)
      · exact ⟨_, rfl, by rw [h], fun _ ⟨name, herr, _⟩ => nomatch h.symm.trans herr⟩
      · refine ⟨_, rfl, by rw [h], fun sets => ⟨fun ⟨name, herr, hname⟩ => ?_, fun hname => ?_⟩⟩
        · rw [Except.error.inj (h.symm.trans herr)]
          exact hname
        · exact ⟨_, h, hname⟩

theorem committed_eq_none_of_lookedFor (h : sys.lookedFor args = none) :
    (main sys command args).committed = none := by
  rw [main_committed command, h, Option.bind_none]

/-- A set that has the name that is looked for is committed. -/
theorem committed_ne_none {prefs : Preferences} {sets : NetworkSets}
    (h : sys.lookedFor args = some name) (hwrites : sys.Writes prefs sets)
    (hname : Named sets.list name) :
    (main sys command args).committed ≠ none := by
  cases hset : search name sets.list with
  | none => exact absurd hname (search_eq_none_iff.mp hset)
  | some set =>
    have hcommitted := (committed_eq_some_iff command).mpr
      ⟨prefs, sets, name, set, hwrites, h, hset, rfl⟩
    rw [hcommitted]
    exact Option.some_ne_none _

/-- **Only what is asked for is changed**, unless the command is misled in preferences that it can
commit: without a set argument by a set with an empty name, or with an argument that it refuses by a
set that has this name. -/
theorem changesOnlyAsked_iff (sys : System) (command : String) (args : List (List UInt8)) :
    ChangesOnlyAsked sys command args ↔
      ∀ prefs sets, sys.Writes prefs sets → ¬ Misled sys args sets.list := by
  rcases lookedFor_cases sys args with
    ⟨hasked, hlooked, hmisled⟩ | ⟨name, hasked, hlooked, hmisled⟩ |
    ⟨name, hasked, hlooked, hmisled⟩ | ⟨hasked, hlooked, hmisled⟩
  -- a usage error
  · have hnone := committed_eq_none_of_lookedFor command hlooked
    refine iff_of_true ⟨fun _ => hnone, ?_, ?_⟩ fun _ sets _ => hmisled sets.list
    · intro name prefs' h
      exact nomatch hasked.symm.trans h
    · intro name prefs sets h
      exact nomatch hasked.symm.trans h
  -- an argument that is looked for
  · refine iff_of_true ⟨?_, ?_, ?_⟩ fun _ sets _ => hmisled sets.list
    · intro h
      exact nomatch hasked.symm.trans h
    · intro name' prefs' h hcommitted
      obtain rfl := Option.some.inj (hasked.symm.trans h)
      obtain ⟨prefs, sets, name', set, hwrites, h', hset, rfl⟩ :=
        (committed_eq_some_iff command).mp hcommitted
      obtain rfl := Option.some.inj (hlooked.symm.trans h')
      exact ⟨prefs, sets, set, hwrites, means_of_search hset, rfl⟩
    · intro name' prefs sets h hwrites hname
      obtain rfl := Option.some.inj (hasked.symm.trans h)
      exact committed_ne_none command hlooked hwrites hname
  -- an argument that is refused
  · have hnone := committed_eq_none_of_lookedFor command hlooked
    constructor
    · intro h prefs sets hwrites hm
      exact h.commits name prefs sets hasked hwrites ((hmisled _).mp hm) hnone
    · intro h
      refine ⟨fun _ => hnone, ?_, ?_⟩
      · intro _ prefs' _ hcommitted
        exact nomatch hnone.symm.trans hcommitted
      · intro name' prefs sets h' hwrites hname
        obtain rfl := Option.some.inj (hasked.symm.trans h')
        exact absurd ((hmisled _).mpr hname) (h prefs sets hwrites)
  -- no argument, or several
  · constructor
    · intro h prefs sets hwrites hm
      exact committed_ne_none command hlooked hwrites ((hmisled _).mp hm) (h.unasked hasked)
    · intro h
      refine ⟨fun _ => ?_, fun _ _ h' => (nomatch hasked.symm.trans h'),
        fun _ _ _ h' => (nomatch hasked.symm.trans h')⟩
      rw [Option.eq_none_iff_forall_ne_some]
      intro prefs' hcommitted
      obtain ⟨prefs, sets, name, set, hwrites, h', hset, -⟩ :=
        (committed_eq_some_iff command).mp hcommitted
      obtain rfl := Option.some.inj (hlooked.symm.trans h')
      have hm := h prefs sets hwrites
      rw [hmisled, ← search_eq_none_iff, hset] at hm
      exact nomatch hm

/-- A system with one set, without a name, where everything succeeds. -/
def unnamedSet : System where
  getopt args := ([], args)
  macRoman bytes := String.ofList (bytes.map fun b => Char.ofNat b.toNat)
  authorization := 0
  prefs :=
    some ⟨some ⟨[⟨"A", [("UserDefinedName", .string "")]⟩], List.nodup_singleton _⟩, none, []⟩
  commit := none
  apply := none
  errorString _ := ""
  description _ := ""

/-- Without an argument, the set with the empty name becomes the current one. -/
theorem unnamedSet_not_changesOnlyAsked : ¬ ChangesOnlyAsked unnamedSet "scselect" [] := by
  intro h
  have hnone : (main unnamedSet "scselect" []).committed.isNone := by
    rw [h.unasked rfl]
    rfl
  revert hnone
  decide

end ConfigdExtra.ScSelect
