import Mathlib.Data.Int.Notation
import Mathlib.Data.List.Basic

/-!
# One preferences session after the other

`open` in `scutil --prefs` closes the session that is there, and opens another.

* `PrefsGlobals` — the variables that make up a session.
* `prefsOpen`, `prefsClose`, `prefsCommitRequired` — `_prefs_open`, `_prefs_close` and
  `_prefs_commitRequired`.
* `doPrefsOpen`, `doPrefsClose` — the commands.
* `HandsOver`, `handsOver_iff` — the old session is kept, or closed before the new one is opened,
  unless its changes are abandoned with `open !`.
-/

namespace ConfigdExtra.PrefsHandover

/-! ## Sessions -/

/-- An `AuthorizationRef` -/
inductive Authorization (A : Type)
  /-- `kSCPreferencesUseEntitlementAuthorization` -/
  | useEntitlement
  | created (a : A)
  deriving DecidableEq

/-- The variables of a session, with preferences `S` and authorizations `A`. -/
structure PrefsGlobals (S A : Type) where
  /-- `prefs` -/
  prefs : Option S
  /-- `ni_prefs` -/
  niPrefs : Option S
  /-- `prefsPath` -/
  prefsPath : Option String
  /-- `authorization` -/
  authorization : Option (Authorization A)
  /-- `_prefs_changed` -/
  changed : Bool
  deriving DecidableEq

/-- The `options` of a session. -/
structure PrefsOptions where
  /-- `kSCPreferencesOptionRemoveWhenEmpty` -/
  removeWhenEmpty : Bool
  /-- `kSCPreferencesOptionProtectionClass` -/
  protectionClass : Option String
  deriving DecidableEq

/-- The functions that create a session. -/
inductive CreateWith (A : Type)
  /-- `SCPreferencesCreate` -/
  | plain
  /-- `SCPreferencesCreateWithAuthorization` -/
  | withAuthorization (authorization : Option (Authorization A))
  /-- `SCPreferencesCreateWithOptions` -/
  | withOptions (authorization : Option (Authorization A)) (options : PrefsOptions)
  deriving DecidableEq

/-- What is created and what is given back. -/
inductive PrefsCall (S A : Type)
  /-- one of the functions that create a session -/
  | create (name : String) (prefsID : Option String) (how : CreateWith A)
  /-- `CFRelease` of a session -/
  | release (session : S)
  /-- `free` of a path -/
  | free (path : String)
  /-- `AuthorizationFree` -/
  | authorizationFree (a : A)
  deriving DecidableEq

/-- What a function leaves and does. -/
structure PrefsResult (S A : Type) where
  /-- what it leaves -/
  globals : PrefsGlobals S A
  /-- the calls, in order -/
  calls : List (PrefsCall S A)
  /-- what is printed -/
  printed : List String
  deriving DecidableEq

/-- The process and the system. -/
structure PrefsSystem (S A : Type) where
  /-- `geteuid` -/
  euid : ℕ
  /-- are entitlements used instead of an authorization? -/
  useEntitlements : Bool
  /-- `AuthorizationCreate`, or its status -/
  authorizationCreate : Except ℤ A
  /-- `SCPREFERENCES_REMOVE_WHEN_EMPTY` is set -/
  removeWhenEmpty : Bool
  /-- `SCPREFERENCES_PROTECTION_CLASS` -/
  protectionClass : Option String
  /-- the session that is created, or the error -/
  create : Option String → CreateWith A → Except String S
  /-- `currentInput`, if there is one, and whether it is a terminal -/
  currentInput : Option Bool

section

variable {S A : Type} (sys : PrefsSystem S A)

/-- `_prefs_AuthorizationCreate`, with what it prints. -/
def authorizationCreate : Option (Authorization A) × List String :=
  if sys.useEntitlements then (some .useEntitlement, [])
  else
    match sys.authorizationCreate with
    | .ok a => (some (.created a), [])
    | .error status =>
      (none, ["AuthorizationCreate() failed: status = " ++ toString status ++ "\n"])

/-- What `_prefs_open` sets `authorization` to, if a helper is needed. -/
def openAuthorization : Option (Authorization A) × List String :=
  if sys.euid ≠ 0 then authorizationCreate sys else (none, [])

/-- How `_prefs_open` creates the session. -/
def createWith (authorization : Option (Authorization A)) : CreateWith A :=
  let useHelper := sys.euid ≠ 0
  let useOptions := sys.removeWhenEmpty = true ∨ sys.protectionClass.isSome
  if ¬ useHelper ∧ ¬ useOptions then .plain
  else if ¬ useOptions then .withAuthorization authorization
  else .withOptions authorization ⟨sys.removeWhenEmpty, sys.protectionClass⟩

/-- `_prefs_open`, with the error if it fails -/
def prefsOpen (name : String) (path : Option String) (s : PrefsGlobals S A) :
    Option String × PrefsResult S A :=
  let created := openAuthorization sys
  -- the path that is there is kept when none is given
  let prefsPath := path.orElse fun _ => s.prefsPath
  let how := createWith sys created.1
  let calls := [.create name path how]
  match sys.create path how with
  | .error error =>
    (some error,
      { globals := { s with authorization := created.1, prefs := none, prefsPath := none }
        calls := calls ++ (prefsPath.map .free).toList
        printed := created.2 })
  | .ok session =>
    (none,
      { globals :=
          { s with
            authorization := created.1
            prefs := some session
            prefsPath := prefsPath
            changed := false }
        calls := calls
        printed := created.2 })

/-- `_prefs_AuthorizationFree` -/
def authorizationFree : Authorization A → List (PrefsCall S A)
  | .useEntitlement => []
  | .created a => [.authorizationFree a]

/-- `_prefs_close` -/
def prefsClose (s : PrefsGlobals S A) : PrefsResult S A where
  globals :=
    { prefs := none
      niPrefs := none
      prefsPath := none
      authorization := none
      changed := if s.prefs.isSome then false else s.changed }
  calls := (s.prefsPath.map .free).toList ++ (s.prefs.map .release).toList ++
    (s.niPrefs.map .release).toList ++ (s.authorization.map authorizationFree).getD []
  printed := []

/-- `_prefs_commitRequired`, with what it prints -/
def prefsCommitRequired (argv : List String) (command : Option String) (s : PrefsGlobals S A) :
    Bool × List String :=
  if s.changed then
    if sys.currentInput = some true ∧ argv.head? ≠ some "!" then
      (true, ["preference changes have not been committed\nuse \"commit\" to save changes"] ++
        (command.map fun command =>
          " or \"" ++ command ++ " !\" to abandon changes").toList ++ ["\n"])
    else (false, ["preference changes abandoned\n"])
  else (false, [])

/-- `do_prefs_close` -/
def doPrefsClose (argv : List String) (s : PrefsGlobals S A) : PrefsResult S A :=
  let (required, printed) := prefsCommitRequired sys argv (some "close") s
  if required then ⟨s, [], printed⟩
  else
    let closed := prefsClose s
    ⟨closed.globals, closed.calls, printed ++ closed.printed⟩

/-- The end of `do_prefs_open`. -/
def openNext (argv : List String) (before : PrefsResult S A) : PrefsResult S A :=
  let (error, opened) := prefsOpen sys "scutil --prefs" argv.head? before.globals
  { globals := opened.globals
    calls := before.calls ++ opened.calls
    printed := before.printed ++ opened.printed ++
      (error.map fun error => "Could not open prefs: " ++ error ++ "\n").toList }

/-- `do_prefs_open` -/
def doPrefsOpen (argv : List String) (s : PrefsGlobals S A) : PrefsResult S A :=
  if s.prefs.isSome then
    let (required, printed) := prefsCommitRequired sys argv (some "close") s
    if required then ⟨s, [], printed⟩
    else
      -- without the argument that abandons changes
      let closed := doPrefsClose sys [] s
      openNext sys argv ⟨closed.globals, closed.calls, printed ++ closed.printed⟩
  else openNext sys argv ⟨s, [], []⟩

/-! ## The hand-over -/

namespace PrefsGlobals

/-- No session. -/
def closed : PrefsGlobals S A := ⟨none, none, none, none, false⟩

/-- All that is given back when a session is closed. -/
def givenBack (s : PrefsGlobals S A) : List (PrefsCall S A) :=
  (s.prefsPath.map .free).toList ++ (s.prefs.map .release).toList ++
    (s.niPrefs.map .release).toList ++ (s.authorization.map authorizationFree).getD []

end PrefsGlobals

/-- `open` is refused: all is as it was. -/
def RefusesOpen (argv : List String) (s : PrefsGlobals S A) : Prop :=
  (doPrefsOpen sys argv s).globals = s ∧ (doPrefsOpen sys argv s).calls = []

/-- All of the old session is given back, and then the new one is opened where there is none. -/
def ClosesBeforeOpen (argv : List String) (s : PrefsGlobals S A) : Prop :=
  let opened := (prefsOpen sys "scutil --prefs" argv.head? .closed).2
  (doPrefsOpen sys argv s).globals = opened.globals ∧
    (doPrefsOpen sys argv s).calls = s.givenBack ++ opened.calls

/-- If there is a session, it is kept as it is, or it is closed completely before a new one is
opened. -/
def HandsOver (argv : List String) (s : PrefsGlobals S A) : Prop :=
  s.prefs.isSome → RefusesOpen sys argv s ∨ ClosesBeforeOpen sys argv s

/-! ## When it succeeds -/

variable {sys} {argv : List String} {s : PrefsGlobals S A}

/-- Commits are asked for in a terminal, unless the changes are given up. -/
theorem prefsCommitRequired_eq_true_iff {command : Option String} :
    (prefsCommitRequired sys argv command s).1 = true ↔
      s.changed = true ∧ sys.currentInput = some true ∧ argv.head? ≠ some "!" := by
  rw [prefsCommitRequired]
  split_ifs with hchanged hterminal
  · exact ⟨fun _ => ⟨hchanged, hterminal⟩, fun _ => rfl⟩
  · exact iff_of_false id fun h => hterminal h.2
  · exact iff_of_false id fun h => hchanged h.1

/-- Closing gives back everything. -/
theorem prefsClose_eq (hopen : s.prefs.isSome) :
    prefsClose s = ⟨.closed, s.givenBack, []⟩ := by
  rw [prefsClose, if_pos hopen]
  rfl

/-- What is done when the first check lets pass. -/
theorem doPrefsOpen_of_not_required (hopen : s.prefs.isSome)
    (h : (prefsCommitRequired sys argv (some "close") s).1 = false) :
    (doPrefsOpen sys argv s).globals =
        (prefsOpen sys "scutil --prefs" argv.head? (doPrefsClose sys [] s).globals).2.globals ∧
      (doPrefsOpen sys argv s).calls = (doPrefsClose sys [] s).calls ++
        (prefsOpen sys "scutil --prefs" argv.head? (doPrefsClose sys [] s).globals).2.calls := by
  simp only [doPrefsOpen, hopen, if_true, h, Bool.false_eq_true, if_false, openNext, and_self]

/-- When the second check lets pass as well. -/
theorem closesBeforeOpen (hopen : s.prefs.isSome)
    (h : (prefsCommitRequired sys argv (some "close") s).1 = false)
    (h' : (prefsCommitRequired sys [] (some "close") s).1 = false) :
    ClosesBeforeOpen sys argv s := by
  have hclose : (doPrefsClose sys [] s).globals = .closed ∧
      (doPrefsClose sys [] s).calls = s.givenBack := by
    simp only [doPrefsClose, h', Bool.false_eq_true, if_false, prefsClose_eq hopen, and_self]
  have hdo := doPrefsOpen_of_not_required hopen h
  rw [hclose.1, hclose.2] at hdo
  exact hdo

/-- When the second check does not let pass, the session is not closed, but another one is
opened. -/
theorem doPrefsOpen_calls_of_required (hopen : s.prefs.isSome)
    (h : (prefsCommitRequired sys argv (some "close") s).1 = false)
    (h' : (prefsCommitRequired sys [] (some "close") s).1 = true) :
    (doPrefsOpen sys argv s).calls = (prefsOpen sys "scutil --prefs" argv.head? s).2.calls := by
  have hclose : (doPrefsClose sys [] s).globals = s ∧ (doPrefsClose sys [] s).calls = [] := by
    simp only [doPrefsClose, h', if_true, and_self]
  have hdo := (doPrefsOpen_of_not_required hopen h).2
  rwa [hclose.1, hclose.2] at hdo

/-- Opening creates a session, and gives back nothing but paths. -/
theorem prefsOpen_calls (name : String) (path : Option String) (s : PrefsGlobals S A) :
    ∃ paths : List String, (prefsOpen sys name path s).2.calls =
      .create name path (createWith sys (openAuthorization sys).1) :: paths.map .free := by
  simp only [prefsOpen]
  split
  · refine ⟨(path.orElse fun _ => s.prefsPath).toList, ?_⟩
    rw [← Option.toList_map]
    rfl
  · exact ⟨[], rfl⟩

/-- The changes are given up in a terminal. -/
def AbandonsInTerminal (sys : PrefsSystem S A) (argv : List String) (s : PrefsGlobals S A) : Prop :=
  s.prefs.isSome ∧ s.changed = true ∧ sys.currentInput = some true ∧ argv.head? = some "!"

end

/-- **Hand-over.** A session is kept as it is, or closed completely before the next one is opened,
just if its changes are not given up in a terminal. -/
theorem handsOver_iff {S A : Type} (sys : PrefsSystem S A) (argv : List String)
    (s : PrefsGlobals S A) : HandsOver sys argv s ↔ ¬ AbandonsInTerminal sys argv s := by
  constructor
  · rintro h ⟨hopen, hchanged, hterminal, hargv⟩
    have hfirst : (prefsCommitRequired sys argv (some "close") s).1 = false :=
      Bool.eq_false_iff.mpr fun h => (prefsCommitRequired_eq_true_iff.mp h).2.2 hargv
    have hsecond : (prefsCommitRequired sys [] (some "close") s).1 = true :=
      prefsCommitRequired_eq_true_iff.mpr ⟨hchanged, hterminal, by simp⟩
    have hcalls := doPrefsOpen_calls_of_required hopen hfirst hsecond
    have hprefsOpen : ∃ paths : List String, (prefsOpen sys "scutil --prefs" argv.head? s).2.calls =
        .create "scutil --prefs" argv.head? (createWith sys (openAuthorization sys).1) ::
          paths.map .free :=
      prefsOpen_calls "scutil --prefs" argv.head? s
    obtain ⟨paths, hcreate⟩ := hprefsOpen
    rcases h hopen with ⟨-, hnone⟩ | ⟨-, hclosed⟩
    · rw [hcalls, hcreate] at hnone
      exact List.cons_ne_nil _ _ hnone
    · -- the old session is not given back
      obtain ⟨session, hsession⟩ := Option.isSome_iff_exists.mp hopen
      have hmem : .release session ∈ (doPrefsOpen sys argv s).calls := by
        rw [hclosed, PrefsGlobals.givenBack, hsession]
        simp
      rw [hcalls, hcreate] at hmem
      simp at hmem
  · intro h hopen
    by_cases hfirst : (prefsCommitRequired sys argv (some "close") s).1 = true
    · refine Or.inl ?_
      simp only [RefusesOpen, doPrefsOpen, hopen, if_true, hfirst, and_self]
    · refine Or.inr (closesBeforeOpen hopen (Bool.eq_false_iff.mpr hfirst) ?_)
      refine Bool.eq_false_iff.mpr fun hsecond => h ?_
      obtain ⟨hchanged, hterminal, -⟩ := prefsCommitRequired_eq_true_iff.mp hsecond
      refine ⟨hopen, hchanged, hterminal, ?_⟩
      by_contra hargv
      exact hfirst (prefsCommitRequired_eq_true_iff.mpr ⟨hchanged, hterminal, hargv⟩)

/-- The superuser in a terminal. -/
def rootInTerminal : PrefsSystem String Unit where
  euid := 0
  useEntitlements := false
  authorizationCreate := .ok ()
  removeWhenEmpty := false
  protectionClass := none
  create _ _ := .ok "new"
  currentInput := some true

/-- `open !` with changes: the session that is there is lost, and not given back. -/
theorem abandoned_not_handsOver :
    ¬ HandsOver rootInTerminal ["!"] ⟨some "old", none, some "old.plist", none, true⟩ := by
  intro h
  rcases h rfl with ⟨-, hcalls⟩ | ⟨-, hcalls⟩
  · exact absurd hcalls (by decide)
  · exact absurd hcalls (by decide)

end ConfigdExtra.PrefsHandover
