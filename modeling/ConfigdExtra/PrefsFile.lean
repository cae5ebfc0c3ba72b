import Mathlib.Data.List.Basic
import Mathlib.Data.List.Infix

/-!
# The file of a preferences session

A session is created for a name. Its file is looked for where preferences are kept now, and then
where they were kept before.

* `preferencesPath` — `__SCPreferencesPath`.
* `createStep`, `preferencesCreate` — `__SCPreferencesCreate`.
* `usingDefaultPrefs` — `__SCPreferencesUsingDefaultPrefs`.
* `StandsForFile`, `standsForFile_iff` — the session stands for the right file, unless the default
  file is where it was before.
-/

namespace ConfigdExtra.PrefsFile

/-! ## Paths -/

/-- `PREFS_DEFAULT_DIR` -/
def prefsDefaultDir : String := "/Library/Preferences/SystemConfiguration"
/-- `PREFS_DEFAULT_CONFIG` -/
def prefsDefaultConfig : String := "preferences.plist"
/-- `PREFS_DEFAULT_DIR_OLD` -/
def prefsDefaultDirOld : String := "/var/db/SystemConfiguration"
/-- `PREFS_DEFAULT_CONFIG_OLD` -/
def prefsDefaultConfigOld : String := "preferences.xml"

/-- How `access` turns out: the file can be read, or an `errno`. -/
inductive AccessResult
  | readable
  | enoent
  | eperm
  | eacces
  | other (errno : ℕ)
  deriving DecidableEq

/-- The characters of ASCII. -/
def IsASCII (s : List Char) : Prop := ∀ c ∈ s, c.toNat < 128

instance (s : List Char) : Decidable (IsASCII s) :=
  List.decidableBAll (fun c : Char => c.toNat < 128) s

/-- The file system, as the process sees it. -/
structure FileSystem where
  /-- `access(path, R_OK)` -/
  access : List Char → AccessResult
  /-- `CFStringGetFileSystemRepresentation`, or `NULL` -/
  representation : List Char → Option (List Char)
  /-- a directory in ASCII stays in front -/
  representation_append : ∀ dir rest, IsASCII dir →
    representation (dir ++ rest) = (representation rest).map fun rest => dir ++ rest

/-- A C string ends at a NUL. -/
def upToNul (s : List Char) : List Char := s.takeWhile fun c => c ≠ '\x00'

/-- Is there a slash in front? -/
def isAbsolute (prefsID : String) : Bool := prefsID.toList.head? = some '/'

/-- The name of the file as a string. -/
def preferencesString (prefsID : Option String) (useNewPrefs : Bool) : String :=
  match prefsID with
  | none =>
    (if useNewPrefs then prefsDefaultDir else prefsDefaultDirOld) ++ "/" ++
      if useNewPrefs then prefsDefaultConfig else prefsDefaultConfigOld
  | some prefsID =>
    if isAbsolute prefsID then prefsID
    else
      let path := (if useNewPrefs then prefsDefaultDir else prefsDefaultDirOld) ++ "/" ++ prefsID
      if useNewPrefs ∧ ".xml".toList <:+ path.toList then
        String.ofList (path.toList.take (path.toList.length - 4)) ++ ".plist"
      else path

section

variable (fs : FileSystem)

/-- The string as a C string. -/
def cPath (path : String) : Option (List Char) :=
  if IsASCII path.toList then some (upToNul path.toList)
  else (fs.representation path.toList).map upToNul

/-- `__SCPreferencesPath` -/
def preferencesPath (prefsID : Option String) (useNewPrefs : Bool) : Option (List Char) :=
  cPath fs (preferencesString prefsID useNewPrefs)

/-! ## Sessions -/

/-- An `SCPreferencesPrivate`, with options `O`. -/
structure PreferencesSession (O : Type) where
  name : String
  prefsID : Option String
  authorizationData : Option (List UInt8)
  options : Option O
  /-- the file that is read -/
  path : List Char
  /-- the file that is written, if it is another one -/
  newPath : Option (List Char)

/-- `SCError` -/
inductive SCStatus
  | ok
  | failed
  | accessError
  | noConfigFile
  deriving DecidableEq

/-- What the session is created with. -/
structure CreateArguments (O : Type) where
  name : String
  prefsID : Option String
  authorizationData : Option (List UInt8)
  options : Option O

variable {O : Type}

/-- The session for the files. -/
def CreateArguments.session (a : CreateArguments O) (path : List Char)
    (newPath : Option (List Char)) : PreferencesSession O :=
  { a with path := path, newPath := newPath }

/-- From `retry` on; `retry` is what is done with the new path. -/
def createStep (a : CreateArguments O) (newPath : Option (List Char))
    (retry : List Char → Except SCStatus (PreferencesSession O × SCStatus)) :
    Except SCStatus (PreferencesSession O × SCStatus) :=
  match preferencesPath fs a.prefsID newPath.isNone with
  | none => .error .failed
  | some path =>
    match fs.access path with
    | .readable => .ok (a.session path newPath, .ok)
    | .enoent =>
      if a.prefsID.any isAbsolute then .ok (a.session path newPath, .noConfigFile)
      else
        match newPath with
        | none => retry path
        | some newPath => .ok (a.session newPath none, .noConfigFile)
    | .eperm | .eacces =>
      -- with an authorization the helper will be used
      if a.authorizationData.isSome then .ok (a.session path newPath, .ok)
      else .error .accessError
    | .other _ => .error .failed

/-- `__SCPreferencesCreate`, with the error that is set -/
def preferencesCreate (a : CreateArguments O) : Except SCStatus (PreferencesSession O × SCStatus) :=
  createStep fs a none fun newPath =>
    createStep fs a (some newPath) fun _ => .error .failed

/-- The file that will be written. -/
def PreferencesSession.writePath (s : PreferencesSession O) : List Char := s.newPath.getD s.path

/-- `__SCPreferencesUsingDefaultPrefs`, where there is no session if `prefs` is `NULL` -/
def usingDefaultPrefs : Option (PreferencesSession O) → Bool
  | none => true
  | some prefs =>
    match preferencesPath fs none prefs.newPath.isNone with
    | none => false
    | some defPath => prefs.writePath = defPath

/-! ## The right file -/

/-- The session can read a file: by itself, or through the helper if it has an authorization. -/
def CanRead (a : CreateArguments O) (path : List Char) : Prop :=
  match fs.access path with
  | .readable => True
  | .eperm | .eacces => a.authorizationData.isSome
  | _ => False

/-- The default file. -/
def defaultFile : List Char := (prefsDefaultDir ++ "/" ++ prefsDefaultConfig).toList

/-- A session that is created reads the file that is there now, or else the one from before, knows
the new file just if it reads the one from before, and knows whether it will write the default
file. -/
structure StandsForFile (a : CreateArguments O) (s : PreferencesSession O) : Prop where
  /-- the file that is there now -/
  new : ∀ path, preferencesPath fs a.prefsID true = some path → CanRead fs a path →
    s.path = path ∧ s.newPath = none
  /-- the file from before -/
  legacy : ∀ path old, preferencesPath fs a.prefsID true = some path →
    preferencesPath fs a.prefsID false = some old → ¬ CanRead fs a path → CanRead fs a old →
      ¬ a.prefsID.any isAbsolute → s.path = old ∧ s.newPath = some path
  /-- the new path is there just if the file from before is used -/
  newPath : (s.newPath = none ∧ preferencesPath fs a.prefsID true = some s.path) ∨
    (s.newPath = preferencesPath fs a.prefsID true ∧ s.newPath.isSome ∧
      preferencesPath fs a.prefsID false = some s.path)
  /-- is it the default file? -/
  usesDefault : usingDefaultPrefs fs (some s) = true ↔ s.writePath = defaultFile

/-- The default file is not there, but the one from before is. -/
def MigratesDefault (a : CreateArguments O) : Prop :=
  ¬ a.prefsID.any isAbsolute ∧ preferencesPath fs a.prefsID true = some defaultFile ∧
    fs.access defaultFile = .enoent ∧
    ∃ old, preferencesPath fs a.prefsID false = some old ∧ CanRead fs a old

/-! ## Paths of names -/

variable {fs}

theorem preferencesPath_default : preferencesPath fs none true = some defaultFile := by
  have hascii : IsASCII (preferencesString none true).toList := by decide
  rw [preferencesPath, cPath, if_pos hascii]
  rfl

/-- The file from before of the default session. -/
def defaultFileOld : List Char := (prefsDefaultDirOld ++ "/" ++ prefsDefaultConfigOld).toList

theorem preferencesPath_default_old : preferencesPath fs none false = some defaultFileOld := by
  have hascii : IsASCII (preferencesString none false).toList := by decide
  rw [preferencesPath, cPath, if_pos hascii]
  rfl

/-- What is not an absolute path is in the directory of the preferences. -/
theorem preferencesString_relative {prefsID : Option String} (hrelative : ¬ prefsID.any isAbsolute) :
    ['/', 'L'] <+: (preferencesString prefsID true).toList := by
  cases prefsID with
  | none => decide
  | some prefsID =>
    have hdir : (prefsDefaultDir ++ "/" ++ prefsID).toList =
        '/' :: 'L' :: ((prefsDefaultDir.toList.drop 2 ++ "/".toList) ++ prefsID.toList) := by
      rw [String.toList_append, String.toList_append]
      rfl
    have hlength :
        4 ≤ ((prefsDefaultDir.toList.drop 2 ++ "/".toList) ++ prefsID.toList).length := by
      rw [List.length_append]
      exact Nat.le_add_right_of_le (by decide)
    generalize (prefsDefaultDir.toList.drop 2 ++ "/".toList) ++ prefsID.toList = rest
      at hdir hlength
    have hrelative' : ¬ isAbsolute prefsID = true := hrelative
    rw [preferencesString, if_neg hrelative']
    simp only [if_true, hdir]
    split
    · -- the suffix does not reach so far
      have hlen : ('/' :: 'L' :: rest).length - 4 = (rest.length - 4) + 2 := by
        rw [List.length_cons, List.length_cons]
        omega
      rw [String.toList_append, String.toList_ofList, hlen]
      exact ⟨_, rfl⟩
    · rw [hdir]
      exact ⟨rest, rfl⟩

theorem prefix_of_cPath {path : String} {c : List Char} (hpre : ['/', 'L'] <+: path.toList)
    (hpath : cPath fs path = some c) : ['/', 'L'] <+: c := by
  obtain ⟨rest, hrest⟩ := hpre
  rw [cPath] at hpath
  split_ifs at hpath with hascii
  · cases hpath
    rw [← hrest]
    exact ⟨upToNul rest, rfl⟩
  · rw [← hrest, fs.representation_append _ rest (by decide), Option.map_map] at hpath
    obtain ⟨rest', -, rfl⟩ := Option.map_eq_some_iff.mp hpath
    exact ⟨upToNul rest', rfl⟩

/-- No name stands for the default file from before as its new file. -/
theorem preferencesPath_ne_defaultFileOld {prefsID : Option String} {path : List Char}
    (hrelative : ¬ prefsID.any isAbsolute) (hpath : preferencesPath fs prefsID true = some path) :
    path ≠ defaultFileOld := by
  rintro rfl
  exact absurd (prefix_of_cPath (preferencesString_relative hrelative) hpath) (by decide)

/-! ## Creating -/

variable {a : CreateArguments O}

theorem not_canRead_of_enoent {path : List Char} (h : fs.access path = .enoent) :
    ¬ CanRead fs a path := by
  rw [CanRead, h]
  exact id

/-- What is done at a path. -/
theorem createStep_cases {newPath : Option (List Char)}
    {retry : List Char → Except SCStatus (PreferencesSession O × SCStatus)}
    {s : PreferencesSession O} {status : SCStatus}
    (h : createStep fs a newPath retry = .ok (s, status)) :
    ∃ path, preferencesPath fs a.prefsID newPath.isNone = some path ∧
      ((CanRead fs a path ∧ s = a.session path newPath) ∨
        (fs.access path = .enoent ∧ a.prefsID.any isAbsolute ∧ s = a.session path newPath) ∨
        (fs.access path = .enoent ∧ ¬ a.prefsID.any isAbsolute ∧
          ((newPath = none ∧ retry path = .ok (s, status)) ∨
            ∃ new, newPath = some new ∧ s = a.session new none))) := by
  rw [createStep] at h
  cases hpath : preferencesPath fs a.prefsID newPath.isNone with
  | none =>
    rw [hpath] at h
    cases h
  | some path =>
    refine ⟨path, rfl, ?_⟩
    simp only [hpath] at h
    rw [CanRead]
    cases haccess : fs.access path with
    | readable =>
      rw [haccess] at h
      cases h
      exact Or.inl ⟨trivial, rfl⟩
    | enoent =>
      simp only [haccess] at h
      split at h
      · rename_i habsolute
        cases h
        exact Or.inr (Or.inl ⟨rfl, habsolute, rfl⟩)
      · rename_i hrelative
        cases newPath with
        | none => exact Or.inr (Or.inr ⟨rfl, hrelative, Or.inl ⟨rfl, h⟩⟩)
        | some new =>
          cases h
          exact Or.inr (Or.inr ⟨rfl, hrelative, Or.inr ⟨new, rfl, rfl⟩⟩)
    | eperm | eacces =>
      simp only [haccess] at h
      split at h
      · rename_i hauth
        cases h
        exact Or.inl ⟨hauth, rfl⟩
      · cases h
    | other errno =>
      rw [haccess] at h
      cases h

/-- A session is created for the file that is there now, or if there is none for the one from
before. -/
theorem preferencesCreate_cases {s : PreferencesSession O} {status : SCStatus}
    (h : preferencesCreate fs a = .ok (s, status)) :
    (∃ path, preferencesPath fs a.prefsID true = some path ∧ s = a.session path none ∧
      (CanRead fs a path ∨ a.prefsID.any isAbsolute ∨
        ∃ old, preferencesPath fs a.prefsID false = some old ∧ fs.access old = .enoent)) ∨
    ∃ path old, preferencesPath fs a.prefsID true = some path ∧ fs.access path = .enoent ∧
      preferencesPath fs a.prefsID false = some old ∧ CanRead fs a old ∧
      ¬ a.prefsID.any isAbsolute ∧ s = a.session old (some path) := by
  obtain ⟨path, hpath, ⟨hread, hs⟩ | ⟨-, habsolute, hs⟩ | ⟨henoent, hrelative, hnext⟩⟩ :=
    createStep_cases h
  · exact Or.inl ⟨path, hpath, hs, Or.inl hread⟩
  · exact Or.inl ⟨path, hpath, hs, Or.inr (Or.inl habsolute)⟩
  · obtain ⟨-, hretry⟩ | ⟨new, hnew, -⟩ := hnext
    · obtain ⟨old, hold, ⟨hread, hs⟩ | ⟨-, habsolute, -⟩ | ⟨henoent', -, hlast⟩⟩ :=
        createStep_cases hretry
      · exact Or.inr ⟨path, old, hpath, henoent, hold, hread, hrelative, hs⟩
      · exact absurd habsolute hrelative
      · obtain ⟨hnone, -⟩ | ⟨new, hnew, hs⟩ := hlast
        · cases hnone
        · cases hnew
          exact Or.inl ⟨path, hpath, hs, Or.inr (Or.inr ⟨old, hold, henoent'⟩)⟩
    · cases hnew

/-- The question of the default file for a session at the file that is there now. -/
theorem usesDefault_new (path : List Char) :
    usingDefaultPrefs fs (some (a.session path none)) = true ↔
      (a.session path none).writePath = defaultFile := by
  simp only [usingDefaultPrefs, CreateArguments.session, Option.isNone_none,
    preferencesPath_default]
  exact decide_eq_true_iff

/-- The question of the default file for a session at the file from before: the path that is
written is compared with that of the default file from before. -/
theorem usingDefaultPrefs_legacy (old path : List Char) :
    usingDefaultPrefs fs (some (a.session old (some path))) = decide (path = defaultFileOld) := by
  simp only [usingDefaultPrefs, CreateArguments.session, Option.isNone_some,
    preferencesPath_default_old]
  rfl

/-- When the default file is found where it was before, a session is created for it. -/
theorem preferencesCreate_of_migratesDefault (h : MigratesDefault fs a) :
    ∃ old status, preferencesCreate fs a = .ok (a.session old (some defaultFile), status) := by
  obtain ⟨hrelative, hpath, henoent, old, hold, hread⟩ := h
  refine ⟨old, .ok, ?_⟩
  have hstep : createStep fs a (some defaultFile) (fun _ => .error .failed) =
      .ok (a.session old (some defaultFile), .ok) := by
    rw [createStep]
    simp only [Option.isNone_some, hold]
    rw [CanRead] at hread
    cases haccess : fs.access old with
    | readable => rfl
    | enoent =>
      rw [haccess] at hread
      exact hread.elim
    | eperm =>
      rw [haccess] at hread
      exact if_pos hread
    | eacces =>
      rw [haccess] at hread
      exact if_pos hread
    | other errno =>
      rw [haccess] at hread
      exact hread.elim
  rw [preferencesCreate, createStep]
  simp only [Option.isNone_none, hpath, henoent]
  rw [if_neg hrelative]
  exact hstep

end

/-- **The file of a session.** A session that is created stands for the right file, just if the
default file is not one that is found only where it was before. -/
theorem standsForFile_iff {O : Type} (fs : FileSystem) (a : CreateArguments O) :
    (∀ s status, preferencesCreate fs a = .ok (s, status) → StandsForFile fs a s) ↔
      ¬ MigratesDefault fs a := by
  constructor
  · intro h hmigrates
    obtain ⟨old, status, hcreate⟩ := preferencesCreate_of_migratesDefault hmigrates
    have huses := (h _ _ hcreate).usesDefault
    rw [usingDefaultPrefs_legacy, decide_eq_true_eq] at huses
    exact absurd (huses.mpr rfl) (by decide)
  · intro h s status hcreate
    rcases preferencesCreate_cases hcreate with
      ⟨path, hpath, rfl, hwhy⟩ | ⟨path, old, hpath, henoent, hold, hread, hrelative, rfl⟩
    · refine ⟨fun path' hpath' _ => ?_, fun path' old hpath' hold hnot hread hrelative => ?_,
        Or.inl ⟨rfl, hpath⟩, usesDefault_new path⟩
      · rw [hpath, Option.some.injEq] at hpath'
        exact ⟨hpath', rfl⟩
      · rw [hpath, Option.some.injEq] at hpath'
        subst hpath'
        rcases hwhy with hread' | habsolute | ⟨old', hold', henoent⟩
        · exact absurd hread' hnot
        · exact absurd habsolute hrelative
        · rw [hold, Option.some.injEq] at hold'
          exact absurd (hold' ▸ hread) (not_canRead_of_enoent henoent)
    · refine ⟨fun path' hpath' hread' => ?_, fun path' old' hpath' hold' _ _ _ => ?_,
        Or.inr ⟨hpath.symm, rfl, hold⟩, ?_⟩
      · rw [hpath, Option.some.injEq] at hpath'
        exact absurd (hpath' ▸ hread') (not_canRead_of_enoent henoent)
      · rw [hpath, Option.some.injEq] at hpath'
        rw [hold, Option.some.injEq] at hold'
        exact ⟨hold', congrArg some hpath'⟩
      · -- neither of the default files is written
        have hnew : path ≠ defaultFile := by
          rintro rfl
          exact h ⟨hrelative, hpath, henoent, old, hold, hread⟩
        have hlegacy := preferencesPath_ne_defaultFileOld hrelative hpath
        rw [usingDefaultPrefs_legacy, decide_eq_true_eq]
        exact iff_of_false hlegacy hnew

/-- A system that has not written its preferences since they were moved. -/
def legacyOnly : FileSystem where
  access path := if path = defaultFileOld then .readable else .enoent
  representation := some
  representation_append _ _ _ := rfl

/-- The default session, where there is only the file from before. -/
theorem legacyOnly_not_standsForFile : ∃ s status,
    preferencesCreate legacyOnly (⟨"scutil", none, none, none⟩ : CreateArguments Unit) =
      .ok (s, status) ∧ ¬ StandsForFile legacyOnly ⟨"scutil", none, none, none⟩ s := by
  refine ⟨_, _, rfl, fun h => ?_⟩
  exact absurd (h.usesDefault.mpr (by decide)) (by decide)

end ConfigdExtra.PrefsFile
