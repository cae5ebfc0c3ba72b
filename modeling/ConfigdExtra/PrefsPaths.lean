import ConfigdExtra.KeyTrees

/-!
# Entries and children in the preferences

In the preferences the entries of a dictionary and what is at the paths below it are in the same
dictionary: a child is an entry that is a dictionary. `get` in `scutil --prefs` reads the entries
without the children, and `set` writes entries and keeps the children.

* `CFDictionary` — dictionaries in dictionaries, with unique keys.
* `PathFunctions` — the functions for paths, which read and replace a dictionary.
* `doPrefsGet`, `doPrefsSet` — the commands.
* `SetsDictionary`, `prefsPaths_respected` — the children of a path are kept, and so is everything
  elsewhere.
-/

namespace ConfigdExtra.PrefsPaths

/-! ## Dictionaries -/

section

variable (V : Type)

/-- A dictionary, where `V` are the values that are no dictionaries. -/
structure CFDictionary where
  /-- the entries -/
  entries : List (String × KeyTree String V)
  /-- no key is there twice, at any depth -/
  unique : (KeyTree.branch entries).Unique

/-- `SCError` -/
inductive SCStatus
  /-- `kSCStatusNoKey` -/
  | noKey
  /-- `kSCStatusInvalidArgument` -/
  | invalidArgument
  | other (code : ℕ)
  deriving DecidableEq

/-- The functions for paths. -/
structure PathFunctions where
  /-- the keys on a path -/
  components : String → List String
  /-- `SCPreferencesPathGetLink` -/
  getLink : CFDictionary V → String → Option String
  /-- `SCPreferencesPathGetValue` -/
  getValue : CFDictionary V → String → Except SCStatus (CFDictionary V)
  /-- `SCPreferencesPathSetValue` -/
  setValue : CFDictionary V → String → CFDictionary V → Except SCStatus (CFDictionary V)
  /-- `SCPreferencesPathSetLink` -/
  setLink : CFDictionary V → String → String → Except SCStatus (CFDictionary V)
  /-- `SCErrorString` -/
  errorString : SCStatus → String

/-- The variables of the commands. -/
structure PrefsState where
  /-- what is in `prefs` -/
  tree : CFDictionary V
  /-- `value` -/
  value : CFDictionary V
  /-- `_prefs_changed` -/
  changed : Bool

end

variable {V : Type}

namespace CFDictionary

/-- The dictionary as a tree. -/
def toTree (d : CFDictionary V) : KeyTree String V := .branch d.entries

/-- The value for a key. -/
def lookup (d : CFDictionary V) (key : String) : Option (KeyTree String V) := d.entries.lookup key

end CFDictionary

/-- The functions read and replace the dictionary at a path. There are no links (`__LINK__`) on the
way: with one, a dictionary is read that is somewhere else, also where there is nothing. -/
structure PathFunctions.ReadAndReplace (paths : PathFunctions V) : Prop where
  /-- a dictionary is read -/
  getValue_dictionary : ∀ tree path entries,
    tree.toTree.get? (paths.components path) = some (.branch entries) →
      ∃ dict, paths.getValue tree path = .ok dict ∧ dict.entries = entries
  /-- nothing is not read -/
  getValue_absent : ∀ tree path, tree.toTree.get? (paths.components path) = none →
    ∃ status, paths.getValue tree path = .error status
  /-- a dictionary is replaced -/
  setValue : ∀ tree path dict tree', paths.setValue tree path dict = .ok tree' →
    tree.toTree.replace (paths.components path) dict.toTree = some tree'.toTree

/-! ## The commands -/

/-- `isA_CFDictionary` -/
def isDictionary : KeyTree String V → Bool
  | .branch _ => true
  | .leaf _ => false

/-- What `get` keeps of a dictionary: the entries that are no path children. -/
def withoutChildren (dict : CFDictionary V) : CFDictionary V where
  entries := dict.entries.filter fun e => !isDictionary e.2
  unique := dict.unique.filter _

/-- The message for a key that is a child. -/
def keyIsPathComponent (key : String) : String :=
  "  key " ++ key ++ " is already a path component and cannot be replaced\n"

/-- The loop of `set`: the children are added, unless there is an entry for one. -/
def retainChildren : List (String × KeyTree String V) → List (String × KeyTree String V) →
    Except String (List (String × KeyTree String V))
  | newDict, [] => .ok newDict
  | newDict, (key, v) :: entries =>
    if isDictionary v then
      if key ∈ newDict.map Prod.fst then
        .error (keyIsPathComponent key)
      else retainChildren (newDict ++ [(key, v)]) entries
    else retainChildren newDict entries

/-- What the loop leaves. -/
theorem retainChildren_eq {newDict entries result : List (String × KeyTree String V)}
    (h : retainChildren newDict entries = .ok result) :
    result = newDict ++ entries.filter fun e => isDictionary e.2 := by
  induction entries generalizing newDict with
  | nil =>
    rw [retainChildren, Except.ok.injEq] at h
    rw [← h, List.filter_nil, List.append_nil]
  | cons e entries ih =>
    rw [retainChildren] at h
    by_cases hdict : isDictionary e.2 = true
    · rw [if_pos hdict] at h
      split at h
      · cases h
      · rw [ih h, List.filter_cons, if_pos hdict, List.append_assoc, List.singleton_append]
    · rw [if_neg hdict] at h
      rw [ih h, List.filter_cons, if_neg hdict]

/-- The keys stay unique. -/
theorem retainChildren_unique {newDict entries result : List (String × KeyTree String V)}
    (hnew : (KeyTree.branch newDict).Unique) (hentries : ∀ e ∈ entries, e.2.Unique)
    (h : retainChildren newDict entries = .ok result) : (KeyTree.branch result).Unique := by
  induction entries generalizing newDict with
  | nil =>
    rw [retainChildren, Except.ok.injEq] at h
    exact h ▸ hnew
  | cons e entries ih =>
    rw [List.forall_mem_cons] at hentries
    rw [retainChildren] at h
    split at h
    · split at h
      · cases h
      · rename_i hkey
        exact ih (hnew.append hkey hentries.1) hentries.2 h
    · exact ih hnew hentries.2 h

variable (paths : PathFunctions V)

/-- `do_prefs_get`, with what it prints -/
def doPrefsGet (path : String) (s : PrefsState V) : PrefsState V × String :=
  let link := ((paths.getLink s.tree path).map fun link => "  --> " ++ link ++ "\n").getD ""
  match paths.getValue s.tree path with
  | .error status => (s, link ++ "  " ++ paths.errorString status ++ "\n")
  | .ok dict => ({ s with value := withoutChildren dict }, link)

/-- The end of `do_prefs_set`: a link is set if there is an argument for it, or else the value. -/
def storeAtPath (path : String) (link : Option String) (s : PrefsState V)
    (newDict : CFDictionary V) : PrefsState V × String :=
  let stored :=
    match link with
    | some link => paths.setLink s.tree path link
    | none => paths.setValue s.tree path newDict
  match stored with
  | .error status => (s, "  " ++ paths.errorString status ++ "\n")
  | .ok tree => ({ s with tree := tree, changed := true }, "")

/-- `do_prefs_set`, with what it prints -/
def doPrefsSet (path : String) (link : Option String) (s : PrefsState V) : PrefsState V × String :=
  match paths.getValue s.tree path with
  | .ok dict =>
    match h : retainChildren s.value.entries dict.entries with
    | .error message => (s, message)
    | .ok entries =>
      storeAtPath paths path link s
        ⟨entries, retainChildren_unique s.value.unique (fun _ he => dict.unique.of_mem he) h⟩
  | .error .noKey => storeAtPath paths path link s s.value
  | .error .invalidArgument => (s, "  a path component is not a dictionary\n")
  | .error status => (s, "  " ++ paths.errorString status ++ "\n")

/-! ## What they do -/

/-- `get` and `set`, one after the other -/
def getAndSet (path : String) (s : PrefsState V) : PrefsState V :=
  (doPrefsSet paths path none (doPrefsGet paths path s).1).1

/-- What can be seen at a path of keys: nothing, a dictionary, or another value. -/
def CFDictionary.look (d : CFDictionary V) (keys : List String) : Option (Option V) :=
  d.toTree.look keys

/-- The child of a dictionary at a path of keys. -/
def CFDictionary.child (d : CFDictionary V) (keys : List String) (key : String) :
    Option (KeyTree String V) :=
  (d.toTree.get? (keys ++ [key])).filter isDictionary

/-- The dictionary at a path consists of the entries of the value and of the children that were
there. Everything that is not at the path or below it is as it was, but for dictionaries on the way
to it that were missing. -/
structure SetsDictionary (keys : List String) (s s' : PrefsState V) : Prop where
  /-- at the path -/
  dictionary : ∃ entries, s'.tree.toTree.get? keys = some (.branch entries) ∧
    ∀ key, entries.lookup key = (s.value.lookup key).or (s.tree.child keys key)
  /-- what was there elsewhere -/
  kept : ∀ other, ¬ keys <+: other → ∀ x, s.tree.look other = some x → s'.tree.look other = some x
  /-- what was not -/
  absent : ∀ other, ¬ keys <+: other → s.tree.look other = none →
    s'.tree.look other = none ∨ other <+: keys ∧ s'.tree.look other = some none
  value : s'.value = s.value
  changed : s'.changed = true

/-- What `get` and `set` do with the children at a path. -/
structure RespectsChildren (path : String) (s : PrefsState V) : Prop where
  /-- `set` fails, or sets the entries and keeps the children -/
  set : (doPrefsSet paths path none s).1 = s ∨
    SetsDictionary (paths.components path) s (doPrefsSet paths path none s).1
  /-- it fails if a child is among the entries -/
  refused : (∃ key, (s.value.lookup key).isSome ∧
      (s.tree.child (paths.components path) key).isSome) →
    ∃ key, doPrefsSet paths path none s = (s, keyIsPathComponent key)
  /-- what has been read from a dictionary is set without a change -/
  getAndSet : (∃ entries, s.tree.toTree.get? (paths.components path) = some (.branch entries)) →
    (getAndSet paths path s).tree.toTree.Same s.tree.toTree
  /-- nothing is read where there is nothing -/
  getAbsent : s.tree.toTree.get? (paths.components path) = none →
    (doPrefsGet paths path s).1 = s

/-- A key of the value that is a child at the path cannot be set. -/
theorem retainChildren_error {newDict entries : List (String × KeyTree String V)}
    {e : String × KeyTree String V} (he : e ∈ entries) (hdict : isDictionary e.2 = true)
    (hkey : e.1 ∈ newDict.map Prod.fst) :
    ∃ key, retainChildren newDict entries = .error (keyIsPathComponent key) := by
  induction entries generalizing newDict with
  | nil => exact absurd he List.not_mem_nil
  | cons e' entries ih =>
    rw [retainChildren]
    rcases List.mem_cons.mp he with rfl | he'
    · rw [if_pos hdict, if_pos hkey]
      exact ⟨_, rfl⟩
    · split
      · split
        · exact ⟨_, rfl⟩
        · exact ih he' (by rw [List.map_append]; exact List.mem_append_left _ hkey)
      · exact ih he' hkey

variable {paths}

/-- Storing fails, or replaces what is at the path. -/
theorem storeAtPath_none (hpaths : paths.ReadAndReplace) (path : String) (s : PrefsState V)
    (newDict : CFDictionary V) :
    (storeAtPath paths path none s newDict).1 = s ∨
      ∃ tree, s.tree.toTree.replace (paths.components path) newDict.toTree = some tree.toTree ∧
        (storeAtPath paths path none s newDict).1 = { s with tree := tree, changed := true } := by
  cases hset : paths.setValue s.tree path newDict with
  | error status =>
    refine Or.inl ?_
    simp only [storeAtPath, hset]
  | ok tree =>
    refine Or.inr ⟨tree, hpaths.setValue _ _ _ _ hset, ?_⟩
    simp only [storeAtPath, hset]

/-- What replacing a dictionary does. -/
theorem setsDictionary_of_replace {keys : List String} {s : PrefsState V}
    {newDict tree : CFDictionary V}
    (hreplace : s.tree.toTree.replace keys newDict.toTree = some tree.toTree)
    (hnew : ∀ key, newDict.lookup key = (s.value.lookup key).or (s.tree.child keys key)) :
    SetsDictionary keys s { s with tree := tree, changed := true } where
  dictionary := ⟨newDict.entries, KeyTree.get?_replace_self hreplace, hnew⟩
  kept := by
    intro other hother x hx
    by_cases habove : other <+: keys
    · have hne : other ≠ keys := fun heq => hother (heq ▸ List.prefix_rfl)
      obtain ⟨⟨entries, hentries⟩, hleaf⟩ := KeyTree.get?_replace_of_prefix hreplace habove hne
      rw [CFDictionary.look, KeyTree.look] at hx ⊢
      rw [hentries]
      cases hold : s.tree.toTree.get? other with
      | none =>
        rw [hold] at hx
        cases hx
      | some t =>
        cases t with
        | leaf v => exact absurd hold (hleaf v)
        | branch _ =>
          rw [hold] at hx
          exact hx
    · rw [CFDictionary.look, KeyTree.look] at hx ⊢
      rw [KeyTree.get?_replace_of_not_prefix hreplace hother habove]
      exact hx
  absent := by
    intro other hother hnone
    by_cases habove : other <+: keys
    · have hne : other ≠ keys := fun heq => hother (heq ▸ List.prefix_rfl)
      obtain ⟨⟨entries, hentries⟩, -⟩ := KeyTree.get?_replace_of_prefix hreplace habove hne
      refine Or.inr ⟨habove, ?_⟩
      rw [CFDictionary.look, KeyTree.look, hentries]
      rfl
    · refine Or.inl ?_
      rw [CFDictionary.look, KeyTree.look] at hnone ⊢
      rw [KeyTree.get?_replace_of_not_prefix hreplace hother habove]
      exact hnone
  value := rfl
  changed := rfl

/-- The children at a path, by the dictionary there. -/
theorem child_eq {tree : CFDictionary V} {keys : List String}
    {entries : List (String × KeyTree String V)}
    (hget : tree.toTree.get? keys = some (.branch entries)) (key : String) :
    tree.child keys key = (entries.lookup key).filter isDictionary := by
  rw [CFDictionary.child, KeyTree.get?_append, hget, Option.bind_some, KeyTree.get?_branch_cons]
  cases entries.lookup key with
  | none => rfl
  | some t => rw [Option.bind_some, KeyTree.get?_nil]

theorem child_eq_none {tree : CFDictionary V} {keys : List String}
    (hget : tree.toTree.get? keys = none) (key : String) : tree.child keys key = none := by
  rw [CFDictionary.child, KeyTree.get?_append, hget]
  rfl

/-- `set` with what has been read. -/
theorem doPrefsSet_of_getValue {path : String} {s : PrefsState V} {dict : CFDictionary V}
    (hget : paths.getValue s.tree path = .ok dict) (link : Option String) :
    (∃ message, retainChildren s.value.entries dict.entries = .error message ∧
      doPrefsSet paths path link s = (s, message)) ∨
    ∃ newDict : CFDictionary V,
      retainChildren s.value.entries dict.entries = .ok newDict.entries ∧
        doPrefsSet paths path link s = storeAtPath paths path link s newDict := by
  rw [doPrefsSet, hget]
  simp only
  split
  · rename_i message h
    exact Or.inl ⟨message, h, rfl⟩
  · rename_i entries h
    exact Or.inr ⟨_, h, rfl⟩

/-- `set` where there is nothing. -/
theorem doPrefsSet_of_error {path : String} {s : PrefsState V} {status : SCStatus}
    (hget : paths.getValue s.tree path = .error status) (link : Option String) :
    (doPrefsSet paths path link s).1 = s ∨
      doPrefsSet paths path link s = storeAtPath paths path link s s.value := by
  rw [doPrefsSet, hget]
  cases status with
  | noKey => exact Or.inr rfl
  | invalidArgument => exact Or.inl rfl
  | other code => exact Or.inl rfl

/-- `set` fails, or sets the entries and keeps the children. -/
theorem doPrefsSet_none (hpaths : paths.ReadAndReplace) {path : String} {s : PrefsState V}
    (hpath : ∀ v, s.tree.toTree.get? (paths.components path) ≠ some (.leaf v)) :
    (doPrefsSet paths path none s).1 = s ∨
      SetsDictionary (paths.components path) s (doPrefsSet paths path none s).1 := by
  cases hget : s.tree.toTree.get? (paths.components path) with
  | none =>
    obtain ⟨status, hvalue⟩ := hpaths.getValue_absent _ _ hget
    rcases doPrefsSet_of_error hvalue none with hsame | hstore
    · exact Or.inl hsame
    · rw [hstore]
      refine (storeAtPath_none hpaths path s s.value).imp_right ?_
      rintro ⟨tree, hreplace, hstored⟩
      rw [hstored]
      refine setsDictionary_of_replace hreplace fun key => ?_
      rw [child_eq_none hget, Option.or_none]
  | some t =>
    cases t with
    | leaf v => exact absurd hget (hpath v)
    | branch entries =>
      obtain ⟨dict, hvalue, rfl⟩ := hpaths.getValue_dictionary _ _ _ hget
      rcases doPrefsSet_of_getValue hvalue none with ⟨message, -, hsame⟩ | ⟨newDict, hnew, hstore⟩
      · rw [hsame]
        exact Or.inl rfl
      · rw [hstore]
        refine (storeAtPath_none hpaths path s newDict).imp_right ?_
        rintro ⟨tree, hreplace, hstored⟩
        rw [hstored]
        refine setsDictionary_of_replace hreplace fun key => ?_
        have hkeys : (dict.entries.map Prod.fst).Nodup :=
          (KeyTree.unique_branch_iff.mp dict.unique).1
        rw [child_eq hget, CFDictionary.lookup, retainChildren_eq hnew, List.lookup_append,
          lookup_filter hkeys]
        rfl

/-- `set` fails if a child is among the entries. -/
theorem doPrefsSet_refused (hpaths : paths.ReadAndReplace) {path : String} {s : PrefsState V}
    {key : String} (hvalue : (s.value.lookup key).isSome)
    (hchild : (s.tree.child (paths.components path) key).isSome) :
    ∃ key, doPrefsSet paths path none s = (s, keyIsPathComponent key) := by
  cases hget : s.tree.toTree.get? (paths.components path) with
  | none =>
    rw [child_eq_none hget] at hchild
    cases hchild
  | some t =>
    cases t with
    | leaf v =>
      rw [CFDictionary.child, KeyTree.get?_append, hget] at hchild
      cases hchild
    | branch entries =>
      obtain ⟨dict, hdict, rfl⟩ := hpaths.getValue_dictionary _ _ _ hget
      have hkeys : (dict.entries.map Prod.fst).Nodup :=
        (KeyTree.unique_branch_iff.mp dict.unique).1
      rw [child_eq hget] at hchild
      obtain ⟨v, hv⟩ := Option.isSome_iff_exists.mp hchild
      obtain ⟨hlookup, hbranch⟩ := Option.filter_eq_some_iff.mp hv
      have hmem := (lookup_eq_some_iff_mem hkeys).mp hlookup
      have hkey : key ∈ s.value.entries.map Prod.fst := by
        by_contra hnot
        rw [CFDictionary.lookup, lookup_eq_none_iff_notMem.mpr hnot] at hvalue
        cases hvalue
      obtain ⟨key', herror⟩ := retainChildren_error hmem hbranch hkey
      refine ⟨key', ?_⟩
      rcases doPrefsSet_of_getValue hdict none with ⟨message, hmessage, hsame⟩ | ⟨newDict, hnew, -⟩
      · rw [herror, Except.error.injEq] at hmessage
        rw [hsame, hmessage]
      · rw [herror] at hnew
        cases hnew

/-- The entries without the children, and the children, are the dictionary. -/
theorem lookup_retained (dict : CFDictionary V) (key : String) :
    ((withoutChildren dict).entries ++ dict.entries.filter fun e => isDictionary e.2).lookup key =
      dict.entries.lookup key := by
  have hkeys : (dict.entries.map Prod.fst).Nodup :=
    (KeyTree.unique_branch_iff.mp dict.unique).1
  rw [List.lookup_append, withoutChildren, lookup_filter hkeys,
    lookup_filter hkeys fun v => !isDictionary v]
  cases dict.entries.lookup key with
  | none => rfl
  | some v => cases hv : isDictionary v <;> simp [hv]

/-- What has been read from a dictionary is set without a change. -/
theorem getAndSet_same (hpaths : paths.ReadAndReplace) {path : String} {s : PrefsState V}
    {entries : List (String × KeyTree String V)}
    (hget : s.tree.toTree.get? (paths.components path) = some (.branch entries)) :
    (getAndSet paths path s).tree.toTree.Same s.tree.toTree := by
  obtain ⟨dict, hdict, rfl⟩ := hpaths.getValue_dictionary _ _ _ hget
  have hread : (doPrefsGet paths path s).1 = { s with value := withoutChildren dict } := by
    simp only [doPrefsGet, hdict]
  rw [getAndSet, hread]
  rcases doPrefsSet_of_getValue (s := { s with value := withoutChildren dict }) hdict none with
    ⟨message, -, hsame⟩ | ⟨newDict, hnew, hstore⟩
  · rw [hsame]
    exact fun _ => rfl
  · rw [hstore]
    rcases storeAtPath_none hpaths path { s with value := withoutChildren dict } newDict with
      hsame | ⟨tree, hreplace, hstored⟩
    · rw [hsame]
      exact fun _ => rfl
    · rw [hstored]
      refine KeyTree.Same.replace (KeyTree.same_branch fun key => ?_) hget hreplace
      rw [retainChildren_eq hnew]
      exact lookup_retained dict key

/-- **Children of a path.** Where there is a dictionary or nothing, `set` sets the entries and keeps
the children, or fails; and what `get` has read from a dictionary is set without a change. -/
theorem prefsPaths_respected {V : Type} (paths : PathFunctions V) (hpaths : paths.ReadAndReplace)
    (s : PrefsState V) (path : String)
    (hpath : ∀ v, s.tree.toTree.get? (paths.components path) ≠ some (.leaf v)) :
    RespectsChildren paths path s where
  set := doPrefsSet_none hpaths hpath
  refused := fun ⟨_, hvalue, hchild⟩ => doPrefsSet_refused hpaths hvalue hchild
  getAndSet := fun ⟨_, hget⟩ => getAndSet_same hpaths hget
  getAbsent := by
    intro hnone
    obtain ⟨status, hstatus⟩ := hpaths.getValue_absent _ _ hnone
    simp only [doPrefsGet, hstatus]

/-! ## The paths as they are documented -/

/-- The keys on a path: what is between the slashes. -/
def slashComponents (path : String) : List String :=
  ((path.toList.splitOn '/').map String.ofList).filter fun key => key ≠ ""

/-- The functions for paths, with no links. -/
def plainPaths : PathFunctions String where
  components := slashComponents
  getLink _ _ := none
  getValue tree path :=
    match h : tree.toTree.get? (slashComponents path) with
    | none => .error .noKey
    | some (.leaf _) => .error .invalidArgument
    | some (.branch entries) => .ok ⟨entries, tree.unique.get? h⟩
  setValue tree path dict :=
    match h : tree.toTree.replace (slashComponents path) dict.toTree with
    | some (.branch entries) => .ok ⟨entries, tree.unique.replace dict.unique h⟩
    | _ => .error .invalidArgument
  setLink _ _ _ := .error .invalidArgument
  errorString status := if status = .noKey then "No such key" else "Invalid argument"

theorem plainPaths_readAndReplace : plainPaths.ReadAndReplace where
  getValue_dictionary := by
    intro tree path entries h
    change tree.toTree.get? (slashComponents path) = _ at h
    simp only [plainPaths]
    split
    · rename_i hnone
      rw [h] at hnone
      cases hnone
    · rename_i hleaf
      rw [h] at hleaf
      cases hleaf
    · rename_i hbranch
      rw [h] at hbranch
      cases hbranch
      exact ⟨_, rfl, rfl⟩
  getValue_absent := by
    intro tree path h
    change tree.toTree.get? (slashComponents path) = _ at h
    simp only [plainPaths]
    split
    · exact ⟨_, rfl⟩
    · exact ⟨_, rfl⟩
    · rename_i hbranch
      rw [h] at hbranch
      cases hbranch
  setValue := by
    intro tree path dict tree' h
    simp only [plainPaths] at h
    split at h
    · rename_i hbranch
      cases h
      exact hbranch
    · cases h

/-- A dictionary with one entry. -/
def singleEntry (key v : String) : CFDictionary String where
  entries := [(key, .leaf v)]
  unique := KeyTree.unique_singleton key (KeyTree.unique_leaf v)

/-- A dictionary with one child. -/
def singleChild (key : String) (d : CFDictionary String) : CFDictionary String where
  entries := [(key, d.toTree)]
  unique := KeyTree.unique_singleton key d.unique

/-- The preferences have a dictionary at `/System`, and the value has an entry. -/
def systemOnly : PrefsState String where
  tree := singleChild "System" (singleEntry "ComputerName" "one")
  value := singleEntry "HostName" "two"
  changed := false

theorem prefsPaths_respected_system : RespectsChildren plainPaths "/System" systemOnly :=
  prefsPaths_respected plainPaths plainPaths_readAndReplace systemOnly "/System" (by
    intro v h
    cases h)

/-- At a path with nothing, `get` fails, and `set` stores the value that was there before. -/
theorem getAndSet_absent_not_same :
    ¬ (getAndSet plainPaths "/Sets" systemOnly).tree.toTree.Same systemOnly.tree.toTree := by
  intro h
  exact absurd (h ["Sets", "HostName"]) (by decide)

end ConfigdExtra.PrefsPaths
