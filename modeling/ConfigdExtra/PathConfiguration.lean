import ConfigdExtra.DeferredEdits

/-!
# Configurations at the paths of the preferences

A configuration is a dictionary at a path. Whether it is enabled is stored in it: a key marks it
as inactive.

* `PathLibrary` — reading and writing at paths.
* `networkConfigurationSetValue`, `setPrefsEnabled` and the reading functions — each rewrites the
  dictionary that both share.
* `Registers` — a flag and a configuration, apart.
* `registers_run` — a run of both kinds of writes is one on two registers.
-/

namespace ConfigdExtra

open DeferredEdits

/-! ## Paths -/

/-- Dictionaries with property lists `V` as values -/
abbrev CFDictionary (V : Type) : Type := Record String V

/-- What is at a path: a dictionary, or something else. -/
inductive StoredValue (V : Type)
  | dictionary (d : CFDictionary V)
  | other (v : V)
deriving DecidableEq

/-- `isA_CFDictionary` -/
def StoredValue.dictionary? {V : Type} : StoredValue V → Option (CFDictionary V)
  | .dictionary d => some d
  | .other _ => none

/-- `kSCResvInactive` -/
def kSCResvInactive : String := "__INACTIVE__"

/-- Reading and writing the contents `π` of the preferences at paths `P`, none of which is inside
another. -/
structure PathLibrary (π P V : Type) where
  /-- `SCPreferencesPathGetValue` -/
  get : π → P → Option (StoredValue V)
  /-- what `SCPreferencesPathSetValue` leaves if it succeeds -/
  set : π → P → CFDictionary V → π
  /-- what `SCPreferencesPathRemoveValue` leaves if it succeeds -/
  remove : π → P → π
  kCFBooleanTrue : V

/-- What is documented about them. -/
structure PathLibrary.Lawful {π P V : Type} (lib : PathLibrary π P V) : Prop where
  get_set : ∀ c path d, lib.get (lib.set c path d) path = some (.dictionary d)
  get_set_of_ne : ∀ c path d other, other ≠ path → lib.get (lib.set c path d) other = lib.get c other
  get_remove : ∀ c path, lib.get (lib.remove c path) path = none
  get_remove_of_ne : ∀ c path other, other ≠ path →
    lib.get (lib.remove c path) other = lib.get c other

section

variable {π P V : Type} [DecidableEq V] (lib : PathLibrary π P V)

/-! ## Functions -/

/-- `isEffectivelyEmptyConfiguration` -/
def isEffectivelyEmptyConfiguration (config : Option (StoredValue V)) : Bool :=
  match (config.bind StoredValue.dictionary?).map fun d => (d, d.keys.card) with
  | none => true
  | some (_, 0) => true
  | some (d, 1) => decide (kSCResvInactive ∈ d)
  | some _ => false

/-- `__SCNetworkConfigurationGetValue` -/
def networkConfigurationGetValue (c : π) (path : P) : Option (StoredValue V) :=
  let config := lib.get c path
  if isEffectivelyEmptyConfiguration config then none else config

/-- `SCPreferencesPathSetValue` or `SCPreferencesPathRemoveValue`, which succeed if `ok` holds;
there being nothing to remove does not count. -/
def updatePath (c : π) (path : P) (newConfig : Option (CFDictionary V)) (ok : Bool) : Bool × π :=
  match newConfig with
  | some d => if ok then (true, lib.set c path d) else (false, c)
  | none =>
    if (lib.get c path).isNone then (true, c)
    else if ok then (true, lib.remove c path) else (false, c)

/-- `__SCNetworkConfigurationSetValue` -/
def networkConfigurationSetValue (c : π) (path : P) (config : Option (StoredValue V))
    (keepInactive ok : Bool) : Bool × π :=
  match config with
  | some (.other _) => (false, c)
  | _ =>
    let config := config.bind StoredValue.dictionary?
    let curConfig := (lib.get c path).bind StoredValue.dictionary?
    let newConfig :=
      if keepInactive then
        let newConfig := config.getD ∅
        some <|
          if curConfig.any fun d => kSCResvInactive ∈ d then
            newConfig.insert kSCResvInactive lib.kCFBooleanTrue
          else newConfig.erase kSCResvInactive
      else config
    if curConfig = newConfig then (true, c) else updatePath lib c path newConfig ok

/-- `__getPrefsEnabled` -/
def getPrefsEnabled (c : π) (path : P) : Bool :=
  !((lib.get c path).bind StoredValue.dictionary?).any fun d => kSCResvInactive ∈ d

/-- `__setPrefsEnabled` -/
def setPrefsEnabled (c : π) (path : P) (enabled ok : Bool) : Bool × π :=
  let update (curConfig newConfig : Option (CFDictionary V)) :=
    if curConfig = newConfig then (true, c) else updatePath lib c path newConfig ok
  match lib.get c path with
  | some (.other _) => (false, c)
  | some (.dictionary d) =>
    update (some d) <| some <|
      if enabled then d.erase kSCResvInactive else d.insert kSCResvInactive lib.kCFBooleanTrue
  | none =>
    update none <|
      if enabled then none else some (Finmap.singleton kSCResvInactive lib.kCFBooleanTrue)

/-! ## Two registers -/

/-- A configuration without the mark, and none if nothing is left. -/
def plainConfiguration (config : Option (CFDictionary V)) : Option (CFDictionary V) :=
  (config.map fun d => d.erase kSCResvInactive).filter fun d => d ≠ ∅

/-- A flag and a configuration -/
structure Registers (V : Type) where
  enabled : Bool
  configuration : Option (CFDictionary V)

/-- The writes. -/
inductive RegisterCall (V : Type)
  | setEnabled (enabled : Bool)
  | setValue (config : Option (CFDictionary V))

/-- A write sets one register. -/
def Registers.write (r : Registers V) : RegisterCall V → Registers V
  | .setEnabled enabled => { r with enabled := enabled }
  | .setValue config => { r with configuration := plainConfiguration config }

/-- What the reading functions give. -/
def readRegisters (c : π) (path : P) : Registers V where
  enabled := getPrefsEnabled lib c path
  configuration := plainConfiguration <|
    (networkConfigurationGetValue lib c path).bind StoredValue.dictionary?

/-- A call whose writes succeed. -/
def RegisterCall.perform (c : π) (path : P) : RegisterCall V → Bool × π
  | .setEnabled enabled => setPrefsEnabled lib c path enabled true
  | .setValue config =>
    networkConfigurationSetValue lib c path (config.map .dictionary) true true

/-! ## One write -/

theorem plainConfiguration_eq {d d' : CFDictionary V}
    (h : d.erase kSCResvInactive = d'.erase kSCResvInactive) :
    plainConfiguration (some d) = plainConfiguration (some d') := by
  simp only [plainConfiguration, Option.map_some, h]

omit [DecidableEq V] in
theorem erase_erase (d : CFDictionary V) (key : String) : (d.erase key).erase key = d.erase key := by
  apply Finmap.ext_lookup
  intro k
  by_cases hk : k = key
  · subst hk
    simp
  · simp [Finmap.lookup_erase_ne hk]

omit [DecidableEq V] in
theorem erase_insert (d : CFDictionary V) (key : String) (v : V) :
    (d.insert key v).erase key = d.erase key := by
  apply Finmap.ext_lookup
  intro k
  by_cases hk : k = key
  · subst hk
    simp
  · simp [Finmap.lookup_erase_ne hk, Finmap.lookup_insert_of_ne d hk]

omit [DecidableEq V] in
theorem eq_empty_of_keys {d : CFDictionary V} (h : d.keys = ∅) : d = ∅ := by
  apply Finmap.ext_lookup
  intro k
  rw [Finmap.lookup_empty, Finmap.lookup_eq_none, ← Finmap.mem_keys, h]
  exact Finset.notMem_empty k

/-- Nothing is left of what counts as empty. -/
theorem plainConfiguration_of_empty {config : Option (StoredValue V)}
    (h : isEffectivelyEmptyConfiguration config = true) :
    plainConfiguration (config.bind StoredValue.dictionary?) = none := by
  cases hd : config.bind StoredValue.dictionary? with
  | none => rfl
  | some d =>
    have hempty : d.erase kSCResvInactive = ∅ := by
      simp only [isEffectivelyEmptyConfiguration, hd, Option.map_some] at h
      split at h
      · contradiction
      next heq =>
        obtain ⟨rfl, hcard⟩ := Prod.mk.inj (Option.some.inj heq)
        apply eq_empty_of_keys
        rw [Finmap.keys_erase, Finset.card_eq_zero.mp hcard, Finset.erase_empty]
      next heq =>
        obtain ⟨rfl, hcard⟩ := Prod.mk.inj (Option.some.inj heq)
        apply eq_empty_of_keys
        rw [Finmap.keys_erase, ← Finset.card_eq_zero,
          Finset.card_erase_of_mem (Finmap.mem_keys.mpr (of_decide_eq_true h)), hcard]
      · cases h
    simp [plainConfiguration, hempty]

variable {lib}

/-- What is read is of the dictionary that is stored. -/
theorem readRegisters_eq (c : π) (path : P) :
    readRegisters lib c path =
      let stored := (lib.get c path).bind StoredValue.dictionary?
      ⟨!stored.any fun d => kSCResvInactive ∈ d, plainConfiguration stored⟩ := by
  simp only [readRegisters, getPrefsEnabled, networkConfigurationGetValue]
  split_ifs with hempty
  · rw [plainConfiguration_of_empty hempty]
    rfl
  · rfl

/-- What is read after a dictionary was stored. -/
theorem readRegisters_set (hlib : lib.Lawful) (c : π) (path : P) (d : CFDictionary V) :
    readRegisters lib (lib.set c path d) path =
      ⟨decide (kSCResvInactive ∉ d), plainConfiguration (some d)⟩ := by
  rw [readRegisters_eq, hlib.get_set]
  simp [StoredValue.dictionary?]

/-- Nothing but a dictionary is at a path. -/
def HoldsDictionary (lib : PathLibrary π P V) (c : π) (path : P) : Prop :=
  ∀ v, lib.get c path ≠ some (.other v)

/-- A dictionary is stored, unless it is there already. -/
theorem store_dictionary (hlib : lib.Lawful) (c : π) (path : P) {stored : Option (CFDictionary V)}
    (hstored : lib.get c path = stored.map .dictionary) (d : CFDictionary V) :
    let r := if stored = some d then (true, c) else updatePath lib c path (some d) true
    r.1 = true ∧ HoldsDictionary lib r.2 path ∧
      readRegisters lib r.2 path =
        ⟨decide (kSCResvInactive ∉ d), plainConfiguration (some d)⟩ := by
  intro r
  by_cases hsame : stored = some d
  · have hr : r = (true, c) := if_pos hsame
    rw [hsame] at hstored
    rw [hr]
    refine ⟨rfl, fun v hv => ?_, ?_⟩
    · rw [hstored] at hv
      cases hv
    · rw [readRegisters_eq, hstored]
      simp [StoredValue.dictionary?]
  · have hr : r = (true, lib.set c path d) := if_neg hsame
    rw [hr]
    refine ⟨rfl, fun v hv => ?_, readRegisters_set hlib c path d⟩
    rw [hlib.get_set] at hv
    cases hv

/-- **One write** succeeds and sets its register. -/
theorem perform_write (hlib : lib.Lawful) {c : π} {path : P} (hdict : HoldsDictionary lib c path)
    (call : RegisterCall V) :
    (call.perform lib c path).1 = true ∧
      HoldsDictionary lib (call.perform lib c path).2 path ∧
      readRegisters lib (call.perform lib c path).2 path =
        (readRegisters lib c path).write call := by
  -- the dictionary at the path, if there is one
  obtain ⟨stored, hstored⟩ : ∃ stored : Option (CFDictionary V),
      lib.get c path = stored.map .dictionary := by
    cases hget : lib.get c path with
    | none => exact ⟨none, rfl⟩
    | some v =>
      cases v with
      | dictionary d => exact ⟨some d, rfl⟩
      | other v => exact absurd hget (hdict v)
  have hread : readRegisters lib c path =
      ⟨!stored.any fun d => kSCResvInactive ∈ d, plainConfiguration stored⟩ := by
    rw [readRegisters_eq, hstored]
    cases stored <;> rfl
  rw [hread]
  cases call with
  -- enabled or not is one key of the dictionary, and the others stay
  | setEnabled enabled =>
    cases stored with
    | some d =>
      have hset := store_dictionary hlib c path hstored
        (if enabled then d.erase kSCResvInactive else d.insert kSCResvInactive lib.kCFBooleanTrue)
      simp only [RegisterCall.perform, setPrefsEnabled, hstored, Option.map_some]
      refine ⟨hset.1, hset.2.1, hset.2.2.trans ?_⟩
      cases enabled with
      | true =>
        simp only [if_true, Registers.write, plainConfiguration_eq (erase_erase d kSCResvInactive)]
        simp [Finmap.mem_erase]
      | false =>
        simp only [if_false, Bool.false_eq_true, Registers.write,
          plainConfiguration_eq (erase_insert d kSCResvInactive lib.kCFBooleanTrue)]
        simp [Finmap.mem_insert]
    -- nothing is stored for what is enabled anyway
    | none =>
      cases enabled with
      | true =>
        simp only [RegisterCall.perform, setPrefsEnabled, hstored, Option.map_none, if_true]
        exact ⟨trivial, hdict, by rw [hread]; rfl⟩
      | false =>
        have hset := store_dictionary hlib c path hstored
          (Finmap.singleton kSCResvInactive lib.kCFBooleanTrue)
        have hempty : (Finmap.singleton kSCResvInactive lib.kCFBooleanTrue).erase kSCResvInactive =
            (∅ : CFDictionary V) := by
          apply eq_empty_of_keys
          rw [Finmap.keys_erase, Finmap.keys_singleton, Finset.erase_singleton]
        simp only [RegisterCall.perform, setPrefsEnabled, hstored, Option.map_none, if_false,
          Bool.false_eq_true]
        refine ⟨hset.1, hset.2.1, hset.2.2.trans ?_⟩
        simp [Registers.write, plainConfiguration, hempty]
  -- the key goes over into the new dictionary
  | setValue config =>
    have hset := store_dictionary hlib c path hstored
      (if stored.any fun d => kSCResvInactive ∈ d then
        (config.getD ∅).insert kSCResvInactive lib.kCFBooleanTrue
      else (config.getD ∅).erase kSCResvInactive)
    have hperform : (RegisterCall.setValue config).perform lib c path =
        if stored = some (if stored.any fun d => kSCResvInactive ∈ d then
            (config.getD ∅).insert kSCResvInactive lib.kCFBooleanTrue
          else (config.getD ∅).erase kSCResvInactive) then (true, c)
        else updatePath lib c path (some (if stored.any fun d => kSCResvInactive ∈ d then
            (config.getD ∅).insert kSCResvInactive lib.kCFBooleanTrue
          else (config.getD ∅).erase kSCResvInactive)) true := by
      have hcur : (lib.get c path).bind StoredValue.dictionary? = stored := by
        rw [hstored]
        cases stored <;> rfl
      cases config <;> simp [RegisterCall.perform, networkConfigurationSetValue, hcur,
        StoredValue.dictionary?]
    rw [hperform]
    refine ⟨hset.1, hset.2.1, hset.2.2.trans ?_⟩
    have hplain : plainConfiguration (some (config.getD ∅)) = plainConfiguration config := by
      cases config with
      | some d => rfl
      | none =>
        have hempty : (∅ : CFDictionary V).erase kSCResvInactive = ∅ := by
          apply eq_empty_of_keys
          rw [Finmap.keys_erase, Finmap.keys_empty, Finset.erase_empty]
        simp [plainConfiguration, hempty]
    split_ifs with hinactive
    · rw [plainConfiguration_eq (erase_insert _ _ _), hplain]
      simp [Registers.write, hinactive]
    · rw [plainConfiguration_eq (erase_erase _ _), hplain]
      simp [Registers.write, hinactive]

/-! ## Runs -/

/-- What is left after calls. -/
def registerRun (lib : PathLibrary π P V) (path : P) (calls : List (RegisterCall V)) (c : π) : π :=
  calls.foldl (fun c call => (call.perform lib c path).2) c

theorem registers_run (hlib : lib.Lawful) {path : P} (calls : List (RegisterCall V)) {c : π}
    (hdict : HoldsDictionary lib c path) :
    HoldsDictionary lib (registerRun lib path calls c) path ∧
      readRegisters lib (registerRun lib path calls c) path =
        calls.foldl Registers.write (readRegisters lib c path) := by
  induction calls generalizing c with
  | nil => exact ⟨hdict, rfl⟩
  | cons call calls ih =>
    obtain ⟨-, hdict', hread⟩ := perform_write hlib hdict call
    obtain ⟨hlast, hrun⟩ := ih hdict'
    refine ⟨hlast, ?_⟩
    rw [List.foldl_cons, ← hread]
    exact hrun

/-- The flag that a call sets -/
def RegisterCall.enabled? : RegisterCall V → Option Bool
  | .setEnabled enabled => some enabled
  | .setValue _ => none

/-- The configuration that a call sets -/
def RegisterCall.config? : RegisterCall V → Option (Option (CFDictionary V))
  | .setEnabled _ => none
  | .setValue config => some config

/-- The registers hold the last values. -/
theorem foldl_write (calls : List (RegisterCall V)) (r : Registers V) :
    calls.foldl Registers.write r =
      ⟨(calls.filterMap RegisterCall.enabled?).getLast?.getD r.enabled,
        ((calls.filterMap RegisterCall.config?).getLast?.map plainConfiguration).getD
          r.configuration⟩ := by
  induction calls using List.reverseRecOn with
  | nil => rfl
  | append_singleton calls call ih =>
    rw [List.foldl_concat, ih]
    cases call <;> simp [Registers.write, RegisterCall.enabled?, RegisterCall.config?]

/-- **The enabled state and the configuration are independent**: after each call of a run, reading
gives the last that was set of each. -/
theorem registers_independent (hlib : lib.Lawful) {c : π} {path : P}
    (hdict : HoldsDictionary lib c path) (calls : List (RegisterCall V)) :
    let after := registerRun lib path calls c
    getPrefsEnabled lib after path =
        (calls.filterMap RegisterCall.enabled?).getLast?.getD (getPrefsEnabled lib c path) ∧
      plainConfiguration ((networkConfigurationGetValue lib after path).bind
          StoredValue.dictionary?) =
        ((calls.filterMap RegisterCall.config?).getLast?.map plainConfiguration).getD
          (plainConfiguration ((networkConfigurationGetValue lib c path).bind
            StoredValue.dictionary?)) := by
  intro after
  have hrun := (registers_run hlib calls hdict).2
  rw [foldl_write] at hrun
  exact ⟨congrArg Registers.enabled hrun, congrArg Registers.configuration hrun⟩

end

/-- A store of dictionaries for numbers as paths -/
def numberedPaths : PathLibrary (ℕ → Option (StoredValue Bool)) ℕ Bool where
  get c path := c path
  set c path d := Function.update c path (some (.dictionary d))
  remove c path := Function.update c path none
  kCFBooleanTrue := true

theorem numberedPaths_lawful : numberedPaths.Lawful where
  get_set _ _ _ := Function.update_self ..
  get_set_of_ne _ _ _ _ hne := Function.update_of_ne hne ..
  get_remove _ _ := Function.update_self ..
  get_remove_of_ne _ _ _ hne := Function.update_of_ne hne ..

/-- A service is disabled, and then gets a configuration. -/
theorem registers_independent_disabled :
    let calls := [.setEnabled false, .setValue (some (Finmap.singleton "MTU" true))]
    let after := registerRun numberedPaths 0 calls fun _ => none
    getPrefsEnabled numberedPaths after 0 = false ∧
      plainConfiguration ((networkConfigurationGetValue numberedPaths after 0).bind
        StoredValue.dictionary?) = plainConfiguration (some (Finmap.singleton "MTU" true)) :=
  registers_independent (c := fun _ => none) numberedPaths_lawful (fun v hv => by cases hv)
    [.setEnabled false, .setValue (some (Finmap.singleton "MTU" true))]

end ConfigdExtra
