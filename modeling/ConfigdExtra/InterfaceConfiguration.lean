import ConfigdExtra.InterfaceEntity
import ConfigdExtra.PathConfiguration

/-!
# The configuration of an interface

The configuration of most interfaces is stored with every set that contains their service, that
of the others with the service. Before the service is in a set, it is held in the interface.

* `EntityPath`, `SetLibrary` — where configurations are stored.
* `copyConfigurationPaths` — the paths of an interface.
* `setInterfaceConfiguration`, `getInterfaceConfiguration` — writing all paths, reading the first.
* `setPaths_done` — the paths written before one failed.
* `setInterfaceConfiguration_writes` — what a write leaves, and what is then read.
-/

namespace ConfigdExtra

open DeferredEdits

/-! ## Paths -/

/-- The paths of configurations. -/
inductive EntityPath
  /-- `SCPreferencesPathKeyCreateSetNetworkInterfaceEntity` -/
  | setInterface (setID : String) (device : Option String) (entity : String)
  /-- `SCPreferencesPathKeyCreateNetworkServiceEntity` -/
  | service (serviceID : Option String) (entity : String)
deriving DecidableEq

/-- The preferences, with their sets. -/
structure SetLibrary (π V : Type) extends PathLibrary π EntityPath V where
  /-- `SCNetworkSetCopyAll` -/
  sets : π → List String
  /-- `SCNetworkSetCopyServices` -/
  setServices : π → String → List String

/-- What is documented about them: a configuration is not part of the list of sets. -/
structure SetLibrary.Lawful {π V : Type} (lib : SetLibrary π V) : Prop
    extends PathLibrary.Lawful lib.toPathLibrary where
  sets_set : ∀ c path d, lib.sets (lib.set c path d) = lib.sets c
  sets_remove : ∀ c path, lib.sets (lib.remove c path) = lib.sets c
  setServices_set : ∀ c path d, lib.setServices (lib.set c path d) = lib.setServices c
  setServices_remove : ∀ c path, lib.setServices (lib.remove c path) = lib.setServices c

/-! ## Interfaces -/

/-- What the configuration of an interface depends on. -/
structure ConfiguredInterface (V : Type) where
  interfaceType : String
  entityDevice : Option String
  serviceID : Option String
  /-- the values that are held, with `none` for `kCFNull` -/
  unsaved : Option (Record String (Option (CFDictionary V)))

/-- The types with `per_interface_config` in `configurations` -/
def perInterfaceConfig : List String :=
  [kSCNetworkInterfaceTypeBond, kSCNetworkInterfaceTypeBridge, kSCNetworkInterfaceTypeEthernet,
    kSCNetworkInterfaceTypeFireWire, kSCNetworkInterfaceTypeIEEE80211,
    kSCNetworkInterfaceTypeVLAN, kSCNetworkInterfaceTypeLoopback]

/-- `kSCEntNetAirPort` -/
def kSCEntNetAirPort : String := "AirPort"

section

variable {π V : Type} [DecidableEq V]

/-- `__SCNetworkInterfaceGetDefaultConfigurationType` -/
def getDefaultConfigurationType (i : ConfiguredInterface V) : Option String :=
  match i.serviceID with
  | none => none
  | some _ => hardwareOf i.interfaceType

variable (lib : SetLibrary π V)

/-- `copyPerInterfaceConfigurationPaths` -/
def copyPerInterfaceConfigurationPaths (c : π) (i : ConfiguredInterface V)
    (serviceID extendedType : String) : Option (List EntityPath) :=
  match (lib.sets c).filter fun set => serviceID ∈ lib.setServices c set with
  | [] => none
  | sets => some (sets.map fun set => .setInterface set i.entityDevice extendedType)

/-- `copyConfigurationPaths` -/
def copyConfigurationPaths (c : π) (i : ConfiguredInterface V) (extendedType : String) :
    Option (List EntityPath) :=
  match findConfiguration i.interfaceType with
  | none => some [.service i.serviceID extendedType]
  | some _ =>
    if i.interfaceType ∈ perInterfaceConfig then
      match i.serviceID with
      | some serviceID => copyPerInterfaceConfigurationPaths lib c i serviceID extendedType
      | none => none
    else some [.service i.serviceID extendedType]

/-! ## Functions -/

/-- An empty dictionary counts as `NULL`. -/
def nonEmpty (config : Option (CFDictionary V)) : Option (CFDictionary V) :=
  config.filter fun d => d.keys.card ≠ 0

/-- The loop over the paths, of which those with `ok` can be written. -/
def setPaths (config : Option (CFDictionary V)) (ok : EntityPath → Bool) :
    List EntityPath → Bool × π → Bool × π
  | [], r => r
  | path :: paths, (_, c) =>
    let r := networkConfigurationSetValue lib.toPathLibrary c path (config.map .dictionary) false
      (ok path)
    if r.1 then setPaths config ok paths r else r

/-- `CFDictionaryRemoveValue` on the held values, which are released when empty -/
def removeUnsaved (i : ConfiguredInterface V) (extendedType : String) : ConfiguredInterface V :=
  { i with
    unsaved := (i.unsaved.map fun d => d.erase extendedType).filter fun d => d.keys.card ≠ 0 }

/-- `__SCNetworkInterfaceSetConfiguration` -/
def setInterfaceConfiguration (c : π) (i : ConfiguredInterface V) (extendedType : Option String)
    (config : Option (CFDictionary V)) (okToHold : Bool) (ok : EntityPath → Bool) :
    Bool × π × ConfiguredInterface V :=
  match extendedType.or (getDefaultConfigurationType i) with
  | none => (false, c, i)
  | some extendedType =>
    let config := nonEmpty config
    match copyConfigurationPaths lib c i extendedType with
    | some paths =>
      let r := setPaths lib config ok paths (false, c)
      (r.1, r.2, if r.1 then removeUnsaved i extendedType else i)
    | none =>
      if okToHold then
        (true, c, { i with unsaved := some ((i.unsaved.getD ∅).insert extendedType config) })
      else (false, c, i)

/-- `__SCNetworkInterfaceGetConfiguration` -/
def getInterfaceConfiguration (c : π) (i : ConfiguredInterface V) (extendedType : String) :
    Option (StoredValue V) :=
  let config :=
    match copyConfigurationPaths lib c i extendedType with
    | some paths =>
      paths.head?.bind fun path => networkConfigurationGetValue lib.toPathLibrary c path
    | none => ((i.unsaved.bind fun d => d.lookup extendedType).join).map .dictionary
  match config with
  | some (.dictionary d) => if d.keys.card = 0 then none else config
  | _ => config

/-- `SCNetworkInterfaceGetConfiguration` -/
def scNetworkInterfaceGetConfiguration (c : π) (i : ConfiguredInterface V) :
    Option (StoredValue V) :=
  match getDefaultConfigurationType i with
  | none => none
  | some defaultType =>
    match getInterfaceConfiguration lib c i defaultType with
    | some config => some config
    | none =>
      if defaultType = kSCEntNetAirPort then
        networkConfigurationGetValue lib.toPathLibrary c (.service i.serviceID kSCEntNetAirPort)
      else none

/-! ## All sets or none -/

/-- The dictionary at a path -/
def dictionaryAt (c : π) (path : EntityPath) : Option (CFDictionary V) :=
  (lib.get c path).bind StoredValue.dictionary?

/-- Where the configuration of an interface is: with each set that contains its service, or with
the service. -/
def InterfacePath (c : π) (i : ConfiguredInterface V) (extendedType : String) (path : EntityPath) :
    Prop :=
  if i.interfaceType ∈ perInterfaceConfig then
    ∃ set ∈ lib.sets c, (∃ serviceID ∈ i.serviceID, serviceID ∈ lib.setServices c set) ∧
      path = .setInterface set i.entityDevice extendedType
  else path = .service i.serviceID extendedType

/-- The service of an interface is in a set. -/
def InSet (c : π) (i : ConfiguredInterface V) : Prop :=
  ∃ set ∈ lib.sets c, ∃ serviceID ∈ i.serviceID, serviceID ∈ lib.setServices c set

/-- A write reaches every set and is read back, or it fails and nothing has changed. -/
structure WritesAllOrNone (c : π) (i : ConfiguredInterface V) (config : Option (CFDictionary V))
    (r : Bool × π × ConfiguredInterface V) : Prop where
  stored : r.1 = true → ∀ defaultType ∈ getDefaultConfigurationType i,
    ∀ path, InterfacePath lib c i defaultType path →
      lib.get r.2.1 path = (nonEmpty config).map .dictionary
  others : r.1 = true → ∀ defaultType ∈ getDefaultConfigurationType i,
    ∀ path, ¬ InterfacePath lib c i defaultType path → lib.get r.2.1 path = lib.get c path
  unsaved : r.1 = true → ∀ defaultType ∈ getDefaultConfigurationType i, InSet lib c i →
    (r.2.2.unsaved.bind fun d => d.lookup defaultType) = none
  read : r.1 = true →
    scNetworkInterfaceGetConfiguration lib r.2.1 r.2.2 = (nonEmpty config).map .dictionary
  unchanged : r.1 = false → ∀ path, lib.get r.2.1 path = lib.get c path

/-- A write reaches every set and is read back. Without a value there is no dictionary left, and an
AirPort interface has the configuration of its service. -/
structure WritesAll (c : π) (i : ConfiguredInterface V) (config : Option (CFDictionary V))
    (r : Bool × π × ConfiguredInterface V) : Prop where
  stored : ∀ defaultType ∈ getDefaultConfigurationType i,
    ∀ path, InterfacePath lib c i defaultType path →
      dictionaryAt lib r.2.1 path = nonEmpty config
  others : ∀ defaultType ∈ getDefaultConfigurationType i,
    ∀ path, ¬ InterfacePath lib c i defaultType path → lib.get r.2.1 path = lib.get c path
  unsaved : ∀ defaultType ∈ getDefaultConfigurationType i, InSet lib c i →
    (r.2.2.unsaved.bind fun d => d.lookup defaultType) = none
  read : scNetworkInterfaceGetConfiguration lib r.2.1 r.2.2 =
    match nonEmpty config with
    | some d => some (.dictionary d)
    | none =>
      if i.interfaceType = kSCNetworkInterfaceTypeIEEE80211 then
        networkConfigurationGetValue lib.toPathLibrary c (.service i.serviceID kSCEntNetAirPort)
      else none

/-- The paths of the default type -/
def defaultPaths (c : π) (i : ConfiguredInterface V) : List EntityPath :=
  ((getDefaultConfigurationType i).bind (copyConfigurationPaths lib c i)).getD []

/-- A write has changed the paths `done`, and the first of the `rest` could not be written. There is
no rest only where there is no path to write. -/
structure StopsAfter (c : π) (i : ConfiguredInterface V) (config : Option (CFDictionary V))
    (ok : EntityPath → Bool) (r : Bool × π × ConfiguredInterface V)
    (done rest : List EntityPath) : Prop where
  paths : defaultPaths lib c i = done ++ rest
  /-- the interface has no default type, or no service is in a set and it cannot be kept with it -/
  nothing : rest = [] → defaultPaths lib c i = []
  fails : ∀ path ∈ rest.head?, ok path = false ∧ dictionaryAt lib c path ≠ nonEmpty config
  stored : ∀ path ∈ done, dictionaryAt lib r.2.1 path = nonEmpty config
  others : ∀ path, path ∉ done → lib.get r.2.1 path = lib.get c path
  held : r.2.2 = i

/-! ## One path -/

variable {lib}

/-- **A path is written**: it holds the value and nothing else has changed, or the write failed. -/
theorem setValue_spec (hlib : lib.Lawful) (c : π) (path : EntityPath)
    (config : Option (CFDictionary V)) (ok : Bool) :
    let r := networkConfigurationSetValue lib.toPathLibrary c path (config.map .dictionary) false ok
    (r.1 = true → dictionaryAt lib r.2 path = config ∧
      ∀ other ≠ path, lib.get r.2 other = lib.get c other) ∧
    (r.1 = false → ok = false ∧ dictionaryAt lib c path ≠ config ∧ r.2 = c) := by
  intro r
  have hr : r = if dictionaryAt lib c path = config then (true, c)
      else updatePath lib.toPathLibrary c path config ok := by
    cases config <;> rfl
  rw [hr]
  split_ifs with hsame
  · exact ⟨fun _ => ⟨hsame, fun _ _ => rfl⟩, fun h => by cases h⟩
  cases config with
  | some d =>
    cases ok with
    | true =>
      refine ⟨fun _ => ⟨?_, fun other hne => hlib.get_set_of_ne c path d other hne⟩, fun h => ?_⟩
      · simp [updatePath, dictionaryAt, hlib.get_set, StoredValue.dictionary?]
      · cases h
    | false => exact ⟨fun h => (by cases h), fun _ => ⟨rfl, hsame, rfl⟩⟩
  | none =>
    by_cases hget : (lib.get c path).isNone
    · refine absurd ?_ hsame
      simp [dictionaryAt, Option.isNone_iff_eq_none.mp hget]
    simp only [updatePath, hget, Bool.false_eq_true, if_false]
    cases ok with
    | true =>
      refine ⟨fun _ => ⟨?_, fun other hne => hlib.get_remove_of_ne c path other hne⟩, fun h => ?_⟩
      · simp [dictionaryAt, hlib.get_remove]
      · cases h
    | false => exact ⟨fun h => (by cases h), fun _ => ⟨rfl, hsame, rfl⟩⟩

/-- The sets and their services stay. -/
theorem setValue_sets (hlib : lib.Lawful) (c : π) (path : EntityPath)
    (config : Option (CFDictionary V)) (ok : Bool) :
    let r := networkConfigurationSetValue lib.toPathLibrary c path (config.map .dictionary) false ok
    lib.sets r.2 = lib.sets c ∧ lib.setServices r.2 = lib.setServices c := by
  intro r
  have hr : r = if dictionaryAt lib c path = config then (true, c)
      else updatePath lib.toPathLibrary c path config ok := by
    cases config <;> rfl
  rw [hr]
  split_ifs
  · exact ⟨rfl, rfl⟩
  cases config with
  | some d =>
    simp only [updatePath]
    split_ifs
    · exact ⟨hlib.sets_set c path d, hlib.setServices_set c path d⟩
    · exact ⟨rfl, rfl⟩
  | none =>
    simp only [updatePath]
    split_ifs
    · exact ⟨rfl, rfl⟩
    · exact ⟨hlib.sets_remove c path, hlib.setServices_remove c path⟩
    · exact ⟨rfl, rfl⟩

/-! ## All paths -/

theorem setPaths_sets (hlib : lib.Lawful) (config : Option (CFDictionary V))
    (ok : EntityPath → Bool) (paths : List EntityPath) (r : Bool × π) :
    lib.sets (setPaths lib config ok paths r).2 = lib.sets r.2 ∧
      lib.setServices (setPaths lib config ok paths r).2 = lib.setServices r.2 := by
  induction paths generalizing r with
  | nil => exact ⟨rfl, rfl⟩
  | cons path paths ih =>
    have hsets := setValue_sets hlib r.2 path config (ok path)
    simp only [setPaths]
    split_ifs
    · exact ⟨(ih _).1.trans hsets.1, (ih _).2.trans hsets.2⟩
    · exact hsets

/-- **The loop writes the paths up to the first that fails.** -/
theorem setPaths_done (hlib : lib.Lawful) (config : Option (CFDictionary V))
    (ok : EntityPath → Bool) (paths : List EntityPath) (c : π) :
    let r := setPaths lib config ok paths (true, c)
    ∃ done rest, paths = done ++ rest ∧
      (∀ path ∈ done, dictionaryAt lib r.2 path = config) ∧
      (∀ path, path ∉ done → lib.get r.2 path = lib.get c path) ∧
      (r.1 = true → rest = []) ∧
      (r.1 = false → ∃ path ∈ rest.head?, ok path = false ∧ dictionaryAt lib c path ≠ config) := by
  induction paths generalizing c with
  | nil =>
    intro r
    exact ⟨[], [], rfl, by simp, fun _ _ => rfl, fun _ => rfl, fun h => by cases h⟩
  | cons path paths ih =>
    intro r
    obtain ⟨hwritten, hfailed⟩ := setValue_spec hlib c path config (ok path)
    set written := networkConfigurationSetValue lib.toPathLibrary c path
      (config.map .dictionary) false (ok path) with hw
    have hr : r = if written.1 then setPaths lib config ok paths written else written := rfl
    -- the first path is written, and the rest is up to the others; or it ends here
    by_cases hok : written.1 = true
    · obtain ⟨hpath, hother⟩ := hwritten hok
      have hpair : written = (true, written.2) := Prod.ext hok rfl
      rw [if_pos hok, hpair] at hr
      obtain ⟨done, rest, hpaths, hdone, hrest, htrue, hfalse⟩ := ih written.2
      rw [← hr] at hdone hrest htrue hfalse
      refine ⟨path :: done, rest, by rw [hpaths]; rfl, ?_, ?_, htrue, ?_⟩
      · intro p hp
        by_cases hmem : p ∈ done
        · exact hdone p hmem
        · obtain rfl : p = path := (List.mem_cons.mp hp).resolve_right hmem
          rw [dictionaryAt, hrest p hmem]
          exact hpath
      · intro p hp
        rw [List.mem_cons, not_or] at hp
        rw [hrest p hp.2, hother p hp.1]
      · intro hr1
        obtain ⟨p, hp, hokp, hne⟩ := hfalse hr1
        refine ⟨p, hp, hokp, ?_⟩
        by_cases hpp : p = path
        · subst hpp
          exact absurd hpath hne
        · rwa [dictionaryAt, ← hother p hpp]
    · rw [if_neg hok] at hr
      obtain ⟨hokp, hne, hsame⟩ := hfailed (Bool.not_eq_true _ ▸ hok)
      refine ⟨[], path :: paths, rfl, by simp, ?_, ?_, ?_⟩
      · intro p _
        rw [hr, hsame]
      · intro h
        rw [hr] at h
        exact absurd h hok
      · exact fun _ => ⟨path, rfl, hokp, hne⟩

/-- The start of the loop does not matter if there is a path. -/
theorem setPaths_start (config : Option (CFDictionary V)) (ok : EntityPath → Bool)
    {paths : List EntityPath} (hpaths : paths ≠ []) (c : π) (b : Bool) :
    setPaths lib config ok paths (b, c) = setPaths lib config ok paths (true, c) := by
  cases paths with
  | nil => exact absurd rfl hpaths
  | cons path paths => rfl

theorem perInterfaceConfig_known {interfaceType : String} (h : interfaceType ∈ perInterfaceConfig) :
    ∃ configuration, findConfiguration interfaceType = some configuration := by
  rw [← Option.isSome_iff_exists]
  revert interfaceType
  decide +kernel

omit [DecidableEq V] in
/-- What the default type of an interface with per-interface configurations is looked up in. -/
theorem copyConfigurationPaths_cases (lib : SetLibrary π V) (c : π) (i : ConfiguredInterface V)
    (extendedType : String) :
    (i.interfaceType ∈ perInterfaceConfig ∧
      copyConfigurationPaths lib c i extendedType =
        i.serviceID.bind fun serviceID =>
          copyPerInterfaceConfigurationPaths lib c i serviceID extendedType) ∨
    (i.interfaceType ∉ perInterfaceConfig ∧
      copyConfigurationPaths lib c i extendedType = some [.service i.serviceID extendedType]) := by
  by_cases hper : i.interfaceType ∈ perInterfaceConfig
  · obtain ⟨configuration, hfind⟩ := perInterfaceConfig_known hper
    refine .inl ⟨hper, ?_⟩
    simp only [copyConfigurationPaths, hfind, if_pos hper]
    cases i.serviceID <;> rfl
  · refine .inr ⟨hper, ?_⟩
    simp only [copyConfigurationPaths, if_neg hper]
    split <;> rfl

omit [DecidableEq V] in
theorem copyConfigurationPaths_ne_nil {c : π} {i : ConfiguredInterface V} {extendedType : String}
    {paths : List EntityPath} (h : copyConfigurationPaths lib c i extendedType = some paths) :
    paths ≠ [] := by
  rcases copyConfigurationPaths_cases lib c i extendedType with ⟨-, hcopy⟩ | ⟨-, hcopy⟩
  · rw [hcopy, Option.bind_eq_some_iff] at h
    obtain ⟨serviceID, -, hcopy⟩ := h
    simp only [copyPerInterfaceConfigurationPaths] at hcopy
    split at hcopy
    · cases hcopy
    next sets hsets =>
      obtain rfl := Option.some.inj hcopy
      intro hnil
      exact hsets (List.map_eq_nil_iff.mp hnil)
  · obtain rfl := Option.some.inj (hcopy.symm.trans h)
    exact List.cons_ne_nil _ _

omit [DecidableEq V] in
/-- The paths are those of the interface. -/
theorem mem_copyConfigurationPaths (lib : SetLibrary π V) (c : π) (i : ConfiguredInterface V)
    (extendedType : String) (path : EntityPath) :
    path ∈ (copyConfigurationPaths lib c i extendedType).getD [] ↔
      InterfacePath lib c i extendedType path := by
  rcases copyConfigurationPaths_cases lib c i extendedType with ⟨hper, hcopy⟩ | ⟨hper, hcopy⟩
  · rw [InterfacePath, if_pos hper, hcopy]
    cases i.serviceID with
    | none => simp
    | some serviceID =>
      have hgetD : (copyPerInterfaceConfigurationPaths lib c i serviceID extendedType).getD [] =
          ((lib.sets c).filter fun set => serviceID ∈ lib.setServices c set).map
            fun set => .setInterface set i.entityDevice extendedType := by
        simp only [copyPerInterfaceConfigurationPaths]
        split
        next hnil =>
          rw [hnil]
          rfl
        · rfl
      rw [Option.bind_some, hgetD]
      simp [and_assoc, eq_comm]
  · rw [InterfacePath, if_neg hper, hcopy]
    simp

omit [DecidableEq V] in
/-- Without paths the service is in no set. -/
theorem not_inSet_of_paths {c : π} {i : ConfiguredInterface V} {extendedType : String}
    (h : copyConfigurationPaths lib c i extendedType = none) : ¬ InSet lib c i := by
  rcases copyConfigurationPaths_cases lib c i extendedType with ⟨hper, -⟩ | ⟨-, hcopy⟩
  · rintro ⟨set, hset, hservice⟩
    have hmem := (mem_copyConfigurationPaths lib c i extendedType
      (.setInterface set i.entityDevice extendedType)).mpr
      (by rw [InterfacePath, if_pos hper]; exact ⟨set, hset, hservice, rfl⟩)
    rw [h] at hmem
    cases hmem
  · rw [hcopy] at h
    cases h

/-! ## Reading back -/

omit [DecidableEq V] in
theorem isEffectivelyEmpty_of_none {config : Option (StoredValue V)}
    (h : config.bind StoredValue.dictionary? = none) :
    isEffectivelyEmptyConfiguration config = true := by
  rw [isEffectivelyEmptyConfiguration, h]
  rfl

omit [DecidableEq V] in
theorem isEffectivelyEmpty_dictionary {d : CFDictionary V} (hcard : d.keys.card ≠ 0)
    (hactive : kSCResvInactive ∉ d) :
    isEffectivelyEmptyConfiguration (some (StoredValue.dictionary d)) = false := by
  simp only [isEffectivelyEmptyConfiguration, Option.bind_some, StoredValue.dictionary?,
    Option.map_some]
  split
  · contradiction
  next heq =>
    obtain ⟨-, hzero⟩ := Prod.mk.inj (Option.some.inj heq)
    exact absurd hzero hcard
  next heq =>
    obtain ⟨rfl, -⟩ := Prod.mk.inj (Option.some.inj heq)
    exact decide_eq_false hactive
  · rfl

omit [DecidableEq V] in
theorem get_eq_of_dictionaryAt {c : π} {path : EntityPath} {d : CFDictionary V}
    (h : dictionaryAt lib c path = some d) : lib.get c path = some (.dictionary d) := by
  obtain ⟨v, hget, hv⟩ := Option.bind_eq_some_iff.mp h
  cases v with
  | dictionary d' =>
    obtain rfl := Option.some.inj hv
    exact hget
  | other v => cases hv

omit [DecidableEq V] in
/-- What is read of a value without the mark. -/
theorem getValue_of_dictionaryAt {c : π} {path : EntityPath} {config : Option (CFDictionary V)}
    (hstored : dictionaryAt lib c path = nonEmpty config)
    (hactive : ∀ d ∈ config, kSCResvInactive ∉ d) :
    networkConfigurationGetValue lib.toPathLibrary c path =
      (nonEmpty config).map .dictionary := by
  simp only [networkConfigurationGetValue]
  cases hvalue : nonEmpty config with
  | none =>
    rw [hvalue] at hstored
    rw [isEffectivelyEmpty_of_none hstored]
    rfl
  | some d =>
    obtain ⟨hd, hcard⟩ := Option.filter_eq_some_iff.mp hvalue
    rw [hvalue] at hstored
    rw [get_eq_of_dictionaryAt hstored,
      isEffectivelyEmpty_dictionary (of_decide_eq_true hcard) (hactive d hd)]
    rfl

omit [DecidableEq V] in
/-- What `__SCNetworkInterfaceGetConfiguration` gives of it. -/
theorem getInterfaceConfiguration_of_stored {c : π} {i : ConfiguredInterface V}
    {extendedType : String} {paths : List EntityPath} {config : Option (CFDictionary V)}
    (hpaths : copyConfigurationPaths lib c i extendedType = some paths)
    (hstored : ∀ path ∈ paths, dictionaryAt lib c path = nonEmpty config)
    (hactive : ∀ d ∈ config, kSCResvInactive ∉ d) :
    getInterfaceConfiguration lib c i extendedType = (nonEmpty config).map .dictionary := by
  obtain ⟨path, rest, rfl⟩ := List.exists_cons_of_ne_nil (copyConfigurationPaths_ne_nil hpaths)
  simp only [getInterfaceConfiguration, hpaths, List.head?_cons, Option.bind_some,
    getValue_of_dictionaryAt (hstored path List.mem_cons_self) hactive]
  cases hvalue : nonEmpty config with
  | none => rfl
  | some d =>
    have hcard := (Option.filter_eq_some_iff.mp hvalue).2
    simpa using hcard

/-- The types with an AirPort configuration -/
theorem airPort_cases {interfaceType : String}
    (h : hardwareOf interfaceType = some kSCEntNetAirPort) :
    interfaceType = kSCNetworkInterfaceTypeIEEE80211 ∨
      interfaceType = kSCEntNetAirPort ∧ interfaceType ∉ perInterfaceConfig := by
  have hall : ∀ row ∈ configurations, row.2.entityHardware = some kSCEntNetAirPort →
      row.1 = kSCNetworkInterfaceTypeIEEE80211 := by decide
  simp only [hardwareOf] at h
  cases hfind : findConfiguration interfaceType with
  | some configuration =>
    rw [hfind] at h
    obtain ⟨before, after, heq, -⟩ := List.lookup_eq_some_iff.mp hfind
    exact .inl (hall _ (heq ▸ List.mem_append_right before List.mem_cons_self) h)
  | none =>
    rw [hfind] at h
    refine .inr ⟨Option.some.inj h, fun hper => ?_⟩
    obtain ⟨configuration, hsome⟩ := perInterfaceConfig_known hper
    rw [hfind] at hsome
    cases hsome

theorem hardwareOf_ieee80211 :
    hardwareOf kSCNetworkInterfaceTypeIEEE80211 = some kSCEntNetAirPort := by
  decide +kernel

omit [DecidableEq V] in
/-- Reading the default type, when nothing but the configuration of AirPort interfaces is looked
for elsewhere. -/
theorem scGetConfiguration_eq {c c' : π} {i i' : ConfiguredInterface V} {defaultType : String}
    {config : Option (CFDictionary V)} (htype : getDefaultConfigurationType i = some defaultType)
    (htype' : i'.interfaceType = i.interfaceType) (hservice : i'.serviceID = i.serviceID)
    (hget : getInterfaceConfiguration lib c' i' defaultType = (nonEmpty config).map .dictionary)
    (hstored : ∀ path, InterfacePath lib c i defaultType path →
      dictionaryAt lib c' path = nonEmpty config)
    (hother : ∀ path, ¬ InterfacePath lib c i defaultType path → lib.get c' path = lib.get c path) :
    scNetworkInterfaceGetConfiguration lib c' i' =
      match nonEmpty config with
      | some d => some (.dictionary d)
      | none =>
        if i.interfaceType = kSCNetworkInterfaceTypeIEEE80211 then
          networkConfigurationGetValue lib.toPathLibrary c (.service i.serviceID kSCEntNetAirPort)
        else none := by
  have hdefault : getDefaultConfigurationType i' = some defaultType := by
    rw [← htype, getDefaultConfigurationType, getDefaultConfigurationType, htype', hservice]
  have hhardware : hardwareOf i.interfaceType = some defaultType := by
    rw [getDefaultConfigurationType] at htype
    split at htype
    · cases htype
    · exact htype
  simp only [scNetworkInterfaceGetConfiguration, hdefault, hget, hservice]
  cases hvalue : nonEmpty config with
  | some d => rfl
  | none =>
    rw [hvalue] at hstored
    simp only [Option.map_none]
    by_cases hieee : i.interfaceType = kSCNetworkInterfaceTypeIEEE80211
    · have hair : defaultType = kSCEntNetAirPort := by
        rw [hieee, hardwareOf_ieee80211] at hhardware
        exact (Option.some.inj hhardware).symm
      have hnot : ¬ InterfacePath lib c i defaultType (.service i.serviceID kSCEntNetAirPort) := by
        rw [InterfacePath, if_pos (by rw [hieee]; decide)]
        rintro ⟨set, -, -, heq⟩
        cases heq
      rw [if_pos hieee, if_pos hair]
      simp only [networkConfigurationGetValue, hother _ hnot]
    · rw [if_neg hieee]
      split_ifs with hair
      · rw [hair] at hhardware
        obtain ⟨-, hper⟩ := (airPort_cases hhardware).resolve_left hieee
        have hpath : InterfacePath lib c i defaultType (.service i.serviceID kSCEntNetAirPort) := by
          rw [InterfacePath, if_neg hper, hair]
        have hnone := hstored _ hpath
        simp only [dictionaryAt] at hnone
        simp only [networkConfigurationGetValue, isEffectivelyEmptyConfiguration, hnone,
          Option.map_none, if_true]
      · rfl

/-! ## The write -/

omit [DecidableEq V] in
/-- The paths do not depend on configurations. -/
theorem copyConfigurationPaths_congr {c c' : π} {i i' : ConfiguredInterface V}
    (hsets : lib.sets c' = lib.sets c) (hservices : lib.setServices c' = lib.setServices c)
    (htype : i'.interfaceType = i.interfaceType) (hdevice : i'.entityDevice = i.entityDevice)
    (hservice : i'.serviceID = i.serviceID) (extendedType : String) :
    copyConfigurationPaths lib c' i' extendedType =
      copyConfigurationPaths lib c i extendedType := by
  simp only [copyConfigurationPaths, copyPerInterfaceConfigurationPaths, hsets, hservices, htype,
    hdevice, hservice]

omit [DecidableEq V] in
theorem lookup_removeUnsaved (i : ConfiguredInterface V) (extendedType : String) :
    ((removeUnsaved i extendedType).unsaved.bind fun d => d.lookup extendedType) = none := by
  cases hunsaved : (removeUnsaved i extendedType).unsaved with
  | none => rfl
  | some d =>
    obtain ⟨hmap, -⟩ := Option.filter_eq_some_iff.mp hunsaved
    obtain ⟨held, -, rfl⟩ := Option.map_eq_some_iff.mp hmap
    exact Finmap.lookup_erase extendedType held

omit [DecidableEq V] in
/-- A value is held. -/
theorem setUnsaved_writes {c : π} {i : ConfiguredInterface V} {defaultType : String}
    (htype : getDefaultConfigurationType i = some defaultType)
    (hpaths : copyConfigurationPaths lib c i defaultType = none)
    (config : Option (CFDictionary V)) :
    WritesAll lib c i config (true, c, { i with
      unsaved := some ((i.unsaved.getD ∅).insert defaultType (nonEmpty config)) }) := by
  have hno : ∀ path, ¬ InterfacePath lib c i defaultType path := fun path hpath => by
    rw [← mem_copyConfigurationPaths, hpaths] at hpath
    cases hpath
  refine ⟨?_, fun _ _ _ _ => rfl, ?_, ?_⟩
  · intro t ht path hpath
    obtain rfl := Option.some.inj (htype.symm.trans ht)
    exact absurd hpath (hno path)
  · intro t ht hset
    exact absurd hset (not_inSet_of_paths hpaths)
  · refine scGetConfiguration_eq htype rfl rfl ?_ (fun path hpath => absurd hpath (hno path))
      (fun _ _ => rfl)
    have hcopy : copyConfigurationPaths lib c { i with
        unsaved := some ((i.unsaved.getD ∅).insert defaultType (nonEmpty config)) } defaultType =
        none :=
      (copyConfigurationPaths_congr rfl rfl rfl rfl rfl defaultType).trans hpaths
    simp only [getInterfaceConfiguration, hcopy, Option.bind_some, Finmap.lookup_insert,
      Option.join_some]
    cases hvalue : nonEmpty config with
    | none => rfl
    | some d =>
      have hcard := (Option.filter_eq_some_iff.mp hvalue).2
      simpa using hcard

/-- All paths were written. -/
theorem setPaths_writes (hlib : lib.Lawful) {c : π} {i : ConfiguredInterface V}
    {defaultType : String} (htype : getDefaultConfigurationType i = some defaultType)
    {paths : List EntityPath} (hpaths : copyConfigurationPaths lib c i defaultType = some paths)
    {config : Option (CFDictionary V)} (hactive : ∀ d ∈ config, kSCResvInactive ∉ d)
    {ok : EntityPath → Bool} (hok : (setPaths lib (nonEmpty config) ok paths (true, c)).1 = true) :
    WritesAll lib c i config
      (true, (setPaths lib (nonEmpty config) ok paths (true, c)).2,
        removeUnsaved i defaultType) := by
  obtain ⟨done, rest, happend, hdone, hrest, htrue, -⟩ :=
    setPaths_done hlib (nonEmpty config) ok paths c
  obtain ⟨hsets, hservices⟩ := setPaths_sets hlib (nonEmpty config) ok paths (true, c)
  obtain rfl : paths = done := by rw [happend, htrue hok, List.append_nil]
  set run := setPaths lib (nonEmpty config) ok paths (true, c)
  have hmem : ∀ path, InterfacePath lib c i defaultType path ↔ path ∈ paths := fun path => by
    rw [← mem_copyConfigurationPaths, hpaths]
    rfl
  have hstored : ∀ path, InterfacePath lib c i defaultType path →
      dictionaryAt lib run.2 path = nonEmpty config :=
    fun path hpath => hdone path ((hmem path).mp hpath)
  have hother : ∀ path, ¬ InterfacePath lib c i defaultType path →
      lib.get run.2 path = lib.get c path :=
    fun path hpath => hrest path (mt (hmem path).mpr hpath)
  have hcopy : copyConfigurationPaths lib run.2 (removeUnsaved i defaultType) defaultType =
      some paths :=
    (copyConfigurationPaths_congr hsets hservices rfl rfl rfl defaultType).trans hpaths
  refine ⟨?_, ?_, ?_, ?_⟩
  · intro t ht
    obtain rfl := Option.some.inj (htype.symm.trans ht)
    exact hstored
  · intro t ht
    obtain rfl := Option.some.inj (htype.symm.trans ht)
    exact hother
  · intro t ht _
    obtain rfl := Option.some.inj (htype.symm.trans ht)
    exact lookup_removeUnsaved i defaultType
  · exact scGetConfiguration_eq htype rfl rfl
      (getInterfaceConfiguration_of_stored hcopy hdone hactive) hstored hother

omit [DecidableEq V] in
/-- Nothing was written. -/
theorem stopsAfter_nil {c : π} {i : ConfiguredInterface V} (hpaths : defaultPaths lib c i = [])
    (config : Option (CFDictionary V)) (ok : EntityPath → Bool) :
    StopsAfter lib c i config ok (false, c, i) [] [] :=
  ⟨hpaths, fun _ => hpaths, by simp, by simp, fun _ _ => rfl, rfl⟩

/-- **A write reaches every set and is read back, or stops at the first path that fails.** -/
theorem setInterfaceConfiguration_writes (hlib : lib.Lawful) (c : π) (i : ConfiguredInterface V)
    (config : Option (CFDictionary V)) (hactive : ∀ d ∈ config, kSCResvInactive ∉ d)
    (okToHold : Bool) (ok : EntityPath → Bool) :
    let r := setInterfaceConfiguration lib c i none config okToHold ok
    (r.1 = true → WritesAll lib c i config r) ∧
      (r.1 = false → ∃ done rest, StopsAfter lib c i config ok r done rest) := by
  intro r
  cases htype : getDefaultConfigurationType i with
  | none =>
    have hr : r = (false, c, i) := by
      simp only [r, setInterfaceConfiguration, htype, Option.or_none]
    rw [hr]
    -- no type, so nothing has been tried
    exact ⟨nofun, fun _ => ⟨[], [], stopsAfter_nil (by simp [defaultPaths, htype]) config ok⟩⟩
  | some defaultType =>
    cases hpaths : copyConfigurationPaths lib c i defaultType with
    | none =>
      cases okToHold with
      | true =>
        have hr : r = (true, c, { i with
            unsaved := some ((i.unsaved.getD ∅).insert defaultType (nonEmpty config)) }) := by
          simp only [r, setInterfaceConfiguration, htype, Option.none_or, hpaths, if_true]
        rw [hr]
        exact ⟨fun _ => setUnsaved_writes htype hpaths config, nofun⟩
      | false =>
        have hr : r = (false, c, i) := by
          simp only [r, setInterfaceConfiguration, htype, Option.none_or, hpaths, if_false,
            Bool.false_eq_true]
        rw [hr]
        exact ⟨nofun,
          fun _ => ⟨[], [], stopsAfter_nil (by simp [defaultPaths, htype, hpaths]) config ok⟩⟩
    | some paths =>
      have hr : r = ((setPaths lib (nonEmpty config) ok paths (true, c)).1,
          (setPaths lib (nonEmpty config) ok paths (true, c)).2,
          if (setPaths lib (nonEmpty config) ok paths (true, c)).1 then removeUnsaved i defaultType
          else i) := by
        simp only [r, setInterfaceConfiguration, htype, Option.none_or, hpaths,
          setPaths_start (nonEmpty config) ok (copyConfigurationPaths_ne_nil hpaths) c false]
      rw [hr]
      cases hok : (setPaths lib (nonEmpty config) ok paths (true, c)).1 with
      | true => exact ⟨fun _ => setPaths_writes hlib htype hpaths hactive hok, nofun⟩
      | false =>
        -- the first path that fails is the last that has been tried
        obtain ⟨done, rest, happend, hdone, hrest, -, hfalse⟩ :=
          setPaths_done hlib (nonEmpty config) ok paths c
        obtain ⟨path, hpath, hfails⟩ := hfalse hok
        refine ⟨nofun, fun _ => ⟨done, rest, ?_, ?_, ?_, hdone, hrest, rfl⟩⟩
        · simp [defaultPaths, htype, hpaths, happend]
        · rintro rfl
          cases hpath
        · intro p hp
          obtain rfl := Option.some.inj (hp.symm.trans hpath)
          exact hfails

end

/-! ## Two sets -/

/-- Two sets with one service, and a store of dictionaries -/
def twoSets : SetLibrary (EntityPath → Option (StoredValue Bool)) Bool where
  get c path := c path
  set c path d := Function.update c path (some (.dictionary d))
  remove c path := Function.update c path none
  kCFBooleanTrue := true
  sets _ := ["Home", "Work"]
  setServices _ _ := ["0"]

theorem twoSets_lawful : twoSets.Lawful where
  get_set _ _ _ := Function.update_self ..
  get_set_of_ne _ _ _ _ hne := Function.update_of_ne hne ..
  get_remove _ _ := Function.update_self ..
  get_remove_of_ne _ _ _ hne := Function.update_of_ne hne ..
  sets_set _ _ _ := rfl
  sets_remove _ _ := rfl
  setServices_set _ _ _ := rfl
  setServices_remove _ _ := rfl

/-- The Ethernet interface of the service -/
def twoSetsInterface : ConfiguredInterface Bool :=
  ⟨kSCNetworkInterfaceTypeEthernet, some "en0", some "0", none⟩

/-- Only the first set can be written. -/
def firstSetOnly (path : EntityPath) : Bool :=
  decide (path = .setInterface "Home" (some "en0") "Ethernet")

/-- The first set has changed although the write has failed. -/
theorem not_writesAllOrNone :
    ¬ WritesAllOrNone twoSets (fun _ => none) twoSetsInterface (some (Finmap.singleton "MTU" true))
      (setInterfaceConfiguration twoSets (fun _ => none) twoSetsInterface none
        (some (Finmap.singleton "MTU" true)) false firstSetOnly) := by
  intro h
  have hget := h.unchanged (by decide +kernel) (.setInterface "Home" (some "en0") "Ethernet")
  revert hget
  decide +kernel

/-- A value is stored with both sets. -/
theorem setInterfaceConfiguration_writes_both :
    let r := setInterfaceConfiguration twoSets (fun _ => none) twoSetsInterface none
      (some (Finmap.singleton "MTU" true)) false (fun _ => true)
    (r.1 = true → WritesAll twoSets (fun _ => none) twoSetsInterface
      (some (Finmap.singleton "MTU" true)) r) ∧
    (r.1 = false → ∃ done rest, StopsAfter twoSets (fun _ => none) twoSetsInterface
      (some (Finmap.singleton "MTU" true)) (fun _ => true) r done rest) :=
  setInterfaceConfiguration_writes twoSets_lawful (fun _ => none) twoSetsInterface
    (some (Finmap.singleton "MTU" true))
    (fun d hd => by
      obtain rfl := Option.some.inj hd
      rw [Finmap.mem_singleton]
      decide)
    false (fun _ => true)

end ConfigdExtra
