import ConfigdExtra.InterfaceConfiguration

/-!
# The configuration of all layers

The configuration of an interface is copied with that of the interfaces that it is layered on, and
is set again when its service has been added to a set.

* `EntityLibrary` — the preferences, with the types that are stored for an interface of a set.
* `extendedConfigurationTypes`, `copyDeepConfiguration`, `setDeepConfiguration` — the functions of
  these names.
* `SetsTypes` — what setting some types of one interface does.
* `setLayer_setsTypes` — setting a layer sets its types.
-/

namespace ConfigdExtra

open DeferredEdits

/-- The preferences, with the types that are stored for the interfaces of a set. -/
structure EntityLibrary (π V : Type) extends SetLibrary π V where
  /-- the keys of the dictionary of an interface in a set -/
  interfaceTypes : π → String → Option String → Finset String

/-- What is documented about them: values at paths are dictionaries, and a type is stored by its
path alone. -/
structure EntityLibrary.Lawful {π V : Type} (lib : EntityLibrary π V) : Prop
    extends toSetLawful : SetLibrary.Lawful lib.toSetLibrary where
  get_dictionary : ∀ c path v, lib.get c path ≠ some (.other v)
  interfaceTypes_set : ∀ c path d set device t, path ≠ .setInterface set device t →
    (t ∈ lib.interfaceTypes (lib.set c path d) set device ↔ t ∈ lib.interfaceTypes c set device)
  interfaceTypes_remove : ∀ c path set device t, path ≠ .setInterface set device t →
    (t ∈ lib.interfaceTypes (lib.remove c path) set device ↔ t ∈ lib.interfaceTypes c set device)

section

variable {π V : Type} [DecidableEq V] (lib : EntityLibrary π V)

/-! ## Functions -/

/-- `extendedConfigurationTypes`, by name; those of a dictionary are applied to in any order -/
def extendedConfigurationTypes (c : π) (i : ConfiguredInterface V) : Option (List String) :=
  (getDefaultConfigurationType i).map fun defaultType =>
    match i.serviceID with
    | none => []
    | some serviceID =>
      if i.interfaceType ∈ perInterfaceConfig then
        match (lib.sets c).find? fun set => serviceID ∈ lib.setServices c set with
        | none => []
        | some set =>
          ((lib.interfaceTypes c set i.entityDevice ∪ (i.unsaved.getD ∅).keys).erase
            defaultType).sort (· ≤ ·)
      else []

/-- What is held for a type, with `none` for `kCFNull` -/
def heldAt (i : ConfiguredInterface V) (t : String) : Option (Option (CFDictionary V)) :=
  i.unsaved.bind fun d => d.lookup t

/-- `__SCNetworkInterfaceGetDefaultConfiguration` of a set -/
def getDefaultConfiguration (c : π) (set : String) (i : ConfiguredInterface V) :
    Option (StoredValue V) :=
  match getDefaultConfigurationType i with
  | none => none
  | some defaultType =>
    let config :=
      match networkConfigurationGetValue lib.toPathLibrary c
          (.setInterface set i.entityDevice defaultType) with
      | some config => some config
      -- the set has no configuration
      | none => (heldAt i defaultType).join.map .dictionary
    match config with
    | some (.dictionary d) => if d.keys.card = 0 then none else config
    | _ => config

/-- A layer of `__SCNetworkInterfaceCopyDeepConfiguration`, with `none` for `kCFNull` -/
def copyLayer (set : Option String) (c : π) (i : ConfiguredInterface V) :
    Record String (Option (CFDictionary V)) :=
  match getDefaultConfigurationType i with
  | none => ∅
  | some defaultType =>
    let config :=
      match set with
      | none => getInterfaceConfiguration lib.toSetLibrary c i defaultType
      | some set => getDefaultConfiguration lib c set i
    ((extendedConfigurationTypes lib c i).getD []).foldl
      (fun r t => r.insert t
        ((getInterfaceConfiguration lib.toSetLibrary c i t).bind StoredValue.dictionary?))
      (Finmap.singleton defaultType (config.bind StoredValue.dictionary?))

/-- `__SCNetworkInterfaceCopyDeepConfiguration`, of an interface and those below it -/
def copyDeepConfiguration (set : Option String) (c : π) (layers : List (ConfiguredInterface V)) :
    List (Record String (Option (CFDictionary V))) :=
  layers.map (copyLayer lib set c)

/-- `__SCNetworkInterfaceSetDefaultConfiguration` of a set -/
def setDefaultConfiguration (c : π) (set : String) (i : ConfiguredInterface V)
    (defaultType : String) (config : Option (CFDictionary V)) (ok : EntityPath → Bool) :
    Bool × π × ConfiguredInterface V :=
  let path := .setInterface set i.entityDevice defaultType
  let r := networkConfigurationSetValue lib.toPathLibrary c path
    ((nonEmpty config).map .dictionary) false (ok path)
  (r.1, r.2, if r.1 then removeUnsaved i defaultType else i)

/-- The configuration of a type that was copied. -/
def copiedValue (config : Option (Record String (Option (CFDictionary V)))) (t : String) :
    Option (CFDictionary V) :=
  (config.bind fun r => r.lookup t).join

/-- The loop over some types. -/
def setTypes (ok : EntityPath → Bool) (value : String → Option (CFDictionary V))
    (ts : List String) (s : π × ConfiguredInterface V) : π × ConfiguredInterface V :=
  ts.foldl
    (fun s t => (setInterfaceConfiguration lib.toSetLibrary s.1 s.2 (some t) (value t) true ok).2) s

/-- A layer of `__SCNetworkInterfaceSetDeepConfiguration` -/
def setLayer (set : Option String) (ok : EntityPath → Bool) (c : π) (i : ConfiguredInterface V)
    (config : Option (Record String (Option (CFDictionary V)))) : π × ConfiguredInterface V :=
  match getDefaultConfigurationType i with
  | none => (c, i)
  | some defaultType =>
    let value := copiedValue config
    let r :=
      match set with
      -- the service is not associated with the set
      | none => setInterfaceConfiguration lib.toSetLibrary c i (some defaultType)
          (value defaultType) true ok
      | some set => setDefaultConfiguration lib c set i defaultType (value defaultType) ok
    setTypes lib ok value ((extendedConfigurationTypes lib r.2.1 r.2.2).getD []) r.2

/-- `__SCNetworkInterfaceSetDeepConfiguration` -/
def setDeepConfiguration (set : Option String) (ok : EntityPath → Bool) :
    π → List (ConfiguredInterface V) → Option (List (Record String (Option (CFDictionary V)))) →
      π × List (ConfiguredInterface V)
  | c, [], _ => (c, [])
  | c, i :: layers, configs =>
    let r := setLayer lib set ok c i (configs.bind List.head?)
    let rest := setDeepConfiguration set ok r.1 layers (configs.map List.tail)
    (rest.1, r.2 :: rest.2)

/-! ## Types of one interface -/

/-- The paths of a type -/
def typePaths (c : π) (i : ConfiguredInterface V) (t : String) : List EntityPath :=
  (copyConfigurationPaths lib.toSetLibrary c i t).getD []

/-- The types that are copied and set. -/
def configurationTypes (c : π) (i : ConfiguredInterface V) : List String :=
  match getDefaultConfigurationType i with
  | none => []
  | some defaultType => defaultType :: (extendedConfigurationTypes lib c i).getD []

/-- Two interfaces are alike, up to what they hold. -/
structure SameInterface (i i' : ConfiguredInterface V) : Prop where
  interfaceType : i'.interfaceType = i.interfaceType
  entityDevice : i'.entityDevice = i.entityDevice
  serviceID : i'.serviceID = i.serviceID

/-- Some types of an interface are set, and nothing else is. -/
structure SetsTypes (ok : EntityPath → Bool) (value : String → Option (CFDictionary V))
    (c : π) (i : ConfiguredInterface V) (ts : List String) (c' : π)
    (i' : ConfiguredInterface V) : Prop where
  same : SameInterface i i'
  sets : lib.sets c' = lib.sets c
  setServices : lib.setServices c' = lib.setServices c
  interfaceTypes : ∀ set device t', (∀ t ∈ ts, .setInterface set device t' ∉ typePaths lib c i t) →
    (t' ∈ lib.interfaceTypes c' set device ↔ t' ∈ lib.interfaceTypes c set device)
  /-- a value is set, or what was there stays -/
  either : ∀ t ∈ ts, ∀ path ∈ typePaths lib c i t,
    dictionaryAt lib.toSetLibrary c' path = value t ∨ lib.get c' path = lib.get c path
  stored : ∀ t ∈ ts, (∀ path ∈ typePaths lib c i t, ok path = true) →
    ∀ path ∈ typePaths lib c i t, dictionaryAt lib.toSetLibrary c' path = value t
  others : ∀ path, (∀ t ∈ ts, path ∉ typePaths lib c i t) → lib.get c' path = lib.get c path
  held : ∀ t ∈ ts, copyConfigurationPaths lib.toSetLibrary c i t = none →
    heldAt i' t = some (value t)
  heldOthers : ∀ t, t ∉ ts → heldAt i' t = heldAt i t

variable {lib}

omit [DecidableEq V] in
theorem SameInterface.refl (i : ConfiguredInterface V) : SameInterface i i := ⟨rfl, rfl, rfl⟩

omit [DecidableEq V] in
theorem SameInterface.trans {i i' i'' : ConfiguredInterface V} (h : SameInterface i i')
    (h' : SameInterface i' i'') : SameInterface i i'' :=
  ⟨h'.1.trans h.1, h'.2.trans h.2, h'.3.trans h.3⟩

omit [DecidableEq V] in
theorem SameInterface.defaultType {i i' : ConfiguredInterface V} (h : SameInterface i i') :
    getDefaultConfigurationType i' = getDefaultConfigurationType i := by
  rw [getDefaultConfigurationType, getDefaultConfigurationType, h.interfaceType, h.serviceID]

omit [DecidableEq V] in
/-- The paths of an interface do not depend on configurations. -/
theorem SameInterface.paths {c c' : π} {i i' : ConfiguredInterface V} (h : SameInterface i i')
    (hsets : lib.sets c' = lib.sets c) (hservices : lib.setServices c' = lib.setServices c)
    (t : String) :
    copyConfigurationPaths lib.toSetLibrary c' i' t =
      copyConfigurationPaths lib.toSetLibrary c i t :=
  copyConfigurationPaths_congr hsets hservices h.interfaceType h.entityDevice h.serviceID t

omit [DecidableEq V] in
/-- A path is of one type. -/
theorem typePaths_type {c : π} {i : ConfiguredInterface V} {t t' : String} {path : EntityPath}
    (h : path ∈ typePaths lib c i t) (h' : path ∈ typePaths lib c i t') : t = t' := by
  rw [typePaths, mem_copyConfigurationPaths, InterfacePath] at h h'
  split_ifs at h h'
  · obtain ⟨_, -, -, rfl⟩ := h
    obtain ⟨_, -, -, heq⟩ := h'
    cases heq
    rfl
  · rw [h] at h'
    cases h'
    rfl

omit [DecidableEq V] in
theorem heldAt_removeUnsaved (i : ConfiguredInterface V) {t t' : String} (hne : t' ≠ t) :
    heldAt (removeUnsaved i t) t' = heldAt i t' := by
  rw [heldAt, heldAt, removeUnsaved]
  cases hunsaved : i.unsaved with
  | none => rfl
  | some held =>
    have hlookup := Finmap.lookup_erase_ne (s := held) hne
    by_cases hcard : (held.erase t).keys.card = 0
    · -- nothing else was held
      have hnone : (held.erase t).lookup t' = none := by
        rw [Finmap.lookup_eq_none, Finmap.mem_keys.symm.not,
          Finset.card_eq_zero.mp hcard]
        exact Finset.notMem_empty t'
      rw [Option.map_some, Option.filter_some, if_neg (by simpa using hcard), Option.bind_none,
        Option.bind_some, ← hlookup, hnone]
    · rw [Option.map_some, Option.filter_some, if_pos (by simpa using hcard), Option.bind_some,
        Option.bind_some, hlookup]

/-- What is written at a path: nothing, a dictionary, or its removal. -/
theorem setValue_cases (lib : SetLibrary π V) (c : π) (path : EntityPath)
    (config : Option (CFDictionary V)) (ok : Bool) :
    let r := networkConfigurationSetValue lib.toPathLibrary c path (config.map .dictionary) false ok
    r.2 = c ∨ (∃ d, r.2 = lib.set c path d) ∨ r.2 = lib.remove c path := by
  intro r
  have hr : r = if dictionaryAt lib c path = config then (true, c)
      else updatePath lib.toPathLibrary c path config ok := by
    cases config <;> rfl
  rw [hr]
  split_ifs
  · exact .inl rfl
  cases config with
  | some d =>
    rw [updatePath]
    split_ifs
    · exact .inr (.inl ⟨d, rfl⟩)
    · exact .inl rfl
  | none =>
    simp only [updatePath]
    split_ifs
    · exact .inl rfl
    · exact .inr (.inr rfl)
    · exact .inl rfl

/-- Other types of an interface stay stored as they are. -/
theorem setPaths_interfaceTypes (hlib : lib.Lawful) (config : Option (CFDictionary V))
    (ok : EntityPath → Bool) (paths : List EntityPath) (r : Bool × π) {set : String}
    {device : Option String} {t : String} (hnot : .setInterface set device t ∉ paths) :
    t ∈ lib.interfaceTypes (setPaths lib.toSetLibrary config ok paths r).2 set device ↔
      t ∈ lib.interfaceTypes r.2 set device := by
  induction paths generalizing r with
  | nil => exact Iff.rfl
  | cons path paths ih =>
    rw [List.mem_cons, not_or] at hnot
    have hwritten : t ∈ lib.interfaceTypes (networkConfigurationSetValue lib.toPathLibrary r.2 path
        (config.map .dictionary) false (ok path)).2 set device ↔
        t ∈ lib.interfaceTypes r.2 set device := by
      obtain hr | ⟨d, hr⟩ | hr := setValue_cases lib.toSetLibrary r.2 path config (ok path)
      · rw [hr]
      · rw [hr]
        exact hlib.interfaceTypes_set r.2 path d set device t (Ne.symm hnot.1)
      · rw [hr]
        exact hlib.interfaceTypes_remove r.2 path set device t (Ne.symm hnot.1)
    simp only [setPaths]
    split_ifs
    · exact (ih _ hnot.2).trans hwritten
    · exact hwritten

/-- **Setting one type**. -/
theorem setType_setsTypes (hlib : lib.Lawful) (ok : EntityPath → Bool)
    (value : String → Option (CFDictionary V)) (hvalue : ∀ t, nonEmpty (value t) = value t)
    (c : π) (i : ConfiguredInterface V) (t : String) :
    let r := setInterfaceConfiguration lib.toSetLibrary c i (some t) (value t) true ok
    SetsTypes lib ok value c i [t] r.2.1 r.2.2 := by
  intro r
  cases hpaths : copyConfigurationPaths lib.toSetLibrary c i t with
  -- without a path the configuration is held by the interface
  | none =>
    have hr : r = (true, c, { i with
        unsaved := some ((i.unsaved.getD ∅).insert t (value t)) }) := by
      simp only [r, setInterfaceConfiguration, Option.some_or, hpaths, if_true, hvalue]
    rw [hr]
    refine ⟨⟨rfl, rfl, rfl⟩, rfl, rfl, fun _ _ _ _ => Iff.rfl, fun _ _ _ _ => .inr rfl, ?_,
      fun _ _ => rfl, ?_, ?_⟩
    · intro t' ht' _ path hpath
      obtain rfl := List.mem_singleton.mp ht'
      rw [typePaths, hpaths] at hpath
      cases hpath
    · intro t' ht' _
      obtain rfl := List.mem_singleton.mp ht'
      exact Finmap.lookup_insert _
    · intro t' ht'
      rw [List.mem_singleton] at ht'
      simp only [heldAt, Option.bind_some, Finmap.lookup_insert_of_ne _ ht']
      cases i.unsaved with
      | none => simp
      | some d => rfl
  | some paths =>
    set run := setPaths lib.toSetLibrary (value t) ok paths (true, c) with hrun
    have hr : r = (run.1, run.2, if run.1 then removeUnsaved i t else i) := by
      simp only [r, setInterfaceConfiguration, Option.some_or, hpaths, hvalue, hrun,
        setPaths_start (value t) ok (copyConfigurationPaths_ne_nil hpaths) c false]
    -- the paths up to the first that fails have the new value, the rest the old one
    obtain ⟨done, rest, happend, hdone, hrest, htrue, hfalse⟩ :=
      setPaths_done hlib.toSetLawful (value t) ok paths c
    obtain ⟨hsets, hservices⟩ := setPaths_sets hlib.toSetLawful (value t) ok paths (true, c)
    have hmem : typePaths lib c i t = paths := by rw [typePaths, hpaths, Option.getD_some]
    rw [hr]
    refine ⟨?_, hsets, hservices, ?_, ?_, ?_, ?_, ?_, ?_⟩
    · dsimp only
      split_ifs <;> exact ⟨rfl, rfl, rfl⟩
    · intro set device t' hnot
      have hnot := hnot t List.mem_cons_self
      rw [hmem] at hnot
      exact setPaths_interfaceTypes hlib (value t) ok paths (true, c) hnot
    · intro t' ht' path hpath
      obtain rfl := List.mem_singleton.mp ht'
      by_cases hpathDone : path ∈ done
      · exact .inl (hdone path hpathDone)
      · exact .inr (hrest path hpathDone)
    · intro t' ht' hok path hpath
      obtain rfl := List.mem_singleton.mp ht'
      rw [hmem] at hpath hok
      -- where no path fails, none is left over
      have hall : run.1 = true := by
        by_contra hne
        obtain ⟨p, hp, hfail, -⟩ := hfalse (Bool.not_eq_true _ ▸ hne)
        have hpmem : p ∈ paths := by
          rw [happend]
          exact List.mem_append_right done (List.mem_of_mem_head? hp)
        rw [hok p hpmem] at hfail
        cases hfail
      rw [happend, htrue hall, List.append_nil] at hpath
      exact hdone path hpath
    · intro path hpath
      have hpath := hpath t List.mem_cons_self
      rw [hmem, happend, List.mem_append, not_or] at hpath
      exact hrest path hpath.1
    · intro t' ht' hnone
      obtain rfl := List.mem_singleton.mp ht'
      rw [hpaths] at hnone
      cases hnone
    · intro t' ht'
      rw [List.mem_singleton] at ht'
      dsimp only
      split_ifs
      · exact heldAt_removeUnsaved i ht'
      · rfl

/-! ## Several types -/

section

variable {ok : EntityPath → Bool} {value : String → Option (CFDictionary V)} {c c₁ c₂ : π}
  {i i₁ i₂ : ConfiguredInterface V} {ts ts₁ ts₂ : List String}

omit [DecidableEq V] in
theorem SetsTypes.typePaths (h : SetsTypes lib ok value c i ts c₁ i₁) (t : String) :
    typePaths lib c₁ i₁ t = ConfigdExtra.typePaths lib c i t := by
  rw [ConfigdExtra.typePaths, ConfigdExtra.typePaths, h.same.paths h.sets h.setServices]

omit [DecidableEq V] in
theorem setsTypes_nil (c : π) (i : ConfiguredInterface V) : SetsTypes lib ok value c i [] c i where
  same := .refl i
  sets := rfl
  setServices := rfl
  interfaceTypes _ _ _ _ := Iff.rfl
  either _ ht := absurd ht List.not_mem_nil
  stored _ ht := absurd ht List.not_mem_nil
  others _ _ := rfl
  held _ ht := absurd ht List.not_mem_nil
  heldOthers _ _ := rfl

omit [DecidableEq V] in
/-- Types that are set after others. -/
theorem SetsTypes.append (h₁ : SetsTypes lib ok value c i ts₁ c₁ i₁)
    (h₂ : SetsTypes lib ok value c₁ i₁ ts₂ c₂ i₂) (hdisjoint : ∀ t ∈ ts₁, t ∉ ts₂) :
    SetsTypes lib ok value c i (ts₁ ++ ts₂) c₂ i₂ := by
  -- what was set first is not set again
  have hkept : ∀ t ∈ ts₁, ∀ path ∈ ConfigdExtra.typePaths lib c i t,
      lib.get c₂ path = lib.get c₁ path := by
    intro t ht path hpath
    refine h₂.others path fun t' ht' hpath' => ?_
    rw [h₁.typePaths] at hpath'
    obtain rfl := typePaths_type hpath hpath'
    exact hdisjoint t ht ht'
  refine ⟨h₁.same.trans h₂.same, h₂.sets.trans h₁.sets, h₂.setServices.trans h₁.setServices, ?_, ?_,
    ?_, ?_, ?_, ?_⟩
  · intro set device t' hnot
    have hfirst := h₁.interfaceTypes set device t' fun t ht =>
      hnot t (List.mem_append_left ts₂ ht)
    have hsecond := h₂.interfaceTypes set device t' fun t ht => by
      rw [h₁.typePaths]
      exact hnot t (List.mem_append_right ts₁ ht)
    exact hsecond.trans hfirst
  · intro t ht path hpath
    obtain ht | ht := List.mem_append.mp ht
    · rw [dictionaryAt, hkept t ht path hpath]
      exact h₁.either t ht path hpath
    · have hnot : ∀ t' ∈ ts₁, path ∉ ConfigdExtra.typePaths lib c i t' := by
        intro t' ht' hpath'
        obtain rfl := typePaths_type hpath hpath'
        exact hdisjoint t ht' ht
      rw [← h₁.others path hnot]
      exact h₂.either t ht path (by rwa [h₁.typePaths])
  · intro t ht hok path hpath
    obtain ht | ht := List.mem_append.mp ht
    · rw [dictionaryAt, hkept t ht path hpath]
      exact h₁.stored t ht hok path hpath
    · exact h₂.stored t ht (by rwa [h₁.typePaths]) path (by rwa [h₁.typePaths])
  · intro path hnot
    rw [h₂.others path fun t ht => by
        rw [h₁.typePaths]
        exact hnot t (List.mem_append_right ts₁ ht),
      h₁.others path fun t ht => hnot t (List.mem_append_left ts₂ ht)]
  · intro t ht hnone
    obtain ht | ht := List.mem_append.mp ht
    · rw [h₂.heldOthers t (hdisjoint t ht)]
      exact h₁.held t ht hnone
    · refine h₂.held t ht ?_
      rwa [h₁.same.paths h₁.sets h₁.setServices]
  · intro t ht
    rw [List.mem_append, not_or] at ht
    rw [h₂.heldOthers t ht.2, h₁.heldOthers t ht.1]

/-- **The loop** sets its types. -/
theorem setTypes_setsTypes (hlib : lib.Lawful) (hvalue : ∀ t, nonEmpty (value t) = value t)
    (hnodup : ts.Nodup) (s : π × ConfiguredInterface V) :
    SetsTypes lib ok value s.1 s.2 ts (setTypes lib ok value ts s).1
      (setTypes lib ok value ts s).2 := by
  induction ts generalizing s with
  | nil => exact setsTypes_nil s.1 s.2
  | cons t ts ih =>
    obtain ⟨hnot, hnodup⟩ := List.nodup_cons.mp hnodup
    have hone := setType_setsTypes hlib ok value hvalue s.1 s.2 t
    have hdisjoint : ∀ t' ∈ [t], t' ∉ ts := fun t' ht' => List.mem_singleton.mp ht' ▸ hnot
    exact hone.append (ih hnodup _) hdisjoint

end

/-! ## A layer -/

omit [DecidableEq V] in
theorem mem_heldKeys (i : ConfiguredInterface V) (t : String) :
    t ∈ (i.unsaved.getD ∅).keys ↔ (heldAt i t).isSome = true := by
  rw [Finmap.mem_keys, heldAt]
  cases i.unsaved with
  | none => simp [Finmap.notMem_empty]
  | some held => simp [Finmap.lookup_isSome]

omit [DecidableEq V] in
/-- The types that are copied depend only on what is stored, and held, of types other than the
default. -/
theorem extendedConfigurationTypes_congr {c c' : π} {i i' : ConfiguredInterface V}
    (hsame : SameInterface i i') (hsets : lib.sets c' = lib.sets c)
    (hservices : lib.setServices c' = lib.setServices c)
    (hstored : ∀ defaultType ∈ getDefaultConfigurationType i, ∀ set t, t ≠ defaultType →
      (t ∈ lib.interfaceTypes c' set i.entityDevice ↔ t ∈ lib.interfaceTypes c set i.entityDevice))
    (hheld : ∀ defaultType ∈ getDefaultConfigurationType i, ∀ t, t ≠ defaultType →
      heldAt i' t = heldAt i t) :
    extendedConfigurationTypes lib c' i' = extendedConfigurationTypes lib c i := by
  rw [extendedConfigurationTypes, extendedConfigurationTypes, hsame.defaultType]
  cases htype : getDefaultConfigurationType i with
  | none => rfl
  | some defaultType =>
    have hkeys : ∀ set, ((lib.interfaceTypes c' set i.entityDevice ∪
        (i'.unsaved.getD ∅).keys).erase defaultType) =
        ((lib.interfaceTypes c set i.entityDevice ∪ (i.unsaved.getD ∅).keys).erase
          defaultType) := by
      intro set
      ext t
      rw [Finset.mem_erase, Finset.mem_erase, Finset.mem_union, Finset.mem_union, mem_heldKeys,
        mem_heldKeys]
      refine and_congr_right fun hne => ?_
      rw [hstored defaultType htype set t hne, hheld defaultType htype t hne]
    simp only [Option.map_some, hsame.serviceID, hsame.interfaceType, hsame.entityDevice, hsets,
      hservices, hkeys]

omit [DecidableEq V] in
theorem configurationTypes_nodup (c : π) (i : ConfiguredInterface V) :
    (configurationTypes lib c i).Nodup := by
  rw [configurationTypes]
  cases htype : getDefaultConfigurationType i with
  | none => exact List.nodup_nil
  | some defaultType =>
    dsimp only
    rw [List.nodup_cons, extendedConfigurationTypes, htype, Option.map_some, Option.getD_some]
    split
    · exact ⟨List.not_mem_nil, List.nodup_nil⟩
    split_ifs
    · split
      · exact ⟨List.not_mem_nil, List.nodup_nil⟩
      · exact ⟨by simp, Finset.sort_nodup _ _⟩
    · exact ⟨List.not_mem_nil, List.nodup_nil⟩

/-- **A layer** of which all types are set. -/
theorem setLayer_setsTypes (hlib : lib.Lawful) (ok : EntityPath → Bool) (c : π)
    (i : ConfiguredInterface V) (config : Option (Record String (Option (CFDictionary V))))
    (hvalue : ∀ t, nonEmpty (copiedValue config t) = copiedValue config t) :
    SetsTypes lib ok (copiedValue config) c i (configurationTypes lib c i)
      (setLayer lib none ok c i config).1 (setLayer lib none ok c i config).2 := by
  have hnodup : (configurationTypes lib c i).Nodup := configurationTypes_nodup c i
  rw [configurationTypes] at hnodup ⊢
  rw [setLayer]
  cases htype : getDefaultConfigurationType i with
  | none => exact setsTypes_nil c i
  | some defaultType =>
    simp only [htype] at hnodup ⊢
    have hdefault := setType_setsTypes hlib ok (copiedValue config) hvalue c i defaultType
    -- setting the default type leaves the extended types
    have hextended := extendedConfigurationTypes_congr hdefault.same hdefault.sets
      hdefault.setServices (fun t ht set t' hne => by
        obtain rfl := Option.some.inj (htype.symm.trans ht)
        refine hdefault.interfaceTypes set i.entityDevice t' fun t'' ht'' hpath => ?_
        obtain rfl := List.mem_singleton.mp ht''
        rw [typePaths, mem_copyConfigurationPaths, InterfacePath] at hpath
        split_ifs at hpath
        obtain ⟨_, -, -, heq⟩ := hpath
        cases heq
        exact hne rfl)
      (fun t ht t' hne => by
        obtain rfl := Option.some.inj (htype.symm.trans ht)
        exact hdefault.heldOthers t' (by simpa using hne))
    rw [hextended]
    obtain ⟨hnot, hnodup⟩ := List.nodup_cons.mp hnodup
    have hdisjoint : ∀ t ∈ [defaultType], t ∉ (extendedConfigurationTypes lib c i).getD [] :=
      fun t ht => List.mem_singleton.mp ht ▸ hnot
    exact hdefault.append (setTypes_setsTypes hlib hvalue hnodup _) hdisjoint

end

end ConfigdExtra
