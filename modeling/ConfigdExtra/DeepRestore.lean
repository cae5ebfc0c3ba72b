import ConfigdExtra.DeepConfiguration
import ConfigdExtra.MigrationLayers

/-!
# Copied configurations, set again

* `OnlyLast` — only the lowest of some layers has its configuration with sets.
* `Agree` — what goes to one path is the same.
* `setDeepConfiguration_deepSets` — every layer has the configuration that it was given.
* `setDeepConfiguration_restores` — a configuration is restored, also after the service was added
  to sets, or removed from them.
-/

namespace ConfigdExtra

open DeferredEdits

section

variable {π V : Type}

/-- Only the lowest layer has its configuration with sets. -/
def OnlyLast (layers : List (ConfiguredInterface V)) : Prop :=
  ∀ (k : ℕ) i, layers[k]? = some i → i.interfaceType ∈ perInterfaceConfig → k + 1 = layers.length

/-- An interface made of layers is so. -/
theorem onlyLast_of_onlyLowest {i : SCNetworkInterface} (h : OnlyLowest i)
    {layers : List (ConfiguredInterface V)}
    (hlayers : layers.map (·.interfaceType) = i.layers.map (·.info.interfaceType)) :
    OnlyLast layers := by
  intro k layer hk htype
  have hlength : layers.length = i.layers.length := by
    simpa using congrArg List.length hlayers
  have hget : (i.layers.map (·.info.interfaceType))[k]? = some layer.interfaceType := by
    rw [← hlayers, List.getElem?_map, hk]
    rfl
  rw [List.getElem?_map] at hget
  obtain ⟨layer', hk', htype'⟩ := Option.map_eq_some_iff.mp hget
  rw [hlength]
  exact h k layer' hk' (htype' ▸ htype)

theorem OnlyLast.tail {i : ConfiguredInterface V} {layers : List (ConfiguredInterface V)}
    (h : OnlyLast (i :: layers)) : OnlyLast layers := by
  intro k layer hk htype
  have hlength := h (k + 1) layer hk htype
  rw [List.length_cons] at hlength
  omega

/-- Above another layer, the configuration is with the service. -/
theorem OnlyLast.head {i j : ConfiguredInterface V} {layers : List (ConfiguredInterface V)}
    (h : OnlyLast (i :: layers)) (hj : j ∈ layers) : i.interfaceType ∉ perInterfaceConfig := by
  intro htype
  have hlength := h 0 i rfl htype
  rw [List.length_cons] at hlength
  have hpos := List.length_pos_of_mem hj
  omega

variable [DecidableEq V] {lib : EntityLibrary π V}

omit [DecidableEq V] in
theorem typePaths_service {c : π} {i : ConfiguredInterface V} {t : String} {path : EntityPath}
    (htype : i.interfaceType ∉ perInterfaceConfig) (h : path ∈ typePaths lib c i t) :
    path = .service i.serviceID t := by
  rwa [typePaths, mem_copyConfigurationPaths, InterfacePath, if_neg htype] at h

/-! ## All layers -/

/-- Layers are alike, up to what they hold. -/
structure SameLayers (layers layers' : List (ConfiguredInterface V)) : Prop where
  length : layers.length = layers'.length
  layer : ∀ (k : ℕ) i i', layers[k]? = some i → layers'[k]? = some i' → SameInterface i i'

/-- Where two layers have a path in common, they have the same configuration. -/
def Agree (lib : EntityLibrary π V) (c : π) (layers : List (ConfiguredInterface V))
    (configs : List (Record String (Option (CFDictionary V)))) : Prop :=
  ∀ (k : ℕ) i config, layers[k]? = some i → configs[k]? = some config →
    ∀ (k' : ℕ) i' config', layers[k']? = some i' → configs[k']? = some config' →
      ∀ t ∈ configurationTypes lib c i, ∀ t' ∈ configurationTypes lib c i',
        ∀ path ∈ typePaths lib c i t, path ∈ typePaths lib c i' t' →
          copiedValue (some config) t = copiedValue (some config') t'

/-- A layer has its configuration. -/
structure LayerSets (lib : EntityLibrary π V) (ok : EntityPath → Bool) (c : π)
    (i : ConfiguredInterface V) (config : Record String (Option (CFDictionary V))) (c' : π)
    (i' : ConfiguredInterface V) : Prop where
  same : SameInterface i i'
  either : ∀ t ∈ configurationTypes lib c i, ∀ path ∈ typePaths lib c i t,
    dictionaryAt lib.toSetLibrary c' path = copiedValue (some config) t ∨
      lib.get c' path = lib.get c path
  stored : ∀ t ∈ configurationTypes lib c i, (∀ path ∈ typePaths lib c i t, ok path = true) →
    ∀ path ∈ typePaths lib c i t,
      dictionaryAt lib.toSetLibrary c' path = copiedValue (some config) t
  held : ∀ t ∈ configurationTypes lib c i,
    copyConfigurationPaths lib.toSetLibrary c i t = none →
      heldAt i' t = some (copiedValue (some config) t)
  heldOthers : ∀ t, t ∉ configurationTypes lib c i → heldAt i' t = heldAt i t

/-- All layers have theirs, and nothing else is set. -/
structure DeepSets (lib : EntityLibrary π V) (ok : EntityPath → Bool) (c : π)
    (layers : List (ConfiguredInterface V))
    (configs : List (Record String (Option (CFDictionary V)))) (c' : π)
    (layers' : List (ConfiguredInterface V)) : Prop where
  sets : lib.sets c' = lib.sets c
  setServices : lib.setServices c' = lib.setServices c
  layer : ∀ (k : ℕ) i config, layers[k]? = some i → configs[k]? = some config →
    ∃ i', layers'[k]? = some i' ∧ LayerSets lib ok c i config c' i'
  others : ∀ path, (∀ i ∈ layers, ∀ t ∈ configurationTypes lib c i, path ∉ typePaths lib c i t) →
    lib.get c' path = lib.get c path

omit [DecidableEq V] in
/-- Setting a layer does not change what there is to set for those below it. -/
theorem SetsTypes.below {ok : EntityPath → Bool} {value : String → Option (CFDictionary V)}
    {c c₁ : π} {i i₁ j : ConfiguredInterface V} {ts : List String}
    (h : SetsTypes lib ok value c i ts c₁ i₁) (htype : i.interfaceType ∉ perInterfaceConfig) :
    configurationTypes lib c₁ j = configurationTypes lib c j ∧
      ∀ t, ConfigdExtra.typePaths lib c₁ j t = ConfigdExtra.typePaths lib c j t := by
  have hextended : extendedConfigurationTypes lib c₁ j = extendedConfigurationTypes lib c j :=
    extendedConfigurationTypes_congr (SameInterface.refl j) h.sets h.setServices
      (fun _ _ set t _ => h.interfaceTypes set j.entityDevice t fun t' _ hpath => by
        cases typePaths_service htype hpath)
      fun _ _ _ _ => rfl
  refine ⟨by rw [configurationTypes, configurationTypes, hextended], fun t => ?_⟩
  rw [ConfigdExtra.typePaths, ConfigdExtra.typePaths,
    (SameInterface.refl j).paths h.sets h.setServices]

/-- **Every layer** gets its configuration, and none disturbs another. -/
theorem setDeepConfiguration_deepSets (hlib : lib.Lawful) (ok : EntityPath → Bool) (c : π)
    {layers : List (ConfiguredInterface V)}
    {configs : List (Record String (Option (CFDictionary V)))}
    (hlength : configs.length = layers.length)
    (hvalue : ∀ config ∈ configs, ∀ t,
      nonEmpty (copiedValue (some config) t) = copiedValue (some config) t)
    (honly : OnlyLast layers) (hagree : Agree lib c layers configs) :
    DeepSets lib ok c layers configs (setDeepConfiguration lib none ok c layers (some configs)).1
      (setDeepConfiguration lib none ok c layers (some configs)).2 := by
  induction layers generalizing c configs with
  | nil =>
    refine ⟨rfl, rfl, fun k i _ hk => ?_, fun _ _ => rfl⟩
    cases hk
  | cons i layers ih =>
    obtain _ | ⟨config, configs⟩ := configs
    · cases hlength
    have hhead := setLayer_setsTypes hlib ok c i (some config) (hvalue config List.mem_cons_self)
    set first := setLayer lib none ok c i (some config) with hfirst
    -- the layers below are as they were
    have hbelow : ∀ j ∈ layers, configurationTypes lib first.1 j = configurationTypes lib c j ∧
        ∀ t, typePaths lib first.1 j t = typePaths lib c j t := fun j hj =>
      hhead.below (honly.head hj)
    have hrest := ih first.1 (by simpa using hlength)
      (fun config' hconfig' => hvalue config' (List.mem_cons_of_mem _ hconfig')) honly.tail
      (by
        intro k j config' hj hconfig' k' j' config'' hj' hconfig'' t ht t' ht' path hpath hpath'
        obtain ⟨htypes, hpaths⟩ := hbelow j (List.mem_of_getElem? hj)
        obtain ⟨htypes', hpaths'⟩ := hbelow j' (List.mem_of_getElem? hj')
        rw [htypes] at ht
        rw [htypes'] at ht'
        rw [hpaths] at hpath
        rw [hpaths'] at hpath'
        exact hagree (k + 1) j config' hj hconfig' (k' + 1) j' config'' hj' hconfig'' t ht t' ht'
          path hpath hpath')
    set rest := setDeepConfiguration lib none ok first.1 layers (some configs) with hrestdef
    show DeepSets lib ok c (i :: layers) (config :: configs) rest.1 (first.2 :: rest.2)
    -- a path of the first layer that is set again is set to the same
    have hagain : ∀ t ∈ configurationTypes lib c i, ∀ path ∈ typePaths lib c i t,
        dictionaryAt lib.toSetLibrary rest.1 path = copiedValue (some config) t ∨
          lib.get rest.1 path = lib.get first.1 path := by
      intro t ht path hpath
      by_cases hshared : ∃ j ∈ layers, ∃ t' ∈ configurationTypes lib first.1 j,
          path ∈ typePaths lib first.1 j t'
      · obtain ⟨j, hj, t', ht', hpath'⟩ := hshared
        obtain ⟨k, hk⟩ := List.getElem?_of_mem hj
        have hconfig : configs[k]? = some (configs.get ⟨k, by
            have hlt := (List.getElem?_eq_some_iff.mp hk).1
            rw [List.length_cons, List.length_cons] at hlength
            omega⟩) := by
          rw [List.get_eq_getElem]
          exact List.getElem?_eq_getElem _
        obtain ⟨j', -, hlayer⟩ := hrest.layer k j _ hk hconfig
        obtain ⟨htypes, hpaths⟩ := hbelow j hj
        have hsame := hagree 0 i config rfl rfl (k + 1) j _ hk hconfig t ht t' (htypes ▸ ht') path
          hpath (hpaths t' ▸ hpath')
        rw [hsame]
        exact hlayer.either t' ht' path hpath'
      · exact .inr (hrest.others path fun j hj t' ht' hpath' => hshared ⟨j, hj, t', ht', hpath'⟩)
    refine ⟨hrest.sets.trans hhead.sets, hrest.setServices.trans hhead.setServices, ?_, ?_⟩
    · intro k j config' hj hconfig'
      cases k with
      | zero =>
        obtain rfl := Option.some.inj hj
        obtain rfl := Option.some.inj hconfig'
        refine ⟨first.2, rfl, hhead.same, ?_, ?_, hhead.held, hhead.heldOthers⟩
        · intro t ht path hpath
          obtain hset | hkept := hagain t ht path hpath
          · exact .inl hset
          · rw [dictionaryAt, hkept]
            exact hhead.either t ht path hpath
        · intro t ht hok path hpath
          obtain hset | hkept := hagain t ht path hpath
          · exact hset
          · rw [dictionaryAt, hkept]
            exact hhead.stored t ht hok path hpath
      | succ k =>
        obtain ⟨j', hj', hlayer⟩ := hrest.layer k j config' hj hconfig'
        have hmem : j ∈ layers := List.mem_of_getElem? (by simpa using hj)
        obtain ⟨htypes, hpaths⟩ := hbelow j hmem
        have hcopy : ∀ t, copyConfigurationPaths lib.toSetLibrary first.1 j t =
            copyConfigurationPaths lib.toSetLibrary c j t :=
          (SameInterface.refl j).paths hhead.sets hhead.setServices
        refine ⟨j', hj', hlayer.same, ?_, ?_, ?_, ?_⟩
        · intro t ht path hpath
          obtain hset | hkept := hlayer.either t (htypes ▸ ht) path (hpaths t ▸ hpath)
          · exact .inl hset
          by_cases hshared : ∃ t' ∈ configurationTypes lib c i, path ∈ typePaths lib c i t'
          · obtain ⟨t', ht', hpath'⟩ := hshared
            have hsame := hagree (k + 1) j config' hj hconfig' 0 i config rfl rfl t ht t' ht' path
              hpath hpath'
            rw [dictionaryAt, hkept, hsame]
            exact hhead.either t' ht' path hpath'
          · refine .inr (hkept.trans (hhead.others path fun t' ht' hpath' => ?_))
            exact hshared ⟨t', ht', hpath'⟩
        · intro t ht hok path hpath
          refine hlayer.stored t (htypes ▸ ht) ?_ path (hpaths t ▸ hpath)
          rw [hpaths]
          exact hok
        · intro t ht hnone
          exact hlayer.held t (htypes ▸ ht) ((hcopy t).trans hnone)
        · intro t ht
          exact hlayer.heldOthers t (htypes ▸ ht)
    · intro path hnot
      rw [hrest.others path fun j hj t ht hpath => by
          obtain ⟨htypes, hpaths⟩ := hbelow j hj
          exact hnot j (List.mem_cons_of_mem _ hj) t (htypes ▸ ht) (hpaths t ▸ hpath),
        hhead.others path (hnot i List.mem_cons_self)]

/-! ## What was copied -/

/-- No configuration that is held is the mark of an inactive one alone. -/
def HoldsNoMark (i : ConfiguredInterface V) : Prop :=
  ∀ t d, heldAt i t = some (some d) → d.keys.card = 1 → kSCResvInactive ∉ d

omit [DecidableEq V] in
theorem card_ne_zero_of_notEmpty {d : CFDictionary V}
    (h : isEffectivelyEmptyConfiguration (some (StoredValue.dictionary d)) = false) :
    d.keys.card ≠ 0 := by
  intro hcard
  simp [isEffectivelyEmptyConfiguration, StoredValue.dictionary?, hcard] at h

omit [DecidableEq V] in
theorem notEmpty_of_held {d : CFDictionary V} (hcard : d.keys.card ≠ 0)
    (hmark : d.keys.card = 1 → kSCResvInactive ∉ d) :
    isEffectivelyEmptyConfiguration (some (StoredValue.dictionary d)) = false := by
  simp only [isEffectivelyEmptyConfiguration, Option.bind_some, StoredValue.dictionary?,
    Option.map_some]
  split
  · contradiction
  next heq =>
    obtain ⟨-, hzero⟩ := Prod.mk.inj (Option.some.inj heq)
    exact absurd hzero hcard
  next heq =>
    obtain ⟨rfl, hone⟩ := Prod.mk.inj (Option.some.inj heq)
    exact decide_eq_false (hmark hone)
  · rfl

omit [DecidableEq V] in
/-- What is read is a dictionary that can be read again. -/
theorem getInterfaceConfiguration_notEmpty (hlib : lib.Lawful) {c : π} {i : ConfiguredInterface V}
    (hheld : HoldsNoMark i) {t : String} {v : StoredValue V}
    (h : getInterfaceConfiguration lib.toSetLibrary c i t = some v) :
    ∃ d, v = .dictionary d ∧ isEffectivelyEmptyConfiguration (some (.dictionary d)) = false := by
  rw [getInterfaceConfiguration] at h
  cases hpaths : copyConfigurationPaths lib.toSetLibrary c i t with
  | none =>
    simp only [hpaths] at h
    cases hvalue : heldAt i t with
    | none =>
      rw [heldAt] at hvalue
      rw [hvalue] at h
      cases h
    | some held =>
      cases held with
      | none =>
        rw [heldAt] at hvalue
        rw [hvalue] at h
        cases h
      | some d =>
        have hmark := hheld t d hvalue
        rw [heldAt] at hvalue
        rw [hvalue] at h
        simp only [Option.join_some, Option.map_some] at h
        split_ifs at h with hcard
        exact ⟨d, (Option.some.inj h).symm, notEmpty_of_held hcard hmark⟩
  | some paths =>
    obtain ⟨path, rest, rfl⟩ := List.exists_cons_of_ne_nil (copyConfigurationPaths_ne_nil hpaths)
    simp only [hpaths, List.head?_cons, Option.bind_some, networkConfigurationGetValue] at h
    by_cases hempty : isEffectivelyEmptyConfiguration (lib.get c path) = true
    · simp [hempty] at h
    simp only [if_neg hempty] at h
    cases hget : lib.get c path with
    | none =>
      rw [hget] at h
      cases h
    | some stored =>
      cases stored with
      | other w => exact absurd hget (hlib.get_dictionary c path w)
      | dictionary d =>
        rw [hget, Bool.not_eq_true] at hempty
        rw [hget] at h
        simp only [if_neg (card_ne_zero_of_notEmpty hempty)] at h
        exact ⟨d, (Option.some.inj h).symm, hempty⟩

omit [DecidableEq V] in
/-- What is stored is read. -/
theorem getInterfaceConfiguration_of_value {c : π} {i : ConfiguredInterface V} {t : String}
    {paths : List EntityPath} {value : Option (CFDictionary V)}
    (hpaths : copyConfigurationPaths lib.toSetLibrary c i t = some paths)
    (hstored : ∀ path ∈ paths, dictionaryAt lib.toSetLibrary c path = value)
    (hvalue : ∀ d ∈ value,
      isEffectivelyEmptyConfiguration (some (StoredValue.dictionary d)) = false) :
    getInterfaceConfiguration lib.toSetLibrary c i t = value.map .dictionary := by
  obtain ⟨path, rest, rfl⟩ := List.exists_cons_of_ne_nil (copyConfigurationPaths_ne_nil hpaths)
  have hpath := hstored path List.mem_cons_self
  simp only [getInterfaceConfiguration, hpaths, List.head?_cons, Option.bind_some,
    networkConfigurationGetValue]
  cases value with
  | none =>
    rw [isEffectivelyEmpty_of_none hpath]
    rfl
  | some d =>
    have hnot := hvalue d rfl
    rw [get_eq_of_dictionaryAt hpath, hnot]
    simp only [Bool.false_eq_true, if_false, if_neg (card_ne_zero_of_notEmpty hnot),
      Option.map_some]

omit [DecidableEq V] in
/-- What is held is read. -/
theorem getInterfaceConfiguration_of_held {c : π} {i : ConfiguredInterface V} {t : String}
    {value : Option (CFDictionary V)}
    (hpaths : copyConfigurationPaths lib.toSetLibrary c i t = none)
    (hheld : heldAt i t = some value)
    (hvalue : ∀ d ∈ value,
      isEffectivelyEmptyConfiguration (some (StoredValue.dictionary d)) = false) :
    getInterfaceConfiguration lib.toSetLibrary c i t = value.map .dictionary := by
  rw [heldAt] at hheld
  simp only [getInterfaceConfiguration, hpaths, hheld, Option.join_some]
  cases value with
  | none => rfl
  | some d =>
    simp only [Option.map_some, if_neg (card_ne_zero_of_notEmpty (hvalue d rfl))]

omit [DecidableEq V] in
theorem lookup_singleton_of_ne {β : Type} {t t' : String} (v : β) (hne : t ≠ t') :
    (Finmap.singleton t' v : Record String β).lookup t = none := by
  rw [Finmap.lookup_eq_none, Finmap.mem_singleton]
  exact hne

omit [DecidableEq V] in
theorem lookup_foldl_insert {β : Type} (f : String → β) (ts : List String)
    (r : Record String β) (t : String) :
    (ts.foldl (fun r t => r.insert t (f t)) r).lookup t =
      if t ∈ ts then some (f t) else r.lookup t := by
  induction ts generalizing r with
  | nil => simp
  | cons t' ts ih =>
    rw [List.foldl_cons, ih]
    by_cases hmem : t ∈ ts
    · rw [if_pos hmem, if_pos (List.mem_cons_of_mem _ hmem)]
    · obtain rfl | hne := eq_or_ne t t'
      · rw [if_neg hmem, if_pos List.mem_cons_self, Finmap.lookup_insert]
      · rw [if_neg hmem, Finmap.lookup_insert_of_ne _ hne, if_neg (by simp [hne, hmem])]

omit [DecidableEq V] in
/-- What is copied of a layer. -/
theorem copiedValue_copyLayer (lib : EntityLibrary π V) (c : π) (i : ConfiguredInterface V)
    (t : String) :
    copiedValue (some (copyLayer lib none c i)) t =
      if t ∈ configurationTypes lib c i then
        (getInterfaceConfiguration lib.toSetLibrary c i t).bind StoredValue.dictionary?
      else none := by
  rw [copiedValue, Option.bind_some, copyLayer, configurationTypes]
  cases htype : getDefaultConfigurationType i with
  | none => simp
  | some defaultType =>
    dsimp only
    rw [lookup_foldl_insert]
    by_cases hmem : t ∈ (extendedConfigurationTypes lib c i).getD []
    · rw [if_pos hmem, if_pos (List.mem_cons_of_mem _ hmem), Option.join_some]
    obtain rfl | hne := eq_or_ne t defaultType
    · rw [if_neg hmem, if_pos List.mem_cons_self, Finmap.lookup_singleton_eq, Option.join_some]
    · rw [if_neg hmem, lookup_singleton_of_ne _ hne, if_neg (by simp [hne, hmem])]
      rfl

/-! ## Restoring -/

omit [DecidableEq V] in
theorem copied_map (hlib : lib.Lawful) {c : π} {i : ConfiguredInterface V}
    (hheld : HoldsNoMark i) (t : String) :
    (copiedValue (some (copyLayer lib none c i)) t).map .dictionary =
        (if t ∈ configurationTypes lib c i then
          getInterfaceConfiguration lib.toSetLibrary c i t else none) ∧
      ∀ d ∈ copiedValue (some (copyLayer lib none c i)) t,
        isEffectivelyEmptyConfiguration (some (StoredValue.dictionary d)) = false := by
  rw [copiedValue_copyLayer]
  split_ifs with hmem
  · cases hget : getInterfaceConfiguration lib.toSetLibrary c i t with
    | none => exact ⟨rfl, fun d hd => by cases hd⟩
    | some v =>
      obtain ⟨d, rfl, hnot⟩ := getInterfaceConfiguration_notEmpty hlib hheld hget
      refine ⟨rfl, fun d' hd' => ?_⟩
      obtain rfl := Option.some.inj hd'
      exact hnot
  · exact ⟨rfl, fun d hd => by cases hd⟩

omit [DecidableEq V] in
theorem nonEmpty_copied (hlib : lib.Lawful) {c : π} {i : ConfiguredInterface V}
    (hheld : HoldsNoMark i) (t : String) :
    nonEmpty (copiedValue (some (copyLayer lib none c i)) t) =
      copiedValue (some (copyLayer lib none c i)) t := by
  have hnot := (copied_map (c := c) hlib hheld t).2
  cases hvalue : copiedValue (some (copyLayer lib none c i)) t with
  | none => rfl
  | some d =>
    rw [hvalue] at hnot
    have hcard := card_ne_zero_of_notEmpty (hnot d rfl)
    rw [nonEmpty, Option.filter_some, if_pos (by simpa using hcard)]

omit [DecidableEq V] in
/-- Layers with their configurations with the service read one path. -/
theorem getInterfaceConfiguration_service {c : π} {i : ConfiguredInterface V}
    (htype : i.interfaceType ∉ perInterfaceConfig) (t : String) :
    copyConfigurationPaths lib.toSetLibrary c i t = some [.service i.serviceID t] :=
  ((copyConfigurationPaths_cases lib.toSetLibrary c i t).resolve_left fun h => htype h.1).2

omit [DecidableEq V] in
/-- A layer with its configuration with the service has only its default type. -/
theorem configurationTypes_service {c : π} {i : ConfiguredInterface V} {t : String}
    (htype : i.interfaceType ∉ perInterfaceConfig) (ht : t ∈ configurationTypes lib c i) :
    getDefaultConfigurationType i = some t ∧ ∀ c', t ∈ configurationTypes lib c' i := by
  rw [configurationTypes] at ht
  cases hdefault : getDefaultConfigurationType i with
  | none =>
    rw [hdefault] at ht
    cases ht
  | some defaultType =>
    have hext : ∀ c', (extendedConfigurationTypes lib c' i).getD [] = [] := by
      intro c'
      rw [extendedConfigurationTypes, hdefault, Option.map_some, Option.getD_some]
      cases i.serviceID with
      | none => rfl
      | some serviceID => exact if_neg htype
    simp only [hdefault, hext, List.mem_singleton] at ht
    subst ht
    refine ⟨rfl, fun c' => ?_⟩
    rw [configurationTypes, hdefault]
    exact List.mem_cons_self

omit [DecidableEq V] in
/-- What was copied for one path is the same. -/
theorem agree_copyDeepConfiguration {c₀ c : π} {layers₀ layers : List (ConfiguredInterface V)}
    (hsame : SameLayers layers₀ layers) (honly : OnlyLast layers) :
    Agree lib c layers (copyDeepConfiguration lib none c₀ layers₀) := by
  intro k i config hi hconfig k' i' config' hi' hconfig' t ht t' ht' path hpath hpath'
  rw [copyDeepConfiguration, List.getElem?_map] at hconfig hconfig'
  obtain ⟨i₀, hi₀, rfl⟩ := Option.map_eq_some_iff.mp hconfig
  obtain ⟨i₀', hi₀', rfl⟩ := Option.map_eq_some_iff.mp hconfig'
  have halike := hsame.layer k i₀ i hi₀ hi
  have halike' := hsame.layer k' i₀' i' hi₀' hi'
  by_cases htype : i.interfaceType ∈ perInterfaceConfig
  · by_cases htype' : i'.interfaceType ∈ perInterfaceConfig
    · -- both are the lowest layer
      obtain rfl : k = k' := by
        have hk := honly k i hi htype
        have hk' := honly k' i' hi' htype'
        omega
      obtain rfl := Option.some.inj (hi.symm.trans hi')
      obtain rfl := Option.some.inj (hi₀.symm.trans hi₀')
      rw [typePaths_type hpath hpath']
    · have heq := typePaths_service htype' hpath'
      rw [typePaths, mem_copyConfigurationPaths, InterfacePath, if_pos htype, heq] at hpath
      obtain ⟨_, -, -, hpath⟩ := hpath
      cases hpath
  · by_cases htype' : i'.interfaceType ∈ perInterfaceConfig
    · have heq := typePaths_service htype hpath
      rw [typePaths, mem_copyConfigurationPaths, InterfacePath, if_pos htype', heq] at hpath'
      obtain ⟨_, -, -, hpath'⟩ := hpath'
      cases hpath'
    · -- both were read at one path
      have heq := (typePaths_service htype hpath).symm.trans (typePaths_service htype' hpath')
      obtain ⟨hservice, rfl⟩ := EntityPath.service.inj heq
      have hdefault := (configurationTypes_service htype ht).1
      have hdefault' := (configurationTypes_service htype' ht').1
      have hmem : ∀ j₀ : ConfiguredInterface V, getDefaultConfigurationType j₀ = some t →
          t ∈ configurationTypes lib c₀ j₀ := by
        intro j₀ hj₀
        rw [configurationTypes, hj₀]
        exact List.mem_cons_self
      have hpaths : copyConfigurationPaths lib.toSetLibrary c₀ i₀ t =
          copyConfigurationPaths lib.toSetLibrary c₀ i₀' t := by
        rw [getInterfaceConfiguration_service (halike.interfaceType ▸ htype),
          getInterfaceConfiguration_service (halike'.interfaceType ▸ htype'),
          ← halike.serviceID, ← halike'.serviceID, hservice]
      rw [copiedValue_copyLayer, copiedValue_copyLayer,
        if_pos (hmem i₀ (halike.defaultType ▸ hdefault)),
        if_pos (hmem i₀' (halike'.defaultType ▸ hdefault')), getInterfaceConfiguration,
        getInterfaceConfiguration, hpaths,
        getInterfaceConfiguration_service (halike'.interfaceType ▸ htype')]

/-- **A copied configuration is restored.** Whatever has changed since it was copied, and whichever
of the writes fail, each type that is set reads as it did, in every set; what was not copied is
removed; and nothing else changes. -/
theorem setDeepConfiguration_restores (hlib : lib.Lawful) (ok : EntityPath → Bool) (c₀ c : π)
    {layers₀ layers : List (ConfiguredInterface V)} (hsame : SameLayers layers₀ layers)
    (honly : OnlyLast layers) (hheld : ∀ i₀ ∈ layers₀, HoldsNoMark i₀) :
    let r := setDeepConfiguration lib none ok c layers
      (some (copyDeepConfiguration lib none c₀ layers₀))
    (∀ (k : ℕ) i₀ i, layers₀[k]? = some i₀ → layers[k]? = some i → ∃ i', r.2[k]? = some i' ∧
      SameInterface i i' ∧
      (∀ t ∈ configurationTypes lib c i, (∀ path ∈ typePaths lib c i t, ok path = true) →
        getInterfaceConfiguration lib.toSetLibrary r.1 i' t =
            (if t ∈ configurationTypes lib c₀ i₀ then
              getInterfaceConfiguration lib.toSetLibrary c₀ i₀ t else none) ∧
          ∀ path ∈ typePaths lib c i t, (dictionaryAt lib.toSetLibrary r.1 path).map .dictionary =
            getInterfaceConfiguration lib.toSetLibrary r.1 i' t) ∧
      ∀ t, t ∉ configurationTypes lib c i → heldAt i' t = heldAt i t) ∧
    ∀ path, (∀ i ∈ layers, ∀ t ∈ configurationTypes lib c i, path ∉ typePaths lib c i t) →
      lib.get r.1 path = lib.get c path := by
  intro r
  have hlength : (copyDeepConfiguration lib none c₀ layers₀).length = layers.length := by
    rw [copyDeepConfiguration, List.length_map]
    exact hsame.length
  have hvalue : ∀ config ∈ copyDeepConfiguration lib none c₀ layers₀, ∀ t,
      nonEmpty (copiedValue (some config) t) = copiedValue (some config) t := by
    intro config hconfig t
    obtain ⟨i₀, hi₀, rfl⟩ := List.mem_map.mp hconfig
    exact nonEmpty_copied hlib (hheld i₀ hi₀) t
  have hsets := setDeepConfiguration_deepSets hlib ok c hlength hvalue honly
    (agree_copyDeepConfiguration hsame honly)
  refine ⟨fun k i₀ i hi₀ hi => ?_, hsets.others⟩
  have hconfig : (copyDeepConfiguration lib none c₀ layers₀)[k]? =
      some (copyLayer lib none c₀ i₀) := by
    rw [copyDeepConfiguration, List.getElem?_map, hi₀]
    rfl
  obtain ⟨i', hi', hlayer⟩ := hsets.layer k i _ hi hconfig
  refine ⟨i', hi', hlayer.same, fun t ht hok => ?_, hlayer.heldOthers⟩
  obtain ⟨hcopied, hnot⟩ := copied_map (c := c₀) hlib (hheld i₀ (List.mem_of_getElem? hi₀)) t
  have hstored := hlayer.stored t ht hok
  have hpaths := hlayer.same.paths hsets.sets hsets.setServices t
  have hread : getInterfaceConfiguration lib.toSetLibrary r.1 i' t =
      (copiedValue (some (copyLayer lib none c₀ i₀)) t).map .dictionary := by
    cases hcopy : copyConfigurationPaths lib.toSetLibrary c i t with
    | none =>
      exact getInterfaceConfiguration_of_held (hpaths.trans hcopy) (hlayer.held t ht hcopy) hnot
    | some paths =>
      have hmem : typePaths lib c i t = paths := by rw [typePaths, hcopy, Option.getD_some]
      rw [hmem] at hstored
      exact getInterfaceConfiguration_of_value (hpaths.trans hcopy) hstored hnot
  refine ⟨hread.trans hcopied, fun path hpath => ?_⟩
  rw [hstored path hpath, hread]

end

/-! ## A service that joins two sets -/

/-- Two sets, which have the service or not, and a store of dictionaries. -/
def joinedSets : EntityLibrary (Bool × (EntityPath → Option (CFDictionary Bool))) Bool where
  get c path := (c.2 path).map .dictionary
  set c path d := (c.1, Function.update c.2 path (some d))
  remove c path := (c.1, Function.update c.2 path none)
  kCFBooleanTrue := true
  sets _ := ["Home", "Work"]
  setServices c _ := if c.1 then ["0"] else []
  interfaceTypes c set device :=
    ({"Ethernet", "EAPOL"} : Finset String).filter fun t =>
      (c.2 (.setInterface set device t)).isSome

theorem joinedSets_lawful : joinedSets.Lawful where
  get_set c path d := by simp [joinedSets]
  get_set_of_ne c path d other hne := by simp [joinedSets, Function.update_of_ne hne]
  get_remove c path := by simp [joinedSets]
  get_remove_of_ne c path other hne := by simp [joinedSets, Function.update_of_ne hne]
  sets_set _ _ _ := rfl
  sets_remove _ _ := rfl
  setServices_set _ _ _ := rfl
  setServices_remove _ _ := rfl
  get_dictionary c path v h := by
    obtain ⟨d, -, hd⟩ := Option.map_eq_some_iff.mp h
    cases hd
  interfaceTypes_set c path d set device t hne := by
    simp [joinedSets, Function.update_of_ne hne.symm]
  interfaceTypes_remove c path set device t hne := by
    simp [joinedSets, Function.update_of_ne hne.symm]

/-- An Ethernet interface that holds its configuration. -/
def heldEthernet : ConfiguredInterface Bool :=
  ⟨kSCNetworkInterfaceTypeEthernet, some "en0", some "0",
    some (Finmap.singleton "Ethernet" (some (Finmap.singleton "MTU" true)))⟩

/-- The interface, with a layer on top. -/
def heldLayers : List (ConfiguredInterface Bool) :=
  [⟨kSCNetworkInterfaceTypePPP, some "en0", some "0", none⟩, heldEthernet]

theorem holdsNoMark_heldLayers : ∀ i ∈ heldLayers, HoldsNoMark i := by
  intro i hi t d hd hcard
  simp only [heldLayers, List.mem_cons, List.not_mem_nil, or_false] at hi
  obtain rfl | rfl := hi
  · cases hd
  · obtain rfl | hne := eq_or_ne t "Ethernet"
    · obtain rfl : Finmap.singleton "MTU" true = d := by simpa [heldAt, heldEthernet] using hd
      rw [Finmap.mem_singleton]
      decide
    · rw [heldAt, heldEthernet, Option.bind_some, lookup_singleton_of_ne _ hne] at hd
      cases hd

/-- What is held is stored in both sets. -/
theorem setDeepConfiguration_restores_joined :
    let r := setDeepConfiguration joinedSets none (fun _ => true) (true, fun _ => none) heldLayers
      (some (copyDeepConfiguration joinedSets none (false, fun _ => none) heldLayers))
    ∀ set ∈ ["Home", "Work"], (dictionaryAt joinedSets.toSetLibrary r.1
      (.setInterface set (some "en0") "Ethernet")).map .dictionary =
        some (StoredValue.dictionary (Finmap.singleton "MTU" true)) := by
  intro r set hset
  have hsame : SameLayers heldLayers heldLayers := by
    refine ⟨rfl, fun k i i' hi hi' => ?_⟩
    obtain rfl := Option.some.inj (hi.symm.trans hi')
    exact .refl i
  let ethernet : SCNetworkInterface :=
    .mk (.new kSCNetworkInterfaceTypeEthernet) none none none none
  let layered : SCNetworkInterface :=
    .mk (.new kSCNetworkInterfaceTypePPP) none none none (some ethernet)
  have honly : OnlyLast heldLayers :=
    onlyLast_of_onlyLowest (i := layered)
      (onlyLowest_layer rfl (by decide) (onlyLowest_single (i := ethernet) rfl)) rfl
  obtain ⟨hlayers, -⟩ := setDeepConfiguration_restores joinedSets_lawful (fun _ => true)
    (false, fun _ => none) (true, fun _ => none) hsame honly holdsNoMark_heldLayers
  obtain ⟨i', -, -, hread, -⟩ := hlayers 1 _ _ rfl rfl
  obtain ⟨hvalue, hstored⟩ := hread "Ethernet" List.mem_cons_self fun _ _ => rfl
  have hpath : EntityPath.setInterface set (some "en0") "Ethernet" ∈
      typePaths joinedSets (true, fun _ => none) heldEthernet "Ethernet" := by
    rw [typePaths, mem_copyConfigurationPaths, InterfacePath, if_pos (by decide)]
    exact ⟨set, hset, ⟨"0", rfl, List.mem_cons_self⟩, rfl⟩
  rw [hstored _ hpath, hvalue]
  exact if_pos List.mem_cons_self

end ConfigdExtra
