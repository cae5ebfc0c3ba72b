import ConfigdExtra.InterfaceRoundTrip
import ConfigdExtra.ServiceMigration

/-!
# Layers of a migrated interface

Two configurations of a layered interface may be stored at one place. The mapped interface has at
most one layer that keeps its configuration with the interface, so that what is set at one place
was read from one place.

* `SamePlaces`, `LayersMatch` — two interfaces keep their configurations alike.
* `OnlyLowest`, `onlyLowest_createWithEntity` — of an interface made of an entity.
* `mem_configurationWrites`, `read_value` — what is set, and from where it was read.
* `writes_agree` — what goes to one place is the same.
-/

namespace ConfigdExtra

variable {D : Type}

/-- The configurations of two layers have the same entities, and both are kept with the interface
or both with the service. -/
def SamePlaces (old new : SCNetworkInterface) : Prop :=
  (old.info.interfaceType ∈ perInterfaceConfig ↔ new.info.interfaceType ∈ perInterfaceConfig) ∧
    hardwareOf old.info.interfaceType = hardwareOf new.info.interfaceType

/-- The interface layering matches, as far as both interfaces have layers. -/
def LayersMatch (olds news : List SCNetworkInterface) : Prop :=
  ∀ (k : ℕ) old new, olds[k]? = some old → news[k]? = some new → SamePlaces old new

/-! ## The layers -/

/-- Only the lowest layer has its configuration with the interface. -/
def OnlyLowest (i : SCNetworkInterface) : Prop :=
  ∀ k layer, i.layers[k]? = some layer → layer.info.interfaceType ∈ perInterfaceConfig →
    k + 1 = i.layers.length

/-- An interface without layers is its own lowest layer. -/
theorem onlyLowest_single {i : SCNetworkInterface} (h : i.interface = none) : OnlyLowest i := by
  cases i with | mk info bond bridge vlan interface
  obtain rfl : interface = none := h
  intro k layer hk _
  have hlt := (List.getElem?_eq_some_iff.mp hk).1
  simp only [SCNetworkInterface.layers, List.length_singleton] at hlt ⊢
  omega

/-- A layer whose type keeps no configuration with the interface may be put on top. -/
theorem onlyLowest_layer {i child : SCNetworkInterface} (hchild : i.interface = some child)
    (htype : i.info.interfaceType ∉ perInterfaceConfig) (h : OnlyLowest child) : OnlyLowest i := by
  cases i with | mk info bond bridge vlan interface
  obtain rfl : interface = some child := hchild
  intro k layer hk hlayer
  rw [SCNetworkInterface.layers] at hk ⊢
  cases k with
  | zero =>
    obtain rfl := Option.some.inj hk
    exact absurd hlayer htype
  | succ k => exact congrArg (· + 1) (h k layer hk hlayer)

/-- No layer of such a type is made on top of another. -/
theorem layerInfo_perInterface {child : SCNetworkInterface} {t : String}
    (ht : t ∈ perInterfaceConfig) : layerInfo child t = none := by
  simp only [perInterfaceConfig, List.mem_cons, List.not_mem_nil, or_false] at ht
  obtain rfl | rfl | rfl | rfl | rfl | rfl | rfl := ht <;> rfl

/-- The types of the layers that are made, PPP and those of the tunnels, keep their configuration
with the service. -/
theorem onlyLowest_createWithInterface {child i : SCNetworkInterface} {t : String}
    (h : scNetworkInterfaceCreateWithInterface child t = some i) (hchild : OnlyLowest child) :
    OnlyLowest i := by
  have htype : i.info.interfaceType ∉ perInterfaceConfig := by
    rw [interfaceType_of_createWithInterface h]
    intro ht
    obtain ⟨info, hinfo, -⟩ := createWithInterface_eq_some h
    rw [layerInfo_perInterface ht] at hinfo
    cases hinfo
  exact onlyLowest_layer (interface_of_createWithInterface h) htype hchild

/-- Hiding the configuration changes none of the types. -/
theorem onlyLowest_hideConfiguration {i : SCNetworkInterface} (hidden : Bool) (h : OnlyLowest i) :
    OnlyLowest (i.hideConfiguration hidden) := by
  cases i with | mk info bond bridge vlan interface
  cases interface with
  | none => exact onlyLowest_single rfl
  | some child =>
    intro k layer hk hlayer
    rw [SCNetworkInterface.hideConfiguration, SCNetworkInterface.layers] at hk ⊢
    cases k with
    | zero =>
      obtain rfl := Option.some.inj hk
      exact h 0 (.mk info bond bridge vlan (some child)) rfl hlayer
    | succ k => exact h (k + 1) layer hk hlayer

/-- The tunnels go over the IPv4 interface, which is one layer. -/
theorem onlyLowest_overIPv4 {t : String} {i : SCNetworkInterface}
    (h : scNetworkInterfaceCreateWithInterface kSCNetworkInterfaceIPv4 t = some i) :
    OnlyLowest i :=
  onlyLowest_createWithInterface h (onlyLowest_single rfl)

/-- An interface that the system does not have is made from its entity, as one layer or with PPP on
top. -/
theorem onlyLowest_createAbsent {sys : SystemInterfaces} {entity : InterfaceEntity}
    {ifType : String} {ifSubType : Option String} {i : SCNetworkInterface}
    (h : createAbsent sys .external entity ifType ifSubType = some i) : OnlyLowest i := by
  rw [createAbsent] at h
  simp only [Search.virtualPrefs, Option.bind_none, ite_self] at h
  split_ifs at h with hether hairPort hfirewire hppp hppoe hairPort hserial hvpn hipsec h6to4
    hloopback hdot
  · cases h
    exact onlyLowest_single rfl
  · cases h
    exact onlyLowest_single rfl
  · cases h
    exact onlyLowest_single rfl
  · cases h
    exact onlyLowest_single rfl
  · cases h
    exact onlyLowest_single rfl
  · cases h
    exact onlyLowest_single rfl
  · obtain ⟨t, -, h⟩ := Option.bind_eq_some_iff.mp h
    exact onlyLowest_overIPv4 h
  · obtain ⟨t, -, h⟩ := Option.bind_eq_some_iff.mp h
    exact onlyLowest_overIPv4 h
  · exact onlyLowest_overIPv4 h
  · obtain ⟨device, -, h⟩ := Option.bind_eq_some_iff.mp h
    exact onlyLowest_overIPv4 h
  · cases h
    exact onlyLowest_single rfl
  · cases h
    exact onlyLowest_single rfl

/-- What was found, or else what is made in its place. -/
theorem onlyLowest_finishEntity {sys : SystemInterfaces} {entity : InterfaceEntity}
    {ifType : String} {ifSubType : Option String} {interface : Option SCNetworkInterface}
    {i : SCNetworkInterface}
    (h : finishEntity sys .external entity ifType ifSubType interface = some i) :
    OnlyLowest i := by
  unfold finishEntity at h
  obtain ⟨found, hfound, h⟩ := Option.bind_eq_some_iff.mp h
  have hlowest : OnlyLowest found := by
    -- nothing that was looked up is used
    have habsent : (createAbsent sys .external entity ifType ifSubType).map
        (SCNetworkInterface.hideConfiguration (isHidden entity.hiddenConfiguration)) =
        some found := by
      cases interface <;> simpa [Search.useSystemInterfaces] using hfound
    obtain ⟨absent, hcreated, rfl⟩ := Option.map_eq_some_iff.mp habsent
    exact onlyLowest_hideConfiguration _ (onlyLowest_createAbsent hcreated)
  split_ifs at h with hppp hvpn
  · exact onlyLowest_createWithInterface h hlowest
  · exact onlyLowest_createWithInterface h hlowest
  · cases h
    exact hlowest

/-- So every interface that is made from an entity of a service has its configuration with the
interface at the lowest layer only. -/
theorem onlyLowest_createWithEntity {sys : SystemInterfaces} {entity : InterfaceEntity}
    {i : SCNetworkInterface} (h : createWithEntity sys .external entity = some i) :
    OnlyLowest i := by
  unfold createWithEntity at h
  dsimp only at h
  split_ifs at h
  split at h
  · cases h
  · exact onlyLowest_finishEntity h
  · exact onlyLowest_finishEntity h
  · exact onlyLowest_finishEntity h

/-! ## Configurations at one place -/

/-- What there is at a place of the source. -/
def SourceService.valueAt (source : SourceService D) (place : ConfigurationPlace) : Option D :=
  match place with
  | .interface _ entity | .service entity =>
    (source.stored place).or
      (if entity = kSCEntNetAirPort then source.stored (.service kSCEntNetAirPort) else none)

/-- What is set for a layer, and from where it was read. -/
theorem mem_configurationWrites {source : SourceService D} {olds news : List SCNetworkInterface}
    {w : ConfigurationWrite D} (hw : w ∈ configurationWrites source olds news) :
    ∃ k : ℕ, olds[k]? = some w.old ∧ news[k]? = some w.new ∧ w.extendedType ∈ copiedTypes w.old ∧
      w.value = (source.read w.old w.extendedType).value ∧
      (w.value.isSome || (source.read w.old w.extendedType).statusOK) = true := by
  induction olds generalizing news with
  | nil => cases hw
  | cons old olds ih =>
    cases news with
    | nil => cases hw
    | cons new news =>
      rw [configurationWrites, List.mem_append] at hw
      obtain hw | hw := hw
      · rw [layerWrites, List.mem_filterMap] at hw
        obtain ⟨extendedType, htype, hw⟩ := hw
        simp only at hw
        split_ifs at hw with hread
        obtain rfl := Option.some.inj hw
        exact ⟨0, rfl, rfl, htype, rfl, hread⟩
      · obtain ⟨k, hk⟩ := ih hw
        exact ⟨k + 1, hk⟩

/-- The migration never copies the configuration of AirPort: it names the types that it copies. -/
theorem copiedTypes_ne_airPort {layer : SCNetworkInterface} {entity : String}
    (h : some entity ∈ copiedTypes layer) : entity ≠ kSCEntNetAirPort := by
  rintro rfl
  rw [copiedTypes] at h
  split_ifs at h <;> revert h <;> decide

/-- Where there is a place there is an entity, and its type decides whether it is with the interface
or with the service. -/
theorem configurationEntity_of_place {layer : SCNetworkInterface} {extendedType : Option String}
    {place : ConfigurationPlace} (h : configurationPlace layer extendedType = some place) :
    ∃ entity, configurationEntity layer extendedType = some entity ∧
      place = if layer.info.interfaceType ∈ perInterfaceConfig then
        .interface layer.info.entityDevice entity else .service entity := by
  obtain ⟨entity, hentity, rfl⟩ := Option.map_eq_some_iff.mp h
  exact ⟨entity, hentity, rfl⟩

/-- What is read of a layer is what is stored at its place. -/
theorem read_value {source : SourceService D} {layer : SCNetworkInterface}
    {extendedType : Option String} (htype : extendedType ∈ copiedTypes layer)
    (hread : ((source.read layer extendedType).value.isSome ||
      (source.read layer extendedType).statusOK) = true)
    {place : ConfigurationPlace} (hplace : configurationPlace layer extendedType = some place) :
    (source.read layer extendedType).value = source.valueAt place := by
  obtain ⟨entity, hentity, hplace'⟩ := configurationEntity_of_place hplace
  have hvalue : source.valueAt place = (source.stored place).or
      (if entity = kSCEntNetAirPort then source.stored (.service kSCEntNetAirPort) else none) := by
    rw [hplace']
    split_ifs <;> simp [SourceService.valueAt, *]
  cases extendedType with
  | none =>
    simp only [SourceService.read, hplace, hentity, Option.some.injEq, hvalue]
  | some extendedType =>
    obtain rfl : extendedType = entity := Option.some.inj hentity
    rw [hvalue, if_neg (copiedTypes_ne_airPort htype), Option.or_none]
    rw [SourceService.read] at hread ⊢
    split_ifs at hread ⊢ with hvalid
    · rw [hplace, Option.bind_some]
    · cases hread

/-- Layers of the same type and device store their configuration under the same names. -/
theorem configurationEntity_congr {old new : SCNetworkInterface} (h : SamePlaces old new)
    (extendedType : Option String) :
    configurationEntity old extendedType = configurationEntity new extendedType := by
  rw [configurationEntity, configurationEntity, h.2]

/-- **Configurations that go to one place come from one place.** -/
theorem writes_agree {source : SourceService D} {i n : SCNetworkInterface} (hlowest : OnlyLowest n)
    (hmatch : LayersMatch i.layers n.layers) {w w' : ConfigurationWrite D}
    (hw : w ∈ configurationWrites source i.layers n.layers)
    (hw' : w' ∈ configurationWrites source i.layers n.layers) {place : ConfigurationPlace}
    (hplace : configurationPlace w.new w.extendedType = some place)
    (hplace' : configurationPlace w'.new w'.extendedType = some place) : w.value = w'.value := by
  obtain ⟨k, hold, hnew, htype, hvalue, hread⟩ := mem_configurationWrites hw
  obtain ⟨k', hold', hnew', htype', hvalue', hread'⟩ := mem_configurationWrites hw'
  have hsame := hmatch k _ _ hold hnew
  have hsame' := hmatch k' _ _ hold' hnew'
  obtain ⟨entity, hentity, rfl⟩ := configurationEntity_of_place hplace
  obtain ⟨entity', hentity', heq⟩ := configurationEntity_of_place hplace'
  rw [← configurationEntity_congr hsame] at hentity
  rw [← configurationEntity_congr hsame'] at hentity'
  -- the place that both were read from
  have hfrom : configurationPlace w.old w.extendedType =
      configurationPlace w'.old w'.extendedType := by
    rw [configurationPlace, configurationPlace, hentity, hentity', Option.map_some,
      Option.map_some]
    by_cases hper : w.new.info.interfaceType ∈ perInterfaceConfig
    · by_cases hper' : w'.new.info.interfaceType ∈ perInterfaceConfig
      · -- both are the lowest layer
        have hk : k = k' := by
          have h := hlowest k _ hnew hper
          have h' := hlowest k' _ hnew' hper'
          omega
        subst hk
        have holds : w.old = w'.old := Option.some.inj (hold.symm.trans hold')
        rw [if_pos hper, if_pos hper'] at heq
        injection heq with _ heq
        rw [holds, heq]
      · rw [if_pos hper, if_neg hper'] at heq
        cases heq
    · by_cases hper' : w'.new.info.interfaceType ∈ perInterfaceConfig
      · rw [if_neg hper, if_pos hper'] at heq
        cases heq
      · rw [if_neg hper, if_neg hper'] at heq
        injection heq with heq
        rw [if_neg (mt hsame.1.mp hper), if_neg (mt hsame'.1.mp hper'), heq]
  rw [hvalue] at hread ⊢
  rw [hvalue'] at hread' ⊢
  obtain ⟨origin, hplaced⟩ : ∃ origin, configurationPlace w.old w.extendedType = some origin := by
    rw [configurationPlace, hentity]
    exact ⟨_, rfl⟩
  rw [read_value htype hread hplaced, read_value htype' hread' (hfrom ▸ hplaced)]

end ConfigdExtra
