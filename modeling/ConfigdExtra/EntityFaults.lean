import ConfigdExtra.EntityObjects

/-!
# What a file can break

When an interface is made from a dictionary without misusing an object, and holds objects of the
declared kinds only.

* `InterfaceObject.WellTyped`, `Sound` — such an interface, and such a run.
* `EntityFits`, `StorageFits` — what the dictionary has to be like.
* `decoders_sound_iff` — it has to be, and that is enough.
-/

namespace ConfigdExtra

/-! ## Well-typed interfaces -/

namespace InterfaceObject

/-- Every field holds an object of its kind, or none, on every layer. -/
def WellTyped : InterfaceObject → Prop
  | mk info _ _ _ none => ∀ field, OfKind field.kind (info.fields field)
  | mk info _ _ _ (some child) => (∀ field, OfKind field.kind (info.fields field)) ∧ child.WellTyped

theorem WellTyped.fields {i : InterfaceObject} (h : i.WellTyped) (field : InterfaceField) :
    OfKind field.kind (i.info.fields field) := by
  obtain ⟨info, bond, bridge, vlan, _ | child⟩ := i
  · exact h field
  · exact h.1 field

/-- What is written to a well-typed interface has to be well-typed. -/
theorem WellTyped.update {i : InterfaceObject} (h : i.WellTyped) {f : ObjectInfo → ObjectInfo}
    (hf : ∀ field, OfKind field.kind ((f i.info).fields field)) : (i.update f).WellTyped := by
  obtain ⟨info, bond, bridge, vlan, _ | child⟩ := i
  · exact hf
  · exact ⟨hf, h.2⟩

/-- An update that keeps the fields keeps their types. -/
theorem update_wellTyped_iff {i : InterfaceObject} {f : ObjectInfo → ObjectInfo}
    (hf : (f i.info).fields = i.info.fields) : (i.update f).WellTyped ↔ i.WellTyped := by
  obtain ⟨info, bond, bridge, vlan, _ | child⟩ := i
  · exact forall_congr' fun field => by rw [show (f info).fields = info.fields from hf]
  · exact and_congr_left' (forall_congr' fun field => by
      rw [show (f info).fields = info.fields from hf])

end InterfaceObject

/-- Strings, numbers, data and arrays that were made elsewhere are of their kind. -/
theorem InterfaceInfo.ofKind_objects (info : InterfaceInfo) (field : InterfaceField) :
    OfKind field.kind (info.objects field) := by
  cases field <;>
    simp [OfKind, InterfaceInfo.objects, InterfaceField.kind, PropertyList.kind]

/-- An interface that was not made from a file is well-typed. -/
theorem SCNetworkInterface.wellTyped_object : (i : SCNetworkInterface) → i.object.WellTyped
  | .mk info _ _ _ none => info.ofKind_objects
  | .mk info _ _ _ (some child) => ⟨info.ofKind_objects, child.wellTyped_object⟩

/-! ## Sound runs -/

/-- A run misuses no object, and returns `NULL` or a well-typed interface. -/
def Sound (m : Checked (Option InterfaceObject)) : Prop :=
  Returns m fun r => ∀ i ∈ r, i.WellTyped

@[simp] theorem sound_none : Sound (pure none) := by
  simp [Sound]

/-- An interface that is returned has fields of the right types. -/
@[simp] theorem sound_some {i : InterfaceObject} : Sound (pure (some i)) ↔ i.WellTyped := by
  simp [Sound]

/-- Two parts in a row: what the first returns, the second makes sound. -/
@[simp] theorem sound_bind {α : Type} {m : Checked α}
    {f : α → Checked (Option InterfaceObject)} :
    Sound (m >>= f) ↔ Returns m fun a => Sound (f a) :=
  returns_bind

/-- The fields of a PPP layer are its own, or those of the interface below. -/
theorem ofKind_pppLayer {child : InterfaceObject} (h : child.WellTyped)
    {subtype : Option PropertyList} (hsubtype : OfKind .string subtype) (field : InterfaceField) :
    OfKind field.kind (match field with
      | .entityType => some (.string "PPP")
      | .entitySubtype => subtype
      | .entityDevice => ((child.info.fields .entityDevice).bind PropertyList.string?).map .string
      | .entityDeviceUnique =>
        ((child.info.fields .entityDeviceUnique).bind PropertyList.string?).map .string
      | _ => none) := by
  have hdevice : OfKind .string (child.info.fields .entityDevice) := h.fields .entityDevice
  have hunique : OfKind .string (child.info.fields .entityDeviceUnique) :=
    h.fields .entityDeviceUnique
  cases field with
  | entitySubtype => exact hsubtype
  | entityDevice => exact (ofKind_string.mp hdevice) ▸ hdevice
  | entityDeviceUnique => exact (ofKind_string.mp hunique) ▸ hunique
  | entityType => exact ofKind_some.mpr rfl
  | _ => exact ofKind_none _

/-- A layer of PPP takes its strings from below. -/
theorem sound_ppp {child : InterfaceObject} (h : child.WellTyped) :
    Sound (createWithInterfaceObject child kSCNetworkInterfaceTypePPP) := by
  have hdevice : OfKind .string (child.info.fields .entityDevice) := h.fields .entityDevice
  have hunique : OfKind .string (child.info.fields .entityDeviceUnique) :=
    h.fields .entityDeviceUnique
  have htype : OfKind .string (child.info.fields .entityType) := h.fields .entityType
  rw [createWithInterfaceObject]
  by_cases hloopback : child.isLoopback
  · rw [if_pos hloopback]
    exact sound_none
  rw [if_neg hloopback, if_pos rfl]
  split
  · split
    · simp only [sound_bind, returns_copyString, sound_some]
      exact ⟨hdevice, hunique, ofKind_pppLayer h (ofKind_some.mpr rfl), h⟩
    · exact sound_none
  · simp only [sound_bind, returns_copyString, sound_some]
    exact ⟨hdevice, hunique, ofKind_pppLayer h htype, h⟩

/-- A layer of VPN takes its type from below, so there has to be one. -/
theorem sound_vpn {child : InterfaceObject} (h : child.WellTyped)
    (htype : ∃ s, child.info.fields .entityType = some (.string s)) :
    Sound (createWithInterfaceObject child kSCNetworkInterfaceTypeVPN) := by
  have hdevice : OfKind .string (child.info.fields .entityDevice) := h.fields .entityDevice
  obtain ⟨vpnType, htype⟩ := htype
  rw [createWithInterfaceObject]
  by_cases hloopback : child.isLoopback
  · rw [if_pos hloopback]
    exact sound_none
  rw [if_neg hloopback, if_neg (by decide), if_neg (by decide), if_neg (by decide),
    if_neg (by decide), if_neg (by decide), if_pos rfl]
  split
  · exact sound_none
  · simp only [sound_bind, returns_stringOf, returns_copyString, sound_some]
    refine ⟨vpnType, htype, hdevice, fun field => ?_, h⟩
    cases field with
    | entityDevice => exact (ofKind_string.mp hdevice) ▸ hdevice
    | localizedName =>
      cases vpnName vpnType with
      | none => exact ofKind_none _
      | some name => exact ofKind_some.mpr rfl
    | entityType => exact ofKind_some.mpr rfl
    | entitySubtype => exact ofKind_some.mpr rfl
    | localizedArg1 => exact ofKind_some.mpr rfl
    | _ => exact ofKind_none _

/-- A layer has an entity type. -/
theorem entityType_of_create {child i : SCNetworkInterface} {interfaceType : String}
    (h : scNetworkInterfaceCreateWithInterface child interfaceType = some i) :
    ∃ s, i.object.info.fields .entityType = some (.string s) := by
  rw [scNetworkInterfaceCreateWithInterface] at h
  split_ifs at h
  obtain ⟨info, hinfo, rfl⟩ := Option.map_eq_some_iff.mp h
  suffices htype : ∃ s, info.entityType = some s by
    obtain ⟨s, hs⟩ := htype
    exact ⟨s, congrArg (Option.map _) hs⟩
  simp only [layerInfo] at hinfo
  split_ifs at hinfo with hppp
  · split at hinfo
    · split at hinfo
      · obtain rfl := Option.some.inj hinfo
        exact ⟨_, rfl⟩
      · cases hinfo
    · obtain rfl := Option.some.inj hinfo
      exact ⟨_, rfl⟩
  all_goals first
    | obtain rfl := Option.some.inj hinfo
      exact ⟨_, rfl⟩
    | skip
  -- VPN
  split at hinfo
  · cases hinfo
  · obtain rfl := Option.some.inj hinfo
    exact ⟨_, rfl⟩

/-! ## What is made of the entity alone -/

section

variable (sys : SystemInterfaces) (search : Search) (entity : PlistDictionary)

/-- A virtual interface of the preferences takes the place of what the entity says. -/
def FindsVirtual (ifDevice : String) : Prop :=
  search.useSystemInterfaces = false ∧ ∃ prefs ∈ search.virtualPrefs,
    ∃ i ∈ prefs.bridges ++ prefs.bonds ++ prefs.vlans, i.info.entityDevice = some ifDevice

/-- The types whose interface holds the `SubType` of the entity, whatever it is. -/
def KeepsSubType (ifType : String) : Prop :=
  ifType = "FireWire" ∨ hasDot ifType ∨
    ifType = "Ethernet" ∧
      ∀ ifDevice, entity.value kSCPropNetInterfaceDeviceName = some (.string ifDevice) →
        ¬ FindsVirtual search ifDevice

/-- The objects that an interface is made of are strings, where they have to be. -/
structure EntityStrings (ifType : String) : Prop where
  /-- the device is copied -/
  deviceName : OfKind .string (entity.value kSCPropNetInterfaceDeviceName)
  /-- so is its identifier -/
  deviceUnique : OfKind .string (entity.value deviceUniqueIdentifier)
  subType : KeepsSubType search entity ifType →
    OfKind .string (entity.value kSCPropNetInterfaceSubType)

/-- The types for which the device is checked first. -/
def NeedsDevice (ifType : String) : Prop :=
  ifType = "Ethernet" ∨ ifType = "FireWire" ∨ ifType = "6to4" ∨
    ifType = "PPP" ∧ (isString (entity.value kSCPropNetInterfaceSubType) "PPPoE" ∨
      isString (entity.value kSCPropNetInterfaceSubType) "PPPSerial")

/-- The entity has the type, and what is checked for this type. -/
structure Reads (ifType : String) : Prop where
  type : (entity.value kSCPropNetInterfaceType).getD (.string "Ethernet") = .string ifType
  subType : ifType = "PPP" ∨ ifType = "VPN" →
    ∃ s, entity.value kSCPropNetInterfaceSubType = some (.string s)
  deviceName : NeedsDevice entity ifType →
    ∃ s, entity.value kSCPropNetInterfaceDeviceName = some (.string s)

variable {sys search entity}

theorem findInterface_eq_none {interfaces : List SCNetworkInterface} {device : String} :
    findInterface interfaces device = none ↔
      ∀ i ∈ interfaces, i.info.entityDevice ≠ some device := by
  simp [findInterface]

/-- An object for a device that is not present is well-typed if its `SubType` is a string. -/
theorem absentObject_wellTyped_iff {ifType interfaceType : String}
    {device deviceUnique : Option String} {builtin : Bool} :
    (absentObject search entity ifType device deviceUnique interfaceType builtin).WellTyped ↔
      OfKind .string (entity.value kSCPropNetInterfaceSubType) := by
  constructor
  · exact fun h => h .entitySubtype
  · intro h field
    have hstring : ∀ s : Option String, OfKind .string (s.map .string) := by
      rintro (_ | s)
      · exact ofKind_none _
      · exact ofKind_some.mpr rfl
    have hname : OfKind .string (if search.useSystemInterfaces then none
        else isA .string (entity.value kSCPropUserDefinedName)) := by
      split_ifs
      · exact ofKind_none _
      · exact ofKind_isA _ _
    cases field with
    | entityType => exact ofKind_some.mpr rfl
    | entitySubtype => exact h
    | entityDevice => exact hstring device
    | entityDeviceUnique => exact hstring deviceUnique
    | name => exact hname
    | localizedName => exact hname
    | _ => exact ofKind_none _

/-- No virtual interface is found exactly if there is none of the name. -/
theorem findVirtualByDevice_eq_none_iff {ifDevice : String} :
    findVirtualByDevice search ifDevice = none ↔ ¬ FindsVirtual search ifDevice := by
  rw [findVirtualByDevice]
  cases huse : search.useSystemInterfaces with
  | true => simp [FindsVirtual, huse]
  | false =>
    simp only [Bool.false_eq_true, if_false, Option.bind_eq_none_iff, Option.or_eq_none_iff,
      findInterface_eq_none, FindsVirtual, huse, true_and, not_exists, not_and, List.mem_append]
    constructor
    · rintro h prefs hprefs i ((hi | hi) | hi)
      · exact (h prefs hprefs).1.1 i hi
      · exact (h prefs hprefs).1.2 i hi
      · exact (h prefs hprefs).2 i hi
    · intro h prefs hprefs
      exact ⟨⟨fun i hi => h prefs hprefs i (.inl (.inl hi)),
        fun i hi => h prefs hprefs i (.inl (.inr hi))⟩, fun i hi => h prefs hprefs i (.inr hi)⟩

theorem sound_createParentObject {ifType : String} {i : InterfaceObject} (hppp : ifType ≠ "PPP")
    (hvpn : ifType ≠ "VPN") : Sound (createParentObject ifType (some i)) ↔ i.WellTyped := by
  rw [createParentObject, if_neg hppp, if_neg hvpn, sound_some]

/-- A well-typed interface can be layered; for VPN it has to have a type. -/
theorem InterfaceObject.WellTyped.sound_createParentObject {ifType : String} {i : InterfaceObject}
    (h : i.WellTyped)
    (hvpn : ifType = "VPN" → ∃ s, i.info.fields .entityType = some (.string s)) :
    Sound (createParentObject ifType (some i)) := by
  rw [createParentObject]
  split_ifs with hppp htype
  · exact sound_ppp h
  · exact sound_vpn h (hvpn htype)
  · exact sound_some.mpr h

/-- What is created over IPv4 for PPP and VPN is sound. -/
theorem sound_createOverIPv4 {ifType : String} {ifSubType : Option PropertyList} {hidden : Bool} :
    Sound (createParentObject ifType (((createOverIPv4 ifSubType).map
      SCNetworkInterface.object).map (InterfaceObject.update fun info =>
        { info with hiddenConfiguration := hidden }))) := by
  cases h : createOverIPv4 ifSubType with
  | none => exact sound_none
  | some i =>
    obtain ⟨s, -, hs⟩ := Option.bind_eq_some_iff.mp h
    obtain ⟨t, ht⟩ := entityType_of_create hs
    refine InterfaceObject.WellTyped.sound_createParentObject
      ((InterfaceObject.update_wellTyped_iff rfl).mpr i.wellTyped_object) fun _ => ⟨t, ?_⟩
    rw [InterfaceObject.info_update]
    exact ht

/-- An object for a device that is not present is sound if its `SubType` is a string. -/
theorem sound_absentObject_iff {ifType interfaceType : String} {device deviceUnique : Option String}
    {builtin hidden : Bool} (hppp : ifType ≠ "PPP") (hvpn : ifType ≠ "VPN") :
    Sound (createParentObject ifType (some ((absentObject search entity ifType device deviceUnique
        interfaceType builtin).update fun info => { info with hiddenConfiguration := hidden }))) ↔
      OfKind .string (entity.value kSCPropNetInterfaceSubType) := by
  rw [createParentObject, if_neg hppp, if_neg hvpn, sound_some,
    InterfaceObject.update_wellTyped_iff (by rfl), absentObject_wellTyped_iff]

/-- An object below PPP is sound if the `SubType` is a string. -/
theorem sound_absentObject_ppp {interfaceType : String} {device deviceUnique : Option String}
    {builtin hidden : Bool} (h : OfKind .string (entity.value kSCPropNetInterfaceSubType)) :
    Sound (createParentObject "PPP" (some ((absentObject search entity "PPP" device deviceUnique
        interfaceType builtin).update fun info => { info with hiddenConfiguration := hidden }))) :=
  InterfaceObject.WellTyped.sound_createParentObject
    ((InterfaceObject.update_wellTyped_iff (by rfl)).mpr (absentObject_wellTyped_iff.mpr h)) nofun

/-- For Ethernet, the `SubType` is held if no virtual interface is found. -/
theorem keepsSubType_ethernet {ifDevice : String}
    (hdevice : entity.value kSCPropNetInterfaceDeviceName = some (.string ifDevice)) :
    KeepsSubType search entity "Ethernet" ↔ ¬ FindsVirtual search ifDevice := by
  constructor
  · rintro (h | h | ⟨-, h⟩)
    · exact absurd h (by decide)
    · exact absurd h (by decide)
    · exact h ifDevice hdevice
  · intro h
    refine .inr (.inr ⟨rfl, fun d hd => ?_⟩)
    obtain rfl : ifDevice = d := by simpa [hdevice] using hd
    exact h

/-- What is made of the entity alone is sound if it is made of strings. -/
theorem sound_createAbsent_iff {ifType : String} {hidden : Bool} (hreads : Reads entity ifType) :
    (Sound do
      let absent ← createAbsentObject sys search entity ifType
      createParentObject ifType (absent.map (InterfaceObject.update fun info =>
        { info with hiddenConfiguration := hidden }))) ↔ EntityStrings search entity ifType := by
  have hstrings : EntityStrings search entity ifType ↔
      OfKind .string (entity.value kSCPropNetInterfaceDeviceName) ∧
      OfKind .string (entity.value deviceUniqueIdentifier) ∧
      (KeepsSubType search entity ifType →
        OfKind .string (entity.value kSCPropNetInterfaceSubType)) :=
    ⟨fun h => ⟨h.1, h.2, h.3⟩, fun h => ⟨h.1, h.2.1, h.2.2⟩⟩
  rw [hstrings, sound_bind, createAbsentObject]
  simp only [returns_bind, returns_copyString]
  refine and_congr_right fun hdevice => and_congr_right fun hunique => ?_
  by_cases hether : ifType = "Ethernet"
  · subst hether
    obtain ⟨d, hd⟩ := hreads.deviceName (.inl rfl)
    rw [if_pos rfl, keepsSubType_ethernet hd, ← findVirtualByDevice_eq_none_iff, hd]
    simp only [Option.bind_some, PropertyList.string?]
    cases findVirtualByDevice search d with
    | some i =>
      simp only [returns_pure, reduceCtorEq, false_imp_iff, iff_true]
      exact InterfaceObject.WellTyped.sound_createParentObject
        ((InterfaceObject.update_wellTyped_iff (by rfl)).mpr i.wellTyped_object)
        fun h => absurd h (by decide)
    | none =>
      simp only [true_imp_iff]
      split_ifs
      · exact returns_pure.trans (sound_absentObject_iff (by decide) (by decide))
      · exact returns_pure.trans (sound_absentObject_iff (by decide) (by decide))
  rw [if_neg hether]
  by_cases hfirewire : ifType = "FireWire"
  · subst hfirewire
    have hkeeps : KeepsSubType search entity "FireWire" := .inl rfl
    rw [if_pos rfl, forall_prop_of_true hkeeps]
    exact returns_pure.trans (sound_absentObject_iff (by decide) (by decide))
  rw [if_neg hfirewire]
  by_cases hsub : ifType = "PPP" ∨ ifType = "VPN"
  · -- the `SubType` was checked
    obtain ⟨subType, hsubType⟩ := hreads.subType hsub
    have hkind : OfKind .string (entity.value kSCPropNetInterfaceSubType) :=
      hsubType ▸ ofKind_some.mpr rfl
    refine iff_of_true ?_ fun _ => hkind
    obtain rfl | rfl := hsub
    · rw [if_pos ⟨rfl, by rw [hsubType]; rfl⟩]
      by_cases hpppoe : isString (entity.value kSCPropNetInterfaceSubType) "PPPoE"
      · rw [if_pos hpppoe]
        exact returns_pure.mpr (sound_absentObject_ppp hkind)
      rw [if_neg hpppoe]
      by_cases hserial : isString (entity.value kSCPropNetInterfaceSubType) "PPPSerial"
      · obtain ⟨d, hd⟩ := hreads.deviceName (.inr (.inr (.inr ⟨rfl, .inr hserial⟩)))
        rw [if_pos hserial, returns_bind, returns_stringOf]
        exact ⟨d, hd, returns_pure.mpr (sound_absentObject_ppp hkind)⟩
      · rw [if_neg hserial]
        exact returns_pure.mpr sound_createOverIPv4
    · rw [if_neg (by simp), if_pos ⟨rfl, by rw [hsubType]; rfl⟩]
      exact returns_pure.mpr sound_createOverIPv4
  obtain ⟨hppp, hvpn⟩ := not_or.mp hsub
  rw [if_neg fun h => hppp h.1, if_neg fun h => hvpn h.1]
  -- an interface that is not made of the entity
  have hfixed : ∀ {i : SCNetworkInterface}, hasDot ifType = false →
      (Sound (createParentObject ifType
        (some (i.object.update fun info => { info with hiddenConfiguration := hidden }))) ↔
      (KeepsSubType search entity ifType →
        OfKind .string (entity.value kSCPropNetInterfaceSubType))) := by
    intro i hdot
    refine iff_of_true ?_ fun hkeeps => ?_
    · exact (sound_createParentObject hppp hvpn).mpr
        ((InterfaceObject.update_wellTyped_iff (by rfl)).mpr i.wellTyped_object)
    · obtain h | h | ⟨h, -⟩ := hkeeps
      · exact absurd h hfirewire
      · exact absurd h (by simp [hdot])
      · exact absurd h hether
  by_cases hipsec : ifType = "IPSec"
  · subst hipsec
    rw [if_pos rfl]
    exact returns_pure.trans (hfixed (by decide))
  rw [if_neg hipsec]
  by_cases h6to4 : ifType = "6to4"
  · subst h6to4
    obtain ⟨d, hd⟩ := hreads.deviceName (.inr (.inr (.inl rfl)))
    rw [if_pos rfl, hd, isA_string]
    exact returns_pure.trans (hfixed (by decide))
  rw [if_neg h6to4]
  by_cases hloopback : ifType = "Loopback"
  · subst hloopback
    rw [if_pos rfl]
    exact returns_pure.trans (hfixed (by decide))
  rw [if_neg hloopback]
  by_cases hdot : hasDot ifType
  · have hkeeps : KeepsSubType search entity ifType := .inr (.inl hdot)
    rw [if_pos hdot, forall_prop_of_true hkeeps]
    exact returns_pure.trans (sound_absentObject_iff hppp hvpn)
  · rw [if_neg hdot]
    refine iff_of_true (returns_pure.mpr sound_none) fun hkeeps => ?_
    obtain h | h | ⟨h, -⟩ := hkeeps
    · exact absurd h hfirewire
    · exact absurd h hdot
    · exact absurd h hether

/-! ## What is there already -/

variable (entity) in
/-- The types whose interface is looked for by BSD name. -/
def ByBSDName (ifType : String) : Prop :=
  ifType = "Ethernet" ∨ ifType = "FireWire" ∨
    ifType = "PPP" ∧ isString (entity.value kSCPropNetInterfaceSubType) "PPPoE"

variable (entity) in
/-- The type whose interface is looked for by the name of a serial device. -/
def BySerialName (ifType : String) : Prop :=
  ifType = "PPP" ∧ isString (entity.value kSCPropNetInterfaceSubType) "PPPSerial"

variable (sys search entity) in
/-- The interfaces of a serial device: by its base name, or by its name where identifiers do not
matter. -/
def serialInterfaces (ifDevice : String) : Option (List SCNetworkInterface) :=
  if (entity.value deviceUniqueIdentifier).isNone ∧
      ((sys.byTTYBaseName search.keepHidden ifDevice).getD []).all
        (·.info.entityDeviceUnique.isNone) then
    sys.byTTYDevice search.keepHidden ifDevice
  else sys.byTTYBaseName search.keepHidden ifDevice

/-- The types that can be layered over IPv4. -/
def OverIPv4 (interfaceType : String) : Prop :=
  interfaceType ∈ [kSCNetworkInterfaceTypeL2TP, kSCNetworkInterfaceTypePPTP,
    kSCNetworkInterfaceType6to4, kSCNetworkInterfaceTypeIPSec] ∨ hasDot interfaceType

variable (sys search entity) in
/-- Where the interfaces of the system are consulted, there is one for the entity. -/
inductive Present : String → Prop
  | lo0 {ifType : String} : ByBSDName entity ifType →
      entity.value kSCPropNetInterfaceDeviceName = some (.string "lo0") → Present ifType
  | network {ifType ifDevice : String} {l : List SCNetworkInterface} :
      ByBSDName entity ifType →
      entity.value kSCPropNetInterfaceDeviceName = some (.string ifDevice) →
      fitsBSDName ifDevice → sys.byBSDName search.keepHidden ifDevice = some l →
      (selectMatchingObject sys search entity ifType ifDevice l).isSome → Present ifType
  | serial {ifType ifDevice : String} {l : List SCNetworkInterface} :
      BySerialName entity ifType →
      entity.value kSCPropNetInterfaceDeviceName = some (.string ifDevice) →
      serialInterfaces sys search entity ifDevice = some l →
      (selectMatchingObject sys search entity ifType ifDevice l).isSome → Present ifType
  | ppp {subType : String} :
      entity.value kSCPropNetInterfaceSubType = some (.string subType) →
      OverIPv4 subType → Present "PPP"
  | vpn {subType : String} :
      entity.value kSCPropNetInterfaceSubType = some (.string subType) →
      hasDot subType → Present "VPN"
  | fixed {ifType : String} : ifType ∈ ["6to4", "IPSec", "Loopback"] → Present ifType
  | vendor {ifType : String} : hasDot ifType →
      entity.value kSCPropNetInterfaceDeviceName = none → Present ifType

/-- What can be layered over IPv4 is. -/
theorem create_overIPv4_isSome_iff {interfaceType : String} :
    (scNetworkInterfaceCreateWithInterface kSCNetworkInterfaceIPv4 interfaceType).isSome ↔
      OverIPv4 interfaceType := by
  have hconfiguration : findConfiguration kSCNetworkInterfaceIPv4.info.interfaceType =
      some ⟨none, true, none, false⟩ := by
    decide
  have hloopback : kSCNetworkInterfaceIPv4.equal kSCNetworkInterfaceLoopback ≠ true := by
    decide
  rw [scNetworkInterfaceCreateWithInterface, if_neg hloopback, Option.isSome_map]
  simp only [layerInfo, hconfiguration, OverIPv4, List.mem_cons, List.not_mem_nil, or_false]
  by_cases hppp : interfaceType = kSCNetworkInterfaceTypePPP
  · subst hppp
    decide
  by_cases hl2tp : interfaceType = kSCNetworkInterfaceTypeL2TP
  · subst hl2tp
    decide
  by_cases hpptp : interfaceType = kSCNetworkInterfaceTypePPTP
  · subst hpptp
    decide
  by_cases h6to4 : interfaceType = kSCNetworkInterfaceType6to4
  · subst h6to4
    decide
  by_cases hipsec : interfaceType = kSCNetworkInterfaceTypeIPSec
  · subst hipsec
    decide
  by_cases hvpn : interfaceType = kSCNetworkInterfaceTypeVPN
  · subst hvpn
    decide
  simp only [hppp, hl2tp, hpptp, h6to4, hipsec, hvpn, if_false, false_or]
  split_ifs with hdot <;> simp [hdot]

/-- What is created over IPv4 has an entity type. -/
theorem entityType_of_createOverIPv4 {ifSubType : Option PropertyList} {i : SCNetworkInterface}
    (h : createOverIPv4 ifSubType = some i) :
    ∃ s, i.object.info.fields .entityType = some (.string s) := by
  obtain ⟨_, -, h⟩ := Option.bind_eq_some_iff.mp h
  exact entityType_of_create h

/-- What is found after a lookup. -/
def Lookup.found (sys : SystemInterfaces) (search : Search) (entity : PlistDictionary)
    (ifType ifDevice : String) : Lookup → Option SCNetworkInterface
  | refuse => none
  | done interface => interface
  | go none interface => interface
  | go (some l) _ => selectMatchingObject sys search entity ifType ifDevice l

/-- What is read is looked up, and then finished. -/
theorem createWithEntityObject_of_lookup {ifType : String} (ifDevice : String) {lookup : Lookup}
    (hreads : Reads entity ifType)
    (hlookup : lookupObject sys search ifType (entity.value kSCPropNetInterfaceSubType)
      (entity.value kSCPropNetInterfaceDeviceName) (entity.value deviceUniqueIdentifier) =
        .ok lookup)
    (hdevice : ∀ l i, lookup = .go (some l) i →
      entity.value kSCPropNetInterfaceDeviceName = some (.string ifDevice))
    (hrefuse : lookup ≠ .refuse) :
    createWithEntityObject sys search entity =
      finishObject sys search entity ifType (lookup.found sys search entity ifType ifDevice) := by
  have hsub : ¬ ((ifType = "PPP" ∨ ifType = "VPN") ∧
      (isA .string (entity.value kSCPropNetInterfaceSubType)).isNone) := by
    rintro ⟨hsub, hnone⟩
    obtain ⟨s, hs⟩ := hreads.subType hsub
    rw [hs, isA_string] at hnone
    cases hnone
  rw [createWithEntityObject, hreads.type]
  simp only [if_neg hsub, hlookup]
  match lookup with
  | .refuse => exact absurd rfl hrefuse
  | .done interface => rfl
  | .go none interface => rfl
  | .go (some l) i =>
    simp only [hdevice l i rfl]
    rfl

/-- The lookup of a device by its BSD name. -/
theorem lookupObject_byBSDName {ifType ifDevice : String} (hbsd : ByBSDName entity ifType)
    (hdevice : entity.value kSCPropNetInterfaceDeviceName = some (.string ifDevice)) :
    lookupObject sys search ifType (entity.value kSCPropNetInterfaceSubType)
        (entity.value kSCPropNetInterfaceDeviceName) (entity.value deviceUniqueIdentifier) =
      .ok (if ifDevice = "lo0" then .done (some kSCNetworkInterfaceLoopback)
        else if search.useSystemInterfaces then
          if fitsBSDName ifDevice then .go (sys.byBSDName search.keepHidden ifDevice) none
          else .done none
        else .go none none) := by
  have hbsd : ifType = "Ethernet" ∨ ifType = "FireWire" ∨
    ifType = "PPP" ∧ isString (entity.value kSCPropNetInterfaceSubType) "PPPoE" := hbsd
  rw [lookupObject, if_pos hbsd, hdevice, isA_string]
  show (if ifDevice = "lo0" then _ else _) = _
  split_ifs <;> rfl

/-- The lookup of a serial device. -/
theorem lookupObject_serial {ifType ifDevice : String} (hserial : BySerialName entity ifType)
    (hdevice : entity.value kSCPropNetInterfaceDeviceName = some (.string ifDevice)) :
    lookupObject sys search ifType (entity.value kSCPropNetInterfaceSubType)
        (entity.value kSCPropNetInterfaceDeviceName) (entity.value deviceUniqueIdentifier) =
      .ok (.go (if search.useSystemInterfaces then serialInterfaces sys search entity ifDevice
        else none) none) := by
  obtain ⟨rfl, hserial⟩ := hserial
  have hpppoe : ¬ isString (entity.value kSCPropNetInterfaceSubType) "PPPoE" := by
    intro h
    rw [isString, decide_eq_true_iff] at h hserial
    exact absurd (h.symm.trans hserial) (by decide)
  rw [lookupObject, if_neg (by simpa using hpppoe), if_pos rfl, if_pos hserial, hdevice, isA_string,
    serialInterfaces]
  show (if search.useSystemInterfaces then _ else _) = _
  by_cases huse : search.useSystemInterfaces
  · rw [if_pos huse, if_pos huse]
    show (if _ ∧ _ then _ else _) = _
    split_ifs <;> rfl
  · rw [if_neg huse, if_neg huse]
    rfl

/-- The other types are created, or not. -/
theorem lookupObject_rest {ifType : String} (hreads : Reads entity ifType)
    (hbsd : ¬ ByBSDName entity ifType) (hserial : ¬ BySerialName entity ifType) :
    ∃ i, lookupObject sys search ifType (entity.value kSCPropNetInterfaceSubType)
        (entity.value kSCPropNetInterfaceDeviceName) (entity.value deviceUniqueIdentifier) =
          .ok (.go none i) ∧
      (i.isSome ↔ Present sys search entity ifType) ∧
      (ifType = "VPN" → ∀ j ∈ i, ∃ s, j.object.info.fields .entityType = some (.string s)) := by
  -- what can still be present, now that there is no lookup by name
  have hpresent : Present sys search entity ifType ↔
      (ifType = "PPP" ∧ ∃ s, entity.value kSCPropNetInterfaceSubType = some (.string s) ∧
        OverIPv4 s) ∨
      (ifType = "VPN" ∧ ∃ s, entity.value kSCPropNetInterfaceSubType = some (.string s) ∧
        hasDot s) ∨
      ifType ∈ ["6to4", "IPSec", "Loopback"] ∨
      hasDot ifType ∧ entity.value kSCPropNetInterfaceDeviceName = none := by
    constructor
    · rintro (⟨h, -⟩ | ⟨h, -⟩ | ⟨h, -⟩ | ⟨hs, h⟩ | ⟨hs, h⟩ | h | ⟨h, hd⟩)
      · exact absurd h hbsd
      · exact absurd h hbsd
      · exact absurd h hserial
      · exact .inl ⟨rfl, _, hs, h⟩
      · exact .inr (.inl ⟨rfl, _, hs, h⟩)
      · exact .inr (.inr (.inl h))
      · exact .inr (.inr (.inr ⟨h, hd⟩))
    · rintro (⟨rfl, s, hs, h⟩ | ⟨rfl, s, hs, h⟩ | h | ⟨h, hd⟩)
      · exact .ppp hs h
      · exact .vpn hs h
      · exact .fixed h
      · exact .vendor h hd
  have hbsd' : ¬ (ifType = "Ethernet" ∨ ifType = "FireWire" ∨
    ifType = "PPP" ∧ isString (entity.value kSCPropNetInterfaceSubType) "PPPoE") := hbsd
  rw [hpresent, lookupObject, if_neg hbsd']
  -- then one type after the other, in the order of the source
  by_cases hppp : ifType = "PPP"
  · subst hppp
    have hserial' : ¬ isString (entity.value kSCPropNetInterfaceSubType) "PPPSerial" :=
      fun h => hserial ⟨rfl, h⟩
    obtain ⟨s, hs⟩ := hreads.subType (.inl rfl)
    rw [if_pos rfl, if_neg hserial']
    refine ⟨_, rfl, ?_, fun h => absurd h (by decide)⟩
    have hdot : ¬ hasDot "PPP" := by decide
    simp [createOverIPv4, hs, PropertyList.string?, create_overIPv4_isSome_iff, hdot]
  rw [if_neg hppp]
  by_cases h6to4 : ifType = "6to4"
  · subst h6to4
    obtain ⟨d, hd⟩ := hreads.deviceName (.inr (.inr (.inl rfl)))
    rw [if_pos rfl, hd, isA_string]
    exact ⟨_, rfl, iff_of_true (by decide) (.inr (.inr (.inl (by decide)))),
      fun h => absurd h (by decide)⟩
  rw [if_neg h6to4]
  by_cases hipsec : ifType = "IPSec"
  · subst hipsec
    rw [if_pos rfl]
    exact ⟨_, rfl, iff_of_true (by decide) (.inr (.inr (.inl (by decide)))),
      fun h => absurd h (by decide)⟩
  rw [if_neg hipsec]
  by_cases hloopback : ifType = "Loopback"
  · subst hloopback
    rw [if_pos rfl]
    exact ⟨_, rfl, iff_of_true rfl (.inr (.inr (.inl (by decide)))),
      fun h => absurd h (by decide)⟩
  rw [if_neg hloopback]
  by_cases hvpn : ifType = "VPN"
  · subst hvpn
    obtain ⟨s, hs⟩ := hreads.subType (.inr rfl)
    rw [if_pos rfl, hs]
    refine ⟨if hasDot s then createOverIPv4 (some (.string s)) else none, rfl, ?_, ?_⟩
    · have hvpn : ¬ hasDot "VPN" := by decide
      -- the VPN is made for a vendor's subtype only
      by_cases hdot : hasDot s
      · have hsome : (createOverIPv4 (some (.string s))).isSome :=
          create_overIPv4_isSome_iff.mpr (.inr hdot)
        simp [hdot, hsome]
      · simp [hdot, hvpn]
    · intro _ j hj
      split_ifs at hj
      · exact entityType_of_createOverIPv4 hj
      · cases hj
  rw [if_neg hvpn]
  by_cases hdot : hasDot ifType
  · cases hdevice : entity.value kSCPropNetInterfaceDeviceName with
    | none =>
      rw [if_pos ⟨hdot, rfl⟩]
      refine ⟨_, rfl, iff_of_true ?_ (.inr (.inr (.inr ⟨hdot, rfl⟩))), fun h => absurd h hvpn⟩
      exact create_overIPv4_isSome_iff.mpr (.inr hdot)
    | some d =>
      rw [if_neg (by simp)]
      refine ⟨_, rfl, ?_, fun h => absurd h hvpn⟩
      simp [hppp, hvpn, h6to4, hipsec, hloopback]
  · rw [if_neg fun h => hdot h.1]
    refine ⟨_, rfl, ?_, fun h => absurd h hvpn⟩
    simp [hppp, hvpn, h6to4, hipsec, hloopback, hdot]

/-- Two subtypes of PPP are not the same. -/
theorem not_pppSerial_of_pppoe {ifSubType : Option PropertyList} (h : isString ifSubType "PPPoE") :
    ¬ isString ifSubType "PPPSerial" := by
  intro h'
  rw [isString, decide_eq_true_iff] at h h'
  exact absurd (h.symm.trans h') (by decide)

/-- What is present under a BSD name. -/
theorem present_byBSDName_iff {ifType ifDevice : String} (hbsd : ByBSDName entity ifType)
    (hdevice : entity.value kSCPropNetInterfaceDeviceName = some (.string ifDevice)) :
    Present sys search entity ifType ↔ ifDevice = "lo0" ∨ (fitsBSDName ifDevice ∧
      ∃ l, sys.byBSDName search.keepHidden ifDevice = some l ∧
        (selectMatchingObject sys search entity ifType ifDevice l).isSome) := by
  constructor
  · rintro (⟨-, hd⟩ | ⟨-, hd, hfits, hl, h⟩ | ⟨⟨rfl, hserial⟩, -⟩ | ⟨hs, h⟩ | ⟨hs, h⟩ | h | ⟨h, -⟩)
    · exact .inl (by simpa using hdevice.symm.trans hd)
    · obtain rfl : ifDevice = _ := by simpa using hdevice.symm.trans hd
      exact .inr ⟨hfits, _, hl, h⟩
    · obtain h | h | ⟨-, hpppoe⟩ := hbsd
      · exact absurd h (by decide)
      · exact absurd h (by decide)
      · exact absurd hserial (not_pppSerial_of_pppoe hpppoe)
    · obtain h | h | ⟨-, hpppoe⟩ := hbsd
      · exact absurd h (by decide)
      · exact absurd h (by decide)
      · rw [isString, hs, decide_eq_true_iff] at hpppoe
        obtain rfl : _ = "PPPoE" := Option.some.inj hpppoe
        exact absurd h (by simp [OverIPv4]; decide)
    · obtain h | h | ⟨h, -⟩ := hbsd <;> exact absurd h (by decide)
    · obtain rfl | rfl | ⟨rfl, -⟩ := hbsd <;> exact absurd h (by decide)
    · obtain rfl | rfl | ⟨rfl, -⟩ := hbsd <;> exact absurd h (by decide)
  · rintro (rfl | ⟨hfits, l, hl, h⟩)
    · exact .lo0 hbsd hdevice
    · exact .network hbsd hdevice hfits hl h

/-- What is present under the name of a serial device. -/
theorem present_serial_iff {ifType ifDevice : String} (hserial : BySerialName entity ifType)
    (hdevice : entity.value kSCPropNetInterfaceDeviceName = some (.string ifDevice)) :
    Present sys search entity ifType ↔ ∃ l, serialInterfaces sys search entity ifDevice = some l ∧
      (selectMatchingObject sys search entity ifType ifDevice l).isSome := by
  obtain ⟨hppp, hsub⟩ := id hserial
  have hbsd : ¬ ByBSDName entity ifType := by
    rintro (h | h | ⟨-, h⟩)
    · exact absurd (h.symm.trans hppp) (by decide)
    · exact absurd (h.symm.trans hppp) (by decide)
    · exact not_pppSerial_of_pppoe h hsub
  constructor
  · rintro (⟨h, -⟩ | ⟨h, -⟩ | ⟨-, hd, hl, h⟩ | ⟨hs, h⟩ | ⟨-, -⟩ | h | ⟨h, -⟩)
    · exact absurd h hbsd
    · exact absurd h hbsd
    · obtain rfl : ifDevice = _ := by simpa using hdevice.symm.trans hd
      exact ⟨_, hl, h⟩
    · rw [isString, hs, decide_eq_true_iff] at hsub
      obtain rfl : _ = "PPPSerial" := Option.some.inj hsub
      exact absurd h (by simp [OverIPv4]; decide)
    · exact absurd hppp (by decide)
    · subst hppp
      exact absurd h (by decide)
    · subst hppp
      exact absurd h (by decide)
  · rintro ⟨l, hl, h⟩
    exact .serial hserial hdevice hl h

variable (sys search) in
/-- The lookups come to their end, and find what is present. -/
theorem createWithEntityObject_eq {ifType : String} (hreads : Reads entity ifType) :
    ∃ found,
      createWithEntityObject sys search entity = finishObject sys search entity ifType found ∧
      (search.useSystemInterfaces = true →
        (found.isSome ↔ Present sys search entity ifType)) ∧
      (ifType = "VPN" → ∀ i ∈ found, ∃ s, i.object.info.fields .entityType = some (.string s)) := by
  by_cases hbsd : ByBSDName entity ifType
  · obtain ⟨d, hd⟩ : ∃ d, entity.value kSCPropNetInterfaceDeviceName = some (.string d) := by
      refine hreads.deviceName ?_
      obtain h | h | ⟨h, h'⟩ := hbsd
      · exact .inl h
      · exact .inr (.inl h)
      · exact .inr (.inr (.inr ⟨h, .inl h'⟩))
    have hvpn : ifType ≠ "VPN" := by
      obtain rfl | rfl | ⟨rfl, -⟩ := hbsd <;> decide
    refine ⟨_, createWithEntityObject_of_lookup d hreads (lookupObject_byBSDName hbsd hd)
      (fun _ _ _ => hd) (by split_ifs <;> nofun), fun huse => ?_, fun h => absurd h hvpn⟩
    rw [if_pos huse, present_byBSDName_iff hbsd hd]
    by_cases hlo0 : d = "lo0"
    · rw [if_pos hlo0]
      exact iff_of_true rfl (.inl hlo0)
    rw [if_neg hlo0]
    by_cases hfits : fitsBSDName d
    · rw [if_pos hfits]
      cases sys.byBSDName search.keepHidden d <;> simp [Lookup.found, hlo0, hfits]
    · simp [Lookup.found, hlo0, hfits]
  by_cases hserial : BySerialName entity ifType
  · obtain ⟨d, hd⟩ : ∃ d, entity.value kSCPropNetInterfaceDeviceName = some (.string d) :=
      hreads.deviceName (.inr (.inr (.inr ⟨hserial.1, .inr hserial.2⟩)))
    have hvpn : ifType ≠ "VPN" := by
      obtain ⟨rfl, -⟩ := hserial
      decide
    refine ⟨_, createWithEntityObject_of_lookup d hreads (lookupObject_serial hserial hd)
      (fun _ _ _ => hd) nofun, fun huse => ?_, fun h => absurd h hvpn⟩
    rw [if_pos huse, present_serial_iff hserial hd]
    cases serialInterfaces sys search entity d <;> simp [Lookup.found]
  obtain ⟨i, hlookup, hpresent, hvpn⟩ := lookupObject_rest hreads hbsd hserial
  exact ⟨i, createWithEntityObject_of_lookup "" hreads hlookup nofun nofun, fun _ => hpresent,
    hvpn⟩

/-- What is not read is refused. -/
theorem createWithEntityObject_of_not_reads (h : ∀ ifType, ¬ Reads entity ifType) :
    createWithEntityObject sys search entity = pure none := by
  rw [createWithEntityObject]
  split
  case h_2 => rfl
  case h_1 ifType htype =>
    by_cases hsub : (ifType = "PPP" ∨ ifType = "VPN") ∧
        (isA .string (entity.value kSCPropNetInterfaceSubType)).isNone
    · simp only [if_pos hsub]
    simp only [if_neg hsub]
    have hsubType : ifType = "PPP" ∨ ifType = "VPN" →
        ∃ s, entity.value kSCPropNetInterfaceSubType = some (.string s) := by
      intro hppp
      have hsome := fun hnone => hsub ⟨hppp, hnone⟩
      rw [isA_string] at hsome
      cases hvalue : entity.value kSCPropNetInterfaceSubType with
      | none => simp [hvalue] at hsome
      | some v => cases v <;> simp_all [PropertyList.string?]
    -- so it is the device
    obtain ⟨hneeds, hdevice⟩ : NeedsDevice entity ifType ∧
        isA .string (entity.value kSCPropNetInterfaceDeviceName) = none := by
      by_contra hnot
      refine h ifType ⟨htype, hsubType, fun hneeds => ?_⟩
      have hsome := fun hnone => hnot ⟨hneeds, hnone⟩
      rw [isA_string] at hsome
      cases hvalue : entity.value kSCPropNetInterfaceDeviceName with
      | none => simp [hvalue] at hsome
      | some v => cases v <;> simp_all [PropertyList.string?]
    have hrefuse : lookupObject sys search ifType (entity.value kSCPropNetInterfaceSubType)
        (entity.value kSCPropNetInterfaceDeviceName) (entity.value deviceUniqueIdentifier) =
          .ok .refuse := by
      rw [lookupObject, hdevice]
      obtain rfl | rfl | rfl | ⟨rfl, hpppoe | hserial⟩ := hneeds
      · rw [if_pos (.inl rfl)]
        rfl
      · rw [if_pos (.inr (.inl rfl))]
        rfl
      · rw [if_neg (by simp), if_neg (by decide), if_pos rfl]
        rfl
      · rw [if_pos (.inr (.inr ⟨rfl, hpppoe⟩))]
        rfl
      · have hpppoe := fun h => not_pppSerial_of_pppoe h hserial
        rw [if_neg (by simpa using hpppoe), if_pos rfl, if_pos hserial]
        rfl
    rw [hrefuse]
    rfl

variable (sys search entity) in
/-- Where there is no interface for an entity, it is made of strings. -/
def EntityFits : Prop :=
  ∀ ifType, Reads entity ifType →
    (search.useSystemInterfaces = true → ¬ Present sys search entity ifType) →
    EntityStrings search entity ifType

/-- The interface of an entity is made without a misuse if the entity fits. -/
theorem sound_createWithEntityObject_iff :
    Sound (createWithEntityObject sys search entity) ↔ EntityFits sys search entity := by
  by_cases hreads : ∃ ifType, Reads entity ifType
  · obtain ⟨ifType, hreads⟩ := hreads
    have hfits : EntityFits sys search entity ↔
        ((search.useSystemInterfaces = true → ¬ Present sys search entity ifType) →
          EntityStrings search entity ifType) := by
      refine ⟨fun h => h ifType hreads, fun h ifType' hreads' => ?_⟩
      obtain rfl : ifType = ifType' := by
        simpa using hreads.type.symm.trans hreads'.type
      exact h
    obtain ⟨found, hfound, hpresent, hvpn⟩ := createWithEntityObject_eq sys search hreads
    rw [hfits, hfound, finishObject.eq_def]
    split
    case h_1 i huse =>
      refine iff_of_true ?_ fun hnot => absurd ((hpresent huse).mp rfl) (hnot huse)
      exact InterfaceObject.WellTyped.sound_createParentObject i.wellTyped_object
        fun h => hvpn h i rfl
    case h_2 hnone =>
      have habsent : search.useSystemInterfaces = true → ¬ Present sys search entity ifType := by
        intro huse h
        obtain ⟨i, hi⟩ := Option.isSome_iff_exists.mp ((hpresent huse).mpr h)
        exact hnone i hi huse
      rw [forall_prop_of_true habsent]
      exact sound_createAbsent_iff hreads
  · have hreads := not_exists.mp hreads
    rw [createWithEntityObject_of_not_reads hreads]
    exact iff_of_true sound_none fun ifType h => absurd h (hreads ifType)

end

/-! ## Storage entities -/

section

variable {sys : SystemInterfaces}

/-- A value that is missing leaves the dictionary as it was. -/
@[simp] theorem value_set (dict : PlistDictionary) (key key' : String)
    (value : Option PropertyList) :
    (dict.set key value).value key' = if key' = key then value.or (dict.value key')
      else dict.value key' := by
  cases value with
  | none => simp [PlistDictionary.set]
  | some v =>
    simp only [PlistDictionary.set, PlistDictionary.value, List.lookup_cons, Option.some_or]
    by_cases h : key' = key
    · simp [h]
    · simp [h, beq_eq_false_iff_ne.mpr h]

variable {ifType interfaceType bsdName : String} {hidden : Bool} {name : Option PropertyList}

/-- What is read of the entity that a storage entity is read as. -/
theorem stored_type : (storedEntity ifType interfaceType bsdName hidden name).value
    kSCPropNetInterfaceType = some (.string ifType) := by
  simp [storedEntity, kSCPropNetInterfaceType, kSCPropNetInterfaceHardware,
    kSCPropNetInterfaceDeviceName, kSCNetworkInterfaceHiddenConfigurationKey,
    kSCPropUserDefinedName]

/-- A stored entity has no subtype, so none can be of the wrong type. -/
theorem stored_subType : (storedEntity ifType interfaceType bsdName hidden name).value
    kSCPropNetInterfaceSubType = none := by
  simp [storedEntity, kSCPropNetInterfaceType, kSCPropNetInterfaceHardware,
    kSCPropNetInterfaceDeviceName, kSCNetworkInterfaceHiddenConfigurationKey,
    kSCPropUserDefinedName, kSCPropNetInterfaceSubType]
  rfl

theorem stored_deviceName : (storedEntity ifType interfaceType bsdName hidden name).value
    kSCPropNetInterfaceDeviceName = some (.string bsdName) := by
  simp [storedEntity, kSCPropNetInterfaceDeviceName, kSCNetworkInterfaceHiddenConfigurationKey,
    kSCPropUserDefinedName]

theorem stored_deviceUnique : (storedEntity ifType interfaceType bsdName hidden name).value
    deviceUniqueIdentifier = none := by
  simp [storedEntity, kSCPropNetInterfaceType, kSCPropNetInterfaceHardware,
    kSCPropNetInterfaceDeviceName, kSCNetworkInterfaceHiddenConfigurationKey,
    kSCPropUserDefinedName, deviceUniqueIdentifier]
  rfl

/-- The types that an interface can be made of alone. -/
def KnownType (ifType : String) : Prop :=
  ifType ∈ ["Ethernet", "FireWire", "IPSec", "6to4", "Loopback"] ∨ hasDot ifType

variable (sys) in
/-- Of a type other than PPP and VPN, an interface is made if the type is known. -/
theorem createAbsentObject_isSome {search : Search} {entity : PlistDictionary}
    (hreads : Reads entity ifType) (hstrings : EntityStrings search entity ifType)
    (hppp : ifType ≠ "PPP") (hvpn : ifType ≠ "VPN") :
    Returns (createAbsentObject sys search entity ifType) fun r =>
      (r.isSome ↔ KnownType ifType) := by
  rw [createAbsentObject]
  simp only [returns_bind, returns_copyString]
  refine ⟨hstrings.deviceName, hstrings.deviceUnique, ?_⟩
  have hknown : ∀ i : InterfaceObject,
      ifType ∈ ["Ethernet", "FireWire", "IPSec", "6to4", "Loopback"] ∨ hasDot ifType →
      Returns (pure (some i) : Checked _) fun r => (r.isSome ↔ KnownType ifType) :=
    fun i h => returns_pure.mpr (iff_of_true rfl h)
  by_cases hether : ifType = "Ethernet"
  · rw [if_pos hether]
    have h : ifType ∈ ["Ethernet", "FireWire", "IPSec", "6to4", "Loopback"] ∨ hasDot ifType :=
      .inl (by simp [hether])
    split
    · exact hknown _ h
    · split_ifs
      · exact hknown _ h
      · exact hknown _ h
  rw [if_neg hether]
  by_cases hfirewire : ifType = "FireWire"
  · rw [if_pos hfirewire]
    exact hknown _ (.inl (by simp [hfirewire]))
  rw [if_neg hfirewire, if_neg fun h => hppp h.1, if_neg fun h => hvpn h.1]
  by_cases hipsec : ifType = "IPSec"
  · rw [if_pos hipsec]
    exact hknown _ (.inl (by simp [hipsec]))
  rw [if_neg hipsec]
  by_cases h6to4 : ifType = "6to4"
  · obtain ⟨d, hd⟩ := hreads.deviceName (.inr (.inr (.inl h6to4)))
    rw [if_pos h6to4, hd, isA_string]
    exact hknown _ (.inl (by simp [h6to4]))
  rw [if_neg h6to4]
  by_cases hloopback : ifType = "Loopback"
  · rw [if_pos hloopback]
    exact hknown _ (.inl (by simp [hloopback]))
  rw [if_neg hloopback]
  by_cases hdot : hasDot ifType
  · rw [if_pos hdot]
    exact hknown _ (.inr hdot)
  · rw [if_neg hdot, returns_pure]
    simp [KnownType, hether, hfirewire, hipsec, h6to4, hloopback, hdot]

/-- The interface of a storage entity is made without a misuse; it is `NULL` for a type that is
not known. -/
theorem createWithEntityObject_stored (sys : SystemInterfaces)
    (ifType interfaceType bsdName : String) (hidden : Bool) (name : Option PropertyList) :
    Returns (createWithEntityObject sys .external
      (storedEntity ifType interfaceType bsdName hidden name)) fun r =>
        (∀ i ∈ r, i.WellTyped) ∧ (r.isSome ↔ KnownType ifType) := by
  have hstrings : ∀ t, EntityStrings .external
      (storedEntity ifType interfaceType bsdName hidden name) t := fun t =>
    { deviceName := by rw [stored_deviceName]; exact ofKind_some.mpr rfl
      deviceUnique := by rw [stored_deviceUnique]; exact ofKind_none _
      subType := fun _ => by rw [stored_subType]; exact ofKind_none _ }
  have hsound := sound_createWithEntityObject_iff.mpr fun t (_ : Reads (storedEntity ifType
    interfaceType bsdName hidden name) t) (_ : _ → ¬ Present sys .external _ t) => hstrings t
  obtain ⟨r, hr, hwell⟩ := hsound
  refine ⟨r, hr, hwell, ?_⟩
  by_cases hppp : ifType = "PPP" ∨ ifType = "VPN"
  · -- there is no subtype
    have hreads : ∀ t, ¬ Reads (storedEntity ifType interfaceType bsdName hidden name) t := by
      intro t hreads
      obtain rfl : ifType = t := by simpa [stored_type] using hreads.type
      obtain ⟨s, hs⟩ := hreads.subType hppp
      rw [stored_subType] at hs
      cases hs
    obtain rfl : none = r := Except.ok.inj
      ((createWithEntityObject_of_not_reads hreads).symm.trans hr)
    obtain rfl | rfl := hppp <;> exact iff_of_false (by simp) (by unfold KnownType; decide)
  · obtain ⟨hppp', hvpn⟩ := not_or.mp hppp
    have hreads : Reads (storedEntity ifType interfaceType bsdName hidden name) ifType :=
      { type := by rw [stored_type]; rfl
        subType := fun h => absurd h hppp
        deviceName := fun _ => ⟨bsdName, stored_deviceName⟩ }
    obtain ⟨found, hfound, -⟩ := createWithEntityObject_eq sys .external hreads
    obtain ⟨absent, habsent, hknown⟩ := createAbsentObject_isSome sys hreads
      (hstrings ifType) hppp' hvpn
    have hfinish : finishObject sys .external
        (storedEntity ifType interfaceType bsdName hidden name) ifType found =
          .ok (absent.map (InterfaceObject.update fun info =>
            { info with
              hiddenConfiguration := isHiddenObject ((storedEntity ifType interfaceType bsdName
                hidden name).value kSCNetworkInterfaceHiddenConfigurationKey) })) := by
      rw [finishObject.eq_def]
      split
      case h_1 h => cases h
      case h_2 =>
        simp only [habsent]
        cases absent with
        | none => rfl
        | some i =>
          show createParentObject ifType (some _) = _
          rw [createParentObject, if_neg hppp', if_neg hvpn]
          rfl
    rw [hfound, hfinish] at hr
    obtain rfl := Except.ok.inj hr
    rw [Option.isSome_map]
    exact hknown

/-- A storage entity with all that has to be there, its type in the registry, and its type. -/
structure StorageComplete (storageEntity : PlistDictionary) (ioInterfaceType : PropertyList)
    (interfaceType : String) : Prop where
  bsdName : ∃ s, storageEntity.value kSCNetworkInterfaceBSDName = some (.string s)
  ioBuiltin : ∃ b, storageEntity.value kSCNetworkInterfaceIOBuiltin = some (.boolean b)
  ioInterfaceType : isA .number (storageEntity.value kSCNetworkInterfaceIOInterfaceType) =
    some ioInterfaceType
  ioInterfaceUnit : (isA .number (storageEntity.value kSCNetworkInterfaceIOInterfaceUnit)).isSome
  ioMACAddress : (isA .data (storageEntity.value kSCNetworkInterfaceIOMACAddress)).isSome
  ioPathMatch : (isA .string (storageEntity.value kSCNetworkInterfaceIOPathMatch)).isSome
  interfaceInfo : ∃ d, storageEntity.value kSCNetworkInterfaceInfo = some (.dictionary d)
  interfaceType : storageEntity.value kSCNetworkInterfaceType = some (.string interfaceType)

/-- The type in the registry is an integer in range; it is Ethernet or FireWire, or the type is one
that an interface can be made of alone. -/
def StorageFits (storageEntity : PlistDictionary) : Prop :=
  ∀ ioInterfaceType interfaceType,
    StorageComplete storageEntity ioInterfaceType interfaceType →
    ∃ n, ioInterfaceType.intValue? = some n ∧
      (n = IFT_ETHER ∨ n = IFT_IEEE1394 ∨ KnownType interfaceType)

/-- The type of the entity is known for Ethernet and FireWire, and where the type is. -/
theorem knownType_storedObjectType {n : ℤ} {interfaceType : String} :
    KnownType (storedObjectType n interfaceType) ↔
      n = IFT_ETHER ∨ n = IFT_IEEE1394 ∨ KnownType interfaceType := by
  rw [storedObjectType]
  split_ifs with hether hfirewire
  · exact iff_of_true (.inl (by decide)) (.inl hether)
  · exact iff_of_true (.inl (by decide)) (.inr (.inl hfirewire))
  · simp [hether, hfirewire]

/-- A kept object is of the kind that it was checked for. -/
theorem kind_of_isA {kind : PropertyKind} {value : Option PropertyList} {v : PropertyList}
    (h : isA kind value = some v) : v.kind = kind :=
  ofKind_isA kind value v h

/-- A number that cannot be converted faults. -/
@[simp] theorem returns_convertedNumber {P : ℤ → Prop} {v : Option ℤ} :
    Returns (convertedNumber v) P ↔ ∃ n, v = some n ∧ P n := by
  cases v <;> simp [convertedNumber]

/-- An interface that is missing faults where it is used. -/
@[simp] theorem returns_theInterface {α : Type} {P : α → Prop} {v : Option α} :
    Returns (theInterface v) P ↔ ∃ i, v = some i ∧ P i := by
  cases v <;> simp [theInterface]

/-- An interface is made of a storage entity without a misuse if the entity fits. -/
theorem sound_createWithStorageEntityObject_iff {storageEntity : PlistDictionary} :
    Sound (createWithStorageEntityObject sys storageEntity) ↔ StorageFits storageEntity := by
  rw [createWithStorageEntityObject]
  -- each check that fails returns `NULL`
  have hreturn : (∀ t ty, ¬ StorageComplete storageEntity t ty) →
      (Sound (pure none) ↔ StorageFits storageEntity) :=
    fun h => iff_of_true sound_none fun t ty hcomplete => absurd hcomplete (h t ty)
  split
  case h_2 hnot => exact hreturn fun _ _ h => h.bsdName.elim hnot
  case h_1 bsdName hbsdName =>
  split
  case h_2 hnot =>
    refine hreturn fun _ _ h => ?_
    obtain ⟨b, hb⟩ := h.ioBuiltin
    exact hnot b (by simp only [hb]; rfl)
  case h_1 ioBuiltin hioBuiltin =>
  split
  case h_2 hnot => exact hreturn fun t _ h => hnot t h.ioInterfaceType
  case h_1 ioInterfaceType hioInterfaceType =>
  split
  case h_2 hnot =>
    exact hreturn fun _ _ h => (Option.isSome_iff_exists.mp h.ioInterfaceUnit).elim hnot
  case h_1 ioInterfaceUnit hioInterfaceUnit =>
  split
  case h_2 hnot =>
    exact hreturn fun _ _ h => (Option.isSome_iff_exists.mp h.ioMACAddress).elim hnot
  case h_1 ioMACAddress hioMACAddress =>
  split
  case h_2 hnot =>
    exact hreturn fun _ _ h => (Option.isSome_iff_exists.mp h.ioPathMatch).elim hnot
  case h_1 ioPathMatch hioPathMatch =>
  split
  case h_2 hnot =>
    refine hreturn fun _ _ h => ?_
    obtain ⟨d, hd⟩ := h.interfaceInfo
    exact hnot d (by simp only [hd]; rfl)
  case h_1 interfaceInfo hinterfaceInfo =>
  split
  case h_2 hnot => exact hreturn fun _ ty h => hnot ty h.interfaceType
  case h_1 interfaceType hinterfaceType =>
  -- the storage entity is complete
  have hcomplete : StorageComplete storageEntity ioInterfaceType interfaceType :=
    { bsdName := ⟨bsdName, hbsdName⟩
      ioBuiltin := by
        obtain ⟨v, hv, hb⟩ := Option.bind_eq_some_iff.mp hioBuiltin
        cases v <;> simp_all [PropertyList.boolean?]
      ioInterfaceType := hioInterfaceType
      ioInterfaceUnit := Option.isSome_iff_exists.mpr ⟨_, hioInterfaceUnit⟩
      ioMACAddress := Option.isSome_iff_exists.mpr ⟨_, hioMACAddress⟩
      ioPathMatch := Option.isSome_iff_exists.mpr ⟨_, hioPathMatch⟩
      interfaceInfo := by
        obtain ⟨v, hv, hb⟩ := Option.bind_eq_some_iff.mp hinterfaceInfo
        cases v <;> simp_all [PropertyList.entries?]
      interfaceType := hinterfaceType }
  have hfits : StorageFits storageEntity ↔ ∃ n, ioInterfaceType.intValue? = some n ∧
      KnownType (storedObjectType n interfaceType) := by
    simp only [knownType_storedObjectType]
    refine ⟨fun h => h _ _ hcomplete, fun h t ty hcomplete' => ?_⟩
    obtain rfl : ioInterfaceType = t :=
      Option.some.inj (hioInterfaceType.symm.trans hcomplete'.ioInterfaceType)
    obtain rfl : interfaceType = ty := by
      simpa using hinterfaceType.symm.trans hcomplete'.interfaceType
    exact h
  rw [hfits, sound_bind, returns_convertedNumber]
  refine exists_congr fun n => and_congr_right fun _ => ?_
  rw [sound_bind]
  obtain ⟨r, hr, hwell, hknown⟩ := createWithEntityObject_stored sys
    (storedObjectType n interfaceType) interfaceType bsdName
    (((storageEntity.value kSCNetworkInterfaceHiddenConfigurationKey).bind
      PropertyList.boolean?).getD false)
    (isA .string (PlistDictionary.value interfaceInfo kSCPropUserDefinedName))
  rw [hr, returns_ok, ← hknown, sound_bind, returns_theInterface, Option.isSome_iff_exists]
  refine exists_congr fun i => ?_
  rw [sound_some, and_iff_left_iff_imp]
  rintro rfl
  refine (hwell i rfl).update fun field => ?_
  have hkept : ∀ kind value, OfKind kind (isA kind value) := ofKind_isA
  cases field with
  | namePrefix =>
    show OfKind .string (some ((isA .string _).getD _))
    rw [isA_string]
    cases (storageEntity.value kSCNetworkInterfaceIOInterfaceNamePrefix).bind
      PropertyList.string? <;> exact ofKind_some.mpr rfl
  | type => exact ofKind_some.mpr (kind_of_isA hioInterfaceType)
  | unit => exact ofKind_some.mpr (kind_of_isA hioInterfaceUnit)
  | address => exact ofKind_some.mpr (kind_of_isA hioMACAddress)
  | path => exact ofKind_some.mpr (kind_of_isA hioPathMatch)
  | usbName => exact hkept _ _
  | usbPid => exact hkept _ _
  | usbVid => exact hkept _ _
  | matchingMACs => exact hkept _ _
  | name => exact (hwell i rfl).fields .name
  | localizedName => exact (hwell i rfl).fields .localizedName
  | localizedArg1 => exact (hwell i rfl).fields .localizedArg1
  | entityDevice => exact (hwell i rfl).fields .entityDevice
  | entityDeviceUnique => exact (hwell i rfl).fields .entityDeviceUnique
  | entityType => exact (hwell i rfl).fields .entityType
  | entitySubtype => exact (hwell i rfl).fields .entitySubtype

end

/-- Both decoders come to their end without a misuse, with `NULL` or a well-typed interface, if and
only if the dictionary fits. -/
theorem decoders_sound_iff (sys : SystemInterfaces) :
    (∀ search entity, Sound (createWithEntityObject sys search entity) ↔
      EntityFits sys search entity) ∧
    ∀ storageEntity, Sound (createWithStorageEntityObject sys storageEntity) ↔
      StorageFits storageEntity :=
  ⟨fun _ _ => sound_createWithEntityObject_iff, fun _ => sound_createWithStorageEntityObject_iff⟩

/-- An Ethernet interface that is not there, with a number for its identifier. -/
def entityWithNumber : PlistDictionary :=
  [(kSCPropNetInterfaceType, .string "Ethernet"), (kSCPropNetInterfaceDeviceName, .string "en9"),
    (deviceUniqueIdentifier, .integer 5)]

/-- A bridge, as it would be stored. -/
def storedBridge : PlistDictionary :=
  [(kSCNetworkInterfaceBSDName, .string "bridge0"), (kSCNetworkInterfaceIOBuiltin, .boolean true),
    (kSCNetworkInterfaceIOInterfaceType, .integer 209),
    (kSCNetworkInterfaceIOInterfaceUnit, .integer 0), (kSCNetworkInterfaceIOMACAddress, .data []),
    (kSCNetworkInterfaceIOPathMatch, .string "IOService:/bridge0"),
    (kSCNetworkInterfaceInfo, .dictionary []),
    (kSCNetworkInterfaceType, .string kSCNetworkInterfaceTypeBridge)]

/-- The identifier is copied as a string, and `NULL` is written through. -/
theorem decoders_not_sound :
    ¬ Sound (createWithEntityObject emptySystem .null entityWithNumber) ∧
      ¬ Sound (createWithStorageEntityObject emptySystem storedBridge) := by
  have hentity : createWithEntityObject emptySystem .null entityWithNumber = .error .notString :=
    rfl
  have hstorage : createWithStorageEntityObject emptySystem storedBridge =
      .error .nullInterface := rfl
  rw [hentity, hstorage]
  exact ⟨not_returns_error, not_returns_error⟩

end ConfigdExtra
