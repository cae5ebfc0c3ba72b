import ConfigdExtra.InterfaceStorage
import ConfigdExtra.InterfaceOrder

/-!
# Copies of interfaces

An interface is copied field by field, and so are the layers below. What can be seen of a copy
should be what can be seen of the interface.

* `InterfaceFields`, `InterfaceObject` — all fields of an interface, and the layers.
* `createPrivate`, `createCopy` — `__SCNetworkInterfaceCreatePrivate` and
  `__SCNetworkInterfaceCreateCopy`.
* `copyDisplayName` — `copy_display_name`, which may look into the preferences of the copy.
* `SameObserved`, `Indistinguishable` — nothing that looks at an interface tells two apart.
* `indistinguishable_createCopy_iff` — a copy can be told by its storage entity, if the interface
  is active or has hardware addresses to match, and by its name, if that is looked up.
-/

namespace ConfigdExtra.InterfaceCopy

/-! ## Fields -/

/-- `kSortUnknown` -/
def kSortUnknown : ℕ := 23

/-- An `SCNetworkInterfacePrivate` without the layers below, for dictionaries `D` and sessions `S`.
The members of a bond or a bridge and the interface under a VLAN are only compared. -/
structure InterfaceFields (D S : Type) where
  /-- what is looked at elsewhere -/
  info : InterfaceInfo
  /-- `localized_name` -/
  localizedName : Option String
  /-- `localized_key` -/
  localizedKey : Option String
  /-- `localized_arg1` -/
  localizedArg1 : Option String
  /-- `localized_arg2` -/
  localizedArg2 : Option String
  /-- `prefs` -/
  prefs : Option S
  /-- `store` -/
  store : Option S
  /-- `serviceID` -/
  serviceID : Option String
  /-- `unsaved` -/
  unsaved : Option D
  /-- `supported_interface_types` -/
  supportedInterfaceTypes : Option (List String)
  /-- `supported_protocol_types` -/
  supportedProtocolTypes : Option (List String)
  /-- `addressString` -/
  addressString : Option String
  /-- `configurationAction` -/
  configurationAction : Option String
  /-- `location` -/
  location : Option String
  /-- `entryID` -/
  entryID : UInt64
  /-- `overrides` -/
  overrides : Option D
  /-- `family` -/
  family : Option ℤ
  /-- `subfamily` -/
  subfamily : Option ℤ
  /-- `sort_order` -/
  sortOrder : ℕ
  /-- `supportsBond` -/
  supportsBond : Bool
  /-- `bond.interfaces` -/
  bondInterfaces : Option (List SCNetworkInterface)
  /-- `bond.options` -/
  bondOptions : Option D
  /-- `supportsBridge` -/
  supportsBridge : Bool
  /-- `bridge.interfaces` -/
  bridgeInterfaces : Option (List SCNetworkInterface)
  /-- `bridge.options` -/
  bridgeOptions : Option D
  /-- `supportsVLAN` -/
  supportsVLAN : Bool
  /-- `vlan.interface` -/
  vlanInterface : Option SCNetworkInterface
  /-- `vlan.options` -/
  vlanOptions : Option D
  /-- `IPMonitorControl` -/
  ipMonitorControl : Option S

section

variable {D S : Type}

/-- A new object, all zero but for its type. -/
def InterfaceFields.new (interfaceType : String) : InterfaceFields D S where
  info := .new interfaceType
  localizedName := none
  localizedKey := none
  localizedArg1 := none
  localizedArg2 := none
  prefs := none
  store := none
  serviceID := none
  unsaved := none
  supportedInterfaceTypes := none
  supportedProtocolTypes := none
  addressString := none
  configurationAction := none
  location := none
  entryID := 0
  overrides := none
  family := none
  subfamily := none
  sortOrder := 0
  supportsBond := false
  bondInterfaces := none
  bondOptions := none
  supportsBridge := false
  bridgeInterfaces := none
  bridgeOptions := none
  supportsVLAN := false
  vlanInterface := none
  vlanOptions := none
  ipMonitorControl := none

/-- The fields of `kSCNetworkInterfaceIPv4` -/
def ipv4Fields : InterfaceFields D S :=
  { InterfaceFields.new kSCNetworkInterfaceTypeIPv4 with localizedKey := some "ipv4" }

/-- `__SCNetworkInterfaceCreatePrivate`, once the type is set -/
def createPrivate (interfaceType : String) (prefs : Option S) (serviceID : Option String) :
    InterfaceFields D S :=
  { InterfaceFields.new interfaceType with
    prefs := prefs
    serviceID := serviceID
    sortOrder := kSortUnknown }

/-- The fields that a copy takes over. -/
def copyFields (old : InterfaceFields D S) (prefs : Option S) (serviceID : Option String) :
    InterfaceFields D S :=
  let new : InterfaceFields D S := createPrivate old.info.interfaceType prefs serviceID
  { new with
    info :=
      { new.info with
        name := old.info.name
        namePrefix := old.info.namePrefix
        entityDevice := old.info.entityDevice
        entityDeviceUnique := old.info.entityDeviceUnique
        entityType := old.info.entityType
        entitySubtype := old.info.entitySubtype
        address := old.info.address
        builtin := old.info.builtin
        hiddenConfiguration := old.info.hiddenConfiguration
        hiddenInterface := old.info.hiddenInterface
        path := old.info.path
        type := old.info.type
        unit := old.info.unit
        usb :=
          { name := old.info.usb.name
            vid := old.info.usb.vid
            pid := old.info.usb.pid }
        bondMode := old.info.bondMode
        vlanTag := old.info.vlanTag }
    localizedName := old.localizedName
    localizedKey := old.localizedKey
    localizedArg1 := old.localizedArg1
    localizedArg2 := old.localizedArg2
    unsaved := old.unsaved
    supportedInterfaceTypes := old.supportedInterfaceTypes
    supportedProtocolTypes := old.supportedProtocolTypes
    configurationAction := old.configurationAction
    location := old.location
    entryID := old.entryID
    overrides := old.overrides
    family := old.family
    subfamily := old.subfamily
    sortOrder := old.sortOrder
    supportsBond := old.supportsBond
    bondInterfaces := old.bondInterfaces
    bondOptions := old.bondOptions
    supportsBridge := old.supportsBridge
    bridgeInterfaces := old.bridgeInterfaces
    bridgeOptions := old.bridgeOptions
    supportsVLAN := old.supportsVLAN
    vlanInterface := old.vlanInterface
    vlanOptions := old.vlanOptions }

end

/-! ## Objects -/

/-- An interface with the layers below. -/
inductive InterfaceObject (D S : Type)
  /-- the object `kSCNetworkInterfaceIPv4` -/
  | ipv4
  /-- another object -/
  | mk (fields : InterfaceFields D S) (interface : Option (InterfaceObject D S))

namespace InterfaceObject

variable {D S : Type}

/-- The fields. -/
def fields : InterfaceObject D S → InterfaceFields D S
  | ipv4 => ipv4Fields
  | mk fields _ => fields

/-- The interface and the layers below, from the top. -/
def layers : InterfaceObject D S → List (InterfaceObject D S)
  | ipv4 => [ipv4]
  | mk fields none => [mk fields none]
  | mk fields (some below) => mk fields (some below) :: below.layers

/-- The lowest layer. -/
def lowest : InterfaceObject D S → InterfaceObject D S
  | ipv4 => ipv4
  | mk fields none => mk fields none
  | mk _ (some below) => below.lowest

/-- What its order depends on. -/
def toSorted (i : InterfaceObject D S) : SortedInterface where
  sortOrder := i.fields.sortOrder
  builtin := i.fields.info.builtin
  location := i.fields.location
  path := i.fields.info.path
  entityDevice := i.fields.info.entityDevice
  entityDeviceUnique := i.fields.info.entityDeviceUnique

end InterfaceObject

section

variable {D S : Type} (prefs : Option S) (serviceID : Option String)

/-- `__SCNetworkInterfaceCreateCopy` -/
def createCopy : InterfaceObject D S → InterfaceObject D S
  | .ipv4 => .ipv4
  | .mk old none => .mk (copyFields old prefs serviceID) none
  | .mk old (some interface) => .mk (copyFields old prefs serviceID) (some (createCopy interface))

/-! ## Names -/

/-- Where names are made of. -/
structure NameSources (S : Type) where
  /-- `copy_interface_string`, for a key, or `none` without a bundle -/
  interfaceString : String → Bool → Option String
  /-- `CFStringAppendFormat`, with two arguments -/
  format : String → Option String → Option String → String
  /-- the `UserDefinedName` in the interface entity of a service -/
  userDefinedName : S → String → Option String

namespace NameSources

variable (names : NameSources S)

/-- The name of the interface when it was last available. -/
def lastName : Option String := do
  let prefs ← prefs
  let serviceID ← serviceID
  names.userDefinedName prefs serviceID

variable (localized oldLocalization : Bool)

/-- The name that the bundle has for a layer. -/
def bundleName (f : InterfaceFields D S) : Option String := do
  let key ← f.localizedKey
  let fmt ← names.interfaceString (if oldLocalization then "X-" ++ key else key) localized
  return names.format fmt f.localizedArg1 f.localizedArg2

end NameSources

/-- The name of a layer by its type, with the device of the last one. -/
def typeName (f : InterfaceFields D S) (last : Bool) : String :=
  match f.info.entityDevice, last with
  | some device, true => f.info.interfaceType ++ " (" ++ device ++ ")"
  | _, _ => f.info.interfaceType

namespace NameSources

variable (names : NameSources S) (localized oldLocalization : Bool)

/-- The name of a layer that is not the last. -/
def upperName (f : InterfaceFields D S) : String :=
  (names.bundleName localized oldLocalization f).getD (typeName f false)

/-- The name of the last layer. -/
def leafName (f : InterfaceFields D S) : String :=
  (names.bundleName localized oldLocalization f).getD
    ((names.lastName f.prefs f.serviceID).getD (typeName f true))

/-- `copy_display_name`. The layers end where the next is `kSCNetworkInterfaceIPv4`, and at a
VPN. -/
def copyDisplayName : InterfaceObject D S → String
  | .mk f (some (.mk g interface)) =>
    if f.info.interfaceType = kSCNetworkInterfaceTypeVPN then
      names.leafName localized oldLocalization f
    else
      names.upperName localized oldLocalization f ++ " --> " ++ copyDisplayName (.mk g interface)
  | .mk f _ => names.leafName localized oldLocalization f
  | .ipv4 => names.leafName localized oldLocalization (ipv4Fields : InterfaceFields D S)

/-- `__SCNetworkInterfaceGetNonLocalizedDisplayName` -/
def getNonLocalizedDisplayName (i : InterfaceObject D S) : String :=
  i.fields.info.name.getD (names.copyDisplayName false false i)

end NameSources

/-! ## What can be seen -/

section

variable (names : NameSources S)

/-- What is looked at elsewhere, with the name that is not localized. -/
def seenInfo (i : InterfaceObject D S) : InterfaceInfo :=
  { i.fields.info with name := some (names.getNonLocalizedDisplayName i) }

/-- The interface as it is looked at elsewhere. -/
def toInterface : InterfaceObject D S → SCNetworkInterface
  | .ipv4 => kSCNetworkInterfaceIPv4
  | .mk f none =>
    .mk (seenInfo names (.mk f none)) f.bondInterfaces f.bridgeInterfaces f.vlanInterface none
  | .mk f (some below) =>
    .mk (seenInfo names (.mk f (some below))) f.bondInterfaces f.bridgeInterfaces f.vlanInterface
      (some (toInterface below))

variable (getLocalizedDisplayName : InterfaceObject D S → String) (get : InterfaceGetters)

/-- `__SCNetworkInterfaceCopyInterfaceEntity`, which shows the name of the lowest layer. -/
def interfaceEntity (i : InterfaceObject D S) : InterfaceEntity :=
  copyInterfaceEntity (fun _ => getLocalizedDisplayName i.lowest) (toInterface names i)

/-- `__SCNetworkInterfaceCopyStorageEntity` -/
def storageEntity (i : InterfaceObject D S) : Option StorageEntity :=
  copyStorageEntity get (toInterface names i)

/-- Two interfaces look the same. -/
structure SameObserved (i j : InterfaceObject D S) : Prop where
  /-- `__SCNetworkInterfaceEqual` -/
  equal : (toInterface names i).equal (toInterface names j) = true
  /-- the entity -/
  interfaceEntity : interfaceEntity names getLocalizedDisplayName i =
    interfaceEntity names getLocalizedDisplayName j
  /-- the storage entity -/
  storageEntity : storageEntity names get i = storageEntity names get j
  /-- the order, against every other interface -/
  compare : ∀ other : InterfaceObject D S,
    networkInterfaceCompare i.toSorted other.toSorted =
      networkInterfaceCompare j.toSorted other.toSorted
  /-- and the other way round -/
  compare' : ∀ other : InterfaceObject D S,
    networkInterfaceCompare other.toSorted i.toSorted =
      networkInterfaceCompare other.toSorted j.toSorted

/-- Two interfaces look the same, and so do their layers. -/
def Indistinguishable (i j : InterfaceObject D S) : Prop :=
  List.Forall₂ (SameObserved names getLocalizedDisplayName get) i.layers j.layers

/-- What the accessors that are used return: the fields, or a name that is made up for the
interface if it has none. There is an info dictionary if there is a name. -/
structure AccessorsFaithful : Prop where
  /-- the name that is shown -/
  getLocalizedDisplayName : ∀ i : InterfaceObject D S, getLocalizedDisplayName i =
    i.fields.localizedName.getD (names.copyDisplayName true false i)
  /-- the accessors of the storage entity -/
  getters : get.Faithful
  /-- `_SCNetworkInterfaceCopyInterfaceInfo` has the name to return -/
  copyInterfaceInfo : ∀ i name, i.info.name = some name → (get.copyInterfaceInfo i).isSome

/-! ## What a copy loses -/

/-- The layer with which `copy_display_name` ends. -/
def nameLeaf : InterfaceObject D S → InterfaceFields D S
  | .mk f (some (.mk g interface)) =>
    if f.info.interfaceType = kSCNetworkInterfaceTypeVPN then f else nameLeaf (.mk g interface)
  | .mk f _ => f
  | .ipv4 => ipv4Fields

/-- If the name of the last layer is not in the bundle, it is the same in the preferences of the
copy. -/
def KeepsName (localized : Bool) (f : InterfaceFields D S) : Prop :=
  names.bundleName localized false f = none →
    (names.lastName prefs serviceID).getD (typeName f true) =
      (names.lastName f.prefs f.serviceID).getD (typeName f true)

/-- The interface has all that its storage entity needs. -/
structure Storable (i : InterfaceInfo) : Prop where
  entityDevice : i.entityDevice ≠ none
  namePrefix : i.namePrefix ≠ none
  type : i.type ≠ none
  unit : i.unit ≠ none
  address : i.address ≠ none
  path : i.path ≠ none

/-- The copy of a layer shows all that the layer does. -/
structure LosesNothing (i : InterfaceObject D S) : Prop where
  /-- the name that is shown -/
  localizedName : (toInterface names i.lowest).equal kSCNetworkInterfaceIPv4 = false →
    i.lowest.fields.localizedName = none → KeepsName prefs serviceID names true i.lowest.fields
  /-- the name that is stored -/
  name : Storable i.fields.info → i.fields.info.name = none →
    KeepsName prefs serviceID names false (nameLeaf i)
  /-- whether it is active, which is not copied -/
  active : Storable i.fields.info → i.fields.info.active = false
  /-- the hardware addresses to match, which are not copied -/
  matchingMACs : Storable i.fields.info → i.fields.info.matchingMACs = none

/-! ## Layers of a copy -/

/-- A copy is made layer by layer. -/
theorem createCopy_mk (f : InterfaceFields D S) (interface : Option (InterfaceObject D S)) :
    createCopy prefs serviceID (.mk f interface) =
      .mk (copyFields f prefs serviceID) (interface.map (createCopy prefs serviceID)) := by
  cases interface <;> rfl

/-- So its layers are the copies of the layers. -/
theorem layers_createCopy : ∀ i : InterfaceObject D S,
    (createCopy prefs serviceID i).layers = i.layers.map (createCopy prefs serviceID)
  | .ipv4 => rfl
  | .mk _ none => rfl
  | .mk f (some below) => by
    rw [createCopy, InterfaceObject.layers, InterfaceObject.layers, List.map_cons, createCopy,
      layers_createCopy below]

/-- And its lowest layer is the copy of the lowest one. -/
theorem lowest_createCopy : ∀ i : InterfaceObject D S,
    (createCopy prefs serviceID i).lowest = createCopy prefs serviceID i.lowest
  | .ipv4 => rfl
  | .mk _ none => rfl
  | .mk f (some below) => by
    rw [createCopy, InterfaceObject.lowest, InterfaceObject.lowest, lowest_createCopy below]

/-- There is nothing below the lowest layer. -/
theorem lowest_lowest : ∀ i : InterfaceObject D S, i.lowest.lowest = i.lowest
  | .ipv4 => rfl
  | .mk _ none => rfl
  | .mk f (some below) => by
    rw [InterfaceObject.lowest, lowest_lowest below]

/-- What is seen of the lowest layer is the lowest layer of what is seen. -/
theorem lowestLayer_toInterface : ∀ i : InterfaceObject D S,
    lowestLayer (toInterface names i) = toInterface names i.lowest
  | .ipv4 => rfl
  | .mk _ none => rfl
  | .mk f (some below) => by
    rw [toInterface, lowestLayer, lowestLayer_toInterface below, InterfaceObject.lowest]

/-- An interface is sorted as before. -/
theorem toSorted_createCopy (i : InterfaceObject D S) :
    (createCopy prefs serviceID i).toSorted = i.toSorted := by
  match i with
  | .ipv4 => rfl
  | .mk _ none => rfl
  | .mk _ (some _) => rfl

/-! ## Names of a copy -/

/-- A name that is not in the bundle comes from the preferences and the service, and the copy has
its own. -/
theorem leafName_copyFields_iff (localized : Bool) (f : InterfaceFields D S) :
    names.leafName localized false (copyFields f prefs serviceID) =
        names.leafName localized false f ↔
      KeepsName prefs serviceID names localized f := by
  have hbundle : names.bundleName localized false (copyFields f prefs serviceID) =
    names.bundleName localized false f := rfl
  have htype : typeName (copyFields f prefs serviceID) true = typeName f true := rfl
  rw [NameSources.leafName, NameSources.leafName, KeepsName, hbundle, htype]
  cases names.bundleName localized false f with
  | none => simp [copyFields, createPrivate]
  | some name => simp

/-- The name of a copy is that of the interface, if the last layer keeps it. -/
theorem copyDisplayName_createCopy_iff (localized : Bool) : ∀ (f : InterfaceFields D S) interface,
    names.copyDisplayName localized false (createCopy prefs serviceID (.mk f interface)) =
        names.copyDisplayName localized false (.mk f interface) ↔
      KeepsName prefs serviceID names localized (nameLeaf (.mk f interface))
  | f, none => leafName_copyFields_iff prefs serviceID names localized f
  | f, some .ipv4 => leafName_copyFields_iff prefs serviceID names localized f
  | f, some (.mk g interface) => by
    have ih := copyDisplayName_createCopy_iff localized g interface
    rw [createCopy_mk] at ih ⊢
    have htype : (copyFields f prefs serviceID).info.interfaceType = f.info.interfaceType := rfl
    rw [Option.map_some, createCopy_mk, NameSources.copyDisplayName, NameSources.copyDisplayName,
      nameLeaf, htype]
    by_cases hvpn : f.info.interfaceType = kSCNetworkInterfaceTypeVPN
    · rw [if_pos hvpn, if_pos hvpn, if_pos hvpn]
      exact leafName_copyFields_iff prefs serviceID names localized f
    · have hupper : names.upperName localized false (copyFields f prefs serviceID) =
        names.upperName localized false f := rfl
      rw [if_neg hvpn, if_neg hvpn, if_neg hvpn, hupper, String.append_right_inj]
      exact ih

/-! ## What is seen of a copy -/

theorem InterfaceInfo.sameDevice_of_eq {i j : InterfaceInfo}
    (htype : i.interfaceType = j.interfaceType) (hdevice : i.entityDevice = j.entityDevice)
    (hunique : i.entityDeviceUnique = j.entityDeviceUnique) : i.sameDevice j = true := by
  rw [InterfaceInfo.sameDevice, htype, hdevice, hunique]
  cases j.entityDeviceUnique <;> simp

/-- A copy is equal to the interface. -/
theorem equal_createCopy : ∀ i : InterfaceObject D S,
    (toInterface names (createCopy prefs serviceID i)).equal (toInterface names i) = true
  | .ipv4 => equal_refl _
  | .mk _ none =>
    equal_mk_iff.mpr ⟨InterfaceInfo.sameDevice_of_eq rfl rfl rfl,
      fun _ => ⟨equalArrays_refl _, rfl⟩, fun _ => equalArrays_refl _,
      fun _ => ⟨equalOption_refl _, rfl⟩, rfl⟩
  | .mk _ (some below) =>
    equal_mk_iff.mpr ⟨InterfaceInfo.sameDevice_of_eq rfl rfl rfl,
      fun _ => ⟨equalArrays_refl _, rfl⟩, fun _ => equalArrays_refl _,
      fun _ => ⟨equalOption_refl _, rfl⟩, equal_createCopy below⟩

/-- A copy is over IPv4 if the interface is. -/
theorem equal_ipv4_createCopy (i : InterfaceObject D S) :
    (toInterface names (createCopy prefs serviceID i)).equal kSCNetworkInterfaceIPv4 =
      (toInterface names i).equal kSCNetworkInterfaceIPv4 := by
  match i with
  | .ipv4 => rfl
  | .mk _ none => rfl
  | .mk _ (some _) => rfl

/-- The lowest layer is IPv4, or an interface without a layer below. -/
theorem lowest_cases : ∀ i : InterfaceObject D S, i.lowest = .ipv4 ∨ ∃ f, i.lowest = .mk f none
  | .ipv4 => .inl rfl
  | .mk f none => .inr ⟨f, rfl⟩
  | .mk _ (some below) => lowest_cases below

/-- A copy has the type of its original. -/
theorem interfaceType_createCopy (i : InterfaceObject D S) :
    (toInterface names (createCopy prefs serviceID i)).info.interfaceType =
      (toInterface names i).info.interfaceType := by
  match i with
  | .ipv4 => rfl
  | .mk _ none => rfl
  | .mk _ (some _) => rfl

/-- What the entity of an interface shows of the interface itself. -/
theorem entityFields_createCopy (i : InterfaceObject D S) :
    let new := (toInterface names (createCopy prefs serviceID i)).info
    let old := (toInterface names i).info
    new.entityType = old.entityType ∧ new.entitySubtype = old.entitySubtype ∧
      new.entityDevice = old.entityDevice ∧ new.entityDeviceUnique = old.entityDeviceUnique ∧
      new.hiddenConfiguration = old.hiddenConfiguration := by
  match i with
  | .ipv4 => exact ⟨rfl, rfl, rfl, rfl, rfl⟩
  | .mk _ none => exact ⟨rfl, rfl, rfl, rfl, rfl⟩
  | .mk _ (some _) => exact ⟨rfl, rfl, rfl, rfl, rfl⟩

theorem info_toInterface_mk (f : InterfaceFields D S) (interface : Option (InterfaceObject D S)) :
    (toInterface names (.mk f interface)).info = seenInfo names (.mk f interface) := by
  cases interface <;> rfl

variable {names} {getLocalizedDisplayName : InterfaceObject D S → String}
  {get : InterfaceGetters}

/-- The name of a copy without layers below. -/
theorem getLocalizedDisplayName_createCopy_iff
    (hget : AccessorsFaithful names getLocalizedDisplayName get) (f : InterfaceFields D S) :
    getLocalizedDisplayName (createCopy prefs serviceID (.mk f none)) =
        getLocalizedDisplayName (.mk f none) ↔
      (f.localizedName = none → KeepsName prefs serviceID names true f) := by
  rw [hget.getLocalizedDisplayName, hget.getLocalizedDisplayName]
  have hname : (createCopy prefs serviceID (.mk f none)).fields.localizedName = f.localizedName :=
    rfl
  have hiff := copyDisplayName_createCopy_iff prefs serviceID names true f none
  rw [hname]
  show f.localizedName.getD _ = f.localizedName.getD _ ↔ _
  cases f.localizedName with
  | none => simpa [nameLeaf] using hiff
  | some name => simp

/-- The name of a copy that is not localized. -/
theorem getNonLocalizedDisplayName_createCopy_iff (f : InterfaceFields D S)
    (interface : Option (InterfaceObject D S)) :
    names.getNonLocalizedDisplayName (createCopy prefs serviceID (.mk f interface)) =
        names.getNonLocalizedDisplayName (.mk f interface) ↔
      (f.info.name = none →
        KeepsName prefs serviceID names false (nameLeaf (.mk f interface))) := by
  have hname : (createCopy prefs serviceID (.mk f interface)).fields.info.name = f.info.name := by
    rw [createCopy_mk]
    rfl
  have hiff := copyDisplayName_createCopy_iff prefs serviceID names false f interface
  rw [NameSources.getNonLocalizedDisplayName, NameSources.getNonLocalizedDisplayName, hname]
  show f.info.name.getD _ = f.info.name.getD _ ↔ _
  cases f.info.name with
  | none => simpa using hiff
  | some name => simp

/-- The entity of a copy. -/
theorem interfaceEntity_createCopy_iff
    (hget : AccessorsFaithful names getLocalizedDisplayName get) (i : InterfaceObject D S) :
    interfaceEntity names getLocalizedDisplayName (createCopy prefs serviceID i) =
        interfaceEntity names getLocalizedDisplayName i ↔
      ((toInterface names i.lowest).equal kSCNetworkInterfaceIPv4 = false →
        i.lowest.fields.localizedName = none →
          KeepsName prefs serviceID names true i.lowest.fields) := by
  obtain ⟨hentityType, hsubtype, hdevice, hunique, hhidden⟩ :=
    entityFields_createCopy prefs serviceID names i
  simp only [interfaceEntity, copyInterfaceEntity, hentityType, hsubtype, hdevice, hunique, hhidden,
    lowestLayer_toInterface, lowest_createCopy, equal_ipv4_createCopy, interfaceType_createCopy,
    InterfaceEntity.mk.injEq, true_and, and_true]
  cases hover : (toInterface names i.lowest).equal kSCNetworkInterfaceIPv4 with
  | true => simp
  | false =>
    rcases lowest_cases i with hi | ⟨f, hi⟩
    · rw [hi] at hover
      rw [show (toInterface names (.ipv4 : InterfaceObject D S)) = kSCNetworkInterfaceIPv4 from rfl,
        equal_refl] at hover
      cases hover
    · rw [hi]
      have hiff := getLocalizedDisplayName_createCopy_iff prefs serviceID hget f
      simpa [InterfaceObject.fields] using hiff

/-- What is written of an interface that can be stored. -/
theorem storageEntity_of_storable (hget : AccessorsFaithful names getLocalizedDisplayName get)
    {f : InterfaceFields D S} (interface : Option (InterfaceObject D S)) (hf : Storable f.info) :
    ∃ info, get.copyInterfaceInfo (toInterface names (.mk f interface)) = some info ∧
      storageEntity names get (.mk f interface) =
        some (storageEntityOf (toInterface names (.mk f interface)) info) := by
  have hinfo := info_toInterface_mk names f interface
  obtain ⟨info, hget'⟩ := Option.isSome_iff_exists.mp
    (hget.copyInterfaceInfo _ _ (congrArg InterfaceInfo.name hinfo))
  refine ⟨info, hget', (copyStorageEntity_eq_some_iff hget.getters).mpr ?_⟩
  rw [hinfo]
  exact ⟨Option.ne_none_iff_exists'.mp hf.entityDevice, Option.ne_none_iff_exists'.mp hf.namePrefix,
    Option.ne_none_iff_exists'.mp hf.type, Option.ne_none_iff_exists'.mp hf.unit,
    Option.ne_none_iff_exists'.mp hf.address, Option.ne_none_iff_exists'.mp hf.path, info, hget',
    rfl⟩

/-- An interface with a part missing is not stored. -/
theorem storageEntity_of_not_storable
    (hget : AccessorsFaithful names getLocalizedDisplayName get) {f : InterfaceFields D S}
    (interface : Option (InterfaceObject D S)) (hf : ¬ Storable f.info) :
    storageEntity names get (.mk f interface) = none := by
  by_contra hsome
  obtain ⟨entity, hentity⟩ := Option.ne_none_iff_exists'.mp hsome
  obtain ⟨hdevice, hprefix, htype, hunit, haddress, hpath, -⟩ :=
    (copyStorageEntity_eq_some_iff hget.getters).mp hentity
  rw [info_toInterface_mk] at hdevice hprefix htype hunit haddress hpath
  exact hf ⟨Option.ne_none_iff_exists'.mpr hdevice, Option.ne_none_iff_exists'.mpr hprefix,
    Option.ne_none_iff_exists'.mpr htype, Option.ne_none_iff_exists'.mpr hunit,
    Option.ne_none_iff_exists'.mpr haddress, Option.ne_none_iff_exists'.mpr hpath⟩

/-- The storage entity of a copy. -/
theorem storageEntity_createCopy_iff
    (hget : AccessorsFaithful names getLocalizedDisplayName get) (f : InterfaceFields D S)
    (interface : Option (InterfaceObject D S)) :
    storageEntity names get (createCopy prefs serviceID (.mk f interface)) =
        storageEntity names get (.mk f interface) ↔
      (Storable f.info → f.info.active = false ∧ f.info.matchingMACs = none ∧
        (f.info.name = none →
          KeepsName prefs serviceID names false (nameLeaf (.mk f interface)))) := by
  rw [← getNonLocalizedDisplayName_createCopy_iff]
  have hstorable : Storable (copyFields f prefs serviceID).info ↔ Storable f.info :=
    ⟨fun ⟨h1, h2, h3, h4, h5, h6⟩ => ⟨h1, h2, h3, h4, h5, h6⟩,
      fun ⟨h1, h2, h3, h4, h5, h6⟩ => ⟨h1, h2, h3, h4, h5, h6⟩⟩
  rw [createCopy_mk]
  by_cases hf : Storable f.info
  · -- both are stored, so the two entities are compared field by field
    obtain ⟨info, hinfo, hstored⟩ := storageEntity_of_storable hget interface hf
    obtain ⟨info', hinfo', hstored'⟩ := storageEntity_of_storable hget
      (interface.map (createCopy prefs serviceID)) (hstorable.mpr hf)
    rw [hstored, hstored', Option.some.injEq]
    have hname := (hget.getters.copyInterfaceInfo _ _ hinfo).1
    have hname' := (hget.getters.copyInterfaceInfo _ _ hinfo').1
    rw [info_toInterface_mk] at hname hname'
    constructor
    · intro heq _
      have hactive := congrArg StorageEntity.active heq
      have hmacs := congrArg StorageEntity.matchingMACs heq
      have hinfos := congrArg StorageEntity.interfaceInfo heq
      simp only [storageEntityOf, info_toInterface_mk, Option.some.injEq] at hactive hmacs hinfos
      refine ⟨?_, hmacs.symm, ?_⟩
      · have hgetD := congrArg (fun flag : Option Bool => flag.getD false) hactive
        rw [getD_trueIf, getD_trueIf] at hgetD
        exact hgetD.symm
      · rw [hinfos, hname] at hname'
        exact (Option.some.inj hname').symm
    · intro h
      obtain ⟨hactive, hmacs, hnames⟩ := h hf
      have hinfos : info' = info := by
        refine Option.some.inj (hinfo'.symm.trans (Eq.trans ?_ hinfo))
        refine hget.getters.copyInterfaceInfo_congr _ _ ?_ ?_
        · rw [info_toInterface_mk, info_toInterface_mk]
          exact congrArg some hnames
        · rw [info_toInterface_mk, info_toInterface_mk]
          rfl
      simp only [storageEntityOf, info_toInterface_mk, hinfos]
      simp [seenInfo, InterfaceObject.fields, copyFields, createPrivate, InterfaceFields.new,
        InterfaceInfo.new, hactive, hmacs]
  · -- neither is stored
    rw [storageEntity_of_not_storable hget _ hf,
      storageEntity_of_not_storable hget _ (fun h => hf (hstorable.mp h))]
    simp [hf]

/-- A layer looks as before if the copy loses nothing of it. -/
theorem sameObserved_createCopy_iff (hget : AccessorsFaithful names getLocalizedDisplayName get)
    (i : InterfaceObject D S) :
    SameObserved names getLocalizedDisplayName get (createCopy prefs serviceID i) i ↔
      LosesNothing prefs serviceID names i := by
  match i with
  | .ipv4 =>
    refine iff_of_true ⟨equal_refl _, rfl, rfl, fun _ => rfl, fun _ => rfl⟩ ⟨?_, ?_, ?_, ?_⟩
    · intro hover
      exact absurd hover (by rw [show toInterface names (InterfaceObject.ipv4 (D := D)).lowest =
        kSCNetworkInterfaceIPv4 from rfl, equal_refl]; decide)
    all_goals exact fun h => absurd rfl h.entityDevice
  | .mk f interface =>
    constructor
    · intro h
      have hshown := (interfaceEntity_createCopy_iff prefs serviceID hget _).mp h.interfaceEntity
      have hstored := (storageEntity_createCopy_iff prefs serviceID hget f interface).mp
        h.storageEntity
      exact ⟨hshown, fun hs => (hstored hs).2.2, fun hs => (hstored hs).1,
        fun hs => (hstored hs).2.1⟩
    · intro h
      refine ⟨equal_createCopy prefs serviceID names _,
        (interfaceEntity_createCopy_iff prefs serviceID hget _).mpr h.localizedName,
        (storageEntity_createCopy_iff prefs serviceID hget f interface).mpr
          fun hs => ⟨h.active hs, h.matchingMACs hs, h.name hs⟩,
        fun other => ?_, fun other => ?_⟩ <;> rw [toSorted_createCopy]

/-- **Copies.** An interface cannot be told from its copy if and only if the copy loses nothing of
a layer: no layer that can be stored is active or has hardware addresses to match, and the names
that are looked up in preferences are the same in those of the copy. -/
theorem indistinguishable_createCopy_iff
    (hget : AccessorsFaithful names getLocalizedDisplayName get) (i : InterfaceObject D S) :
    Indistinguishable names getLocalizedDisplayName get (createCopy prefs serviceID i) i ↔
      ∀ layer ∈ i.layers, LosesNothing prefs serviceID names layer := by
  rw [Indistinguishable, layers_createCopy, List.forall₂_map_left_iff, List.forall₂_same]
  exact forall₂_congr fun layer _ => sameObserved_createCopy_iff prefs serviceID hget layer

end

end

/-! ## Two copies -/

/-- No bundle, and nothing in preferences. -/
def noNames : NameSources Unit where
  interfaceString _ _ := none
  format fmt _ _ := fmt
  userDefinedName _ _ := none

/-- The name that is shown: the localized name, or one that is made up. -/
def plainLocalizedDisplayName (i : InterfaceObject Unit Unit) : String :=
  i.fields.localizedName.getD (noNames.copyDisplayName true false i)

theorem plainGetters_accessorsFaithful :
    AccessorsFaithful noNames plainLocalizedDisplayName plainGetters where
  getLocalizedDisplayName _ := rfl
  getters := plainGetters_faithful
  copyInterfaceInfo _ _ _ := rfl

/-- An active Ethernet interface. -/
def activeEn0 : InterfaceObject Unit Unit :=
  .mk { InterfaceFields.new kSCNetworkInterfaceTypeEthernet with
    info := storedEn0.info
    localizedName := some "Ethernet" } none

/-- PPP over an Ethernet interface that can be stored, and is not active. -/
def pppOverEn0 : InterfaceObject Unit Unit :=
  .mk (.new "PPP") (some (.mk { activeEn0.fields with
    info := { storedEn0.info with active := false } } none))

theorem indistinguishable_createCopy_iff_pppOverEn0 :
    Indistinguishable noNames plainLocalizedDisplayName plainGetters
      (createCopy (some ()) (some "0") pppOverEn0) pppOverEn0 := by
  refine (indistinguishable_createCopy_iff (some ()) (some "0") plainGetters_accessorsFaithful
    pppOverEn0).mpr fun layer hlayer => ?_
  obtain rfl | rfl := List.mem_pair.mp hlayer
  · -- PPP has no device
    refine ⟨fun _ hname => ?_, fun hs => absurd rfl hs.entityDevice,
      fun hs => absurd rfl hs.entityDevice, fun hs => absurd rfl hs.entityDevice⟩
    cases hname
  · refine ⟨fun _ hname => ?_, fun _ hname => ?_, fun _ => rfl, fun _ => rfl⟩
    · cases hname
    · cases hname

/-- The copy of an active interface is stored as one that is not. -/
theorem activeEn0_distinguished :
    ¬ Indistinguishable noNames plainLocalizedDisplayName plainGetters
      (createCopy none none activeEn0) activeEn0 := by
  intro h
  have hlayers : activeEn0.layers = [activeEn0] := rfl
  rw [Indistinguishable, layers_createCopy, hlayers, List.map_cons, List.forall₂_cons] at h
  exact absurd h.1.storageEntity (by decide)

end ConfigdExtra.InterfaceCopy
