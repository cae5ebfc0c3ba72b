import ConfigdExtra.InterfaceStorage
import ConfigdExtra.PropertyLists

/-!
# Entities from a file

The dictionaries that interfaces are made of come from files that can be edited, so their values
may be of any kind.

* `InterfaceField`, `InterfaceObject` — an interface whose fields hold any object.
* `createWithEntityObject` — `_SCNetworkInterfaceCreateWithEntity` of any dictionary.
* `createWithStorageEntityObject` — `__SCNetworkInterfaceCreateWithStorageEntity` of any
  dictionary.
-/

namespace ConfigdExtra

/-! ## Interfaces that hold any object -/

/-- The fields of an `SCNetworkInterfacePrivate` that point to strings, numbers, data and
arrays. -/
inductive InterfaceField
  | name
  | localizedName
  | localizedArg1
  | entityDevice
  | entityDeviceUnique
  | entityType
  | entitySubtype
  | namePrefix
  | type
  | unit
  | address
  | path
  | usbName
  | usbPid
  | usbVid
  | matchingMACs
deriving DecidableEq, Repr

/-- The kind that a field is declared with. -/
def InterfaceField.kind : InterfaceField → PropertyKind
  | type => .number
  | unit => .number
  | address => .data
  | usbPid => .number
  | usbVid => .number
  | matchingMACs => .array
  | _ => .string

/-- What an interface in memory holds besides other interfaces. -/
structure ObjectInfo where
  /-- `interface_type` -/
  interfaceType : String
  /-- the objects -/
  fields : InterfaceField → Option PropertyList
  /-- `active` -/
  active : Bool
  /-- `builtin` -/
  builtin : Bool
  /-- `hiddenConfiguration` -/
  hiddenConfiguration : Bool
  /-- `hiddenInterface` -/
  hiddenInterface : Bool
  /-- `bond.mode` -/
  bondMode : Option Int
  /-- `vlan.tag` -/
  vlanTag : Option Int

/-- A new object, all zero but for its type. -/
def ObjectInfo.new (interfaceType : String) : ObjectInfo where
  interfaceType := interfaceType
  fields _ := none
  active := false
  builtin := false
  hiddenConfiguration := false
  hiddenInterface := false
  bondMode := none
  vlanTag := none

/-- `SCNetworkInterfaceRef`, where the fields hold any object. The members of virtual interfaces
come from elsewhere. -/
inductive InterfaceObject
  | mk (info : ObjectInfo) (bondInterfaces bridgeInterfaces : Option (List SCNetworkInterface))
    (vlanInterface : Option SCNetworkInterface) (interface : Option InterfaceObject)

namespace InterfaceObject

/-- What the interface holds besides other interfaces. -/
def info : InterfaceObject → ObjectInfo
  | mk info _ _ _ _ => info

/-- The interface it is layered on. -/
def interface : InterfaceObject → Option InterfaceObject
  | mk _ _ _ _ interface => interface

/-- `interfacePrivate->active = …` and so on -/
def update (f : ObjectInfo → ObjectInfo) : InterfaceObject → InterfaceObject
  | mk info bond bridge vlan interface => mk (f info) bond bridge vlan interface

@[simp] theorem info_update (f : ObjectInfo → ObjectInfo) (i : InterfaceObject) :
    (i.update f).info = f i.info := by
  cases i
  rfl

/-- `CFEqual(interface, kSCNetworkInterfaceLoopback)` -/
def isLoopback (i : InterfaceObject) : Bool :=
  decide (i.info.interfaceType = kSCNetworkInterfaceTypeLoopback) &&
    decide ((i.info.fields .entityDevice).bind PropertyList.string? = some "lo0") &&
    i.interface.isNone

end InterfaceObject

/-- The objects of an interface that was not made from a file. -/
def InterfaceInfo.objects (info : InterfaceInfo) : InterfaceField → Option PropertyList
  | .name => info.name.map .string
  | .localizedName => none
  | .localizedArg1 => none
  | .entityDevice => info.entityDevice.map .string
  | .entityDeviceUnique => info.entityDeviceUnique.map .string
  | .entityType => info.entityType.map .string
  | .entitySubtype => info.entitySubtype.map .string
  | .namePrefix => info.namePrefix.map .string
  | .type => info.type.map .integer
  | .unit => info.unit.map .integer
  | .address => info.address.map .data
  | .path => info.path.map .string
  | .usbName => info.usb.name.map .string
  | .usbPid => info.usb.pid.map .integer
  | .usbVid => info.usb.vid.map .integer
  | .matchingMACs => info.matchingMACs.map fun macs => .array (macs.map .data)

/-- An interface that was not made from a file. -/
def SCNetworkInterface.object : SCNetworkInterface → InterfaceObject
  | .mk info bond bridge vlan interface =>
    .mk
      { interfaceType := info.interfaceType
        fields := info.objects
        active := info.active
        builtin := info.builtin
        hiddenConfiguration := info.hiddenConfiguration
        hiddenInterface := info.hiddenInterface
        bondMode := info.bondMode
        vlanTag := info.vlanTag }
      bond bridge vlan
      (match interface with
        | none => none
        | some child => some child.object)

/-! ## Layers -/

/-- The default name of a VPN interface: the last but one component of its type. -/
def vpnName (vpnType : String) : Option String :=
  match (vpnType.splitOn ".").reverse with
  | last :: name :: _ :: _ :: _ =>
    if last = "vpnplugin" then some (name.map fun c => if c = '-' then ' ' else c) else none
  | _ => none

/-- `SCNetworkInterfaceCreateWithInterface` over an interface whose fields hold any object, where
the type of the layer is a string. -/
def createWithInterfaceObject (child : InterfaceObject) (interfaceType : String) :
    Checked (Option InterfaceObject) := do
  let childFields := child.info.fields
  let configuration := findConfiguration child.info.interfaceType
  let new := { ObjectInfo.new interfaceType with
    hiddenConfiguration := child.info.hiddenConfiguration
    hiddenInterface := child.info.hiddenInterface }
  let parent := fun fields : InterfaceField → Option PropertyList =>
    some (InterfaceObject.mk { new with fields := fields } none none none (some child))
  -- the types that `kSCNetworkInterfaceIPv4` supports
  let overIP := fun fields =>
    if (configuration.map (·.overIP)).getD false then parent fields else none
  if child.isLoopback then
    -- can't layer on top of loopback
    return none
  else if interfaceType = kSCNetworkInterfaceTypePPP then
    let layer := fun subtype : Option PropertyList => do
      let device ← copyString (childFields .entityDevice)
      let deviceUnique ← copyString (childFields .entityDeviceUnique)
      return parent fun
        | .entityType => some (.string "PPP")
        | .entitySubtype => subtype
        | .entityDevice => device.map .string
        | .entityDeviceUnique => deviceUnique.map .string
        | _ => none
    match configuration with
    | some c =>
      match c.pppSubtype with
      | some subtype => layer (some (.string subtype))
      -- the child interface does not support PPP
      | none => return none
    -- the type of the child interface is not known
    | none => layer (childFields .entityType)
  else if interfaceType = kSCNetworkInterfaceTypeL2TP then
    return overIP fun
      | .entityType => some (.string "L2TP")
      | _ => none
  else if interfaceType = kSCNetworkInterfaceTypePPTP then
    return overIP fun
      | .entityType => some (.string "PPTP")
      | _ => none
  else if interfaceType = kSCNetworkInterfaceType6to4 then
    return overIP fun
      | .entityType => some (.string "6to4")
      | .entityDevice => some (.string "stf0")
      | _ => none
  else if interfaceType = kSCNetworkInterfaceTypeIPSec then
    return overIP fun
      | .entityType => some (.string "IPSec")
      | _ => none
  else if interfaceType = kSCNetworkInterfaceTypeVPN then
    match configuration with
    -- not a vendor's child interface
    | some _ => return none
    | none =>
      -- the type is retained, and split at its dots
      let vpnType ← stringOf (childFields .entityType)
      let device ← copyString (childFields .entityDevice)
      return parent fun
        | .entityType => some (.string "VPN")
        | .entitySubtype => some (.string vpnType)
        | .localizedArg1 => some (.string vpnType)
        | .localizedName => (vpnName vpnType).map .string
        | .entityDevice => device.map .string
        | _ => none
  else if hasDot interfaceType then
    return parent fun
      | .entityType => some (.string interfaceType)
      | _ => none
  else
    return none

/-- `SCNetworkInterfaceCreateWithInterface` over `kSCNetworkInterfaceIPv4`, where the type is any
object. -/
def createOverIPv4 (interfaceType : Option PropertyList) : Option SCNetworkInterface :=
  (interfaceType.bind PropertyList.string?).bind
    (scNetworkInterfaceCreateWithInterface kSCNetworkInterfaceIPv4)

/-! ## Entities -/

/-- A dictionary of any property list objects. -/
abbrev PlistDictionary : Type := List (String × PropertyList)

/-- `CFDictionaryGetValue` -/
def PlistDictionary.value (dict : PlistDictionary) (key : String) : Option PropertyList :=
  dict.lookup key

/-- `CFDictionarySetValue`, if there is a value -/
def PlistDictionary.set (dict : PlistDictionary) (key : String) (value : Option PropertyList) :
    PlistDictionary :=
  match value with
  | some v => (key, v) :: dict
  | none => dict

/-- `kSCPropNetInterfaceType` -/
def kSCPropNetInterfaceType : String := "Type"
/-- `kSCPropNetInterfaceSubType` -/
def kSCPropNetInterfaceSubType : String := "SubType"
/-- `kSCPropNetInterfaceDeviceName` -/
def kSCPropNetInterfaceDeviceName : String := "DeviceName"
/-- `DeviceUniqueIdentifier` -/
def deviceUniqueIdentifier : String := "DeviceUniqueIdentifier"
/-- `kSCPropNetInterfaceHardware` -/
def kSCPropNetInterfaceHardware : String := "Hardware"
/-- `kSCPropUserDefinedName` -/
def kSCPropUserDefinedName : String := "UserDefinedName"
/-- `kSCNetworkInterfaceHiddenConfigurationKey` -/
def kSCNetworkInterfaceHiddenConfigurationKey : String := "HiddenConfiguration"
/-- `kSCNetworkInterfaceHiddenInterfaceKey` -/
def kSCNetworkInterfaceHiddenInterfaceKey : String := "HiddenInterface"

/-- `CFEqual` of an object that may be missing with a string that is not -/
def isString (value : Option PropertyList) (s : String) : Bool :=
  decide (value.bind PropertyList.string? = some s)

/-- `_SC_CFEqual` of an object with a string, which may both be missing -/
def equalsString (value : Option PropertyList) (s : Option String) : Bool :=
  match value with
  | none => s.isNone
  | some v => match v.string? with
    | none => false
    | some t => decide (s = some t)

/-- The first part of `_SCNetworkInterfaceCreateWithEntity`, by the type of the entity. -/
def lookupObject (sys : SystemInterfaces) (search : Search) (ifType : String)
    (ifSubType ifDevice ifUnique : Option PropertyList) : Checked Lookup := do
  let keep := search.keepHidden
  if ifType = "Ethernet" ∨ ifType = "FireWire" ∨ (ifType = "PPP" ∧ isString ifSubType "PPPoE") then
    match isA .string ifDevice with
    | none => return .refuse
    | some device =>
      let bsdName ← stringOf (some device)
      if bsdName = "lo0" then return .done (some kSCNetworkInterfaceLoopback)
      else if search.useSystemInterfaces then
        return if fitsBSDName bsdName then .go (sys.byBSDName keep bsdName) none else .done none
      else return .go none none
  else if ifType = "PPP" then
    if isString ifSubType "PPPSerial" then
      match isA .string ifDevice with
      | none => return .refuse
      | some device =>
        if search.useSystemInterfaces then
          let baseName ← stringOf (some device)
          let matching := sys.byTTYBaseName keep baseName
          if ifUnique.isNone ∧ (matching.getD []).all (·.info.entityDeviceUnique.isNone) then
            return .go (sys.byTTYDevice keep baseName) none
          else return .go matching none
        else return .go none none
    else
      -- L2TP, PPTP, and what others there may be
      return .go none (createOverIPv4 ifSubType)
  else if ifType = "6to4" then
    match isA .string ifDevice with
    | none => return .refuse
    | some _ => return .go none (scNetworkInterfaceCreateWithInterface kSCNetworkInterfaceIPv4
        kSCNetworkInterfaceType6to4)
  else if ifType = "IPSec" then
    return .go none (scNetworkInterfaceCreateWithInterface kSCNetworkInterfaceIPv4
      kSCNetworkInterfaceTypeIPSec)
  else if ifType = "Loopback" then
    return .go none (some kSCNetworkInterfaceLoopback)
  else if ifType = "VPN" then
    let subType ← stringOf ifSubType
    return .go none (if hasDot subType then createOverIPv4 ifSubType else none)
  else if hasDot ifType ∧ ifDevice.isNone then
    return .go none (scNetworkInterfaceCreateWithInterface kSCNetworkInterfaceIPv4 ifType)
  else return .go none none

/-- `case 0`: no interface of the system matches, so look at the virtual ones. -/
def findVirtualObject (sys : SystemInterfaces) (search : Search) (entity : PlistDictionary)
    (ifType ifDevice : String) : Option SCNetworkInterface :=
  if ifType ≠ "Ethernet" then none
  else if isString (entity.value kSCPropUserDefinedName) "Bluetooth PAN" then none
  else
    match search.virtualPrefs.or sys.defaultPrefs with
    | none => none
    | some prefs =>
      let contains := fun key => (entity.value key).isSome
      ((if contains "_NO_BOND_INTERFACES_" then none else findInterface prefs.bonds ifDevice).or
        (if contains "_NO_BRIDGE_INTERFACES_" then none
          else findInterface prefs.bridges ifDevice)).or
        (if contains "_NO_VLAN_INTERFACES_" then none else findInterface prefs.vlans ifDevice)

/-- The `default` case: several interfaces match. -/
def chooseMatchingObject (entity : PlistDictionary) (first : SCNetworkInterface)
    (l : List SCNetworkInterface) : SCNetworkInterface :=
  let ifUnique := entity.value deviceUniqueIdentifier
  let ifName := entity.value kSCPropUserDefinedName
  let chosen :=
    if ifUnique.isSome then onlyOne (fun i => equalsString ifUnique i.info.entityDeviceUnique) l
    else if ifName.isSome then
      onlyOne (fun i => decide (i.info.entityDeviceUnique = none) || decide (i.info.name = none) ||
        equalsString ifName i.info.name) l
    else none
  chosen.getD first

/-- The `switch` on the number of matching interfaces. -/
def selectMatchingObject (sys : SystemInterfaces) (search : Search) (entity : PlistDictionary)
    (ifType ifDevice : String) : List SCNetworkInterface → Option SCNetworkInterface
  | [] => findVirtualObject sys search entity ifType ifDevice
  | [i] =>
    if equalsString (entity.value deviceUniqueIdentifier) i.info.entityDeviceUnique then some i
    -- fall through
    else findVirtualObject sys search entity ifType ifDevice
  | first :: second :: l => some (chooseMatchingObject entity first (first :: second :: l))

/-- An object for a device that is not present: what the entity says of it, and its type. -/
def absentObject (search : Search) (entity : PlistDictionary) (ifType : String)
    (device deviceUnique : Option String) (interfaceType : String) (builtin : Bool) :
    InterfaceObject :=
  let userDefinedName := isA .string (entity.value kSCPropUserDefinedName)
  .mk { ObjectInfo.new interfaceType with
    fields := fun
      | .entityType => some (.string ifType)
      | .entitySubtype => entity.value kSCPropNetInterfaceSubType
      | .entityDevice => device.map .string
      | .entityDeviceUnique => deviceUnique.map .string
      | .name => if search.useSystemInterfaces then none else userDefinedName
      | .localizedName => if search.useSystemInterfaces then none else userDefinedName
      | _ => none
    builtin := builtin } none none none none

/-- The virtual interfaces are the first choice where the interfaces of the system are not
consulted. -/
def findVirtualByDevice (search : Search) (ifDevice : String) : Option SCNetworkInterface :=
  if search.useSystemInterfaces then none
  else
    search.virtualPrefs.bind fun prefs =>
      ((findInterface prefs.bridges ifDevice).or (findInterface prefs.bonds ifDevice)).or
        (findInterface prefs.vlans ifDevice)

/-- An interface that is written to: `NULL` cannot be. -/
def theInterface {α : Type} : Option α → Checked α
  | none => .error .nullInterface
  | some i => .ok i

/-- `if device not present on this system`; `none` is `return NULL`. -/
def createAbsentObject (sys : SystemInterfaces) (search : Search) (entity : PlistDictionary)
    (ifType : String) : Checked (Option InterfaceObject) := do
  let ifSubType := entity.value kSCPropNetInterfaceSubType
  let ifDevice := entity.value kSCPropNetInterfaceDeviceName
  let device ← copyString ifDevice
  let deviceUnique ← copyString (entity.value deviceUniqueIdentifier)
  let absent := absentObject search entity ifType device deviceUnique
  let userDefinedName := (entity.value kSCPropUserDefinedName).bind PropertyList.string?
  let airPort := isString (entity.value kSCPropNetInterfaceHardware) "AirPort"
  if ifType = "Ethernet" then
    match device.bind (findVirtualByDevice search) with
    | some i => return some i.object
    | none =>
      if airPort then return some (absent kSCNetworkInterfaceTypeIEEE80211 true)
      else return some (absent kSCNetworkInterfaceTypeEthernet (isBuiltinName sys userDefinedName))
  else if ifType = "FireWire" then
    return some (absent kSCNetworkInterfaceTypeFireWire
      (sys.matchesName userDefinedName "firewire"))
  else if ifType = "PPP" ∧ ifSubType.isSome then
    if isString ifSubType "PPPoE" then
      return some (absent (if airPort then kSCNetworkInterfaceTypeIEEE80211
        else kSCNetworkInterfaceTypeEthernet) false)
    else if isString ifSubType "PPPSerial" then
      -- `CFStringHasPrefix`
      let device ← stringOf ifDevice
      return some (absent (serialType device) false)
    else
      return (createOverIPv4 ifSubType).map SCNetworkInterface.object
  else if ifType = "VPN" ∧ ifSubType.isSome then
    return (createOverIPv4 ifSubType).map SCNetworkInterface.object
  else if ifType = "IPSec" then
    -- what is created here and for 6to4 is not compared with `NULL`
    let i ← theInterface (scNetworkInterfaceCreateWithInterface kSCNetworkInterfaceIPv4
      kSCNetworkInterfaceTypeIPSec)
    return some i.object
  else if ifType = "6to4" then
    if (isA .string ifDevice).isNone then return none
    else
      let i ← theInterface (scNetworkInterfaceCreateWithInterface kSCNetworkInterfaceIPv4
        kSCNetworkInterfaceType6to4)
      return some i.object
  else if ifType = "Loopback" then
    return some kSCNetworkInterfaceLoopback.object
  else if hasDot ifType then
    return some (absent ifType false)
  else
    return none

/-- `isHidden` -/
def isHiddenObject : Option PropertyList → Bool
  | none => false
  | some (.boolean hidden) => hidden
  -- if not explicitly 0
  | some v => decide (v.intValue? ≠ some 0)

/-- `create parent` -/
def createParentObject (ifType : String) : Option InterfaceObject →
    Checked (Option InterfaceObject)
  | none => return none
  | some i =>
    if ifType = "PPP" then createWithInterfaceObject i kSCNetworkInterfaceTypePPP
    else if ifType = "VPN" then createWithInterfaceObject i kSCNetworkInterfaceTypeVPN
    else return some i

/-- The second part of `_SCNetworkInterfaceCreateWithEntity`, from `done` on. The service, which
is only noted in the interface, is left out. -/
def finishObject (sys : SystemInterfaces) (search : Search) (entity : PlistDictionary)
    (ifType : String) (interface : Option SCNetworkInterface) :
    Checked (Option InterfaceObject) := do
  match interface, search.useSystemInterfaces with
  | some i, true => createParentObject ifType (some i.object)
  | _, _ =>
    let hidden := isHiddenObject (entity.value kSCNetworkInterfaceHiddenConfigurationKey)
    let absent ← createAbsentObject sys search entity ifType
    createParentObject ifType (absent.map (InterfaceObject.update fun info =>
      { info with hiddenConfiguration := hidden }))

/-- `_SCNetworkInterfaceCreateWithEntity`, of any dictionary -/
def createWithEntityObject (sys : SystemInterfaces) (search : Search) (entity : PlistDictionary) :
    Checked (Option InterfaceObject) :=
  match (entity.value kSCPropNetInterfaceType).getD (.string "Ethernet") with
  | .string ifType => do
    let ifSubType := entity.value kSCPropNetInterfaceSubType
    let ifDevice := entity.value kSCPropNetInterfaceDeviceName
    let ifUnique := entity.value deviceUniqueIdentifier
    if (ifType = "PPP" ∨ ifType = "VPN") ∧ (isA .string ifSubType).isNone then return none
    else
      match ← lookupObject sys search ifType ifSubType ifDevice ifUnique with
      | .refuse => return none
      | .done interface => finishObject sys search entity ifType interface
      | .go none interface => finishObject sys search entity ifType interface
      | .go (some matching) _ =>
        let device ← stringOf ifDevice
        finishObject sys search entity ifType
          (selectMatchingObject sys search entity ifType device matching)
  | _ => return none

/-! ## Storage entities -/

/-- `kSCNetworkInterfaceActive` -/
def kSCNetworkInterfaceActive : String := "Active"
/-- `kSCNetworkInterfaceInfo` -/
def kSCNetworkInterfaceInfo : String := "SCNetworkInterfaceInfo"
/-- `kSCNetworkInterfaceType` -/
def kSCNetworkInterfaceType : String := "SCNetworkInterfaceType"
/-- `kSCNetworkInterfaceMatchingMACs` -/
def kSCNetworkInterfaceMatchingMACs : String := "MatchingMACs"
/-- `kSCNetworkInterfaceBSDName` -/
def kSCNetworkInterfaceBSDName : String := "BSD Name"
/-- `kSCNetworkInterfaceIOBuiltin` -/
def kSCNetworkInterfaceIOBuiltin : String := "IOBuiltin"
/-- `kSCNetworkInterfaceIOInterfaceNamePrefix` -/
def kSCNetworkInterfaceIOInterfaceNamePrefix : String := "IOInterfaceNamePrefix"
/-- `kSCNetworkInterfaceIOInterfaceType` -/
def kSCNetworkInterfaceIOInterfaceType : String := "IOInterfaceType"
/-- `kSCNetworkInterfaceIOInterfaceUnit` -/
def kSCNetworkInterfaceIOInterfaceUnit : String := "IOInterfaceUnit"
/-- `kSCNetworkInterfaceIOMACAddress` -/
def kSCNetworkInterfaceIOMACAddress : String := "IOMACAddress"
/-- `kSCNetworkInterfaceIOPathMatch` -/
def kSCNetworkInterfaceIOPathMatch : String := "IOPathMatch"
/-- `kUSBProductString` -/
def kUSBProductString : String := "USB Product Name"
/-- `kUSBProductID` -/
def kUSBProductID : String := "idProduct"
/-- `kUSBVendorID` -/
def kUSBVendorID : String := "idVendor"

/-- A number that was converted by `CFNumberGetValue`: no other can be used. -/
def convertedNumber : Option ℤ → Checked ℤ
  | none => .error .notConverted
  | some n => .ok n

/-- The type of the entity that a storage entity is read as. -/
def storedObjectType (ioInterfaceTypeNum : ℤ) (interfaceType : String) : String :=
  if ioInterfaceTypeNum = IFT_ETHER then "Ethernet"
  else if ioInterfaceTypeNum = IFT_IEEE1394 then "FireWire"
  else interfaceType

/-- The entity that `__SCNetworkInterfaceCreateWithStorageEntity` makes an interface of. -/
def storedEntity (ifType interfaceType bsdName : String) (hiddenConfiguration : Bool)
    (userDefinedName : Option PropertyList) : PlistDictionary :=
  let dict : PlistDictionary := []
  let dict := dict.set kSCPropNetInterfaceType (some (.string ifType))
  let dict := dict.set kSCPropNetInterfaceHardware ((hardwareOf interfaceType).map .string)
  let dict := dict.set kSCPropNetInterfaceDeviceName (some (.string bsdName))
  let dict := dict.set kSCNetworkInterfaceHiddenConfigurationKey
    ((trueIf hiddenConfiguration).map .boolean)
  dict.set kSCPropUserDefinedName userDefinedName

/-- `__SCNetworkInterfaceCreateWithStorageEntity`, of any dictionary. The steps up to `done` are
in the order of the source: each check that fails is a `return none`. -/
def createWithStorageEntityObject (sys : SystemInterfaces) (storageEntity : PlistDictionary) :
    Checked (Option InterfaceObject) := do
  let boolean := fun key => (storageEntity.value key).bind PropertyList.boolean?
  let active := (boolean kSCNetworkInterfaceActive).getD false
  let some (.string bsdName) := storageEntity.value kSCNetworkInterfaceBSDName | return none
  let hiddenConfiguration := (boolean kSCNetworkInterfaceHiddenConfigurationKey).getD false
  let hiddenInterface := (boolean kSCNetworkInterfaceHiddenInterfaceKey).getD false
  let some ioBuiltin := boolean kSCNetworkInterfaceIOBuiltin | return none
  let ioInterfaceNamePrefix :=
    (isA .string (storageEntity.value kSCNetworkInterfaceIOInterfaceNamePrefix)).getD
      (.string (copyPrefixFromBSDName bsdName))
  let some ioInterfaceType :=
    isA .number (storageEntity.value kSCNetworkInterfaceIOInterfaceType) | return none
  -- a failure is only logged
  let ioInterfaceTypeNum := ioInterfaceType.intValue?
  let some ioInterfaceUnit :=
    isA .number (storageEntity.value kSCNetworkInterfaceIOInterfaceUnit) | return none
  let some ioMACAddress :=
    isA .data (storageEntity.value kSCNetworkInterfaceIOMACAddress) | return none
  let some ioPathMatch :=
    isA .string (storageEntity.value kSCNetworkInterfaceIOPathMatch) | return none
  let some interfaceInfo :=
    (storageEntity.value kSCNetworkInterfaceInfo).bind PropertyList.entries? | return none
  let userDefinedName := isA .string (PlistDictionary.value interfaceInfo kSCPropUserDefinedName)
  let usbProductName := isA .string (PlistDictionary.value interfaceInfo kUSBProductString)
  let idProduct := isA .number (PlistDictionary.value interfaceInfo kUSBProductID)
  let idVendor := isA .number (PlistDictionary.value interfaceInfo kUSBVendorID)
  let matchingMacs := isA .array (storageEntity.value kSCNetworkInterfaceMatchingMACs)
  let some (.string interfaceType) := storageEntity.value kSCNetworkInterfaceType | return none
  let ioInterfaceTypeNum ← convertedNumber ioInterfaceTypeNum
  let interfacePrivate ← createWithEntityObject sys .external
    (storedEntity (storedObjectType ioInterfaceTypeNum interfaceType) interfaceType bsdName
      hiddenConfiguration userDefinedName)
  -- what was created is not compared with `NULL`
  let i ← theInterface interfacePrivate
  return some (i.update fun info =>
    { info with
      active := active
      builtin := ioBuiltin
      hiddenInterface := hiddenInterface
      fields := fun
        | .namePrefix => some ioInterfaceNamePrefix
        | .type => some ioInterfaceType
        | .unit => some ioInterfaceUnit
        | .address => some ioMACAddress
        | .path => some ioPathMatch
        | .usbName => usbProductName
        | .usbPid => idProduct
        | .usbVid => idVendor
        | .matchingMACs => matchingMacs
        | field => info.fields field })

end ConfigdExtra
