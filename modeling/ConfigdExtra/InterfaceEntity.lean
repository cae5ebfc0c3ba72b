import ConfigdExtra.NetworkInterface

/-!
# The preferences entity of an interface

How an interface is written to the preferences of a service, and made again from there.

* `configurations`, `findConfiguration` — the table of the interface types.
* `scNetworkInterfaceCreateWithInterface` — an interface layered on another.
* `InterfaceEntity`, `copyInterfaceEntity` — the entity of an interface.
* `SystemInterfaces`, `VirtualPrefs`, `Search` — what an entity is looked up in.
* `createWithEntity` — the interface of an entity.
-/

namespace ConfigdExtra

/-! ## The table of interface types -/

/-- A row of `configurations`, of which the layering and the entity use these columns. -/
structure Configuration where
  /-- `entity_hardware` -/
  entityHardware : Option String
  /-- `supported_interfaces & doL2TP` and so on: what can be layered on top over IP -/
  overIP : Bool
  /-- `ppp_subtype` -/
  pppSubtype : Option String
  /-- `supported_protocols != doNone` -/
  protocols : Bool
  deriving DecidableEq, Repr

/-- `configurations` -/
def configurations : List (String × Configuration) :=
  [(kSCNetworkInterfaceType6to4, ⟨some "6to4", false, none, true⟩),
    (kSCNetworkInterfaceTypeBluetooth, ⟨some "Modem", false, some "PPPSerial", false⟩),
    (kSCNetworkInterfaceTypeBond, ⟨some "Ethernet", false, none, true⟩),
    (kSCNetworkInterfaceTypeBridge, ⟨some "Ethernet", false, none, true⟩),
    (kSCNetworkInterfaceTypeEthernet, ⟨some "Ethernet", false, some "PPPoE", true⟩),
    (kSCNetworkInterfaceTypeFireWire, ⟨some "FireWire", false, none, true⟩),
    (kSCNetworkInterfaceTypeIEEE80211, ⟨some "AirPort", false, some "PPPoE", true⟩),
    (kSCNetworkInterfaceTypeIPSec, ⟨some "IPSec", false, none, true⟩),
    (kSCNetworkInterfaceTypeL2TP, ⟨none, false, some "L2TP", false⟩),
    (kSCNetworkInterfaceTypeModem, ⟨some "Modem", false, some "PPPSerial", false⟩),
    (kSCNetworkInterfaceTypePPP, ⟨some "PPP", false, none, true⟩),
    (kSCNetworkInterfaceTypePPTP, ⟨none, false, some "PPTP", false⟩),
    (kSCNetworkInterfaceTypeSerial, ⟨some "Modem", false, some "PPPSerial", false⟩),
    (kSCNetworkInterfaceTypeVLAN, ⟨some "Ethernet", false, some "PPPoE", true⟩),
    (kSCNetworkInterfaceTypeVPN, ⟨some "VPN", false, none, true⟩),
    (kSCNetworkInterfaceTypeWWAN, ⟨some "Modem", false, some "PPPSerial", false⟩),
    (kSCNetworkInterfaceTypeLoopback, ⟨none, false, none, true⟩),
    (kSCNetworkInterfaceTypeIPv4, ⟨none, true, none, false⟩)]

/-- `findConfiguration` -/
def findConfiguration (interfaceType : String) : Option Configuration :=
  configurations.lookup interfaceType

/-- `SCNetworkInterfaceGetSupportedProtocolTypes` is not `NULL`. -/
def supportsProtocols (i : SCNetworkInterface) : Bool :=
  match findConfiguration i.info.interfaceType with
  | some configuration => configuration.protocols
  | none => false

/-! ## Layers -/

/-- `kSCNetworkInterfaceIPv4` -/
def kSCNetworkInterfaceIPv4 : SCNetworkInterface :=
  .mk (InterfaceInfo.new kSCNetworkInterfaceTypeIPv4) none none none none

/-- `kSCNetworkInterfaceLoopback` -/
def kSCNetworkInterfaceLoopback : SCNetworkInterface :=
  .mk { InterfaceInfo.new kSCNetworkInterfaceTypeLoopback with
    entityDevice := some "lo0"
    entityType := some "Loopback" } none none none none

/-- `CFStringFind(s, CFSTR("."), 0).location != kCFNotFound`: a vendor's type -/
def hasDot (s : String) : Bool := s.toList.contains '.'

/-- What `SCNetworkInterfaceCreateWithInterface` fills in of a layer of the given type, or `none`
where it goes to `fail`. -/
def layerInfo (child : SCNetworkInterface) (interfaceType : String) : Option InterfaceInfo :=
  let childInfo := child.info
  let configuration := findConfiguration childInfo.interfaceType
  let new := InterfaceInfo.new interfaceType
  if interfaceType = kSCNetworkInterfaceTypePPP then
    let parent := fun subtype =>
      { new with
        entityType := some "PPP"
        entitySubtype := subtype
        entityDevice := childInfo.entityDevice
        entityDeviceUnique := childInfo.entityDeviceUnique }
    match configuration with
    | some c =>
      match c.pppSubtype with
      | some subtype => some (parent (some subtype))
      -- the child interface does not support PPP
      | none => none
    -- the type of the child interface is not known
    | none => some (parent childInfo.entityType)
  else if interfaceType = kSCNetworkInterfaceTypeL2TP then
    if (configuration.map (·.overIP)).getD false then some { new with entityType := some "L2TP" }
    else none
  else if interfaceType = kSCNetworkInterfaceTypePPTP then
    if (configuration.map (·.overIP)).getD false then some { new with entityType := some "PPTP" }
    else none
  else if interfaceType = kSCNetworkInterfaceType6to4 then
    if (configuration.map (·.overIP)).getD false then
      some { new with entityType := some "6to4", entityDevice := some "stf0" }
    else none
  else if interfaceType = kSCNetworkInterfaceTypeIPSec then
    if (configuration.map (·.overIP)).getD false then some { new with entityType := some "IPSec" }
    else none
  else if interfaceType = kSCNetworkInterfaceTypeVPN then
    match configuration with
    -- not a vendor's child interface
    | some _ => none
    | none =>
      some { new with
        entityType := some "VPN"
        entitySubtype := childInfo.entityType
        entityDevice := childInfo.entityDevice }
  else if hasDot interfaceType then
    some { new with entityType := some interfaceType }
  else
    none

/-- `SCNetworkInterfaceCreateWithInterface` -/
def scNetworkInterfaceCreateWithInterface (child : SCNetworkInterface) (interfaceType : String) :
    Option SCNetworkInterface :=
  if child.equal kSCNetworkInterfaceLoopback then
    -- can't layer on top of loopback
    none
  else
    (layerInfo child interfaceType).map fun info =>
      .mk { info with
        hiddenConfiguration := child.info.hiddenConfiguration
        hiddenInterface := child.info.hiddenInterface } none none none (some child)

/-! ## The entity -/

/-- The entity of an interface: a dictionary with these keys. -/
structure InterfaceEntity where
  /-- `kSCPropNetInterfaceType` -/
  type : Option String
  /-- `kSCPropNetInterfaceSubType` -/
  subType : Option String
  /-- `kSCPropNetInterfaceDeviceName` -/
  deviceName : Option String
  /-- `DeviceUniqueIdentifier` -/
  deviceUnique : Option String
  /-- `kSCNetworkInterfaceHiddenConfigurationKey` -/
  hiddenConfiguration : Option Bool
  /-- `kSCPropNetInterfaceHardware` -/
  hardware : Option String
  /-- `kSCPropUserDefinedName` -/
  userDefinedName : Option String
  /-- `_NO_BOND_INTERFACES_` -/
  noBond : Bool
  /-- `_NO_BRIDGE_INTERFACES_` -/
  noBridge : Bool
  /-- `_NO_VLAN_INTERFACES_` -/
  noVLAN : Bool
  deriving DecidableEq, Repr

/-- The interface of the lowest layer. -/
def lowestLayer : SCNetworkInterface → SCNetworkInterface
  | .mk info bond bridge vlan none => .mk info bond bridge vlan none
  | .mk _ _ _ _ (some child) => lowestLayer child

/-- `kSCPropNetInterfaceHardware` of an interface type -/
def hardwareOf (interfaceType : String) : Option String :=
  match findConfiguration interfaceType with
  | some configuration => configuration.entityHardware
  | none => some interfaceType

/-- `__SCNetworkInterfaceCopyInterfaceEntity`, where `localizedDisplayName` is
`SCNetworkInterfaceGetLocalizedDisplayName`. -/
def copyInterfaceEntity (localizedDisplayName : SCNetworkInterface → String)
    (i : SCNetworkInterface) : InterfaceEntity :=
  let lowest := lowestLayer i
  let overIPv4 := lowest.equal kSCNetworkInterfaceIPv4
  { type := i.info.entityType
    subType := i.info.entitySubtype
    deviceName := i.info.entityDevice
    deviceUnique := i.info.entityDeviceUnique
    hiddenConfiguration := if i.info.hiddenConfiguration then some true else none
    hardware := if overIPv4 then none else hardwareOf lowest.info.interfaceType
    userDefinedName := if overIPv4 then none else some (localizedDisplayName lowest)
    noBond := false
    noBridge := false
    noVLAN := false }

/-! ## Where an entity is looked up -/

/-- The virtual interfaces of the preferences. -/
structure VirtualPrefs where
  /-- `SCBondInterfaceCopyAll` -/
  bonds : List SCNetworkInterface
  /-- `SCBridgeInterfaceCopyAll` -/
  bridges : List SCNetworkInterface
  /-- `SCVLANInterfaceCopyAll` -/
  vlans : List SCNetworkInterface

/-- What the registry and the bundle know. The interfaces found are those that are not hidden,
or all of them if `keepHidden`; `none` stands for a lookup that fails. -/
structure SystemInterfaces where
  /-- `findMatchingInterfaces` by BSD name -/
  byBSDName : Bool → String → Option (List SCNetworkInterface)
  /-- `findMatchingInterfaces` by the base name of a serial device -/
  byTTYBaseName : Bool → String → Option (List SCNetworkInterface)
  /-- `findMatchingInterfaces` by the name of a serial device -/
  byTTYDevice : Bool → String → Option (List SCNetworkInterface)
  /-- the default preferences, if they can be opened -/
  defaultPrefs : Option VirtualPrefs
  /-- `__SCNetworkInterfaceMatchesName` -/
  matchesName : Option String → String → Bool

/-- The `service` argument of `_SCNetworkInterfaceCreateWithEntity`. -/
inductive Search where
  /-- `NULL` -/
  | null
  /-- `__kSCNetworkInterfaceSearchExternal` -/
  | external
  /-- `__kSCNetworkInterfaceSearchSystem` -/
  | system
  /-- a service: the preferences it is in, if any, and
  `_SCNetworkConfigurationBypassSystemInterfaces` of them -/
  | service (prefs : Option VirtualPrefs) (bypass : Bool)

namespace Search

/-- `keepHidden` -/
def keepHidden : Search → Bool
  | system => true
  | _ => false

/-- `useSystemInterfaces` -/
def useSystemInterfaces : Search → Bool
  | external => false
  | service _ bypass => !bypass
  | _ => true

/-- `virtualPrefs` -/
def virtualPrefs : Search → Option VirtualPrefs
  | service prefs _ => prefs
  | _ => none

end Search

/-- `findInterface` -/
def findInterface (interfaces : List SCNetworkInterface) (matchIf : String) :
    Option SCNetworkInterface :=
  interfaces.find? fun i => i.info.entityDevice = some matchIf

/-- `_SC_cfstring_to_cstring` into a buffer of `IFNAMSIZ` bytes -/
def fitsBSDName (s : String) : Bool := s.toList.all (·.toNat < 128) && s.length < 16

/-! ## The interface of an entity -/

/-- How far the lookup of an entity gets. -/
inductive Lookup where
  /-- `return NULL` -/
  | refuse
  /-- `goto done` -/
  | done (interface : Option SCNetworkInterface)
  /-- on to the matching interfaces, if they have been looked for -/
  | go (matching : Option (List SCNetworkInterface)) (interface : Option SCNetworkInterface)

/-- The first part of `_SCNetworkInterfaceCreateWithEntity`, by the type of the entity. -/
def lookupEntity (sys : SystemInterfaces) (search : Search) (entity : InterfaceEntity)
    (ifType : String) (ifSubType : Option String) : Lookup :=
  let keep := search.keepHidden
  if ifType = "Ethernet" ∨ ifType = "FireWire" ∨ (ifType = "PPP" ∧ ifSubType = some "PPPoE") then
    match entity.deviceName with
    | none => .refuse
    | some ifDevice =>
      if ifDevice = "lo0" then .done (some kSCNetworkInterfaceLoopback)
      else if search.useSystemInterfaces then
        if fitsBSDName ifDevice then .go (sys.byBSDName keep ifDevice) none else .done none
      else .go none none
  else if ifType = "PPP" then
    if ifSubType = some "PPPSerial" then
      match entity.deviceName with
      | none => .refuse
      | some ifDevice =>
        if search.useSystemInterfaces then
          let matching := sys.byTTYBaseName keep ifDevice
          if entity.deviceUnique = none ∧
              (matching.getD []).all (·.info.entityDeviceUnique.isNone) then
            .go (sys.byTTYDevice keep ifDevice) none
          else .go matching none
        else .go none none
    else
      -- L2TP, PPTP, and what others there may be
      .go none (ifSubType.bind (scNetworkInterfaceCreateWithInterface kSCNetworkInterfaceIPv4))
  else if ifType = "6to4" then
    match entity.deviceName with
    | none => .refuse
    | some _ => .go none (scNetworkInterfaceCreateWithInterface kSCNetworkInterfaceIPv4
        kSCNetworkInterfaceType6to4)
  else if ifType = "IPSec" then
    .go none (scNetworkInterfaceCreateWithInterface kSCNetworkInterfaceIPv4
      kSCNetworkInterfaceTypeIPSec)
  else if ifType = "Loopback" then
    .go none (some kSCNetworkInterfaceLoopback)
  else if ifType = "VPN" then
    .go none (ifSubType.bind fun subType =>
      if hasDot subType then scNetworkInterfaceCreateWithInterface kSCNetworkInterfaceIPv4 subType
      else none)
  else if hasDot ifType ∧ entity.deviceName = none then
    .go none (scNetworkInterfaceCreateWithInterface kSCNetworkInterfaceIPv4 ifType)
  else .go none none

/-- `case 0`: no interface of the system matches, so look at the virtual ones. -/
def findVirtual (sys : SystemInterfaces) (search : Search) (entity : InterfaceEntity)
    (ifType ifDevice : String) : Option SCNetworkInterface :=
  if ifType ≠ "Ethernet" then none
  else if entity.userDefinedName = some "Bluetooth PAN" then none
  else
    match search.virtualPrefs.or sys.defaultPrefs with
    | none => none
    | some prefs =>
      ((if entity.noBond then none else findInterface prefs.bonds ifDevice).or
        (if entity.noBridge then none else findInterface prefs.bridges ifDevice)).or
        (if entity.noVLAN then none else findInterface prefs.vlans ifDevice)

/-- The loops of the `default` case: the interface that is the only one of the list to pass a
test. -/
def onlyOne (passes : SCNetworkInterface → Bool) (l : List SCNetworkInterface) :
    Option SCNetworkInterface :=
  match l.filter passes with
  | [i] => some i
  | _ => none

/-- The `default` case: several interfaces match. -/
def chooseMatching (entity : InterfaceEntity) (first : SCNetworkInterface)
    (l : List SCNetworkInterface) : SCNetworkInterface :=
  let chosen :=
    match entity.deviceUnique with
    | some unique => onlyOne (fun i => i.info.entityDeviceUnique = some unique) l
    | none =>
      match entity.userDefinedName with
      | some ifName =>
        onlyOne (fun i => i.info.entityDeviceUnique = none ∨ i.info.name = none ∨
          i.info.name = some ifName) l
      | none => none
  chosen.getD first

/-- The `switch` on the number of matching interfaces. -/
def selectMatching (sys : SystemInterfaces) (search : Search) (entity : InterfaceEntity)
    (ifType ifDevice : String) : List SCNetworkInterface → Option SCNetworkInterface
  | [] => findVirtual sys search entity ifType ifDevice
  | [i] =>
    if entity.deviceUnique = i.info.entityDeviceUnique then some i
    -- fall through
    else findVirtual sys search entity ifType ifDevice
  | first :: second :: l => some (chooseMatching entity first (first :: second :: l))

/-- An object for a device that is not present: what the entity says of it, and its type. -/
def absentInterface (search : Search) (entity : InterfaceEntity) (ifType : String)
    (ifSubType : Option String) (interfaceType : String) (builtin : Bool) : SCNetworkInterface :=
  .mk { InterfaceInfo.new interfaceType with
    entityType := some ifType
    entitySubtype := ifSubType
    entityDevice := entity.deviceName
    entityDeviceUnique := entity.deviceUnique
    name := if search.useSystemInterfaces then none else entity.userDefinedName
    builtin := builtin } none none none none

/-- The type of a serial device, by its name. -/
def serialType (ifDevice : String) : String :=
  if "Bluetooth".toList.isPrefixOf ifDevice.toList then kSCNetworkInterfaceTypeBluetooth
  else if "irda".toList.isPrefixOf ifDevice.toList then kSCNetworkInterfaceTypeIrDA
  else if "wwan".toList.isPrefixOf ifDevice.toList then kSCNetworkInterfaceTypeWWAN
  else kSCNetworkInterfaceTypeModem

/-- The names of built-in Ethernet interfaces. -/
def isBuiltinName (sys : SystemInterfaces) (userDefinedName : Option String) : Bool :=
  sys.matchesName userDefinedName "ether" || sys.matchesName userDefinedName "multiether" ||
    !(sys.matchesName userDefinedName "iPhone" || sys.matchesName userDefinedName "iPad") &&
      (sys.matchesName userDefinedName "thunderbolt" ||
        sys.matchesName userDefinedName "multithunderbolt")

/-- `if device not present on this system`; `none` is `return NULL`. -/
def createAbsent (sys : SystemInterfaces) (search : Search) (entity : InterfaceEntity)
    (ifType : String) (ifSubType : Option String) : Option SCNetworkInterface :=
  let absent := absentInterface search entity ifType ifSubType
  let airPort := entity.hardware = some "AirPort"
  if ifType = "Ethernet" then
    let virtual :=
      if search.useSystemInterfaces then none
      else
        search.virtualPrefs.bind fun prefs =>
          entity.deviceName.bind fun ifDevice =>
            ((findInterface prefs.bridges ifDevice).or (findInterface prefs.bonds ifDevice)).or
              (findInterface prefs.vlans ifDevice)
    match virtual with
    | some i => some i
    | none =>
      if airPort then some (absent kSCNetworkInterfaceTypeIEEE80211 true)
      else some (absent kSCNetworkInterfaceTypeEthernet (isBuiltinName sys entity.userDefinedName))
  else if ifType = "FireWire" then
    some (absent kSCNetworkInterfaceTypeFireWire (sys.matchesName entity.userDefinedName "firewire"))
  else if ifType = "PPP" ∧ ifSubType ≠ none then
    if ifSubType = some "PPPoE" then
      some (absent (if airPort then kSCNetworkInterfaceTypeIEEE80211
        else kSCNetworkInterfaceTypeEthernet) false)
    else if ifSubType = some "PPPSerial" then
      some (absent (serialType (entity.deviceName.getD "")) false)
    else
      ifSubType.bind (scNetworkInterfaceCreateWithInterface kSCNetworkInterfaceIPv4)
  else if ifType = "VPN" ∧ ifSubType ≠ none then
    ifSubType.bind (scNetworkInterfaceCreateWithInterface kSCNetworkInterfaceIPv4)
  else if ifType = "IPSec" then
    scNetworkInterfaceCreateWithInterface kSCNetworkInterfaceIPv4 kSCNetworkInterfaceTypeIPSec
  else if ifType = "6to4" then
    entity.deviceName.bind fun _ =>
      scNetworkInterfaceCreateWithInterface kSCNetworkInterfaceIPv4 kSCNetworkInterfaceType6to4
  else if ifType = "Loopback" then
    some kSCNetworkInterfaceLoopback
  else if hasDot ifType then
    some (absent ifType false)
  else
    none

/-- `isHidden`, of a Boolean property -/
def isHidden (hidden : Option Bool) : Bool := hidden.getD false

/-- `interfacePrivate->hiddenConfiguration = …` -/
def SCNetworkInterface.hideConfiguration (hidden : Bool) : SCNetworkInterface → SCNetworkInterface
  | .mk info bond bridge vlan interface =>
    .mk { info with hiddenConfiguration := hidden } bond bridge vlan interface

/-- The second part of `_SCNetworkInterfaceCreateWithEntity`, from `done` on. -/
def finishEntity (sys : SystemInterfaces) (search : Search) (entity : InterfaceEntity)
    (ifType : String) (ifSubType : Option String) (interface : Option SCNetworkInterface) :
    Option SCNetworkInterface :=
  let found :=
    match interface, search.useSystemInterfaces with
    | some i, true => some i
    | _, _ =>
      (createAbsent sys search entity ifType ifSubType).map
        (SCNetworkInterface.hideConfiguration (isHidden entity.hiddenConfiguration))
  found.bind fun i =>
    if ifType = "PPP" then scNetworkInterfaceCreateWithInterface i kSCNetworkInterfaceTypePPP
    else if ifType = "VPN" then scNetworkInterfaceCreateWithInterface i kSCNetworkInterfaceTypeVPN
    else some i

/-- `_SCNetworkInterfaceCreateWithEntity` -/
def createWithEntity (sys : SystemInterfaces) (search : Search) (entity : InterfaceEntity) :
    Option SCNetworkInterface :=
  let ifType := entity.type.getD "Ethernet"
  let ifSubType := entity.subType
  if (ifType = "PPP" ∨ ifType = "VPN") ∧ ifSubType = none then none
  else
    match lookupEntity sys search entity ifType ifSubType with
    | .refuse => none
    | .done interface => finishEntity sys search entity ifType ifSubType interface
    | .go none interface => finishEntity sys search entity ifType ifSubType interface
    | .go (some matching) _ =>
      finishEntity sys search entity ifType ifSubType
        (selectMatching sys search entity ifType (entity.deviceName.getD "") matching)

end ConfigdExtra
