import ConfigdExtra.EntityObjects
import ConfigdExtra.InterfaceCopy
import ConfigdExtra.RegistryEntries

/-!
# What an interface of the registry is

`processNetworkInterface` looks at the registry for what a network interface is, where it is
ordered, and how it is called.

* `EtherKind`, `etherKind` — the type and the place in the order of an Ethernet interface.
* `Localization` — what the name of an interface is made of.
* `findProvider`, `usbLoop`, `etherLocalization`, `fireWireLocalization` — how the name is found.
* `processNetworkInterface`, `createInterface` — the functions.
-/

namespace ConfigdExtra.IORegistry

open InterfaceCopy (InterfaceFields createPrivate)

/-! ## Types -/

/-- `kSortEthernet` -/
def kSortEthernet : ℕ := 9

/-- `kSortFireWire` -/
def kSortFireWire : ℕ := 10

/-- `kSortAirPort` -/
def kSortAirPort : ℕ := 11

/-- `kSortOtherWireless` -/
def kSortOtherWireless : ℕ := 12

/-- `kSortTethered` -/
def kSortTethered : ℕ := 13

/-- `kSortWWANEthernet` -/
def kSortWWANEthernet : ℕ := 14

/-- `kSortBluetoothPAN_GN` -/
def kSortBluetoothPAN_GN : ℕ := 15

/-- `kSortBluetoothPAN_NAP` -/
def kSortBluetoothPAN_NAP : ℕ := 16

/-- `kSortBluetoothPAN_U` -/
def kSortBluetoothPAN_U : ℕ := 17

/-- `kSortThunderbolt` -/
def kSortThunderbolt : ℕ := 18

/-- `kSortCarPlay` -/
def kSortCarPlay : ℕ := 19

/-- `interface_type` and `sort_order` of an Ethernet interface. -/
structure EtherKind where
  interfaceType : String
  sortOrder : ℕ
deriving DecidableEq

/-- By the class of the controller. -/
def kindOfController (controller : RegistryEntry) : Option EtherKind :=
  if controller.conformsTo "IO80211Controller" || controller.conformsTo "AirPortPCI" ||
      controller.conformsTo "AirPortDriver" then
    some ⟨kSCNetworkInterfaceTypeIEEE80211, kSortAirPort⟩
  else if controller.conformsTo "AppleThunderboltIPPort" then
    some ⟨kSCNetworkInterfaceTypeEthernet, kSortThunderbolt⟩
  else if controller.conformsTo "IOBluetoothBNEPDriver" then
    some ⟨kSCNetworkInterfaceTypeEthernet, kSortBluetoothPAN_GN⟩
  else if controller.conformsTo "AppleUSBEthernetHost" then
    some ⟨kSCNetworkInterfaceTypeEthernet, kSortTethered⟩
  else if controller.conformsTo "AppleUSBCDCECMData" then
    some ⟨kSCNetworkInterfaceTypeEthernet, kSortWWANEthernet⟩
  else none

/-- By `kIOUserEthernetInterfaceRoleKey`. -/
def kindOfRole (chain : List RegistryEntry) : Option EtherKind :=
  match (searchProperty chain "InterfaceRole").bind PropertyList.string? with
  | some "Bluetooth PAN" => some ⟨kSCNetworkInterfaceTypeEthernet, kSortBluetoothPAN_GN⟩
  | some "Bluetooth PAN-NAP" => some ⟨kSCNetworkInterfaceTypeEthernet, kSortBluetoothPAN_NAP⟩
  | some "Bluetooth P2P" => some ⟨kSCNetworkInterfaceTypeEthernet, kSortBluetoothPAN_U⟩
  | some "CarPlay" => some ⟨kSCNetworkInterfaceTypeEthernet, kSortCarPlay⟩
  | _ => none

/-- By `kUSBSupportsIPhoneOS`. -/
def kindOfIPhone (chain : List RegistryEntry) : Option EtherKind :=
  match (searchProperty chain "SupportsIPhoneOS").bind PropertyList.boolean? with
  | some true => some ⟨kSCNetworkInterfaceTypeEthernet, kSortTethered⟩
  | _ => none

/-- By the name of the bus. -/
def kindOfBus (bus : RegistryEntry) : Option EtherKind :=
  if (bus.property "name").bind copyCFStringValue = some "radio" then
    some ⟨kSCNetworkInterfaceTypeEthernet, kSortOtherWireless⟩
  else none

/-- The kind, if it is a special one. -/
def specialKind (chain : List RegistryEntry) (controller bus : RegistryEntry) : Option EtherKind :=
  (((kindOfController controller).or (kindOfRole chain)).or (kindOfIPhone chain)).or (kindOfBus bus)

/-- The kind, which is plain Ethernet in the end. -/
def etherKind (chain : List RegistryEntry) (controller bus : RegistryEntry) : EtherKind :=
  (specialKind chain controller bus).getD ⟨kSCNetworkInterfaceTypeEthernet, kSortEthernet⟩

/-- `builtin` of an Ethernet interface. An AirPort interface always is. -/
def etherBuiltin (chain : List RegistryEntry) (interface : RegistryEntry) (kind : EtherKind) :
    Bool :=
  let builtin :=
    match (interface.property "IOBuiltin").bind PropertyList.boolean? with
    | some b => b
    | none =>
      match (interface.property "IOPrimaryInterface").bind PropertyList.boolean? with
      | some b => b
      | none => isBuiltin chain
  builtin || decide (kind.interfaceType = kSCNetworkInterfaceTypeIEEE80211)

/-- `kIONetworkFeatureHardwareVlan | kIONetworkFeatureSoftwareVlan` -/
def vlanFeatures : ℕ := 6

/-- `supportsVLAN`: one of the two bits of the features is set. -/
def etherSupportsVLAN (controller : RegistryEntry) : Bool :=
  match (controller.property "IOFeatures").bind PropertyList.intValue? with
  | some features => (BitVec.ofInt 32 features &&& BitVec.ofNat 32 vlanFeatures) != 0
  | none => false

/-! ## Names -/

/-- What the name of an interface is made of. -/
structure Localization where
  /-- `localized_key` -/
  key : Option String
  /-- `localized_arg1` -/
  arg1 : Option String
  /-- `localized_arg2` -/
  arg2 : Option String
  /-- `name` -/
  name : Option String
  /-- `localized_name` -/
  localizedName : Option String
  /-- `usb` -/
  usb : UsbInfo
deriving DecidableEq

/-- Nothing is set. -/
def Localization.empty : Localization := ⟨none, none, none, none, none, ⟨none, none, none⟩⟩

/-- A key with its arguments. -/
def Localization.keyed (key : String) (arg1 arg2 : Option String) : Localization :=
  { Localization.empty with key := some key, arg1 := arg1, arg2 := arg2 }

/-- What is known besides the registry. -/
structure Environment where
  /-- `copy_interface_string`, of the name of a product, or `none` without a bundle -/
  interfaceString : String → Option String
  /-- `_SC_isAppleInternal` -/
  isAppleInternal : Bool

section

variable (env : Environment) (registry : Registry) (chain : List RegistryEntry)

/-- `update_interface_name`, where `usbName` is the product name of a USB device, if it counts -/
def updateInterfaceName (usbName : Option PropertyList) (l : Localization) :
    Bool × Localization :=
  match ((searchProperty chain "Product Name").or usbName).bind copyCFStringValue with
  | none => (false, l)
  | some productName =>
    if productName = "" then (false, l)
    else
      (true, { l with
        name := some productName
        localizedName := env.interfaceString productName })

/-- `processUSBInterface` -/
def processUSBInterface : UsbInfo where
  name := (searchProperty chain "USB Product Name").bind PropertyList.string?
  vid := (searchProperty chain "idVendor").bind PropertyList.intValue?
  pid := (searchProperty chain "idProduct").bind PropertyList.intValue?

/-- The key for an interface in a slot. -/
def slotKey (thunderbolt multi : Bool) (medium : String) : String :=
  (if thunderbolt then "thunderbolt-" else "pci-") ++ (if multi then "multi" else "") ++ medium

/-- The name of a product, or else that of the slot. -/
def slotLocalization (ift : ℤ) (medium : String) : Localization :=
  let r := updateInterfaceName env chain none .empty
  if r.1 then r.2
  else
    match pciSlotInfo registry chain ift with
    | none => r.2
    | some (slotName, portName) =>
      .keyed (slotKey (isThunderbolt chain) portName.isSome medium) (some slotName) portName

/-- The class of the provider, passing over the Skywalk ones. -/
def findProvider : List RegistryEntry → Option PropertyList
  | [] => none
  | node :: parents =>
    let provider := searchProperty (node :: parents) "IOProviderClass"
    if provider.bind PropertyList.string? = some "IOSkywalkEthernetInterface" then
      findProvider parents
    else provider

/-- A provider for USB -/
def isUSBProvider (provider : PropertyList) (node : Option RegistryEntry) : Bool :=
  provider.string? = some "IOUSBDevice" || provider.string? = some "IOUSBInterface" ||
    provider.string? = some "IOUSBHostInterface" ||
    (env.isAppleInternal && node.any fun e => e.conformsTo "IOUserEthernetController")

/-- Whether USB is found for the interface, its controller or its bus, given by their chains. -/
def usbLoop : List (List RegistryEntry) → Option PropertyList → Bool
  | node :: nodes, some provider =>
    isUSBProvider env provider node.head? ||
      match nodes with
      | [] => false
      | next :: _ => usbLoop nodes (searchProperty next "IOProviderClass")
  | _, _ => false

/-- The name of an interface that is neither built-in nor of a special kind. -/
def providerLocalization (ift : ℤ) (bsdName : Option String) : Localization :=
  match findProvider chain with
  | none => .empty
  | some provider =>
    if provider.string? = some "IOPCIDevice" then slotLocalization env registry chain ift "ether"
    else
      let l : Localization :=
        if usbLoop env [chain, chain.drop 1, chain.drop 2] (some provider) then
          let r := updateInterfaceName env chain (searchProperty chain "USB Product Name")
            { Localization.empty with usb := processUSBInterface chain }
          if r.1 then r.2 else { r.2 with key := some "usb-ether", arg1 := bsdName }
        else .empty
      if l.key = none then (updateInterfaceName env chain none l).2 else l

/-- Where there is no key, one with the BSD name. -/
def orGeneric (bsdName : Option String) (l : Localization) : Localization :=
  if l.key = none then { l with key := some "generic-ether", arg1 := bsdName } else l

/-- A key for one of several interfaces, that has a location, or for the only one. -/
def locatedKey (single multi : String) : Option String → Localization
  | none => .keyed single none none
  | some location => .keyed multi (some location) none

/-- The name of an Ethernet interface. -/
def etherLocalization (ift : ℤ) (kind : EtherKind) (builtin : Bool)
    (location bsdName : Option String) : Localization :=
  if kind.interfaceType = kSCNetworkInterfaceTypeIEEE80211 then .keyed "airport" none none
  else if kind.sortOrder = kSortThunderbolt then
    locatedKey "thunderbolt" "multithunderbolt" location
  else if kind.sortOrder = kSortBluetoothPAN_GN then .keyed "bluetooth-pan-gn" none none
  else if kind.sortOrder = kSortBluetoothPAN_NAP then .keyed "bluetooth-pan-nap" none none
  else if kind.sortOrder = kSortBluetoothPAN_U then .keyed "bluetooth-pan-u" none none
  else if kind.sortOrder = kSortOtherWireless then .keyed "wireless" (some "") none
  else if builtin then locatedKey "ether" "multiether" location
  else orGeneric bsdName (providerLocalization env registry chain ift bsdName)

/-- The name of a FireWire interface, of which there may be none. -/
def fireWireLocalization (ift : ℤ) (builtin : Bool) : Localization :=
  if builtin then .keyed "firewire" none none
  else slotLocalization env registry chain ift "firewire"

end

/-! ## An interface -/

/-- What `processNetworkInterface` sets. -/
structure ProcessedInterface where
  interfaceType : String
  entityType : String
  sortOrder : ℕ
  supportsBond : Bool
  supportsBridge : Bool
  supportsVLAN : Bool
  builtin : Bool
  location : Option String
  localization : Localization
  type : ℤ
  entityDevice : Option String
  address : Option (List UInt8)
  namePrefix : Option String
  unit : Option ℤ
  /-- `overrides`, with those for PPP -/
  overrides : Option (List (String × PropertyList))

/-- The bytes that an object is, if it is data. -/
def data? : PropertyList → Option (List UInt8)
  | .data bytes => some bytes
  | _ => none

/-- `merge_override` -/
def mergeOverride (chain : List RegistryEntry) (override : String)
    (overrides : Option (List (String × PropertyList))) : Option (List (String × PropertyList)) :=
  match (searchProperty chain ("Device" ++ override ++ "Overrides")) with
  | some (.dictionary entries) =>
    some (((overrides.getD []).filter fun e => e.1 ≠ override) ++ [(override, .dictionary entries)])
  | _ => overrides

section

variable (env : Environment) (registry : Registry)

/-- What is set at the end, of any type. -/
def processRest (chain : List RegistryEntry) (interface controller : RegistryEntry)
    (overrides : Option (List (String × PropertyList))) (p : ProcessedInterface) :
    ProcessedInterface :=
  { p with
    entityDevice := copyBSDName interface
    address := (controller.property "IOMACAddress").bind data?
    namePrefix := (interface.property "IOInterfaceNamePrefix").bind PropertyList.string?
    unit := (interface.property "IOInterfaceUnit").bind PropertyList.intValue?
    overrides := mergeOverride chain kSCNetworkInterfaceTypePPP overrides }

/-- An Ethernet interface -/
def processEther (chain : List RegistryEntry) (interface controller bus : RegistryEntry)
    (overrides : Option (List (String × PropertyList))) : ProcessedInterface :=
  let kind := etherKind chain controller bus
  let builtin := etherBuiltin chain interface kind
  let location := ((interface.property "IOLocation").bind copyCFStringValue).filter (· ≠ "")
  processRest chain interface controller overrides
    { interfaceType := kind.interfaceType
      entityType := "Ethernet"
      sortOrder := kind.sortOrder
      supportsBond := (specialKind chain controller bus).isNone
      supportsBridge := decide (kind.interfaceType ≠ kSCNetworkInterfaceTypeIEEE80211)
      supportsVLAN := etherSupportsVLAN controller
      builtin := builtin
      location := location
      localization := etherLocalization env registry chain IFT_ETHER kind builtin location
        (copyBSDName interface)
      type := IFT_ETHER
      entityDevice := none
      address := none
      namePrefix := none
      unit := none
      overrides := none }

/-- A FireWire interface -/
def processFireWire (chain : List RegistryEntry) (interface controller : RegistryEntry)
    (overrides : Option (List (String × PropertyList))) : ProcessedInterface :=
  let builtin := isBuiltin chain
  processRest chain interface controller overrides
    { interfaceType := kSCNetworkInterfaceTypeFireWire
      entityType := "FireWire"
      sortOrder := kSortFireWire
      supportsBond := false
      supportsBridge := false
      supportsVLAN := false
      builtin := builtin
      location := none
      localization := fireWireLocalization env registry chain IFT_IEEE1394 builtin
      type := IFT_IEEE1394
      entityDevice := none
      address := none
      namePrefix := none
      unit := none
      overrides := none }

/-- `processNetworkInterface` -/
def processNetworkInterface (chain : List RegistryEntry)
    (interface controller bus : RegistryEntry)
    (overrides : Option (List (String × PropertyList))) : Option ProcessedInterface :=
  match (interface.property "IOInterfaceType").bind PropertyList.intValue? with
  | none => none
  | some ift =>
    if ift = IFT_ETHER then
      some (processEther env registry chain interface controller bus overrides)
    else if ift = IFT_IEEE1394 then
      some (processFireWire env registry chain interface controller overrides)
    else none

/-- `createInterface` for a network interface, given by its chain, where `path` and `entryID` are
what the registry has for the entry. -/
def createInterface {S : Type} (chain : List RegistryEntry) (path : Option String)
    (entryID : UInt64) (hiddenKey : String) (keepHidden : Bool) :
    Option (InterfaceFields (List (String × PropertyList)) S) :=
  let hidden := isHiddenObject (searchProperty chain hiddenKey)
  if hidden && !keepHidden then none
  else
    match chain with
    | interface :: controller :: bus :: _ =>
      let overrides := (searchProperty chain "NetworkConfigurationOverrides").bind
        PropertyList.entries?
      (processNetworkInterface env registry chain interface controller bus overrides).map fun p =>
        let new : InterfaceFields (List (String × PropertyList)) S :=
          createPrivate p.interfaceType none none
        { new with
          info :=
            { new.info with
              name := p.localization.name
              entityDevice := p.entityDevice
              entityType := some p.entityType
              builtin := p.builtin
              hiddenConfiguration := isHiddenObject (searchProperty chain "HiddenConfiguration")
              hiddenInterface := hidden
              address := p.address
              path := path
              namePrefix := p.namePrefix
              type := some p.type
              unit := p.unit
              usb := p.localization.usb }
          localizedName := p.localization.localizedName
          localizedKey := p.localization.key
          localizedArg1 := p.localization.arg1
          localizedArg2 := p.localization.arg2
          configurationAction := (searchProperty chain "New Interface Detected Action").bind
            PropertyList.string?
          location := p.location
          entryID := entryID
          overrides := p.overrides
          sortOrder := p.sortOrder
          supportsBond := p.supportsBond
          supportsBridge := p.supportsBridge
          supportsVLAN := p.supportsVLAN }
    | _ => none

end

end ConfigdExtra.IORegistry
