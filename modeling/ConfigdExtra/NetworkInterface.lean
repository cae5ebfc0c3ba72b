import Mathlib

/-!
# `SCNetworkInterface`

A network interface object: its type, its device, its name and the interfaces it is made of or
layered on.

* `SCNetworkInterface` — an interface, with its `InterfaceInfo`.
* `SCNetworkInterface.equal` — `__SCNetworkInterfaceEqual`.
* `SCNetworkInterface.hash` — `__SCNetworkInterfaceHash`, over the hash of strings.
* `kSCNetworkInterfaceTypeEthernet` and so on — the interface types.
-/

namespace ConfigdExtra

/-! ## Interface types -/

/-- `kSCNetworkInterfaceType6to4` -/
def kSCNetworkInterfaceType6to4 : String := "6to4"
/-- `kSCNetworkInterfaceTypeBluetooth` -/
def kSCNetworkInterfaceTypeBluetooth : String := "Bluetooth"
/-- `kSCNetworkInterfaceTypeBond` -/
def kSCNetworkInterfaceTypeBond : String := "Bond"
/-- `kSCNetworkInterfaceTypeBridge` -/
def kSCNetworkInterfaceTypeBridge : String := "Bridge"
/-- `kSCNetworkInterfaceTypeEthernet` -/
def kSCNetworkInterfaceTypeEthernet : String := "Ethernet"
/-- `kSCNetworkInterfaceTypeFireWire` -/
def kSCNetworkInterfaceTypeFireWire : String := "FireWire"
/-- `kSCNetworkInterfaceTypeIEEE80211` -/
def kSCNetworkInterfaceTypeIEEE80211 : String := "IEEE80211"
/-- `kSCNetworkInterfaceTypeIPSec` -/
def kSCNetworkInterfaceTypeIPSec : String := "IPSec"
/-- `kSCNetworkInterfaceTypeIrDA` -/
def kSCNetworkInterfaceTypeIrDA : String := "IrDA"
/-- `kSCNetworkInterfaceTypeL2TP` -/
def kSCNetworkInterfaceTypeL2TP : String := "L2TP"
/-- `kSCNetworkInterfaceTypeModem` -/
def kSCNetworkInterfaceTypeModem : String := "Modem"
/-- `kSCNetworkInterfaceTypePPP` -/
def kSCNetworkInterfaceTypePPP : String := "PPP"
/-- `kSCNetworkInterfaceTypePPTP` -/
def kSCNetworkInterfaceTypePPTP : String := "PPTP"
/-- `kSCNetworkInterfaceTypeSerial` -/
def kSCNetworkInterfaceTypeSerial : String := "Serial"
/-- `kSCNetworkInterfaceTypeVLAN` -/
def kSCNetworkInterfaceTypeVLAN : String := "VLAN"
/-- `kSCNetworkInterfaceTypeVPN` -/
def kSCNetworkInterfaceTypeVPN : String := "VPN"
/-- `kSCNetworkInterfaceTypeWWAN` -/
def kSCNetworkInterfaceTypeWWAN : String := "WWAN"
/-- `kSCNetworkInterfaceTypeLoopback` -/
def kSCNetworkInterfaceTypeLoopback : String := "Loopback"
/-- `kSCNetworkInterfaceTypeIPv4` -/
def kSCNetworkInterfaceTypeIPv4 : String := "IPv4"

/-! ## Interfaces -/

/-- The `usb` part of an interface. -/
structure UsbInfo where
  /-- the product name -/
  name : Option String
  /-- the vendor -/
  vid : Option Int
  /-- the product -/
  pid : Option Int
  deriving DecidableEq, Repr

/-- What an `SCNetworkInterfacePrivate` holds besides other interfaces. -/
structure InterfaceInfo where
  /-- `interface_type` -/
  interfaceType : String
  /-- `name`, as `__SCNetworkInterfaceGetNonLocalizedDisplayName` returns it -/
  name : Option String
  /-- `entity_device` -/
  entityDevice : Option String
  /-- `entity_device_unique` -/
  entityDeviceUnique : Option String
  /-- `entity_type` -/
  entityType : Option String
  /-- `entity_subtype` -/
  entitySubtype : Option String
  /-- `active` -/
  active : Bool
  /-- `builtin` -/
  builtin : Bool
  /-- `hiddenConfiguration` -/
  hiddenConfiguration : Bool
  /-- `hiddenInterface` -/
  hiddenInterface : Bool
  /-- `address` -/
  address : Option (List UInt8)
  /-- `path` -/
  path : Option String
  /-- `prefix` -/
  namePrefix : Option String
  /-- `type` -/
  type : Option Int
  /-- `unit` -/
  unit : Option Int
  /-- `usb` -/
  usb : UsbInfo
  /-- `matchingMACs` -/
  matchingMACs : Option (List (List UInt8))
  /-- `bond.mode` -/
  bondMode : Option Int
  /-- `vlan.tag` -/
  vlanTag : Option Int
  deriving DecidableEq, Repr

/-- A new object, all zero but for its type. -/
def InterfaceInfo.new (interfaceType : String) : InterfaceInfo where
  interfaceType := interfaceType
  name := none
  entityDevice := none
  entityDeviceUnique := none
  entityType := none
  entitySubtype := none
  active := false
  builtin := false
  hiddenConfiguration := false
  hiddenInterface := false
  address := none
  path := none
  namePrefix := none
  type := none
  unit := none
  usb := { name := none, vid := none, pid := none }
  matchingMACs := none
  bondMode := none
  vlanTag := none

/-- `SCNetworkInterfaceRef`: what it holds, `bond.interfaces`, `bridge.interfaces`,
`vlan.interface`, and the interface it is layered on. -/
inductive SCNetworkInterface where
  /-- an object -/
  | mk (info : InterfaceInfo) (bondInterfaces bridgeInterfaces : Option (List SCNetworkInterface))
    (vlanInterface interface : Option SCNetworkInterface)

namespace SCNetworkInterface

/-- What the interface holds besides other interfaces. -/
def info : SCNetworkInterface → InterfaceInfo
  | mk info _ _ _ _ => info

/-- The interface it is layered on. -/
def interface : SCNetworkInterface → Option SCNetworkInterface
  | mk _ _ _ _ interface => interface

/-- The interfaces it is made of or layered on. -/
def parts : SCNetworkInterface → List SCNetworkInterface
  | mk _ bondInterfaces bridgeInterfaces vlanInterface interface =>
    bondInterfaces.getD [] ++ bridgeInterfaces.getD [] ++ vlanInterface.toList ++ interface.toList

end SCNetworkInterface

/-! ## Equality -/

/-- The first checks of `__SCNetworkInterfaceEqual`: the type, the device, and the unique
identifiers, or the names if only one object has an identifier. -/
def InterfaceInfo.sameDevice (if1 if2 : InterfaceInfo) : Bool :=
  decide (if1.interfaceType = if2.interfaceType) && decide (if1.entityDevice = if2.entityDevice) &&
    match if1.entityDeviceUnique, if2.entityDeviceUnique with
    | some unique1, some unique2 => decide (unique1 = unique2)
    | none, none => true
    | _, _ =>
      match if1.name, if2.name with
      | some name1, some name2 => decide (name1 = name2)
      | _, _ => true

mutual

/-- `__SCNetworkInterfaceEqual` -/
def SCNetworkInterface.equal : SCNetworkInterface → SCNetworkInterface → Bool
  | .mk if1 bond1 bridge1 vlan1 interface1, .mk if2 bond2 bridge2 vlan2 interface2 =>
    if1.sameDevice if2 &&
      (decide (if1.interfaceType ≠ kSCNetworkInterfaceTypeBond) ||
        equalArrays bond1 bond2 && decide (if1.bondMode = if2.bondMode)) &&
      (decide (if1.interfaceType ≠ kSCNetworkInterfaceTypeBridge) || equalArrays bridge1 bridge2) &&
      (decide (if1.interfaceType ≠ kSCNetworkInterfaceTypeVLAN) ||
        equalOption vlan1 vlan2 && decide (if1.vlanTag = if2.vlanTag)) &&
      -- the layering
      equalOption interface1 interface2
termination_by structural x => x

/-- `_SC_CFEqual` on arrays of interfaces, which may be `NULL` -/
def equalArrays : Option (List SCNetworkInterface) → Option (List SCNetworkInterface) → Bool
  | none, none => true
  | some l1, some l2 => equalLists l1 l2
  | _, _ => false
termination_by structural x => x

/-- `CFEqual` on arrays of interfaces -/
def equalLists : List SCNetworkInterface → List SCNetworkInterface → Bool
  | [], [] => true
  | i1 :: l1, i2 :: l2 => i1.equal i2 && equalLists l1 l2
  | _, _ => false
termination_by structural x => x

/-- `_SC_CFEqual` on interfaces, which may be `NULL` -/
def equalOption : Option SCNetworkInterface → Option SCNetworkInterface → Bool
  | none, none => true
  | some i1, some i2 => i1.equal i2
  | _, _ => false
termination_by structural x => x

end

/-! ## Hashing -/

/-- `__SCNetworkInterfaceHash`, where `cfHash` is `CFHash` on strings. -/
def SCNetworkInterface.hash (cfHash : String → UInt64) (i : SCNetworkInterface) : UInt64 :=
  match i.info.entityDevice with
  | none => 0
  | some device =>
    match i.info.entityDeviceUnique with
    | none => cfHash device
    | some unique => cfHash (device ++ "+" ++ unique)

end ConfigdExtra
