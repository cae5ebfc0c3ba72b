import ConfigdExtra.InterfaceEntity
import ConfigdExtra.InterfaceEquality

/-!
# The storage entity of an interface

How an interface is written to `NetworkInterfaces.plist`, and read from there.

* `StorageEntity`, `copyStorageEntity`, `createWithStorageEntity` — the format, the writer, and
  the reader, which asks `createWithEntity` for an interface and fills in the rest.
* `TypeAgrees` — the interface type and the type in the registry belong together.
* `createWithStorageEntity_copyStorageEntity` — what is written is read back, and written again.
-/

namespace ConfigdExtra

/-! ## The format -/

/-- The dictionary under `SCNetworkInterfaceInfo`. -/
structure InterfaceInfoDictionary where
  /-- `kSCPropUserDefinedName` -/
  userDefinedName : Option String
  /-- `kUSBProductString` -/
  usbProductName : Option String
  /-- `kUSBVendorID` -/
  idVendor : Option Int
  /-- `kUSBProductID` -/
  idProduct : Option Int
  deriving DecidableEq, Repr

/-- A storage entity: a dictionary with these keys. `none` stands for a missing value, and for
one of another type. -/
structure StorageEntity where
  /-- `kSCNetworkInterfaceActive` -/
  active : Option Bool
  /-- `kSCNetworkInterfaceBSDName` -/
  bsdName : Option String
  /-- `kSCNetworkInterfaceHiddenConfigurationKey` -/
  hiddenConfiguration : Option Bool
  /-- `kSCNetworkInterfaceHiddenInterfaceKey` -/
  hiddenInterface : Option Bool
  /-- `kSCNetworkInterfaceIOBuiltin` -/
  ioBuiltin : Option Bool
  /-- `kSCNetworkInterfaceIOInterfaceNamePrefix` -/
  ioInterfaceNamePrefix : Option String
  /-- `kSCNetworkInterfaceIOInterfaceType` -/
  ioInterfaceType : Option Int
  /-- `kSCNetworkInterfaceIOInterfaceUnit` -/
  ioInterfaceUnit : Option Int
  /-- `kSCNetworkInterfaceIOMACAddress` -/
  ioMACAddress : Option (List UInt8)
  /-- `kSCNetworkInterfaceIOPathMatch` -/
  ioPathMatch : Option String
  /-- `kSCNetworkInterfaceInfo` -/
  interfaceInfo : Option InterfaceInfoDictionary
  /-- `kSCNetworkInterfaceMatchingMACs` -/
  matchingMACs : Option (List (List UInt8))
  /-- `kSCNetworkInterfaceType` -/
  interfaceType : Option String
  deriving DecidableEq, Repr

/-! ## Writing -/

/-- The accessors that the writer goes through. -/
structure InterfaceGetters where
  /-- `SCNetworkInterfaceGetBSDName` -/
  getBSDName : SCNetworkInterface → Option String
  /-- `_SCNetworkInterfaceGetIOInterfaceNamePrefix` -/
  getIOInterfaceNamePrefix : SCNetworkInterface → Option String
  /-- `_SCNetworkInterfaceGetIOInterfaceType` -/
  getIOInterfaceType : SCNetworkInterface → Option Int
  /-- `_SCNetworkInterfaceGetIOInterfaceUnit` -/
  getIOInterfaceUnit : SCNetworkInterface → Option Int
  /-- `_SCNetworkInterfaceGetHardwareAddress` -/
  getHardwareAddress : SCNetworkInterface → Option (List UInt8)
  /-- `_SCNetworkInterfaceGetIOPath` -/
  getIOPath : SCNetworkInterface → Option String
  /-- `_SCNetworkInterfaceCopyInterfaceInfo` -/
  copyInterfaceInfo : SCNetworkInterface → Option InterfaceInfoDictionary
  /-- `SCNetworkInterfaceGetInterfaceType` -/
  getInterfaceType : SCNetworkInterface → Option String

/-- Each accessor returns its field, and the info dictionary holds the name and what is known of
the USB device, and depends on nothing else. -/
structure InterfaceGetters.Faithful (get : InterfaceGetters) : Prop where
  /-- `entity_device` -/
  getBSDName : ∀ i, get.getBSDName i = i.info.entityDevice
  /-- `prefix` -/
  getIOInterfaceNamePrefix : ∀ i, get.getIOInterfaceNamePrefix i = i.info.namePrefix
  /-- `type` -/
  getIOInterfaceType : ∀ i, get.getIOInterfaceType i = i.info.type
  /-- `unit` -/
  getIOInterfaceUnit : ∀ i, get.getIOInterfaceUnit i = i.info.unit
  /-- `address` -/
  getHardwareAddress : ∀ i, get.getHardwareAddress i = i.info.address
  /-- `path` -/
  getIOPath : ∀ i, get.getIOPath i = i.info.path
  /-- `interface_type` -/
  getInterfaceType : ∀ i, get.getInterfaceType i = some i.info.interfaceType
  /-- what the info dictionary holds -/
  copyInterfaceInfo : ∀ i d, get.copyInterfaceInfo i = some d →
    d.userDefinedName = i.info.name ∧ d.usbProductName = i.info.usb.name ∧
      d.idVendor = i.info.usb.vid ∧ d.idProduct = i.info.usb.pid
  /-- what it depends on -/
  copyInterfaceInfo_congr : ∀ i j, i.info.name = j.info.name → i.info.usb = j.info.usb →
    get.copyInterfaceInfo i = get.copyInterfaceInfo j

/-- `kCFBooleanTrue`, if the flag is set -/
def trueIf (flag : Bool) : Option Bool := if flag then some true else none

/-- `__SCNetworkInterfaceCopyStorageEntity` -/
def copyStorageEntity (get : InterfaceGetters) (i : SCNetworkInterface) : Option StorageEntity := do
  let bsdName ← get.getBSDName i
  let interfaceNamePrefix ← get.getIOInterfaceNamePrefix i
  let interfaceType ← get.getIOInterfaceType i
  let interfaceUnit ← get.getIOInterfaceUnit i
  let macAddress ← get.getHardwareAddress i
  let pathMatch ← get.getIOPath i
  let info ← get.copyInterfaceInfo i
  let type ← get.getInterfaceType i
  return {
    active := trueIf i.info.active
    bsdName := some bsdName
    hiddenConfiguration := trueIf i.info.hiddenConfiguration
    hiddenInterface := trueIf i.info.hiddenInterface
    ioBuiltin := some i.info.builtin
    ioInterfaceNamePrefix := some interfaceNamePrefix
    ioInterfaceType := some interfaceType
    ioInterfaceUnit := some interfaceUnit
    ioMACAddress := some macAddress
    ioPathMatch := some pathMatch
    interfaceInfo := some info
    matchingMACs := i.info.matchingMACs
    interfaceType := some type }

/-! ## Reading -/

/-- `IFT_ETHER` -/
def IFT_ETHER : Int := 6
/-- `IFT_IEEE1394` -/
def IFT_IEEE1394 : Int := 144

/-- `CFNumberGetValue(number, kCFNumberIntType, …)` -/
def intValue (number : Int) : Int := number.bmod (2 ^ 32)

/-- `_SCNetworkInterfaceCopyPrefixFromBSDName` -/
def copyPrefixFromBSDName (bsdName : String) : String :=
  String.ofList (bsdName.toList.reverse.dropWhile Char.isDigit).reverse

/-- The type of the entity that a storage entity is read as. -/
def storedEntityType (ioInterfaceType : Int) (interfaceType : String) : String :=
  if intValue ioInterfaceType = IFT_ETHER then "Ethernet"
  else if intValue ioInterfaceType = IFT_IEEE1394 then "FireWire"
  else interfaceType

/-- The entity that `__SCNetworkInterfaceCreateWithStorageEntity` makes an interface of. -/
def storedInterfaceEntity (ioInterfaceType : Int) (interfaceType bsdName : String)
    (hiddenConfiguration : Bool) (userDefinedName : Option String) : InterfaceEntity where
  type := some (storedEntityType ioInterfaceType interfaceType)
  subType := none
  deviceName := some bsdName
  deviceUnique := none
  hiddenConfiguration := trueIf hiddenConfiguration
  hardware := hardwareOf interfaceType
  userDefinedName := userDefinedName
  noBond := false
  noBridge := false
  noVLAN := false

/-- `interfacePrivate->active = …` and so on -/
def SCNetworkInterface.update (f : InterfaceInfo → InterfaceInfo) :
    SCNetworkInterface → SCNetworkInterface
  | .mk info bond bridge vlan interface => .mk (f info) bond bridge vlan interface

/-- `__SCNetworkInterfaceCreateWithStorageEntity`. It writes through what
`_SCNetworkInterfaceCreateWithEntity` returns: `none` stands for `NULL` there, too. -/
def createWithStorageEntity (sys : SystemInterfaces) (entity : StorageEntity) :
    Option SCNetworkInterface := do
  let active := entity.active.getD false
  let bsdName ← entity.bsdName
  let hiddenConfiguration := entity.hiddenConfiguration.getD false
  let hiddenInterface := entity.hiddenInterface.getD false
  let ioBuiltin ← entity.ioBuiltin
  let ioInterfaceNamePrefix := entity.ioInterfaceNamePrefix.getD (copyPrefixFromBSDName bsdName)
  let ioInterfaceType ← entity.ioInterfaceType
  let ioInterfaceUnit ← entity.ioInterfaceUnit
  let ioMACAddress ← entity.ioMACAddress
  let ioPathMatch ← entity.ioPathMatch
  let interfaceInfo ← entity.interfaceInfo
  let interfaceType ← entity.interfaceType
  let interface ← createWithEntity sys .external (storedInterfaceEntity ioInterfaceType
    interfaceType bsdName hiddenConfiguration interfaceInfo.userDefinedName)
  return interface.update fun info =>
    { info with
      active := active
      builtin := ioBuiltin
      hiddenInterface := hiddenInterface
      namePrefix := some ioInterfaceNamePrefix
      type := some ioInterfaceType
      unit := some ioInterfaceUnit
      address := some ioMACAddress
      path := some ioPathMatch
      usb := {
        name := interfaceInfo.usbProductName
        vid := interfaceInfo.idVendor
        pid := interfaceInfo.idProduct }
      matchingMACs := entity.matchingMACs }

/-! ## Types -/

/-- An interface type and a type in the registry that belong together: AirPort is Ethernet
there, and the others are not of each other's type. -/
def TypeAgrees (interfaceType : String) (ioInterfaceType : Int) : Prop :=
  (interfaceType = kSCNetworkInterfaceTypeEthernet ∧ intValue ioInterfaceType ≠ IFT_IEEE1394) ∨
  (interfaceType = kSCNetworkInterfaceTypeIEEE80211 ∧ intValue ioInterfaceType = IFT_ETHER) ∨
  (interfaceType = kSCNetworkInterfaceTypeFireWire ∧ intValue ioInterfaceType ≠ IFT_ETHER)

/-! ## Reading what was written -/

section RoundTrip

variable {sys : SystemInterfaces}

/-- Outside the system, an interface is made of the entity alone. -/
theorem finishEntity_external {entity : InterfaceEntity} {ifType : String}
    {ifSubType : Option String} (hppp : ¬ (ifType = "PPP" ∨ ifType = "VPN"))
    (interface : Option SCNetworkInterface) :
    finishEntity sys .external entity ifType ifSubType interface =
      (createAbsent sys .external entity ifType ifSubType).map
        (SCNetworkInterface.hideConfiguration (isHidden entity.hiddenConfiguration)) := by
  obtain ⟨hppp, hvpn⟩ := not_or.mp hppp
  cases interface <;> simp [finishEntity, Search.useSystemInterfaces, hppp, hvpn]

theorem createWithEntity_external {entity : InterfaceEntity} {ifType bsdName : String}
    (hppp : ¬ (ifType = "PPP" ∨ ifType = "VPN")) (htype : entity.type = some ifType)
    (hdevice : entity.deviceName = some bsdName) :
    createWithEntity sys .external entity =
      (createAbsent sys .external entity ifType entity.subType).map
        (SCNetworkInterface.hideConfiguration (isHidden entity.hiddenConfiguration)) := by
  -- nothing is looked for
  have hlookup : ∃ interface, lookupEntity sys .external entity ifType entity.subType =
      .done interface ∨
      lookupEntity sys .external entity ifType entity.subType = .go none interface := by
    rw [lookupEntity]
    simp only [hdevice, Search.useSystemInterfaces, Bool.false_eq_true, if_false, exists_or]
    split_ifs <;> simp
  have hppp' : ¬ ((ifType = "PPP" ∨ ifType = "VPN") ∧ entity.subType = none) := fun h => hppp h.1
  rw [createWithEntity, htype]
  simp only [Option.getD_some, if_neg hppp']
  obtain ⟨interface, h | h⟩ := hlookup <;> rw [h] <;> exact finishEntity_external hppp interface

@[simp] theorem isHidden_trueIf (flag : Bool) : isHidden (trueIf flag) = flag := by
  cases flag <;> rfl

@[simp] theorem getD_trueIf (flag : Bool) : (trueIf flag).getD false = flag := by
  cases flag <;> rfl

/-- The interface that a storage entity is read as has the stored type. -/
theorem createWithEntity_stored (sys : SystemInterfaces) {ioInterfaceType : Int}
    {interfaceType : String}
    (htype : TypeAgrees interfaceType ioInterfaceType) (bsdName : String)
    (hiddenConfiguration : Bool) (userDefinedName : Option String) :
    ∃ entityType builtin, createWithEntity sys .external (storedInterfaceEntity ioInterfaceType
        interfaceType bsdName hiddenConfiguration userDefinedName) =
      some (.mk { InterfaceInfo.new interfaceType with
        entityType := entityType
        entityDevice := some bsdName
        name := userDefinedName
        builtin := builtin
        hiddenConfiguration := hiddenConfiguration } none none none none) := by
  -- the entity type, and what is made of the type and the hardware
  obtain ⟨ifType, hifType, hstored, habsent⟩ : ∃ ifType,
      (ifType = "Ethernet" ∨ ifType = "FireWire") ∧
      storedEntityType ioInterfaceType interfaceType = ifType ∧
      ∀ entity : InterfaceEntity, entity.hardware = hardwareOf interfaceType →
        ∃ builtin, createAbsent sys .external entity ifType entity.subType =
          some (absentInterface .external entity ifType entity.subType interfaceType builtin) := by
    obtain ⟨rfl, hne⟩ | ⟨rfl, hether⟩ | ⟨rfl, hne⟩ := htype
    · refine ⟨"Ethernet", Or.inl rfl, ?_, fun entity hhardware =>
        ⟨isBuiltinName sys entity.userDefinedName, ?_⟩⟩
      · rw [storedEntityType, if_neg hne]
        exact ite_self _
      · rw [createAbsent, hhardware]
        rfl
    · refine ⟨"Ethernet", Or.inl rfl, ?_, fun entity hhardware => ⟨true, ?_⟩⟩
      · rw [storedEntityType, if_pos hether]
      · rw [createAbsent, hhardware]
        rfl
    · refine ⟨"FireWire", Or.inr rfl, ?_, fun entity _ => ⟨_, rfl⟩⟩
      rw [storedEntityType, if_neg hne]
      exact ite_self _
  obtain ⟨builtin, habsent⟩ := habsent (storedInterfaceEntity ioInterfaceType interfaceType bsdName
    hiddenConfiguration userDefinedName) rfl
  refine ⟨some ifType, builtin, ?_⟩
  have hppp : ¬ (ifType = "PPP" ∨ ifType = "VPN") := by
    obtain rfl | rfl := hifType <;> decide
  rw [createWithEntity_external hppp (congrArg some hstored) rfl, habsent, Option.map_some]
  rw [storedInterfaceEntity]
  simp only [isHidden_trueIf]
  rfl

/-- An Ethernet, AirPort or FireWire interface made of an entity with no subtype has such an
entity type. -/
theorem entityType_of_createAbsent {entity : InterfaceEntity} {ifType : String}
    {x : SCNetworkInterface} (h : createAbsent sys .external entity ifType none = some x)
    (hx : x.info.interfaceType ∈ [kSCNetworkInterfaceTypeEthernet,
      kSCNetworkInterfaceTypeIEEE80211, kSCNetworkInterfaceTypeFireWire]) :
    (ifType = "Ethernet" ∧ x.info.interfaceType = if entity.hardware = some "AirPort" then
        kSCNetworkInterfaceTypeIEEE80211 else kSCNetworkInterfaceTypeEthernet) ∨
      (ifType = "FireWire" ∧ x.info.interfaceType = kSCNetworkInterfaceTypeFireWire) := by
  rw [createAbsent] at h
  simp only [Search.useSystemInterfaces, Search.virtualPrefs, Option.bind_none, Bool.false_eq_true,
    if_false, ne_eq, not_true_eq_false, and_false] at h
  split_ifs at h with hether hairPort hfirewire hipsec h6to4 hloopback hdot
  · cases h
    exact Or.inl ⟨hether, by rw [if_pos hairPort]; rfl⟩
  · cases h
    exact Or.inl ⟨hether, by rw [if_neg hairPort]; rfl⟩
  · cases h
    exact Or.inr ⟨hfirewire, rfl⟩
  · cases h
    exact absurd hx (by decide)
  · obtain ⟨_, -, h⟩ := Option.bind_eq_some_iff.mp h
    cases h
    exact absurd hx (by decide)
  · cases h
    exact absurd hx (by decide)
  · cases h
    have htype : ifType ∈ [kSCNetworkInterfaceTypeEthernet, kSCNetworkInterfaceTypeIEEE80211,
      kSCNetworkInterfaceTypeFireWire] := hx
    simp only [List.mem_cons, List.not_mem_nil, or_false] at htype
    obtain rfl | rfl | rfl := htype <;> exact absurd hdot (by decide)

/-- The types of an interface that is read belong together. -/
theorem typeAgrees_of_createWithStorageEntity {entity : StorageEntity} {j : SCNetworkInterface}
    (h : createWithStorageEntity sys entity = some j)
    (hj : j.info.interfaceType ∈ [kSCNetworkInterfaceTypeEthernet,
      kSCNetworkInterfaceTypeIEEE80211, kSCNetworkInterfaceTypeFireWire]) :
    ∀ t, j.info.type = some t → TypeAgrees j.info.interfaceType t := by
  simp only [createWithStorageEntity, Option.bind_eq_bind, Option.bind_eq_some_iff,
    Option.pure_def, Option.some.injEq] at h
  obtain ⟨bsdName, -, builtin, -, t, -, unit, -, mac, -, path, -, info, -, type, -, x, hx, rfl⟩ := h
  obtain ⟨xinfo, bond, bridge, vlan, interface⟩ := x
  rintro t' ht'
  obtain rfl : t = t' := Option.some.inj ht'
  by_cases hppp : storedEntityType t type = "PPP" ∨ storedEntityType t type = "VPN"
  · rw [createWithEntity, if_pos ⟨hppp, rfl⟩] at hx
    cases hx
  rw [createWithEntity_external hppp rfl rfl] at hx
  obtain ⟨y, hy, hyx⟩ := Option.map_eq_some_iff.mp hx
  have htype : xinfo.interfaceType = y.info.interfaceType := by
    cases y
    cases hyx
    rfl
  have hcases := entityType_of_createAbsent hy (htype ▸ hj)
  rw [← htype] at hcases
  show TypeAgrees xinfo.interfaceType t
  rw [storedEntityType] at hcases
  obtain ⟨hifType, hx⟩ | ⟨hifType, hx⟩ := hcases
  · by_cases hether : intValue t = IFT_ETHER
    · rw [hx]
      split_ifs
      · exact Or.inr (Or.inl ⟨rfl, hether⟩)
      · exact Or.inl ⟨rfl, by rw [hether]; decide⟩
    · rw [if_neg hether] at hifType
      split_ifs at hifType with hfirewire
      · exact absurd hifType (by decide)
      · -- the hardware of Ethernet is not AirPort
        obtain rfl := hifType
        have hhardware : hardwareOf "Ethernet" ≠ some "AirPort" := by decide
        exact Or.inl ⟨hx.trans (if_neg hhardware), hfirewire⟩
  · refine Or.inr (Or.inr ⟨hx, fun hether => ?_⟩)
    rw [if_pos hether] at hifType
    exact absurd hifType (by decide)

variable {get : InterfaceGetters}

/-- The storage entity of an interface that has all it needs. -/
def storageEntityOf (i : SCNetworkInterface) (info : InterfaceInfoDictionary) : StorageEntity where
  active := trueIf i.info.active
  bsdName := i.info.entityDevice
  hiddenConfiguration := trueIf i.info.hiddenConfiguration
  hiddenInterface := trueIf i.info.hiddenInterface
  ioBuiltin := some i.info.builtin
  ioInterfaceNamePrefix := i.info.namePrefix
  ioInterfaceType := i.info.type
  ioInterfaceUnit := i.info.unit
  ioMACAddress := i.info.address
  ioPathMatch := i.info.path
  interfaceInfo := some info
  matchingMACs := i.info.matchingMACs
  interfaceType := some i.info.interfaceType

/-- The interface that is read back. -/
def readBack (entityType : Option String) (i : SCNetworkInterface) : SCNetworkInterface :=
  .mk { i.info with
    entityType := entityType
    entitySubtype := none
    entityDeviceUnique := none
    bondMode := none
    vlanTag := none } none none none none

/-- What the writer needs, and writes. -/
theorem copyStorageEntity_eq_some_iff (hget : get.Faithful) {i : SCNetworkInterface}
    {entity : StorageEntity} :
    copyStorageEntity get i = some entity ↔
      (∃ bsdName, i.info.entityDevice = some bsdName) ∧ (∃ p, i.info.namePrefix = some p) ∧
      (∃ t, i.info.type = some t) ∧ (∃ u, i.info.unit = some u) ∧
      (∃ m, i.info.address = some m) ∧ (∃ path, i.info.path = some path) ∧
      ∃ info, get.copyInterfaceInfo i = some info ∧ entity = storageEntityOf i info := by
  simp only [copyStorageEntity, hget.getBSDName, hget.getIOInterfaceNamePrefix,
    hget.getIOInterfaceType, hget.getIOInterfaceUnit, hget.getHardwareAddress, hget.getIOPath,
    hget.getInterfaceType, Option.bind_eq_bind, Option.bind_eq_some_iff, Option.bind_some,
    Option.pure_def, Option.some.injEq, storageEntityOf]
  constructor
  · rintro ⟨bsdName, hbsd, p, hp, t, ht, u, hu, m, hm, path, hpath, info, hinfo, rfl⟩
    rw [hbsd, hp, ht, hu, hm, hpath]
    exact ⟨⟨_, rfl⟩, ⟨_, rfl⟩, ⟨_, rfl⟩, ⟨_, rfl⟩, ⟨_, rfl⟩, ⟨_, rfl⟩, info, hinfo, rfl⟩
  · rintro ⟨⟨bsdName, hbsd⟩, ⟨p, hp⟩, ⟨t, ht⟩, ⟨u, hu⟩, ⟨m, hm⟩, ⟨path, hpath⟩, info, hinfo, rfl⟩
    refine ⟨bsdName, hbsd, p, hp, t, ht, u, hu, m, hm, path, hpath, info, hinfo, ?_⟩
    rw [hbsd, hp, ht, hu, hm, hpath]

/-- What the reader makes of what was written. -/
theorem createWithStorageEntity_storageEntityOf (sys : SystemInterfaces) (hget : get.Faithful)
    {i : SCNetworkInterface} {entity : StorageEntity}
    (htype : ∀ t, i.info.type = some t → TypeAgrees i.info.interfaceType t)
    (hentity : copyStorageEntity get i = some entity) :
    ∃ entityType, createWithStorageEntity sys entity = some (readBack entityType i) := by
  obtain ⟨⟨bsdName, hbsd⟩, ⟨p, hp⟩, ⟨t, ht⟩, ⟨u, hu⟩, ⟨m, hm⟩, ⟨path, hpath⟩, info, hinfo, rfl⟩ :=
    (copyStorageEntity_eq_some_iff hget).mp hentity
  obtain ⟨hname, husb, hvid, hpid⟩ := hget.copyInterfaceInfo i info hinfo
  obtain ⟨entityType, builtin, hcreate⟩ := createWithEntity_stored sys (htype t ht) bsdName
    i.info.hiddenConfiguration info.userDefinedName
  refine ⟨entityType, ?_⟩
  rw [createWithStorageEntity, storageEntityOf]
  simp only [hbsd, hp, ht, hu, hm, hpath, Option.bind_eq_bind, Option.bind_some, getD_trueIf,
    Option.getD_some, hcreate, Option.pure_def]
  simp only [SCNetworkInterface.update, readBack, InterfaceInfo.new, hname, husb, hvid, hpid, hbsd,
    hp, ht, hu, hm, hpath]

/-- What is read back is equal, as long as there is no layer below. -/
theorem equal_readBack {i : SCNetworkInterface} (hbelow : i.interface = none)
    (hplain : i.info.interfaceType ∉ [kSCNetworkInterfaceTypeBond, kSCNetworkInterfaceTypeBridge,
      kSCNetworkInterfaceTypeVLAN]) (entityType : Option String) :
    i.equal (readBack entityType i) = true := by
  obtain ⟨if1, bond, bridge, vlan, interface⟩ := i
  obtain rfl : interface = none := hbelow
  simp only [SCNetworkInterface.info, List.mem_cons, List.not_mem_nil, or_false, not_or] at hplain
  refine equal_mk_iff.mpr ⟨?_, fun h => absurd h hplain.1, fun h => absurd h hplain.2.1,
    fun h => absurd h hplain.2.2, by rw [equalOption]⟩
  -- a unique identifier is not written, but the names are the same
  rw [InterfaceInfo.sameDevice]
  simp only [SCNetworkInterface.info]
  cases if1.entityDeviceUnique <;> cases if1.name <;> simp

/-- What is read back is written the same way. -/
theorem copyStorageEntity_readBack (hget : get.Faithful) {i : SCNetworkInterface}
    {entity : StorageEntity} (hentity : copyStorageEntity get i = some entity)
    (entityType : Option String) : copyStorageEntity get (readBack entityType i) = some entity := by
  obtain ⟨hbsd, hp, ht, hu, hm, hpath, info, hinfo, rfl⟩ :=
    (copyStorageEntity_eq_some_iff hget).mp hentity
  exact (copyStorageEntity_eq_some_iff hget).mpr ⟨hbsd, hp, ht, hu, hm, hpath, info,
    (hget.copyInterfaceInfo_congr i (readBack entityType i) rfl rfl).symm.trans hinfo, rfl⟩

/-- A type that agrees with one in the registry is not of a virtual interface. -/
theorem TypeAgrees.notMem {interfaceType : String} {t : Int} (h : TypeAgrees interfaceType t) :
    interfaceType ∉ [kSCNetworkInterfaceTypeBond, kSCNetworkInterfaceTypeBridge,
      kSCNetworkInterfaceTypeVLAN] := by
  obtain ⟨h, -⟩ | ⟨h, -⟩ | ⟨h, -⟩ := h <;> rw [h] <;> decide

/-- An interface that is written is read back as an equal one, which is written the same way. -/
theorem createWithStorageEntity_copyStorageEntity (hget : get.Faithful) {i : SCNetworkInterface}
    {entity : StorageEntity} (hbelow : i.interface = none)
    (htype : ∀ t, i.info.type = some t → TypeAgrees i.info.interfaceType t)
    (hentity : copyStorageEntity get i = some entity) :
    ∃ j, createWithStorageEntity sys entity = some j ∧ i.equal j = true ∧
      copyStorageEntity get j = some entity := by
  obtain ⟨entityType, hread⟩ := createWithStorageEntity_storageEntityOf sys hget htype
    hentity
  obtain ⟨-, -, ⟨t, ht⟩, -⟩ := (copyStorageEntity_eq_some_iff hget).mp hentity
  exact ⟨_, hread, equal_readBack hbelow (htype t ht).notMem entityType,
    copyStorageEntity_readBack hget hentity entityType⟩

end RoundTrip

/-! ## `en0` -/

/-- The accessors, where the info dictionary is always there. -/
def plainGetters : InterfaceGetters where
  getBSDName i := i.info.entityDevice
  getIOInterfaceNamePrefix i := i.info.namePrefix
  getIOInterfaceType i := i.info.type
  getIOInterfaceUnit i := i.info.unit
  getHardwareAddress i := i.info.address
  getIOPath i := i.info.path
  copyInterfaceInfo i := some ⟨i.info.name, i.info.usb.name, i.info.usb.vid, i.info.usb.pid⟩
  getInterfaceType i := some i.info.interfaceType

theorem plainGetters_faithful : plainGetters.Faithful where
  getBSDName _ := rfl
  getIOInterfaceNamePrefix _ := rfl
  getIOInterfaceType _ := rfl
  getIOInterfaceUnit _ := rfl
  getHardwareAddress _ := rfl
  getIOPath _ := rfl
  getInterfaceType _ := rfl
  copyInterfaceInfo _ _ h := by
    obtain rfl := Option.some.inj h
    exact ⟨rfl, rfl, rfl, rfl⟩
  copyInterfaceInfo_congr i j hname husb := by
    show some (InterfaceInfoDictionary.mk i.info.name i.info.usb.name _ _) = _
    rw [hname, husb]
    rfl

/-- An Ethernet interface of the registry. -/
def storedEn0 : SCNetworkInterface :=
  .mk { InterfaceInfo.new kSCNetworkInterfaceTypeEthernet with
    name := some "Ethernet"
    entityDevice := some "en0"
    entityType := some "Ethernet"
    active := true
    builtin := true
    namePrefix := some "en"
    type := some 6
    unit := some 0
    address := some [0, 17, 34, 51, 68, 85]
    path := some "IOService:/en0" } none none none none

/-- A system without interfaces. -/
def emptySystem : SystemInterfaces where
  byBSDName _ _ := some []
  byTTYBaseName _ _ := some []
  byTTYDevice _ _ := some []
  defaultPrefs := none
  matchesName _ _ := false

theorem createWithStorageEntity_copyStorageEntity_en0 :
    ∃ j, createWithStorageEntity emptySystem (storageEntityOf storedEn0
        ⟨some "Ethernet", none, none, none⟩) = some j ∧ storedEn0.equal j = true ∧
      copyStorageEntity plainGetters j = some (storageEntityOf storedEn0
        ⟨some "Ethernet", none, none, none⟩) :=
  createWithStorageEntity_copyStorageEntity plainGetters_faithful rfl
    (fun _ h => Option.some.inj h ▸ Or.inl ⟨rfl, by decide⟩) rfl

end ConfigdExtra
