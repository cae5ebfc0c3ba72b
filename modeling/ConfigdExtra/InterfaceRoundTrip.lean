import ConfigdExtra.InterfaceEntity
import ConfigdExtra.InterfaceEquality

/-!
# When an interface survives its preferences entity

An interface that supports protocols is written to the preferences of a service as an entity,
and made again from the entity. The entity names the type of the layer below only for PPP and
VPN, and its device is looked for among the virtual interfaces only for Ethernet. Where the
registry has several interfaces for the device, one of them is chosen, by the unique identifier
of a modem or, if the entity has none, by its name.

* `IsBase`, `Built` — the interfaces that can be built.
* `SingledOut` — the hardware that is chosen among what is found.
* `Restorable` — those whose entity says enough.
* `createWithEntity_copyInterfaceEntity_iff` — they are the ones that are made again.
-/

namespace ConfigdExtra

/-! ## The interfaces that can be built -/

/-- A hardware interface, by `processNetworkInterface`. -/
structure IsNetworkHardware (h : SCNetworkInterface) : Prop where
  /-- its types -/
  type : (h.info.interfaceType = kSCNetworkInterfaceTypeEthernet ∧
      h.info.entityType = some "Ethernet") ∨
    (h.info.interfaceType = kSCNetworkInterfaceTypeIEEE80211 ∧ h.info.entityType = some "Ethernet") ∨
    (h.info.interfaceType = kSCNetworkInterfaceTypeFireWire ∧ h.info.entityType = some "FireWire")
  /-- nothing below -/
  interface : h.interface = none
  /-- only modems have a unique identifier -/
  entityDeviceUnique : h.info.entityDeviceUnique = none
  /-- its BSD name -/
  entityDevice : ∃ device, h.info.entityDevice = some device ∧ device ≠ "lo0" ∧
    fitsBSDName device = true

/-- A hardware interface, by `processSerialInterface`. -/
structure IsSerialHardware (h : SCNetworkInterface) : Prop where
  /-- its types -/
  type : h.info.interfaceType = kSCNetworkInterfaceTypeBluetooth ∨
    h.info.interfaceType = kSCNetworkInterfaceTypeIrDA ∨
    h.info.interfaceType = kSCNetworkInterfaceTypeWWAN ∨
    h.info.interfaceType = kSCNetworkInterfaceTypeModem
  /-- its entity type -/
  entityType : h.info.entityType = some "Modem"
  /-- nothing below -/
  interface : h.interface = none

/-- A virtual interface, by `_SCBondInterfaceCreatePrivate` and the like. -/
structure IsVirtual (interfaceType : String) (v : SCNetworkInterface) : Prop where
  /-- its type -/
  type : v.info.interfaceType = interfaceType
  /-- its entity type -/
  entityType : v.info.entityType = some "Ethernet"
  /-- nothing below -/
  interface : v.interface = none
  /-- no unique identifier -/
  entityDeviceUnique : v.info.entityDeviceUnique = none

/-- The virtual interfaces of the preferences, by distinct names. -/
structure VirtualPrefs.Valid (prefs : VirtualPrefs) : Prop where
  /-- the bonds -/
  bonds : ∀ v ∈ prefs.bonds, IsVirtual kSCNetworkInterfaceTypeBond v
  /-- the bridges -/
  bridges : ∀ v ∈ prefs.bridges, IsVirtual kSCNetworkInterfaceTypeBridge v
  /-- the VLANs -/
  vlans : ∀ v ∈ prefs.vlans, IsVirtual kSCNetworkInterfaceTypeVLAN v
  /-- names are distinct -/
  nodup : ((prefs.bonds ++ prefs.bridges ++ prefs.vlans).map (·.info.entityDevice)).Nodup

/-- What is configured as virtual is a bond, a bridge or a VLAN. -/
theorem VirtualPrefs.Valid.isVirtual {prefs : VirtualPrefs} (hvalid : prefs.Valid)
    {v : SCNetworkInterface} (hv : v ∈ prefs.bonds ++ prefs.bridges ++ prefs.vlans) :
    IsVirtual kSCNetworkInterfaceTypeBond v ∨ IsVirtual kSCNetworkInterfaceTypeBridge v ∨
      IsVirtual kSCNetworkInterfaceTypeVLAN v := by
  rw [List.append_assoc, List.mem_append, List.mem_append] at hv
  obtain hv | hv | hv := hv
  · exact Or.inl (hvalid.bonds v hv)
  · exact Or.inr (Or.inl (hvalid.bridges v hv))
  · exact Or.inr (Or.inr (hvalid.vlans v hv))

theorem VirtualPrefs.Valid.type_of_mem {prefs : VirtualPrefs} (hvalid : prefs.Valid)
    {v : SCNetworkInterface} (hv : v ∈ prefs.bonds ++ prefs.bridges ++ prefs.vlans) :
    v.info.interfaceType = kSCNetworkInterfaceTypeBond ∨
      v.info.interfaceType = kSCNetworkInterfaceTypeBridge ∨
      v.info.interfaceType = kSCNetworkInterfaceTypeVLAN :=
  (hvalid.isVirtual hv).imp IsVirtual.type (Or.imp IsVirtual.type IsVirtual.type)

/-- The types of hardware with a BSD name. -/
def networkTypes : List String :=
  [kSCNetworkInterfaceTypeEthernet, kSCNetworkInterfaceTypeIEEE80211,
    kSCNetworkInterfaceTypeFireWire]

/-- The types of serial devices. -/
def serialTypes : List String :=
  [kSCNetworkInterfaceTypeBluetooth, kSCNetworkInterfaceTypeIrDA, kSCNetworkInterfaceTypeWWAN,
    kSCNetworkInterfaceTypeModem]

/-- The interfaces that the system has for the device of a hardware interface: by its BSD name,
or, if it is a serial device, by its base name. A serial device without a unique identifier is
looked for by its own name if those of the base name have none, either. -/
def lookedUp (sys : SystemInterfaces) (h : SCNetworkInterface) :
    Option (List SCNetworkInterface) :=
  h.info.entityDevice.bind fun device =>
    if h.info.interfaceType ∈ networkTypes then sys.byBSDName false device
    else if h.info.interfaceType ∈ serialTypes then
      if h.info.entityDeviceUnique = none ∧
          ((sys.byTTYBaseName false device).getD []).all (·.info.entityDeviceUnique.isNone) then
        sys.byTTYDevice false device
      else sys.byTTYBaseName false device
    else none

/-- The system finds a hardware interface, alone or among others. -/
def Finds (sys : SystemInterfaces) (h : SCNetworkInterface) : Prop :=
  ∃ found, lookedUp sys h = some found ∧ h ∈ found

/-- What a stack of interfaces stands on: hardware that the system finds, a virtual interface of
the preferences, whose name no hardware has, or IPv4. -/
inductive IsBase (sys : SystemInterfaces) (prefs : VirtualPrefs) : SCNetworkInterface → Prop where
  /-- an Ethernet, AirPort or FireWire interface -/
  | network {h : SCNetworkInterface} : IsNetworkHardware h → Finds sys h → IsBase sys prefs h
  /-- a modem or the like -/
  | serial {h : SCNetworkInterface} : IsSerialHardware h → Finds sys h → IsBase sys prefs h
  /-- a bond, a bridge or a VLAN -/
  | virtual {v : SCNetworkInterface} {device : String} :
    v ∈ prefs.bonds ++ prefs.bridges ++ prefs.vlans → v.info.entityDevice = some device →
      sys.byBSDName false device = some [] → IsBase sys prefs v
  /-- IPv4 -/
  | ipv4 : IsBase sys prefs kSCNetworkInterfaceIPv4

/-- The interfaces built by any number of layers. -/
inductive Built (sys : SystemInterfaces) (prefs : VirtualPrefs) : SCNetworkInterface → Prop where
  /-- no layer -/
  | base {i : SCNetworkInterface} : IsBase sys prefs i → Built sys prefs i
  /-- one layer more -/
  | layer {child i : SCNetworkInterface} (interfaceType : String) : Built sys prefs child →
      scNetworkInterfaceCreateWithInterface child interfaceType = some i → Built sys prefs i

/-! ## The table -/

/-- A vendor's type is not in the table. -/
theorem findConfiguration_of_hasDot {t : String} (h : hasDot t = true) :
    findConfiguration t = none := by
  have hall : ∀ row ∈ configurations, hasDot row.1 = false := by decide
  rw [findConfiguration, List.lookup_eq_none_iff]
  intro row hrow
  rw [bne_iff_ne]
  rintro rfl
  rw [hall row hrow] at h
  cases h

/-- Only IPv4 has interfaces over IP on top. -/
theorem eq_ipv4_of_overIP {t : String}
    (h : ((findConfiguration t).map (·.overIP)).getD false = true) :
    t = kSCNetworkInterfaceTypeIPv4 := by
  have hall : ∀ row ∈ configurations, row.2.overIP = true → row.1 = kSCNetworkInterfaceTypeIPv4 := by
    decide
  cases hfind : findConfiguration t with
  | none => rw [hfind] at h; cases h
  | some c =>
    rw [hfind] at h
    obtain ⟨before, after, heq, -⟩ := List.lookup_eq_some_iff.mp hfind
    exact hall (t, c) (heq ▸ List.mem_append_right before List.mem_cons_self) h

/-! ## Layers -/

/-- What a layer is. -/
theorem createWithInterface_eq_some {child i : SCNetworkInterface} {t : String}
    (h : scNetworkInterfaceCreateWithInterface child t = some i) :
    ∃ info, layerInfo child t = some info ∧
      i = .mk { info with
        hiddenConfiguration := child.info.hiddenConfiguration
        hiddenInterface := child.info.hiddenInterface } none none none (some child) := by
  unfold scNetworkInterfaceCreateWithInterface at h
  split at h
  · cases h
  · obtain ⟨info, hinfo, rfl⟩ := Option.map_eq_some_iff.mp h
    exact ⟨info, hinfo, rfl⟩

/-- A layer has the type asked for. -/
theorem layerInfo_interfaceType {child : SCNetworkInterface} {t : String} {info : InterfaceInfo}
    (h : layerInfo child t = some info) : info.interfaceType = t := by
  unfold layerInfo at h
  dsimp only at h
  split_ifs at h <;> first | cases h; rfl | (split at h <;> cases h; rfl) | skip
  · split at h
    · split at h
      · cases h; rfl
      · cases h
    · cases h; rfl

/-- A layer that is made has the type that was asked for. -/
theorem interfaceType_of_createWithInterface {child i : SCNetworkInterface} {t : String}
    (h : scNetworkInterfaceCreateWithInterface child t = some i) : i.info.interfaceType = t := by
  obtain ⟨info, hinfo, rfl⟩ := createWithInterface_eq_some h
  show info.interfaceType = t
  exact layerInfo_interfaceType hinfo

/-- The interface that it was made over is below it. -/
theorem interface_of_createWithInterface {child i : SCNetworkInterface} {t : String}
    (h : scNetworkInterfaceCreateWithInterface child t = some i) : i.interface = some child := by
  obtain ⟨info, -, rfl⟩ := createWithInterface_eq_some h
  rfl

/-- The subtype of PPP on top of an interface. -/
def pppSubtypeOver (child : SCNetworkInterface) : Option String :=
  match findConfiguration child.info.interfaceType with
  | some c => c.pppSubtype
  | none => child.info.entityType

/-- What PPP takes from the interface below. -/
theorem entity_of_ppp {child i : SCNetworkInterface}
    (h : scNetworkInterfaceCreateWithInterface child kSCNetworkInterfaceTypePPP = some i) :
    i.info.entityType = some "PPP" ∧ i.info.entitySubtype = pppSubtypeOver child ∧
      i.info.entityDevice = child.info.entityDevice ∧
      i.info.entityDeviceUnique = child.info.entityDeviceUnique := by
  obtain ⟨info, hinfo, rfl⟩ := createWithInterface_eq_some h
  show info.entityType = _ ∧ info.entitySubtype = _ ∧ info.entityDevice = _ ∧
    info.entityDeviceUnique = _
  rw [layerInfo] at hinfo
  dsimp only at hinfo
  rw [if_pos rfl] at hinfo
  split at hinfo
  next c hc =>
    split at hinfo
    next subtype hsubtype =>
      cases hinfo
      refine ⟨rfl, ?_, rfl, rfl⟩
      rw [pppSubtypeOver, hc]
      exact hsubtype.symm
    next => cases hinfo
  next hc =>
    cases hinfo
    refine ⟨rfl, ?_, rfl, rfl⟩
    rw [pppSubtypeOver, hc]

/-- PPP is not layered on an interface whose type is in the table without a subtype. -/
theorem pppSubtype_ne_none {child i : SCNetworkInterface} {c : Configuration}
    (h : scNetworkInterfaceCreateWithInterface child kSCNetworkInterfaceTypePPP = some i)
    (hc : findConfiguration child.info.interfaceType = some c) : c.pppSubtype ≠ none := by
  intro hnone
  obtain ⟨info, hinfo, -⟩ := createWithInterface_eq_some h
  rw [layerInfo] at hinfo
  dsimp only at hinfo
  rw [if_pos rfl, hc] at hinfo
  dsimp only at hinfo
  rw [hnone] at hinfo
  cases hinfo

/-- A VPN is layered on an interface whose type is not in the table. -/
theorem entity_of_vpn {child i : SCNetworkInterface}
    (h : scNetworkInterfaceCreateWithInterface child kSCNetworkInterfaceTypeVPN = some i) :
    findConfiguration child.info.interfaceType = none ∧ i.info.entityType = some "VPN" ∧
      i.info.entitySubtype = child.info.entityType := by
  obtain ⟨info, hinfo, rfl⟩ := createWithInterface_eq_some h
  show _ ∧ info.entityType = _ ∧ info.entitySubtype = _
  rw [layerInfo] at hinfo
  simp only [kSCNetworkInterfaceTypeVPN, kSCNetworkInterfaceTypePPP,
    kSCNetworkInterfaceTypeL2TP, kSCNetworkInterfaceTypePPTP, kSCNetworkInterfaceType6to4,
    kSCNetworkInterfaceTypeIPSec, String.reduceEq, if_false, if_true] at hinfo
  split at hinfo
  next => cases hinfo
  next hc =>
    cases hinfo
    exact ⟨hc, rfl, rfl⟩

/-- What the interfaces of the built-in types over IP are layered on. -/
theorem overIP_of_createWithInterface {child i : SCNetworkInterface} {t : String}
    (ht : t ∈ [kSCNetworkInterfaceTypeL2TP, kSCNetworkInterfaceTypePPTP,
      kSCNetworkInterfaceType6to4, kSCNetworkInterfaceTypeIPSec])
    (h : scNetworkInterfaceCreateWithInterface child t = some i) :
    child.info.interfaceType = kSCNetworkInterfaceTypeIPv4 := by
  apply eq_ipv4_of_overIP
  by_contra hover
  obtain ⟨info, hinfo, -⟩ := createWithInterface_eq_some h
  rw [layerInfo] at hinfo
  simp only [List.mem_cons, List.not_mem_nil, or_false] at ht
  obtain rfl | rfl | rfl | rfl := ht <;>
    simp [kSCNetworkInterfaceTypePPP, kSCNetworkInterfaceTypeL2TP, kSCNetworkInterfaceTypePPTP,
      kSCNetworkInterfaceType6to4, kSCNetworkInterfaceTypeIPSec, hover] at hinfo

/-- The types of layers: those of the table, and vendors' types. -/
theorem type_of_createWithInterface {child i : SCNetworkInterface} {t : String}
    (h : scNetworkInterfaceCreateWithInterface child t = some i) :
    t = kSCNetworkInterfaceTypePPP ∨ t = kSCNetworkInterfaceTypeVPN ∨
      t ∈ [kSCNetworkInterfaceTypeL2TP, kSCNetworkInterfaceTypePPTP,
        kSCNetworkInterfaceType6to4, kSCNetworkInterfaceTypeIPSec] ∨
      (hasDot t = true ∧ i.info.entityType = some t) := by
  obtain ⟨info, hinfo, rfl⟩ := createWithInterface_eq_some h
  simp only [List.mem_cons, List.not_mem_nil, or_false]
  by_cases hppp : t = kSCNetworkInterfaceTypePPP
  · exact Or.inl hppp
  by_cases hvpn : t = kSCNetworkInterfaceTypeVPN
  · exact Or.inr (Or.inl hvpn)
  by_cases hl2tp : t = kSCNetworkInterfaceTypeL2TP
  · exact Or.inr (Or.inr (Or.inl (Or.inl hl2tp)))
  by_cases hpptp : t = kSCNetworkInterfaceTypePPTP
  · exact Or.inr (Or.inr (Or.inl (Or.inr (Or.inl hpptp))))
  by_cases h6to4 : t = kSCNetworkInterfaceType6to4
  · exact Or.inr (Or.inr (Or.inl (Or.inr (Or.inr (Or.inl h6to4)))))
  by_cases hipsec : t = kSCNetworkInterfaceTypeIPSec
  · exact Or.inr (Or.inr (Or.inl (Or.inr (Or.inr (Or.inr hipsec)))))
  rw [layerInfo] at hinfo
  dsimp only at hinfo
  rw [if_neg hppp, if_neg hl2tp, if_neg hpptp, if_neg h6to4, if_neg hipsec, if_neg hvpn] at hinfo
  split at hinfo
  next hdot =>
    cases hinfo
    exact Or.inr (Or.inr (Or.inr ⟨hdot, rfl⟩))
  next => cases hinfo

/-- What can be built with the type of IPv4 is IPv4. -/
theorem Built.eq_ipv4 {sys : SystemInterfaces} {prefs : VirtualPrefs} (hvalid : prefs.Valid)
    {i : SCNetworkInterface} (hi : Built sys prefs i)
    (htype : i.info.interfaceType = kSCNetworkInterfaceTypeIPv4) : i = kSCNetworkInterfaceIPv4 := by
  cases hi with
  | base hbase =>
    cases hbase with
    | network hh _ =>
      obtain ⟨h, -⟩ | ⟨h, -⟩ | ⟨h, -⟩ := hh.type <;> rw [htype] at h <;> exact absurd h (by decide)
    | serial hh _ =>
      obtain h | h | h | h := hh.type <;> rw [htype] at h <;> exact absurd h (by decide)
    | virtual hv _ _ =>
      obtain h | h | h := hvalid.type_of_mem hv <;> rw [htype] at h <;> exact absurd h (by decide)
    | ipv4 => rfl
  | layer t _ hcreate =>
    obtain ⟨info, hinfo, -⟩ := createWithInterface_eq_some hcreate
    rw [interfaceType_of_createWithInterface hcreate] at htype
    subst htype
    cases hinfo

/-! ## The interface of an entity -/

section Decode

variable {sys : SystemInterfaces} {prefs : VirtualPrefs} {entity : InterfaceEntity}

/-- An interface that is found gets the layer that the entity asks for. -/
theorem finishEntity_some {ifType : String} {ifSubType : Option String}
    (interface : SCNetworkInterface) :
    finishEntity sys (.service (some prefs) false) entity ifType ifSubType (some interface) =
      if ifType = "PPP" then
        scNetworkInterfaceCreateWithInterface interface kSCNetworkInterfaceTypePPP
      else if ifType = "VPN" then
        scNetworkInterfaceCreateWithInterface interface kSCNetworkInterfaceTypeVPN
      else some interface := rfl

/-- What a lookup comes to. -/
def finishLookup (sys : SystemInterfaces) (prefs : VirtualPrefs) (entity : InterfaceEntity)
    (ifType : String) : Lookup → Option SCNetworkInterface
  | .refuse => none
  | .done interface | .go none interface =>
    finishEntity sys (.service (some prefs) false) entity ifType entity.subType interface
  | .go (some matching) _ =>
    finishEntity sys (.service (some prefs) false) entity ifType entity.subType
      (selectMatching sys (.service (some prefs) false) entity ifType
        (entity.deviceName.getD "") matching)

/-- What is made from an entity is what the lookup finds, where the entity has the types that it
needs. -/
theorem createWithEntity_of_lookup {ifType : String} {lookup : Lookup}
    (htype : entity.type = some ifType)
    (hsub : ifType = "PPP" ∨ ifType = "VPN" → entity.subType ≠ none)
    (hlookup : lookupEntity sys (.service (some prefs) false) entity ifType entity.subType = lookup) :
    createWithEntity sys (.service (some prefs) false) entity =
      finishLookup sys prefs entity ifType lookup := by
  have hppp : ¬ ((ifType = "PPP" ∨ ifType = "VPN") ∧ entity.subType = none) :=
    fun h => hsub h.1 h.2
  rw [createWithEntity, htype]
  simp only [Option.getD_some, if_neg hppp, hlookup]
  unfold finishLookup
  split <;> rfl

/-- The entities whose device is looked for among the network interfaces. -/
def NamesDevice (ifType : String) (ifSubType : Option String) : Prop :=
  ifType = "Ethernet" ∨ ifType = "FireWire" ∨ (ifType = "PPP" ∧ ifSubType = some "PPPoE")

theorem NamesDevice.subType_ne_none {ifType : String} {ifSubType : Option String}
    (h : NamesDevice ifType ifSubType) (hppp : ifType = "PPP" ∨ ifType = "VPN") :
    ifSubType ≠ none := by
  obtain rfl | rfl | ⟨-, hsub⟩ := h
  · exact absurd hppp (by decide)
  · exact absurd hppp (by decide)
  · rw [hsub]
    exact Option.some_ne_none _

/-- Where the lookup of a device leads. -/
theorem lookupEntity_device (sys : SystemInterfaces) (prefs : VirtualPrefs)
    {ifType device : String} (hnames : NamesDevice ifType entity.subType)
    (hdevice : entity.deviceName = some device) :
    lookupEntity sys (.service (some prefs) false) entity ifType entity.subType =
      if device = "lo0" then .done (some kSCNetworkInterfaceLoopback)
      else if fitsBSDName device then .go (sys.byBSDName false device) none else .done none := by
  unfold NamesDevice at hnames
  rw [lookupEntity]
  simp only [if_pos hnames, hdevice, Search.useSystemInterfaces, Bool.not_false, if_true,
    Search.keepHidden]

/-- The device is looked for among the network interfaces. -/
theorem createWithEntity_device {ifType device : String} {matching : List SCNetworkInterface}
    (hnames : NamesDevice ifType entity.subType) (htype : entity.type = some ifType)
    (hdevice : entity.deviceName = some device) (hlo0 : device ≠ "lo0")
    (hfits : fitsBSDName device = true) (hfind : sys.byBSDName false device = some matching) :
    createWithEntity sys (.service (some prefs) false) entity =
      finishEntity sys (.service (some prefs) false) entity ifType entity.subType
        (selectMatching sys (.service (some prefs) false) entity ifType device matching) := by
  have hlookup := lookupEntity_device sys prefs hnames hdevice
  rw [if_neg hlo0, if_pos hfits, hfind] at hlookup
  rw [createWithEntity_of_lookup htype hnames.subType_ne_none hlookup]
  simp only [finishLookup, hdevice, Option.getD_some]

/-- `lo0` is the loopback interface, whatever the entity says. -/
theorem createWithEntity_lo0 {ifType : String} (hnames : NamesDevice ifType entity.subType)
    (htype : entity.type = some ifType) (hdevice : entity.deviceName = some "lo0") :
    createWithEntity sys (.service (some prefs) false) entity =
      finishEntity sys (.service (some prefs) false) entity ifType entity.subType
        (some kSCNetworkInterfaceLoopback) := by
  have hlookup := lookupEntity_device sys prefs hnames hdevice
  rw [if_pos rfl] at hlookup
  exact createWithEntity_of_lookup htype hnames.subType_ne_none hlookup

/-- A device whose name is no BSD name is not looked for. -/
theorem createWithEntity_not_fits {ifType device : String}
    (hnames : NamesDevice ifType entity.subType) (htype : entity.type = some ifType)
    (hdevice : entity.deviceName = some device) (hlo0 : device ≠ "lo0")
    (hfits : fitsBSDName device = false) :
    createWithEntity sys (.service (some prefs) false) entity =
      finishEntity sys (.service (some prefs) false) entity ifType entity.subType none := by
  have hlookup := lookupEntity_device sys prefs hnames hdevice
  rw [if_neg hlo0, hfits] at hlookup
  exact createWithEntity_of_lookup htype hnames.subType_ne_none hlookup

/-- A serial device is looked for by its name or its base name. -/
theorem createWithEntity_serial {h : SCNetworkInterface} {found : List SCNetworkInterface}
    (hh : IsSerialHardware h) (hfound : lookedUp sys h = some found)
    (htype : entity.type = some "PPP") (hsub : entity.subType = some "PPPSerial")
    (hdevice : entity.deviceName = h.info.entityDevice)
    (hunique : entity.deviceUnique = h.info.entityDeviceUnique) :
    createWithEntity sys (.service (some prefs) false) entity =
      finishEntity sys (.service (some prefs) false) entity "PPP" entity.subType
        (selectMatching sys (.service (some prefs) false) entity "PPP"
          (entity.deviceName.getD "") found) := by
  obtain ⟨device, hd, hfound⟩ := Option.bind_eq_some_iff.mp hfound
  obtain ⟨hnet, hserial⟩ : h.info.interfaceType ∉ networkTypes ∧
      h.info.interfaceType ∈ serialTypes := by
    obtain h | h | h | h := hh.type <;> rw [h] <;> decide
  rw [if_neg hnet, if_pos hserial] at hfound
  rw [hd] at hdevice
  have hlookup : lookupEntity sys (.service (some prefs) false) entity "PPP" entity.subType =
      .go (some found) none := by
    rw [lookupEntity, hsub]
    simp only [hdevice, hunique, Search.useSystemInterfaces, Search.keepHidden]
    split_ifs at hfound with hnone
    · simp [hnone.1, hnone.2, hfound]
    · simp only [Bool.not_false, if_true]
      rw [if_neg (by decide), if_neg hnone, hfound]
  exact createWithEntity_of_lookup htype (fun _ => hsub ▸ Option.some_ne_none _) hlookup

/-- PPP of the other subtypes is put on what the subtype makes of IPv4. -/
theorem createWithEntity_pppOverIP {t : String} (htype : entity.type = some "PPP")
    (hsub : entity.subType = some t) (hpppoe : t ≠ "PPPoE") (hserial : t ≠ "PPPSerial") :
    createWithEntity sys (.service (some prefs) false) entity =
      (scNetworkInterfaceCreateWithInterface kSCNetworkInterfaceIPv4 t).bind fun i =>
        scNetworkInterfaceCreateWithInterface i kSCNetworkInterfaceTypePPP := by
  have hlookup : lookupEntity sys (.service (some prefs) false) entity "PPP" entity.subType =
      .go none (scNetworkInterfaceCreateWithInterface kSCNetworkInterfaceIPv4 t) := by
    rw [lookupEntity, hsub]
    simp [hpppoe, hserial]
  rw [createWithEntity_of_lookup htype (fun _ => hsub ▸ Option.some_ne_none _) hlookup]
  cases h : scNetworkInterfaceCreateWithInterface kSCNetworkInterfaceIPv4 t with
  | some x => rfl
  | none =>
    have habsent : createAbsent sys (.service (some prefs) false) entity "PPP" entity.subType =
        none := by
      rw [createAbsent, hsub]
      simp [hpppoe, hserial, h]
    simp only [finishLookup, finishEntity, habsent, Option.map_none, Option.bind_none]

/-- A VPN is put on what the subtype makes of IPv4. -/
theorem createWithEntity_vpn {t : String} (htype : entity.type = some "VPN")
    (hsub : entity.subType = some t)
    (hdot : hasDot t = true ∨
      scNetworkInterfaceCreateWithInterface kSCNetworkInterfaceIPv4 t = none) :
    createWithEntity sys (.service (some prefs) false) entity =
      (scNetworkInterfaceCreateWithInterface kSCNetworkInterfaceIPv4 t).bind fun i =>
        scNetworkInterfaceCreateWithInterface i kSCNetworkInterfaceTypeVPN := by
  have hlookup : lookupEntity sys (.service (some prefs) false) entity "VPN" entity.subType =
      .go none (scNetworkInterfaceCreateWithInterface kSCNetworkInterfaceIPv4 t) := by
    rw [lookupEntity, hsub]
    obtain h | h := hdot <;> simp [h]
  rw [createWithEntity_of_lookup htype (fun _ => hsub ▸ Option.some_ne_none _) hlookup]
  cases h : scNetworkInterfaceCreateWithInterface kSCNetworkInterfaceIPv4 t with
  | some x => rfl
  | none =>
    have habsent : createAbsent sys (.service (some prefs) false) entity "VPN" entity.subType =
        none := by
      rw [createAbsent, hsub]
      simp [h]
    simp only [finishLookup, finishEntity, habsent, Option.map_none, Option.bind_none]

/-- The layers over IP are made again without a look at the system. -/
theorem createWithEntity_overIP {t : String} {i : SCNetworkInterface}
    (ht : t = kSCNetworkInterfaceType6to4 ∨ t = kSCNetworkInterfaceTypeIPSec)
    (hcreate : scNetworkInterfaceCreateWithInterface kSCNetworkInterfaceIPv4 t = some i)
    (name : SCNetworkInterface → String) :
    createWithEntity sys (.service (some prefs) false) (copyInterfaceEntity name i) = some i := by
  obtain rfl | rfl := ht <;> cases hcreate <;> rfl

/-- A device that is not present gets a stand-in, which is never a virtual interface. -/
theorem createAbsent_ethernet (sys : SystemInterfaces) (prefs : VirtualPrefs)
    (entity : InterfaceEntity) {ifType : String} {ifSubType : Option String}
    (h : ifType = "Ethernet" ∨ (ifType = "PPP" ∧ ifSubType = some "PPPoE")) :
    ∃ x, createAbsent sys (.service (some prefs) false) entity ifType ifSubType = some x ∧
      (x.info.interfaceType = kSCNetworkInterfaceTypeEthernet ∨
        x.info.interfaceType = kSCNetworkInterfaceTypeIEEE80211) := by
  obtain rfl | ⟨rfl, rfl⟩ := h
  · rw [createAbsent]
    simp only [if_true, Search.useSystemInterfaces, Bool.not_false]
    split_ifs
    · exact ⟨_, rfl, Or.inr rfl⟩
    · exact ⟨_, rfl, Or.inl rfl⟩
  · refine ⟨_, rfl, ?_⟩
    show (if _ then _ else _) = _ ∨ (if _ then _ else _) = _
    split_ifs
    · exact Or.inr rfl
    · exact Or.inl rfl

/-- Without the interface, the entity gets a stand-in. -/
theorem finishEntity_none (sys : SystemInterfaces) (prefs : VirtualPrefs)
    (entity : InterfaceEntity) {ifType : String} {ifSubType : Option String}
    (h : ifType = "Ethernet" ∨ (ifType = "PPP" ∧ ifSubType = some "PPPoE")) :
    ∃ x, (x.info.interfaceType = kSCNetworkInterfaceTypeEthernet ∨
        x.info.interfaceType = kSCNetworkInterfaceTypeIEEE80211) ∧
      finishEntity sys (.service (some prefs) false) entity ifType ifSubType none =
        finishEntity sys (.service (some prefs) false) entity ifType ifSubType (some x) := by
  obtain ⟨x, hx, hxtype⟩ := createAbsent_ethernet sys prefs entity h
  refine ⟨x.hideConfiguration (isHidden entity.hiddenConfiguration), ?_, ?_⟩
  · cases x
    exact hxtype
  · rw [finishEntity_some]
    show ((createAbsent sys _ entity ifType ifSubType).map _).bind _ = _
    rw [hx]
    rfl

/-- A device that is neither hardware nor looked for among the virtual interfaces gets a
stand-in, too. -/
theorem createWithEntity_standIn (prefs : VirtualPrefs) (entity : InterfaceEntity)
    {ifType device : String}
    (h : ifType = "Ethernet" ∨ (ifType = "PPP" ∧ entity.subType = some "PPPoE"))
    (htype : entity.type = some ifType) (hdevice : entity.deviceName = some device)
    (hfind : sys.byBSDName false device = some [])
    (hvirtual : device ≠ "lo0" → fitsBSDName device = true →
      findVirtual sys (.service (some prefs) false) entity ifType device = none) :
    ∃ x, (x.info.interfaceType = kSCNetworkInterfaceTypeLoopback ∨
        x.info.interfaceType = kSCNetworkInterfaceTypeEthernet ∨
        x.info.interfaceType = kSCNetworkInterfaceTypeIEEE80211) ∧
      createWithEntity sys (.service (some prefs) false) entity =
        finishEntity sys (.service (some prefs) false) entity ifType entity.subType (some x) := by
  have hnames : NamesDevice ifType entity.subType := h.imp_right Or.inr
  by_cases hlo0 : device = "lo0"
  · subst hlo0
    exact ⟨_, Or.inl rfl, createWithEntity_lo0 hnames htype hdevice⟩
  obtain ⟨x, hx, hnone⟩ := finishEntity_none sys prefs entity h
  refine ⟨x, Or.inr hx, ?_⟩
  rw [← hnone]
  cases hfits : fitsBSDName device with
  | false => exact createWithEntity_not_fits hnames htype hdevice hlo0 hfits
  | true =>
    rw [createWithEntity_device hnames htype hdevice hlo0 hfits hfind, selectMatching,
      hvirtual hlo0 hfits]

end Decode

/-! ## The choice among several interfaces -/

/-- What the choice among several interfaces lets pass, for the entity of the given one: the same
unique identifier; or, without one, the interfaces that have none, either, no name, or its own
display name. -/
def passesFor (displayName : String) (h x : SCNetworkInterface) : Bool :=
  match h.info.entityDeviceUnique with
  | some unique => x.info.entityDeviceUnique = some unique
  | none => x.info.entityDeviceUnique = none ∨ x.info.name = none ∨ x.info.name = some displayName

/-- An interface passes its own choice. -/
theorem passesFor_self (displayName : String) (h : SCNetworkInterface) :
    passesFor displayName h h = true := by
  rw [passesFor]
  cases hunique : h.info.entityDeviceUnique with
  | some unique => exact decide_eq_true rfl
  | none => exact decide_eq_true (Or.inl rfl)

/-- Of the interfaces that the system has for its device, the interface alone passes the choice,
or the first one is equal to it. -/
def SingledOut (sys : SystemInterfaces) (name : SCNetworkInterface → String)
    (h : SCNetworkInterface) : Prop :=
  ∀ found, lookedUp sys h = some found →
    found.filter (passesFor (name h) h) = [h] ∨ ∃ first, found.head? = some first ∧
      h.equal first = true

/-- The choice among several interfaces, by the entity of an interface. -/
theorem chooseMatching_eq_onlyOne {entity : InterfaceEntity} {displayName : String}
    {h : SCNetworkInterface} (hunique : entity.deviceUnique = h.info.entityDeviceUnique)
    (hname : entity.userDefinedName = some displayName) (first : SCNetworkInterface)
    (found : List SCNetworkInterface) :
    chooseMatching entity first found =
      (onlyOne (passesFor displayName h) found).getD first := by
  rw [chooseMatching, hunique, hname]
  unfold passesFor
  cases h.info.entityDeviceUnique <;> rfl

/-- An interface that is found is the one chosen, or equal to it, if and only if it is singled
out. -/
theorem selectMatching_equal_iff (sys : SystemInterfaces) (search : Search) (ifType device : String)
    (entity : InterfaceEntity) {displayName : String} {h : SCNetworkInterface}
    (hunique : entity.deviceUnique = h.info.entityDeviceUnique)
    (hname : entity.userDefinedName = some displayName) {found : List SCNetworkInterface}
    (hfound : h ∈ found) :
    ∃ x, selectMatching sys search entity ifType device found = some x ∧
      (h.equal x = true ↔ found.filter (passesFor displayName h) = [h] ∨
        ∃ first, found.head? = some first ∧ h.equal first = true) := by
  match found, hfound with
  | [x], hfound =>
    obtain rfl := List.mem_singleton.mp hfound
    refine ⟨h, if_pos hunique, iff_of_true (equal_refl h) (Or.inr ⟨h, rfl, equal_refl h⟩)⟩
  | first :: second :: l, hfound =>
    refine ⟨chooseMatching entity first (first :: second :: l), rfl, ?_⟩
    have hpasses : h ∈ (first :: second :: l).filter (passesFor displayName h) :=
      List.mem_filter.mpr ⟨hfound, passesFor_self displayName h⟩
    rw [chooseMatching_eq_onlyOne hunique hname, onlyOne]
    split
    next x hx =>
      -- one passes, and it is the interface itself
      rw [hx] at hpasses ⊢
      obtain rfl := List.mem_singleton.mp hpasses
      exact iff_of_true (equal_refl h) (Or.inl rfl)
    next hseveral =>
      -- several pass, so the first of all is taken
      constructor
      · exact fun hequal => Or.inr ⟨first, rfl, hequal⟩
      · rintro (hone | ⟨x, hx, hequal⟩)
        · exact absurd hone (hseveral h)
        · obtain rfl := Option.some.inj hx
          exact hequal

/-! ## The interfaces that are made again -/

section Restored

variable {sys : SystemInterfaces} {prefs : VirtualPrefs} {name : SCNetworkInterface → String}

theorem interfaceType_eq_of_equal {i j : SCNetworkInterface} (h : i.equal j = true) :
    i.info.interfaceType = j.info.interfaceType :=
  InterfaceInfo.interfaceType_of_sameDevice (sameDevice_of_equal h)

/-- Equal layers are on equal interfaces. -/
theorem equal_of_equal_layers {i j child x : SCNetworkInterface} (hi : i.interface = some child)
    (hj : j.interface = some x) (h : i.equal j = true) : child.equal x = true := by
  obtain ⟨if1, bond1, bridge1, vlan1, interface1⟩ := i
  obtain ⟨if2, bond2, bridge2, vlan2, interface2⟩ := j
  obtain ⟨-, -, -, -, hlayer⟩ := equal_mk_iff.mp h
  obtain rfl : interface1 = some child := hi
  obtain rfl : interface2 = some x := hj
  rwa [equalOption] at hlayer

/-- The interface is made again from its entity. -/
def Restored (sys : SystemInterfaces) (prefs : VirtualPrefs) (name : SCNetworkInterface → String)
    (i : SCNetworkInterface) : Prop :=
  ∃ j, createWithEntity sys (.service (some prefs) false) (copyInterfaceEntity name i) = some j ∧
    i.equal j = true

/-- What is made again as it was is restored. -/
theorem Restored.of_eq {i : SCNetworkInterface}
    (h : createWithEntity sys (.service (some prefs) false) (copyInterfaceEntity name i) = some i) :
    Restored sys prefs name i :=
  ⟨i, h, equal_refl i⟩

/-- An interface is singled out if the lookup leaves only it, or an equal one at the front. -/
theorem singledOut_iff {h : SCNetworkInterface} {found : List SCNetworkInterface}
    (hfound : lookedUp sys h = some found) :
    SingledOut sys name h ↔ found.filter (passesFor (name h) h) = [h] ∨
      ∃ first, found.head? = some first ∧ h.equal first = true := by
  constructor
  · exact fun hout => hout found hfound
  · rintro hout found' hfound'
    obtain rfl := Option.some.inj (hfound.symm.trans hfound')
    exact hout

/-- An interface without layers is its own lowest one. -/
theorem lowestLayer_of_interface_none {i : SCNetworkInterface} (h : i.interface = none) :
    lowestLayer i = i := by
  obtain ⟨info, bond, bridge, vlan, interface⟩ := i
  obtain rfl : interface = none := h
  rfl

theorem lowestLayer_of_interface {i child : SCNetworkInterface} (h : i.interface = some child) :
    lowestLayer i = lowestLayer child := by
  obtain ⟨info, bond, bridge, vlan, interface⟩ := i
  obtain rfl : interface = some child := h
  rfl

/-- The name in the entity is that of the lowest layer. -/
theorem userDefinedName_copyInterfaceEntity {i h : SCNetworkInterface} (hlowest : lowestLayer i = h)
    (htype : h.info.interfaceType ≠ kSCNetworkInterfaceTypeIPv4) :
    (copyInterfaceEntity name i).userDefinedName = some (name h) := by
  have hipv4 : h.equal kSCNetworkInterfaceIPv4 = false := by
    by_contra hequal
    exact htype (interfaceType_eq_of_equal (eq_true_of_ne_false hequal))
  show (if _ then _ else _) = _
  rw [hlowest, hipv4]
  rfl

/-- Only hardware is looked up. -/
theorem singledOut_of_type {i : SCNetworkInterface} (hnet : i.info.interfaceType ∉ networkTypes)
    (hserial : i.info.interfaceType ∉ serialTypes) : SingledOut sys name i := by
  intro found hfound
  obtain ⟨device, -, hfound⟩ := Option.bind_eq_some_iff.mp hfound
  rw [if_neg hnet, if_neg hserial] at hfound
  cases hfound

/-- Layers are not looked up among the devices, so there is nothing to choose from. -/
theorem singledOut_of_layer {child i : SCNetworkInterface} {t : String}
    (hcreate : scNetworkInterfaceCreateWithInterface child t = some i) :
    SingledOut sys name i := by
  suffices h : t ∉ networkTypes ∧ t ∉ serialTypes by
    rw [← interfaceType_of_createWithInterface hcreate] at h
    exact singledOut_of_type h.1 h.2
  obtain rfl | rfl | h | ⟨hdot, -⟩ := type_of_createWithInterface hcreate
  · decide
  · decide
  · have hall : ∀ s ∈ [kSCNetworkInterfaceTypeL2TP, kSCNetworkInterfaceTypePPTP,
        kSCNetworkInterfaceType6to4, kSCNetworkInterfaceTypeIPSec],
        s ∉ networkTypes ∧ s ∉ serialTypes := by decide
    exact hall t h
  · -- a vendor's type
    have hall : ∀ s ∈ networkTypes ++ serialTypes, hasDot s = false := by decide
    refine ⟨fun h => ?_, fun h => ?_⟩
    · rw [hall t (List.mem_append_left _ h)] at hdot
      cases hdot
    · rw [hall t (List.mem_append_right _ h)] at hdot
      cases hdot

/-- Network hardware is looked up by its BSD name. -/
theorem IsNetworkHardware.lookedUp_eq {h : SCNetworkInterface} (hh : IsNetworkHardware h)
    {device : String} (hdevice : h.info.entityDevice = some device) :
    lookedUp sys h = sys.byBSDName false device := by
  have hnet : h.info.interfaceType ∈ networkTypes := by
    obtain ⟨h, -⟩ | ⟨h, -⟩ | ⟨h, -⟩ := hh.type <;> rw [h] <;> decide
  rw [lookedUp, hdevice, Option.bind_some, if_pos hnet]

theorem IsNetworkHardware.type_ne_ipv4 {h : SCNetworkInterface} (hh : IsNetworkHardware h) :
    h.info.interfaceType ≠ kSCNetworkInterfaceTypeIPv4 := by
  obtain ⟨h, -⟩ | ⟨h, -⟩ | ⟨h, -⟩ := hh.type <;> rw [h] <;> decide

theorem IsSerialHardware.type_ne_ipv4 {h : SCNetworkInterface} (hh : IsSerialHardware h) :
    h.info.interfaceType ≠ kSCNetworkInterfaceTypeIPv4 := by
  obtain h | h | h | h := hh.type <;> rw [h] <;> decide

/-- Network hardware that is found is made again if it is singled out. -/
theorem restored_network_iff {h : SCNetworkInterface} (hh : IsNetworkHardware h)
    (hfind : Finds sys h) : Restored sys prefs name h ↔ SingledOut sys name h := by
  obtain ⟨found, hfound, hmem⟩ := hfind
  obtain ⟨device, hdevice, hlo0, hfits⟩ := hh.entityDevice
  rw [singledOut_iff hfound]
  rw [hh.lookedUp_eq hdevice] at hfound
  obtain ⟨ifType, hnet, htype⟩ : ∃ ifType, (ifType = "Ethernet" ∨ ifType = "FireWire") ∧
      h.info.entityType = some ifType := by
    obtain ⟨-, h⟩ | ⟨-, h⟩ | ⟨-, h⟩ := hh.type
    · exact ⟨_, Or.inl rfl, h⟩
    · exact ⟨_, Or.inl rfl, h⟩
    · exact ⟨_, Or.inr rfl, h⟩
  have hnames : NamesDevice ifType (copyInterfaceEntity name h).subType :=
    hnet.imp_right Or.inl
  obtain ⟨x, hx, hequal⟩ := selectMatching_equal_iff sys (.service (some prefs) false) ifType device
    (copyInterfaceEntity name h) rfl
    (userDefinedName_copyInterfaceEntity (lowestLayer_of_interface_none hh.interface)
      hh.type_ne_ipv4) hmem
  have hcreate : createWithEntity sys (.service (some prefs) false) (copyInterfaceEntity name h) =
      some x := by
    rw [createWithEntity_device hnames htype hdevice hlo0 hfits hfound, hx, finishEntity_some]
    obtain rfl | rfl := hnet <;> rfl
  rw [← hequal, Restored, hcreate]
  simp only [Option.some.injEq, exists_eq_left']

/-- PPP is put on an equal interface if and only if the two PPP interfaces are equal. -/
theorem exists_ppp_equal_iff {h i : SCNetworkInterface}
    (hconf : findConfiguration h.info.interfaceType ≠ none)
    (hcreate : scNetworkInterfaceCreateWithInterface h kSCNetworkInterfaceTypePPP = some i)
    (x : SCNetworkInterface) :
    (∃ j, scNetworkInterfaceCreateWithInterface x kSCNetworkInterfaceTypePPP = some j ∧
      i.equal j = true) ↔ h.equal x = true := by
  constructor
  · rintro ⟨j, hj, hequal⟩
    exact equal_of_equal_layers (interface_of_createWithInterface hcreate)
      (interface_of_createWithInterface hj) hequal
  · intro hequal
    have htype := interfaceType_eq_of_equal hequal
    obtain ⟨c, hc⟩ := Option.ne_none_iff_exists'.mp hconf
    obtain ⟨subtype, hsubtype⟩ :=
      Option.ne_none_iff_exists'.mp (pppSubtype_ne_none hcreate hc)
    have hloopback : x.equal kSCNetworkInterfaceLoopback = false := by
      by_contra hx
      have hx := interfaceType_eq_of_equal (eq_true_of_ne_false hx)
      rw [htype, hx] at hc
      cases hc
      cases hsubtype
    obtain ⟨info, hinfo, rfl⟩ := createWithInterface_eq_some hcreate
    rw [layerInfo] at hinfo
    dsimp only at hinfo
    rw [if_pos rfl, hc] at hinfo
    dsimp only at hinfo
    rw [hsubtype] at hinfo
    obtain rfl := Option.some.inj hinfo
    rw [scNetworkInterfaceCreateWithInterface, hloopback, layerInfo]
    dsimp only
    rw [if_pos rfl, ← htype, hc]
    dsimp only
    rw [hsubtype]
    have hnever : kSCNetworkInterfaceTypePPP ≠ kSCNetworkInterfaceTypeBond ∧
        kSCNetworkInterfaceTypePPP ≠ kSCNetworkInterfaceTypeBridge ∧
        kSCNetworkInterfaceTypePPP ≠ kSCNetworkInterfaceTypeVLAN := by decide
    refine ⟨_, rfl, equal_mk_iff.mpr ⟨?_, fun h => absurd h hnever.1,
      fun h => absurd h hnever.2.1, fun h => absurd h hnever.2.2, ?_⟩⟩
    · -- a layer has the device of the interface below, and no name
      have hsame := sameDevice_of_equal hequal
      rw [InterfaceInfo.sameDevice, Bool.and_eq_true, Bool.and_eq_true] at hsame
      obtain ⟨⟨-, hdevice⟩, hunique⟩ := hsame
      rw [InterfaceInfo.sameDevice]
      simp only [InterfaceInfo.new, decide_true, Bool.true_and, Bool.and_eq_true]
      refine ⟨hdevice, ?_⟩
      cases hu : h.info.entityDeviceUnique with
      | none => cases hv : x.info.entityDeviceUnique <;> rfl
      | some unique =>
        cases hv : x.info.entityDeviceUnique with
        | none => rfl
        | some unique' =>
          rw [hu, hv] at hunique
          exact hunique
    · rwa [equalOption]

/-- PPPoE on network hardware is made again if the hardware is singled out. -/
theorem restored_pppoe_network_iff {h i : SCNetworkInterface} (hh : IsNetworkHardware h)
    (hfind : Finds sys h)
    (hcreate : scNetworkInterfaceCreateWithInterface h kSCNetworkInterfaceTypePPP = some i) :
    Restored sys prefs name i ↔ SingledOut sys name h := by
  obtain ⟨found, hfound, hmem⟩ := hfind
  obtain ⟨device, hdevice, hlo0, hfits⟩ := hh.entityDevice
  rw [singledOut_iff hfound]
  rw [hh.lookedUp_eq hdevice] at hfound
  obtain ⟨htype, hsub, hd, hu⟩ := entity_of_ppp hcreate
  have hpppoe : pppSubtypeOver h = some "PPPoE" := by
    obtain ⟨h, -⟩ | ⟨h, -⟩ | ⟨h, -⟩ := hh.type
    · rw [pppSubtypeOver, h]
      rfl
    · rw [pppSubtypeOver, h]
      rfl
    · have hsubtype := pppSubtype_ne_none (c := ⟨some "FireWire", false, none, true⟩) hcreate
        (by rw [h]; rfl)
      exact absurd rfl hsubtype
  have hconf : findConfiguration h.info.interfaceType ≠ none := by
    obtain ⟨h, -⟩ | ⟨h, -⟩ | ⟨h, -⟩ := hh.type <;> rw [h] <;> decide
  have hnames : NamesDevice "PPP" (copyInterfaceEntity name i).subType :=
    Or.inr (Or.inr ⟨rfl, hsub.trans hpppoe⟩)
  have hlowest : lowestLayer i = h :=
    (lowestLayer_of_interface (interface_of_createWithInterface hcreate)).trans
      (lowestLayer_of_interface_none hh.interface)
  obtain ⟨x, hx, hequal⟩ := selectMatching_equal_iff sys (.service (some prefs) false) "PPP" device
    (copyInterfaceEntity name i) hu
    (userDefinedName_copyInterfaceEntity hlowest hh.type_ne_ipv4) hmem
  rw [← hequal, ← exists_ppp_equal_iff hconf hcreate, Restored,
    createWithEntity_device hnames htype (hd.trans hdevice) hlo0 hfits hfound, hx,
    finishEntity_some, if_pos rfl]

/-- PPP on a serial device is made again if the device is singled out, unless its type is not in
the table. -/
theorem restored_ppp_serial_iff {h i : SCNetworkInterface} (hh : IsSerialHardware h)
    (hfind : Finds sys h) (hirda : h.info.interfaceType ≠ kSCNetworkInterfaceTypeIrDA)
    (hcreate : scNetworkInterfaceCreateWithInterface h kSCNetworkInterfaceTypePPP = some i) :
    Restored sys prefs name i ↔ SingledOut sys name h := by
  obtain ⟨found, hfound, hmem⟩ := hfind
  rw [singledOut_iff hfound]
  obtain ⟨htype, hsub, hd, hu⟩ := entity_of_ppp hcreate
  obtain ⟨hserial, hconf⟩ : pppSubtypeOver h = some "PPPSerial" ∧
      findConfiguration h.info.interfaceType ≠ none := by
    rw [pppSubtypeOver]
    obtain h | h | h | h := hh.type
    · rw [h]
      exact ⟨rfl, by decide⟩
    · exact absurd h hirda
    · rw [h]
      exact ⟨rfl, by decide⟩
    · rw [h]
      exact ⟨rfl, by decide⟩
  have hlowest : lowestLayer i = h :=
    (lowestLayer_of_interface (interface_of_createWithInterface hcreate)).trans
      (lowestLayer_of_interface_none hh.interface)
  obtain ⟨x, hx, hequal⟩ := selectMatching_equal_iff sys (.service (some prefs) false) "PPP"
    ((copyInterfaceEntity name i).deviceName.getD "") (copyInterfaceEntity name i) hu
    (userDefinedName_copyInterfaceEntity hlowest hh.type_ne_ipv4) hmem
  rw [← hequal, ← exists_ppp_equal_iff hconf hcreate, Restored,
    createWithEntity_serial hh hfound htype (hsub.trans hserial) hd hu, hx, finishEntity_some,
    if_pos rfl]

/-- PPP on L2TP or PPTP is put on the same again. -/
theorem restored_ppp_overIP {child i : SCNetworkInterface} {t : String}
    (ht : t = kSCNetworkInterfaceTypeL2TP ∨ t = kSCNetworkInterfaceTypePPTP)
    (hchild : scNetworkInterfaceCreateWithInterface kSCNetworkInterfaceIPv4 t = some child)
    (hcreate : scNetworkInterfaceCreateWithInterface child kSCNetworkInterfaceTypePPP = some i) :
    Restored sys prefs name i := by
  obtain ⟨htype, hsub, -, -⟩ := entity_of_ppp hcreate
  apply Restored.of_eq
  have hover : pppSubtypeOver child = some t := by
    rw [pppSubtypeOver, interfaceType_of_createWithInterface hchild]
    obtain rfl | rfl := ht <;> rfl
  have hne : t ≠ "PPPoE" ∧ t ≠ "PPPSerial" := by
    obtain rfl | rfl := ht <;> exact ⟨by decide, by decide⟩
  rw [createWithEntity_pppOverIP htype (hsub.trans hover) hne.1 hne.2, hchild]
  exact hcreate

/-- PPPoE on a VLAN is put on an Ethernet interface instead. -/
theorem not_restored_pppoe_vlan {v i : SCNetworkInterface} {device : String}
    (htypev : v.info.interfaceType = kSCNetworkInterfaceTypeVLAN)
    (hdevice : v.info.entityDevice = some device) (hfind : sys.byBSDName false device = some [])
    (hcreate : scNetworkInterfaceCreateWithInterface v kSCNetworkInterfaceTypePPP = some i) :
    ¬ Restored sys prefs name i := by
  obtain ⟨htype, hsub, hd, -⟩ := entity_of_ppp hcreate
  have hpppoe : pppSubtypeOver v = some "PPPoE" := by
    rw [pppSubtypeOver, htypev]
    rfl
  rintro ⟨j, hj, hequal⟩
  -- the virtual interfaces are looked at for Ethernet only
  obtain ⟨x, hx, hcreate'⟩ := createWithEntity_standIn prefs
    (copyInterfaceEntity name i) (Or.inr ⟨rfl, hsub.trans hpppoe⟩) htype
    (hd.trans hdevice) hfind (fun _ _ => rfl)
  rw [hcreate', finishEntity_some, if_pos rfl] at hj
  have hvx := interfaceType_eq_of_equal (equal_of_equal_layers
    (interface_of_createWithInterface hcreate) (interface_of_createWithInterface hj) hequal)
  rw [htypev] at hvx
  obtain h | h | h := hx <;> rw [h] at hvx <;> exact absurd hvx (by decide)

/-- A list in which a key occurs once is searched by it. -/
theorem find?_of_nodup {α β : Type} [DecidableEq β] (key : α → β) {l : List α}
    (hnodup : (l.map key).Nodup) {a : α} (ha : a ∈ l) :
    l.find? (fun b => key b = key a) = some a := by
  cases hfind : l.find? fun b => key b = key a with
  | none => exact absurd (decide_eq_true rfl) (List.find?_eq_none.mp hfind a ha)
  | some b =>
    have hkey : key b = key a := by simpa using List.find?_some hfind
    rw [List.inj_on_of_nodup_map hnodup (List.mem_of_find?_eq_some hfind) ha hkey]

/-- The virtual interfaces are found by their names. -/
theorem findVirtual_of_mem (hvalid : prefs.Valid) {v : SCNetworkInterface} {device : String}
    (hv : v ∈ prefs.bonds ++ prefs.bridges ++ prefs.vlans)
    (hdevice : v.info.entityDevice = some device) {entity : InterfaceEntity}
    (hbond : entity.noBond = false) (hbridge : entity.noBridge = false)
    (hvlan : entity.noVLAN = false) (hname : entity.userDefinedName ≠ some "Bluetooth PAN") :
    findVirtual sys (.service (some prefs) false) entity "Ethernet" device = some v := by
  have hfound := find?_of_nodup _ hvalid.nodup hv
  rw [hdevice, List.find?_append, List.find?_append] at hfound
  rw [findVirtual, if_neg (by decide), if_neg hname, hbond, hbridge, hvlan]
  exact hfound

/-- A virtual interface is made again from its entity where the entity is looked up among the
virtual interfaces. -/
theorem restored_virtual_iff (hvalid : prefs.Valid) {v : SCNetworkInterface} {device : String}
    (hv : v ∈ prefs.bonds ++ prefs.bridges ++ prefs.vlans)
    (hdevice : v.info.entityDevice = some device) (hfind : sys.byBSDName false device = some []) :
    Restored sys prefs name v ↔
      name v ≠ "Bluetooth PAN" ∧ device ≠ "lo0" ∧ fitsBSDName device = true := by
  obtain ⟨htype, hbelow, hifType⟩ : v.info.entityType = some "Ethernet" ∧ v.interface = none ∧
      v.info.interfaceType ∉ [kSCNetworkInterfaceTypeLoopback, kSCNetworkInterfaceTypeEthernet,
        kSCNetworkInterfaceTypeIEEE80211, kSCNetworkInterfaceTypeIPv4] := by
    obtain h | h | h := hvalid.isVirtual hv
    all_goals exact ⟨h.entityType, h.interface, by rw [h.type]; decide⟩
  have hname : (copyInterfaceEntity name v).userDefinedName = some (name v) :=
    userDefinedName_copyInterfaceEntity (lowestLayer_of_interface_none hbelow) fun h => by
      rw [h] at hifType
      exact hifType (by decide)
  constructor
  · -- a stand-in is no virtual interface
    rintro ⟨j, hj, hequal⟩
    have hstandIn : ¬ (device ≠ "lo0" → fitsBSDName device = true → findVirtual sys
        (.service (some prefs) false) (copyInterfaceEntity name v) "Ethernet" device = none) := by
      intro hvirtual
      obtain ⟨x, hx, hcreate⟩ := createWithEntity_standIn _ _ (Or.inl rfl) htype hdevice hfind hvirtual
      rw [hcreate, finishEntity_some, if_neg (by decide), if_neg (by decide)] at hj
      obtain rfl := Option.some.inj hj
      rw [interfaceType_eq_of_equal hequal] at hifType
      obtain h | h | h := hx <;> rw [h] at hifType <;> exact hifType (by decide)
    refine ⟨fun hpan => hstandIn fun _ _ => ?_, fun hlo0 => hstandIn fun h => absurd hlo0 h, ?_⟩
    · rw [findVirtual, if_neg (by decide), if_pos (hname.trans (congrArg some hpan))]
    · by_contra hfits
      exact hstandIn fun _ h => absurd h hfits
  · rintro ⟨hpan, hlo0, hfits⟩
    apply Restored.of_eq
    have hfound : findVirtual sys (.service (some prefs) false) (copyInterfaceEntity name v)
        "Ethernet" device = some v :=
      findVirtual_of_mem hvalid hv hdevice rfl rfl rfl
        (by rw [hname]; exact fun h => hpan (Option.some.inj h))
    rw [createWithEntity_device (Or.inl rfl) htype hdevice hlo0 hfits hfind, selectMatching,
      hfound]
    rfl

/-- An interface can be layered on IPv4 with any vendor's type. -/
theorem exists_vendor_ipv4 {t : String} (hdot : hasDot t = true) :
    ∃ x, scNetworkInterfaceCreateWithInterface kSCNetworkInterfaceIPv4 t = some x := by
  have hne : ∀ s, hasDot s = false → t ≠ s := by
    rintro s hs rfl
    rw [hdot] at hs
    cases hs
  have hinfo : ∃ info, layerInfo kSCNetworkInterfaceIPv4 t = some info := by
    rw [layerInfo]
    dsimp only
    rw [if_neg (hne _ (by decide)), if_neg (hne _ (by decide)), if_neg (hne _ (by decide)),
      if_neg (hne _ (by decide)), if_neg (hne _ (by decide)), if_neg (hne _ (by decide)),
      if_pos hdot]
    exact ⟨_, rfl⟩
  obtain ⟨info, hinfo⟩ := hinfo
  rw [scNetworkInterfaceCreateWithInterface, if_neg (by decide), hinfo]
  exact ⟨_, rfl⟩

/-- PPP or a VPN on an interface whose type is not in the table is put on the vendor's interface
over IPv4. -/
theorem restored_vendor_iff (hvalid : prefs.Valid) {child i : SCNetworkInterface} {t : String}
    (hchild : Built sys prefs child) (hconf : findConfiguration child.info.interfaceType = none)
    (ht : t = kSCNetworkInterfaceTypePPP ∨ t = kSCNetworkInterfaceTypeVPN)
    (hcreate : scNetworkInterfaceCreateWithInterface child t = some i) :
    Restored sys prefs name i ↔ child.interface = some kSCNetworkInterfaceIPv4 := by
  have hsub : i.info.entitySubtype = child.info.entityType := by
    obtain rfl | rfl := ht
    · rw [(entity_of_ppp hcreate).2.1, pppSubtypeOver, hconf]
    · exact (entity_of_vpn hcreate).2.2
  -- what the decoder puts the layer on
  have hdecode : ∀ s, i.info.entitySubtype = some s → s ≠ "PPPoE" → s ≠ "PPPSerial" →
      (hasDot s = true ∨ scNetworkInterfaceCreateWithInterface kSCNetworkInterfaceIPv4 s = none) →
      createWithEntity sys (.service (some prefs) false) (copyInterfaceEntity name i) =
        (scNetworkInterfaceCreateWithInterface kSCNetworkInterfaceIPv4 s).bind fun x =>
          scNetworkInterfaceCreateWithInterface x t := by
    intro s hs hpppoe hserial hdot
    obtain rfl | rfl := ht
    · exact createWithEntity_pppOverIP (entity_of_ppp hcreate).1 hs hpppoe hserial
    · exact createWithEntity_vpn (entity_of_vpn hcreate).2.1 hs hdot
  cases hchild with
  | base hbase =>
    cases hbase with
    | network hh _ =>
      obtain ⟨h, -⟩ | ⟨h, -⟩ | ⟨h, -⟩ := hh.type <;> rw [h] at hconf <;> cases hconf
    | serial hh _ =>
      -- IrDA
      have hnone : scNetworkInterfaceCreateWithInterface kSCNetworkInterfaceIPv4 "Modem" = none :=
        rfl
      have hcreate' := hdecode "Modem" (hsub.trans hh.entityType) (by decide) (by decide)
        (Or.inr hnone)
      rw [hnone, Option.bind_none] at hcreate'
      constructor
      · rintro ⟨j, hj, -⟩
        rw [hcreate'] at hj
        cases hj
      · intro h
        rw [hh.interface] at h
        cases h
    | virtual hv _ _ =>
      obtain h | h | h := hvalid.type_of_mem hv <;> rw [h] at hconf <;> cases hconf
    | ipv4 => cases hconf
  | layer s hbelow hcreateChild =>
    rename_i below
    have htype := interfaceType_of_createWithInterface hcreateChild
    have hlayer := interface_of_createWithInterface hcreateChild
    rw [htype] at hconf
    obtain rfl | rfl | h | ⟨hdot, hentity⟩ := type_of_createWithInterface hcreateChild
    · cases hconf
    · cases hconf
    · simp only [List.mem_cons, List.not_mem_nil, or_false] at h
      obtain rfl | rfl | rfl | rfl := h <;> cases hconf
    have hne : ∀ r, hasDot r = false → s ≠ r := by
      rintro r hr rfl
      rw [hdot] at hr
      cases hr
    obtain ⟨x, hx⟩ := exists_vendor_ipv4 hdot
    have hcreate' := hdecode s (hsub.trans hentity) (hne _ (by decide)) (hne _ (by decide))
      (Or.inl hdot)
    rw [hx, Option.bind_some] at hcreate'
    constructor
    · rintro ⟨j, hj, hequal⟩
      rw [hcreate'] at hj
      -- the layers below are equal, so the lowest one is IPv4
      have hchild := equal_of_equal_layers (interface_of_createWithInterface hcreate)
        (interface_of_createWithInterface hj) hequal
      have hipv4 := equal_of_equal_layers hlayer (interface_of_createWithInterface hx) hchild
      rw [hlayer, hbelow.eq_ipv4 hvalid (interfaceType_eq_of_equal hipv4)]
    · intro h
      obtain rfl : below = kSCNetworkInterfaceIPv4 := Option.some.inj (hlayer.symm.trans h)
      obtain rfl : child = x := Option.some.inj (hcreateChild.symm.trans hx)
      exact Restored.of_eq (hcreate'.trans hcreate)

end Restored

/-! ## The round trip -/

/-- The entity of the interface says enough: hardware is singled out among what the system has
for its device; a virtual interface has a BSD name other than `lo0`, and is not called
"Bluetooth PAN"; PPP is not on a VLAN, and on hardware that is singled out; and what PPP or a VPN
is on is, if its type is not in the table, layered on IPv4. -/
def Restorable (sys : SystemInterfaces) (name : SCNetworkInterface → String)
    (i : SCNetworkInterface) : Prop :=
  match i.interface with
  | none =>
    SingledOut sys name i ∧
      (i.info.interfaceType = kSCNetworkInterfaceTypeBond ∨
          i.info.interfaceType = kSCNetworkInterfaceTypeBridge ∨
          i.info.interfaceType = kSCNetworkInterfaceTypeVLAN →
        name i ≠ "Bluetooth PAN" ∧ i.info.entityDevice ≠ some "lo0" ∧
          (i.info.entityDevice.map fitsBSDName).getD false = true)
  | some child =>
    i.info.interfaceType = kSCNetworkInterfaceTypePPP ∨
        i.info.interfaceType = kSCNetworkInterfaceTypeVPN →
      SingledOut sys name child ∧ child.info.interfaceType ≠ kSCNetworkInterfaceTypeVLAN ∧
        (findConfiguration child.info.interfaceType = none →
          child.interface = some kSCNetworkInterfaceIPv4)

section RoundTrip

variable {sys : SystemInterfaces} {prefs : VirtualPrefs} {name : SCNetworkInterface → String}

/-- The round trip of what layers are put on. -/
theorem restored_iff_of_isBase (hvalid : prefs.Valid) {i : SCNetworkInterface}
    (hi : IsBase sys prefs i) (hprotocols : supportsProtocols i = true) :
    Restored sys prefs name i ↔ Restorable sys name i := by
  cases hi with
  | network hh hfind =>
    rw [restored_network_iff hh hfind, Restorable, hh.interface]
    refine ⟨fun hout => ⟨hout, fun h => ?_⟩, fun h => h.1⟩
    obtain ⟨h', -⟩ | ⟨h', -⟩ | ⟨h', -⟩ := hh.type <;> rw [h'] at h <;>
      exact absurd h (by decide)
  | serial hh hfind =>
    rw [supportsProtocols] at hprotocols
    obtain h | h | h | h := hh.type <;> rw [h] at hprotocols <;> cases hprotocols
  | virtual hv hdevice hfind =>
    have hbelow : i.interface = none := by
      obtain h | h | h := hvalid.isVirtual hv <;> exact h.interface
    have hout : SingledOut sys name i := by
      obtain h | h | h := hvalid.type_of_mem hv
      all_goals exact singledOut_of_type (by rw [h]; decide) (by rw [h]; decide)
    rw [restored_virtual_iff hvalid hv hdevice hfind, Restorable, hbelow, hdevice]
    simp only [hout, true_and, hvalid.type_of_mem hv, true_imp_iff, Option.map_some,
      Option.getD_some, ne_eq, Option.some.injEq]
  | ipv4 => cases hprotocols

/-- A layer is no hardware, so nothing is chosen. -/
theorem Built.singledOut (hvalid : prefs.Valid) {i below : SCNetworkInterface}
    (hi : Built sys prefs i) (hbelow : i.interface = some below) : SingledOut sys name i := by
  cases hi with
  | base hbase =>
    -- nothing is below what layers are put on
    have hnone : i.interface = none := by
      cases hbase with
      | network hh _ => exact hh.interface
      | serial hh _ => exact hh.interface
      | virtual hv _ _ =>
        obtain h | h | h := hvalid.isVirtual hv <;> exact h.interface
      | ipv4 => rfl
    rw [hnone] at hbelow
    cases hbelow
  | layer t _ hcreate => exact singledOut_of_layer hcreate

/-- The round trip of PPP. -/
theorem restored_ppp_iff (hvalid : prefs.Valid) {child i : SCNetworkInterface}
    (hchild : Built sys prefs child)
    (hcreate : scNetworkInterfaceCreateWithInterface child kSCNetworkInterfaceTypePPP = some i) :
    Restored sys prefs name i ↔ SingledOut sys name child ∧
      child.info.interfaceType ≠ kSCNetworkInterfaceTypeVLAN ∧
      (findConfiguration child.info.interfaceType = none →
        child.interface = some kSCNetworkInterfaceIPv4) := by
  by_cases hconf : findConfiguration child.info.interfaceType = none
  · -- a vendor's type, over IPv4
    have hvlan : child.info.interfaceType ≠ kSCNetworkInterfaceTypeVLAN := by
      intro h
      rw [h] at hconf
      cases hconf
    rw [restored_vendor_iff hvalid hchild hconf (Or.inl rfl) hcreate]
    exact ⟨fun h => ⟨hchild.singledOut hvalid h, hvlan, fun _ => h⟩, fun h => h.2.2 hconf⟩
  · simp only [hconf, false_imp_iff, and_true]
    -- otherwise the type of the child decides, so by the way it was made
    cases hchild with
    | base hbase =>
      cases hbase with
      | network hh hfind =>
        rw [restored_pppoe_network_iff hh hfind hcreate, iff_self_and]
        intro _
        obtain ⟨h, -⟩ | ⟨h, -⟩ | ⟨h, -⟩ := hh.type <;> rw [h] <;> decide
      | serial hh hfind =>
        have hirda : child.info.interfaceType ≠ kSCNetworkInterfaceTypeIrDA := by
          intro h
          rw [h] at hconf
          exact hconf rfl
        rw [restored_ppp_serial_iff hh hfind hirda hcreate, iff_self_and]
        intro _
        obtain h | h | h | h := hh.type <;> rw [h] <;> decide
      | virtual hv hdevice hfind =>
        obtain h | h | h := hvalid.type_of_mem hv
        · exact absurd rfl (pppSubtype_ne_none hcreate (by rw [h]; rfl))
        · exact absurd rfl (pppSubtype_ne_none hcreate (by rw [h]; rfl))
        · exact iff_of_false (not_restored_pppoe_vlan h hdevice hfind hcreate) fun h' => h'.2 h
      | ipv4 => exact absurd rfl (pppSubtype_ne_none hcreate rfl)
    | layer t hbelow hcreateChild =>
      have htype := interfaceType_of_createWithInterface hcreateChild
      have hne : ∀ c, findConfiguration t = some c → c.pppSubtype ≠ none := fun c hc =>
        pppSubtype_ne_none hcreate (htype.symm ▸ hc)
      rw [htype] at hconf ⊢
      obtain rfl | rfl | h | ⟨hdot, -⟩ := type_of_createWithInterface hcreateChild
      · exact absurd rfl (hne _ rfl)
      · exact absurd rfl (hne _ rfl)
      · have hipv4 := hbelow.eq_ipv4 hvalid (overIP_of_createWithInterface h hcreateChild)
        rw [hipv4] at hcreateChild
        simp only [List.mem_cons, List.not_mem_nil, or_false] at h
        obtain rfl | rfl | rfl | rfl := h
        · exact iff_of_true (restored_ppp_overIP (Or.inl rfl) hcreateChild hcreate)
            ⟨singledOut_of_layer hcreateChild, by decide⟩
        · exact iff_of_true (restored_ppp_overIP (Or.inr rfl) hcreateChild hcreate)
            ⟨singledOut_of_layer hcreateChild, by decide⟩
        · exact absurd rfl (hne _ rfl)
        · exact absurd rfl (hne _ rfl)
      · exact absurd (findConfiguration_of_hasDot hdot) hconf

/-- The round trip of layers. -/
theorem restored_iff_of_layer (hvalid : prefs.Valid) {child i : SCNetworkInterface} {t : String}
    (hchild : Built sys prefs child)
    (hcreate : scNetworkInterfaceCreateWithInterface child t = some i)
    (hprotocols : supportsProtocols i = true) :
    Restored sys prefs name i ↔ Restorable sys name i := by
  have htype := interfaceType_of_createWithInterface hcreate
  rw [Restorable, interface_of_createWithInterface hcreate, htype]
  rw [supportsProtocols, htype] at hprotocols
  obtain rfl | rfl | h | ⟨hdot, -⟩ := type_of_createWithInterface hcreate
  · simp only [true_or, true_imp_iff]
    exact restored_ppp_iff hvalid hchild hcreate
  · have hconf := (entity_of_vpn hcreate).1
    have hvlan : child.info.interfaceType ≠ kSCNetworkInterfaceTypeVLAN := by
      intro h
      rw [h] at hconf
      cases hconf
    simp only [or_true, true_imp_iff, hconf]
    rw [restored_vendor_iff hvalid hchild hconf (Or.inr rfl) hcreate]
    exact ⟨fun h => ⟨hchild.singledOut hvalid h, hvlan, h⟩, fun h => h.2.2⟩
  · have hipv4 := hchild.eq_ipv4 hvalid (overIP_of_createWithInterface h hcreate)
    rw [hipv4] at hcreate
    simp only [List.mem_cons, List.not_mem_nil, or_false] at h
    obtain rfl | rfl | rfl | rfl := h
    · cases hprotocols
    · cases hprotocols
    · refine iff_of_true (Restored.of_eq (createWithEntity_overIP (Or.inl rfl) hcreate name)) ?_
      exact fun h => absurd h (by decide)
    · refine iff_of_true (Restored.of_eq (createWithEntity_overIP (Or.inr rfl) hcreate name)) ?_
      exact fun h => absurd h (by decide)
  · rw [findConfiguration_of_hasDot hdot] at hprotocols
    cases hprotocols

/-- An interface that supports protocols is made again from its entity if and only if the entity
says enough. -/
theorem createWithEntity_copyInterfaceEntity_iff (hvalid : prefs.Valid) {i : SCNetworkInterface}
    (hi : Built sys prefs i) (hprotocols : supportsProtocols i = true) :
    Restored sys prefs name i ↔ Restorable sys name i := by
  cases hi with
  | base hbase => exact restored_iff_of_isBase hvalid hbase hprotocols
  | layer t hchild hcreate => exact restored_iff_of_layer hvalid hchild hcreate hprotocols

end RoundTrip

/-! ## A VLAN -/

/-- `en0` -/
def en0Interface : SCNetworkInterface :=
  .mk { InterfaceInfo.new kSCNetworkInterfaceTypeEthernet with
    entityDevice := some "en0"
    entityType := some "Ethernet" } none none none none

/-- `vlan0` -/
def vlan0Interface : SCNetworkInterface :=
  .mk { InterfaceInfo.new kSCNetworkInterfaceTypeVLAN with
    entityDevice := some "vlan0"
    entityType := some "Ethernet"
    vlanTag := some 1 } none none (some en0Interface) none

/-- Preferences with a VLAN. -/
def vlan0Prefs : VirtualPrefs where
  bonds := []
  bridges := []
  vlans := [vlan0Interface]

/-- A system with an Ethernet interface. -/
def en0System : SystemInterfaces where
  byBSDName _ device := some (if device = "en0" then [en0Interface] else [])
  byTTYBaseName _ _ := some []
  byTTYDevice _ _ := some []
  defaultPrefs := some vlan0Prefs
  matchesName _ _ := false

theorem vlan0Prefs_valid : vlan0Prefs.Valid where
  bonds := fun _ h => nomatch h
  bridges := fun _ h => nomatch h
  vlans := fun v hv => by
    obtain rfl := List.mem_singleton.mp hv
    exact ⟨rfl, rfl, rfl, rfl⟩
  nodup := List.nodup_singleton _

theorem vlan0_built : Built en0System vlan0Prefs vlan0Interface :=
  .base (.virtual List.mem_cons_self rfl rfl)

/-- A modem of the base name `usbmodem`. -/
def usbModem (unique : Option String) (modemName : String) : SCNetworkInterface :=
  .mk { InterfaceInfo.new kSCNetworkInterfaceTypeModem with
    name := some modemName
    entityDevice := some "usbmodem"
    entityDeviceUnique := unique
    entityType := some "Modem" } none none none none

/-- A system with three modems of one base name, one of them without a unique identifier. -/
def modemSystem : SystemInterfaces where
  byBSDName _ _ := some []
  byTTYBaseName _ device :=
    some (if device = "usbmodem" then
      [usbModem (some "1") "Phone", usbModem (some "2") "Fax", usbModem none "Fax"] else [])
  byTTYDevice _ _ := some []
  defaultPrefs := none
  matchesName _ _ := false

/-- The name that is shown. -/
def modemName (i : SCNetworkInterface) : String := i.info.name.getD ""

/-- Any of the three modems is an interface that the system lists. -/
theorem usbModem_built {unique : Option String} {shown : String}
    (h : usbModem unique shown ∈
      [usbModem (some "1") "Phone", usbModem (some "2") "Fax", usbModem none "Fax"]) :
    Built modemSystem vlan0Prefs (usbModem unique shown) := by
  refine .base (.serial ⟨Or.inr (Or.inr (Or.inr rfl)), rfl, rfl⟩ ⟨_, ?_, h⟩)
  cases unique <;> rfl

/-- The VLAN is made again; PPP on a modem with a unique identifier, too; and PPP on the modem
without one is not, as another has its name and the first one is neither. -/
theorem createWithEntity_copyInterfaceEntity_iff_vlan0 :
    Restored en0System vlan0Prefs (fun _ => "VLAN") vlan0Interface ∧
      (∃ i, scNetworkInterfaceCreateWithInterface (usbModem (some "2") "Fax")
        kSCNetworkInterfaceTypePPP = some i ∧ Restored modemSystem vlan0Prefs modemName i) ∧
      ∃ i, scNetworkInterfaceCreateWithInterface (usbModem none "Fax")
        kSCNetworkInterfaceTypePPP = some i ∧ ¬ Restored modemSystem vlan0Prefs modemName i := by
  have hfax : Built modemSystem vlan0Prefs (usbModem (some "2") "Fax") := usbModem_built (by simp)
  have hplain : Built modemSystem vlan0Prefs (usbModem none "Fax") := usbModem_built (by simp)
  refine ⟨(createWithEntity_copyInterfaceEntity_iff vlan0Prefs_valid vlan0_built rfl).mpr
    (And.intro (fun _ h => nomatch h) fun _ => ⟨by decide, by decide, by decide⟩),
    ⟨_, rfl, ?_⟩, _, rfl, ?_⟩
  · refine (createWithEntity_copyInterfaceEntity_iff vlan0Prefs_valid
      (.layer kSCNetworkInterfaceTypePPP hfax rfl) rfl).mpr fun _ => ⟨?_, by decide, fun h => ?_⟩
    · exact fun found hfound => Or.inl (Option.some.inj hfound ▸ rfl)
    · cases h
  · rw [createWithEntity_copyInterfaceEntity_iff vlan0Prefs_valid
      (.layer kSCNetworkInterfaceTypePPP hplain rfl) rfl]
    intro h
    obtain hone | ⟨first, hfirst, hequal⟩ := (h (Or.inl rfl)).1 _ rfl
    · cases hone
    · cases hfirst
      cases hequal

/-- PPPoE on the VLAN is not: it comes back on an Ethernet interface. -/
theorem pppoeOverVLAN_not_restored : ∃ i, Built en0System vlan0Prefs i ∧
    supportsProtocols i = true ∧ ¬ Restored en0System vlan0Prefs (fun _ => "VLAN") i := by
  obtain ⟨i, hi⟩ : ∃ i, scNetworkInterfaceCreateWithInterface vlan0Interface
      kSCNetworkInterfaceTypePPP = some i := ⟨_, rfl⟩
  refine ⟨i, .layer _ vlan0_built hi, ?_, not_restored_pppoe_vlan rfl rfl rfl hi⟩
  rw [supportsProtocols, interfaceType_of_createWithInterface hi]
  rfl

end ConfigdExtra
