import ConfigdExtra.NetworkHardware

/-!
# Classifying the interfaces of the registry

* `Localization.Complete` — a name has all its parts.
* `Classified` — what holds of an interface: its type, its place in the order, what it supports, and
  its name belong together.
* `slotLocalization_cases`, `providerLocalization_cases` — how a name is found.
* `processNetworkInterface_classified` — every interface is so, whatever is in the registry.
-/

namespace ConfigdExtra.IORegistry

/-! ## What an interface is -/

/-- The places of the special kinds of Ethernet. -/
def specialSortOrders : List ℕ :=
  [kSortOtherWireless, kSortTethered, kSortWWANEthernet, kSortBluetoothPAN_GN,
    kSortBluetoothPAN_NAP, kSortBluetoothPAN_U, kSortThunderbolt, kSortCarPlay]

/-- AirPort, or a special kind of Ethernet. -/
def EtherKind.Special (kind : EtherKind) : Prop :=
  (kind.interfaceType = kSCNetworkInterfaceTypeIEEE80211 ∧ kind.sortOrder = kSortAirPort) ∨
    (kind.interfaceType = kSCNetworkInterfaceTypeEthernet ∧ kind.sortOrder ∈ specialSortOrders)

/-- The keys that need no argument. -/
def plainKeys : List String :=
  ["airport", "thunderbolt", "bluetooth-pan-gn", "bluetooth-pan-nap", "bluetooth-pan-u", "ether",
    "firewire"]

/-- The keys with a location. -/
def locationKeys : List String := ["multithunderbolt", "multiether", "wireless"]

/-- The keys with a slot alone. -/
def portlessKeys : List String :=
  ["pci-ether", "thunderbolt-ether", "pci-firewire", "thunderbolt-firewire"]

/-- The keys with a slot and a port. -/
def portKeys : List String :=
  ["pci-multiether", "thunderbolt-multiether", "pci-multifirewire", "thunderbolt-multifirewire"]

/-- The keys with the BSD name. -/
def deviceKeys : List String := ["usb-ether", "generic-ether"]

/-- The keys of what is built in. -/
def builtinKeys : List String := ["ether", "multiether", "firewire"]

/-- The keys of what is plugged in. -/
def pluggedKeys : List String := portlessKeys ++ portKeys ++ deviceKeys

/-- A key has the arguments that it needs: none, a location, a slot, a slot and a port, or the BSD
name as it is, which is missing if the interface has none. -/
inductive Localization.Complete (l : Localization) (device : Option String) : Prop
  | absent (hkey : l.key = none)
  | plain (key : String) (hkey : l.key = some key) (hmem : key ∈ plainKeys) (h1 : l.arg1 = none)
    (h2 : l.arg2 = none)
  | located (key arg : String) (hkey : l.key = some key)
    (hmem : key ∈ locationKeys ++ portlessKeys) (h1 : l.arg1 = some arg) (h2 : l.arg2 = none)
  | port (key slot port : String) (hkey : l.key = some key) (hmem : key ∈ portKeys)
    (h1 : l.arg1 = some slot) (h2 : l.arg2 = some port)
  | device (key : String) (hkey : l.key = some key) (hmem : key ∈ deviceKeys) (h1 : l.arg1 = device)
    (h2 : l.arg2 = none)

/-- What an interface of the registry is: a type with a place in the order, what it supports, and
a name with all its parts. -/
structure Classified (p : ProcessedInterface) : Prop where
  type : p.type = IFT_ETHER ∨ p.type = IFT_IEEE1394
  interfaceType : p.interfaceType =
    if p.type = IFT_IEEE1394 then kSCNetworkInterfaceTypeFireWire
    else if p.sortOrder = kSortAirPort then kSCNetworkInterfaceTypeIEEE80211
    else kSCNetworkInterfaceTypeEthernet
  entityType : p.entityType = if p.type = IFT_ETHER then "Ethernet" else "FireWire"
  sortOrder : p.sortOrder = kSortEthernet ∨ p.sortOrder = kSortFireWire ∨
    p.sortOrder = kSortAirPort ∨ p.sortOrder ∈ specialSortOrders
  fireWire : p.sortOrder = kSortFireWire ↔ p.interfaceType = kSCNetworkInterfaceTypeFireWire
  bond : p.supportsBond = true ↔ p.sortOrder = kSortEthernet
  bridge : p.supportsBridge = true ↔ p.interfaceType = kSCNetworkInterfaceTypeEthernet
  airPort : p.interfaceType = kSCNetworkInterfaceTypeIEEE80211 → p.builtin = true
  /-- only a FireWire interface may have no key -/
  named : p.localization.key = none → p.interfaceType = kSCNetworkInterfaceTypeFireWire
  complete : p.localization.Complete p.entityDevice
  builtin : ∀ key ∈ p.localization.key, key ∈ builtinKeys → p.builtin = true
  notBuiltin : ∀ key ∈ p.localization.key, key ∈ pluggedKeys → p.builtin = false

/-- The interface type of a special kind follows from its sort order. -/
theorem EtherKind.Special.interfaceType_eq {kind : EtherKind} (h : kind.Special) :
    kind.interfaceType =
      if kind.sortOrder = kSortAirPort then kSCNetworkInterfaceTypeIEEE80211
      else kSCNetworkInterfaceTypeEthernet := by
  obtain ⟨htype, hsort⟩ | ⟨htype, hsort⟩ := h
  · rw [htype, if_pos hsort]
  · rw [htype, if_neg (ne_of_mem_of_not_mem hsort (by decide))]

/-- A special kind is sorted neither with plain Ethernet nor with FireWire. -/
theorem EtherKind.Special.sortOrder_ne {kind : EtherKind} (h : kind.Special) :
    kind.sortOrder ≠ kSortEthernet ∧ kind.sortOrder ≠ kSortFireWire := by
  obtain ⟨-, hsort⟩ | ⟨-, hsort⟩ := h
  · rw [hsort]
    decide
  · exact ⟨ne_of_mem_of_not_mem hsort (by decide), ne_of_mem_of_not_mem hsort (by decide)⟩

theorem kindOfController_special {controller : RegistryEntry} {kind : EtherKind}
    (h : kindOfController controller = some kind) : kind.Special := by
  unfold kindOfController at h
  split_ifs at h
  · obtain rfl := Option.some.inj h
    exact .inl ⟨rfl, rfl⟩
  all_goals
    obtain rfl := Option.some.inj h
    exact .inr ⟨rfl, by decide⟩

theorem kindOfRole_special {chain : List RegistryEntry} {kind : EtherKind}
    (h : kindOfRole chain = some kind) : kind.Special := by
  unfold kindOfRole at h
  split at h
  case h_5 => cases h
  all_goals
    obtain rfl := Option.some.inj h
    exact .inr ⟨rfl, by decide⟩

theorem specialKind_special {chain : List RegistryEntry} {controller bus : RegistryEntry}
    {kind : EtherKind} (h : specialKind chain controller bus = some kind) : kind.Special := by
  simp only [specialKind, Option.or_eq_some_iff] at h
  obtain ((h | ⟨-, h⟩) | ⟨-, h⟩) | ⟨-, h⟩ := h
  · exact kindOfController_special h
  · exact kindOfRole_special h
  · unfold kindOfIPhone at h
    split at h
    · obtain rfl := Option.some.inj h
      exact .inr ⟨rfl, by decide⟩
    · cases h
  · unfold kindOfBus at h
    split_ifs at h
    obtain rfl := Option.some.inj h
    exact .inr ⟨rfl, by decide⟩

/-- The kind of an Ethernet interface: AirPort, a special one, or plain Ethernet. -/
theorem etherKind_cases (chain : List RegistryEntry) (controller bus : RegistryEntry) :
    (etherKind chain controller bus).Special ∧ (specialKind chain controller bus).isSome ∨
      etherKind chain controller bus = ⟨kSCNetworkInterfaceTypeEthernet, kSortEthernet⟩ ∧
        specialKind chain controller bus = none := by
  rw [etherKind]
  cases hkind : specialKind chain controller bus with
  | none => exact .inr ⟨rfl, rfl⟩
  | some kind => exact .inl ⟨specialKind_special hkind, rfl⟩

section

variable (env : Environment) (registry : Registry) (chain : List RegistryEntry)

/-- A product's name leaves the key and its arguments. -/
theorem updateInterfaceName_key (usbName : Option PropertyList) (l : Localization) :
    (updateInterfaceName env chain usbName l).2.key = l.key ∧
      (updateInterfaceName env chain usbName l).2.arg1 = l.arg1 ∧
      (updateInterfaceName env chain usbName l).2.arg2 = l.arg2 := by
  rw [updateInterfaceName]
  split
  · exact ⟨rfl, rfl, rfl⟩
  · split_ifs <;> exact ⟨rfl, rfl, rfl⟩

/-- **The name by the slot**: no key, or one for the slot, with the port if there is one. -/
theorem slotLocalization_cases (ift : ℤ) (medium : String) :
    let l := slotLocalization env registry chain ift medium
    (l.key = none ∧ l.arg1 = none ∧ l.arg2 = none) ∨
      ∃ slot port, pciSlotInfo registry chain ift = some (slot, port) ∧
        l = .keyed (slotKey (isThunderbolt chain) port.isSome medium) (some slot) port := by
  intro l
  obtain ⟨hkey, h1, h2⟩ := updateInterfaceName_key env chain none .empty
  show _ ∨ _
  simp only [l, slotLocalization]
  split_ifs with hupdated
  · exact .inl ⟨hkey, h1, h2⟩
  · cases hslot : pciSlotInfo registry chain ift with
    | none => exact .inl ⟨hkey, h1, h2⟩
    | some info => exact .inr ⟨info.1, info.2, rfl, rfl⟩

/-- **The name by the provider**: no key, one for the slot, or one for USB. -/
theorem providerLocalization_cases (ift : ℤ) (bsdName : Option String) :
    let l := providerLocalization env registry chain ift bsdName
    (l.key = none ∧ l.arg1 = none ∧ l.arg2 = none) ∨
      (∃ slot port, pciSlotInfo registry chain ift = some (slot, port) ∧
        l = .keyed (slotKey (isThunderbolt chain) port.isSome "ether") (some slot) port) ∨
      (l.key = some "usb-ether" ∧ l.arg1 = bsdName ∧ l.arg2 = none) := by
  intro l
  have hempty := updateInterfaceName_key env chain none .empty
  show _ ∨ _
  simp only [l, providerLocalization]
  cases findProvider chain with
  | none => exact .inl ⟨rfl, rfl, rfl⟩
  | some provider =>
    dsimp only
    by_cases hpci : provider.string? = some "IOPCIDevice"
    · rw [if_pos hpci]
      exact (slotLocalization_cases env registry chain ift "ether").imp_right .inl
    · rw [if_neg hpci]
      by_cases husb : usbLoop env [chain, chain.drop 1, chain.drop 2] (some provider) = true
      · simp only [husb, if_true]
        have husbName := updateInterfaceName_key env chain
          (searchProperty chain "USB Product Name")
          { Localization.empty with usb := processUSBInterface chain }
        split_ifs with hupdated hkey hkey
        · -- the name of the product
          have hagain := updateInterfaceName_key env chain none
            (updateInterfaceName env chain (searchProperty chain "USB Product Name")
              { Localization.empty with usb := processUSBInterface chain }).2
          exact .inl ⟨hagain.1.trans husbName.1, hagain.2.1.trans husbName.2.1,
            hagain.2.2.trans husbName.2.2⟩
        · exact absurd husbName.1 hkey
        · exact absurd hkey (by simp)
        · exact .inr (.inr ⟨rfl, rfl, husbName.2.2⟩)
      · simp only [husb]
        exact .inl hempty

end

/-- The keys for a slot. -/
theorem slotKey_mem (thunderbolt : Bool) {medium : String}
    (hmedium : medium ∈ ["ether", "firewire"]) :
    slotKey thunderbolt false medium ∈ locationKeys ++ portlessKeys ∧
      slotKey thunderbolt true medium ∈ portKeys := by
  simp only [List.mem_cons, List.not_mem_nil, or_false] at hmedium
  obtain rfl | rfl := hmedium <;> cases thunderbolt <;> decide

theorem complete_slot (thunderbolt : Bool) {medium : String}
    (hmedium : medium ∈ ["ether", "firewire"]) (slot : String) (port device : Option String) :
    (Localization.keyed (slotKey thunderbolt port.isSome medium) (some slot) port).Complete
      device := by
  obtain ⟨hlocated, hport⟩ := slotKey_mem thunderbolt hmedium
  cases port with
  | none => exact .located _ slot rfl hlocated rfl rfl
  | some port => exact .port _ slot port rfl hport rfl rfl

theorem complete_located {single multi : String} (hsingle : single ∈ plainKeys)
    (hmulti : multi ∈ locationKeys ++ portlessKeys) (location device : Option String) :
    (locatedKey single multi location).Complete device := by
  cases location with
  | none => exact .plain single rfl hsingle rfl rfl
  | some location => exact .located multi location rfl hmulti rfl rfl

/-! ## Ethernet -/

/-- What is said about a name: it has all its parts, and its key is only one of a built-in interface
if the interface is built-in. -/
structure Names (l : Localization) (builtin : Bool) (device : Option String) : Prop where
  complete : l.Complete device
  ofBuiltin : ∀ key ∈ l.key, key ∈ builtinKeys → builtin = true
  ofNotBuiltin : ∀ key ∈ l.key, key ∈ pluggedKeys → builtin = false

section

variable {builtin : Bool} {device : Option String}

/-- A name that says nothing about whether the interface is built-in. -/
theorem names_of_key {l : Localization} {key : String} (hcomplete : l.Complete device)
    (hkey : l.key = some key)
    (hother : key ∉ builtinKeys ++ pluggedKeys) :
    Names l builtin device := by
  rw [List.mem_append, not_or] at hother
  refine ⟨hcomplete, fun key' hkey' hmem => ?_, fun key' hkey' hmem => ?_⟩ <;>
    obtain rfl := Option.some.inj (hkey.symm.trans hkey')
  · exact absurd hmem hother.1
  · exact absurd hmem hother.2

/-- A name of an interface that is built-in. -/
theorem names_builtin {l : Localization} {key : String} (hcomplete : l.Complete device)
    (hkey : l.key = some key) (hother : key ∉ pluggedKeys) : Names l true device := by
  refine ⟨hcomplete, fun _ _ _ => rfl, fun key' hkey' hmem => ?_⟩
  obtain rfl := Option.some.inj (hkey.symm.trans hkey')
  exact absurd hmem hother

/-- A name of an interface that is not built-in. -/
theorem names_notBuiltin {l : Localization} (hcomplete : l.Complete device)
    (hother : ∀ key ∈ l.key, key ∉ builtinKeys) : Names l false device :=
  ⟨hcomplete, fun key hkey hmem => absurd hmem (hother key hkey), fun _ _ _ => rfl⟩

theorem names_located {single multi : String} (hsingle : single ∈ plainKeys)
    (hmulti : multi ∈ locationKeys ++ portlessKeys) (location : Option String)
    (hother : ∀ key ∈ [single, multi],
      key ∉ builtinKeys ++ pluggedKeys) :
    Names (locatedKey single multi location) builtin device := by
  have hcomplete := complete_located hsingle hmulti location device
  cases location with
  | none => exact names_of_key hcomplete rfl (hother single (by simp))
  | some location => exact names_of_key hcomplete rfl (hother multi (by simp))

/-- The keys for a slot are not those of a built-in interface. -/
theorem slotKey_notMem (thunderbolt multi : Bool) {medium : String}
    (hmedium : medium ∈ ["ether", "firewire"]) :
    slotKey thunderbolt multi medium ∉ builtinKeys := by
  simp only [List.mem_cons, List.not_mem_nil, or_false] at hmedium
  obtain rfl | rfl := hmedium <;> cases thunderbolt <;> cases multi <;> decide

theorem orGeneric_names (env : Environment) (registry : Registry) (chain : List RegistryEntry)
    (ift : ℤ) (bsdName : Option String) :
    let l := orGeneric bsdName (providerLocalization env registry chain ift bsdName)
    Names l false bsdName ∧ l.key.isSome := by
  intro l
  have hcases := providerLocalization_cases env registry chain ift bsdName
  simp only [l, orGeneric]
  obtain ⟨hkey, h1, h2⟩ | ⟨slot, port, -, hl⟩ | ⟨hkey, h1, h2⟩ := hcases
  · rw [if_pos hkey]
    refine ⟨names_notBuiltin (.device "generic-ether" rfl (by decide) rfl h2) ?_, rfl⟩
    rintro key hkey'
    obtain rfl := Option.some.inj hkey'
    decide
  · have hsome : (providerLocalization env registry chain ift bsdName).key ≠ none := by
      rw [hl]
      exact Option.some_ne_none _
    rw [if_neg hsome, hl]
    refine ⟨names_notBuiltin (complete_slot _ (by decide) slot port bsdName) ?_, rfl⟩
    rintro key hkey'
    obtain rfl := Option.some.inj hkey'
    exact slotKey_notMem _ _ (by decide)
  · have hsome : (providerLocalization env registry chain ift bsdName).key ≠ none := by
      rw [hkey]
      exact Option.some_ne_none _
    rw [if_neg hsome]
    refine ⟨names_notBuiltin (.device "usb-ether" hkey (by decide) h1 h2) ?_, by rw [hkey]; rfl⟩
    rintro key hkey'
    obtain rfl := Option.some.inj (hkey.symm.trans hkey')
    decide

/-- **The name of an Ethernet interface.** -/
theorem etherLocalization_names (env : Environment) (registry : Registry)
    (chain : List RegistryEntry) (ift : ℤ) (kind : EtherKind) (builtin : Bool)
    (location bsdName : Option String) :
    let l := etherLocalization env registry chain ift kind builtin location bsdName
    Names l builtin bsdName ∧ l.key.isSome := by
  intro l
  have hplain : ∀ key, key ∈ plainKeys →
      key ∉ builtinKeys ++ pluggedKeys →
      Names (.keyed key none none) builtin bsdName := fun key hkey hother =>
    names_of_key (.plain key rfl hkey rfl rfl) rfl hother
  have hlocated : ∀ single multi, (locatedKey single multi location).key.isSome := by
    intro single multi
    cases location <;> rfl
  simp only [l, etherLocalization]
  split_ifs with hairPort hthunderbolt hgn hnap hu hwireless hbuiltin
  · exact ⟨hplain "airport" (by decide) (by decide), rfl⟩
  · exact ⟨names_located (by decide) (by decide) location (by decide), hlocated _ _⟩
  · exact ⟨hplain "bluetooth-pan-gn" (by decide) (by decide), rfl⟩
  · exact ⟨hplain "bluetooth-pan-nap" (by decide) (by decide), rfl⟩
  · exact ⟨hplain "bluetooth-pan-u" (by decide) (by decide), rfl⟩
  · exact ⟨names_of_key (.located "wireless" "" rfl (by decide) rfl rfl) rfl (by decide), rfl⟩
  · subst hbuiltin
    have hcomplete : (locatedKey "ether" "multiether" location).Complete bsdName :=
      complete_located (by decide) (by decide) location bsdName
    refine ⟨?_, hlocated _ _⟩
    cases location with
    | none => exact names_builtin hcomplete rfl (by decide)
    | some location => exact names_builtin hcomplete rfl (by decide)
  · rw [Bool.not_eq_true] at hbuiltin
    subst hbuiltin
    exact orGeneric_names env registry chain ift bsdName

end

/-! ## Every interface -/

section

variable (env : Environment) (registry : Registry) (chain : List RegistryEntry)
  (interface controller bus : RegistryEntry) (overrides : Option (List (String × PropertyList)))

theorem processEther_classified :
    Classified (processEther env registry chain interface controller bus overrides) := by
  have hkind := etherKind_cases chain controller bus
  have hnames := etherLocalization_names env registry chain IFT_ETHER
    (etherKind chain controller bus)
    (etherBuiltin chain interface (etherKind chain controller bus))
    (((interface.property "IOLocation").bind copyCFStringValue).filter (· ≠ ""))
    (copyBSDName interface)
  have hbuiltin : (etherKind chain controller bus).interfaceType =
      kSCNetworkInterfaceTypeIEEE80211 →
      etherBuiltin chain interface (etherKind chain controller bus) = true := by
    intro htype
    simp [etherBuiltin, htype]
  refine
    { type := .inl rfl
      interfaceType := ?_
      entityType := rfl
      sortOrder := ?_
      fireWire := ?_
      bond := ?_
      bridge := ?_
      airPort := hbuiltin
      named := fun hnone => ?_
      complete := hnames.1.complete
      builtin := hnames.1.ofBuiltin
      notBuiltin := hnames.1.ofNotBuiltin }
  · show (etherKind chain controller bus).interfaceType =
      if (IFT_ETHER : ℤ) = IFT_IEEE1394 then kSCNetworkInterfaceTypeFireWire
      else if (etherKind chain controller bus).sortOrder = kSortAirPort then
        kSCNetworkInterfaceTypeIEEE80211
      else kSCNetworkInterfaceTypeEthernet
    rw [if_neg (by decide)]
    obtain ⟨hspecial, -⟩ | ⟨hplain, -⟩ := hkind
    · exact hspecial.interfaceType_eq
    · rw [hplain]
      decide
  · show (etherKind chain controller bus).sortOrder = _ ∨ _
    obtain ⟨⟨-, hsort⟩ | ⟨-, hsort⟩, -⟩ | ⟨hplain, -⟩ := hkind
    · exact .inr (.inr (.inl hsort))
    · exact .inr (.inr (.inr hsort))
    · exact .inl (congrArg EtherKind.sortOrder hplain)
  · show (etherKind chain controller bus).sortOrder = _ ↔
      (etherKind chain controller bus).interfaceType = _
    obtain ⟨hspecial, -⟩ | ⟨hplain, -⟩ := hkind
    · refine iff_of_false hspecial.sortOrder_ne.2 ?_
      rw [hspecial.interfaceType_eq]
      split_ifs <;> decide
    · rw [hplain]
      decide
  · show (specialKind chain controller bus).isNone = true ↔
      (etherKind chain controller bus).sortOrder = _
    obtain ⟨hspecial, hsome⟩ | ⟨hplain, hnone⟩ := hkind
    · exact iff_of_false (by simpa [Option.isSome_iff_ne_none] using hsome)
        hspecial.sortOrder_ne.1
    · rw [hplain, hnone]
      exact iff_of_true rfl rfl
  · show decide ((etherKind chain controller bus).interfaceType ≠ _) = true ↔
      (etherKind chain controller bus).interfaceType = _
    obtain ⟨hspecial, -⟩ | ⟨hplain, -⟩ := hkind
    · rw [hspecial.interfaceType_eq]
      split_ifs <;> decide
    · rw [hplain]
      decide
  · exact absurd hnone (Option.isSome_iff_ne_none.mp hnames.2)

theorem processFireWire_classified :
    Classified (processFireWire env registry chain interface controller overrides) := by
  have hnames : Names (fireWireLocalization env registry chain IFT_IEEE1394 (isBuiltin chain))
      (isBuiltin chain) (copyBSDName interface) := by
    rw [fireWireLocalization]
    split_ifs with hbuiltin
    · rw [hbuiltin]
      exact names_builtin (.plain "firewire" rfl (by decide) rfl rfl) rfl (by decide)
    · rw [Bool.not_eq_true] at hbuiltin
      rw [hbuiltin]
      obtain ⟨hkey, -, -⟩ | ⟨slot, port, -, hl⟩ :=
        slotLocalization_cases env registry chain IFT_IEEE1394 "firewire"
      · exact names_notBuiltin (.absent hkey) fun key hkey' => by simp [hkey] at hkey'
      · rw [hl]
        refine names_notBuiltin (complete_slot _ (by decide) slot port _) fun key hkey => ?_
        obtain rfl := Option.some.inj hkey
        exact slotKey_notMem _ _ (by decide)
  exact
    { type := .inr rfl
      interfaceType := rfl
      entityType := rfl
      sortOrder := .inr (.inl rfl)
      fireWire := iff_of_true rfl rfl
      bond := by
        show false = true ↔ kSortFireWire = kSortEthernet
        decide
      bridge := by
        show false = true ↔ kSCNetworkInterfaceTypeFireWire = kSCNetworkInterfaceTypeEthernet
        decide
      airPort := fun h => absurd h (by
        show kSCNetworkInterfaceTypeFireWire ≠ kSCNetworkInterfaceTypeIEEE80211
        decide)
      named := fun _ => rfl
      complete := hnames.complete
      builtin := hnames.ofBuiltin
      notBuiltin := hnames.ofNotBuiltin }

end

/-- **Every interface of the registry** has a type, a place in the order and a name that belong
together. -/
theorem processNetworkInterface_classified (env : Environment) (registry : Registry)
    (chain : List RegistryEntry) (interface controller bus : RegistryEntry)
    (overrides : Option (List (String × PropertyList))) :
    ∀ p ∈ processNetworkInterface env registry chain interface controller bus overrides,
      Classified p := by
  intro p hp
  rw [processNetworkInterface] at hp
  split at hp
  · cases hp
  · split_ifs at hp
    · obtain rfl := Option.some.inj hp
      exact processEther_classified env registry chain interface controller bus overrides
    · obtain rfl := Option.some.inj hp
      exact processFireWire_classified env registry chain interface controller overrides
    · cases hp

/-- A USB adapter, with a product name that is empty. -/
def usbAdapter : List RegistryEntry :=
  [⟨["IONetworkInterface"], fun key =>
      if key = "IOInterfaceType" then some (.integer 6)
      else if key = "BSD Name" then some (.string "en4")
      else if key = "IOBuiltin" then some (.boolean false)
      else if key = "Product Name" then some (.string "")
      else none⟩,
    ⟨["IOEthernetController"], fun _ => none⟩,
    ⟨["IOUSBHostInterface"], fun key =>
      if key = "IOProviderClass" then some (.string "IOUSBHostInterface") else none⟩]

/-- Without a bundle. -/
def noBundle : Environment := ⟨fun _ => none, false⟩

/-- The adapter is called by its BSD name, as the name of its product is empty. -/
theorem processNetworkInterface_classified_usbAdapter :
    ∃ p, processNetworkInterface noBundle (.node ⟨[], fun _ => none⟩ []) usbAdapter
        (usbAdapter.headD ⟨[], fun _ => none⟩) ⟨["IOEthernetController"], fun _ => none⟩
        ⟨["IOUSBHostInterface"], fun _ => none⟩ none = some p ∧
      p.localization.key = some "usb-ether" ∧ p.localization.arg1 = some "en4" ∧ Classified p := by
  refine ⟨_, rfl, by decide, by decide, ?_⟩
  exact processNetworkInterface_classified noBundle (.node ⟨[], fun _ => none⟩ []) usbAdapter
    (usbAdapter.headD ⟨[], fun _ => none⟩) ⟨["IOEthernetController"], fun _ => none⟩
    ⟨["IOUSBHostInterface"], fun _ => none⟩ none _ rfl

end ConfigdExtra.IORegistry
