import ConfigdExtra.HardwareClasses

/-!
# Ports of a slot

A card may have several interfaces in one slot. Each then has a port.

* `PortOf` — an interface of a slot.
* `pciSlotInfo_ports` — the ports are in the order of the BSD names.
* `etherLocalization_slot`, `fireWireLocalization_slot` — a key for a slot comes with its port.
* `createInterface_ports` — the names of two interfaces of a slot.
-/

namespace ConfigdExtra.IORegistry

/-- A network interface in a slot, of a type and with a BSD name. -/
structure PortOf (registry : Registry) (name : SlotName) (ift : ℤ) (bsdName : String)
    (e : RegistryEntry) (parents : List RegistryEntry) : Prop where
  inSlot : ∃ path, InSlot registry path name e parents
  networkInterface : e.conformsTo "IONetworkInterface" = true
  ift : (e.property "IOInterfaceType").bind PropertyList.intValue? = some ift
  bsdName : copyBSDName e = some bsdName

/-- All keys for a slot. -/
def slotKeys : List String :=
  ["pci-ether", "thunderbolt-ether", "pci-firewire", "thunderbolt-firewire"] ++ portKeys

section

variable {registry : Registry} {name : SlotName} {ift : ℤ} {a b : String}
  {e₁ e₂ : RegistryEntry} {parents₁ parents₂ : List RegistryEntry}

theorem PortOf.mem_portNames (h : PortOf registry name ift a e₁ parents₁) :
    a ∈ portNames registry name ift := by
  obtain ⟨path, hslot⟩ := h.inSlot
  refine hslot.mem_portNames h.networkInterface ?_ h.bsdName
  simp [sameType, h.ift]

/-- The slot of one of several interfaces, with its port. -/
theorem PortOf.slotInfo (h : PortOf registry name ift a e₁ parents₁)
    {other : String} (hother : other ∈ portNames registry name ift) (hne : a ≠ other) :
    pciSlotInfo registry (e₁ :: parents₁) ift =
      some (slotText (some name),
        some (toString (((portNames registry name ift).insertionSort (· ≤ ·)).idxOf a + 1))) := by
  obtain ⟨path, hslot⟩ := h.inSlot
  obtain ⟨below, e, above, hchain, -, htext, -⟩ := pciSlot_name hslot.slot
  obtain ⟨n, -, hport, rfl⟩ := pciPort_eq hne h.mem_portNames hother
  have hname : (e₁ :: parents₁).head?.bind copyBSDName = some a := h.bsdName
  simp only [pciSlotInfo, hname, htext, hslot.slot, Option.map_some, Option.bind_some, hport]

/-- **The ports of a slot** are different, and in the order of the BSD names. -/
theorem pciSlotInfo_ports (h₁ : PortOf registry name ift a e₁ parents₁)
    (h₂ : PortOf registry name ift b e₂ parents₂) (hne : a ≠ b) :
    ∃ n₁ n₂, n₁ < (portNames registry name ift).length ∧
      n₂ < (portNames registry name ift).length ∧ (n₁ < n₂ ↔ a < b) ∧ n₁ ≠ n₂ ∧
      pciSlotInfo registry (e₁ :: parents₁) ift =
        some (slotText (some name), some (toString (n₁ + 1))) ∧
      pciSlotInfo registry (e₂ :: parents₂) ift =
        some (slotText (some name), some (toString (n₂ + 1))) := by
  have hsorted := List.pairwise_insertionSort (· ≤ · : String → String → Prop)
    (portNames registry name ift)
  have hmem : ∀ c, c ∈ portNames registry name ift →
      c ∈ (portNames registry name ift).insertionSort (· ≤ ·) := fun c hc =>
    (List.mem_insertionSort _).mpr hc
  have ha := hmem a h₁.mem_portNames
  have hb := hmem b h₂.mem_portNames
  refine ⟨_, _, ?_, ?_, idxOf_lt_idxOf_iff hsorted ha hb, ?_,
    h₁.slotInfo h₂.mem_portNames hne, h₂.slotInfo h₁.mem_portNames hne.symm⟩
  · have hlt := List.idxOf_lt_length_of_mem ha
    rwa [List.length_insertionSort] at hlt
  · have hlt := List.idxOf_lt_length_of_mem hb
    rwa [List.length_insertionSort] at hlt
  · exact fun h => hne ((List.idxOf_inj ha).mp h)

end

/-! ## Keys of a slot -/

section

variable (env : Environment) (registry : Registry) (chain : List RegistryEntry)

/-- Where there are ports, a slot is given with its port. -/
theorem keyed_port {l : Localization} {ift : ℤ} {slot port medium : String}
    (hmedium : medium ∈ ["ether", "firewire"])
    (hinfo : pciSlotInfo registry chain ift = some (slot, some port))
    (hl : ∃ slot' port', pciSlotInfo registry chain ift = some (slot', port') ∧
      l = .keyed (slotKey (isThunderbolt chain) port'.isSome medium) (some slot') port') :
    (∃ key ∈ portKeys, l.key = some key) ∧ l.arg1 = some slot ∧ l.arg2 = some port := by
  obtain ⟨slot', port', hinfo', rfl⟩ := hl
  obtain ⟨rfl, rfl⟩ := Prod.mk.inj (Option.some.inj (hinfo'.symm.trans hinfo))
  exact ⟨⟨_, (slotKey_mem _ hmedium).2, rfl⟩, rfl, rfl⟩

/-- An Ethernet interface with a key for a slot has its port. -/
theorem etherLocalization_slot {ift : ℤ} {kind : EtherKind} {builtin : Bool}
    {location bsdName : Option String} {key slot port : String}
    (hkey : (etherLocalization env registry chain ift kind builtin location bsdName).key = some key)
    (hmem : key ∈ slotKeys) (hinfo : pciSlotInfo registry chain ift = some (slot, some port)) :
    let l := etherLocalization env registry chain ift kind builtin location bsdName
    (∃ key ∈ portKeys, l.key = some key) ∧ l.arg1 = some slot ∧ l.arg2 = some port := by
  intro l
  have hnot : ∀ other, other ∉ slotKeys → some other ≠ some key := by
    rintro other hother h
    obtain rfl := Option.some.inj h
    exact hother hmem
  have hlocated : ∀ single multi : String, single ∉ slotKeys → multi ∉ slotKeys →
      (locatedKey single multi location).key ≠ some key := by
    intro single multi hsingle hmulti
    cases location with
    | none => exact hnot single hsingle
    | some _ => exact hnot multi hmulti
  revert hkey
  simp only [l, etherLocalization]
  split_ifs with hairPort hthunderbolt hgn hnap hu hwireless hbuiltin
  · exact fun h => absurd h (hnot "airport" (by decide))
  · exact fun h => absurd h (hlocated _ _ (by decide) (by decide))
  · exact fun h => absurd h (hnot "bluetooth-pan-gn" (by decide))
  · exact fun h => absurd h (hnot "bluetooth-pan-nap" (by decide))
  · exact fun h => absurd h (hnot "bluetooth-pan-u" (by decide))
  · exact fun h => absurd h (hnot "wireless" (by decide))
  · exact fun h => absurd h (hlocated _ _ (by decide) (by decide))
  · -- the key is by the provider
    intro h
    have hcases := providerLocalization_cases env registry chain ift bsdName
    rw [orGeneric] at h ⊢
    obtain ⟨hnone, -, -⟩ | hslot | ⟨husb, -, -⟩ := hcases
    · rw [if_pos hnone] at h
      exact absurd h (hnot "generic-ether" (by decide))
    · have hsome : (providerLocalization env registry chain ift bsdName).key ≠ none := by
        obtain ⟨_, _, -, hl⟩ := hslot
        rw [hl]
        exact Option.some_ne_none _
      rw [if_neg hsome]
      exact keyed_port registry chain (by decide) hinfo hslot
    · have hsome : (providerLocalization env registry chain ift bsdName).key ≠ none := by
        rw [husb]
        exact Option.some_ne_none _
      rw [if_neg hsome, husb] at h
      exact absurd h (hnot "usb-ether" (by decide))

/-- A FireWire interface with a key for a slot has its port. -/
theorem fireWireLocalization_slot {ift : ℤ} {builtin : Bool} {key slot port : String}
    (hkey : (fireWireLocalization env registry chain ift builtin).key = some key)
    (hmem : key ∈ slotKeys) (hinfo : pciSlotInfo registry chain ift = some (slot, some port)) :
    let l := fireWireLocalization env registry chain ift builtin
    (∃ key ∈ portKeys, l.key = some key) ∧ l.arg1 = some slot ∧ l.arg2 = some port := by
  intro l
  revert hkey
  simp only [l, fireWireLocalization]
  split_ifs with hbuiltin
  · intro h
    obtain rfl := Option.some.inj h
    exact absurd hmem (by decide)
  · intro h
    obtain ⟨hnone, -, -⟩ | hslot := slotLocalization_cases env registry chain ift "firewire"
    · exact absurd (hnone.symm.trans h) (Option.some_ne_none _).symm
    · exact keyed_port registry chain (by decide) hinfo hslot

/-- An interface with a key for a slot has its port. -/
theorem processNetworkInterface_slot {interface controller bus : RegistryEntry}
    {overrides : Option (List (String × PropertyList))} {p : ProcessedInterface} {ift : ℤ}
    {key slot port : String}
    (hift : (interface.property "IOInterfaceType").bind PropertyList.intValue? = some ift)
    (hp : processNetworkInterface env registry chain interface controller bus overrides = some p)
    (hkey : p.localization.key = some key) (hmem : key ∈ slotKeys)
    (hinfo : pciSlotInfo registry chain ift = some (slot, some port)) :
    (∃ key ∈ portKeys, p.localization.key = some key) ∧ p.localization.arg1 = some slot ∧
      p.localization.arg2 = some port := by
  simp only [processNetworkInterface, hift] at hp
  split_ifs at hp with hether hfireWire
  · obtain rfl := Option.some.inj hp
    subst hether
    exact etherLocalization_slot env registry chain hkey hmem hinfo
  · obtain rfl := Option.some.inj hp
    subst hfireWire
    exact fireWireLocalization_slot env registry chain hkey hmem hinfo

/-- What is created for an interface has the name that was found. -/
theorem createInterface_processed {S : Type} {interface : RegistryEntry} {path : Option String}
    {entryID : UInt64} {hiddenKey : String} {keepHidden : Bool}
    {f : InterfaceCopy.InterfaceFields (List (String × PropertyList)) S}
    (hchain : chain.head? = some interface)
    (h : createInterface env registry chain path entryID hiddenKey keepHidden = some f) :
    ∃ controller bus overrides p,
      processNetworkInterface env registry chain interface controller bus overrides = some p ∧
      f.localizedKey = p.localization.key ∧ f.localizedArg1 = p.localization.arg1 ∧
      f.localizedArg2 = p.localization.arg2 := by
  unfold createInterface at h
  dsimp only at h
  split_ifs at h
  split at h
  · obtain ⟨p, hp, rfl⟩ := Option.map_eq_some_iff.mp h
    obtain rfl := Option.some.inj hchain
    exact ⟨_, _, _, p, hp, rfl, rfl, rfl⟩
  · cases h

end

/-- **Two interfaces of a slot** that have keys for it: each key is one with a port, the slot is the
same, and the ports are in the order of the BSD names. -/
theorem createInterface_ports {S : Type} (env : Environment) (registry : Registry)
    {name : SlotName} {ift : ℤ} {a b : String} {e₁ e₂ : RegistryEntry}
    {parents₁ parents₂ : List RegistryEntry} (h₁ : PortOf registry name ift a e₁ parents₁)
    (h₂ : PortOf registry name ift b e₂ parents₂) (hne : a ≠ b)
    {path₁ path₂ : Option String} {entryID₁ entryID₂ : UInt64} {hiddenKey : String}
    {keepHidden₁ keepHidden₂ : Bool}
    {f₁ f₂ : InterfaceCopy.InterfaceFields (List (String × PropertyList)) S}
    (hf₁ : createInterface env registry (e₁ :: parents₁) path₁ entryID₁ hiddenKey keepHidden₁ =
      some f₁)
    (hf₂ : createInterface env registry (e₂ :: parents₂) path₂ entryID₂ hiddenKey keepHidden₂ =
      some f₂)
    (hkey₁ : ∃ key ∈ slotKeys, f₁.localizedKey = some key)
    (hkey₂ : ∃ key ∈ slotKeys, f₂.localizedKey = some key) :
    (∃ key ∈ portKeys, f₁.localizedKey = some key) ∧
      (∃ key ∈ portKeys, f₂.localizedKey = some key) ∧
      f₁.localizedArg1 = some (slotText (some name)) ∧
      f₂.localizedArg1 = some (slotText (some name)) ∧
      f₁.localizedArg2 ≠ f₂.localizedArg2 ∧
      ∃ n₁ n₂, f₁.localizedArg2 = some (toString (n₁ + 1)) ∧
        f₂.localizedArg2 = some (toString (n₂ + 1)) ∧
        n₁ < (portNames registry name ift).length ∧ n₂ < (portNames registry name ift).length ∧
        (n₁ < n₂ ↔ a < b) := by
  obtain ⟨n₁, n₂, hlt₁, hlt₂, horder, hports, hinfo₁, hinfo₂⟩ := pciSlotInfo_ports h₁ h₂ hne
  obtain ⟨controller₁, bus₁, overrides₁, p₁, hp₁, hk₁, h11, h12⟩ :=
    createInterface_processed env registry (e₁ :: parents₁) rfl hf₁
  obtain ⟨controller₂, bus₂, overrides₂, p₂, hp₂, hk₂, h21, h22⟩ :=
    createInterface_processed env registry (e₂ :: parents₂) rfl hf₂
  obtain ⟨key₁, hmem₁, hkey₁⟩ := hkey₁
  obtain ⟨key₂, hmem₂, hkey₂⟩ := hkey₂
  obtain ⟨hport₁, hslot₁, harg₁⟩ := processNetworkInterface_slot env registry _ h₁.ift hp₁
    (hk₁.symm.trans hkey₁) hmem₁ hinfo₁
  obtain ⟨hport₂, hslot₂, harg₂⟩ := processNetworkInterface_slot env registry _ h₂.ift hp₂
    (hk₂.symm.trans hkey₂) hmem₂ hinfo₂
  rw [← hk₁] at hport₁
  rw [← hk₂] at hport₂
  refine ⟨hport₁, hport₂, h11.trans hslot₁, h21.trans hslot₂, ?_, n₁, n₂, h12.trans harg₁,
    h22.trans harg₂, hlt₁, hlt₂, horder⟩
  rw [h12, h22, harg₁, harg₂]
  intro h
  have hrepr : Nat.repr (n₁ + 1) = Nat.repr (n₂ + 1) := Option.some.inj h
  exact hports (Nat.succ_injective (Nat.repr_injective hrepr))

/-! ## A card with two ports -/

/-- An interface of the card. -/
def cardInterface (bsdName : String) : RegistryEntry :=
  ⟨["IONetworkInterface"], fun key =>
    if key = "IOInterfaceType" then some (.integer 6)
    else if key = "BSD Name" then some (.string bsdName)
    else none⟩

/-- A controller of the card. -/
def cardController : RegistryEntry :=
  ⟨["IOEthernetController"], fun key =>
    if key = "IOProviderClass" then some (.string "IOPCIDevice") else none⟩

/-- The card. -/
def card : RegistryEntry :=
  ⟨["IOPCIDevice"], fun key =>
    if key = slotNameKey then some (.string "Slot-2") else none⟩

/-- Where the card is. -/
def cardRoot : RegistryEntry := ⟨["IORegistryEntry"], fun _ => none⟩

/-- A registry with the card, whose second port is found first. -/
def cardRegistry : Registry :=
  .node cardRoot [.node card [.node cardController [.node (cardInterface "en6") []],
    .node cardController [.node (cardInterface "en5") []]]]

/-- What is above an interface of the card. -/
def cardParents : List RegistryEntry := [cardController, card, cardRoot]

theorem portOf_card (bsdName : String) (i : ℕ)
    (h : cardRegistry.chain [0, i, 0] = some (cardInterface bsdName :: cardParents)) :
    PortOf cardRegistry (.string "Slot-2") 6 bsdName (cardInterface bsdName) cardParents where
  inSlot := ⟨[0, i, 0], ⟨h, rfl, rfl, by decide⟩⟩
  networkInterface := rfl
  ift := rfl
  bsdName := rfl

theorem createInterface_ports_card :
    ∃ f₁ f₂ : InterfaceCopy.InterfaceFields (List (String × PropertyList)) Unit,
      f₁.localizedArg1 = some "2" ∧ f₁.localizedArg2 = some "1" ∧ f₂.localizedArg2 = some "2" ∧
        f₁.localizedArg2 ≠ f₂.localizedArg2 := by
  have hf₁ : createInterface (S := Unit) noBundle cardRegistry (cardInterface "en5" :: cardParents)
      none 1 "HiddenInterface" false = some _ := rfl
  have hf₂ : createInterface (S := Unit) noBundle cardRegistry (cardInterface "en6" :: cardParents)
      none 2 "HiddenInterface" false = some _ := rfl
  have h := createInterface_ports noBundle cardRegistry (portOf_card "en5" 1 rfl)
    (portOf_card "en6" 0 rfl) (by decide) hf₁ hf₂
    ⟨"pci-multiether", by decide, by decide⟩ ⟨"pci-multiether", by decide, by decide⟩
  exact ⟨_, _, by decide, by decide, by decide, h.2.2.2.2.1⟩

end ConfigdExtra.IORegistry
