import ConfigdExtra.EntryTrees
import ConfigdExtra.PropertyLists

/-!
# Interfaces in the registry

What is asked about the hardware of an interface: its BSD name, the slot that it is in, and its
port among those of the slot.

* `RegistryEntry` — an entry, with its classes and its properties. What is above it is in a chain.
* `searchProperty` — the nearest entry of a chain with a property.
* `copyBSDName` — `IODictionaryCopyBSDName`.
* `pciSlot`, `pciPort`, `pciSlotInfo` — the functions of these names.
* `InSlot.mem_portNames` — an interface in a slot is found from the slot.
-/

namespace ConfigdExtra.IORegistry

/-! ## Entries -/

/-- `io_registry_entry_t` -/
structure RegistryEntry where
  /-- the classes that it conforms to -/
  classes : List String
  /-- `IORegistryEntryCreateCFProperty` -/
  property : String → Option PropertyList

/-- `IOObjectConformsTo` -/
def RegistryEntry.conformsTo (e : RegistryEntry) (name : String) : Bool := decide (name ∈ e.classes)

/-- The registry. -/
abbrev Registry : Type := EntryTree RegistryEntry

/-- `IORegistryEntrySearchCFProperty`, in an entry and those above it. -/
def searchProperty (chain : List RegistryEntry) (key : String) : Option PropertyList :=
  chain.findSome? fun e => e.property key

/-- The bytes of a C string. -/
def cBytes (bytes : List UInt8) : List UInt8 := bytes.takeWhile (· ≠ 0)

/-- `CFStringCreateWithCString`, of UTF-8 -/
def cString? (bytes : List UInt8) : Option String :=
  String.fromUTF8? ⟨(cBytes bytes).toArray⟩

/-- `IOCopyCFStringValue` -/
def copyCFStringValue : PropertyList → Option String
  | .string s => some s
  | .data bytes => cString? bytes
  | _ => none

/-- The name of an interface by its prefix and its unit. -/
def prefixedName (namePrefix unit : Option PropertyList) : Option String :=
  match namePrefix, unit with
  | some (.string p), some (.integer n) => some (p ++ toString n)
  | _, _ => none

/-- `IODictionaryCopyBSDName` -/
def copyBSDName (e : RegistryEntry) : Option String :=
  match e.property "BSD Name" with
  | some v => copyCFStringValue v
  | none => prefixedName (e.property "IOInterfaceNamePrefix") (e.property "IOInterfaceUnit")

/-! ## Slots -/

/-- The name of a slot, as it is in the registry. -/
inductive SlotName
  | string (s : String)
  | data (bytes : List UInt8)
deriving DecidableEq

/-- A string or data -/
def slotName? : PropertyList → Option SlotName
  | .string s => some (.string s)
  | .data bytes => some (.data bytes)
  | _ => none

/-- What is appended to an empty string for a slot. -/
def SlotName.text : SlotName → String
  | .string s => s
  | .data bytes => (cString? bytes).getD ""

/-- `slot_prefixes` -/
def slotPrefixes : List String := ["thunderbolt slot ", "pci slot ", "slot-"]

/-- `CFStringFindAndReplace` with nothing, at the start and regardless of the case, if there is
more than the prefix. -/
def stripPrefix (s slotPrefix : List Char) : List Char :=
  if slotPrefix.length < s.length ∧ (s.take slotPrefix.length).map Char.toLower = slotPrefix then
    s.drop slotPrefix.length
  else s

/-- The white space and the newlines of `CFStringTrimWhitespace` -/
def isWhitespace (c : Char) : Bool :=
  let n := c.toNat
  (9 ≤ n && n ≤ 13) || n == 0x20 || n == 0x85 || n == 0xA0 || n == 0x1680 ||
    (0x2000 ≤ n && n ≤ 0x200B) || n == 0x2028 || n == 0x2029 || n == 0x202F || n == 0x205F ||
    n == 0x3000

/-- `CFStringTrimWhitespace` -/
def trimWhitespace (s : List Char) : List Char :=
  ((s.dropWhile isWhitespace).reverse.dropWhile isWhitespace).reverse

/-- The slot that is shown for a name. -/
def slotText (name : Option SlotName) : String :=
  let slot := slotPrefixes.foldl (fun s slotPrefix => stripPrefix s slotPrefix.toList)
    ((name.map SlotName.text).getD "").toList
  String.ofList (trimWhitespace slot)

/-- `AAPL,slot-name` -/
def slotNameKey : String := "AAPL,slot-name"

/-- `pci_slot`, with the slot and `pci_slot_name`: that of the uppermost entry with one. -/
def pciSlot : List RegistryEntry → Option String × Option SlotName
  | [] => (none, none)
  | e :: parents =>
    let (parentSlot, parentName) := pciSlot parents
    match parentSlot with
    | some _ => (parentSlot, parentName)
    | none =>
      match e.property slotNameKey with
      | some slotName => (some (slotText (slotName? slotName)), slotName? slotName)
      | none => (none, none)

/-- `isBuiltin` -/
def isBuiltin (chain : List RegistryEntry) : Bool := (pciSlot chain).1.isNone

/-! ## Ports -/

/-- The type of an interface matches, or is not known. -/
def sameType (ift : ℤ) (e : RegistryEntry) : Bool :=
  match (e.property "IOInterfaceType").bind PropertyList.intValue? with
  | some childIft => ift = childIft
  | none => true

/-- What is found by a name of a slot. -/
def isSlot (name : SlotName) (e : RegistryEntry) : Bool :=
  e.conformsTo "IOPCIDevice" && decide ((e.property slotNameKey).bind slotName? = some name)

/-- The names of the interfaces that are found below the slots with a name. -/
def portNames (registry : Registry) (name : SlotName) (ift : ℤ) : List String :=
  (registry.subtrees.filter fun t => isSlot name t.value).flatMap fun slot =>
    (slot.descendants.filter fun e => e.conformsTo "IONetworkInterface" && sameType ift e).filterMap
      copyBSDName

/-- `pci_port` -/
def pciPort (registry : Registry) (name : SlotName) (ift : ℤ) (bsdName : String) : Option String :=
  let names := portNames registry name ift
  if 1 < names.length then
    let sorted := names.insertionSort (· ≤ ·)
    if bsdName ∈ sorted then some (toString (sorted.idxOf bsdName + 1)) else none
  else none

/-- `pci_slot_info`: the slot and the port, if there is a slot. -/
def pciSlotInfo (registry : Registry) (chain : List RegistryEntry) (ift : ℤ) :
    Option (String × Option String) :=
  match chain.head?.bind copyBSDName with
  | none => none
  | some bsdName =>
    let (slot, name) := pciSlot chain
    slot.map fun slot => (slot, name.bind fun name => pciPort registry name ift bsdName)

/-- `isThunderbolt` -/
def isThunderbolt (chain : List RegistryEntry) : Bool :=
  (searchProperty chain "PCI-Thunderbolt").isSome

/-! ## The slot of an interface -/

/-- An interface is in a slot: it has no name of a slot itself, but an entry above it does, and such
entries are PCI devices. -/
structure InSlot (registry : Registry) (path : List ℕ) (name : SlotName) (e : RegistryEntry)
    (parents : List RegistryEntry) : Prop where
  found : registry.chain path = some (e :: parents)
  slot : (pciSlot (e :: parents)).2 = some name
  notItself : e.property slotNameKey = none
  device : ∀ e' ∈ parents, (e'.property slotNameKey).isSome → e'.conformsTo "IOPCIDevice"

theorem pciSlot_none {chain : List RegistryEntry} (h : (pciSlot chain).1 = none) :
    ∀ e ∈ chain, e.property slotNameKey = none := by
  induction chain with
  | nil => simp
  | cons e parents ih =>
    rw [pciSlot] at h
    rcases hparent : pciSlot parents with ⟨_ | slot, name⟩
    · rw [hparent] at h
      rw [List.forall_mem_cons]
      refine ⟨?_, ih (by rw [hparent])⟩
      cases he : e.property slotNameKey with
      | none => rfl
      | some v =>
        rw [he] at h
        cases h
    · rw [hparent] at h
      cases h

/-- **The slot** is the one of the uppermost entry that has a name. -/
theorem pciSlot_name {chain : List RegistryEntry} {name : SlotName}
    (h : (pciSlot chain).2 = some name) :
    ∃ below e above, chain = below ++ e :: above ∧
      (e.property slotNameKey).bind slotName? = some name ∧
      (pciSlot chain).1 = some (slotText (some name)) ∧
      ∀ e' ∈ above, e'.property slotNameKey = none := by
  induction chain with
  | nil => cases h
  | cons e parents ih =>
    rw [pciSlot] at h ⊢
    rcases hparent : pciSlot parents with ⟨_ | slot, parentName⟩
    · rw [hparent] at h
      cases he : e.property slotNameKey with
      | none =>
        rw [he] at h
        cases h
      | some v =>
        rw [he] at h
        have hv : slotName? v = some name := h
        refine ⟨[], e, parents, rfl, ?_, ?_, pciSlot_none (by rw [hparent])⟩
        · rw [he, Option.bind_some, hv]
        · simp [hv]
    · rw [hparent] at h
      have hname : (pciSlot parents).2 = some name := by
        rw [hparent]
        exact h
      obtain ⟨below, e', above, rfl, hslot, htext, habove⟩ := ih hname
      refine ⟨e :: below, e', above, rfl, hslot, ?_, habove⟩
      rw [hparent] at htext
      exact htext

/-- An interface is among those that are found below its slot. -/
theorem InSlot.mem_portNames {registry : Registry} {path : List ℕ} {name : SlotName}
    {e : RegistryEntry} {parents : List RegistryEntry} (h : InSlot registry path name e parents)
    (hclass : e.conformsTo "IONetworkInterface" = true) {ift : ℤ} (htype : sameType ift e = true)
    {bsdName : String} (hname : copyBSDName e = some bsdName) :
    bsdName ∈ portNames registry name ift := by
  obtain ⟨below, slot, above, hchain, hslot, -, -⟩ := pciSlot_name h.slot
  obtain _ | ⟨e', below⟩ := below
  · -- the interface is not the slot
    obtain ⟨rfl, -⟩ := List.cons.inj hchain
    rw [h.notItself] at hslot
    cases hslot
  · obtain ⟨rfl, hparents⟩ := List.cons.inj hchain
    have hpath := h.found
    rw [hchain] at hpath
    obtain ⟨t, ht, rfl, hmem⟩ := EntryTree.subtree_of_chain hpath
    have hdevice : t.value.conformsTo "IOPCIDevice" = true := by
      have habove : t.value ∈ parents := by
        rw [hparents]
        exact List.mem_append_right below List.mem_cons_self
      refine h.device t.value habove ?_
      obtain ⟨v, hv, -⟩ := Option.bind_eq_some_iff.mp hslot
      rw [hv]
      rfl
    rw [portNames, List.mem_flatMap]
    refine ⟨t, List.mem_filter.mpr ⟨ht, ?_⟩, List.mem_filterMap.mpr ⟨e, ?_, hname⟩⟩
    · simp [isSlot, hdevice, hslot]
    · rw [List.mem_filter]
      exact ⟨hmem, by simp [hclass, htype]⟩

/-! ## The order of ports -/

/-- In a sorted list, the first index of a smaller element is smaller. -/
theorem idxOf_lt_idxOf_iff {names : List String} (hsorted : names.Pairwise (· ≤ ·)) {a b : String}
    (ha : a ∈ names) (hb : b ∈ names) : names.idxOf a < names.idxOf b ↔ a < b := by
  have hlt : ∀ {a b : String}, a ∈ names → b ∈ names → a < b → names.idxOf a < names.idxOf b := by
    intro a b ha hb hab
    by_contra hle
    rw [not_lt] at hle
    have hne : names.idxOf b ≠ names.idxOf a := fun h => hab.ne ((List.idxOf_inj hb).mp h).symm
    have hindex := List.pairwise_iff_getElem.mp hsorted (names.idxOf b) (names.idxOf a)
      (List.idxOf_lt_length_of_mem hb) (List.idxOf_lt_length_of_mem ha) (lt_of_le_of_ne hle hne)
    rw [List.getElem_idxOf, List.getElem_idxOf] at hindex
    exact absurd hab (not_lt.mpr hindex)
  refine ⟨fun h => ?_, hlt ha hb⟩
  obtain hab | rfl | hba := lt_trichotomy a b
  · exact hab
  · exact absurd h (lt_irrefl _)
  · exact absurd h (not_lt.mpr (hlt hb ha hba).le)

/-- A port: the names before it in the order of names, and one more. -/
theorem pciPort_eq {registry : Registry} {name : SlotName} {ift : ℤ} {a b : String} (hne : a ≠ b)
    (ha : a ∈ portNames registry name ift) (hb : b ∈ portNames registry name ift) :
    ∃ n < (portNames registry name ift).length,
      pciPort registry name ift a = some (toString (n + 1)) ∧
        n = ((portNames registry name ift).insertionSort (· ≤ ·)).idxOf a := by
  have hlength : 1 < (portNames registry name ift).length := by
    by_contra hle
    match hnames : portNames registry name ift with
    | [] => simp [hnames] at ha
    | [c] =>
      rw [hnames, List.mem_singleton] at ha hb
      exact hne (ha.trans hb.symm)
    | _ :: _ :: _ => simp [hnames] at hle
  have hmem : a ∈ (portNames registry name ift).insertionSort (· ≤ ·) := by
    rwa [List.mem_insertionSort]
  refine ⟨_, ?_, ?_, rfl⟩
  · have hlt := List.idxOf_lt_length_of_mem hmem
    rwa [List.length_insertionSort] at hlt
  · rw [pciPort, if_pos hlength, if_pos hmem]

end ConfigdExtra.IORegistry
