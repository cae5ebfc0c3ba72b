import ConfigdExtra.DeferredEdits
import ConfigdExtra.HardwareClasses
import ConfigdExtra.InterfaceStorage

/-!
# The stored interfaces

The interfaces of the system are stored as a list, and found again by their BSD names: in the list,
or in a mapping that is made of what was read from it.

* `copyStored`, `saveStored`, `createUsingBSDName`, `createMappingUsingBSDName` — the functions of
  these names.
* `lookup_mapping` — the mapping has the first interface of each name.
* `createUsingBSDName_eq_mapping_iff` — when both ways of finding an interface agree.
* `saveStored_reads` — what was saved is read, and found by name.
* `MadeHere`, `MadeHere.reads`, `copyStored_made` — the interfaces that are made of entries of the
  registry, or read from the list, are so.
-/

namespace ConfigdExtra

open DeferredEdits
open InterfaceCopy (InterfaceFields)

/-! ## Functions -/

/-- What is stored for `INTERFACES`: nothing that is an array, or an array, with `none` for what is
not a dictionary. -/
abbrev StoredList : Type := Option (List (Option StorageEntity))

/-- `__SCNetworkInterfaceCopyStoredWithPreferences` -/
def copyStored (sys : SystemInterfaces) (ifList : StoredList) : Option (List SCNetworkInterface) :=
  ifList.map fun dicts =>
    dicts.filterMap fun dict => dict.bind (createWithStorageEntity sys)

/-- `__SCNetworkInterfaceSaveStoredWithPreferences` of an array, or of something else. -/
def saveStored (ifList interfacesToSave : StoredList) (ok : Bool) : Bool × StoredList :=
  match interfacesToSave with
  | none => (false, ifList)
  | some _ => if ok then (true, interfacesToSave) else (false, ifList)

/-- The loop over the array. -/
def findStored (sys : SystemInterfaces) (bsdName : String) :
    List (Option StorageEntity) → Option SCNetworkInterface
  | [] => none
  | none :: dicts => findStored sys bsdName dicts
  | some dict :: dicts =>
    match dict.bsdName with
    | none => findStored sys bsdName dicts
    | some tmpBSDName =>
      if bsdName = tmpBSDName then createWithStorageEntity sys dict
      else findStored sys bsdName dicts

/-- `__SCNetworkInterfaceCreateWithNIPreferencesUsingBSDName` -/
def createUsingBSDName (sys : SystemInterfaces) (ifList : StoredList) (bsdName : String) :
    Option SCNetworkInterface :=
  ifList.bind (findStored sys bsdName)

/-- `CFDictionaryAddValue`, for interfaces with a BSD name -/
def addMapping (get : InterfaceGetters) (mapping : Record String SCNetworkInterface)
    (interface : SCNetworkInterface) : Record String SCNetworkInterface :=
  match get.getBSDName interface with
  | none => mapping
  | some bsdName => if bsdName ∈ mapping then mapping else mapping.insert bsdName interface

/-- `__SCNetworkInterfaceCreateMappingUsingBSDName` -/
def createMappingUsingBSDName (get : InterfaceGetters) (interfaces : List SCNetworkInterface) :
    Option (Record String SCNetworkInterface) :=
  let mapping := interfaces.foldl (addMapping get) ∅
  if mapping.keys.card = 0 then none else some mapping

/-- What is found in the mapping that is made of the stored interfaces. -/
def findMapped (sys : SystemInterfaces) (get : InterfaceGetters) (ifList : StoredList)
    (bsdName : String) : Option SCNetworkInterface :=
  ((copyStored sys ifList).bind (createMappingUsingBSDName get)).bind fun mapping =>
    mapping.lookup bsdName

/-! ## The mapping -/

section

variable {sys : SystemInterfaces} {get : InterfaceGetters}

theorem lookup_addMapping (mapping : Record String SCNetworkInterface)
    (interface : SCNetworkInterface) (bsdName : String) :
    (addMapping get mapping interface).lookup bsdName =
      (mapping.lookup bsdName).or
        (if get.getBSDName interface = some bsdName then some interface else none) := by
  rw [addMapping]
  cases hname : get.getBSDName interface with
  | none => simp
  | some name =>
    dsimp only
    split_ifs with hmem heq heq
    · -- there is one with the name
      obtain rfl := Option.some.inj heq
      obtain ⟨i, hi⟩ := Finmap.mem_iff.mp hmem
      rw [hi, Option.some_or]
    · rw [Option.or_none]
    · obtain rfl := Option.some.inj heq
      rw [Finmap.lookup_insert, Finmap.lookup_eq_none.mpr hmem, Option.none_or]
    · have hne : bsdName ≠ name := fun h => heq (h ▸ rfl)
      rw [Finmap.lookup_insert_of_ne _ hne, Option.or_none]

theorem lookup_foldl_addMapping (interfaces : List SCNetworkInterface)
    (mapping : Record String SCNetworkInterface) (bsdName : String) :
    (interfaces.foldl (addMapping get) mapping).lookup bsdName =
      (mapping.lookup bsdName).or
        (interfaces.find? fun i => get.getBSDName i = some bsdName) := by
  induction interfaces generalizing mapping with
  | nil => simp
  | cons i interfaces ih =>
    rw [List.foldl_cons, ih, lookup_addMapping, List.find?_cons, Option.or_assoc]
    by_cases hname : get.getBSDName i = some bsdName <;> simp [hname]

/-- **The mapping** has the first interface of each name. -/
theorem lookup_mapping (interfaces : List SCNetworkInterface) (bsdName : String) :
    ((createMappingUsingBSDName get interfaces).bind fun mapping => mapping.lookup bsdName) =
      interfaces.find? fun i => get.getBSDName i = some bsdName := by
  have hlookup : (interfaces.foldl (addMapping get) ∅).lookup bsdName =
      interfaces.find? fun i => get.getBSDName i = some bsdName := by
    rw [lookup_foldl_addMapping, Finmap.lookup_empty, Option.none_or]
  rw [createMappingUsingBSDName, ← hlookup]
  split_ifs with hcard
  · symm
    rw [Option.bind_none, Finmap.lookup_eq_none, ← Finmap.mem_keys, Finset.card_eq_zero.mp hcard]
    exact Finset.notMem_empty bsdName
  · rfl

/-! ## Both ways -/

/-- The stored dictionaries with a name. -/
def named (dicts : List (Option StorageEntity)) (bsdName : String) : List StorageEntity :=
  dicts.reduceOption.filter fun dict => dict.bsdName = some bsdName

/-- A dictionary of an interface of the hardware: its type is Ethernet, or FireWire. -/
def StorageEntity.Hardware (dict : StorageEntity) : Prop :=
  ∃ t, dict.ioInterfaceType = some t ∧ (intValue t = IFT_ETHER ∨ intValue t = IFT_IEEE1394)

/-- Such an interface is called as its dictionary says. -/
theorem entityDevice_of_hardware {dict : StorageEntity} (hdict : dict.Hardware)
    {i : SCNetworkInterface} (h : createWithStorageEntity sys dict = some i) :
    i.info.entityDevice = dict.bsdName := by
  obtain ⟨t, ht, htype⟩ := hdict
  simp only [createWithStorageEntity, ht, Option.bind_eq_bind, Option.bind_eq_some_iff,
    Option.pure_def, Option.some.injEq] at h
  obtain ⟨bsdName, hname, builtin, -, _, rfl, unit, -, mac, -, path, -, info, -, type, -, x, hx,
    rfl⟩ := h
  have hstored : storedEntityType t type = "Ethernet" ∨ storedEntityType t type = "FireWire" := by
    rw [storedEntityType]
    obtain hether | hfireWire := htype
    · exact .inl (if_pos hether)
    · have hne : intValue t ≠ IFT_ETHER := by
        rw [hfireWire]
        decide
      rw [if_neg hne, if_pos hfireWire]
      exact .inr rfl
  have hppp : ¬ (storedEntityType t type = "PPP" ∨ storedEntityType t type = "VPN") := by
    obtain h | h := hstored <;> rw [h] <;> decide
  rw [createWithEntity_external hppp rfl rfl] at hx
  obtain ⟨y, hy, hyx⟩ := Option.map_eq_some_iff.mp hx
  have hdevice : y.info.entityDevice = some bsdName := by
    obtain h | h := hstored <;> rw [h] at hy
    · rw [createAbsent] at hy
      simp only [Search.useSystemInterfaces, Search.virtualPrefs, Option.bind_none,
        Bool.false_eq_true, if_false, if_true] at hy
      split_ifs at hy <;> obtain rfl := Option.some.inj hy <;> rfl
    · obtain rfl := Option.some.inj hy
      rfl
  rw [hname]
  cases y
  cases hyx
  exact hdevice

/-- In the list, the first dictionary with the name counts. -/
theorem findStored_eq (dicts : List (Option StorageEntity)) (bsdName : String) :
    findStored sys bsdName dicts =
      (named dicts bsdName).head?.bind (createWithStorageEntity sys) := by
  induction dicts with
  | nil => rfl
  | cons dict dicts ih =>
    cases dict with
    | none => exact ih
    | some dict =>
      rw [findStored, named, List.reduceOption_cons_of_some, List.filter_cons]
      cases hname : dict.bsdName with
      | none =>
        simp only [reduceCtorEq, decide_false, Bool.false_eq_true, if_false]
        exact ih
      | some name =>
        by_cases heq : bsdName = name
        · simp [heq]
        · have hne : name ≠ bsdName := fun h => heq h.symm
          simp only [if_neg heq, Option.some.injEq, hne, decide_false, Bool.false_eq_true, if_false]
          exact ih

/-- In the mapping, the first dictionary counts that an interface can be made of. -/
theorem findMapped_eq (hget : get.Faithful) {dicts : List (Option StorageEntity)}
    (hhardware : ∀ dict ∈ dicts.reduceOption, dict.Hardware) (bsdName : String) :
    findMapped sys get (some dicts) bsdName =
      (named dicts bsdName).findSome? (createWithStorageEntity sys) := by
  rw [findMapped, copyStored, Option.map_some, Option.bind_some, lookup_mapping]
  induction dicts with
  | nil => rfl
  | cons dict dicts ih =>
    cases dict with
    | none => exact ih fun dict hdict => hhardware dict hdict
    | some dict =>
      have ih := ih fun other hother => hhardware other (by
        rw [List.reduceOption_cons_of_some]
        exact List.mem_cons_of_mem _ hother)
      have hdict := hhardware dict (by
        rw [List.reduceOption_cons_of_some]
        exact List.mem_cons_self)
      rw [named, List.reduceOption_cons_of_some, List.filter_cons]
      cases hcreate : createWithStorageEntity sys dict with
      | none =>
        rw [List.filterMap_cons_none (by simpa using hcreate), ih, named]
        split_ifs
        · rw [List.findSome?_cons, hcreate]
        · rfl
      | some i =>
        have hname := entityDevice_of_hardware hdict hcreate
        rw [List.filterMap_cons_some (by simpa using hcreate), List.find?_cons, hget.getBSDName,
          hname]
        by_cases hbsd : dict.bsdName = some bsdName
        · simp [hbsd, hcreate]
        · simp only [hbsd, decide_false, Bool.false_eq_true, if_false]
          exact ih

/-- **An interface is found in the list as in the mapping**, unless it is made of a later dictionary
than the first of its name. -/
theorem createUsingBSDName_eq_mapping_iff (hget : get.Faithful)
    {dicts : List (Option StorageEntity)} (hhardware : ∀ dict ∈ dicts.reduceOption, dict.Hardware)
    (bsdName : String) :
    createUsingBSDName sys (some dicts) bsdName = findMapped sys get (some dicts) bsdName ↔
      ∀ first rest, named dicts bsdName = first :: rest →
        createWithStorageEntity sys first = none →
          ∀ dict ∈ rest, createWithStorageEntity sys dict = none := by
  rw [createUsingBSDName, Option.bind_some, findStored_eq, findMapped_eq hget hhardware]
  cases hnamed : named dicts bsdName with
  | nil => simp
  | cons first rest =>
    rw [List.head?_cons, Option.bind_some, List.findSome?_cons]
    cases hcreate : createWithStorageEntity sys first with
    | none =>
      constructor
      · intro heq first' rest' hcons _
        obtain ⟨rfl, rfl⟩ := List.cons.inj hcons
        exact List.findSome?_eq_none_iff.mp heq.symm
      · intro h
        exact (List.findSome?_eq_none_iff.mpr (h first rest rfl hcreate)).symm
    | some i =>
      refine iff_of_true rfl fun first' rest' hcons hnone => ?_
      obtain ⟨rfl, rfl⟩ := List.cons.inj hcons
      rw [hcreate] at hnone
      cases hnone

/-- The dictionary of `en0`. -/
def storedEn0Entity : StorageEntity := storageEntityOf storedEn0 ⟨some "Ethernet", none, none, none⟩

/-- A list with a damaged dictionary of `en0` before a whole one. -/
def damagedList : List (Option StorageEntity) :=
  [none, some { storedEn0Entity with ioPathMatch := none }, some storedEn0Entity]

theorem createUsingBSDName_ne_mapping_damaged :
    createUsingBSDName emptySystem (some damagedList) "en0" ≠
      findMapped emptySystem plainGetters (some damagedList) "en0" := by
  have hhardware : ∀ dict ∈ damagedList.reduceOption, dict.Hardware := by
    intro dict hdict
    have hmem : dict ∈ [{ storedEn0Entity with ioPathMatch := none }, storedEn0Entity] := hdict
    simp only [List.mem_cons, List.not_mem_nil, or_false] at hmem
    obtain rfl | rfl := hmem <;> exact ⟨6, rfl, .inl (by decide)⟩
  intro heq
  have hnone := (createUsingBSDName_eq_mapping_iff plainGetters_faithful hhardware "en0").mp heq
    _ _ rfl rfl storedEn0Entity List.mem_cons_self
  cases hnone

/-! ## Saving and reading -/

/-- What is written of an interface is read back, with the same name, and written the same way. -/
theorem readBack_written (sys : SystemInterfaces) (hget : get.Faithful) {i : SCNetworkInterface}
    {dict : StorageEntity}
    (htype : ∀ t, i.info.type = some t → TypeAgrees i.info.interfaceType t)
    (hdict : copyStorageEntity get i = some dict) :
    ∃ entityType, createWithStorageEntity sys dict = some (readBack entityType i) ∧
      dict.bsdName = i.info.entityDevice ∧
      copyStorageEntity get (readBack entityType i) = some dict := by
  obtain ⟨entityType, hread⟩ := createWithStorageEntity_storageEntityOf sys hget htype hdict
  obtain ⟨-, -, -, -, -, -, info, -, rfl⟩ := (copyStorageEntity_eq_some_iff hget).mp hdict
  exact ⟨entityType, hread, rfl, copyStorageEntity_readBack hget hdict entityType⟩

/-- What was written for an interface, what is read for it, and by which name. -/
structure WrittenRead (get : InterfaceGetters) (i : SCNetworkInterface) (dict : StorageEntity)
    (j : SCNetworkInterface) : Prop where
  read : ∃ entityType, j = readBack entityType i
  again : copyStorageEntity get j = some dict

/-- All interfaces are read, in their order. -/
theorem exists_read (sys : SystemInterfaces) (hget : get.Faithful)
    {interfaces : List SCNetworkInterface} {dicts : List StorageEntity}
    (hdicts : List.Forall₂ (fun i dict => copyStorageEntity get i = some dict) interfaces dicts)
    (htype : ∀ i ∈ interfaces, ∀ t, i.info.type = some t → TypeAgrees i.info.interfaceType t) :
    ∃ read,
      (dicts.map some).filterMap (fun dict => dict.bind (createWithStorageEntity sys)) = read ∧
      interfaces.length = read.length ∧
      (∀ (k : ℕ) i dict j, interfaces[k]? = some i → dicts[k]? = some dict → read[k]? = some j →
        WrittenRead get i dict j) ∧
      ∀ bsdName, findStored sys bsdName (dicts.map some) =
        read.find? fun j => get.getBSDName j = some bsdName := by
  induction hdicts with
  | nil =>
    refine ⟨[], rfl, rfl, fun k i dict j hi _ _ => ?_, fun _ => rfl⟩
    cases hi
  | @cons i dict interfaces dicts hdict _ ih =>
    obtain ⟨entityType, hread, hname, hagain⟩ :=
      readBack_written sys hget (htype i List.mem_cons_self) hdict
    obtain ⟨read, hfilter, hlength, hwritten, hfind⟩ := ih fun i' hi' =>
      htype i' (List.mem_cons_of_mem _ hi')
    refine ⟨readBack entityType i :: read, ?_, ?_, ?_, fun bsdName => ?_⟩
    · rw [List.map_cons, List.filterMap_cons_some (by simpa using hread), hfilter]
    · rw [List.length_cons, List.length_cons, hlength]
    · intro k i' dict' j hi hdict' hj
      cases k with
      | zero =>
        obtain rfl := Option.some.inj hi
        obtain rfl := Option.some.inj hdict'
        obtain rfl := Option.some.inj hj
        exact ⟨⟨entityType, rfl⟩, hagain⟩
      | succ k => exact hwritten k i' dict' j hi hdict' hj
    · have hdevice : get.getBSDName (readBack entityType i) = dict.bsdName :=
        (hget.getBSDName _).trans hname.symm
      rw [List.map_cons, findStored, List.find?_cons, hdevice, hfind]
      cases dict.bsdName with
      | none => simp
      | some name =>
        by_cases heq : bsdName = name
        · simp [heq, hread]
        · have hne : name ≠ bsdName := fun h => heq h.symm
          simp [heq, hne]

/-- **What was saved is read**: every interface, up to what is not written, in its order; saving it
again changes nothing; and for each BSD name, both ways find what was read of the first interface
with it. -/
theorem saveStored_reads (sys : SystemInterfaces) (hget : get.Faithful)
    {interfaces : List SCNetworkInterface} {dicts : List StorageEntity}
    (hdicts : List.Forall₂ (fun i dict => copyStorageEntity get i = some dict) interfaces dicts)
    (htype : ∀ i ∈ interfaces, ∀ t, i.info.type = some t → TypeAgrees i.info.interfaceType t)
    (ifList : StoredList) :
    let r := saveStored ifList (some (dicts.map some)) true
    r.1 = true ∧ ∃ read, copyStored sys r.2 = some read ∧ interfaces.length = read.length ∧
      (∀ (k : ℕ) i dict j, interfaces[k]? = some i → dicts[k]? = some dict → read[k]? = some j →
        WrittenRead get i dict j) ∧
      ∀ bsdName, createUsingBSDName sys r.2 bsdName =
          (read.find? fun j => get.getBSDName j = some bsdName) ∧
        findMapped sys get r.2 bsdName =
          read.find? fun j => get.getBSDName j = some bsdName := by
  intro r
  obtain ⟨read, hread, hlength, hwritten, hfind⟩ := exists_read sys hget hdicts htype
  have hcopy : copyStored sys r.2 = some read := congrArg some hread
  refine ⟨rfl, read, hcopy, hlength, hwritten, fun bsdName => ⟨hfind bsdName, ?_⟩⟩
  rw [findMapped, hcopy, Option.bind_some, lookup_mapping]

/-- A FireWire interface of the registry. -/
def storedFw0 : SCNetworkInterface :=
  .mk { InterfaceInfo.new kSCNetworkInterfaceTypeFireWire with
    name := some "FireWire"
    entityDevice := some "fw0"
    entityType := some "FireWire"
    builtin := true
    namePrefix := some "fw"
    type := some 144
    unit := some 0
    address := some [0, 17, 34, 51, 68, 85, 102, 119]
    path := some "IOService:/fw0" } none none none none

/-- An AirPort interface that has the name of another one. -/
def storedAirPort : SCNetworkInterface :=
  .mk { InterfaceInfo.new kSCNetworkInterfaceTypeIEEE80211 with
    name := some "Wi-Fi"
    entityDevice := some "en0"
    entityType := some "Ethernet"
    active := true
    namePrefix := some "en"
    type := some 6
    unit := some 0
    address := some [0, 17, 34, 51, 68, 86]
    path := some "IOService:/AirPort" } none none none none

/-- Three interfaces, two of one name. -/
theorem saveStored_reads_en0 :
    let interfaces := [storedFw0, storedEn0, storedAirPort]
    ∃ dicts, List.Forall₂ (fun i dict => copyStorageEntity plainGetters i = some dict) interfaces
        dicts ∧
      ∃ read, copyStored emptySystem (saveStored none (some (dicts.map some)) true).2 =
          some read ∧ interfaces.length = read.length ∧
        createUsingBSDName emptySystem (saveStored none (some (dicts.map some)) true).2 "en0" =
          (read.find? fun j => plainGetters.getBSDName j = some "en0") ∧
        findMapped emptySystem plainGetters (saveStored none (some (dicts.map some)) true).2 "en0" =
          read.find? fun j => plainGetters.getBSDName j = some "en0" := by
  have htype : ∀ i ∈ [storedFw0, storedEn0, storedAirPort], ∀ t, i.info.type = some t →
      TypeAgrees i.info.interfaceType t := by
    intro i hi t ht
    simp only [List.mem_cons, List.not_mem_nil, or_false] at hi
    obtain rfl | rfl | rfl := hi <;> obtain rfl := Option.some.inj ht
    · exact .inr (.inr ⟨rfl, by decide⟩)
    · exact .inl ⟨rfl, by decide⟩
    · exact .inr (.inl ⟨rfl, by decide⟩)
  have hdicts : List.Forall₂ (fun i dict => copyStorageEntity plainGetters i = some dict)
      [storedFw0, storedEn0, storedAirPort]
      [storageEntityOf storedFw0 ⟨some "FireWire", none, none, none⟩,
        storageEntityOf storedEn0 ⟨some "Ethernet", none, none, none⟩,
        storageEntityOf storedAirPort ⟨some "Wi-Fi", none, none, none⟩] :=
    .cons rfl (.cons rfl (.cons rfl .nil))
  obtain ⟨-, read, hread, hlength, -, hfind⟩ :=
    saveStored_reads emptySystem plainGetters_faithful hdicts htype none
  exact ⟨_, hdicts, read, hread, hlength, hfind "en0"⟩

/-! ## The interfaces that are made -/

/-- An interface that was made of an entry of the registry, or was read from the list. -/
inductive MadeHere (sys : SystemInterfaces) (i : SCNetworkInterface) : Prop
  | registry {S : Type} {env : IORegistry.Environment} {registry : IORegistry.Registry}
    {chain : List IORegistry.RegistryEntry} {path : Option String} {entryID : UInt64}
    {hiddenKey : String} {keepHidden : Bool}
    {fields : InterfaceFields (List (String × PropertyList)) S}
    (hmade : IORegistry.createInterface env registry chain path entryID hiddenKey keepHidden =
      some fields)
    (hinfo : i.info = fields.info)
  | stored {entity : StorageEntity} (hmade : createWithStorageEntity sys entity = some i)
    (htype : i.info.interfaceType ∈ [kSCNetworkInterfaceTypeEthernet,
      kSCNetworkInterfaceTypeIEEE80211, kSCNetworkInterfaceTypeFireWire])

/-- The types of an interface of the registry belong together. -/
theorem typeAgrees_of_classified {p : IORegistry.ProcessedInterface}
    (hp : IORegistry.Classified p) : TypeAgrees p.interfaceType p.type := by
  have hinterface := hp.interfaceType
  obtain htype | htype := hp.type
  · rw [htype, if_neg (by decide)] at hinterface
    rw [htype, hinterface]
    split_ifs
    · exact .inr (.inl ⟨rfl, by decide⟩)
    · exact .inl ⟨rfl, by decide⟩
  · rw [htype, if_pos rfl] at hinterface
    rw [htype, hinterface]
    exact .inr (.inr ⟨rfl, by decide⟩)

theorem typeAgrees_of_createInterface {S : Type} {env : IORegistry.Environment}
    {registry : IORegistry.Registry} {chain : List IORegistry.RegistryEntry} {path : Option String}
    {entryID : UInt64} {hiddenKey : String} {keepHidden : Bool}
    {fields : InterfaceFields (List (String × PropertyList)) S}
    (h : IORegistry.createInterface env registry chain path entryID hiddenKey keepHidden =
      some fields) :
    ∀ t, fields.info.type = some t → TypeAgrees fields.info.interfaceType t := by
  intro t ht
  simp only [IORegistry.createInterface] at h
  split_ifs at h
  split at h
  case h_2 => cases h
  case h_1 interface controller bus rest =>
    obtain ⟨p, hp, rfl⟩ := Option.map_eq_some_iff.mp h
    obtain rfl := Option.some.inj ht
    refine typeAgrees_of_classified ?_
    rw [IORegistry.processNetworkInterface] at hp
    split at hp
    · cases hp
    · split_ifs at hp <;> obtain rfl := Option.some.inj hp
      · exact IORegistry.processEther_classified ..
      · exact IORegistry.processFireWire_classified ..

theorem MadeHere.typeAgrees {sys : SystemInterfaces} {i : SCNetworkInterface}
    (h : MadeHere sys i) : ∀ t, i.info.type = some t → TypeAgrees i.info.interfaceType t := by
  cases h with
  | registry hmade hinfo =>
    rw [hinfo]
    exact typeAgrees_of_createInterface hmade
  | stored hmade htype => exact typeAgrees_of_createWithStorageEntity hmade htype

/-- An interface that was made here, without a layer below, is read back as an equal one, which is
written the same way. -/
theorem MadeHere.reads {sys : SystemInterfaces} (hget : get.Faithful) {i : SCNetworkInterface}
    {dict : StorageEntity} (h : MadeHere sys i) (hbelow : i.interface = none)
    (hdict : copyStorageEntity get i = some dict) :
    ∃ j, createWithStorageEntity sys dict = some j ∧ i.equal j = true ∧
      copyStorageEntity get j = some dict := by
  obtain ⟨entityType, hread⟩ :=
    createWithStorageEntity_storageEntityOf sys hget h.typeAgrees hdict
  obtain ⟨-, -, ⟨t, ht⟩, -⟩ := (copyStorageEntity_eq_some_iff hget).mp hdict
  exact ⟨_, hread, equal_readBack hbelow (h.typeAgrees t ht).notMem entityType,
    copyStorageEntity_readBack hget hdict entityType⟩

/-- A list of interfaces that were made here is read as it was saved. -/
theorem copyStored_made {sys : SystemInterfaces} (hget : get.Faithful)
    {interfaces : List SCNetworkInterface} {dicts : List StorageEntity}
    (hmade : ∀ i ∈ interfaces, MadeHere sys i)
    (hdicts : List.Forall₂ (fun i dict => copyStorageEntity get i = some dict) interfaces dicts) :
    ∃ read, copyStored sys (some (dicts.map some)) = some read ∧
      interfaces.length = read.length ∧
      ∀ (k : ℕ) i dict j, interfaces[k]? = some i → dicts[k]? = some dict → read[k]? = some j →
        WrittenRead get i dict j := by
  obtain ⟨read, hread, hlength, hwritten, -⟩ :=
    exists_read sys hget hdicts fun i hi => (hmade i hi).typeAgrees
  exact ⟨read, congrArg some hread, hlength, hwritten⟩

end

end ConfigdExtra
