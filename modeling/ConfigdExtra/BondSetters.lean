import ConfigdExtra.BondMembership
import ConfigdExtra.PathConfiguration
import ConfigdExtra.RecordHandles

/-!
# What is set through a bond

The members, the name, the options and the mode of a bond are in one dictionary of the preferences.
An `SCBondInterfaceRef` has a copy of each. A function that sets one of them writes the dictionary
first. `SCBondInterfaceCopyAll` reads the dictionaries of all bonds.

Members are given by their names here: that a name stands for one interface, whether it is found
in the companion preferences or in the system, is what the functions rely on. In companion
preferences of another system an interface may have another type, and `CFEqual`, with which
members are compared, tells the two apart; what comes of that is in `BondMembership`.

* `BondValue`, `BondLibrary` — what is in the dictionaries, and the functions for paths.
* `BondObject` — a bond reference.
* `bondInterfaceCopyAll`, `storeBondEntry` and the functions that set.
* `Bond`, `readBond` — a bond, as it is read from a dictionary.
* `readBond_put` — what an entry changes.
-/

namespace ConfigdExtra.BondSetters

open DeferredEdits

/-! ## Dictionaries of bonds -/

/-- A value in a dictionary, where `D` are the dictionaries for the options, and `V` is anything
else. -/
inductive BondValue (D V : Type)
  | string (s : String)
  | number (value : ℚ)
  /-- an array, with the elements that are strings and those that are not -/
  | array (elements : List (BsdName ⊕ V))
  | dictionary (d : D)
  | other (v : V)
deriving DecidableEq

namespace BondValue

variable {D V : Type}

/-- `isA_CFString` -/
def string? : BondValue D V → Option String
  | string s => some s
  | _ => none

/-- `isA_CFNumber` -/
def number? : BondValue D V → Option ℚ
  | number value => some value
  | _ => none

/-- `isA_CFDictionary` -/
def dictionary? : BondValue D V → Option D
  | dictionary d => some d
  | _ => none

/-- The strings in an array, none in anything else. -/
def names : BondValue D V → List BsdName
  | array elements => elements.filterMap Sum.getLeft?
  | _ => []

end BondValue

/-- `CFNumberGetValue`, with `kCFNumberIntType`: nothing if something is lost. -/
def intValue (value : ℚ) : Option ℤ :=
  if value.den = 1 ∧ -(2 ^ 31) ≤ value.num ∧ value.num < 2 ^ 31 then some value.num else none

/-- `kSCPropVirtualNetworkInterfacesBondInterfaces` -/
def kInterfaces : String := "Interfaces"

/-- `kSCPropUserDefinedName` -/
def kUserDefinedName : String := "UserDefinedName"

/-- `kSCPropVirtualNetworkInterfacesBondOptions` -/
def kOptions : String := "Options"

/-- `kSCPropVirtualNetworkInterfacesBondMode` -/
def kMode : String := "Mode"

/-- The preferences, with what is stored for each bond. -/
structure BondLibrary (π D V : Type) extends PathLibrary π BsdName (BondValue D V) where
  /-- the keys in `/VirtualNetworkInterfaces/Bond` -/
  bonds : π → List BsdName

/-- The keys are those of the bonds for which something is stored. -/
structure BondLibrary.Lawful {π D V : Type} (lib : BondLibrary π D V) : Prop
    extends PathLibrary.Lawful lib.toPathLibrary where
  mem_bonds : ∀ c name, name ∈ lib.bonds c ↔ (lib.get c name).isSome

/-! ## References -/

/-- `SCBondInterfaceRef`, of which the calls read the name and the members. -/
structure BondHandle where
  /-- `entity_device` -/
  bsdName : BsdName
  /-- `bond.interfaces`, by name -/
  interfaces : List BsdName
  deriving DecidableEq, Repr

/-- What a call finds around it. -/
structure BondSystem where
  /-- `__SCNetworkInterfaceCopyAll_IONetworkInterface` -/
  interfaces : List BondMember
  /-- the members of the bridges and the physical interfaces of the VLANs -/
  others : List BsdName
  /-- `add_interface` finds an interface of this name -/
  resolves : BsdName → Bool
  /-- it finds the interfaces of the system -/
  resolves_interfaces : ∀ i ∈ interfaces, resolves i.bsdName = true
  /-- `__SCNetworkServiceExistsForInterface`, of the enabled services -/
  inService : BsdName → Bool
  /-- `SCPreferencesPathSetValue` and `SCPreferencesPathRemoveValue` succeed -/
  saves : Bool

/-- `SCBondInterfaceRef`, with what the functions here read and set. -/
structure BondObject (D : Type) extends BondHandle where
  /-- `prefs` is there -/
  linked : Bool
  /-- `localized_name` -/
  localizedName : Option String
  /-- `bond.options` -/
  options : Option D
  /-- `bond.mode` -/
  mode : Option ℚ
deriving DecidableEq

variable {π D V : Type}

/-- `_SCBondInterfaceCreatePrivate` -/
def bondInterfaceCreatePrivate (bondIf : BsdName) : BondObject D where
  bsdName := bondIf
  interfaces := []
  linked := false
  localizedName := none
  options := none
  mode := none

section

variable [DecidableEq D] [DecidableEq V] (lib : BondLibrary π D V) (c : π) (bond : BondObject D)

/-- Writes an entry of the stored dictionary, or removes it, if the reference is linked to the
preferences: the part that the functions share. `ok` is whether `SCPreferencesPathSetValue`
succeeds. -/
def storeBondEntry (edit : Edit String (BondValue D V)) (ok : Bool) : Except SCStatus π :=
  if bond.linked then
    match (lib.get c bond.bsdName).bind StoredValue.dictionary? with
    -- the preferences are confused
    | none => .error .failed
    | some dict =>
      let newDict := dict.put edit
      if dict = newDict then .ok c
      else if ok then .ok (lib.set c bond.bsdName newDict)
      else .error .notSaved
  else .ok c

/-- `__SCBondInterfaceSetMemberInterfaces` -/
def setMemberInterfaces (members : List BsdName) (ok : Bool) :
    Except SCStatus (π × BondObject D) :=
  (storeBondEntry lib c bond ⟨kInterfaces, some (.array (members.map .inl))⟩ ok).map
    fun c => (c, { bond with interfaces := members })

/-- An argument that is missing or passes a check. -/
def checkedArgument {α : Type} (isA : BondValue D V → Option α) :
    Option (BondValue D V) → Except SCStatus (Option α)
  | none => .ok none
  | some v =>
    match isA v with
    | none => .error .invalidArgument
    | some a => .ok (some a)

/-- `SCBondInterfaceSetLocalizedDisplayName` -/
def setLocalizedDisplayName (newName : Option (BondValue D V)) (ok : Bool) :
    Except SCStatus (π × BondObject D) :=
  (checkedArgument BondValue.string? newName).bind fun newName =>
    (storeBondEntry lib c bond ⟨kUserDefinedName, newName.map .string⟩ ok).map
      fun c => (c, { bond with localizedName := newName })

/-- `SCBondInterfaceSetOptions` -/
def setOptions (newOptions : Option (BondValue D V)) (ok : Bool) :
    Except SCStatus (π × BondObject D) :=
  (checkedArgument BondValue.dictionary? newOptions).bind fun newOptions =>
    (storeBondEntry lib c bond ⟨kOptions, newOptions.map .dictionary⟩ ok).map
      fun c => (c, { bond with options := newOptions })

/-- `_SCBondInterfaceSetMode`, where `NULL` is for the default -/
def setModePrivate (mode : Option ℚ) (ok : Bool) : Except SCStatus (π × BondObject D) :=
  let mode : ℚ := mode.getD ifBondModeLacp
  (storeBondEntry lib c bond ⟨kMode, some (.number mode)⟩ ok).map
    fun c => (c, { bond with mode := some mode })

/-- `IF_BOND_MODE_STATIC` -/
def ifBondModeStatic : ℤ := 1

/-- `SCBondInterfaceSetMode` -/
def setMode (mode : Option (BondValue D V)) (ok : Bool) : Except SCStatus (π × BondObject D) :=
  match mode.bind BondValue.number? with
  | none => .error .invalidArgument
  | some mode =>
    match intValue mode with
    | none => .error .invalidArgument
    | some modeNum =>
      if modeNum = ifBondModeLacp ∨ modeNum = ifBondModeStatic then
        setModePrivate lib c bond (some mode) ok
      else .error .invalidArgument

/-! ## All bonds -/

/-- `add_configured_interface`: a reference to a stored bond, with the members that are found. -/
def addConfiguredInterface (resolves : BsdName → Bool) (bondIf : BsdName)
    (bondInfo : CFDictionary (BondValue D V)) : BondObject D :=
  let new : BondObject D := bondInterfaceCreatePrivate bondIf
  { new with
    interfaces := (((bondInfo.lookup kInterfaces).map BondValue.names).getD []).filter resolves
    localizedName := (bondInfo.lookup kUserDefinedName).bind BondValue.string?
    options := (bondInfo.lookup kOptions).bind BondValue.dictionary?
    mode := some (((bondInfo.lookup kMode).bind BondValue.number?).getD ifBondModeLacp)
    linked := true }

/-- `SCBondInterfaceCopyAll`. That a stored value is a dictionary is not checked: there is no result
if one is not. -/
def bondInterfaceCopyAll (resolves : BsdName → Bool) : Option (List (BondObject D)) :=
  (lib.bonds c).mapM fun bondIf =>
    ((lib.get c bondIf).bind StoredValue.dictionary?).map (addConfiguredInterface resolves bondIf)

/-- `SCBondInterfaceCopyAvailableMemberInterfaces` -/
def copyAvailableMemberInterfaces (sys : BondSystem) : Option (List BsdName) := do
  let bonds ← bondInterfaceCopyAll lib c sys.resolves
  let excluded := bonds.flatMap (·.interfaces) ++ sys.others
  return ((sys.interfaces.filter (·.supportsBond)).map (·.bsdName)).filter (· ∉ excluded)

/-- Whether a member may be set, and the error if not. A name is one interface, so that `CFEqual`
compares names. -/
def memberStatus (sys : BondSystem) (available : List BsdName) (member : BsdName) :
    Option SCStatus :=
  if member ∈ bond.interfaces then none
  else if member ∈ available then
    if sys.inService member then some .keyExists else none
  else some .invalidArgument

/-- `SCBondInterfaceSetMemberInterfaces` -/
def bondInterfaceSetMemberInterfaces (sys : BondSystem) (members : List BsdName) :
    Option (Except SCStatus (π × BondObject D)) :=
  if bond.linked then do
    let available ← copyAvailableMemberInterfaces lib c sys
    match members.findSome? (memberStatus bond sys available) with
    | some status => return .error status
    | none => return setMemberInterfaces lib c bond members sys.saves
  else return setMemberInterfaces lib c bond members sys.saves

/-! ## Creating and removing -/

omit [DecidableEq D] [DecidableEq V] in
/-- There are more names than bonds. -/
theorem exists_unused (names : List BsdName) : ∃ i, bondName i ∉ names := by
  obtain ⟨_, ⟨i, rfl⟩, hi⟩ :=
    (Set.infinite_range_of_injective bondName_injective).exists_notMem_finset names.toFinset
  exact ⟨i, by simpa using hi⟩

/-- `SCBondInterfaceCreate`, with the first name that is not in use -/
def bondInterfaceCreate (ok : Bool) : Except SCStatus (π × BondObject D) :=
  let bondIf := bondName (Nat.find (exists_unused (lib.bonds c)))
  if ok then
    let bond : BondObject D := bondInterfaceCreatePrivate bondIf
    .ok (lib.set c bondIf (Finmap.singleton kInterfaces (.array [])), { bond with linked := true })
  else .error .notSaved

/-- `SCBondInterfaceRemove` -/
def bondInterfaceRemove (ok : Bool) : Except SCStatus π :=
  if bond.linked then
    if (lib.get c bond.bsdName).isSome ∧ ok then .ok (lib.remove c bond.bsdName)
    else .error .notSaved
  else .error .invalidArgument

end

/-! ## Bonds -/

/-- What a bond is. -/
@[ext] structure Bond (D : Type) where
  members : List BsdName
  name : Option String
  options : Option D
  mode : ℚ

/-- The bond that a reference shows. One that was just created has no mode, which stands for the
default. -/
def BondObject.toBond (bond : BondObject D) : Bond D where
  members := bond.interfaces
  name := bond.localizedName
  options := bond.options
  mode := bond.mode.getD ifBondModeLacp

/-- The bond that is read from a dictionary. -/
def readBond (resolves : BsdName → Bool) (dict : CFDictionary (BondValue D V)) : Bond D :=
  (addConfiguredInterface resolves "" dict).toBond

/-- What one entry of the dictionary is for. -/
inductive BondEdit (D : Type)
  | members (members : List BsdName)
  | name (name : Option String)
  | options (options : Option D)
  | mode (mode : ℚ)

/-- Sets a part of a bond. -/
def BondEdit.apply : BondEdit D → Bond D → Bond D
  | .members ms, bond => { bond with members := ms }
  | .name s, bond => { bond with name := s }
  | .options d, bond => { bond with options := d }
  | .mode q, bond => { bond with mode := q }

/-- The entry that is written. -/
def BondEdit.entry : BondEdit D → Edit String (BondValue D V)
  | .members ms => ⟨kInterfaces, some (.array (ms.map .inl))⟩
  | .name s => ⟨kUserDefinedName, s.map .string⟩
  | .options d => ⟨kOptions, d.map .dictionary⟩
  | .mode q => ⟨kMode, some (.number q)⟩

/-- The members that are set can be found. -/
def BondEdit.Resolves (resolves : BsdName → Bool) : BondEdit D → Prop
  | .members ms => ∀ m ∈ ms, resolves m = true
  | _ => True

variable {resolves : BsdName → Bool}

/-- A bond that is read from its entry has what the entry says. -/
theorem toBond_addConfiguredInterface (bondIf : BsdName) (dict : CFDictionary (BondValue D V)) :
    (addConfiguredInterface resolves bondIf dict).toBond = readBond resolves dict :=
  rfl

/-- **An entry sets the part that it is for**. -/
theorem readBond_put (dict : CFDictionary (BondValue D V)) {edit : BondEdit D}
    (hedit : edit.Resolves resolves) :
    readBond resolves (dict.put edit.entry) = edit.apply (readBond resolves dict) := by
  cases edit with
  | members members =>
    have hnames : (members.map (Sum.inl (β := V))).filterMap Sum.getLeft? = members := by
      simp [List.filterMap_map, Function.comp_def]
    have hfound : members.filter resolves = members := List.filter_eq_self.mpr hedit
    ext1 <;>
      simp [readBond, BondObject.toBond, addConfiguredInterface, BondEdit.apply, BondEdit.entry,
        Record.lookup_put, BondValue.names, kInterfaces, kUserDefinedName, kOptions, kMode, hnames,
        hfound]
  | name name =>
    ext1 <;>
      simp [readBond, BondObject.toBond, addConfiguredInterface, BondEdit.apply, BondEdit.entry,
        Record.lookup_put, kInterfaces, kUserDefinedName, kOptions, kMode]
    cases name <;> rfl
  | options options =>
    ext1 <;>
      simp [readBond, BondObject.toBond, addConfiguredInterface, BondEdit.apply, BondEdit.entry,
        Record.lookup_put, kInterfaces, kUserDefinedName, kOptions, kMode]
    cases options <;> rfl
  | mode mode =>
    ext1 <;>
      simp [readBond, BondObject.toBond, addConfiguredInterface, BondEdit.apply, BondEdit.entry,
        Record.lookup_put, BondValue.number?, kInterfaces, kUserDefinedName, kOptions, kMode]

/-- A new dictionary is for a bond without members. -/
theorem readBond_singleton :
    readBond resolves (Finmap.singleton kInterfaces (.array []) : CFDictionary (BondValue D V)) =
      (bondInterfaceCreatePrivate "" : BondObject D).toBond := by
  have hnone : ∀ key ≠ kInterfaces, Finmap.lookup key
      (Finmap.singleton kInterfaces (.array []) : CFDictionary (BondValue D V)) = none :=
    fun key hkey => Finmap.lookup_eq_none.mpr (mt (Finmap.mem_singleton _ _ _).mp hkey)
  ext1 <;>
    simp [readBond, BondObject.toBond, addConfiguredInterface, bondInterfaceCreatePrivate,
      BondValue.names, hnone kUserDefinedName (by decide), hnone kOptions (by decide),
      hnone kMode (by decide)]

end ConfigdExtra.BondSetters
