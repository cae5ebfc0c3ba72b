import ConfigdExtra.BondMembership
import ConfigdExtra.InterfaceCopy
import ConfigdExtra.PrefsPaths

/-!
# Creating a bond

`SCBondInterfaceCreate` tries `bond0`, `bond1` and so on until it finds a name that is not in the
preferences, and stores a bond without members there.

* `bondPath`, `bondKeys` — where a bond is stored.
* `createLoop`, `bondInterfaceCreate` — the function. The loop gets fuel: that it ends depends on
  what is stored.
* `CreatesBond` — what the call does.
* `bondInterfaceCreate_createsBond` — the call returns, and does it.
-/

namespace ConfigdExtra.BondCreate

open InterfaceCopy (InterfaceFields createPrivate)
open PrefsPaths (PathFunctions slashComponents plainPaths plainPaths_readAndReplace)

variable {V D S : Type}

/-! ## The function -/

/-- `kSortBond` -/
def kSortBond : ℕ := 20

/-- What the system says about a device. -/
structure Devices where
  /-- `__SCCopyMacAddress` -/
  address : String → Option (List UInt8)
  /-- `__SCNetworkInterfaceSupportsVLAN` -/
  supportsVLAN : String → Bool

/-- `_SCBondInterfaceCreatePrivate` -/
def bondInterfaceCreatePrivate (devices : Devices) (bondIf : String) : InterfaceFields D S :=
  let new : InterfaceFields D S := createPrivate kSCNetworkInterfaceTypeBond none none
  { new with
    info :=
      { new.info with
        entityType := some "Ethernet"
        entityDevice := some bondIf
        address := devices.address bondIf
        builtin := true }
    supportsVLAN := devices.supportsVLAN bondIf
    sortOrder := kSortBond
    localizedKey := some "bond"
    localizedArg1 := some bondIf
    bondInterfaces := some [] }

/-- The path of a bond, in `kSCPrefVirtualNetworkInterfaces` and `kSCNetworkInterfaceTypeBond`. -/
def bondPath (i : ℕ) : String :=
  "/" ++ "VirtualNetworkInterfaces" ++ "/" ++ kSCNetworkInterfaceTypeBond ++ "/" ++ bondName i

/-- The dictionary for a new bond, with an empty array as `Interfaces`. -/
def newBond (emptyArray : V) : PrefsPaths.CFDictionary V where
  entries := [("Interfaces", .leaf emptyArray)]
  unique := KeyTree.unique_singleton "Interfaces" (KeyTree.unique_leaf emptyArray)

section

variable (paths : PathFunctions V) (emptyArray : V) (devices : Devices) (prefs : S)
  (tree : PrefsPaths.CFDictionary V)

/-- The loop, from `bond<i>` on: the bond that is created, or the error, and what is then in the
preferences. -/
def createLoop : ℕ → ℕ →
    Option (Except PrefsPaths.SCStatus (InterfaceFields D S) × PrefsPaths.CFDictionary V)
  | 0, _ => none
  | fuel + 1, i =>
    match paths.getValue tree (bondPath i) with
    -- the name is not available
    | .ok _ => createLoop fuel (i + 1)
    | .error _ =>
      match paths.setValue tree (bondPath i) (newBond emptyArray) with
      -- the bond could not be saved
      | .error status => some (.error status, tree)
      | .ok tree' =>
        let bond : InterfaceFields D S := bondInterfaceCreatePrivate devices (bondName i)
        some (.ok { bond with prefs := some prefs }, tree')

/-- `SCBondInterfaceCreate` -/
def bondInterfaceCreate (prefs : Option S) (fuel : ℕ) :
    Option (Except PrefsPaths.SCStatus (InterfaceFields D S) × PrefsPaths.CFDictionary V) :=
  match prefs with
  | none => some (.error .invalidArgument, tree)
  | some prefs => createLoop paths emptyArray devices prefs tree fuel 0

end

/-! ## Where a bond is stored -/

/-- The keys of the dictionary of the bonds. -/
def bondsKeys : List String := ["VirtualNetworkInterfaces", kSCNetworkInterfaceTypeBond]

/-- The keys of a bond. -/
def bondKeys (i : ℕ) : List String := bondsKeys ++ [bondName i]

theorem slash_notMem_bondName (i : ℕ) : '/' ∉ (bondName i).toList := by
  rw [bondName, String.toList_append, List.mem_append, Nat.toList_repr]
  rintro (h | h)
  · revert h
    decide
  · have hdigit := Nat.isDigit_of_mem_toDigits (by decide) (by decide) h
    revert hdigit
    decide

theorem bondName_ne_empty (i : ℕ) : bondName i ≠ "" := by
  intro h
  have hlist := congrArg String.toList h
  simp [bondName] at hlist

/-- The keys on the path of a bond. -/
theorem slashComponents_bondPath (i : ℕ) : slashComponents (bondPath i) = bondKeys i := by
  have hslash : "/".toList = ['/'] := rfl
  have hsplit : (bondPath i).toList.splitOn '/' =
      [[], "VirtualNetworkInterfaces".toList, kSCNetworkInterfaceTypeBond.toList,
        (bondName i).toList] := by
    have hparts : (bondPath i).toList = ['/'].intercalate
        [[], "VirtualNetworkInterfaces".toList, kSCNetworkInterfaceTypeBond.toList,
          (bondName i).toList] := by
      simp only [bondPath, String.toList_append, hslash, List.intercalate, List.intersperse,
        List.flatten_cons, List.flatten_nil, List.nil_append, List.append_nil, List.append_assoc]
    rw [hparts]
    refine List.splitOn_intercalate '/' ?_ (List.cons_ne_nil _ _)
    simp only [List.forall_mem_cons]
    exact ⟨List.not_mem_nil, by decide, by decide, slash_notMem_bondName i,
      List.forall_mem_nil _⟩
  rw [slashComponents, hsplit]
  simp only [List.map_cons, List.map_nil, String.ofList_toList, bondKeys, bondsKeys]
  rw [List.filter_cons_of_neg (by decide), List.filter_cons_of_pos (by decide),
    List.filter_cons_of_pos (by decide), List.filter_cons_of_pos (by simp [bondName_ne_empty])]
  rfl

/-! ## Names that are unused -/

/-- Nothing is stored under the name of a bond. -/
def Unused (tree : PrefsPaths.CFDictionary V) (i : ℕ) : Prop :=
  tree.toTree.get? (bondKeys i) = none

/-- What is stored for bonds are dictionaries. -/
def BondsAreDictionaries (tree : PrefsPaths.CFDictionary V) : Prop :=
  ∀ name v, tree.toTree.get? (bondsKeys ++ [name]) ≠ some (.leaf v)

/-- There are finitely many entries, and no two names are the same. -/
theorem exists_unused (tree : PrefsPaths.CFDictionary V) : ∃ i, Unused tree i := by
  simp only [Unused, bondKeys, KeyTree.get?_append]
  cases tree.toTree.get? bondsKeys with
  | none => exact ⟨0, rfl⟩
  | some bonds =>
    cases bonds with
    | leaf v => exact ⟨0, rfl⟩
    | branch entries =>
      obtain ⟨name, ⟨i, rfl⟩, hfresh⟩ :=
        (Set.infinite_range_of_injective bondName_injective).exists_notMem_finset
          (entries.map Prod.fst).toFinset
      rw [List.mem_toFinset] at hfresh
      refine ⟨i, ?_⟩
      rw [Option.bind_some, KeyTree.get?_branch_cons, lookup_eq_none_iff_notMem.mpr hfresh]
      rfl

theorem exists_isLeast_unused (tree : PrefsPaths.CFDictionary V) :
    ∃ i, IsLeast {i | Unused tree i} i := by
  classical
  have h := exists_unused tree
  exact ⟨Nat.find h, Nat.find_spec h, fun j hj => Nat.find_min' h hj⟩

/-! ## What the call does -/

/-- A dictionary is stored at a path. Everything that is not at the path or below it is as it was,
but for dictionaries on the way to it that were missing. -/
structure StoresOnly (keys : List String) (dict tree tree' : PrefsPaths.CFDictionary V) : Prop where
  /-- at the path -/
  stored : tree'.toTree.get? keys = some dict.toTree
  /-- what was there elsewhere -/
  kept : ∀ other, ¬ keys <+: other → ∀ x, tree.look other = some x → tree'.look other = some x
  /-- what was not -/
  absent : ∀ other, ¬ keys <+: other → tree.look other = none →
    tree'.look other = none ∨ other <+: keys ∧ tree'.look other = some none

/-- What creating a bond does, where `i` is the number of the bond. -/
structure CreatesBond (paths : PathFunctions V) (emptyArray : V) (prefs : S)
    (tree : PrefsPaths.CFDictionary V) (i : ℕ)
    (result : Except PrefsPaths.SCStatus (InterfaceFields D S) × PrefsPaths.CFDictionary V) :
    Prop where
  /-- the name is the first that is unused -/
  least : IsLeast {i | Unused tree i} i
  /-- if the write succeeds, there is a bond with this name, stored without members -/
  saved : ∀ tree', paths.setValue tree (bondPath i) (newBond emptyArray) = .ok tree' →
    ∃ bond, result = (.ok bond, tree') ∧ bond.info.interfaceType = kSCNetworkInterfaceTypeBond ∧
      bond.info.entityDevice = some (bondName i) ∧ bond.bondInterfaces = some [] ∧
      bond.prefs = some prefs ∧ StoresOnly (bondKeys i) (newBond emptyArray) tree tree'
  /-- if it fails, there is none, and the preferences are as they were -/
  notSaved : ∀ status, paths.setValue tree (bondPath i) (newBond emptyArray) = .error status →
    result = (.error status, tree)

section

variable {paths : PathFunctions V} (emptyArray : V) (devices : Devices) (prefs : S)
  {tree tree' : PrefsPaths.CFDictionary V} {i : ℕ}

/-- Storing a new bond. -/
theorem storesOnly_of_setValue (hpaths : paths.ReadAndReplace)
    (hcomponents : ∀ path, paths.components path = slashComponents path) (hunused : Unused tree i)
    (hset : paths.setValue tree (bondPath i) (newBond emptyArray) = .ok tree') :
    StoresOnly (bondKeys i) (newBond emptyArray) tree tree' := by
  have hreplace := hpaths.setValue _ _ _ _ hset
  rw [hcomponents, slashComponents_bondPath] at hreplace
  have hsets := PrefsPaths.setsDictionary_of_replace
    (s := ⟨tree, newBond emptyArray, false⟩) hreplace fun key => by
      rw [PrefsPaths.child_eq_none hunused, Option.or_none]
  exact ⟨KeyTree.get?_replace_self hreplace, hsets.kept, hsets.absent⟩

/-- A name that is used is passed over. -/
theorem createLoop_of_used (hpaths : paths.ReadAndReplace)
    (hcomponents : ∀ path, paths.components path = slashComponents path)
    (hdict : BondsAreDictionaries tree) (hused : ¬ Unused tree i) (fuel : ℕ) :
    createLoop (D := D) paths emptyArray devices prefs tree (fuel + 1) i =
      createLoop paths emptyArray devices prefs tree fuel (i + 1) := by
  obtain ⟨t, ht⟩ := Option.ne_none_iff_exists'.mp hused
  cases t with
  | leaf v => exact absurd ht (hdict (bondName i) v)
  | branch entries =>
    rw [← slashComponents_bondPath, ← hcomponents] at ht
    obtain ⟨dict, hget, -⟩ := hpaths.getValue_dictionary _ _ _ ht
    rw [createLoop, hget]

/-- The loop comes to the first name that is unused. -/
theorem createLoop_eq (hpaths : paths.ReadAndReplace)
    (hcomponents : ∀ path, paths.components path = slashComponents path)
    (hdict : BondsAreDictionaries tree) (hleast : IsLeast {i | Unused tree i} i) (fuel : ℕ) :
    ∀ d k, k + d = i → createLoop (D := D) paths emptyArray devices prefs tree (fuel + d) k =
      createLoop paths emptyArray devices prefs tree fuel i := by
  intro d
  induction d with
  | zero =>
    rintro k rfl
    rfl
  | succ d ih =>
    intro k hk
    have hused : ¬ Unused tree k := fun h => by
      have := hleast.2 h
      omega
    rw [← Nat.add_assoc, createLoop_of_used emptyArray devices prefs hpaths hcomponents hdict hused]
    exact ih (k + 1) (by omega)

/-- The turn in which a name is found to be unused. -/
theorem createLoop_createsBond (hpaths : paths.ReadAndReplace)
    (hcomponents : ∀ path, paths.components path = slashComponents path)
    (hleast : IsLeast {i | Unused tree i} i) :
    ∃ result, CreatesBond (D := D) paths emptyArray prefs tree i result ∧
      ∀ fuel, createLoop paths emptyArray devices prefs tree (fuel + 1) i = some result := by
  have hnone : tree.toTree.get? (paths.components (bondPath i)) = none := by
    rw [hcomponents, slashComponents_bondPath]
    exact hleast.1
  obtain ⟨status, hget⟩ := hpaths.getValue_absent _ _ hnone
  simp only [createLoop, hget]
  cases hset : paths.setValue tree (bondPath i) (newBond emptyArray) with
  | error status' =>
    refine ⟨(.error status', tree), ⟨hleast, fun tree' h => ?_, fun status h => ?_⟩, fun _ => rfl⟩
    · exact nomatch hset.symm.trans h
    · rw [Except.error.inj (hset.symm.trans h)]
  | ok tree' =>
    refine ⟨_, ⟨hleast, fun tree'' h => ?_, fun status h => ?_⟩, fun _ => rfl⟩
    · obtain rfl := Except.ok.inj (hset.symm.trans h)
      have hstores := storesOnly_of_setValue emptyArray hpaths hcomponents hleast.1 hset
      exact ⟨_, rfl, rfl, rfl, rfl, rfl, hstores⟩
    · exact nomatch hset.symm.trans h

end

/-- **Creating a bond.** Where what is stored for bonds are dictionaries, the call returns: with a
bond that has the first unused name, stored without members, or with none and everything as it
was. -/
theorem bondInterfaceCreate_createsBond {V D S : Type} (paths : PathFunctions V)
    (hpaths : paths.ReadAndReplace)
    (hcomponents : ∀ path, paths.components path = slashComponents path) (emptyArray : V)
    (devices : Devices) (prefs : S) (tree : PrefsPaths.CFDictionary V)
    (hdict : BondsAreDictionaries tree) :
    ∃ i result, CreatesBond (D := D) paths emptyArray prefs tree i result ∧
      ∃ n, ∀ fuel ≥ n,
        bondInterfaceCreate paths emptyArray devices tree (some prefs) fuel = some result := by
  obtain ⟨i, hleast⟩ := exists_isLeast_unused tree
  obtain ⟨result, hresult, hloop⟩ :=
    createLoop_createsBond (D := D) emptyArray devices prefs hpaths hcomponents hleast
  refine ⟨i, result, hresult, i + 1, fun fuel hfuel => ?_⟩
  obtain ⟨rest, rfl⟩ := Nat.exists_eq_add_of_le hfuel
  have heq := createLoop_eq (D := D) emptyArray devices prefs hpaths hcomponents hdict hleast
    (rest + 1) i 0 (Nat.zero_add i)
  rw [bondInterfaceCreate, ← hloop rest, ← heq]
  congr 1
  omega

/-- Preferences with `bond0` only. -/
def oneBond : PrefsPaths.CFDictionary String :=
  PrefsPaths.singleChild "VirtualNetworkInterfaces"
    (PrefsPaths.singleChild "Bond" (PrefsPaths.singleChild "bond0" (newBond "()")))

theorem oneBond_dictionaries : BondsAreDictionaries oneBond := by
  intro name v h
  have hbonds : oneBond.toTree.get? bondsKeys = some (.branch [("bond0", (newBond "()").toTree)]) :=
    rfl
  rw [KeyTree.get?_append, hbonds, Option.bind_some, KeyTree.get?_branch_cons,
    List.lookup_cons] at h
  split at h
  · cases h
  · cases h

/-- Devices without an address. -/
def noDevices : Devices := ⟨fun _ => none, fun _ => false⟩

theorem bondInterfaceCreate_oneBond :
    ∃ i result, CreatesBond (D := String) plainPaths "()" () oneBond i result ∧
      ∃ n, ∀ fuel ≥ n,
        bondInterfaceCreate plainPaths "()" noDevices oneBond (some ()) fuel = some result :=
  bondInterfaceCreate_createsBond plainPaths plainPaths_readAndReplace (fun _ => rfl) "()"
    noDevices () oneBond oneBond_dictionaries

end ConfigdExtra.BondCreate
