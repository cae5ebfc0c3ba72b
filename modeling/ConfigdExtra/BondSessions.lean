import ConfigdExtra.BondSetters

/-!
# Bonds and their references

Calls of a program that has any number of references, also several to the same bond.

* `BondSession`, `BondCall`, `bondStep` — the calls.
* `WellFormed` — what holds in every session.
* `toHandles` — the stored bonds, with the references as handles on them.
* `bondStep_handleStep` — a call is a step of the handles.
* `bondRun_coherent` — in every run, a reference shows its bond as it is stored, unless another one
  has changed it.
-/

namespace ConfigdExtra.BondSetters

open Handles DeferredEdits

variable {π D V : Type}

/-! ## Calls -/

/-- The preferences and the references of a program. -/
structure BondSession (π D : Type) where
  prefs : π
  /-- the references, the oldest first -/
  bonds : List (BondObject D)

/-- A call. References are given by their position. -/
inductive BondCall (D V : Type)
  | copyAll
  | create
  | setMembers (i : ℕ) (members : List BsdName)
  | setName (i : ℕ) (name : Option (BondValue D V))
  | setOptions (i : ℕ) (options : Option (BondValue D V))
  | setMode (i : ℕ) (mode : Option (BondValue D V))
  | remove (i : ℕ)

/-- What a call uses. -/
def BondCall.use : BondCall D V → HandleUse
  | copyAll => .none
  | create => .none
  | setMembers i _ => .write i
  | setName i _ => .write i
  | setOptions i _ => .write i
  | setMode i _ => .write i
  | remove i => .remove i

section

variable [DecidableEq D] [DecidableEq V] (lib : BondLibrary π D V)

/-- A call of a function that sets. If it fails, nothing changes. -/
def setThrough (s : BondSession π D) (i : ℕ)
    (f : BondObject D → Option (Except SCStatus (π × BondObject D))) :
    Option (BondSession π D) :=
  match s.bonds[i]? with
  | none => some s
  | some bond =>
    (f bond).map fun
      | .ok (c, bond') => ⟨c, s.bonds.set i bond'⟩
      | .error _ => s

/-- A call, on the system as it then is. -/
def bondStep (s : BondSession π D) (sys : BondSystem) : BondCall D V → Option (BondSession π D)
  | .copyAll =>
    (bondInterfaceCopyAll lib s.prefs sys.resolves).map fun bonds =>
      { s with bonds := s.bonds ++ bonds }
  | .create =>
    match bondInterfaceCreate lib s.prefs sys.saves with
    | .ok (c, bond) => some ⟨c, s.bonds ++ [bond]⟩
    | .error _ => some s
  | .setMembers i members =>
    setThrough s i fun bond => bondInterfaceSetMemberInterfaces lib s.prefs bond sys members
  | .setName i name =>
    setThrough s i fun bond => some (setLocalizedDisplayName lib s.prefs bond name sys.saves)
  | .setOptions i options =>
    setThrough s i fun bond => some (setOptions lib s.prefs bond options sys.saves)
  | .setMode i mode =>
    setThrough s i fun bond => some (setMode lib s.prefs bond mode sys.saves)
  | .remove i =>
    match s.bonds[i]? with
    | none => some s
    | some bond =>
      match bondInterfaceRemove lib s.prefs bond sys.saves with
      | .ok c => some { s with prefs := c }
      | .error _ => some s

/-- A sequence of calls. -/
def bondRun (s : BondSession π D) : List (BondSystem × BondCall D V) → Option (BondSession π D)
  | [] => some s
  | (sys, call) :: calls => (bondStep lib s sys call).bind fun s' => bondRun s' calls

end

/-! ## Sessions -/

variable {lib : BondLibrary π D V} {resolves : BsdName → Bool} {s s' : BondSession π D}
  {c : π} {bond : BondObject D}

/-- What is stored for bonds are dictionaries, the references are linked to the preferences, and
their members can be found. -/
structure WellFormed (lib : BondLibrary π D V) (resolves : BsdName → Bool)
    (s : BondSession π D) : Prop where
  dictionaries : ∀ name v, lib.get s.prefs name ≠ some (.other v)
  linked : ∀ bond ∈ s.bonds, bond.linked = true
  found : ∀ bond ∈ s.bonds, ∀ m ∈ bond.interfaces, resolves m = true

/-- The bonds as they are stored. -/
def storedBonds (lib : BondLibrary π D V) (resolves : BsdName → Bool) (c : π) :
    BsdName → Option (Bond D) :=
  fun name => ((lib.get c name).bind StoredValue.dictionary?).map (readBond resolves)

/-- The stored bonds with the references. -/
def toHandles (lib : BondLibrary π D V) (resolves : BsdName → Bool) (s : BondSession π D) :
    Handles BsdName (Bond D) where
  store := storedBonds lib resolves s.prefs
  handles := s.bonds.map fun bond => (bond.bsdName, bond.toBond)

/-- The bonds that are stored, after one of them is written. -/
theorem storedBonds_set (hlib : lib.Lawful) (c : π) (name : BsdName)
    (dict : CFDictionary (BondValue D V)) :
    storedBonds lib resolves (lib.set c name dict) =
      Function.update (storedBonds lib resolves c) name (some (readBond resolves dict)) := by
  funext other
  by_cases hother : other = name
  · subst hother
    simp [storedBonds, hlib.get_set, StoredValue.dictionary?]
  · rw [Function.update_of_ne hother, storedBonds, hlib.get_set_of_ne c name dict other hother]
    rfl

/-- And after one is removed. -/
theorem storedBonds_remove (hlib : lib.Lawful) (c : π) (name : BsdName) :
    storedBonds lib resolves (lib.remove c name) =
      Function.update (storedBonds lib resolves c) name none := by
  funext other
  by_cases hother : other = name
  · subst hother
    simp [storedBonds, hlib.get_remove]
  · rw [Function.update_of_ne hother, storedBonds, hlib.get_remove_of_ne c name other hother]
    rfl

/-- Each object is seen as the handle of its bond. -/
theorem toHandles_getElem? (lib : BondLibrary π D V) (resolves : BsdName → Bool)
    (s : BondSession π D) (i : ℕ) :
    (toHandles lib resolves s).handles[i]? =
      s.bonds[i]?.map fun bond => (bond.bsdName, bond.toBond) :=
  List.getElem?_map

theorem toHandles_append (lib : BondLibrary π D V) (resolves : BsdName → Bool) (c : π)
    (bonds new : List (BondObject D)) :
    toHandles lib resolves ⟨c, bonds ++ new⟩ =
      ⟨storedBonds lib resolves c,
        (toHandles lib resolves ⟨c, bonds⟩).handles ++
          new.map fun bond => (bond.bsdName, bond.toBond)⟩ := by
  simp [toHandles]

/-- What is written is a dictionary, so there is never anything else. -/
theorem ne_other_of_set (hlib : lib.Lawful) (hdict : ∀ name v, lib.get c name ≠ some (.other v))
    (bondIf : BsdName) (dict : CFDictionary (BondValue D V)) :
    ∀ name v, lib.get (lib.set c bondIf dict) name ≠ some (.other v) := by
  intro name v hv
  by_cases hname : name = bondIf
  · subst hname
    rw [hlib.get_set] at hv
    cases hv
  · rw [hlib.get_set_of_ne c bondIf dict name hname] at hv
    exact hdict name v hv

/-! ## All bonds -/

theorem mapM_eq_map {α β : Type} {f : α → Option β} {g : α → β} {xs : List α}
    (h : ∀ x ∈ xs, f x = some (g x)) : xs.mapM f = some (xs.map g) := by
  induction xs with
  | nil => rfl
  | cons x xs ih =>
    rw [List.mapM_cons, h x List.mem_cons_self, ih fun y hy => h y (List.mem_cons_of_mem x hy)]
    rfl

/-- **What is read of all bonds**: each that is stored, as it is stored. -/
theorem bondInterfaceCopyAll_eq (resolves : BsdName → Bool) (hlib : lib.Lawful)
    (hdict : ∀ name v, lib.get c name ≠ some (.other v)) :
    ∃ bonds, bondInterfaceCopyAll lib c resolves = some bonds ∧
      (∀ bond ∈ bonds, bond.linked = true ∧ (∀ m ∈ bond.interfaces, resolves m = true) ∧
        storedBonds lib resolves c bond.bsdName = some bond.toBond) ∧
      ∀ name b, storedBonds lib resolves c name = some b →
        ∃ bond ∈ bonds, bond.bsdName = name ∧ bond.toBond = b := by
  have hstored : ∀ name ∈ lib.bonds c, ∃ dict, lib.get c name = some (.dictionary dict) := by
    intro name hname
    obtain ⟨v, hv⟩ := Option.isSome_iff_exists.mp ((hlib.mem_bonds c name).mp hname)
    cases v with
    | dictionary dict => exact ⟨dict, hv⟩
    | other v => exact absurd hv (hdict name v)
  let dictOf := fun name => ((lib.get c name).bind StoredValue.dictionary?).getD ∅
  have hget : ∀ name ∈ lib.bonds c, (lib.get c name).bind StoredValue.dictionary? =
      some (dictOf name) := by
    intro name hname
    obtain ⟨dict, hdict⟩ := hstored name hname
    simp [dictOf, hdict, StoredValue.dictionary?]
  refine ⟨(lib.bonds c).map fun name => addConfiguredInterface resolves name (dictOf name),
    mapM_eq_map fun name hname => ?_, ?_, ?_⟩
  · rw [hget name hname]
    rfl
  · intro bond hbond
    obtain ⟨name, hname, rfl⟩ := List.mem_map.mp hbond
    refine ⟨rfl, fun m hm => (List.mem_filter.mp hm).2, ?_⟩
    rw [toBond_addConfiguredInterface, storedBonds]
    show ((lib.get c name).bind _).map _ = _
    rw [hget name hname]
    rfl
  · intro name b hb
    obtain ⟨dict, hdict', rfl⟩ := Option.map_eq_some_iff.mp hb
    have hname : name ∈ lib.bonds c := by
      rw [hlib.mem_bonds, Option.isSome_iff_exists]
      obtain ⟨v, hv, -⟩ := Option.bind_eq_some_iff.mp hdict'
      exact ⟨v, hv⟩
    refine ⟨_, List.mem_map_of_mem hname, rfl, ?_⟩
    obtain rfl := Option.some.inj ((hget name hname).symm.trans hdict')
    exact toBond_addConfiguredInterface name (dictOf name)

/-! ## Creating and removing -/

/-- A new bond has a name that was not in use, and no members. -/
theorem bondInterfaceCreate_ok {ok : Bool} {r : π × BondObject D} (hlib : lib.Lawful)
    (h : bondInterfaceCreate lib c ok = .ok r) :
    lib.get c r.2.bsdName = none ∧
      r.1 = lib.set c r.2.bsdName (Finmap.singleton kInterfaces (.array [])) ∧
      r.2.linked = true ∧ r.2.toBond = (bondInterfaceCreatePrivate "" : BondObject D).toBond := by
  rw [bondInterfaceCreate] at h
  have hunused := Nat.find_spec (exists_unused (lib.bonds c))
  generalize Nat.find (exists_unused (lib.bonds c)) = i at h hunused
  dsimp only at h
  split_ifs at h
  cases h
  rw [hlib.mem_bonds, Option.not_isSome_iff_eq_none] at hunused
  exact ⟨hunused, rfl, rfl, rfl⟩

/-- A new bond is one more handle, and one more entry. -/
theorem create_handleStep (hlib : lib.Lawful) (hs : WellFormed lib resolves s) {ok : Bool}
    {r : π × BondObject D} (h : bondInterfaceCreate lib s.prefs ok = .ok r) :
    WellFormed lib resolves ⟨r.1, s.bonds ++ [r.2]⟩ ∧
      HandleStep (toHandles lib resolves s) .none
        (toHandles lib resolves ⟨r.1, s.bonds ++ [r.2]⟩) := by
  obtain ⟨hnone, hset, hlinked, hbond⟩ := bondInterfaceCreate_ok hlib h
  have hmembers : r.2.interfaces = [] := congrArg Bond.members hbond
  rw [hset]
  refine ⟨⟨ne_other_of_set hlib hs.dictionaries _ _, ?_, ?_⟩, ?_⟩
  · intro bond hbond
    obtain hbond | hbond := List.mem_append.mp hbond
    · exact hs.linked bond hbond
    · rwa [List.mem_singleton.mp hbond]
  · intro bond hbond
    obtain hbond | hbond := List.mem_append.mp hbond
    · exact hs.found bond hbond
    · rw [List.mem_singleton.mp hbond, hmembers]
      exact fun m hm => absurd hm List.not_mem_nil
  · have hcreated := HandleStep.created (toHandles lib resolves s) r.2.bsdName r.2.toBond (by
      show storedBonds lib resolves s.prefs r.2.bsdName = none
      rw [storedBonds, hnone]
      rfl)
    have hstore : Function.update (toHandles lib resolves s).store r.2.bsdName (some r.2.toBond) =
        storedBonds lib resolves
          (lib.set s.prefs r.2.bsdName (Finmap.singleton kInterfaces (.array []))) := by
      rw [storedBonds_set hlib, readBond_singleton, hbond]
      rfl
    rw [hstore] at hcreated
    rw [toHandles_append]
    exact hcreated

/-- Removing takes the entry away, and leaves the handles. -/
theorem remove_handleStep (hlib : lib.Lawful) (hs : WellFormed lib resolves s) {i : ℕ}
    {bond : BondObject D} (hi : s.bonds[i]? = some bond) (ok : Bool) :
    ∀ c, bondInterfaceRemove lib s.prefs bond ok = .ok c →
      WellFormed lib resolves { s with prefs := c } ∧
      HandleStep (toHandles lib resolves s) (.remove i)
        (toHandles lib resolves { s with prefs := c }) := by
  intro c h
  rw [bondInterfaceRemove, if_pos (hs.linked bond (List.mem_of_getElem? hi))] at h
  split_ifs at h
  obtain rfl := Except.ok.inj h
  refine ⟨⟨fun name v hv => ?_, hs.linked, hs.found⟩, ?_⟩
  · by_cases hname : name = bond.bsdName
    · subst hname
      rw [hlib.get_remove] at hv
      cases hv
    · rw [hlib.get_remove_of_ne _ _ _ hname] at hv
      exact hs.dictionaries name v hv
  · have hremoved : toHandles lib resolves { s with prefs := lib.remove s.prefs bond.bsdName } =
        { toHandles lib resolves s with
          store := Function.update (toHandles lib resolves s).store bond.bsdName none } := by
      rw [toHandles, storedBonds_remove hlib]
      rfl
    rw [hremoved]
    refine .removed _ i bond.bsdName bond.toBond ?_
    rw [toHandles_getElem?, hi]
    rfl

/-! ## Setting -/

/-- An edit only adds members that there are. -/
theorem BondEdit.found {edit : BondEdit D} (hedit : edit.Resolves resolves) {b : Bond D}
    (hb : ∀ m ∈ b.members, resolves m = true) :
    ∀ m ∈ (edit.apply b).members, resolves m = true := by
  cases edit with
  | members ms => exact hedit
  | name s => exact hb
  | options d => exact hb
  | mode q => exact hb

section

variable [DecidableEq D] [DecidableEq V]

/-- A function has set a part of a bond. -/
structure SetsPart (lib : BondLibrary π D V) (resolves : BsdName → Bool) (c : π)
    (bond : BondObject D) (r : π × BondObject D) : Prop where
  edit : ∃ edit : BondEdit D, edit.Resolves resolves ∧
    (∃ ok, storeBondEntry lib c bond edit.entry ok = .ok r.1) ∧
    r.2.toBond = edit.apply bond.toBond
  bsdName : r.2.bsdName = bond.bsdName
  linked : r.2.linked = bond.linked

/-- A linked object writes its entry through, unless that changes nothing. -/
theorem storeBondEntry_ok {edit : Edit String (BondValue D V)} {ok : Bool} {c' : π}
    (hlinked : bond.linked = true) (h : storeBondEntry lib c bond edit ok = .ok c') :
    ∃ dict, lib.get c bond.bsdName = some (.dictionary dict) ∧
      (dict.put edit = dict ∧ c' = c ∨ c' = lib.set c bond.bsdName (dict.put edit)) := by
  rw [storeBondEntry, if_pos hlinked] at h
  split at h
  case h_1 => cases h
  case h_2 dict hdict =>
    obtain ⟨v, hget, hv⟩ := Option.bind_eq_some_iff.mp hdict
    cases v with
    | other v => cases hv
    | dictionary d =>
      obtain rfl := Option.some.inj hv
      refine ⟨d, hget, ?_⟩
      dsimp only at h
      split_ifs at h with hsame
      · exact .inl ⟨hsame.symm, (Except.ok.inj h).symm⟩
      · exact .inr (Except.ok.inj h).symm

/-- **What has been set is stored**: only the bond changes, in the part that was set. -/
theorem SetsPart.store {r : π × BondObject D} (hlib : lib.Lawful)
    (h : SetsPart lib resolves c bond r) (hlinked : bond.linked = true) :
    ∃ (edit : BondEdit D) (b : Bond D), edit.Resolves resolves ∧
      r.2.toBond = edit.apply bond.toBond ∧ storedBonds lib resolves c bond.bsdName = some b ∧
      storedBonds lib resolves r.1 =
        Function.update (storedBonds lib resolves c) bond.bsdName (some (edit.apply b)) := by
  obtain ⟨edit, hedit, ⟨ok, hstore⟩, hbond⟩ := h.edit
  obtain ⟨dict, hget, hset⟩ := storeBondEntry_ok hlinked hstore
  have hstored : storedBonds lib resolves c bond.bsdName = some (readBond resolves dict) := by
    simp [storedBonds, hget, StoredValue.dictionary?]
  refine ⟨edit, readBond resolves dict, hedit, hbond, hstored, ?_⟩
  rw [← readBond_put dict hedit]
  obtain ⟨hsame, hc⟩ | hc := hset
  · -- nothing was written, as nothing has changed
    rw [hc, hsame, ← hstored, Function.update_eq_self]
  · rw [hc, storedBonds_set hlib]

theorem SetsPart.dictionaries {r : π × BondObject D} (hlib : lib.Lawful)
    (h : SetsPart lib resolves c bond r) (hlinked : bond.linked = true)
    (hdict : ∀ name v, lib.get c name ≠ some (.other v)) :
    ∀ name v, lib.get r.1 name ≠ some (.other v) := by
  obtain ⟨edit, -, ⟨ok, hstore⟩, -⟩ := h.edit
  obtain ⟨dict, -, ⟨-, hc⟩ | hc⟩ := storeBondEntry_ok hlinked hstore
  · rwa [hc]
  · rw [hc]
    exact ne_other_of_set hlib hdict _ _

/-- What the setters have in common: the object and its entry get the same edit. -/
theorem setsPart_of_store (edit : BondEdit D) (bond' : BondObject D) {ok : Bool}
    {r : π × BondObject D} (hedit : edit.Resolves resolves)
    (hbond : bond'.toBond = edit.apply bond.toBond) (hname : bond'.bsdName = bond.bsdName)
    (hlinked : bond'.linked = bond.linked)
    (h : (storeBondEntry lib c bond edit.entry ok).map (fun c => (c, bond')) = .ok r) :
    SetsPart lib resolves c bond r := by
  cases hstore : storeBondEntry lib c bond edit.entry ok with
  | error status =>
    rw [hstore] at h
    cases h
  | ok c' =>
    rw [hstore] at h
    cases h
    exact ⟨⟨edit, hedit, ⟨ok, hstore⟩, hbond⟩, hname, hlinked⟩

/-- The setters, one after the other. -/
theorem setLocalizedDisplayName_setsPart {name : Option (BondValue D V)} {ok : Bool}
    {r : π × BondObject D} (h : setLocalizedDisplayName lib c bond name ok = .ok r) :
    SetsPart lib resolves c bond r := by
  rw [setLocalizedDisplayName] at h
  cases hname : checkedArgument BondValue.string? name with
  | error status =>
    rw [hname] at h
    cases h
  | ok name =>
    rw [hname] at h
    exact setsPart_of_store (.name name) { bond with localizedName := name } trivial rfl rfl rfl h

theorem setOptions_setsPart {options : Option (BondValue D V)} {ok : Bool}
    {r : π × BondObject D} (h : setOptions lib c bond options ok = .ok r) :
    SetsPart lib resolves c bond r := by
  rw [setOptions] at h
  cases hoptions : checkedArgument BondValue.dictionary? options with
  | error status =>
    rw [hoptions] at h
    cases h
  | ok options =>
    rw [hoptions] at h
    exact setsPart_of_store (.options options) { bond with options } trivial rfl rfl rfl h

theorem setMode_setsPart {mode : Option (BondValue D V)} {ok : Bool} {r : π × BondObject D}
    (h : setMode lib c bond mode ok = .ok r) : SetsPart lib resolves c bond r := by
  rw [setMode] at h
  split at h
  case h_1 => cases h
  case h_2 mode _ =>
    split at h
    case h_1 => cases h
    case h_2 =>
      split_ifs at h
      exact setsPart_of_store (.mode mode) { bond with mode := some mode } trivial rfl rfl rfl h

theorem setMemberInterfaces_setsPart (hlib : lib.Lawful) (sys : BondSystem)
    (hsys : sys.resolves = resolves) (hdict : ∀ name v, lib.get c name ≠ some (.other v))
    (hlinked : bond.linked = true) (hfound : ∀ m ∈ bond.interfaces, resolves m = true)
    (members : List BsdName) :
    ∃ result, bondInterfaceSetMemberInterfaces lib c bond sys members = some result ∧
      ∀ r, result = .ok r → SetsPart lib resolves c bond r := by
  subst hsys
  obtain ⟨bonds, hbonds, -⟩ := bondInterfaceCopyAll_eq sys.resolves hlib hdict
  rw [bondInterfaceSetMemberInterfaces, if_pos hlinked, copyAvailableMemberInterfaces, hbonds]
  simp only [Option.bind_eq_bind, Option.bind_some, pure]
  cases hstatus : members.findSome? (memberStatus bond sys _) with
  | some status => exact ⟨_, rfl, fun r h => (by cases h)⟩
  | none =>
    refine ⟨_, rfl, fun r h => ?_⟩
    refine setsPart_of_store (.members members) { bond with interfaces := members } ?_ rfl rfl rfl h
    -- a member that is allowed is a current one, or one of the system
    intro m hm
    have hm' := List.findSome?_eq_none_iff.mp hstatus m hm
    rw [memberStatus] at hm'
    split_ifs at hm' with hcurrent havailable
    · exact hfound m hcurrent
    · have hmap := (List.mem_filter.mp havailable).1
      obtain ⟨i, hi, rfl⟩ := List.mem_map.mp hmap
      exact sys.resolves_interfaces i (List.mem_filter.mp hi).1

/-! ## Steps -/

/-- **Setting** is a write through a handle. -/
theorem setThrough_handleStep (hlib : lib.Lawful) (hs : WellFormed lib resolves s) {i : ℕ}
    {f : BondObject D → Option (Except SCStatus (π × BondObject D))}
    (hf : ∀ bond ∈ s.bonds, ∃ result, f bond = some result ∧
      ∀ r, result = .ok r → SetsPart lib resolves s.prefs bond r) :
    ∃ s', setThrough s i f = some s' ∧ WellFormed lib resolves s' ∧
      HandleStep (toHandles lib resolves s) (.write i) (toHandles lib resolves s') := by
  rw [setThrough]
  cases hi : s.bonds[i]? with
  | none => exact ⟨s, rfl, hs, .failed _ _⟩
  | some bond =>
    have hmem : bond ∈ s.bonds := List.mem_of_getElem? hi
    obtain ⟨result, hresult, hparts⟩ := hf bond hmem
    simp only [hresult]
    cases result with
    | error status => exact ⟨s, rfl, hs, .failed _ _⟩
    | ok r =>
      have hpart := hparts r rfl
      have hlinked := hs.linked bond hmem
      obtain ⟨edit, b, hedit, hbond, hb, hstore⟩ := hpart.store hlib hlinked
      refine ⟨⟨r.1, s.bonds.set i r.2⟩, rfl, ⟨?_, ?_, ?_⟩, ?_⟩
      · exact hpart.dictionaries hlib hlinked hs.dictionaries
      · intro bond' hbond'
        obtain hbond' | rfl := List.mem_or_eq_of_mem_set hbond'
        · exact hs.linked bond' hbond'
        · exact hpart.linked.trans hlinked
      · intro bond' hbond'
        obtain hbond' | rfl := List.mem_or_eq_of_mem_set hbond'
        · exact hs.found bond' hbond'
        · have hfound := BondEdit.found hedit (b := bond.toBond) (hs.found bond hmem)
          rwa [← hbond] at hfound
      · have hset : toHandles lib resolves ⟨r.1, s.bonds.set i r.2⟩ =
            ⟨Function.update (storedBonds lib resolves s.prefs) bond.bsdName
                (some (edit.apply b)),
              (toHandles lib resolves s).handles.set i
                (bond.bsdName, edit.apply bond.toBond)⟩ := by
          rw [toHandles, hstore, List.map_set, hpart.bsdName, hbond]
          rfl
        rw [hset]
        refine .written _ i bond.bsdName bond.toBond b edit.apply ?_ hb
        rw [toHandles_getElem?, hi]
        rfl

/-- **A call** is a step of the handles. -/
theorem bondStep_handleStep (hlib : lib.Lawful) (hs : WellFormed lib resolves s)
    {sys : BondSystem} (hsys : sys.resolves = resolves) (call : BondCall D V) :
    ∃ s', bondStep lib s sys call = some s' ∧ WellFormed lib resolves s' ∧
      HandleStep (toHandles lib resolves s) call.use (toHandles lib resolves s') := by
  cases call with
  | copyAll =>
    obtain ⟨bonds, hbonds, hshown, -⟩ :=
      bondInterfaceCopyAll_eq resolves hlib hs.dictionaries
    rw [bondStep, hsys, hbonds]
    refine ⟨⟨s.prefs, s.bonds ++ bonds⟩, rfl, ⟨hs.dictionaries, ?_, ?_⟩, ?_⟩
    · exact fun bond hbond => (List.mem_append.mp hbond).elim (hs.linked bond)
        fun h => (hshown bond h).1
    · exact fun bond hbond => (List.mem_append.mp hbond).elim (hs.found bond)
        fun h => (hshown bond h).2.1
    · rw [toHandles_append]
      refine .copied (toHandles lib resolves s) _ fun h hh => ?_
      obtain ⟨bond, hbond, rfl⟩ := List.mem_map.mp hh
      exact (hshown bond hbond).2.2
  | create =>
    rw [bondStep]
    cases hcreate : bondInterfaceCreate lib s.prefs sys.saves with
    | error status => exact ⟨s, rfl, hs, .failed _ _⟩
    | ok r => exact ⟨_, rfl, create_handleStep hlib hs hcreate⟩
  | setMembers i members =>
    refine setThrough_handleStep hlib hs fun bond hbond => ?_
    exact setMemberInterfaces_setsPart hlib sys hsys hs.dictionaries (hs.linked bond hbond)
      (hs.found bond hbond) members
  | setName i name =>
    exact setThrough_handleStep hlib hs fun bond _ =>
      ⟨_, rfl, fun r h => setLocalizedDisplayName_setsPart h⟩
  | setOptions i options =>
    exact setThrough_handleStep hlib hs fun bond _ => ⟨_, rfl, fun r h => setOptions_setsPart h⟩
  | setMode i mode =>
    exact setThrough_handleStep hlib hs fun bond _ => ⟨_, rfl, fun r h => setMode_setsPart h⟩
  | remove i =>
    rw [bondStep]
    cases hi : s.bonds[i]? with
    | none => exact ⟨s, rfl, hs, .failed _ _⟩
    | some bond =>
      dsimp only
      cases hremove : bondInterfaceRemove lib s.prefs bond sys.saves with
      | error status => exact ⟨s, rfl, hs, .failed _ _⟩
      | ok c => exact ⟨_, rfl, remove_handleStep hlib hs hi sys.saves c hremove⟩

/-! ## Runs -/

/-- In a run, no other reference changes or removes the bond of a reference, and it is not removed
through the reference itself. -/
def RunSpares (lib : BondLibrary π D V) (resolves : BsdName → Bool) (i : ℕ) :
    BondSession π D → List (BondSystem × BondCall D V) → Prop
  | _, [] => True
  | s, (sys, call) :: calls =>
    (toHandles lib resolves s).Spares i call.use ∧
      ∀ s', bondStep lib s sys call = some s' → RunSpares lib resolves i s' calls

/-- A run is one of the handles. -/
theorem bondRun_handleSteps (hlib : lib.Lawful) {calls : List (BondSystem × BondCall D V)}
    (hcalls : ∀ call ∈ calls, call.1.resolves = resolves) (hs : WellFormed lib resolves s) :
    ∃ s', bondRun lib s calls = some s' ∧ WellFormed lib resolves s' ∧
      ∀ i, RunSpares lib resolves i s calls →
        Relation.ReflTransGen
          (fun h h' : Handles BsdName (Bond D) => ∃ use, h.Spares i use ∧ HandleStep h use h')
          (toHandles lib resolves s) (toHandles lib resolves s') := by
  induction calls generalizing s with
  | nil => exact ⟨s, rfl, hs, fun i _ => .refl⟩
  | cons call calls ih =>
    obtain ⟨sys, call⟩ := call
    rw [List.forall_mem_cons] at hcalls
    obtain ⟨s', hstep, hs', hhandles⟩ := bondStep_handleStep hlib hs hcalls.1 call
    obtain ⟨s'', hrun, hs'', hrest⟩ := ih hcalls.2 hs'
    refine ⟨s'', ?_, hs'', fun i hspares => ?_⟩
    · rw [bondRun, hstep]
      exact hrun
    · exact .head ⟨call.use, hspares.1, hhandles⟩ (hrest i (hspares.2 s' hstep))

end

/-- **References and stored bonds.** While the same interfaces can be found, every run of calls goes
through, and at its end each reference shows its bond as `SCBondInterfaceCopyAll` reads it, if it
did so at the beginning or is from the run, and if no other reference changed the bond and it was
not removed. -/
theorem bondRun_coherent {π D V : Type} [DecidableEq D] [DecidableEq V]
    (lib : BondLibrary π D V) (hlib : lib.Lawful) (resolves : BsdName → Bool)
    (s : BondSession π D) (hs : WellFormed lib resolves s)
    (calls : List (BondSystem × BondCall D V))
    (hcalls : ∀ call ∈ calls, call.1.resolves = resolves) :
    ∃ s', bondRun lib s calls = some s' ∧ WellFormed lib resolves s' ∧
      ∃ all, bondInterfaceCopyAll lib s'.prefs resolves = some all ∧
        ∀ i, (toHandles lib resolves s).Coherent i → RunSpares lib resolves i s calls →
          ∀ bond ∈ s'.bonds[i]?,
            ∃ stored ∈ all, stored.bsdName = bond.bsdName ∧ stored.toBond = bond.toBond := by
  obtain ⟨s', hrun, hs', hsteps⟩ := bondRun_handleSteps hlib hcalls hs
  obtain ⟨all, hall, -, hshown⟩ :=
    bondInterfaceCopyAll_eq resolves hlib hs'.dictionaries
  refine ⟨s', hrun, hs', all, hall, fun i hcoherent hspares bond hbond => ?_⟩
  have hcoherent' := coherent_of_reflTransGen (hsteps i hspares) hcoherent
  refine hshown bond.bsdName bond.toBond (hcoherent' (bond.bsdName, bond.toBond) ?_)
  rw [toHandles_getElem?, hbond]
  rfl

/-! ## Preferences with bonds only -/

/-- Preferences that are the dictionaries of the bonds. -/
def plainBonds : BondLibrary (AList fun _ : BsdName => StoredValue (BondValue ℕ ℕ)) ℕ ℕ where
  get c name := c.lookup name
  set c name dict := c.insert name (.dictionary dict)
  remove c name := c.erase name
  kCFBooleanTrue := .other 1
  bonds c := c.keys

/-- A dictionary that is stored is read as it was stored. -/
theorem plainBonds_lawful : plainBonds.Lawful where
  get_set c _ _ := AList.lookup_insert c
  get_set_of_ne _ _ _ _ h := AList.lookup_insert_ne h
  get_remove c name := AList.lookup_erase name c
  get_remove_of_ne _ _ _ h := AList.lookup_erase_ne h
  mem_bonds _ _ := AList.lookup_isSome.symm

/-- A system with two interfaces, of which a service uses the second. -/
def en0AndEn1 : BondSystem where
  interfaces := [⟨"en0", true⟩, ⟨"en1", true⟩]
  others := []
  resolves := fun name => name = "en0" ∨ name = "en1"
  resolves_interfaces := by decide
  inService := fun name => name = "en1"
  saves := true

/-- A bond is created, and gets a member, a name and another mode. -/
def oneBondCalls : List (BondSystem × BondCall ℕ ℕ) :=
  [(en0AndEn1, .create), (en0AndEn1, .setMembers 0 ["en0"]),
    (en0AndEn1, .setName 0 (some (.string "Uplink"))),
    (en0AndEn1, .setMode 0 (some (.number 1))), (en0AndEn1, .setMembers 0 ["en1"])]

theorem bondRun_coherent_oneBond :
    ∃ s', bondRun plainBonds ⟨∅, []⟩ oneBondCalls = some s' ∧
      WellFormed plainBonds en0AndEn1.resolves s' ∧
      ∃ all, bondInterfaceCopyAll plainBonds s'.prefs en0AndEn1.resolves = some all ∧
        ∀ i, (toHandles plainBonds en0AndEn1.resolves ⟨∅, []⟩).Coherent i →
          RunSpares plainBonds en0AndEn1.resolves i ⟨∅, []⟩ oneBondCalls →
          ∀ bond ∈ s'.bonds[i]?,
            ∃ stored ∈ all, stored.bsdName = bond.bsdName ∧ stored.toBond = bond.toBond :=
  bondRun_coherent plainBonds plainBonds_lawful en0AndEn1.resolves ⟨∅, []⟩
    ⟨fun name v h => (by cases h), fun bond h => absurd h List.not_mem_nil,
      fun bond h => absurd h List.not_mem_nil⟩
    oneBondCalls (by simp [oneBondCalls])

end ConfigdExtra.BondSetters
