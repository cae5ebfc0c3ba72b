import ConfigdExtra.BondUpdate
import ConfigdExtra.GuardedRun
import ConfigdExtra.InterfaceCache
import ConfigdExtra.StoredInterfaces

/-!
# The bonds of the preferences

`SCBondInterfaceCreate`, `SCBondInterfaceSetMemberInterfaces` and `SCBondInterfaceRemove`, called
through handles, each of which keeps the members that it saw or set last. What is stored are the
names of the members. Whether a member may be set is decided on interfaces, which differ where
their types do.

* `BondPrefs`, `BondHandle`, `BondSession` — the stored bonds, the handles, and both.
* `BondFramework`, `BondSystem` — what the calls use, and what a call finds around it.
* `bondInterfaceCopyAll`, `bondInterfaceCreate`, `bondInterfaceSetMemberInterfaces`,
  `bondInterfaceRemove` — the calls.
* `BondPrefs.Exclusive` — no interface is stored twice.
* `setMemberInterfaces_exclusive_iff` — when a successful call keeps it so.
* `bondRun_exclusive_iff` — when a sequence of calls does.
-/

namespace ConfigdExtra

/-! ## The stored bonds and their handles -/

/-- `/VirtualNetworkInterfaces/Bond`: by the name of the bond, its list of members. -/
abbrev BondPrefs : Type := AList fun _ : BsdName => List BsdName

/-- `SCBondInterfaceRef`, of which the calls read the name and the members. -/
structure BondHandle where
  /-- `entity_device` -/
  bsdName : BsdName
  /-- `bond.interfaces` -/
  interfaces : List SCNetworkInterface

/-- The preferences and the handles on them. -/
structure BondSession where
  /-- the stored bonds -/
  prefs : BondPrefs
  /-- the handles, the oldest first -/
  handles : List BondHandle

/-- An interface of the system. -/
structure BondCandidate where
  interface : SCNetworkInterface
  /-- `supportsBond` -/
  supportsBond : Bool

/-- What the calls use of the framework. -/
structure BondFramework where
  /-- `CFHash`, on strings -/
  cfHash : String → UInt64
  /-- `SCNetworkInterfaceGetBSDName` -/
  getBSDName : SCNetworkInterface → Option BsdName
  /-- `__SCNetworkInterfaceGetNonLocalizedDisplayName`, of a copy of an interface -/
  copyName : SCNetworkInterface → Option String

/-- What a call finds around it. -/
structure BondSystem where
  /-- the registry -/
  registry : SystemInterfaces
  /-- `copy_ppp_entity`, for the names of `IFF_POINTOPOINT` interfaces -/
  pppEntity : BsdName → Option InterfaceEntity
  /-- `INTERFACES` of the companion preferences, if the preferences are not the default ones -/
  niPrefs : Option StoredList
  /-- `__SCNetworkInterfaceCopyAll_IONetworkInterface` -/
  interfaces : List BondCandidate
  /-- the members of the bridges and the physical interfaces of the VLANs -/
  others : List SCNetworkInterface
  /-- `__SCNetworkServiceExistsForInterface`, of the enabled services -/
  inService : SCNetworkInterface → Bool
  /-- `SCPreferencesPathSetValue` and `SCPreferencesPathRemoveValue` succeed -/
  saves : Bool

/-- The errors of the calls. -/
inductive SCStatus where
  /-- `kSCStatusFailed` -/
  | failed
  /-- `kSCStatusInvalidArgument` -/
  | invalidArgument
  /-- `kSCStatusKeyExists` -/
  | keyExists
  /-- the preferences could not be written -/
  | notSaved
  /-- `NULL` was appended to an array, which ends the process -/
  | fault
  deriving DecidableEq, Repr

section

variable (fw : BondFramework) (sys : BondSystem)

/-- `__SCNetworkInterfaceCreateCopy`, which does not copy `active` and `matchingMACs` -/
def createMemberCopy : SCNetworkInterface → SCNetworkInterface
  | .mk info bond bridge vlan none =>
    .mk { info with
      name := fw.copyName (.mk info bond bridge vlan none)
      active := false
      matchingMACs := none } bond bridge vlan none
  | .mk info bond bridge vlan (some interface) =>
    .mk { info with
      name := fw.copyName (.mk info bond bridge vlan (some interface))
      active := false
      matchingMACs := none } bond bridge vlan (some (createMemberCopy interface))

/-- `_SCNetworkInterfaceCreateWithBSDName`, with `kIncludeNoVirtualInterfaces` -/
def createWithBSDName (bsdName : BsdName) : Option SCNetworkInterface :=
  createWithEntity sys.registry .system <|
    match sys.pppEntity bsdName with
    | none => memberEntity bsdName
    | some entity => { entity with noBond := true, noBridge := true, noVLAN := true }

/-- `add_interface`: the interface that is made of a stored name. -/
def addInterface (ifName : BsdName) : Option SCNetworkInterface :=
  (sys.niPrefs.bind fun ifList => createUsingBSDName sys.registry ifList ifName).orElse
    fun _ => createWithBSDName sys ifName

/-- The interface that a new handle shows for a stored name. -/
def storedMember (ifName : BsdName) : Option SCNetworkInterface :=
  (addInterface sys ifName).map (createMemberCopy fw)

/-- `add_configured_interface`: a handle shows the members that are found. -/
def addConfiguredInterface (bondIf : BsdName) (interfaces : List BsdName) : BondHandle where
  bsdName := bondIf
  interfaces := interfaces.filterMap (storedMember fw sys)

/-- `SCBondInterfaceCopyAll` -/
def bondInterfaceCopyAll (prefs : BondPrefs) : List BondHandle :=
  prefs.entries.map fun e => addConfiguredInterface fw sys e.1 e.2

/-- `__SCBondInterfaceListCollectMembers` -/
def collectMembers (interfaces : List BondHandle) : List SCNetworkInterface :=
  interfaces.flatMap (·.interfaces)

/-- `CFSetContainsValue`, once these were added: one with the same hash is equal. -/
def cfSetContains (added : List SCNetworkInterface) (i : SCNetworkInterface) : Bool :=
  added.any fun e => decide (e.hash fw.cfHash = i.hash fw.cfHash) && e.equal i

/-- `CFArrayContainsValue` -/
def cfArrayContains (l : List SCNetworkInterface) (i : SCNetworkInterface) : Bool :=
  l.any (·.equal i)

/-- `SCBondInterfaceCopyAvailableMemberInterfaces` -/
def copyAvailableMemberInterfaces (prefs : BondPrefs) : List SCNetworkInterface :=
  let excluded := collectMembers (bondInterfaceCopyAll fw sys prefs) ++ sys.others
  ((sys.interfaces.filter (·.supportsBond)).map (·.interface)).filter
    fun i => !cfSetContains fw excluded i

end

/-! ## The calls -/

/-- The name of a new bond. -/
def bondName (i : ℕ) : BsdName := "bond" ++ i.repr

/-- The loop of `SCBondInterfaceCreate`: the first name from `bond<i>` on that is not in use, if
it is among the next `n`. -/
def unusedBond (prefs : BondPrefs) : ℕ → ℕ → BsdName
  | 0, i => bondName i
  | n + 1, i => if bondName i ∈ prefs.keys then unusedBond prefs n (i + 1) else bondName i

/-- `SCBondInterfaceCreate` -/
def bondInterfaceCreate (sys : BondSystem) (prefs : BondPrefs) :
    Except SCStatus (BondPrefs × BondHandle) :=
  let bondIf := unusedBond prefs prefs.keys.length 0
  if sys.saves then
    .ok (prefs.insert bondIf [], { bsdName := bondIf, interfaces := [] })
  else
    .error .notSaved

/-- `SCBondInterfaceRemove` -/
def bondInterfaceRemove (sys : BondSystem) (prefs : BondPrefs) (bond : BondHandle) :
    Except SCStatus BondPrefs :=
  if bond.bsdName ∈ prefs.keys ∧ sys.saves then .ok (prefs.erase bond.bsdName)
  else .error .notSaved

section

variable (fw : BondFramework) (sys : BondSystem) (prefs : BondPrefs) (bond : BondHandle)

/-- Whether one member may be set, and the error if not. -/
def memberStatus (member : SCNetworkInterface) : Option SCStatus :=
  if cfArrayContains bond.interfaces member then
    -- current members are allowed
    none
  else if cfArrayContains (copyAvailableMemberInterfaces fw sys prefs) member then
    -- available members cannot be associated with any other network services
    if sys.inService member then some .keyExists else none
  else
    some .invalidArgument

/-- `__SCBondInterfaceSetMemberInterfaces`. Nothing is written if nothing changes. -/
def setMemberInterfaces (members : List SCNetworkInterface) :
    Except SCStatus (BondPrefs × BondHandle) :=
  match prefs.lookup bond.bsdName, members.mapM fw.getBSDName with
  | none, _ => .error .failed
  | some _, none => .error .fault
  | some interfaces, some newMembers =>
    let bond' := { bond with interfaces := members.map (createMemberCopy fw) }
    if interfaces = newMembers then .ok (prefs, bond')
    else if sys.saves then .ok (prefs.insert bond.bsdName newMembers, bond')
    else .error .notSaved

/-- `SCBondInterfaceSetMemberInterfaces` -/
def bondInterfaceSetMemberInterfaces (members : List SCNetworkInterface) :
    Except SCStatus (BondPrefs × BondHandle) :=
  match members.findSome? (memberStatus fw sys prefs bond) with
  | some status => .error status
  | none => setMemberInterfaces fw sys prefs bond members

end

/-! ## Sequences of calls -/

/-- A call. Handles are given by their position. -/
inductive BondRequest where
  /-- take handles on all stored bonds -/
  | copyAll
  /-- create a bond, and take a handle on it -/
  | create
  /-- set the members of a bond -/
  | setMembers (handle : ℕ) (members : List SCNetworkInterface)
  /-- remove a bond -/
  | remove (handle : ℕ)

section

variable (fw : BondFramework)

/-- The outcome of a call. -/
def bondRequest (s : BondSession) (sys : BondSystem) : BondRequest → Except SCStatus BondSession
  | .copyAll => .ok { s with handles := s.handles ++ bondInterfaceCopyAll fw sys s.prefs }
  | .create =>
    (bondInterfaceCreate sys s.prefs).map fun r => { prefs := r.1, handles := s.handles ++ [r.2] }
  | .setMembers handle members =>
    match s.handles[handle]? with
    | none => .error .invalidArgument
    | some bond =>
      (bondInterfaceSetMemberInterfaces fw sys s.prefs bond members).map fun r =>
        { prefs := r.1, handles := s.handles.set handle r.2 }
  | .remove handle =>
    match s.handles[handle]? with
    | none => .error .invalidArgument
    | some bond =>
      (bondInterfaceRemove sys s.prefs bond).map fun prefs => { s with prefs := prefs }

/-- A call that fails changes nothing. -/
def bondStep (s : BondSession) (call : BondSystem × BondRequest) : BondSession :=
  match bondRequest fw s call.1 call.2 with
  | .ok s' => s'
  | .error _ => s

/-- The session after a sequence of calls. -/
def bondRun (s : BondSession) (calls : List (BondSystem × BondRequest)) : BondSession :=
  calls.foldl (bondStep fw) s

end

/-! ## Exclusive membership -/

/-- No interface is stored twice, in one bond or in two. -/
structure BondPrefs.Exclusive (prefs : BondPrefs) : Prop where
  /-- each list is duplicate-free -/
  nodup : ∀ n ms, prefs.lookup n = some ms → ms.Nodup
  /-- two lists are disjoint -/
  disjoint : ∀ n ms n' ms' m, prefs.lookup n = some ms → prefs.lookup n' = some ms' →
    m ∈ ms → m ∈ ms' → n = n'

variable {fw : BondFramework} {sys : BondSystem} {prefs : BondPrefs} {bond : BondHandle}
  {members : List SCNetworkInterface}

theorem bondName_injective : Function.Injective bondName := by
  intro i j h
  have hrepr : i.repr = j.repr := String.append_right_inj "bond" |>.mp h
  have hdigits := congrArg String.toList hrepr
  rw [Nat.toList_repr, Nat.toList_repr] at hdigits
  rw [← Nat.ofDigitChars_ten_toDigits (n := i), hdigits, Nat.ofDigitChars_ten_toDigits]

/-- The name of a new bond is not in use. -/
theorem unusedBond_notMem (prefs : BondPrefs) :
    unusedBond prefs prefs.keys.length 0 ∉ prefs.keys := by
  -- the names tried so far are all in use, and there are not more of them than keys
  have hloop : ∀ k i, i + k = prefs.keys.length → (∀ j < i, bondName j ∈ prefs.keys) →
      unusedBond prefs k i ∉ prefs.keys := by
    intro k
    induction k with
    | zero =>
      intro i hi hused hin
      have hsub : (List.range (i + 1)).map bondName ⊆ prefs.keys := by
        intro x hx
        obtain ⟨j, hj, rfl⟩ := List.mem_map.mp hx
        rcases Nat.lt_succ_iff_lt_or_eq.mp (List.mem_range.mp hj) with hj | rfl
        · exact hused j hj
        · exact hin
      have hnodup : ((List.range (i + 1)).map bondName).Nodup :=
        List.nodup_range.map bondName_injective
      have hle := (hnodup.subperm hsub).length_le
      rw [List.length_map, List.length_range] at hle
      omega
    | succ k ih =>
      intro i hi hused
      rw [unusedBond]
      split
      · next hin =>
        refine ih (i + 1) (by omega) fun j hj => ?_
        rcases Nat.lt_succ_iff_lt_or_eq.mp hj with hj | rfl
        · exact hused j hj
        · exact hin
      · next hnot => exact hnot
  exact hloop _ 0 (Nat.zero_add _) fun j hj => absurd hj (Nat.not_lt_zero j)

/-- The name is stored for another bond. -/
def BondPrefs.StoredElsewhere (prefs : BondPrefs) (bond : BondHandle) (name : BsdName) : Prop :=
  ∃ n ms, n ≠ bond.bsdName ∧ prefs.lookup n = some ms ∧ name ∈ ms

/-- The interface that a handle shows for the name of a member equals every interface of the
system that the member may stand for, and has its hash. That interface is then not available
while the name is stored. -/
def Recognized (fw : BondFramework) (sys : BondSystem) (member : SCNetworkInterface)
    (name : BsdName) : Prop :=
  ∀ a ∈ sys.interfaces, a.supportsBond = true → a.interface.equal member = true →
    ∃ i, storedMember fw sys name = some i ∧
      i.hash fw.cfHash = a.interface.hash fw.cfHash ∧ i.equal a.interface = true

/-- A list of members that a call may store: no name is given twice, a member that the handle
shows is not stored for another bond, and where the name of another member is stored so, the
interface is recognized by it. -/
structure ExclusiveList (fw : BondFramework) (sys : BondSystem) (prefs : BondPrefs)
    (bond : BondHandle) (members : List SCNetworkInterface) : Prop where
  /-- the list has no name twice -/
  nodup : (members.map fw.getBSDName).Nodup
  /-- what the handle shows has not gone to another bond -/
  current : ∀ m ∈ members, cfArrayContains bond.interfaces m = true →
    ∀ name, fw.getBSDName m = some name → ¬ prefs.StoredElsewhere bond name
  /-- what has gone to another bond is seen to be there -/
  recognized : ∀ m ∈ members, cfArrayContains bond.interfaces m = false →
    ∀ name, fw.getBSDName m = some name → prefs.StoredElsewhere bond name →
      Recognized fw sys m name

/-- What a handle shows of a stored name is excluded. -/
theorem mem_excluded {n name : BsdName} {ms : List BsdName} (hlookup : prefs.lookup n = some ms)
    (hname : name ∈ ms) {i : SCNetworkInterface} (hi : storedMember fw sys name = some i) :
    i ∈ collectMembers (bondInterfaceCopyAll fw sys prefs) ++ sys.others := by
  refine List.mem_append_left _ (List.mem_flatMap.mpr ⟨addConfiguredInterface fw sys n ms, ?_, ?_⟩)
  · have hentry : (⟨n, ms⟩ : Sigma fun _ : BsdName => List BsdName) ∈ prefs.entries :=
      AList.mem_lookup_iff.mp hlookup
    exact List.mem_map_of_mem hentry
  · exact List.mem_filterMap.mpr ⟨name, hname, hi⟩

/-- A member that is recognized by its name is not available while the name is stored. -/
theorem Recognized.not_available {m : SCNetworkInterface} {name : BsdName}
    (h : Recognized fw sys m name) {n : BsdName} {ms : List BsdName}
    (hlookup : prefs.lookup n = some ms) (hname : name ∈ ms) :
    cfArrayContains (copyAvailableMemberInterfaces fw sys prefs) m = false := by
  rw [← Bool.not_eq_true]
  intro hcontains
  obtain ⟨a, ha, hequal⟩ := List.any_eq_true.mp hcontains
  obtain ⟨hmem, hnot⟩ := List.mem_filter.mp ha
  obtain ⟨c, hc, rfl⟩ := List.mem_map.mp hmem
  obtain ⟨hc, hsupports⟩ := List.mem_filter.mp hc
  obtain ⟨i, hi, hhash, hsame⟩ := h c hc hsupports hequal
  have hfound : cfSetContains fw (collectMembers (bondInterfaceCopyAll fw sys prefs) ++
      sys.others) c.interface = true :=
    List.any_eq_true.mpr ⟨i, mem_excluded hlookup hname hi, by simp [hhash, hsame]⟩
  rw [hfound] at hnot
  cases hnot

/-- A successful call stores the names of the members, and nothing else changes. -/
theorem setMemberInterfaces_ok {prefs' : BondPrefs} {bond' : BondHandle}
    (h : setMemberInterfaces fw sys prefs bond members = .ok (prefs', bond')) :
    ∃ names, members.mapM fw.getBSDName = some names ∧
      prefs'.lookup bond.bsdName = some names ∧
      ∀ n, n ≠ bond.bsdName → prefs'.lookup n = prefs.lookup n := by
  rw [setMemberInterfaces] at h
  split at h
  · cases h
  · cases h
  · next interfaces newMembers hlookup hnames =>
    refine ⟨newMembers, hnames, ?_⟩
    dsimp only at h
    split at h
    · next hsame =>
      obtain ⟨rfl, -⟩ := Prod.mk.inj (Except.ok.inj h)
      exact ⟨hsame ▸ hlookup, fun _ _ => rfl⟩
    · split at h
      · obtain ⟨rfl, -⟩ := Prod.mk.inj (Except.ok.inj h)
        exact ⟨AList.lookup_insert _, fun n hn => AList.lookup_insert_ne hn⟩
      · cases h

/-- The names that are stored are those of the members. -/
theorem map_eq_of_mapM {α β : Type} {f : α → Option β} {l : List α} {l' : List β}
    (h : l.mapM f = some l') : l.map f = l'.map some := by
  induction l generalizing l' with
  | nil =>
    obtain rfl : [] = l' := by simpa using h
    rfl
  | cons a l ih =>
    simp only [List.mapM_cons, Option.pure_def, Option.bind_eq_bind, Option.bind_eq_some_iff,
      Option.some.injEq] at h
    obtain ⟨b, hb, l'', hl, rfl⟩ := h
    rw [List.map_cons, List.map_cons, hb, ih hl]

/-- **One call.** A successful call keeps membership exclusive exactly when its list does. -/
theorem setMemberInterfaces_exclusive_iff {prefs' : BondPrefs} {bond' : BondHandle}
    (hprefs : prefs.Exclusive)
    (h : bondInterfaceSetMemberInterfaces fw sys prefs bond members = .ok (prefs', bond')) :
    prefs'.Exclusive ↔ ExclusiveList fw sys prefs bond members := by
  rw [bondInterfaceSetMemberInterfaces] at h
  split at h
  · cases h
  next hstatus =>
  have hallowed := List.findSome?_eq_none_iff.mp hstatus
  obtain ⟨names, hnames, hself, hother⟩ := setMemberInterfaces_ok h
  have hmap := map_eq_of_mapM hnames
  have hmem : ∀ {m name}, m ∈ members → fw.getBSDName m = some name → name ∈ names := by
    intro m name hm hname
    have hin : some name ∈ names.map some := hmap ▸ hname ▸ List.mem_map_of_mem hm
    obtain ⟨_, hname', heq⟩ := List.mem_map.mp hin
    exact Option.some.inj heq ▸ hname'
  have hof : ∀ {name}, name ∈ names → ∃ m ∈ members, fw.getBSDName m = some name := by
    intro name hname
    have hin : some name ∈ members.map fw.getBSDName := hmap ▸ List.mem_map_of_mem hname
    exact List.mem_map.mp hin
  have hnodup : (members.map fw.getBSDName).Nodup ↔ names.Nodup := by
    rw [hmap, List.nodup_map_iff (Option.some_injective _)]
  constructor
  · intro hprefs'
    have hnot : ∀ m ∈ members, ∀ name, fw.getBSDName m = some name →
        ¬ prefs.StoredElsewhere bond name := by
      rintro m hm name hname ⟨n, ms, hne, hn, hms⟩
      exact hne (hprefs'.disjoint n ms bond.bsdName names name (hother n hne ▸ hn) hself hms
        (hmem hm hname))
    exact ⟨hnodup.mpr (hprefs'.nodup _ _ hself), fun m hm _ => hnot m hm,
      fun m hm _ name hname hstored => absurd hstored (hnot m hm name hname)⟩
  · intro hkeeps
    -- the name of a member is stored for this bond only
    have honly : ∀ name ∈ names, ∀ n ms, prefs.lookup n = some ms → name ∈ ms →
        n = bond.bsdName := by
      intro name hname n ms hn hms
      obtain ⟨m, hm, hname⟩ := hof hname
      by_contra hne
      have hstored : prefs.StoredElsewhere bond name := ⟨n, ms, hne, hn, hms⟩
      have hm' := hallowed m hm
      rw [memberStatus] at hm'
      split at hm'
      · next hcurrent => exact hkeeps.current m hm hcurrent name hname hstored
      · next hcurrent =>
        have hrecognized := hkeeps.recognized m hm (Bool.not_eq_true _ ▸ hcurrent) name hname
          hstored
        rw [hrecognized.not_available hn hms, if_neg Bool.false_ne_true] at hm'
        cases hm'
    constructor
    · intro n ms hn
      by_cases hne : n = bond.bsdName
      · subst hne
        rw [hself] at hn
        exact Option.some.inj hn ▸ hnodup.mp hkeeps.nodup
      · exact hprefs.nodup n ms (hother n hne ▸ hn)
    · intro n ms n' ms' m hn hn' hm hm'
      by_cases hne : n = bond.bsdName
      · by_cases hne' : n' = bond.bsdName
        · rw [hne, hne']
        · subst hne
          rw [hself] at hn
          obtain rfl := Option.some.inj hn
          exact (honly m hm n' ms' (hother n' hne' ▸ hn') hm').symm
      · by_cases hne' : n' = bond.bsdName
        · subst hne'
          rw [hself] at hn'
          obtain rfl := Option.some.inj hn'
          exact honly m hm' n ms (hother n hne ▸ hn) hm
        · exact hprefs.disjoint n ms n' ms' m (hother n hne ▸ hn) (hother n' hne' ▸ hn') hm hm'

/-- A new bond gets a name that is not in use, and no members. -/
theorem bondInterfaceCreate_ok {r : BondPrefs × BondHandle}
    (h : bondInterfaceCreate sys prefs = .ok r) :
    r.2.bsdName ∉ prefs.keys ∧ r.1 = prefs.insert r.2.bsdName [] := by
  rw [bondInterfaceCreate] at h
  split at h
  · obtain rfl := Except.ok.inj h
    exact ⟨unusedBond_notMem prefs, rfl⟩
  · cases h

/-- A bond without members shares none. -/
theorem BondPrefs.Exclusive.insert_nil (h : prefs.Exclusive) (bondIf : BsdName) :
    BondPrefs.Exclusive (AList.insert bondIf [] prefs) := by
  -- a list with a member is one that was there
  have hold : ∀ n ms m, (AList.insert bondIf [] prefs).lookup n = some ms → m ∈ ms →
      prefs.lookup n = some ms := by
    intro n ms m hn hm
    by_cases hne : n = bondIf
    · subst hne
      rw [AList.lookup_insert] at hn
      rw [← Option.some.inj hn] at hm
      cases hm
    · rwa [AList.lookup_insert_ne hne] at hn
  constructor
  · intro n ms hn
    cases ms with
    | nil => exact List.nodup_nil
    | cons m l => exact h.nodup n _ (hold n _ m hn List.mem_cons_self)
  · intro n ms n' ms' m hn hn' hm hm'
    exact h.disjoint n ms n' ms' m (hold n ms m hn hm) (hold n' ms' m hn' hm') hm hm'

theorem BondPrefs.Exclusive.erase (h : prefs.Exclusive) (bondIf : BsdName) :
    BondPrefs.Exclusive (AList.erase bondIf prefs) := by
  have hold : ∀ n ms, (AList.erase bondIf prefs).lookup n = some ms → prefs.lookup n = some ms := by
    intro n ms hn
    by_cases hne : n = bondIf
    · subst hne
      rw [AList.lookup_erase] at hn
      cases hn
    · rwa [AList.lookup_erase_ne hne] at hn
  exact ⟨fun n ms hn => h.nodup n ms (hold n ms hn),
    fun n ms n' ms' m hn hn' => h.disjoint n ms n' ms' m (hold n ms hn) (hold n' ms' hn')⟩

/-- A call that sets the members of a bond keeps membership exclusive, if it succeeds. -/
def BondRequest.KeepsExclusive (fw : BondFramework) (s : BondSession)
    (call : BondSystem × BondRequest) : Prop :=
  match call.2 with
  | .setMembers handle members => ∀ bond, s.handles[handle]? = some bond →
    (∃ s', bondRequest fw s call.1 call.2 = .ok s') →
      ExclusiveList fw call.1 s.prefs bond members
  | _ => True

theorem bondStep_exclusive_iff (s : BondSession) (call : BondSystem × BondRequest)
    (h : s.prefs.Exclusive) :
    (bondStep fw s call).prefs.Exclusive ↔ BondRequest.KeepsExclusive fw s call := by
  obtain ⟨sys, request⟩ := call
  cases request with
  | copyAll => exact iff_of_true h trivial
  | create =>
    refine iff_of_true ?_ trivial
    rw [bondStep, bondRequest]
    dsimp only
    cases hcreate : bondInterfaceCreate sys s.prefs with
    | ok r =>
      obtain ⟨-, hprefs⟩ := bondInterfaceCreate_ok hcreate
      change r.1.Exclusive
      rw [hprefs]
      -- a bond that is made has no members yet
      exact h.insert_nil _
    | error => exact h
  | remove handle =>
    refine iff_of_true ?_ trivial
    rw [bondStep]
    dsimp only
    cases hbond : s.handles[handle]? with
    | none =>
      rw [bondRequest, hbond]
      exact h
    | some bond =>
      rw [bondRequest, hbond]
      dsimp only
      rw [bondInterfaceRemove]
      by_cases hok : bond.bsdName ∈ s.prefs.keys ∧ sys.saves = true
      · rw [if_pos hok]
        exact h.erase _
      · rw [if_neg hok]
        exact h
  | setMembers handle members =>
    rw [bondStep, BondRequest.KeepsExclusive]
    dsimp only
    cases hbond : s.handles[handle]? with
    | none =>
      refine iff_of_true ?_ fun bond hbond' => absurd hbond' (by simp)
      rw [bondRequest, hbond]
      exact h
    | some bond =>
      rw [bondRequest, hbond]
      dsimp only
      cases hset : bondInterfaceSetMemberInterfaces fw sys s.prefs bond members with
      | error status =>
        refine iff_of_true h fun bond' _ hok => ?_
        obtain ⟨s', hs'⟩ := hok
        cases hs'
      | ok r =>
        obtain ⟨prefs', bond'⟩ := r
        refine (setMemberInterfaces_exclusive_iff h hset).trans ?_
        constructor
        · -- the handle is the one that was used
          rintro hkeeps bond'' hbond'' -
          exact Option.some.inj hbond'' ▸ hkeeps
        · intro hkeeps
          exact hkeeps bond rfl ⟨_, rfl⟩

/-- **Exclusive membership.** From stored bonds with disjoint duplicate-free lists, the stored
lists stay so after every call of a sequence if and only if each of its calls keeps them so. -/
theorem bondRun_exclusive_iff (fw : BondFramework) (s : BondSession) (h : s.prefs.Exclusive)
    (calls : List (BondSystem × BondRequest)) :
    (∀ before after, calls = before ++ after → (bondRun fw s before).prefs.Exclusive) ↔
      ∀ before call after, calls = before ++ call :: after →
        BondRequest.KeepsExclusive fw (bondRun fw s before) call :=
  Run.forall_prefix_iff (I := fun s : BondSession => s.prefs.Exclusive) bondStep_exclusive_iff h
    calls

/-- Nothing is stored in new preferences. -/
theorem BondPrefs.exclusive_empty : BondPrefs.Exclusive ∅ where
  nodup n ms h := by cases h
  disjoint n ms n' ms' m h := by cases h

/-- An interface of the system. -/
def plainInterface (interfaceType : String) (bsdName : BsdName) : SCNetworkInterface :=
  .mk { InterfaceInfo.new interfaceType with
    name := some bsdName
    entityDevice := some bsdName
    entityType := some "Ethernet" } none none none none

/-- `en0` -/
def systemEn0 : SCNetworkInterface := plainInterface kSCNetworkInterfaceTypeEthernet "en0"

/-- `en1` -/
def systemEn1 : SCNetworkInterface := plainInterface kSCNetworkInterfaceTypeEthernet "en1"

/-- The name of an interface is that of its device. -/
def plainFramework : BondFramework where
  cfHash s := s.length.toUInt64
  getBSDName i := i.info.entityDevice
  copyName i := i.info.name

/-- A system with two interfaces, `en0` and `en1`. -/
def twoInterfaces : BondSystem where
  registry :=
    { byBSDName := fun _ name =>
        some ([systemEn0, systemEn1].filter fun i => i.info.entityDevice = some name)
      byTTYBaseName := fun _ _ => some []
      byTTYDevice := fun _ _ => some []
      defaultPrefs := none
      matchesName := fun _ _ => false }
  pppEntity _ := none
  niPrefs := none
  interfaces := [⟨systemEn0, true⟩, ⟨systemEn1, true⟩]
  others := []
  inService _ := false
  saves := true

/-- A bond is created, given `en0` and `en1`, and then `en1` alone. -/
theorem bondRun_exclusive_iff_bond0 :
    let s : BondSession := { prefs := ∅, handles := [] }
    let calls : List (BondSystem × BondRequest) := [(twoInterfaces, .create),
      (twoInterfaces, .setMembers 0 [systemEn0, systemEn1]),
      (twoInterfaces, .setMembers 0 [systemEn1])]
    (∀ before after, calls = before ++ after → (bondRun plainFramework s before).prefs.Exclusive) ↔
      ∀ before call after, calls = before ++ call :: after →
        BondRequest.KeepsExclusive plainFramework (bondRun plainFramework s before) call :=
  bondRun_exclusive_iff plainFramework { prefs := ∅, handles := [] } BondPrefs.exclusive_empty _

/-- The companion preferences, in which `en1` is an AirPort interface. -/
def otherEn1 : StoredList :=
  some [some (storageEntityOf
    (.mk { InterfaceInfo.new kSCNetworkInterfaceTypeIEEE80211 with
      name := some "Wi-Fi"
      entityDevice := some "en1"
      entityType := some "Ethernet"
      builtin := true
      namePrefix := some "en"
      type := some 6
      unit := some 1
      address := some [0, 17, 34, 51, 68, 86]
      path := some "IOService:/en1" } none none none none) ⟨some "Wi-Fi", none, none, none⟩)]

/-- `en0` goes from `bond0` to `bond1`, and a second handle on `bond0`, which has not seen it go,
takes it back without taking it from `bond1`. A list may name an interface twice. And `en1` goes
into two bonds where the companion preferences have another `en1`. -/
theorem staleHandle_not_exclusive :
    let s : BondSession := { prefs := ∅, handles := [] }
    let calls : List (BondSystem × BondRequest) := [(twoInterfaces, .create),
      (twoInterfaces, .setMembers 0 [systemEn0]), (twoInterfaces, .copyAll),
      (twoInterfaces, .setMembers 0 []), (twoInterfaces, .create),
      (twoInterfaces, .setMembers 2 [systemEn0]), (twoInterfaces, .setMembers 1 [systemEn0])]
    let calls' : List (BondSystem × BondRequest) := [(twoInterfaces, .create),
      (twoInterfaces, .setMembers 0 [systemEn0, systemEn0])]
    let otherPrefs : BondSystem := { twoInterfaces with niPrefs := some otherEn1 }
    let calls'' : List (BondSystem × BondRequest) := [(otherPrefs, .create),
      (otherPrefs, .setMembers 0 [systemEn1]), (otherPrefs, .create),
      (otherPrefs, .setMembers 1 [systemEn1])]
    s.prefs.Exclusive ∧ ¬ (bondRun plainFramework s calls).prefs.Exclusive ∧
      ¬ (bondRun plainFramework s calls').prefs.Exclusive ∧
      ¬ (bondRun plainFramework s calls'').prefs.Exclusive := by
  intro s calls calls' otherPrefs calls''
  refine ⟨BondPrefs.exclusive_empty, fun h => ?_, fun h => ?_, fun h => ?_⟩
  · have hname := h.disjoint "bond0" ["en0"] "bond1" ["en0"] "en0" (by decide) (by decide)
      (by decide) (by decide)
    exact absurd hname (by decide)
  · exact absurd (h.nodup "bond0" ["en0", "en0"] (by decide)) (by decide)
  · have hname := h.disjoint "bond0" ["en1"] "bond1" ["en1"] "en1" (by decide) (by decide)
      (by decide) (by decide)
    exact absurd hname (by decide)

end ConfigdExtra
