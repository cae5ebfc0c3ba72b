import ConfigdExtra.NwiReachable
import ConfigdExtra.FirstByKey

/-!
# The interface list

`nwi_state_set_if_list` goes through both families at once and adds one interface after the
other to the interface list.

* `merged`, `eligible`, `listed` — the entries by rank, those that may be listed, those that are.
* `setIfListLoop_eq` — the loop adds the entries in the order of `merged`.
* `listed_setIfList` — the list has the first entry of each name, as many as fit.
* `IfListComputed` — that, and what follows from it.
-/

namespace ConfigdExtra

open FirstByKey

namespace NwiState

/-! ## Entries in order -/

/-- The pointers to the entries of a family -/
def pointers (s : NwiState) (af : AddressFamily) : List Nat :=
  (List.range (s.count af)).map (s.slot af)

/-- The name of the entry at a pointer -/
def nameAt (s : NwiState) (p : Nat) : CString := (s.ifstate p).ifname

/-- The rank of the entry at a pointer -/
def rankAt (s : NwiState) (p : Nat) : BitVec 32 := (s.ifstate p).rank

/-- The rank of an entry is not larger. -/
def rankLe (s : NwiState) (p q : Nat) : Bool := decide (s.rankAt p ≤ s.rankAt q)

/-- The entries of both families; the IPv4 entry is first if its rank is not larger. -/
def merged (s : NwiState) : List Nat := (s.pointers .inet).merge (s.pointers .inet6) s.rankLe

/-- The entry does not have `NWI_IFSTATE_FLAGS_NOT_IN_IFLIST`. -/
def mayList (s : NwiState) (p : Nat) : Bool :=
  decide ((s.ifstate p).flags &&& nwiIfstateFlagsNotInIflist = 0)

/-- The entries that may be listed -/
def eligible (s : NwiState) : List Nat := s.merged.filter s.mayList

/-- The interface list -/
def listed (s : NwiState) : List Nat := s.ifList.take s.ifListCount

variable {s t : NwiState} {af : AddressFamily} {i n p q : Nat}

/-- A pointer of a family is the slot of one of its entries. -/
theorem mem_pointers : p ∈ s.pointers af ↔ ∃ i < s.count af, s.slot af i = p := by
  simp [pointers]

theorem mem_merged : p ∈ s.merged ↔ ∃ af, ∃ i < s.count af, s.slot af i = p := by
  rw [merged, List.mem_merge, mem_pointers, mem_pointers]
  constructor
  · rintro (h | h)
    · exact ⟨.inet, h⟩
    · exact ⟨.inet6, h⟩
  · rintro ⟨af, h⟩
    cases af with
    | inet => exact .inl h
    | inet6 => exact .inr h

/-- The pointers from an index on. -/
theorem drop_pointers (hi : i < s.count af) :
    (s.pointers af).drop i = s.slot af i :: (s.pointers af).drop (i + 1) := by
  have hlt : i < (s.pointers af).length := by simpa [pointers] using hi
  rw [List.drop_eq_getElem_cons hlt]
  simp [pointers]

theorem drop_pointers_of_le (hi : s.count af ≤ i) : (s.pointers af).drop i = [] := by
  rw [List.drop_eq_nil_iff]
  simpa [pointers] using hi

theorem nwiStateGetIfstateWithIndex_of_le (hi : s.count af ≤ i) :
    nwiStateGetIfstateWithIndex s af i = none := by
  rw [nwiStateGetIfstateWithIndex]
  split_ifs <;> rfl

/-! ## Adding one entry -/

/-- Adding to the list of interfaces reads the entries and leaves them as they are. The lemmas below
say so for what is read of them. -/
@[simp] theorem ifstateList_addToIfList :
    (nwiStateAddToIfList s p).ifstateList = s.ifstateList := by
  rw [nwiStateAddToIfList]
  split_ifs <;> rfl

@[simp] theorem maxIfCount_addToIfList : (nwiStateAddToIfList s p).maxIfCount = s.maxIfCount := by
  rw [nwiStateAddToIfList]
  split_ifs <;> rfl

@[simp] theorem count_addToIfList : (nwiStateAddToIfList s p).count af = s.count af := by
  rw [nwiStateAddToIfList]
  cases af <;> split_ifs <;> rfl

@[simp] theorem ifstate_addToIfList : (nwiStateAddToIfList s p).ifstate q = s.ifstate q := by
  rw [ifstate, ifstateList_addToIfList, ifstate]

@[simp] theorem rankLe_addToIfList : (nwiStateAddToIfList s p).rankLe = s.rankLe := by
  funext q r
  rw [rankLe, rankAt, rankAt, ifstate_addToIfList, ifstate_addToIfList]
  rfl

@[simp] theorem pointers_addToIfList : (nwiStateAddToIfList s p).pointers af = s.pointers af := by
  have hslot : (nwiStateAddToIfList s p).slot af = s.slot af :=
    funext fun i => slot_congr maxIfCount_addToIfList
  rw [pointers, pointers, count_addToIfList, hslot]

theorem capacity_addToIfList (hc : s.Capacity) : (nwiStateAddToIfList s p).Capacity := by
  intro af
  rw [count_addToIfList, maxIfCount_addToIfList]
  exact hc af

theorem length_listed (h : s.ifListCount ≤ s.maxIfCount) : s.listed.length = s.ifListCount := by
  rw [listed, List.length_take, s.ifList_length]
  omega

/-- There is room in the list, as each name is added once. -/
theorem ifListCount_addToIfList (h : s.ifListCount ≤ s.maxIfCount) :
    (nwiStateAddToIfList s p).ifListCount ≤ (nwiStateAddToIfList s p).maxIfCount := by
  rw [nwiStateAddToIfList]
  split_ifs with _ hfull
  · exact h
  · exact h
  · exact h
  · change s.ifListCount + 1 ≤ s.maxIfCount
    omega

/-- **An entry is added** if it may be listed, there is room and its name is not there. -/
theorem listed_addToIfList (h : s.ifListCount ≤ s.maxIfCount) :
    (nwiStateAddToIfList s p).listed =
      if s.mayList p then appendNew s.nameAt s.maxIfCount s.listed p else s.listed := by
  have hmem : ((s.ifList.take s.ifListCount).any fun scan =>
      (s.ifstate scan).ifname = (s.ifstate p).ifname) = true ↔
      s.nameAt p ∈ s.listed.map s.nameAt := by
    rw [List.any_eq_true, List.mem_map]
    simp only [decide_eq_true_eq]
    rfl
  rw [nwiStateAddToIfList, appendNew, length_listed h]
  by_cases hflag : (s.ifstate p).flags &&& nwiIfstateFlagsNotInIflist = 0
  · have hmay : s.mayList p = true := decide_eq_true hflag
    rw [if_neg (by simpa using hflag), if_pos hmay]
    by_cases hfull : s.ifListCount ≥ s.maxIfCount
    · rw [if_pos hfull, if_pos hfull]
    rw [if_neg hfull, if_neg hfull]
    by_cases hname : s.nameAt p ∈ s.listed.map s.nameAt
    · rw [if_pos (hmem.mpr hname), if_pos hname]
    · rw [if_neg (mt hmem.mp hname), if_neg hname]
      have hlt : s.ifListCount < s.ifList.length := by
        rw [s.ifList_length]
        omega
      change (s.ifList.set s.ifListCount p).take (s.ifListCount + 1) = s.listed ++ [p]
      rw [List.take_add_one, List.take_set_of_le (le_refl _), List.getElem?_set_self hlt]
      rfl
  · rw [if_pos hflag, if_neg (by simpa [mayList] using hflag)]

/-! ## The loop -/

/-- **The loop adds the entries one after the other**, merged by rank. -/
theorem setIfListLoop_eq (hc : s.Capacity) (n v4 v6 : Nat)
    (hn : (s.count .inet - v4) + (s.count .inet6 - v6) ≤ n) :
    nwiStateSetIfListLoop s n v4 v6 =
      (((s.pointers .inet).drop v4).merge ((s.pointers .inet6).drop v6) s.rankLe).foldl
        nwiStateAddToIfList s := by
  induction n generalizing s v4 v6 with
  | zero =>
    rw [drop_pointers_of_le (by omega), drop_pointers_of_le (by omega), List.nil_merge]
    rfl
  | succ n ih =>
    have hnext : ∀ p a b, (s.count .inet - a) + (s.count .inet6 - b) ≤ n →
        nwiStateSetIfListLoop (nwiStateAddToIfList s p) n a b =
          (((s.pointers .inet).drop a).merge ((s.pointers .inet6).drop b) s.rankLe).foldl
            nwiStateAddToIfList (nwiStateAddToIfList s p) := by
      intro p a b hab
      have hrun := ih (s := nwiStateAddToIfList s p) (capacity_addToIfList hc) a b
        (by simpa using hab)
      rwa [pointers_addToIfList, pointers_addToIfList, rankLe_addToIfList] at hrun
    rw [nwiStateSetIfListLoop]
    rcases Nat.lt_or_ge v4 (s.count .inet) with h4 | h4 <;>
      rcases Nat.lt_or_ge v6 (s.count .inet6) with h6 | h6
    · rw [nwiStateGetIfstateWithIndex_of_lt hc h4, nwiStateGetIfstateWithIndex_of_lt hc h6,
        drop_pointers h4, drop_pointers h6, List.cons_merge_cons]
      dsimp only
      by_cases hrank : (s.ifstate (s.slot .inet v4)).rank ≤ (s.ifstate (s.slot .inet6 v6)).rank
      · have hle : s.rankLe (s.slot .inet v4) (s.slot .inet6 v6) = true := decide_eq_true hrank
        rw [if_pos hrank, hnext _ _ _ (by omega), drop_pointers h6, if_pos hle, List.foldl_cons]
      · have hle : ¬ s.rankLe (s.slot .inet v4) (s.slot .inet6 v6) = true :=
          fun h => hrank (of_decide_eq_true h)
        rw [if_neg hrank, hnext _ _ _ (by omega), drop_pointers h4, if_neg hle, List.foldl_cons]
    · rw [nwiStateGetIfstateWithIndex_of_lt hc h4, nwiStateGetIfstateWithIndex_of_le h6,
        drop_pointers h4, drop_pointers_of_le h6, List.merge_right, List.foldl_cons]
      dsimp only
      rw [hnext _ _ _ (by omega), drop_pointers_of_le h6, List.merge_right]
    · rw [nwiStateGetIfstateWithIndex_of_le h4, nwiStateGetIfstateWithIndex_of_lt hc h6,
        drop_pointers h6, drop_pointers_of_le h4, List.nil_merge, List.foldl_cons]
      dsimp only
      rw [hnext _ _ _ (by omega), drop_pointers_of_le h4, List.nil_merge]
    · rw [nwiStateGetIfstateWithIndex_of_le h4, nwiStateGetIfstateWithIndex_of_le h6,
        drop_pointers_of_le h4, drop_pointers_of_le h6, List.nil_merge]
      rfl

/-- Adding entries to the list. -/
theorem listed_foldl (ps : List Nat) (h : s.ifListCount ≤ s.maxIfCount) :
    let r := ps.foldl nwiStateAddToIfList s
    r.ifListCount ≤ r.maxIfCount ∧
      r.listed = (ps.filter s.mayList).foldl (appendNew s.nameAt s.maxIfCount) s.listed := by
  induction ps generalizing s with
  | nil => exact ⟨h, rfl⟩
  | cons p ps ih =>
    obtain ⟨hcount, hlisted⟩ := ih (ifListCount_addToIfList (p := p) h)
    refine ⟨hcount, hlisted.trans ?_⟩
    have hname : (nwiStateAddToIfList s p).nameAt = s.nameAt := funext fun q => by
      rw [nameAt, ifstate_addToIfList, nameAt]
    have hmay : (nwiStateAddToIfList s p).mayList = s.mayList := funext fun q => by
      rw [mayList, ifstate_addToIfList, mayList]
    rw [maxIfCount_addToIfList, hname, hmay, listed_addToIfList h, List.filter_cons]
    split_ifs <;> rfl

/-! ## The list -/

theorem merged_congr (hlist : t.ifstateList = s.ifstateList) (hmax : t.maxIfCount = s.maxIfCount)
    (hcount : t.count = s.count) : t.merged = s.merged := by
  have hslot : t.slot = s.slot := funext fun af => funext fun i => slot_congr hmax
  have hrank : t.rankLe = s.rankLe := funext fun p => funext fun q => by
    rw [rankLe, rankAt, rankAt, ifstate, ifstate, hlist]
    rfl
  simp only [merged, pointers, hrank, hcount, hslot]

/-- What may be listed depends on the entries only. -/
theorem eligible_congr (hlist : t.ifstateList = s.ifstateList) (hmax : t.maxIfCount = s.maxIfCount)
    (hcount : t.count = s.count) : t.eligible = s.eligible := by
  have hmay : t.mayList = s.mayList := funext fun p => by
    rw [mayList, ifstate, hlist, mayList, ifstate]
  rw [eligible, merged_congr hlist hmax hcount, hmay, eligible]

/-- **The interface list** has the first entry of each name, as many as fit. -/
theorem listed_setIfList (hc : s.Capacity) :
    let r := nwiStateSetIfList s
    r.ifListCount ≤ r.maxIfCount ∧ r.listed = (firsts s.nameAt s.eligible).take s.maxIfCount := by
  have hcount : ({ s with ifListCount := 0 } : NwiState).count = s.count := by
    funext af
    cases af <;> rfl
  have hcap : ({ s with ifListCount := 0 } : NwiState).Capacity := fun af => by
    rw [hcount]
    exact hc af
  have hloop : nwiStateSetIfList s =
      s.merged.foldl nwiStateAddToIfList { s with ifListCount := 0 } := by
    rw [nwiStateSetIfList, setIfListLoop_eq hcap _ _ _ (by rw [hcount]; exact Nat.le_refl _),
      List.drop_zero, List.drop_zero]
    exact congrArg _ (merged_congr (t := { s with ifListCount := 0 }) rfl rfl hcount)
  obtain ⟨hle, hlisted⟩ := listed_foldl (s := { s with ifListCount := 0 }) s.merged (Nat.zero_le _)
  intro r
  have hr : r = s.merged.foldl nwiStateAddToIfList { s with ifListCount := 0 } := hloop
  rw [hr]
  refine ⟨hle, hlisted.trans ?_⟩
  have hempty : ({ s with ifListCount := 0 } : NwiState).listed = [] := List.take_zero
  rw [hempty, foldl_appendNew, List.nil_append, List.length_nil, Nat.sub_zero]
  congr 1
  exact List.filter_eq_self.mpr fun a _ => by simp

/-- **The interface list is the one computed of the entries.** -/
structure IfListComputed (s : NwiState) : Prop where
  /-- the first entry of each name among those that may be listed, as many as fit -/
  listed_eq : s.listed = (firsts s.nameAt s.eligible).take s.maxIfCount
  /-- all of them are in the list -/
  count_eq : s.listed.length = s.ifListCount
  /-- indices are in range -/
  indices : ∀ p ∈ s.listed, ∃ af, ∃ i < s.count af, s.slot af i = p
  /-- names are distinct -/
  distinct : (s.listed.map s.nameAt).Nodup
  /-- every name that may be listed is, unless the list is full -/
  complete : s.ifListCount = s.maxIfCount ∨
    ∀ p ∈ s.eligible, ∃ q ∈ s.listed, s.nameAt q = s.nameAt p
  /-- ranks do not decrease -/
  sorted : s.SortedByRank → s.listed.Pairwise fun p q => s.rankAt p ≤ s.rankAt q
  /-- a name is listed with its best rank -/
  best : s.SortedByRank → ∀ p ∈ s.listed, ∀ q ∈ s.eligible, s.nameAt p = s.nameAt q →
    s.rankAt p ≤ s.rankAt q

/-! ## What follows -/

/-- Merging keeps the order of ranks. -/
theorem pairwise_eligible (hc : s.Capacity) (hsorted : s.SortedByRank) :
    s.eligible.Pairwise fun p q => s.rankAt p ≤ s.rankAt q := by
  have hpointers : ∀ af, (s.pointers af).Pairwise fun p q => s.rankLe p q = true := by
    intro af
    rw [pointers, List.pairwise_map, List.pairwise_iff_getElem]
    intro i j hi hj hij
    rw [List.length_range] at hi hj
    rw [List.getElem_range, List.getElem_range]
    have hgeti := getElem?_live_of_lt hc hi
    have hgetj := getElem?_live_of_lt hc hj
    obtain ⟨hi', hgeti⟩ := List.getElem?_eq_some_iff.mp hgeti
    obtain ⟨hj', hgetj⟩ := List.getElem?_eq_some_iff.mp hgetj
    have hle := List.pairwise_iff_getElem.mp (hsorted af) i j hi' hj' hij
    rw [hgeti, hgetj] at hle
    exact decide_eq_true hle
  have hmerged : s.merged.Pairwise fun p q => s.rankLe p q = true := by
    refine List.pairwise_merge ?_ ?_ _ _ (hpointers .inet) (hpointers .inet6)
    · intro p q r hpq hqr
      exact decide_eq_true (BitVec.le_trans (of_decide_eq_true hpq) (of_decide_eq_true hqr))
    · intro p q
      rcases BitVec.le_total (s.rankAt p) (s.rankAt q) with hle | hle
      · simp [rankLe, hle]
      · simp [rankLe, hle]
  exact (hmerged.filter s.mayList).imp of_decide_eq_true

/-- What follows from the entries listed. -/
theorem IfListComputed.of_listed (hc : s.Capacity) (hle : s.ifListCount ≤ s.maxIfCount)
    (hlisted : s.listed = (firsts s.nameAt s.eligible).take s.maxIfCount) :
    s.IfListComputed := by
  have hfirst : ∀ p ∈ s.listed, p ∈ firsts s.nameAt s.eligible := fun p hp =>
    List.mem_of_mem_take (hlisted ▸ hp)
  refine ⟨hlisted, length_listed hle, ?_, ?_, ?_, ?_, ?_⟩
  · intro p hp
    exact mem_merged.mp (List.mem_of_mem_filter (mem_of_mem_firsts (hfirst p hp)))
  · rw [hlisted, List.map_take]
    exact nodup_firsts.sublist (List.take_sublist _ _)
  · rcases Nat.lt_or_ge s.ifListCount s.maxIfCount with hlt | hge
    · have hall : s.listed = firsts s.nameAt s.eligible := by
        have hlen := length_listed hle
        rw [hlisted, List.length_take] at hlen
        rw [hlisted, List.take_of_length_le (by omega)]
      rw [hall]
      exact .inr fun p hp => exists_firsts hp
    · exact .inl (Nat.le_antisymm hle hge)
  · intro hsorted
    rw [hlisted]
    exact (pairwise_eligible hc hsorted).sublist ((List.take_sublist _ _).trans firsts_sublist)
  · intro hsorted p hp q hq hname
    have hpairwise := pairwise_eligible hc hsorted
    have hle := fun hrefl => rel_of_mem_firsts hrefl hpairwise (hfirst p hp) hq hname
    exact hle fun _ => BitVec.le_refl _

/-- `nwi_state_set_if_list` computes the interface list. -/
theorem ifListComputed_setIfList (hc : s.Capacity) : (nwiStateSetIfList s).IfListComputed := by
  obtain ⟨hle, hlisted⟩ := listed_setIfList hc
  obtain ⟨hlist, hmax, hcount⟩ := setIfList_frame s
  have hcap : (nwiStateSetIfList s).Capacity := fun af => by
    rw [hcount, hmax]
    exact hc af
  have hname : (nwiStateSetIfList s).nameAt = s.nameAt := funext fun p => by
    rw [nameAt, ifstate, hlist, nameAt, ifstate]
  refine .of_listed hcap hle ?_
  rw [hlisted, hname, eligible_congr hlist hmax hcount, hmax]

/-- What the interface list depends on of the entries of a family -/
def listedFields (s : NwiState) (af : AddressFamily) : List (CString × BitVec 32 × BitVec 64) :=
  (s.live af).map fun e => (e.ifname, e.rank, e.flags)

/-- The list does not depend on the aliases. -/
theorem listedFields_addOffset (d : Int) (e : NwiIfstate) :
    ((e.addOffset d).ifname, (e.addOffset d).rank, (e.addOffset d).flags) =
      (e.ifname, e.rank, e.flags) := by
  rw [NwiIfstate.addOffset]
  split <;> rfl

/-- **Finishing a state and growing it** both leave the entries and compute the interface list. -/
theorem ifListComputed (hs : s.WellFormed) :
    (∃ s', nwiStateFinalize (some s) = some s' ∧ s'.IfListComputed ∧
      ∀ af, s'.listedFields af = s.listedFields af) ∧
    ∀ n > s.maxIfCount, ∃ s', nwiStateNew (some s) n = some s' ∧ s'.IfListComputed ∧
      ∀ af, s'.listedFields af = s.listedFields af := by
  constructor
  · refine ⟨nwiStateSetIfList s, rfl, ifListComputed_setIfList hs.capacity, fun af => ?_⟩
    rw [listedFields, live_setIfList, listedFields]
  · intro n hn
    have hgrown := hs.fix_grown (Nat.le_of_lt hn)
    refine ⟨nwiStateSetIfList (nwiStateFixAfAliases (grown s n) s.maxIfCount), ?_,
      ifListComputed_setIfList hgrown.capacity, fun af => ?_⟩
    · rw [nwiStateNew, if_neg (by omega)]
      rfl
    · rw [listedFields, live_setIfList, live_fix_grown hs.capacity (Nat.le_of_lt hn), List.map_map,
        listedFields]
      exact congrArg (List.map · _) (funext fun e => listedFields_addOffset _ e)

/-- A state with `en0` on both families, and ranks that interleave. -/
def threeInterfaces : NwiState :=
  nwiStateOf 3 [⟨enName 0, .inet, 1, 1, ⟨1, 0⟩⟩, ⟨enName 1, .inet, 1, 3, ⟨2, 0⟩⟩,
    ⟨enName 2, .inet6, 1, 2, ⟨3, 0⟩⟩, ⟨enName 0, .inet6, 1, 4, ⟨4, 0⟩⟩]

theorem buildReachable_threeInterfaces : BuildReachable threeInterfaces :=
  buildReachable_nwiStateOf (by decide) (by decide)

/-- The state is finished, or grown. -/
theorem ifListComputed_three :
    (∃ s', nwiStateFinalize (some threeInterfaces) = some s' ∧ s'.IfListComputed ∧
      ∀ af, s'.listedFields af = threeInterfaces.listedFields af) ∧
    ∀ n > threeInterfaces.maxIfCount, ∃ s', nwiStateNew (some threeInterfaces) n = some s' ∧
      s'.IfListComputed ∧ ∀ af, s'.listedFields af = threeInterfaces.listedFields af :=
  ifListComputed buildReachable_threeInterfaces.wellFormed

-- `en0` is listed once, and the families are merged
example : let s := nwiStateSetIfList threeInterfaces
    s.listed.map s.nameAt = [enName 0, enName 2, enName 1] := by decide +kernel

end NwiState

end ConfigdExtra
