import ConfigdExtra.NwiInvariant

/-!
# Growing, and whole runs of a builder

Growth copies both lists into a larger buffer, moves the IPv6 half and shifts every alias by
as much (`live_fix_grown`); `if_list` is recomputed behind the slots and disturbs nothing the
invariant reads (`setIfListLoop_frame`). With the additions of `NwiInvariant` these are all the
steps of a builder: `buildReachable_repInvariant` is the representation invariant of every
state a run reaches.
-/

namespace ConfigdExtra

namespace NwiState

variable {s s' : NwiState} {af af' : AddressFamily} {i j n p : Nat} {f : NwiIfstate → NwiIfstate}
  {e : NwiIfstate} {name ifname : CString}

/-! ### Growing -/

@[simp] theorem count_copyIfstates {old : NwiState} :
    (copyIfstates s old af).count af' = s.count af' := by
  cases af' <;> rfl

@[simp] theorem slot_copyIfstates {old : NwiState} :
    (copyIfstates s old af).slot af' i = s.slot af' i := by
  cases af' <;> rfl

/-- The slots in use are copied, each to the slot of its index. The others stay as they were. -/
theorem getElem?_copyIfstates {old : NwiState} :
    (copyIfstates s old af).ifstateList[p]? =
      if s.slot af 0 ≤ p ∧ p < s.slot af (old.count af) then
        (s.ifstateList[p]?).map fun _ => old.ifstate (old.slot af (p - s.slot af 0))
      else s.ifstateList[p]? := by
  simp only [copyIfstates, List.getElem?_mapIdx]
  split <;> cases s.ifstateList[p]? <;> rfl

/-- A copy brings over the list of the family. -/
theorem live_copyIfstates_self {old : NwiState} (hold : old.Capacity)
    (hcount : s.count af = old.count af) (hmax : s.count af ≤ s.maxIfCount) :
    (copyIfstates s old af).live af = old.live af := by
  apply List.ext_getElem?
  intro i
  rw [getElem?_live, count_copyIfstates, slot_copyIfstates]
  split
  · next hi =>
    have hlt : s.slot af i < s.ifstateList.length := slot_lt (lt_of_lt_of_le hi hmax)
    have hsub : s.slot af i - s.slot af 0 = i := by
      rw [slot_eq_add]
      omega
    rw [getElem?_copyIfstates, if_pos, List.getElem?_eq_getElem hlt, Option.map_some, hsub,
      getElem?_live_of_lt hold (hcount ▸ hi)]
    rw [slot_eq_add s af i, slot_eq_add s af (old.count af)]
    omega
  · next hi =>
    rw [List.getElem?_eq_none]
    rw [length_live hold]
    omega

/-- A copy leaves the other half alone. -/
theorem live_copyIfstates_other {old : NwiState} (hcount : old.count af ≤ s.maxIfCount)
    (hmax : s.count (nwiOtherAf af) ≤ s.maxIfCount) :
    (copyIfstates s old af).live (nwiOtherAf af) = s.live (nwiOtherAf af) := by
  refine live_congr count_copyIfstates fun j hj => ?_
  rw [slot_copyIfstates, getElem?_copyIfstates, if_neg]
  rintro ⟨h₀, h₁⟩
  cases af <;> simp only [slot, nwiOtherAf] at h₀ h₁ hj hmax <;> omega

@[simp] theorem count_forEachIfstate : (forEachIfstate s af f n).count af' = s.count af' := by
  induction n with
  | zero => rfl
  | succ n ih => rw [forEachIfstate, count_modify, ih]

@[simp] theorem maxIfCount_forEachIfstate : (forEachIfstate s af f n).maxIfCount = s.maxIfCount := by
  induction n with
  | zero => rfl
  | succ n ih => rw [forEachIfstate, maxIfCount_modify, ih]

theorem capacity_forEachIfstate (h : s.Capacity) : (forEachIfstate s af f n).Capacity := by
  intro af'
  rw [count_forEachIfstate, maxIfCount_forEachIfstate]
  exact h af'

/-- The loop has applied `f` to the entries before `n`. -/
theorem getElem?_live_forEachIfstate :
    ((forEachIfstate s af f n).live af)[i]? =
      if i < n then ((s.live af)[i]?).map f else (s.live af)[i]? := by
  induction n with
  | zero => simp [forEachIfstate]
  | succ n ih =>
    have hslot : s.slot af n = (forEachIfstate s af f n).slot af n :=
      (slot_congr maxIfCount_forEachIfstate).symm
    rw [forEachIfstate, hslot, live_modify_self, List.getElem?_modify, ih]
    rcases lt_trichotomy i n with hi | rfl | hi
    · rw [if_pos hi, if_pos (by omega)]
      cases (s.live af)[i]? <;> simp [hi.ne']
    · rw [if_neg (by omega), if_pos (by omega)]
      cases (s.live af)[i]? <;> simp
    · rw [if_neg (by omega), if_neg (by omega)]
      cases (s.live af)[i]? <;> simp [hi.ne]

/-- Over a whole family the loop maps `f` over its list. -/
theorem live_forEachIfstate_self :
    (forEachIfstate s af f (s.count af)).live af = (s.live af).map f := by
  apply List.ext_getElem?
  intro i
  rw [getElem?_live_forEachIfstate, List.getElem?_map]
  split
  · rfl
  · next hi =>
    rw [getElem?_live, if_neg hi]
    rfl

/-- A pass over one family does not reach the other: their slots are apart. -/
theorem live_forEachIfstate_other (h : s.Capacity) (hn : n ≤ s.maxIfCount) :
    (forEachIfstate s af f n).live (nwiOtherAf af) = s.live (nwiOtherAf af) := by
  induction n with
  | zero => rfl
  | succ n ih =>
    have hslot : s.slot af n = (forEachIfstate s af f n).slot af n :=
      (slot_congr maxIfCount_forEachIfstate).symm
    have hlt : n < (forEachIfstate s af f n).maxIfCount := by
      rw [maxIfCount_forEachIfstate]
      omega
    rw [forEachIfstate, hslot, live_modify_other (capacity_forEachIfstate h) hlt, ih (by omega)]

/-- How far the slots of a family move when the halves grow. -/
def shift (af : AddressFamily) (d : Int) : Int :=
  match af with
  | .inet => d
  | .inet6 => -d

/-- `nwi_state_fix_af_aliases` adds the growth to the aliases of IPv4 and subtracts it from
those of IPv6. -/
theorem live_fixAfAliases {old : Nat} (h : s.Capacity) (hold : old ≤ s.maxIfCount) :
    (nwiStateFixAfAliases s old).live af =
      (s.live af).map (.addOffset (shift af (s.maxIfCount - old))) := by
  have hoff : ¬ (s.maxIfCount : Int) - old < 0 := by omega
  simp only [nwiStateFixAfAliases, if_neg hoff]
  have hcap : (forEachIfstate s .inet (.addOffset (s.maxIfCount - old)) s.ipv4Count).Capacity :=
    capacity_forEachIfstate h
  cases af with
  | inet =>
    exact (live_forEachIfstate_other hcap (hcap .inet6)).trans live_forEachIfstate_self
  | inet6 =>
    refine live_forEachIfstate_self.trans ?_
    exact congrArg (List.map _) (live_forEachIfstate_other h (h .inet))

@[simp] theorem count_fixAfAliases {old : Nat} :
    (nwiStateFixAfAliases s old).count af = s.count af := by
  simp only [nwiStateFixAfAliases]
  split
  · rfl
  · rw [count_forEachIfstate, count_forEachIfstate]

@[simp] theorem maxIfCount_fixAfAliases {old : Nat} :
    (nwiStateFixAfAliases s old).maxIfCount = s.maxIfCount := by
  simp only [nwiStateFixAfAliases]
  split
  · rfl
  · rw [maxIfCount_forEachIfstate, maxIfCount_forEachIfstate]

/-! ### The interface list -/

/-- `if_list` is written behind the slots: nothing the invariant reads changes. -/
theorem setIfListLoop_frame : ∀ (n v4 v6 : Nat) (s : NwiState),
    (nwiStateSetIfListLoop s n v4 v6).ifstateList = s.ifstateList ∧
      (nwiStateSetIfListLoop s n v4 v6).maxIfCount = s.maxIfCount ∧
      (nwiStateSetIfListLoop s n v4 v6).count = s.count := by
  have hadd : ∀ (s : NwiState) (p : Nat), (nwiStateAddToIfList s p).ifstateList = s.ifstateList ∧
      (nwiStateAddToIfList s p).maxIfCount = s.maxIfCount ∧
      (nwiStateAddToIfList s p).count = s.count := by
    intro s p
    simp only [nwiStateAddToIfList]
    split_ifs
    · exact ⟨rfl, rfl, rfl⟩
    · exact ⟨rfl, rfl, rfl⟩
    · exact ⟨rfl, rfl, rfl⟩
    · refine ⟨rfl, rfl, ?_⟩
      funext af
      cases af <;> rfl
  intro n
  induction n with
  | zero => exact fun _ _ _ => ⟨rfl, rfl, rfl⟩
  | succ n ih =>
    intro v4 v6 s
    have hnext : ∀ (p a b : Nat),
        (nwiStateSetIfListLoop (nwiStateAddToIfList s p) n a b).ifstateList = s.ifstateList ∧
          (nwiStateSetIfListLoop (nwiStateAddToIfList s p) n a b).maxIfCount = s.maxIfCount ∧
          (nwiStateSetIfListLoop (nwiStateAddToIfList s p) n a b).count = s.count := by
      intro p a b
      obtain ⟨h₁, h₂, h₃⟩ := ih a b (nwiStateAddToIfList s p)
      obtain ⟨g₁, g₂, g₃⟩ := hadd s p
      exact ⟨h₁.trans g₁, h₂.trans g₂, h₃.trans g₃⟩
    rw [nwiStateSetIfListLoop]
    split
    · exact ⟨rfl, rfl, rfl⟩
    · exact hnext _ _ _
    · exact hnext _ _ _
    · split
      · exact hnext _ _ _
      · exact hnext _ _ _

/-- Only the list of names is set. -/
theorem setIfList_frame (s : NwiState) :
    (nwiStateSetIfList s).ifstateList = s.ifstateList ∧
      (nwiStateSetIfList s).maxIfCount = s.maxIfCount ∧ (nwiStateSetIfList s).count = s.count := by
  obtain ⟨hlist, hmax, hcount⟩ :=
    setIfListLoop_frame (s.ipv4Count + s.ipv6Count) 0 0 { s with ifListCount := 0 }
  refine ⟨hlist, hmax, hcount.trans ?_⟩
  funext af
  cases af <;> rfl

theorem WellFormed.setIfList (h : s.WellFormed) : (nwiStateSetIfList s).WellFormed := by
  obtain ⟨hlist, hmax, hcount⟩ := setIfList_frame s
  exact h.congr hlist hmax hcount

theorem live_setIfList : (nwiStateSetIfList s).live af = s.live af := by
  obtain ⟨hlist, hmax, hcount⟩ := setIfList_frame s
  refine live_congr (congrFun hcount af) fun i _ => ?_
  rw [slot_congr hmax, hlist]

/-! ### The steps keep the invariant -/

/-- The state of `nwi_state_new` between the copies and the new offsets. -/
def grown (old : NwiState) (max : Nat) : NwiState :=
  copyIfstates ((copyIfstates ((nwiStateAlloc max).setCount .inet6 old.ipv6Count) old
    .inet6).setCount .inet old.ipv4Count) old .inet

/-- A larger state has the same entries. -/
theorem count_grown (old : NwiState) (max : Nat) : (grown old max).count af = old.count af := by
  cases af <;> rfl

/-- They are the same, although their slots have moved. -/
theorem live_grown {old : NwiState} {max : Nat} (h : old.Capacity) (hmax : old.maxIfCount ≤ max) :
    (grown old max).live af = old.live af := by
  have h4 : old.count .inet ≤ max := le_trans (h .inet) hmax
  have h6 : old.count .inet6 ≤ max := le_trans (h .inet6) hmax
  cases af with
  | inet => exact live_copyIfstates_self h rfl h4
  | inet6 =>
    have hcopy6 : (copyIfstates ((nwiStateAlloc max).setCount .inet6 old.ipv6Count) old
        .inet6).live .inet6 = old.live .inet6 := live_copyIfstates_self h rfl h6
    have hcount : ((copyIfstates ((nwiStateAlloc max).setCount .inet6 old.ipv6Count) old
        .inet6).setCount .inet old.ipv4Count).live (nwiOtherAf .inet) = _ := live_setCount_other
    have hcopy4 : (grown old max).live (nwiOtherAf .inet) = _ := live_copyIfstates_other h4 h6
    exact (hcopy4.trans hcount).trans hcopy6

/-- The entries after growth are the old ones with their aliases shifted. -/
theorem live_fix_grown {old : NwiState} {max : Nat} (h : old.Capacity) (hmax : old.maxIfCount ≤ max) :
    (nwiStateFixAfAliases (grown old max) old.maxIfCount).live af =
      (old.live af).map (.addOffset (shift af (max - old.maxIfCount))) := by
  have hcap : (grown old max).Capacity := fun af => by
    rw [count_grown]
    exact le_trans (h af) hmax
  rw [live_fixAfAliases hcap hmax, live_grown h hmax]
  rfl

theorem addOffset_ifname {d : Int} : (e.addOffset d).ifname = e.ifname := by
  rw [NwiIfstate.addOffset]
  split <;> rfl

theorem addOffset_af {d : Int} : (e.addOffset d).af = e.af := by
  rw [NwiIfstate.addOffset]
  split <;> rfl

/-- An alias that is moved stays an alias or stays none. -/
theorem addOffset_isLastItem {d : Int} : (e.addOffset d).IsLastItem ↔ e.IsLastItem := by
  rw [NwiIfstate.addOffset]
  split <;> rfl

/-- An alias points into the other half, so it is never 0. -/
theorem aliasOffset_ne_zero (h : s.Keyed) (hi : i < s.count af)
    (hidx : s.indexOf (nwiOtherAf af) name = some j) : s.aliasOffset af i name ≠ 0 := by
  have hne : s.slot (nwiOtherAf af) j ≠ s.slot af i :=
    slot_other_ne (lt_of_lt_of_le hi (h.capacity _))
      (lt_of_lt_of_le (lt_count_of_indexOf h hidx) (h.capacity _))
  simp only [aliasOffset, hidx]
  omega

/-- Growth keeps the invariant: the offsets move by as much as the IPv6 half. -/
theorem WellFormed.fix_grown {old : NwiState} {max : Nat} (h : old.WellFormed)
    (hmax : old.maxIfCount ≤ max) :
    (nwiStateFixAfAliases (grown old max) old.maxIfCount).WellFormed := by
  have hlive : ∀ af, (nwiStateFixAfAliases (grown old max) old.maxIfCount).live af =
      (old.live af).map (.addOffset (shift af (max - old.maxIfCount))) :=
    fun af => live_fix_grown h.capacity hmax
  have hcount : ∀ af, (nwiStateFixAfAliases (grown old max) old.maxIfCount).count af =
      old.count af := fun af => by rw [count_fixAfAliases, count_grown]
  have hmaxIf : (nwiStateFixAfAliases (grown old max) old.maxIfCount).maxIfCount = max :=
    maxIfCount_fixAfAliases
  have hnames : ∀ af, (nwiStateFixAfAliases (grown old max) old.maxIfCount).names af =
      old.names af := by
    intro af
    rw [names, hlive, List.map_map, names]
    exact congrArg (List.map · _) (funext fun e => addOffset_ifname)
  refine ⟨⟨fun af => ?_, fun af e he => ?_, fun af => ?_⟩, fun af i e he => ?_,
    fun af i e he => ?_⟩
  · rw [hcount, hmaxIf]
    exact le_trans (h.capacity af) hmax
  · rw [hlive] at he
    obtain ⟨e₀, he₀, rfl⟩ := List.mem_map.mp he
    rw [addOffset_af, h.af_eq af e₀ he₀]
  · rw [hnames]
    exact h.nodup af
  · rw [hlive, List.getElem?_map] at he
    obtain ⟨e₀, he₀, rfl⟩ := Option.map_eq_some_iff.mp he
    rw [addOffset_isLastItem, hcount, h.lastItems af i e₀ he₀]
  · rw [hlive, List.getElem?_map] at he
    obtain ⟨e₀, he₀, rfl⟩ := Option.map_eq_some_iff.mp he
    have halias := h.aliased af i e₀ he₀
    rw [addOffset_ifname, aliasOffset, indexOf_congr (hnames _), NwiIfstate.addOffset]
    cases hidx : old.indexOf (nwiOtherAf af) e₀.ifname with
    | none =>
      have hzero : e₀.afAliasOffset = 0 := by rw [halias, aliasOffset, hidx]
      rw [if_neg (by simpa using hzero)]
      exact hzero
    | some k =>
      have hne := aliasOffset_ne_zero h.toKeyed (lt_count_of_getElem? he₀) hidx
      rw [if_pos (by rwa [halias])]
      simp only [halias, aliasOffset, hidx]
      cases af <;> simp only [slot, nwiOtherAf, shift, hmaxIf] <;> push_cast <;> omega

/-- A state without entries is well formed. -/
theorem wellFormed_of_count_eq_zero (hcount : ∀ af, s.count af = 0) : s.WellFormed := by
  have hlive : ∀ af, s.live af = [] := fun af => by rw [live, hcount, List.take_zero]
  refine ⟨⟨fun af => ?_, fun af e he => ?_, fun af => ?_⟩, fun af i e he => ?_,
    fun af i e he => ?_⟩
  · rw [hcount]
    exact Nat.zero_le _
  · rw [hlive] at he
    cases he
  · rw [names, hlive]
    exact List.nodup_nil
  · rw [hlive] at he
    cases he
  · rw [hlive] at he
    cases he

/-- `nwi_state_new` establishes the invariant, or keeps that of the state it grows. -/
theorem WellFormed.new {old : Option NwiState} (h : ∀ o, old = some o → o.WellFormed)
    (hnew : nwiStateNew old n = some s) : s.WellFormed := by
  cases old with
  | none =>
    simp only [nwiStateNew] at hnew
    split at hnew
    · cases hnew
    · obtain rfl := Option.some.inj hnew
      exact wellFormed_of_count_eq_zero fun af => by cases af <;> rfl
  | some old =>
    simp only [nwiStateNew] at hnew
    split at hnew
    · obtain rfl := Option.some.inj hnew
      exact h _ rfl
    · next hlt =>
      obtain rfl := Option.some.inj hnew
      exact ((h old rfl).fix_grown (by omega)).setIfList

/-- Clearing both families leaves two empty lists. -/
theorem wellFormed_clear (s : NwiState) (af : AddressFamily) :
    (nwiStateClear (nwiStateClear s af) (nwiOtherAf af)).WellFormed :=
  wellFormed_of_count_eq_zero fun af' => by cases af <;> cases af' <;> rfl

/-- What `nwi_state_add_ifstate_alias` can do: nothing, or store two offsets. -/
theorem addIfstateAlias_cases (s : NwiState) (p : Nat) :
    nwiStateAddIfstateAlias s p = s ∨ ∃ q a b, nwiStateAddIfstateAlias s p =
      (s.modify p (.setAfAliasOffset a)).modify q (.setAfAliasOffset b) := by
  rw [nwiStateAddIfstateAlias]
  split
  · exact Or.inl rfl
  · exact Or.inr ⟨_, _, _, rfl⟩

theorem Keyed.addIfstateAlias (h : s.Keyed) : (nwiStateAddIfstateAlias s p).Keyed := by
  obtain heq | ⟨q, a, b, heq⟩ := addIfstateAlias_cases s p
  · rwa [heq]
  · rw [heq]
    refine Keyed.modify (Keyed.modify h ?_ ?_) ?_ ?_ <;> exact fun _ => rfl

theorem LastItems.addIfstateAlias (h : s.LastItems) : (nwiStateAddIfstateAlias s p).LastItems := by
  obtain heq | ⟨q, a, b, heq⟩ := addIfstateAlias_cases s p
  · rwa [heq]
  · rw [heq]
    refine LastItems.modify (LastItems.modify h ?_) ?_ <;> exact fun _ => Iff.rfl

/-- Adding a new name at the end, with its alias, keeps the invariant. -/
theorem WellFormed.pushAlias (h : s.WellFormed) (hc : s.count af < s.maxIfCount)
    (hlen : ifname.length < ifnamsiz) (hnew : ifname ∉ s.names af) :
    (nwiStateAddIfstateAlias (nwiStatePushIfstate s ifname af)
      (s.slot af (s.count af))).WellFormed := by
  have hk : (nwiStatePushIfstate s ifname af).Keyed := h.toKeyed.push hc hlen hnew
  have hname : (NwiIfstate.fresh ifname af).ifname = ifname := fresh_ifname hlen
  have hexcept : (nwiStatePushIfstate s ifname af).AliasedExcept
      (NwiIfstate.fresh ifname af).ifname := by
    rw [hname]
    exact h.aliased.push h.toKeyed hc hlen
  have he : ((nwiStatePushIfstate s ifname af).live af)[s.count af]? =
      some (.fresh ifname af) := by
    rw [live_push_self hc, List.getElem?_append_right, List.length_modify,
      length_live h.capacity, Nat.sub_self]
    · rfl
    · rw [List.length_modify, length_live h.capacity]
  have haliased := hexcept.addIfstateAlias hk he rfl
  rw [slot_push] at haliased
  exact ⟨hk.addIfstateAlias, (h.lastItems.push h.capacity hc).addIfstateAlias, haliased⟩

/-- `nwi_state_add_ifstate` keeps the invariant. -/
theorem WellFormed.addIfstate (h : s.WellFormed) (hlen : ifname.length < ifnamsiz)
    (flags : BitVec 64) (rank : BitVec 32) (ifa : Option InAddrUnion)
    (vpnServerAddr : Option Sockaddr) (reachFlags : BitVec 32) :
    (nwiStateAddIfstate s ifname af flags rank ifa vpnServerAddr reachFlags).1.WellFormed := by
  have hupdate : ∀ (t : NwiState) (p : Nat), t.WellFormed →
      (t.modify p (.update af flags rank ifa vpnServerAddr reachFlags)).WellFormed :=
    fun t p ht => ht.modify (fun e => e.update_ifname) (fun e => e.update_af)
      (fun e => e.isLastItem_update) (fun e => e.update_afAliasOffset)
  simp only [nwiStateAddIfstate, nwiStateGetIfstateWithName_eq h.capacity]
  cases hidx : s.indexOf af ifname with
  | some i =>
    simp only [Option.map_some]
    split
    · exact h
    · exact hupdate s _ h
  | none =>
    simp only [Option.map_none]
    split
    · exact h
    · next hfull =>
      have hc : s.count af < s.maxIfCount := lt_of_le_of_ne (h.capacity af) hfull
      have hnew : ifname ∉ s.names af := indexOf_eq_none.mp hidx
      exact hupdate _ _ (h.pushAlias hc hlen hnew)

/-- Offsets are shorter than the buffer: they fit the `int32_t` field of every buffer whose
slots `int32_t` can count. -/
theorem aliasOffset_bounds (h : s.WellFormed) (he : (s.live af)[i]? = some e) :
    -(2 * s.maxIfCount : Int) < e.afAliasOffset ∧ e.afAliasOffset < 2 * s.maxIfCount := by
  have hi := lt_of_lt_of_le (lt_count_of_getElem? he) (h.capacity af)
  rw [h.aliased af i e he, aliasOffset]
  cases hidx : s.indexOf (nwiOtherAf af) e.ifname with
  | none => exact ⟨by simp only; omega, by simp only; omega⟩
  | some k =>
    have hk := lt_of_lt_of_le (lt_count_of_indexOf h.toKeyed hidx) (h.capacity _)
    cases af <;> simp only [slot, nwiOtherAf] <;> omega

end NwiState

/-! ## Runs of a builder -/

/-- One step of a builder of network state. -/
inductive BuildStep : NwiState → NwiState → Prop where
  /-- `nwi_state_add_ifstate`, with a name that fits its field -/
  | addIfstate {s : NwiState} (ifname : CString) (hlen : ifname.length < ifnamsiz)
      (af : AddressFamily) (flags : BitVec 64) (rank : BitVec 32) (ifa : Option InAddrUnion)
      (vpnServerAddr : Option Sockaddr) (reachFlags : BitVec 32) :
      BuildStep s (nwiStateAddIfstate s ifname af flags rank ifa vpnServerAddr reachFlags).1
  /-- growth by `nwi_state_new` -/
  | grow {s s' : NwiState} (maxIfCount : Nat) (h : nwiStateNew (some s) maxIfCount = some s') :
      BuildStep s s'
  /-- `nwi_state_finalize` -/
  | finalize {s s' : NwiState} (h : nwiStateFinalize (some s) = some s') : BuildStep s s'
  /-- `nwi_state_clear` of one family and then of the other -/
  | clear (s : NwiState) (af : AddressFamily) :
      BuildStep s (nwiStateClear (nwiStateClear s af) (nwiOtherAf af))

/-- The states a builder reaches from a new state of at least one slot. -/
def BuildReachable (s : NwiState) : Prop :=
  ∃ n s₀, 1 ≤ n ∧ nwiStateNew none n = some s₀ ∧ Relation.ReflTransGen BuildStep s₀ s

/-- One step keeps the invariant. -/
theorem BuildStep.wellFormed {s s' : NwiState} (h : BuildStep s s') (hs : s.WellFormed) :
    s'.WellFormed := by
  cases h with
  | addIfstate ifname hlen af flags rank ifa vpnServerAddr reachFlags =>
    exact hs.addIfstate hlen flags rank ifa vpnServerAddr reachFlags
  | grow maxIfCount hnew =>
    refine NwiState.WellFormed.new (fun o ho => ?_) hnew
    obtain rfl := Option.some.inj ho
    exact hs
  | finalize hfin =>
    obtain rfl := Option.some.inj hfin
    exact hs.setIfList
  | clear af => exact NwiState.wellFormed_clear s af

/-- Every state a builder reaches is well formed. -/
theorem BuildReachable.wellFormed {s : NwiState} (h : BuildReachable s) : s.WellFormed := by
  obtain ⟨n, s₀, -, hnew, hrun⟩ := h
  induction hrun with
  | refl => exact NwiState.WellFormed.new (fun o ho => by cases ho) hnew
  | tail _ hstep ih => exact hstep.wellFormed ih

/-! ### What every entry of a built state satisfies -/

/-- A property of entries that new entries have and that every write of a builder keeps. -/
structure KeptByBuild (P : NwiIfstate → Prop) : Prop where
  /-- a new entry has it -/
  fresh : ∀ ifname af, P (.fresh ifname af)
  /-- no longer being last keeps it -/
  clearLastItem : ∀ e, P e → P e.clearLastItem
  /-- storing an alias keeps it -/
  setAfAliasOffset : ∀ offset e, P e → P (e.setAfAliasOffset offset)
  /-- moving an alias keeps it -/
  addOffset : ∀ offset e, P e → P (e.addOffset offset)
  /-- updating the address, rank and flags keeps it -/
  update : ∀ af flags rank ifa vpnServerAddr reachFlags e, P e →
    P (e.update af flags rank ifa vpnServerAddr reachFlags)

/-- Every live entry has the property. -/
def NwiState.All (s : NwiState) (P : NwiIfstate → Prop) : Prop := ∀ af, ∀ e ∈ s.live af, P e

namespace NwiState

variable {s : NwiState} {af : AddressFamily} {p : Nat} {f : NwiIfstate → NwiIfstate}
  {ifname : CString} {P : NwiIfstate → Prop}

theorem All.modify (h : s.All P) (hf : ∀ e, P e → P (f e)) : (s.modify p f).All P := by
  intro af e he
  obtain ⟨i, hi⟩ := List.mem_iff_getElem?.mp he
  obtain ⟨e₀, he₀, ⟨rfl, -⟩ | ⟨rfl, -⟩⟩ := getElem?_live_modify_inv hi
  · exact hf e₀ (h af e₀ (List.mem_of_getElem? he₀))
  · exact h af e (List.mem_of_getElem? he₀)

/-- A new entry satisfies what the build keeps. -/
theorem All.push (h : s.All P) (hP : KeptByBuild P) (hcap : s.Capacity)
    (hc : s.count af < s.maxIfCount) : (nwiStatePushIfstate s ifname af).All P := by
  intro af' e he
  rcases eq_or_eq_nwiOtherAf af af' with rfl | rfl
  · obtain ⟨i, hi⟩ := List.mem_iff_getElem?.mp he
    obtain ⟨-, rfl⟩ | ⟨e₀, he₀, ⟨-, rfl⟩ | ⟨-, rfl⟩⟩ := getElem?_live_push_inv hcap hc hi
    · exact hP.fresh ifname af'
    · exact hP.clearLastItem e₀ (h af' e₀ (List.mem_of_getElem? he₀))
    · exact h af' e (List.mem_of_getElem? he₀)
  · rw [live_push_other hcap hc] at he
    exact h _ e he

/-- An alias only adds offsets to two entries. -/
theorem All.addIfstateAlias (h : s.All P) (hP : KeptByBuild P) :
    (nwiStateAddIfstateAlias s p).All P := by
  obtain heq | ⟨q, a, b, heq⟩ := addIfstateAlias_cases s p
  · rwa [heq]
  · rw [heq]
    exact (h.modify (hP.setAfAliasOffset a)).modify (hP.setAfAliasOffset b)

/-- An entry that is added, re-ranked or updated satisfies what the build keeps. -/
theorem All.addIfstate (h : s.All P) (hP : KeptByBuild P) (hcap : s.Capacity)
    (flags : BitVec 64) (rank : BitVec 32) (ifa : Option InAddrUnion)
    (vpnServerAddr : Option Sockaddr) (reachFlags : BitVec 32) :
    (nwiStateAddIfstate s ifname af flags rank ifa vpnServerAddr reachFlags).1.All P := by
  have hupdate := hP.update af flags rank ifa vpnServerAddr reachFlags
  simp only [nwiStateAddIfstate]
  split
  · split
    · exact h
    · exact h.modify hupdate
  · split
    · exact h
    · next hfull =>
      have hc : s.count af < s.maxIfCount := lt_of_le_of_ne (hcap af) hfull
      exact ((h.push hP hcap hc).addIfstateAlias hP).modify hupdate

theorem All.setIfList (h : s.All P) : (nwiStateSetIfList s).All P := by
  intro af e he
  rw [live_setIfList] at he
  exact h af e he

end NwiState

/-- The step lemma for properties of single entries. -/
theorem BuildStep.all {s s' : NwiState} {P : NwiIfstate → Prop} (h : BuildStep s s')
    (hP : KeptByBuild P) (hcap : s.Capacity) (hs : s.All P) : s'.All P := by
  cases h with
  | addIfstate ifname hlen af flags rank ifa vpnServerAddr reachFlags =>
    exact hs.addIfstate hP hcap flags rank ifa vpnServerAddr reachFlags
  | grow maxIfCount hnew =>
    simp only [nwiStateNew] at hnew
    split at hnew
    · obtain rfl := Option.some.inj hnew
      exact hs
    · next hlt =>
      obtain rfl := Option.some.inj hnew
      refine NwiState.All.setIfList fun af e he => ?_
      have hlive := @NwiState.live_fix_grown af _ _ hcap (le_of_not_ge hlt)
      obtain ⟨e₀, he₀, rfl⟩ := List.mem_map.mp (hlive ▸ he)
      exact hP.addOffset _ e₀ (hs af e₀ he₀)
  | finalize hfin =>
    obtain rfl := Option.some.inj hfin
    exact hs.setIfList
  | clear af =>
    intro af' e he
    have hnil : (nwiStateClear (nwiStateClear s af) (nwiOtherAf af)).live af' = [] := by
      cases af <;> cases af' <;> exact List.take_zero
    rw [hnil] at he
    cases he

/-- What new entries have and every write keeps, every entry of a built state has. -/
theorem BuildReachable.all {s : NwiState} {P : NwiIfstate → Prop} (h : BuildReachable s)
    (hP : KeptByBuild P) : s.All P := by
  obtain ⟨n, s₀, hn, hnew, hrun⟩ := h
  induction hrun with
  | refl =>
    intro af e he
    simp only [nwiStateNew] at hnew
    split at hnew
    · cases hnew
    · obtain rfl := Option.some.inj hnew
      have hnil : (nwiStateAlloc n).live af = [] := by cases af <;> exact List.take_zero
      rw [hnil] at he
      cases he
  | tail hrun hstep ih =>
    exact hstep.all hP (BuildReachable.wellFormed ⟨n, s₀, hn, hnew, hrun⟩).capacity ih

/-- A builder leaves `if_generation_count` at 0. -/
theorem BuildReachable.ifGenerationCount_eq_zero {s : NwiState} (h : BuildReachable s)
    {af : AddressFamily} {e : NwiIfstate} (he : e ∈ s.live af) : e.ifGenerationCount = 0 := by
  have hkept : KeptByBuild fun e => e.ifGenerationCount = 0 := by
    refine ⟨fun _ _ => rfl, fun _ h => h, fun _ _ h => h, fun d e h => ?_,
      fun af flags rank ifa vpn reach e h => ?_⟩
    · rw [NwiIfstate.addOffset]
      split <;> exact h
    · rw [NwiIfstate.update_ifGenerationCount]
      exact h
  exact h.all hkept af e he

/-! ### The representation invariant -/

/-- The representation invariant, in the terms of the header file. -/
structure NwiState.RepInvariant (s : NwiState) : Prop where
  /-- both counts lie in `0..max_if_count` -/
  count_le : s.ipv4Count ≤ s.maxIfCount ∧ s.ipv6Count ≤ s.maxIfCount
  /-- live names are distinct within a family -/
  nodup : ∀ af, ((s.live af).map (·.ifname)).Nodup
  /-- a live entry is of the family of its list -/
  af_eq : ∀ af, ∀ e ∈ s.live af, e.af = af
  /-- `NWI_IFSTATE_FLAGS_LAST_ITEM` is on exactly the last live entry of a family -/
  isLastItem_iff : ∀ af i e, (s.live af)[i]? = some e →
    (e.IsLastItem ↔ i + 1 = (s.live af).length)
  /-- a v4 entry and a v6 entry carry the same name iff they point at each other -/
  ifname_eq_iff : ∀ (i j : Nat) (e₄ e₆ : NwiIfstate), (s.live .inet)[i]? = some e₄ →
    (s.live .inet6)[j]? = some e₆ →
    (e₄.ifname = e₆.ifname ↔
      e₄.afAliasOffset = (s.maxIfCount + j : Int) - i ∧
        e₆.afAliasOffset = -((s.maxIfCount + j : Int) - i))
  /-- an entry whose name the other family lacks has no alias -/
  afAliasOffset_eq_zero : ∀ af, ∀ e ∈ s.live af,
    (∀ e' ∈ s.live (nwiOtherAf af), e'.ifname ≠ e.ifname) → e.afAliasOffset = 0

open NwiState in
/-- The aliases, entry against entry. -/
theorem NwiState.WellFormed.ifname_eq_iff {s : NwiState} (h : s.WellFormed) {i j : Nat}
    {e₄ e₆ : NwiIfstate} (h₄ : (s.live .inet)[i]? = some e₄) (h₆ : (s.live .inet6)[j]? = some e₆) :
    e₄.ifname = e₆.ifname ↔
      e₄.afAliasOffset = (s.maxIfCount + j : Int) - i ∧
        e₆.afAliasOffset = -((s.maxIfCount + j : Int) - i) := by
  have ha₄ := h.aliased .inet i e₄ h₄
  have ha₆ := h.aliased .inet6 j e₆ h₆
  have hi₄ := indexOf_of_getElem? h.toKeyed h₄
  have hi₆ := indexOf_of_getElem? h.toKeyed h₆
  have hlt := lt_of_lt_of_le (lt_count_of_getElem? h₄) (h.capacity .inet)
  simp only [aliasOffset, nwiOtherAf, slot] at ha₄ ha₆
  constructor
  · intro hname
    rw [hname, hi₆] at ha₄
    rw [← hname, hi₄] at ha₆
    push_cast at ha₄ ha₆
    exact ⟨ha₄, by rw [ha₆]; omega⟩
  · rintro ⟨hoff, -⟩
    cases hidx : s.indexOf .inet6 e₄.ifname with
    | none =>
      simp only [hidx] at ha₄
      omega
    | some k =>
      simp only [hidx] at ha₄
      -- the offset determines the slot of the peer
      obtain rfl : k = j := by
        push_cast at ha₄
        omega
      have hget := (indexOf_eq_some (h.nodup .inet6)).mp hidx
      rw [getElem?_names, h₆] at hget
      exact (Option.some.inj hget).symm

/-- **Representation invariant.** It holds of every state reachable from a new one by any
sequence of additions, growths, finalizations and clearings of both families. -/
theorem buildReachable_repInvariant {s : NwiState} (h : BuildReachable s) : s.RepInvariant := by
  have hwf := h.wellFormed
  refine ⟨⟨hwf.capacity .inet, hwf.capacity .inet6⟩, hwf.nodup, hwf.af_eq, fun af i e he => ?_,
    fun i j e₄ e₆ h₄ h₆ => hwf.ifname_eq_iff h₄ h₆, fun af e he hno => ?_⟩
  · rw [hwf.lastItems af i e he, NwiState.length_live hwf.capacity]
  · obtain ⟨i, hi⟩ := List.mem_iff_getElem?.mp he
    have hnone : s.indexOf (nwiOtherAf af) e.ifname = none := by
      rw [NwiState.indexOf_eq_none]
      intro hmem
      obtain ⟨e', he', hname⟩ := List.mem_map.mp hmem
      exact hno e' he' hname
    rw [hwf.aliased af i e hi, NwiState.aliasOffset, hnone]

/-- The run `new(1)`, `add en0` to IPv4, growth to 2, `add en0` to IPv6. -/
theorem buildReachable_repInvariant_en0 :
    (nwiStateAddIfstate
      (nwiStateSetIfList (nwiStateFixAfAliases (NwiState.grown
        (nwiStateAddIfstate (nwiStateAlloc 1) [0x65, 0x6e, 0x30] .inet 1 0 none none 0).1 2) 1))
      [0x65, 0x6e, 0x30] .inet6 1 0 none none 0).1.RepInvariant := by
  refine buildReachable_repInvariant ⟨1, nwiStateAlloc 1, by decide, rfl, ?_⟩
  refine Relation.ReflTransGen.head (.addIfstate [0x65, 0x6e, 0x30] (by decide) .inet 1 0 none none 0) ?_
  refine Relation.ReflTransGen.head (.grow 2 rfl) ?_
  exact Relation.ReflTransGen.single (.addIfstate [0x65, 0x6e, 0x30] (by decide) .inet6 1 0 none none 0)

/-! ### States of given interfaces -/

/-- What a builder passes to `nwi_state_add_ifstate`, but for VPN servers and reachability. -/
structure AddedIfstate where
  /-- the name -/
  ifname : CString
  /-- the family -/
  af : AddressFamily
  /-- the flags -/
  flags : BitVec 64
  /-- the rank -/
  rank : BitVec 32
  /-- the address -/
  addr : InAddrUnion

/-- A new state to which these interfaces are added. -/
def nwiStateOf (maxIfCount : Nat) (added : List AddedIfstate) : NwiState :=
  added.foldl (fun s a =>
    (nwiStateAddIfstate s a.ifname a.af a.flags a.rank (some a.addr) none 0).1)
    (nwiStateAlloc maxIfCount)

/-- A builder reaches it if the names fit their fields. -/
theorem buildReachable_nwiStateOf {maxIfCount : Nat} (hpos : 1 ≤ maxIfCount)
    {added : List AddedIfstate} (h : ∀ a ∈ added, a.ifname.length < ifnamsiz) :
    BuildReachable (nwiStateOf maxIfCount added) := by
  refine ⟨maxIfCount, nwiStateAlloc maxIfCount, hpos, ?_, ?_⟩
  · rw [nwiStateNew, if_neg (by omega)]
  · have hfold : ∀ (l : List AddedIfstate) (s : NwiState),
        (∀ a ∈ l, a.ifname.length < ifnamsiz) → Relation.ReflTransGen BuildStep s
          (l.foldl (fun s a =>
            (nwiStateAddIfstate s a.ifname a.af a.flags a.rank (some a.addr) none 0).1) s) := by
      intro l
      induction l with
      | nil => exact fun s _ => .refl
      | cons a l ih =>
        intro s hl
        refine .head (.addIfstate a.ifname (hl a List.mem_cons_self) a.af a.flags a.rank
          (some a.addr) none 0) (ih _ fun b hb => hl b (List.mem_cons_of_mem _ hb))
    exact hfold added _ h

/-- `en0`, `en1` and so on -/
def enName (i : UInt8) : CString := [0x65, 0x6e, 0x30 + i]

end ConfigdExtra
