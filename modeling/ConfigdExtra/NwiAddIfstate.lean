import ConfigdExtra.NwiReachable

/-!
# What one addition does

`nwi_state_add_ifstate` updates an entry in place or appends one, and both branches share the
tail that stores rank and flags. Here its effect is said of the two lists as wholes, so that
what it leaves alone is said too.

* `Refused`, `UpdatedInPlace`, `Appended` — the three outcomes.
* `nwiStateAddIfstate_cases` — one of them it is, and the result tells which.
* `BuildCall`, `runCalls` — calls on a state, one after the other.
* `sortedByRank_runCalls` — ranks added in order leave lists in order.
* `nwiStateAddIfstate_effect` — effect, failure atomicity and order in one statement.
-/

namespace ConfigdExtra

/-! ## The three outcomes -/

namespace NwiIfstate

variable {af : AddressFamily} {flags : BitVec 64} {rank : BitVec 32} {ifa : Option InAddrUnion}
  {vpnServerAddr : Option Sockaddr} {reachFlags : BitVec 32} {e : NwiIfstate} {ifname : CString}

/-- The entry holds what a call was given. -/
structure Holds (e : NwiIfstate) (ifname : CString) (flags : BitVec 64) (rank : BitVec 32)
    (reachFlags : BitVec 32) : Prop where
  /-- the name -/
  ifname_eq : e.ifname = ifname
  /-- the rank -/
  rank_eq : e.rank = rank
  /-- the reachability flags -/
  reachFlags_eq : e.reachFlags = reachFlags
  /-- the flags that get preserved -/
  flags_eq : nwiIfstateFlags e.flags = nwiIfstateFlags flags

theorem holds_update (h : e.ifname = ifname) :
    (e.update af flags rank ifa vpnServerAddr reachFlags).Holds ifname flags rank reachFlags := by
  obtain ⟨addr, vpn, hupdate⟩ := update_eq af flags rank ifa vpnServerAddr reachFlags e
  have hkeep : ~~~nwiIfstateFlagsMask &&& nwiIfstateFlagsMask = 0#64 := by decide
  rw [hupdate]
  refine ⟨h, rfl, rfl, ?_⟩
  simp only [nwiIfstateFlags]
  rw [BitVec.and_or_distrib_right, BitVec.and_assoc, hkeep, BitVec.and_zero, BitVec.zero_or,
    BitVec.and_assoc, BitVec.and_self]

@[simp] theorem update_rank :
    (e.update af flags rank ifa vpnServerAddr reachFlags).rank = rank := by
  obtain ⟨addr, vpn, hupdate⟩ := update_eq af flags rank ifa vpnServerAddr reachFlags e
  rw [hupdate]

end NwiIfstate

namespace NwiState

variable {s t : NwiState} {af : AddressFamily} {i j k p : Nat} {f : NwiIfstate → NwiIfstate}
  {e : NwiIfstate} {ifname : CString} {flags : BitVec 64} {rank : BitVec 32}
  {ifa : Option InAddrUnion} {vpnServerAddr : Option Sockaddr} {reachFlags : BitVec 32}

/-- The family has the name with a strictly smaller rank, or lacks it and is full. -/
def Refused (s : NwiState) (ifname : CString) (af : AddressFamily) (rank : BitVec 32) : Prop :=
  (∃ e ∈ s.live af, e.ifname = ifname ∧ e.rank < rank) ∨
    ifname ∉ s.names af ∧ s.count af = s.maxIfCount

/-- Everything but the entries and the counts is the same. -/
structure SameHeader (s t : NwiState) : Prop where
  /-- `version` -/
  version_eq : t.version = s.version
  /-- `max_if_count` -/
  maxIfCount_eq : t.maxIfCount = s.maxIfCount
  /-- the interface list -/
  ifList_eq : t.ifListCount = s.ifListCount ∧ t.ifList = s.ifList
  /-- `ref` -/
  ref_eq : t.ref = s.ref
  /-- the reachability of both families -/
  reachFlags_eq : t.reachFlagsV4 = s.reachFlagsV4 ∧ t.reachFlagsV6 = s.reachFlagsV6
  /-- `generation_count` -/
  generationCount_eq : t.generationCount = s.generationCount

/-- The entry at index `i`, of that name and of no smaller rank, was replaced by `e`. -/
structure UpdatedInPlace (s t : NwiState) (ifname : CString) (af : AddressFamily)
    (rank : BitVec 32) (i : Nat) (e : NwiIfstate) : Prop where
  /-- it was there -/
  existing : ∃ o, (s.live af)[i]? = some o ∧ o.ifname = ifname ∧ ¬ o.rank < rank
  /-- the list has `e` in its place -/
  live_self : t.live af = (s.live af).set i e
  /-- the other family is the same -/
  live_other : t.live (nwiOtherAf af) = s.live (nwiOtherAf af)
  /-- and so is everything else -/
  sameHeader : s.SameHeader t

/-- `e` was appended at index `i`. -/
structure Appended (s t : NwiState) (ifname : CString) (af : AddressFamily) (i : Nat)
    (e : NwiIfstate) : Prop where
  /-- there was room behind the last entry, and none of that name before -/
  room : i = s.count af ∧ s.count af < s.maxIfCount ∧ ifname ∉ s.names af
  /-- the previously last entry is no longer last; `e` stands behind it -/
  live_self : t.live af = (s.live af).modify (i - 1) .clearLastItem ++ [e]
  /-- the new entry carries the last-item bit -/
  isLastItem : e.IsLastItem
  /-- in the other family, an entry of that name gets its alias; nothing else changes -/
  live_other : t.live (nwiOtherAf af) =
    match s.indexOf (nwiOtherAf af) ifname with
    | none => s.live (nwiOtherAf af)
    | some k => (s.live (nwiOtherAf af)).modify k
        (.setAfAliasOffset (s.slot af i - s.slot (nwiOtherAf af) k))
  /-- and everything else is the same -/
  sameHeader : s.SameHeader t

/-! ### Headers -/

theorem SameHeader.refl (s : NwiState) : s.SameHeader s :=
  ⟨rfl, rfl, ⟨rfl, rfl⟩, rfl, ⟨rfl, rfl⟩, rfl⟩

theorem SameHeader.trans {u : NwiState} (h : s.SameHeader t) (h' : t.SameHeader u) :
    s.SameHeader u where
  version_eq := h'.version_eq.trans h.version_eq
  maxIfCount_eq := h'.maxIfCount_eq.trans h.maxIfCount_eq
  ifList_eq := ⟨h'.ifList_eq.1.trans h.ifList_eq.1, h'.ifList_eq.2.trans h.ifList_eq.2⟩
  ref_eq := h'.ref_eq.trans h.ref_eq
  reachFlags_eq :=
    ⟨h'.reachFlags_eq.1.trans h.reachFlags_eq.1, h'.reachFlags_eq.2.trans h.reachFlags_eq.2⟩
  generationCount_eq := h'.generationCount_eq.trans h.generationCount_eq

theorem sameHeader_modify (s : NwiState) (p : Nat) (f : NwiIfstate → NwiIfstate) :
    s.SameHeader (s.modify p f) := ⟨rfl, rfl, ⟨rfl, rfl⟩, rfl, ⟨rfl, rfl⟩, rfl⟩

theorem sameHeader_push (s : NwiState) (ifname : CString) (af : AddressFamily) :
    s.SameHeader (nwiStatePushIfstate s ifname af) := by
  simp only [nwiStatePushIfstate]
  cases af <;> split <;> exact ⟨rfl, rfl, ⟨rfl, rfl⟩, rfl, ⟨rfl, rfl⟩, rfl⟩

theorem sameHeader_addIfstateAlias (s : NwiState) (p : Nat) :
    s.SameHeader (nwiStateAddIfstateAlias s p) := by
  obtain heq | ⟨q, a, b, heq⟩ := addIfstateAlias_cases s p
  · rw [heq]
    exact SameHeader.refl s
  · rw [heq]
    exact (sameHeader_modify s _ _).trans (sameHeader_modify _ _ _)

/-! ### The appended entry -/

/-- Writing a slot of the other family leaves the list of a family alone. -/
theorem live_modify_slot_other (hc : s.Capacity) (hk : k < s.maxIfCount) :
    (s.modify (s.slot (nwiOtherAf af) k) f).live af = s.live af := by
  have h : (s.modify (s.slot (nwiOtherAf af) k) f).live (nwiOtherAf (nwiOtherAf af)) =
      s.live (nwiOtherAf (nwiOtherAf af)) := live_modify_other hc hk
  rwa [nwiOtherAf_nwiOtherAf] at h

/-- Writing one slot of each family changes one entry of each list. -/
theorem live_modify_peers {g : NwiIfstate → NwiIfstate} (hc : s.Capacity) (hi : i < s.maxIfCount)
    (hk : k < s.maxIfCount) :
    ((s.modify (s.slot af i) f).modify (s.slot (nwiOtherAf af) k) g).live af =
        (s.live af).modify i f ∧
      ((s.modify (s.slot af i) f).modify (s.slot (nwiOtherAf af) k) g).live (nwiOtherAf af) =
        (s.live (nwiOtherAf af)).modify k g := by
  have hslot : s.slot (nwiOtherAf af) k = (s.modify (s.slot af i) f).slot (nwiOtherAf af) k :=
    slot_modify.symm
  rw [hslot]
  exact ⟨(live_modify_slot_other (capacity_modify hc) hk).trans live_modify_self,
    live_modify_self.trans (congrArg (List.modify · k g) (live_modify_other hc hi))⟩

/-- The lists after a new name is pushed and linked with its peer. -/
theorem live_pushAlias (ifname : CString) (hcap : s.Capacity) (hc : s.count af < s.maxIfCount) :
    let t := nwiStateAddIfstateAlias (nwiStatePushIfstate s ifname af) (s.slot af (s.count af))
    let e := NwiIfstate.fresh ifname af
    t.live af = (s.live af).modify (s.count af - 1) .clearLastItem ++
        [e.setAfAliasOffset (s.aliasOffset af (s.count af) e.ifname)] ∧
      t.live (nwiOtherAf af) =
        match s.indexOf (nwiOtherAf af) e.ifname with
        | none => s.live (nwiOtherAf af)
        | some k => (s.live (nwiOtherAf af)).modify k
            (.setAfAliasOffset (s.slot af (s.count af) - s.slot (nwiOtherAf af) k)) := by
  intro t e
  have hself : (nwiStatePushIfstate s ifname af).live af =
      (s.live af).modify (s.count af - 1) .clearLastItem ++ [e] := live_push_self hc
  have hother : (nwiStatePushIfstate s ifname af).live (nwiOtherAf af) =
      s.live (nwiOtherAf af) := live_push_other hcap hc
  have hlive : ((s.live af).modify (s.count af - 1) NwiIfstate.clearLastItem).length =
      s.count af := by
    rw [List.length_modify, length_live hcap]
  have hcapPush : (nwiStatePushIfstate s ifname af).Capacity := fun af' => by
    rcases eq_or_eq_nwiOtherAf af af' with rfl | rfl
    · rw [count_push_self, maxIfCount_push]
      exact hc
    · rw [count_push_other, maxIfCount_push]
      exact hcap _
  have he : ((nwiStatePushIfstate s ifname af).live af)[s.count af]? = some e := by
    rw [hself, List.getElem?_append_right (by omega), hlive, Nat.sub_self]
    rfl
  have haf : e.af = af := rfl
  -- the other family does not change, so the peer is looked for among the same names
  have hidx : (nwiStatePushIfstate s ifname af).indexOf (nwiOtherAf af) e.ifname =
      s.indexOf (nwiOtherAf af) e.ifname := indexOf_congr (names_push_other hcap hc)
  have ht : t = nwiStateAddIfstateAlias (nwiStatePushIfstate s ifname af)
      ((nwiStatePushIfstate s ifname af).slot af (s.count af)) := by
    rw [slot_push]
  rw [ht, nwiStateAddIfstateAlias_eq hcapPush haf he, hidx]
  cases hpeer : s.indexOf (nwiOtherAf af) e.ifname with
  | none =>
    refine ⟨?_, hother⟩
    rw [aliasOffset, hpeer, hself]
    rfl
  | some k =>
    have hlt : k < s.maxIfCount := by
      obtain ⟨hlt, -, -⟩ := List.findIdx?_eq_some_iff_getElem.mp hpeer
      rw [length_names hcap] at hlt
      exact lt_of_lt_of_le hlt (hcap _)
    have hmax : (nwiStatePushIfstate s ifname af).maxIfCount = s.maxIfCount := maxIfCount_push
    -- both entries get an offset: one, and its negative
    obtain ⟨hself', hother'⟩ := live_modify_peers
      (f := .setAfAliasOffset (s.slot (nwiOtherAf af) k - s.slot af (s.count af)))
      (g := .setAfAliasOffset (s.slot af (s.count af) - s.slot (nwiOtherAf af) k))
      hcapPush (hmax ▸ hc) (hmax ▸ hlt)
    simp only [slot_push] at hself' hother' ⊢
    refine ⟨hself'.trans ?_, hother'.trans ?_⟩
    · have hconcat := modify_length_concat
        ((s.live af).modify (s.count af - 1) .clearLastItem) e
        (.setAfAliasOffset (s.slot (nwiOtherAf af) k - s.slot af (s.count af)))
      rw [hlive] at hconcat
      rw [hself, hconcat, aliasOffset, hpeer]
    · rw [hother]

theorem capacity_pushAlias (h : s.Capacity) (hc : s.count af < s.maxIfCount) :
    (nwiStateAddIfstateAlias (nwiStatePushIfstate s ifname af)
      (s.slot af (s.count af))).Capacity := by
  have hpush : (nwiStatePushIfstate s ifname af).Capacity := fun af' => by
    rcases eq_or_eq_nwiOtherAf af af' with rfl | rfl
    · rw [count_push_self, maxIfCount_push]
      exact hc
    · rw [count_push_other, maxIfCount_push]
      exact h _
  obtain heq | ⟨q, a, b, heq⟩ :=
    addIfstateAlias_cases (nwiStatePushIfstate s ifname af) (s.slot af (s.count af))
  · rwa [heq]
  · rw [heq]
    exact capacity_modify (capacity_modify hpush)

theorem sameHeader_pushAlias (s : NwiState) (ifname : CString) (af : AddressFamily) (p : Nat) :
    s.SameHeader (nwiStateAddIfstateAlias (nwiStatePushIfstate s ifname af) p) :=
  (sameHeader_push s ifname af).trans (sameHeader_addIfstateAlias _ _)

/-- And after the new entry is written. -/
theorem live_pushAlias_modify (ifname : CString) (f : NwiIfstate → NwiIfstate) (hcap : s.Capacity)
    (hc : s.count af < s.maxIfCount) :
    let t := (nwiStateAddIfstateAlias (nwiStatePushIfstate s ifname af)
      (s.slot af (s.count af))).modify (s.slot af (s.count af)) f
    let e := NwiIfstate.fresh ifname af
    t.live af = (s.live af).modify (s.count af - 1) .clearLastItem ++
        [f (e.setAfAliasOffset (s.aliasOffset af (s.count af) e.ifname))] ∧
      t.live (nwiOtherAf af) =
        match s.indexOf (nwiOtherAf af) e.ifname with
        | none => s.live (nwiOtherAf af)
        | some k => (s.live (nwiOtherAf af)).modify k
            (.setAfAliasOffset (s.slot af (s.count af) - s.slot (nwiOtherAf af) k)) := by
  intro t e
  obtain ⟨hself, hother⟩ := live_pushAlias ifname hcap hc
  have hcap' : (nwiStateAddIfstateAlias (nwiStatePushIfstate s ifname af)
      (s.slot af (s.count af))).Capacity := capacity_pushAlias hcap hc
  have hmax := (sameHeader_pushAlias s ifname af (s.slot af (s.count af))).maxIfCount_eq
  have hslot : s.slot af (s.count af) = (nwiStateAddIfstateAlias (nwiStatePushIfstate s ifname af)
      (s.slot af (s.count af))).slot af (s.count af) := (slot_congr hmax).symm
  have hlive : ((s.live af).modify (s.count af - 1) NwiIfstate.clearLastItem).length =
      s.count af := by
    rw [List.length_modify, length_live hcap]
  have ht : t = (nwiStateAddIfstateAlias (nwiStatePushIfstate s ifname af)
      (s.slot af (s.count af))).modify ((nwiStateAddIfstateAlias (nwiStatePushIfstate s ifname af)
        (s.slot af (s.count af))).slot af (s.count af)) f := by
    rw [← hslot]
  constructor
  · have hconcat := modify_length_concat ((s.live af).modify (s.count af - 1) .clearLastItem)
      (e.setAfAliasOffset (s.aliasOffset af (s.count af) e.ifname)) f
    rw [hlive] at hconcat
    rw [ht, live_modify_self, hself, hconcat]
  · rw [ht, live_modify_other hcap' (hmax ▸ hc), hother]

/-! ### One of the three -/

/-- What `nwi_state_add_ifstate` can do, whatever the names on the lists are. -/
theorem addIfstate_inv (hcap : s.Capacity) (ifname : CString) (af : AddressFamily)
    (flags : BitVec 64) (rank : BitVec 32) (ifa : Option InAddrUnion)
    (vpnServerAddr : Option Sockaddr) (reachFlags : BitVec 32) :
    let r := nwiStateAddIfstate s ifname af flags rank ifa vpnServerAddr reachFlags
    let update := NwiIfstate.update af flags rank ifa vpnServerAddr reachFlags
    (∃ i, s.indexOf af ifname = some i ∧ (s.live af)[i]? = some (s.ifstate (s.slot af i)) ∧
      ((s.ifstate (s.slot af i)).rank < rank ∧ r = (s, none) ∨
        ¬ (s.ifstate (s.slot af i)).rank < rank ∧
          r = (s.modify (s.slot af i) update, some (s.slot af i)))) ∨
    ifname ∉ s.names af ∧
      (s.count af = s.maxIfCount ∧ r = (s, none) ∨
        s.count af < s.maxIfCount ∧
          r = ((nwiStateAddIfstateAlias (nwiStatePushIfstate s ifname af)
            (s.slot af (s.count af))).modify (s.slot af (s.count af)) update,
            some (s.slot af (s.count af)))) := by
  intro r update
  have hr : r = nwiStateAddIfstate s ifname af flags rank ifa vpnServerAddr reachFlags := rfl
  simp only [nwiStateAddIfstate, nwiStateGetIfstateWithName_eq hcap] at hr
  cases hidx : s.indexOf af ifname with
  | some i =>
    obtain ⟨hlt, -, -⟩ := List.findIdx?_eq_some_iff_getElem.mp hidx
    rw [length_names hcap] at hlt
    simp only [hidx, Option.map_some] at hr
    refine Or.inl ⟨i, rfl, getElem?_live_of_lt hcap hlt, ?_⟩
    by_cases hrank : (s.ifstate (s.slot af i)).rank < rank
    · rw [if_pos hrank] at hr
      exact Or.inl ⟨hrank, hr⟩
    · rw [if_neg hrank] at hr
      exact Or.inr ⟨hrank, hr⟩
  | none =>
    simp only [hidx, Option.map_none] at hr
    refine Or.inr ⟨indexOf_eq_none.mp hidx, ?_⟩
    by_cases hfull : s.count af = s.maxIfCount
    · rw [if_pos hfull] at hr
      exact Or.inl ⟨hfull, hr⟩
    · rw [if_neg hfull] at hr
      exact Or.inr ⟨lt_of_le_of_ne (hcap af) hfull, hr⟩

/-- Writing an entry of that name and of no smaller rank is an update in place. -/
theorem updatedInPlace_modify (hcap : s.Capacity) {o : NwiIfstate}
    (hlive : (s.live af)[i]? = some o) (hname : o.ifname = ifname) (hrank : ¬ o.rank < rank) :
    s.UpdatedInPlace (s.modify (s.slot af i) f) ifname af rank i (f o) where
  existing := ⟨o, hlive, hname, hrank⟩
  live_self := by
    rw [live_modify_self, List.modify_eq_set_getElem?, hlive]
    rfl
  live_other := live_modify_other hcap (lt_of_lt_of_le (lt_count_of_getElem? hlive) (hcap af))
  sameHeader := sameHeader_modify s _ _

/-- Where there is no such entry, and room for one, the push and what follows append it. -/
theorem appended_pushAlias (hcap : s.Capacity) (hlen : ifname.length < ifnamsiz)
    (hnew : ifname ∉ s.names af) (hc : s.count af < s.maxIfCount)
    (hf : ∀ e, (f e).IsLastItem ↔ e.IsLastItem) :
    s.Appended ((nwiStateAddIfstateAlias (nwiStatePushIfstate s ifname af)
      (s.slot af (s.count af))).modify (s.slot af (s.count af)) f) ifname af (s.count af)
      (f ((NwiIfstate.fresh ifname af).setAfAliasOffset
        (s.aliasOffset af (s.count af) ifname))) := by
  obtain ⟨hself, hother⟩ := live_pushAlias_modify ifname f hcap hc
  have hname : (NwiIfstate.fresh ifname af).ifname = ifname := fresh_ifname hlen
  rw [hname] at hself hother
  refine ⟨⟨rfl, hc, hnew⟩, hself, ?_, hother,
    (sameHeader_pushAlias s ifname af _).trans (sameHeader_modify _ _ _)⟩
  rw [hf]
  exact NwiIfstate.isLastItem_fresh ifname af

/-- What `nwi_state_add_ifstate` does on a well-formed state, and what it returns. -/
theorem nwiStateAddIfstate_cases (h : s.WellFormed) (hlen : ifname.length < ifnamsiz)
    (af : AddressFamily) (flags : BitVec 64) (rank : BitVec 32) (ifa : Option InAddrUnion)
    (vpnServerAddr : Option Sockaddr) (reachFlags : BitVec 32) :
    let r := nwiStateAddIfstate s ifname af flags rank ifa vpnServerAddr reachFlags
    (s.Refused ifname af rank ∧ r = (s, none)) ∨
      ¬ s.Refused ifname af rank ∧ ∃ i e, r.2 = some (s.slot af i) ∧
        e.Holds ifname flags rank reachFlags ∧
        (s.UpdatedInPlace r.1 ifname af rank i e ∨ s.Appended r.1 ifname af i e) := by
  intro r
  obtain ⟨i, hidx, hlive, hcase⟩ | ⟨hnew, hcase⟩ :=
    addIfstate_inv h.capacity ifname af flags rank ifa vpnServerAddr reachFlags
  · have hmem := List.mem_of_getElem? hlive
    have hname : (s.ifstate (s.slot af i)).ifname = ifname := by
      have hget := (indexOf_eq_some (h.nodup af)).mp hidx
      rw [getElem?_names, hlive] at hget
      exact Option.some.inj hget
    obtain ⟨hrank, hr⟩ | ⟨hrank, hr⟩ := hcase
    · exact Or.inl ⟨Or.inl ⟨_, hmem, hname, hrank⟩, hr⟩
    · refine Or.inr ⟨?_, i, (s.ifstate (s.slot af i)).update af flags rank ifa vpnServerAddr
        reachFlags, by simp only [r, hr], NwiIfstate.holds_update hname, Or.inl ?_⟩
      · rintro (⟨e, he, hename, herank⟩ | ⟨hnot, -⟩)
        · -- names are distinct, so `e` is the entry found
          have heq := List.inj_on_of_nodup_map (h.nodup af) he hmem (hename.trans hname.symm)
          exact hrank (heq ▸ herank)
        · exact hnot (List.mem_map.mpr ⟨_, hmem, hname⟩)
      · simp only [r, hr]
        exact updatedInPlace_modify h.capacity hlive hname hrank
  · obtain ⟨hfull, hr⟩ | ⟨hc, hr⟩ := hcase
    · exact Or.inl ⟨Or.inr ⟨hnew, hfull⟩, hr⟩
    · have hname : (NwiIfstate.fresh ifname af).ifname = ifname := fresh_ifname hlen
      refine Or.inr ⟨?_, s.count af, NwiIfstate.update af flags rank ifa vpnServerAddr reachFlags
        ((NwiIfstate.fresh ifname af).setAfAliasOffset (s.aliasOffset af (s.count af) ifname)),
        by simp only [r, hr], NwiIfstate.holds_update hname, Or.inr ?_⟩
      · rintro (⟨e, he, hename, -⟩ | ⟨-, hfull⟩)
        · exact hnew (List.mem_map.mpr ⟨e, he, hename⟩)
        · exact hc.ne hfull
      · simp only [r, hr]
        exact appended_pushAlias h.capacity hlen hnew hc fun e => e.isLastItem_update

/-- The entry that holds the arguments is at the index returned, and no other has the name. -/
theorem index_of_effect {i : Nat} (h : s.WellFormed) (hholds : e.Holds ifname flags rank reachFlags)
    (heffect : s.UpdatedInPlace t ifname af rank i e ∨ s.Appended t ifname af i e)
    (ht : t.WellFormed) : (t.live af)[i]? = some e ∧
      ∀ j e', (t.live af)[j]? = some e' → e'.ifname = ifname → j = i := by
  have hget : (t.live af)[i]? = some e := by
    obtain hupdated | happended := heffect
    · obtain ⟨o, ho, -, -⟩ := hupdated.existing
      obtain ⟨hlt, -⟩ := List.getElem?_eq_some_iff.mp ho
      rw [hupdated.live_self, List.getElem?_set_self hlt]
    · obtain ⟨rfl, -, -⟩ := happended.room
      have hlen : ((s.live af).modify (s.count af - 1) NwiIfstate.clearLastItem).length =
          s.count af := by
        rw [List.length_modify, length_live h.capacity]
      rw [happended.live_self, List.getElem?_append_right (by omega), hlen, Nat.sub_self]
      rfl
  refine ⟨hget, fun j e' he' hname => ?_⟩
  have hi := indexOf_of_getElem? ht.toKeyed hget
  have hj := indexOf_of_getElem? ht.toKeyed he'
  rw [hname, ← hholds.ifname_eq, hi] at hj
  exact (Option.some.inj hj).symm

end NwiState

/-! ## Calls one after the other -/

/-- A call that builds a state. -/
inductive BuildCall where
  /-- `nwi_state_add_ifstate` -/
  | addIfstate (ifname : CString) (af : AddressFamily) (flags : BitVec 64) (rank : BitVec 32)
      (ifa : Option InAddrUnion) (vpnServerAddr : Option Sockaddr) (reachFlags : BitVec 32)
  /-- growth by `nwi_state_new` -/
  | grow (maxIfCount : Nat)
  /-- `nwi_state_clear` of one family -/
  | clear (af : AddressFamily)

/-- The state after a call. -/
def BuildCall.run (s : NwiState) : BuildCall → NwiState
  | addIfstate ifname af flags rank ifa vpnServerAddr reachFlags =>
    (nwiStateAddIfstate s ifname af flags rank ifa vpnServerAddr reachFlags).1
  | grow maxIfCount => (nwiStateNew (some s) maxIfCount).getD s
  | clear af => nwiStateClear s af

/-- The state after a list of calls. -/
def runCalls (s : NwiState) (calls : List BuildCall) : NwiState := calls.foldl BuildCall.run s

/-- The rank a call adds to a family: that of an addition which does not return `NULL`. -/
def BuildCall.addedRank (s : NwiState) (af : AddressFamily) : BuildCall → List (BitVec 32)
  | addIfstate ifname af' flags rank ifa vpnServerAddr reachFlags =>
    if af' = af ∧
        (nwiStateAddIfstate s ifname af' flags rank ifa vpnServerAddr reachFlags).2.isSome then
      [rank]
    else
      []
  | grow _ => []
  | clear _ => []

/-- The ranks that calls add to a family, in order. -/
def addedRanks (s : NwiState) (af : AddressFamily) : List BuildCall → List (BitVec 32)
  | [] => []
  | call :: calls => call.addedRank s af ++ addedRanks (call.run s) af calls

namespace NwiState

variable {s t : NwiState} {af : AddressFamily} {i : Nat} {f : NwiIfstate → NwiIfstate}
  {e : NwiIfstate} {ifname : CString} {flags : BitVec 64} {rank : BitVec 32}
  {ifa : Option InAddrUnion} {vpnServerAddr : Option Sockaddr} {reachFlags : BitVec 32}

/-- The ranks on the list of a family. -/
def ranks (s : NwiState) (af : AddressFamily) : List (BitVec 32) := (s.live af).map (·.rank)

theorem capacity_clear (h : s.Capacity) : (nwiStateClear s af).Capacity := by
  intro af'
  rw [nwiStateClear, maxIfCount_setCount]
  rcases eq_or_eq_nwiOtherAf af af' with rfl | rfl
  · rw [count_setCount_self]
    exact Nat.zero_le _
  · rw [count_setCount_other]
    exact h _

@[simp] theorem live_clear_self : (nwiStateClear s af).live af = [] := by
  rw [nwiStateClear, live, count_setCount_self, List.take_zero]

@[simp] theorem live_clear_other :
    (nwiStateClear s af).live (nwiOtherAf af) = s.live (nwiOtherAf af) := live_setCount_other

/-- Growth keeps the ranks. -/
theorem ranks_grow {max : Nat} (h : s.Capacity) :
    (BuildCall.run s (.grow max)).Capacity ∧
      ∀ af, (BuildCall.run s (.grow max)).ranks af = s.ranks af := by
  simp only [BuildCall.run, nwiStateNew]
  split
  · exact ⟨h, fun af => rfl⟩
  · next hlt =>
    have hmax : s.maxIfCount ≤ max := by omega
    refine ⟨fun af => ?_, fun af => ?_⟩
    · obtain ⟨-, hmaxIf, hcount⟩ :=
        setIfList_frame (nwiStateFixAfAliases (grown s max) s.maxIfCount)
      simp only [Option.getD_some]
      exact hmaxIf ▸ hcount ▸ (by
        rw [count_fixAfAliases, count_grown, maxIfCount_fixAfAliases]
        exact le_trans (h af) hmax)
    · have hlive : (nwiStateFixAfAliases (grown s max) s.maxIfCount).live af =
          (s.live af).map (.addOffset (shift af (max - s.maxIfCount))) := live_fix_grown h hmax
      simp only [Option.getD_some, ranks, live_setIfList]
      refine (congrArg (List.map _) hlive).trans ?_
      rw [List.map_map]
      refine List.map_congr_left fun e _ => ?_
      rw [Function.comp_apply, NwiIfstate.addOffset]
      split <;> rfl

/-- The ranks after an addition: the same, or with the new one at the end, or with the new one
in the place of one that was no smaller. -/
theorem ranks_addIfstate (hcap : s.Capacity) (ifname : CString) (af : AddressFamily)
    (flags : BitVec 64) (rank : BitVec 32) (ifa : Option InAddrUnion)
    (vpnServerAddr : Option Sockaddr) (reachFlags : BitVec 32) :
    let r := nwiStateAddIfstate s ifname af flags rank ifa vpnServerAddr reachFlags
    r.1.Capacity ∧
      (r = (s, none) ∨ r.2.isSome ∧ r.1.ranks (nwiOtherAf af) = s.ranks (nwiOtherAf af) ∧
        (r.1.ranks af = s.ranks af ++ [rank] ∨ ∃ (i : Nat) (o : BitVec 32),
          (s.ranks af)[i]? = some o ∧ rank ≤ o ∧ r.1.ranks af = (s.ranks af).set i rank)) := by
  intro r
  obtain ⟨i, -, hlive, ⟨-, hr⟩ | ⟨hrank, hr⟩⟩ | ⟨-, ⟨-, hr⟩ | ⟨hc, hr⟩⟩ :=
    addIfstate_inv hcap ifname af flags rank ifa vpnServerAddr reachFlags
  · refine ⟨?_, Or.inl hr⟩
    rw [show r = (s, none) from hr]
    exact hcap
  · have hi := lt_count_of_getElem? hlive
    simp only [r, hr]
    refine ⟨capacity_modify hcap, Or.inr ⟨rfl, ?_, Or.inr
      ⟨i, (s.ifstate (s.slot af i)).rank, ?_, BitVec.not_lt.mp hrank, ?_⟩⟩⟩
    · rw [ranks, live_modify_other hcap (lt_of_lt_of_le hi (hcap af)), ranks]
    · rw [ranks, List.getElem?_map, hlive, Option.map_some]
    · rw [ranks, live_modify_self, List.modify_eq_set_getElem?, hlive, ranks]
      exact (List.map_set).trans (congrArg _ NwiIfstate.update_rank)
  · refine ⟨?_, Or.inl hr⟩
    rw [show r = (s, none) from hr]
    exact hcap
  · obtain ⟨hself, hother⟩ := live_pushAlias_modify ifname
      (.update af flags rank ifa vpnServerAddr reachFlags) hcap hc
    have hranks : ((s.live af).modify (s.count af - 1) .clearLastItem).map (·.rank) =
        s.ranks af := map_modify_eq (g := NwiIfstate.clearLastItem) (fun _ => rfl) _ _
    simp only [r, hr]
    refine ⟨capacity_modify (capacity_pushAlias hcap hc), Or.inr ⟨rfl, ?_, Or.inl ?_⟩⟩
    · simp only [ranks]
      rw [hother]
      cases s.indexOf (nwiOtherAf af) (NwiIfstate.fresh ifname af).ifname with
      | none => rfl
      | some k =>
        exact map_modify_eq (g := NwiIfstate.setAfAliasOffset (s.slot af (s.count af) -
          s.slot (nwiOtherAf af) k)) (fun _ => rfl) _ _
    · simp only [ranks]
      rw [hself, List.map_append, hranks, List.map_singleton, NwiIfstate.update_rank, ranks]

/-- A call keeps ranks in order that continue in order. -/
theorem ranks_run (hcap : s.Capacity) (call : BuildCall) :
    (call.run s).Capacity ∧ ∀ af (later : List (BitVec 32)),
      (s.ranks af ++ (call.addedRank s af ++ later)).Pairwise (· ≤ ·) →
      ((call.run s).ranks af ++ later).Pairwise (· ≤ ·) := by
  cases call with
  | grow max =>
    obtain ⟨hcap', hranks⟩ := @ranks_grow s max hcap
    refine ⟨hcap', fun af later h => ?_⟩
    rw [hranks]
    exact h
  | clear af =>
    refine ⟨capacity_clear hcap, fun af' later h => ?_⟩
    rcases eq_or_eq_nwiOtherAf af af' with rfl | rfl
    · rw [BuildCall.run, ranks, live_clear_self]
      exact (List.pairwise_append.mp h).2.1
    · rw [BuildCall.run, ranks, live_clear_other]
      exact h
  | addIfstate ifname af flags rank ifa vpnServerAddr reachFlags =>
    obtain ⟨hcap', hcases⟩ :=
      ranks_addIfstate hcap ifname af flags rank ifa vpnServerAddr reachFlags
    refine ⟨hcap', fun af' later h => ?_⟩
    simp only [BuildCall.run, BuildCall.addedRank] at h ⊢
    obtain heq | ⟨hsome, hother, hself⟩ := hcases
    · rw [heq] at h ⊢
      simpa using h
    · rcases eq_or_eq_nwiOtherAf af af' with rfl | rfl
      · rw [if_pos ⟨rfl, hsome⟩] at h
        obtain happend | ⟨i, o, ho, hle, hset⟩ := hself
        · rw [happend, List.append_assoc]
          exact h
        · -- what was there is no larger either, so the entry keeps its rank
          obtain ⟨-, -, hbefore⟩ := List.pairwise_append.mp h
          have heq : o = rank := BitVec.le_antisymm
            (hbefore o (List.mem_of_getElem? ho) rank List.mem_cons_self) hle
          obtain ⟨hlt, hget⟩ := List.getElem?_eq_some_iff.mp ho
          have hsame : (s.ranks af').set i rank = s.ranks af' := by
            rw [← heq, ← hget, List.set_getElem_self]
          rw [hset, hsame]
          exact h.sublist ((List.Sublist.refl _).append (List.sublist_cons_self rank later))
      · rw [if_neg fun hand => nwiOtherAf_ne af hand.1.symm] at h
        rw [hother]
        exact h

/-- **Order.** Ranks added to a family in non-decreasing order, behind ranks in order, leave its
list in the order of ranks. -/
theorem sortedByRank_runCalls (calls : List BuildCall) : ∀ s : NwiState, s.Capacity →
    (∀ af, (s.ranks af ++ addedRanks s af calls).Pairwise (· ≤ ·)) →
    (runCalls s calls).SortedByRank := by
  induction calls with
  | nil =>
    intro s _ h af
    have haf := h af
    rw [addedRanks, List.append_nil] at haf
    exact List.pairwise_map.mp haf
  | cons call calls ih =>
    intro s hcap h
    obtain ⟨hcap', hstep⟩ := ranks_run hcap call
    exact ih (call.run s) hcap' fun af => hstep af _ (h af)

end NwiState

/-! ## Effect, atomicity and order -/

open NwiState in
/-- **`nwi_state_add_ifstate`** on a well-formed state. It returns `NULL` exactly when it is
refused, and then leaves the state; otherwise the entry it returns holds the arguments, no
other entry of the family has the name, and `UpdatedInPlace` and `Appended` say what else
changed. Ranks added in order keep the lists in order. -/
theorem nwiStateAddIfstate_effect {s : NwiState} (h : s.WellFormed) {ifname : CString}
    (hlen : ifname.length < ifnamsiz) (af : AddressFamily) (flags : BitVec 64) (rank : BitVec 32)
    (ifa : Option InAddrUnion) (vpnServerAddr : Option Sockaddr) (reachFlags : BitVec 32) :
    let r := nwiStateAddIfstate s ifname af flags rank ifa vpnServerAddr reachFlags
    (r.2 = none ↔ s.Refused ifname af rank) ∧
      (r.2 = none → r.1 = s) ∧
      (∀ p, r.2 = some p → ∃ i e, p = s.slot af i ∧
        (s.UpdatedInPlace r.1 ifname af rank i e ∨ s.Appended r.1 ifname af i e) ∧
        (r.1.live af)[i]? = some e ∧ e.Holds ifname flags rank reachFlags ∧
        ∀ j e', (r.1.live af)[j]? = some e' → e'.ifname = ifname → j = i) ∧
      ∀ calls, (∀ af, (s.ranks af ++ addedRanks s af calls).Pairwise (· ≤ ·)) →
        (runCalls s calls).SortedByRank := by
  intro r
  have hsorted := fun calls => sortedByRank_runCalls calls s h.capacity
  have hwf : r.1.WellFormed := h.addIfstate hlen flags rank ifa vpnServerAddr reachFlags
  obtain ⟨hrefused, hr⟩ | ⟨hok, i, e, hret, hholds, heffect⟩ :=
    nwiStateAddIfstate_cases h hlen af flags rank ifa vpnServerAddr reachFlags
  · have hr' : r = (s, none) := hr
    refine ⟨iff_of_true (by rw [hr']) hrefused, fun _ => by rw [hr'], fun p hp => ?_, hsorted⟩
    rw [hr'] at hp
    cases hp
  · have hret' : r.2 = some (s.slot af i) := hret
    have hsome : r.2 ≠ none := by
      rw [hret']
      exact Option.some_ne_none _
    obtain ⟨hget, hunique⟩ := index_of_effect h hholds heffect hwf
    refine ⟨iff_of_false hsome hok, fun hnone => absurd hnone hsome, fun p hp => ?_, hsorted⟩
    rw [hret'] at hp
    exact ⟨i, e, (Option.some.inj hp).symm, heffect, hget, hholds, hunique⟩

open NwiState in
/-- `en0` on an empty state of one slot: it is appended, and `en1` behind it is refused. -/
theorem nwiStateAddIfstate_effect_en0 :
    (nwiStateAddIfstate (nwiStateAlloc 1) [0x65, 0x6e, 0x30] .inet 1 7 none none 3).2 = some 0 ∧
    (nwiStateAddIfstate
      (nwiStateAddIfstate (nwiStateAlloc 1) [0x65, 0x6e, 0x30] .inet 1 7 none none 3).1
      [0x65, 0x6e, 0x31] .inet 1 8 none none 3).2 = none := by
  have hwf : (nwiStateAlloc 1).WellFormed :=
    wellFormed_of_count_eq_zero fun af => by cases af <;> rfl
  have hlen : ([0x65, 0x6e, 0x30] : CString).length < ifnamsiz := by decide
  refine ⟨rfl, ?_⟩
  obtain ⟨hrefused, -⟩ := nwiStateAddIfstate_effect (s := (nwiStateAddIfstate (nwiStateAlloc 1)
    [0x65, 0x6e, 0x30] .inet 1 7 none none 3).1) (hwf.addIfstate hlen 1 7 none none 3)
    (show ([0x65, 0x6e, 0x31] : CString).length < ifnamsiz by decide) .inet 1 8 none none 3
  exact hrefused.mpr (Or.inr ⟨by decide, by decide⟩)

end ConfigdExtra
