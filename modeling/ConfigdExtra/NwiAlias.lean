import ConfigdExtra.NwiAddIfstate

/-!
# Aliases, and clearing one family

`nwi_ifstate_get_alias` follows `af_alias_offset` from an entry without looking at the state,
and `nwi_state_clear` resets a count without looking at the other family. So offsets into the
cleared half stay behind.

* `nwiIfstateGetAlias`, `AliasesLive` — the pointer, and what it should lead to.
* `Linked` — the invariant of additions and growth that says where aliases are stored.
* `aliasesLive_iff` — aliases lead to live entries in all states of a run exactly when no
  family is cleared while it shares a name with the other.
-/

namespace ConfigdExtra

/-- `nwi_ifstate_get_alias`. The sum is a slot of the state only if the offset is right, so the
pointer is an integer. -/
def nwiIfstateGetAlias (state : NwiState) (ifstate : Nat) (af : AddressFamily) : Option Int :=
  if (state.ifstate ifstate).af = af then
    some ifstate
  else if (state.ifstate ifstate).afAliasOffset = 0 then
    none
  else
    some (ifstate + (state.ifstate ifstate).afAliasOffset)

/-- What the alias of an entry depends on. -/
structure Link where
  /-- the family of the entry -/
  af : AddressFamily
  /-- its name -/
  ifname : CString
  /-- its `af_alias_offset` -/
  offset : Int

/-- The link of an entry. -/
def NwiIfstate.link (e : NwiIfstate) : Link := ⟨e.af, e.ifname, e.afAliasOffset⟩

namespace NwiState

variable {s t : NwiState} {af : AddressFamily} {i k p : Nat} {f : NwiIfstate → NwiIfstate}
  {e : NwiIfstate} {ifname name : CString}

/-- The alias of every live entry is `NULL` or a live entry of the other family of the same
name. -/
def AliasesLive (s : NwiState) : Prop :=
  ∀ af i, i < s.count af → ∀ p, nwiIfstateGetAlias s (s.slot af i) (nwiOtherAf af) = some p →
    ∃ k < s.count (nwiOtherAf af), p = s.slot (nwiOtherAf af) k ∧
      (s.ifstate (s.slot (nwiOtherAf af) k)).ifname = (s.ifstate (s.slot af i)).ifname

/-- The links of a family. -/
def links (s : NwiState) (af : AddressFamily) : List Link := (s.live af).map (·.link)

/-- Aliases are stored where there is a peer, and lead to it. -/
structure Linked (s : NwiState) : Prop where
  /-- counts stay inside the halves -/
  capacity : s.Capacity
  /-- every entry is of the family of its list -/
  af_eq : ∀ af, ∀ l ∈ s.links af, l.af = af
  /-- an offset leads to an entry of that name in the other family -/
  peer : ∀ af i l, (s.links af)[i]? = some l → l.offset ≠ 0 →
    ∃ (k : Nat) (l' : Link), (s.links (nwiOtherAf af))[k]? = some l' ∧ l'.ifname = l.ifname ∧
      l.offset = (s.slot (nwiOtherAf af) k : Int) - s.slot af i
  /-- of a name on both lists, each has an entry with an offset -/
  linked : ∀ af, ∀ l ∈ s.links af, ∀ l' ∈ s.links (nwiOtherAf af), l'.ifname = l.ifname →
    ∃ m ∈ s.links af, m.ifname = l.ifname ∧ m.offset ≠ 0

theorem getElem?_links_of_lt (hcap : s.Capacity) (hi : i < s.count af) :
    (s.links af)[i]? = some (s.ifstate (s.slot af i)).link := by
  rw [links, List.getElem?_map, getElem?_live_of_lt hcap hi, Option.map_some]

theorem length_links (hcap : s.Capacity) : (s.links af).length = s.count af := by
  rw [links, List.length_map, length_live hcap]

/-- The alias of a live entry, by its link. -/
theorem getAlias_eq (h : s.Linked) (hi : i < s.count af) :
    nwiIfstateGetAlias s (s.slot af i) (nwiOtherAf af) =
      if (s.ifstate (s.slot af i)).afAliasOffset = 0 then none
      else some (s.slot af i + (s.ifstate (s.slot af i)).afAliasOffset) := by
  have haf : (s.ifstate (s.slot af i)).af = af :=
    h.af_eq af _ (List.mem_of_getElem? (getElem?_links_of_lt h.capacity hi))
  rw [nwiIfstateGetAlias, haf, if_neg (nwiOtherAf_ne af).symm]

theorem Linked.aliasesLive (h : s.Linked) : s.AliasesLive := by
  intro af i hi p hp
  rw [getAlias_eq h hi] at hp
  split at hp
  · cases hp
  · next hoff =>
    obtain ⟨k, l', hl', hname, heq⟩ :=
      h.peer af i _ (getElem?_links_of_lt h.capacity hi) hoff
    obtain ⟨hk, -⟩ := List.getElem?_eq_some_iff.mp hl'
    rw [length_links h.capacity] at hk
    rw [getElem?_links_of_lt h.capacity hk] at hl'
    obtain rfl := Option.some.inj hl'
    refine ⟨k, hk, ?_, hname⟩
    simp only [NwiIfstate.link] at heq
    rw [← Option.some.inj hp, heq]
    omega

/-! ## What the calls keep -/

/-- The links decide. -/
theorem Linked.congr (h : s.Linked) (hcap : t.Capacity) (hlinks : ∀ af, t.links af = s.links af)
    (hmax : t.maxIfCount = s.maxIfCount) : t.Linked where
  capacity := hcap
  af_eq af := hlinks af ▸ h.af_eq af
  peer af i l hl hne := by
    rw [hlinks] at hl
    obtain ⟨k, l', hl', hname, heq⟩ := h.peer af i l hl hne
    refine ⟨k, l', hlinks (nwiOtherAf af) ▸ hl', hname, ?_⟩
    rwa [slot_congr hmax, slot_congr hmax]
  linked af := by
    rw [hlinks, hlinks]
    exact h.linked af

/-- Without entries in a family there are no aliases. -/
theorem Linked.of_links_nil (hcap : s.Capacity) (haf : ∀ af, ∀ l ∈ s.links af, l.af = af)
    (hnil : s.links af = []) (hzero : ∀ l ∈ s.links (nwiOtherAf af), l.offset = 0) : s.Linked where
  capacity := hcap
  af_eq := haf
  peer af' i l hl hne := by
    have hmem := List.mem_of_getElem? hl
    rcases eq_or_eq_nwiOtherAf af af' with rfl | rfl
    · rw [hnil] at hmem
      cases hmem
    · exact absurd (hzero l hmem) hne
  linked af' l hl l' hl' := by
    rcases eq_or_eq_nwiOtherAf af af' with rfl | rfl
    · rw [hnil] at hl
      cases hl
    · rw [nwiOtherAf_nwiOtherAf, hnil] at hl'
      cases hl'

theorem names_eq_map_links : s.names af = (s.links af).map (·.ifname) := by
  rw [links, List.map_map, names]
  rfl

/-- A new name is appended to a family that the other family lacks. -/
theorem Linked.append_alone (h : s.Linked) (hcap : t.Capacity)
    (hmax : t.maxIfCount = s.maxIfCount) (hnot : name ∉ s.names (nwiOtherAf af))
    (hself : t.links af = s.links af ++ [⟨af, name, 0⟩])
    (hother : t.links (nwiOtherAf af) = s.links (nwiOtherAf af)) : t.Linked := by
  have hne : ∀ l ∈ s.links (nwiOtherAf af), l.ifname ≠ name := fun l hl heq => by
    rw [names_eq_map_links] at hnot
    exact hnot (heq ▸ List.mem_map_of_mem hl)
  have hgrow : ∀ (k : Nat) (l : Link), (s.links af)[k]? = some l → (t.links af)[k]? = some l := by
    intro k l hl
    obtain ⟨hlt, -⟩ := List.getElem?_eq_some_iff.mp hl
    rwa [hself, List.getElem?_append_left hlt]
  -- each link is an old one, or the new one
  have hcases : ∀ (k : Nat) (l : Link), (t.links af)[k]? = some l →
      (s.links af)[k]? = some l ∨ l = ⟨af, name, 0⟩ := by
    intro k l hl
    rw [hself, List.getElem?_append] at hl
    split at hl
    · exact Or.inl hl
    · exact Or.inr (List.mem_singleton.mp (List.mem_of_getElem? hl))
  refine ⟨hcap, fun af' l hl => ?_, fun af' i l hl hoff => ?_, fun af' l hl l' hl' hname => ?_⟩
  · rcases eq_or_eq_nwiOtherAf af af' with rfl | rfl
    · obtain ⟨i, hi⟩ := List.mem_iff_getElem?.mp hl
      obtain hold | rfl := hcases i l hi
      · exact h.af_eq af' l (List.mem_of_getElem? hold)
      · rfl
    · exact h.af_eq _ l (hother ▸ hl)
  · simp only [slot_congr hmax]
    rcases eq_or_eq_nwiOtherAf af af' with rfl | rfl
    · obtain hold | rfl := hcases i l hl
      · rw [hother]
        exact h.peer af' i l hold hoff
      · exact absurd rfl hoff
    · rw [hother] at hl
      obtain ⟨k, l', hl', hrest⟩ := h.peer _ i l hl hoff
      rw [nwiOtherAf_nwiOtherAf] at hl' ⊢
      rw [nwiOtherAf_nwiOtherAf] at hrest
      exact ⟨k, l', hgrow k l' hl', hrest⟩
  · rcases eq_or_eq_nwiOtherAf af af' with rfl | rfl
    · rw [hother] at hl'
      obtain ⟨i, hi⟩ := List.mem_iff_getElem?.mp hl
      obtain hold | rfl := hcases i l hi
      · obtain ⟨m, hm, hmrest⟩ := h.linked af' l (List.mem_of_getElem? hold) l' hl' hname
        rw [hself]
        exact ⟨m, List.mem_append_left _ hm, hmrest⟩
      · exact absurd hname (hne l' hl')
    · rw [hother] at hl
      rw [nwiOtherAf_nwiOtherAf] at hl'
      obtain ⟨i, hi⟩ := List.mem_iff_getElem?.mp hl'
      obtain hold | rfl := hcases i l' hi
      · rw [hother]
        refine h.linked _ l hl l' ?_ hname
        rw [nwiOtherAf_nwiOtherAf]
        exact List.mem_of_getElem? hold
      · exact absurd hname.symm (hne l hl)

/-- A new name is appended to a family and linked with its peer in the other. -/
theorem Linked.append_peer (h : s.Linked) (hcap : t.Capacity)
    (hmax : t.maxIfCount = s.maxIfCount) (hc : s.count af < s.maxIfCount) {l₀ : Link}
    (hk : (s.links (nwiOtherAf af))[k]? = some l₀) (hname₀ : l₀.ifname = name) {off : Int}
    (hoff₀ : off = (s.slot (nwiOtherAf af) k : Int) - s.slot af (s.count af))
    (hself : t.links af = s.links af ++ [⟨af, name, off⟩])
    (hother : t.links (nwiOtherAf af) =
      (s.links (nwiOtherAf af)).modify k fun l => { l with offset := -off }) : t.Linked := by
  have hlt : k < s.maxIfCount := by
    obtain ⟨hlt, -⟩ := List.getElem?_eq_some_iff.mp hk
    rw [length_links h.capacity] at hlt
    exact lt_of_lt_of_le hlt (h.capacity _)
  have hne₀ : off ≠ 0 := by
    have hslot : s.slot (nwiOtherAf af) k ≠ s.slot af (s.count af) := slot_other_ne hc hlt
    omega
  -- the two linked entries
  have hnew : (t.links af)[s.count af]? = some ⟨af, name, off⟩ := by
    rw [hself, List.getElem?_append_right (by rw [length_links h.capacity]),
      length_links h.capacity, Nat.sub_self]
    rfl
  have hpeer : (t.links (nwiOtherAf af))[k]? = some { l₀ with offset := -off } := by
    rw [hother, List.getElem?_modify_eq, hk]
    rfl
  -- every other entry is an old one
  have hcases : ∀ (i : Nat) (l : Link), (t.links af)[i]? = some l →
      (s.links af)[i]? = some l ∨ i = s.count af ∧ l = ⟨af, name, off⟩ := by
    intro i l hl
    rw [hself, List.getElem?_append] at hl
    split at hl
    · exact Or.inl hl
    · next hge =>
      rw [length_links h.capacity] at hl hge
      obtain ⟨hlt', hget⟩ := List.getElem?_eq_some_iff.mp hl
      rw [List.length_singleton] at hlt'
      exact Or.inr ⟨by omega, by simpa using hget.symm⟩
  have hcases' : ∀ (i : Nat) (l : Link), (t.links (nwiOtherAf af))[i]? = some l →
      (s.links (nwiOtherAf af))[i]? = some l ∨ i = k ∧ l = { l₀ with offset := -off } := by
    intro i l hl
    rcases eq_or_ne i k with rfl | hik
    · exact Or.inr ⟨rfl, Option.some.inj (hl.symm.trans hpeer)⟩
    · rw [hother, List.getElem?_modify_ne _ _ hik.symm] at hl
      exact Or.inl hl
  -- and every old one is there, with its name
  have hkeep : ∀ (i : Nat) (l : Link), (s.links af)[i]? = some l → (t.links af)[i]? = some l := by
    intro i l hl
    obtain ⟨hlt', -⟩ := List.getElem?_eq_some_iff.mp hl
    rwa [hself, List.getElem?_append_left hlt']
  have hkeep' : ∀ (i : Nat) (l : Link), (s.links (nwiOtherAf af))[i]? = some l →
      ∃ l', (t.links (nwiOtherAf af))[i]? = some l' ∧ l'.ifname = l.ifname ∧
        (l.offset ≠ 0 → l'.offset ≠ 0) := by
    intro i l hl
    rcases eq_or_ne i k with rfl | hik
    · obtain rfl := Option.some.inj (hl.symm.trans hk)
      exact ⟨_, hpeer, rfl, fun _ => neg_ne_zero.mpr hne₀⟩
    · refine ⟨l, ?_, rfl, id⟩
      rw [hother, List.getElem?_modify_ne _ _ hik.symm, hl]
  refine ⟨hcap, fun af' l hl => ?_, fun af' i l hl hoff => ?_, fun af' l hl l' hl' hname => ?_⟩
  · obtain ⟨i, hi⟩ := List.mem_iff_getElem?.mp hl
    rcases eq_or_eq_nwiOtherAf af af' with rfl | rfl
    · obtain hold | ⟨-, rfl⟩ := hcases i l hi
      · exact h.af_eq af' l (List.mem_of_getElem? hold)
      · rfl
    · obtain hold | ⟨-, rfl⟩ := hcases' i l hi
      · exact h.af_eq _ l (List.mem_of_getElem? hold)
      · exact h.af_eq _ l₀ (List.mem_of_getElem? hk)
  · simp only [slot_congr hmax]
    rcases eq_or_eq_nwiOtherAf af af' with rfl | rfl
    · obtain hold | ⟨rfl, rfl⟩ := hcases i l hl
      · obtain ⟨j, l', hl', hname, heq⟩ := h.peer af' i l hold hoff
        obtain ⟨l'', hl'', hname', -⟩ := hkeep' j l' hl'
        exact ⟨j, l'', hl'', hname'.trans hname, heq⟩
      · exact ⟨k, _, hpeer, hname₀, hoff₀⟩
    · rw [nwiOtherAf_nwiOtherAf]
      obtain hold | ⟨rfl, rfl⟩ := hcases' i l hl
      · obtain ⟨j, l', hl', hname, heq⟩ := h.peer _ i l hold hoff
        rw [nwiOtherAf_nwiOtherAf] at hl' heq
        exact ⟨j, l', hkeep j l' hl', hname, heq⟩
      · refine ⟨s.count af, _, hnew, hname₀.symm, ?_⟩
        simp only [hoff₀]
        omega
  · by_cases hln : l.ifname = name
    · -- of the new name, both linked entries have offsets
      rcases eq_or_eq_nwiOtherAf af af' with rfl | rfl
      · exact ⟨_, List.mem_of_getElem? hnew, hln.symm, hne₀⟩
      · exact ⟨_, List.mem_of_getElem? hpeer, hname₀.trans hln.symm, neg_ne_zero.mpr hne₀⟩
    · obtain ⟨i, hi⟩ := List.mem_iff_getElem?.mp hl
      obtain ⟨j, hj⟩ := List.mem_iff_getElem?.mp hl'
      rcases eq_or_eq_nwiOtherAf af af' with rfl | rfl
      · obtain hold | ⟨-, rfl⟩ := hcases i l hi
        · obtain hold' | ⟨-, rfl⟩ := hcases' j l' hj
          · obtain ⟨m, hm, hmname, hmoff⟩ := h.linked af' l (List.mem_of_getElem? hold) l'
              (List.mem_of_getElem? hold') hname
            obtain ⟨n, hn⟩ := List.mem_iff_getElem?.mp hm
            exact ⟨m, List.mem_of_getElem? (hkeep n m hn), hmname, hmoff⟩
          · exact absurd (hname.symm.trans hname₀) hln
        · exact absurd rfl hln
      · rw [nwiOtherAf_nwiOtherAf] at hj
        obtain hold | ⟨-, rfl⟩ := hcases' i l hi
        · obtain hold' | ⟨-, rfl⟩ := hcases j l' hj
          · have hmem : l' ∈ s.links (nwiOtherAf (nwiOtherAf af)) := by
              rw [nwiOtherAf_nwiOtherAf]
              exact List.mem_of_getElem? hold'
            obtain ⟨m, hm, hmname, hmoff⟩ :=
              h.linked _ l (List.mem_of_getElem? hold) l' hmem hname
            obtain ⟨n, hn⟩ := List.mem_iff_getElem?.mp hm
            obtain ⟨m', hm', hmname', hmoff'⟩ := hkeep' n m hn
            exact ⟨m', List.mem_of_getElem? hm', hmname'.trans hmname, hmoff' hmoff⟩
          · exact absurd hname.symm hln
        · exact absurd hname₀ hln

theorem map_link_modify (l : List NwiIfstate) (k : Nat) (off : Int) :
    (l.modify k (.setAfAliasOffset off)).map (·.link) =
      (l.map (·.link)).modify k fun l => { l with offset := off } := by
  apply List.ext_getElem?
  intro i
  rw [List.getElem?_map]
  rcases eq_or_ne k i with rfl | hne
  · rw [List.getElem?_modify_eq, List.getElem?_modify_eq, List.getElem?_map]
    cases l[k]? <;> rfl
  · rw [List.getElem?_modify_ne _ _ hne, List.getElem?_modify_ne _ _ hne, List.getElem?_map]

/-- An addition links the new entry with its peer, if it has one. -/
theorem Linked.addIfstate (h : s.Linked) (ifname : CString) (af : AddressFamily)
    (flags : BitVec 64) (rank : BitVec 32) (ifa : Option InAddrUnion)
    (vpnServerAddr : Option Sockaddr) (reachFlags : BitVec 32) :
    (nwiStateAddIfstate s ifname af flags rank ifa vpnServerAddr reachFlags).1.Linked := by
  have hlink : ∀ e : NwiIfstate,
      (e.update af flags rank ifa vpnServerAddr reachFlags).link = e.link := fun e => by
    simp only [NwiIfstate.link, NwiIfstate.update_af, NwiIfstate.update_ifname,
      NwiIfstate.update_afAliasOffset]
  obtain ⟨i, -, -, ⟨-, hr⟩ | ⟨-, hr⟩⟩ | ⟨-, ⟨-, hr⟩ | ⟨hc, hr⟩⟩ :=
    addIfstate_inv h.capacity ifname af flags rank ifa vpnServerAddr reachFlags
  · rw [hr]
    exact h
  · rw [hr]
    exact h.congr (capacity_modify h.capacity) (fun _ => map_live_modify hlink) rfl
  · rw [hr]
    exact h
  · rw [hr]
    obtain ⟨hself, hother⟩ := live_pushAlias_modify ifname
      (.update af flags rank ifa vpnServerAddr reachFlags) h.capacity hc
    have hcap' := capacity_modify (p := s.slot af (s.count af))
      (f := .update af flags rank ifa vpnServerAddr reachFlags)
      (@capacity_pushAlias s af ifname h.capacity hc)
    have hmax := ((sameHeader_pushAlias s ifname af (s.slot af (s.count af))).trans
      (sameHeader_modify _ (s.slot af (s.count af))
        (.update af flags rank ifa vpnServerAddr reachFlags))).maxIfCount_eq
    -- only the links of the new state matter from here
    generalize (nwiStateAddIfstateAlias (nwiStatePushIfstate s ifname af)
      (s.slot af (s.count af))).modify (s.slot af (s.count af))
        (.update af flags rank ifa vpnServerAddr reachFlags) = t at hself hother hcap' hmax ⊢
    have hlinks : t.links af = s.links af ++ [⟨af, (NwiIfstate.fresh ifname af).ifname,
        s.aliasOffset af (s.count af) (NwiIfstate.fresh ifname af).ifname⟩] := by
      have hclear : ((s.live af).modify (s.count af - 1) .clearLastItem).map (·.link) =
          s.links af := map_modify_eq (g := NwiIfstate.clearLastItem) (fun _ => rfl) _ _
      rw [links, hself, List.map_append, hclear, List.map_singleton, hlink]
      rfl
    cases hidx : s.indexOf (nwiOtherAf af) (NwiIfstate.fresh ifname af).ifname with
    | none =>
      simp only [hidx] at hother
      rw [aliasOffset, hidx] at hlinks
      -- no entry of the other family has the name
      refine h.append_alone hcap' hmax (indexOf_eq_none.mp hidx) hlinks ?_
      rw [links, hother, links]
    | some k =>
      simp only [hidx] at hother
      rw [aliasOffset, hidx] at hlinks
      obtain ⟨hlt, hname, -⟩ := List.findIdx?_eq_some_iff_getElem.mp hidx
      rw [length_names h.capacity] at hlt
      have hget := getElem?_links_of_lt h.capacity hlt
      have hname' : (s.ifstate (s.slot (nwiOtherAf af) k)).ifname =
          (NwiIfstate.fresh ifname af).ifname := by
        have hnames := getElem?_names_of_lt h.capacity hlt
        obtain ⟨hlt', hnames⟩ := List.getElem?_eq_some_iff.mp hnames
        rw [← hnames]
        exact of_decide_eq_true hname
      -- one has it, and is linked to the new one
      refine h.append_peer hcap' hmax hc hget hname' rfl hlinks ?_
      rw [links, hother, map_link_modify, links]
      simp only [neg_sub]

/-- Growth moves the aliases with the IPv6 half. -/
theorem Linked.grow (h : s.Linked) (max : Nat) : (BuildCall.run s (.grow max)).Linked := by
  obtain ⟨hcap', -⟩ := @ranks_grow s max h.capacity
  by_cases hge : s.maxIfCount ≥ max
  · have hsame : BuildCall.run s (.grow max) = s := by
      simp only [BuildCall.run, nwiStateNew, if_pos hge, Option.getD_some]
    rw [hsame]
    exact h
  · have hmax : s.maxIfCount ≤ max := by omega
    have hrun : BuildCall.run s (.grow max) =
        nwiStateSetIfList (nwiStateFixAfAliases (grown s max) s.maxIfCount) := by
      simp only [BuildCall.run, nwiStateNew, if_neg hge]
      rfl
    have hmaxIf : (BuildCall.run s (.grow max)).maxIfCount = max := by
      rw [hrun, (setIfList_frame _).2.1, maxIfCount_fixAfAliases]
      rfl
    have hlinks : ∀ af, (BuildCall.run s (.grow max)).links af = (s.links af).map fun l =>
        if l.offset ≠ 0 then { l with offset := l.offset + shift af (max - s.maxIfCount) }
        else l := by
      intro af
      have hlive : (nwiStateFixAfAliases (grown s max) s.maxIfCount).live af =
          (s.live af).map (.addOffset (shift af (max - s.maxIfCount))) :=
        live_fix_grown h.capacity hmax
      rw [hrun, links, live_setIfList, hlive, List.map_map, links, List.map_map]
      refine List.map_congr_left fun e _ => ?_
      simp only [Function.comp_apply, NwiIfstate.addOffset, NwiIfstate.link]
      split <;> rfl
    -- an old link after growth
    have hgrown : ∀ af (i : Nat) (l₀ : Link), (s.links af)[i]? = some l₀ →
        ∃ l, ((BuildCall.run s (.grow max)).links af)[i]? = some l ∧ l.ifname = l₀.ifname ∧
          (l₀.offset ≠ 0 → l.offset = l₀.offset + shift af (max - s.maxIfCount)) := by
      intro af i l₀ hl₀
      rw [hlinks, List.getElem?_map, hl₀, Option.map_some]
      split
      · exact ⟨_, rfl, rfl, fun _ => rfl⟩
      · next hzero => exact ⟨_, rfl, rfl, fun hne => absurd hne hzero⟩
    have hinv : ∀ af (i : Nat) (l : Link), ((BuildCall.run s (.grow max)).links af)[i]? = some l →
        ∃ l₀, (s.links af)[i]? = some l₀ ∧ l.af = l₀.af ∧ l.ifname = l₀.ifname ∧
          (l.offset ≠ 0 → l₀.offset ≠ 0) := by
      intro af i l hl
      rw [hlinks, List.getElem?_map] at hl
      obtain ⟨l₀, hl₀, rfl⟩ := Option.map_eq_some_iff.mp hl
      refine ⟨l₀, hl₀, ?_⟩
      split
      · next hne => exact ⟨rfl, rfl, fun _ => hne⟩
      · exact ⟨rfl, rfl, id⟩
    have hslot : ∀ af (i k : Nat), (s.slot (nwiOtherAf af) k : Int) - s.slot af i +
        shift af (max - s.maxIfCount) =
          ((BuildCall.run s (.grow max)).slot (nwiOtherAf af) k : Int) -
            (BuildCall.run s (.grow max)).slot af i := by
      intro af i k
      cases af <;> simp only [slot, nwiOtherAf, shift, hmaxIf] <;> push_cast <;> omega
    refine ⟨hcap', fun af l hl => ?_, fun af i l hl hoff => ?_, fun af l hl l' hl' hname => ?_⟩
    · obtain ⟨i, hi⟩ := List.mem_iff_getElem?.mp hl
      obtain ⟨l₀, hl₀, haf, -⟩ := hinv af i l hi
      rw [haf, h.af_eq af l₀ (List.mem_of_getElem? hl₀)]
    · obtain ⟨l₀, hl₀, -, hname₀, hne₀⟩ := hinv af i l hl
      obtain ⟨k, l', hl', hname', heq⟩ := h.peer af i l₀ hl₀ (hne₀ hoff)
      obtain ⟨m, hm, hmname, -⟩ := hgrown _ k l' hl'
      obtain ⟨l₁, hl₁, -, hoff₁⟩ := hgrown af i l₀ hl₀
      obtain rfl := Option.some.inj (hl.symm.trans hl₁)
      refine ⟨k, m, hm, hmname.trans (hname'.trans hname₀.symm), ?_⟩
      rw [hoff₁ (hne₀ hoff), heq, hslot]
    · obtain ⟨i, hi⟩ := List.mem_iff_getElem?.mp hl
      obtain ⟨j, hj⟩ := List.mem_iff_getElem?.mp hl'
      obtain ⟨l₀, hl₀, -, hname₀, -⟩ := hinv af i l hi
      obtain ⟨l₀', hl₀', -, hname₀', -⟩ := hinv _ j l' hj
      obtain ⟨m, hm, hmname, hmoff⟩ := h.linked af l₀ (List.mem_of_getElem? hl₀) l₀'
        (List.mem_of_getElem? hl₀') (by rw [← hname₀, ← hname₀', hname])
      obtain ⟨n, hn⟩ := List.mem_iff_getElem?.mp hm
      obtain ⟨k, l'', hl'', -, heq⟩ := h.peer af n m hn hmoff
      obtain ⟨m', hm', hmname', hmoff'⟩ := hgrown af n m hn
      refine ⟨m', List.mem_of_getElem? hm', hmname'.trans (hmname.trans hname₀.symm), ?_⟩
      rw [hmoff' hmoff, heq, hslot]
      -- the two halves do not overlap
      have hn' : n < (BuildCall.run s (.grow max)).maxIfCount := by
        obtain ⟨hlt, -⟩ := List.getElem?_eq_some_iff.mp hn
        rw [length_links h.capacity] at hlt
        have := h.capacity af
        omega
      have hk' : k < (BuildCall.run s (.grow max)).maxIfCount := by
        obtain ⟨hlt, -⟩ := List.getElem?_eq_some_iff.mp hl''
        rw [length_links h.capacity] at hlt
        have := h.capacity (nwiOtherAf af)
        omega
      have hne : (BuildCall.run s (.grow max)).slot (nwiOtherAf af) k ≠
          (BuildCall.run s (.grow max)).slot af n := slot_other_ne hn' hk'
      omega

/-- The two lists share no name. -/
def NamesDisjoint (s : NwiState) : Prop := List.Disjoint (s.names .inet) (s.names .inet6)

theorem namesDisjoint_iff (af : AddressFamily) :
    s.NamesDisjoint ↔ ∀ name ∈ s.names af, name ∉ s.names (nwiOtherAf af) := by
  cases af with
  | inet => exact Iff.rfl
  | inet6 => exact List.disjoint_comm

/-- Clearing a family that shares no name with the other leaves no alias behind. -/
theorem Linked.clear (h : s.Linked) (hdisjoint : s.NamesDisjoint) (af : AddressFamily) :
    (nwiStateClear s af).Linked := by
  have hself : (nwiStateClear s af).links af = [] := by
    rw [links, live_clear_self]
    rfl
  have hother : (nwiStateClear s af).links (nwiOtherAf af) = s.links (nwiOtherAf af) := by
    rw [links, live_clear_other, links]
  refine Linked.of_links_nil (capacity_clear h.capacity) (fun af' l hl => ?_) hself
    fun l hl => ?_
  · rcases eq_or_eq_nwiOtherAf af af' with rfl | rfl
    · rw [hself] at hl
      cases hl
    · exact h.af_eq _ l (hother ▸ hl)
  · by_contra hoff
    obtain ⟨i, hi⟩ := List.mem_iff_getElem?.mp (hother ▸ hl)
    obtain ⟨k, l', hl', hname, -⟩ := h.peer _ i l hi hoff
    refine (namesDisjoint_iff (nwiOtherAf af)).mp hdisjoint l.ifname ?_ ?_
    · rw [names_eq_map_links]
      exact List.mem_map_of_mem (hother ▸ hl)
    · rw [names_eq_map_links, ← hname]
      exact List.mem_map_of_mem (List.mem_of_getElem? hl')

/-- Clearing a family that shares a name with the other leaves an alias behind. -/
theorem Linked.not_aliasesLive_clear (h : s.Linked) (hshared : ¬ s.NamesDisjoint)
    (af : AddressFamily) : ¬ (nwiStateClear s af).AliasesLive := by
  intro hlive
  refine hshared ((namesDisjoint_iff (nwiOtherAf af)).mpr fun name hself hother => ?_)
  rw [names_eq_map_links] at hself hother
  obtain ⟨l, hl, rfl⟩ := List.mem_map.mp hself
  obtain ⟨l', hl', hname⟩ := List.mem_map.mp hother
  obtain ⟨m, hm, -, hoff⟩ := h.linked _ l hl l' hl' hname
  obtain ⟨i, hi⟩ := List.mem_iff_getElem?.mp hm
  have hlt : i < s.count (nwiOtherAf af) := by
    obtain ⟨hlt, -⟩ := List.getElem?_eq_some_iff.mp hi
    rwa [length_links h.capacity] at hlt
  rw [getElem?_links_of_lt h.capacity hlt] at hi
  obtain rfl := Option.some.inj hi
  have hslot : ∀ j, (nwiStateClear s af).slot (nwiOtherAf af) j = s.slot (nwiOtherAf af) j :=
    fun j => slot_setCount
  have hget : nwiIfstateGetAlias (nwiStateClear s af)
      ((nwiStateClear s af).slot (nwiOtherAf af) i) (nwiOtherAf (nwiOtherAf af)) =
      some (s.slot (nwiOtherAf af) i + (s.ifstate (s.slot (nwiOtherAf af) i)).afAliasOffset) := by
    have hstate : ∀ p, (nwiStateClear s af).ifstate p = s.ifstate p := fun p => by
      rw [ifstate, nwiStateClear, ifstateList_setCount, ifstate]
    have hne : (s.ifstate (s.slot (nwiOtherAf af) i)).afAliasOffset ≠ 0 := hoff
    have halias := getAlias_eq h hlt
    rw [if_neg hne] at halias
    rw [hslot, ← halias]
    simp only [nwiIfstateGetAlias, hstate]
  obtain ⟨k, hk, -⟩ := hlive (nwiOtherAf af) i
    (by rwa [nwiStateClear, count_setCount_other]) _ hget
  -- but the cleared family has no entry
  rw [nwiOtherAf_nwiOtherAf, nwiStateClear, count_setCount_self] at hk
  exact Nat.not_lt_zero k hk

/-! ## Runs -/

/-- A call keeps aliases linked unless it clears a family that shares a name with the other. -/
theorem Linked.run (h : s.Linked) (call : BuildCall)
    (hclear : ∀ af, call = .clear af → s.NamesDisjoint) : (call.run s).Linked := by
  cases call with
  | addIfstate ifname af flags rank ifa vpnServerAddr reachFlags =>
    exact h.addIfstate ifname af flags rank ifa vpnServerAddr reachFlags
  | grow max => exact h.grow max
  | clear af => exact h.clear (hclear af rfl) af

/-- In a run from a linked state, aliases stay live exactly as long as no family is cleared that
shares a name with the other. -/
theorem Linked.aliasesLive_run_iff (calls : List BuildCall) : ∀ s : NwiState, s.Linked →
    ((∀ k, (runCalls s (calls.take k)).AliasesLive) ↔
      ∀ k af, calls[k]? = some (.clear af) → (runCalls s (calls.take k)).NamesDisjoint) := by
  induction calls with
  | nil =>
    intro s hs
    refine iff_of_true (fun k => ?_) fun k af hk => by cases hk
    rw [List.take_nil]
    exact hs.aliasesLive
  | cons call calls ih =>
    intro s hs
    by_cases hmeets : ∀ af, call = .clear af → s.NamesDisjoint
    · have hrun := ih (call.run s) (hs.run call hmeets)
      constructor
      · intro hlive k af hk
        cases k with
        | zero => exact hmeets af (Option.some.inj hk)
        | succ k => exact hrun.mp (fun j => hlive (j + 1)) k af hk
      · intro hdisjoint k
        cases k with
        | zero => exact hs.aliasesLive
        | succ k => exact hrun.mpr (fun j af hj => hdisjoint (j + 1) af hj) k
    · obtain ⟨af, rfl, hshared⟩ : ∃ af, call = .clear af ∧ ¬ s.NamesDisjoint := by
        simpa only [not_forall, exists_prop] using hmeets
      exact iff_of_false (fun hlive => hs.not_aliasesLive_clear hshared af (hlive 1))
        fun hdisjoint => hshared (hdisjoint 0 af rfl)

/-- A new state is linked: it has no entries. -/
theorem linked_new {n : Nat} (hnew : nwiStateNew none n = some s) : s.Linked := by
  simp only [nwiStateNew] at hnew
  split at hnew
  · cases hnew
  · obtain rfl := Option.some.inj hnew
    have hnil : ∀ af, (nwiStateAlloc n).links af = [] := fun af => by
      cases af <;> simp [links, live, count, nwiStateAlloc]
    refine Linked.of_links_nil (fun af => ?_) (fun af l hl => ?_) (hnil .inet) fun l hl => ?_
    · cases af <;> exact Nat.zero_le _
    · rw [hnil] at hl
      cases hl
    · rw [hnil] at hl
      cases hl

end NwiState

open NwiState in
/-- **Aliases over runs** of additions, growth and clearing: in all states of a run they are
`NULL` or lead to a live entry of the other family of the same name, if and only if the two
families share no name whenever one of them is cleared. -/
theorem aliasesLive_iff {n : Nat} {s₀ : NwiState} (hnew : nwiStateNew none n = some s₀)
    (calls : List BuildCall) :
    (∀ k, (runCalls s₀ (calls.take k)).AliasesLive) ↔
      ∀ k af, calls[k]? = some (.clear af) → (runCalls s₀ (calls.take k)).NamesDisjoint :=
  Linked.aliasesLive_run_iff calls s₀ (linked_new hnew)

open NwiState in
/-- `en0` on IPv4, `en1` on IPv6: clearing IPv6 leaves no alias behind. -/
theorem aliasesLive_iff_en0_en1 :
    (runCalls (nwiStateAlloc 1) [.addIfstate [0x65, 0x6e, 0x30] .inet 1 7 none none 0,
      .addIfstate [0x65, 0x6e, 0x31] .inet6 1 7 none none 0, .clear .inet6]).AliasesLive := by
  refine (aliasesLive_iff (n := 1) rfl [.addIfstate [0x65, 0x6e, 0x30] .inet 1 7 none none 0,
    .addIfstate [0x65, 0x6e, 0x31] .inet6 1 7 none none 0, .clear .inet6]).mpr
    (fun k af hk => ?_) 3
  match k with
  | 0 => cases hk
  | 1 => cases hk
  | 2 =>
    intro name h4 h6
    have hnames4 : (runCalls (nwiStateAlloc 1)
        [.addIfstate [0x65, 0x6e, 0x30] .inet 1 7 none none 0,
          .addIfstate [0x65, 0x6e, 0x31] .inet6 1 7 none none 0]).names .inet =
          [[0x65, 0x6e, 0x30]] := by decide
    have hnames6 : (runCalls (nwiStateAlloc 1)
        [.addIfstate [0x65, 0x6e, 0x30] .inet 1 7 none none 0,
          .addIfstate [0x65, 0x6e, 0x31] .inet6 1 7 none none 0]).names .inet6 =
          [[0x65, 0x6e, 0x31]] := by decide
    have h4' : name = [0x65, 0x6e, 0x30] := List.mem_singleton.mp (hnames4 ▸ h4)
    have h6' : name = [0x65, 0x6e, 0x31] := List.mem_singleton.mp (hnames6 ▸ h6)
    rw [h4'] at h6'
    cases h6'
  | k + 3 => cases hk

open NwiState in
/-- `en0` on both families: clearing IPv6 leaves the alias of the IPv4 entry behind. -/
theorem not_aliasesLive : ¬ ∀ (n : Nat) (s₀ : NwiState), nwiStateNew none n = some s₀ →
    ∀ calls, (runCalls s₀ calls).AliasesLive := by
  intro h
  obtain ⟨k, hk, -⟩ := h 1 (nwiStateAlloc 1) rfl
    [.addIfstate [0x65, 0x6e, 0x30] .inet 1 7 none none 0,
      .addIfstate [0x65, 0x6e, 0x30] .inet6 1 7 none none 0, .clear .inet6] .inet 0 (by decide) 1
    (by decide)
  exact Nat.not_lt_zero k hk

end ConfigdExtra
