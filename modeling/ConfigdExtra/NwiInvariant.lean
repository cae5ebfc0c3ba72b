import ConfigdExtra.NwiBuild

/-!
# The representation invariant of `nwi_state`

What the build operations keep together, over runs of any length. The invariant has three
parts, each a statement about one projection of the live lists, so a write that keeps the
projection keeps the part:

* `NwiState.Keyed` — the lists are tables keyed by name, inside their halves;
* `NwiState.LastItems` — the last-item bit is on the last entry and on no other;
* `NwiState.Aliased` — `af_alias_offset` leads to the entry of the same name in the other
  family, and is 0 when there is none.

Adding a name touches up to three entries (`live_push_self`, `nwiStateAddIfstateAlias_eq`);
the runs built from these steps are in `NwiReachable`.
-/

namespace ConfigdExtra

namespace NwiState

variable {s s' : NwiState} {af af' : AddressFamily} {i j n p : Nat} {f : NwiIfstate → NwiIfstate}
  {e : NwiIfstate} {name ifname : CString}

/-- The lists are tables keyed by name, inside their halves. -/
structure Keyed (s : NwiState) : Prop where
  /-- counts stay inside the halves -/
  capacity : s.Capacity
  /-- every entry is of the family of its list -/
  af_eq : ∀ af, ∀ e ∈ s.live af, e.af = af
  /-- names are distinct within a family -/
  nodup : ∀ af, (s.names af).Nodup

/-- The last-item bit is set on the last entry of a list, and on no other. -/
def LastItems (s : NwiState) : Prop :=
  ∀ af i e, (s.live af)[i]? = some e → (e.IsLastItem ↔ i + 1 = s.count af)

/-- The relative index from entry `i` of a family to the entry of that name in the other
family, or 0. -/
def aliasOffset (s : NwiState) (af : AddressFamily) (i : Nat) (name : CString) : Int :=
  match s.indexOf (nwiOtherAf af) name with
  | some k => (s.slot (nwiOtherAf af) k : Int) - s.slot af i
  | none => 0

/-- Every entry points at its peer. -/
def Aliased (s : NwiState) : Prop :=
  ∀ af i e, (s.live af)[i]? = some e → e.afAliasOffset = s.aliasOffset af i e.ifname

/-- The inductive invariant of the build operations. -/
structure WellFormed (s : NwiState) : Prop extends s.Keyed where
  /-- last-item bits are right -/
  lastItems : s.LastItems
  /-- aliases are right -/
  aliased : s.Aliased

/-! ### Writes that keep the invariant -/

theorem lt_count_of_getElem? (h : (s.live af)[i]? = some e) : i < s.count af := by
  rw [getElem?_live] at h
  by_contra hi
  rw [if_neg hi] at h
  cases h

/-- A change that keeps name and family keeps the keys. -/
theorem Keyed.modify (h : s.Keyed) (hname : ∀ e, (f e).ifname = e.ifname)
    (haf : ∀ e, (f e).af = e.af) : (s.modify p f).Keyed where
  capacity := capacity_modify h.capacity
  af_eq af e he := by
    have hmem : e.af ∈ ((s.modify p f).live af).map (·.af) := List.mem_map_of_mem he
    rw [map_live_modify haf] at hmem
    obtain ⟨e₀, he₀, heq⟩ := List.mem_map.mp hmem
    rw [← heq, h.af_eq af e₀ he₀]
  nodup af := by
    rw [names_modify hname]
    exact h.nodup af

theorem LastItems.modify (h : s.LastItems) (hf : ∀ e, (f e).IsLastItem ↔ e.IsLastItem) :
    (s.modify p f).LastItems := by
  intro af i e he
  obtain ⟨e₀, he₀, ⟨rfl, -⟩ | ⟨rfl, -⟩⟩ := getElem?_live_modify_inv he
  · rw [hf, count_modify, h af i e₀ he₀]
  · rw [count_modify, h af i e he₀]

theorem indexOf_congr (h : s'.names af = s.names af) : s'.indexOf af name = s.indexOf af name := by
  rw [indexOf, h, indexOf]

/-- Offsets are counted by names, so a change that keeps these keeps them. -/
theorem aliasOffset_modify (hname : ∀ e, (f e).ifname = e.ifname) :
    (s.modify p f).aliasOffset af i name = s.aliasOffset af i name := by
  simp only [aliasOffset, indexOf_congr (names_modify hname), slot_modify]

/-- A change that keeps names and offsets keeps the aliases. -/
theorem Aliased.modify (h : s.Aliased) (hname : ∀ e, (f e).ifname = e.ifname)
    (hoff : ∀ e, (f e).afAliasOffset = e.afAliasOffset) : (s.modify p f).Aliased := by
  intro af i e he
  rw [aliasOffset_modify hname]
  obtain ⟨e₀, he₀, ⟨rfl, -⟩ | ⟨rfl, -⟩⟩ := getElem?_live_modify_inv he
  · rw [hoff, hname, h af i e₀ he₀]
  · exact h af i e he₀

/-- Writing fields that no part of the invariant reads keeps all of it. -/
theorem WellFormed.modify (h : s.WellFormed) (hname : ∀ e, (f e).ifname = e.ifname)
    (haf : ∀ e, (f e).af = e.af) (hlast : ∀ e, (f e).IsLastItem ↔ e.IsLastItem)
    (hoff : ∀ e, (f e).afAliasOffset = e.afAliasOffset) : (s.modify p f).WellFormed where
  toKeyed := h.toKeyed.modify hname haf
  lastItems := h.lastItems.modify hlast
  aliased := h.aliased.modify hname hoff

/-- The invariant is about the slots and counts only. -/
theorem WellFormed.congr (h : s.WellFormed) (hlist : s'.ifstateList = s.ifstateList)
    (hmax : s'.maxIfCount = s.maxIfCount) (hcount : s'.count = s.count) : s'.WellFormed := by
  have hslot : s'.slot = s.slot := by
    funext af i
    cases af <;> simp [slot, hmax]
  have hlive : s'.live = s.live := by
    funext af
    rw [live, live, hlist, hslot, hcount]
  have hnames : s'.names = s.names := by
    funext af
    rw [names, names, hlive]
  have hoff : s'.aliasOffset = s.aliasOffset := by
    funext af i name
    rw [aliasOffset, aliasOffset, hslot, indexOf, hnames, indexOf]
  refine ⟨⟨?_, ?_, ?_⟩, ?_, ?_⟩
  · simpa only [Capacity, hcount, hmax] using h.capacity
  · simpa only [hlive] using h.af_eq
  · simpa only [hnames] using h.nodup
  · simpa only [LastItems, hlive, hcount] using h.lastItems
  · simpa only [Aliased, hlive, hoff] using h.aliased

/-! ### Adding at the end -/

@[simp] theorem maxIfCount_push :
    (nwiStatePushIfstate s ifname af).maxIfCount = s.maxIfCount := by
  simp only [nwiStatePushIfstate]
  split <;> simp

@[simp] theorem slot_push :
    (nwiStatePushIfstate s ifname af).slot af' i = s.slot af' i := by
  simp only [nwiStatePushIfstate]
  split <;> simp

@[simp] theorem count_push_self :
    (nwiStatePushIfstate s ifname af).count af = s.count af + 1 := by
  simp only [nwiStatePushIfstate]
  split <;> simp

@[simp] theorem count_push_other :
    (nwiStatePushIfstate s ifname af).count (nwiOtherAf af) = s.count (nwiOtherAf af) := by
  simp only [nwiStatePushIfstate]
  split <;> simp

/-- The slot before the end of a list is that of its last entry. -/
theorem slot_sub_one (hn : n > 0) : s.slot af n - 1 = s.slot af (n - 1) := by
  cases af
  · rfl
  · simp only [slot]
    omega

/-- A push clears the bit of the previous last entry and appends the new one. -/
theorem live_push_self (hc : s.count af < s.maxIfCount) :
    (nwiStatePushIfstate s ifname af).live af =
      (s.live af).modify (s.count af - 1) .clearLastItem ++ [.fresh ifname af] := by
  simp only [nwiStatePushIfstate]
  split
  · next hpos =>
    have hc' : (s.modify (s.slot af (s.count af) - 1) .clearLastItem).count af <
        (s.modify (s.slot af (s.count af) - 1) .clearLastItem).maxIfCount := by
      simpa using hc
    have hpush := live_push (e := .fresh ifname af) hc'
    simp only [slot_modify, count_modify] at hpush
    rw [hpush, slot_sub_one hpos, live_modify_self]
  · next hpos =>
    have hnil : s.live af = [] := by
      rw [live, Nat.eq_zero_of_not_pos hpos, List.take_zero]
    rw [live_push hc, hnil]
    simp

/-- A new entry of one family is not among those of the other. -/
theorem live_push_other (h : s.Capacity) (hc : s.count af < s.maxIfCount) :
    (nwiStatePushIfstate s ifname af).live (nwiOtherAf af) = s.live (nwiOtherAf af) := by
  simp only [nwiStatePushIfstate]
  split
  · next hpos =>
    rw [live_setCount_other, slot_sub_one hpos]
    have hcount : s.slot af (s.count af) =
        (s.modify (s.slot af (s.count af - 1)) .clearLastItem).slot af (s.count af) := by
      rw [slot_modify]
    rw [hcount, live_modify_other (capacity_modify h) (by simpa using hc),
      live_modify_other h (by omega)]
  · rw [live_setCount_other, live_modify_other h hc]

theorem map_modify_eq {α β : Type} {g : α → α} {π : α → β} (hπ : ∀ a, π (g a) = π a) (l : List α)
    (i : Nat) : (l.modify i g).map π = l.map π := by
  apply List.ext_getElem?
  intro j
  simp only [List.getElem?_map, List.getElem?_modify]
  split <;> cases l[j]? <;> simp [hπ]

/-- The name fits the field, so it is copied as a whole. -/
theorem fresh_ifname (hlen : ifname.length < ifnamsiz) :
    (NwiIfstate.fresh ifname af).ifname = ifname := by
  rw [NwiIfstate.fresh, strlcpy, List.take_of_length_le (by omega)]

/-- The names after a push. -/
theorem names_push_self (hc : s.count af < s.maxIfCount) (hlen : ifname.length < ifnamsiz) :
    (nwiStatePushIfstate s ifname af).names af = s.names af ++ [ifname] := by
  have hmap : ((s.live af).modify (s.count af - 1) .clearLastItem).map (·.ifname) = s.names af :=
    map_modify_eq (g := NwiIfstate.clearLastItem) (fun _ => rfl) _ _
  rw [names, live_push_self hc, List.map_append, hmap, List.map_singleton, fresh_ifname hlen]

theorem names_push_other (h : s.Capacity) (hc : s.count af < s.maxIfCount) :
    (nwiStatePushIfstate s ifname af).names (nwiOtherAf af) = s.names (nwiOtherAf af) := by
  rw [names, live_push_other h hc, names]

/-- An entry of the pushed list: the new one at the end, or an old one. -/
theorem getElem?_live_push_inv (h : s.Capacity) (hc : s.count af < s.maxIfCount)
    (he : ((nwiStatePushIfstate s ifname af).live af)[i]? = some e) :
    (i = s.count af ∧ e = .fresh ifname af) ∨
      ∃ e₀, (s.live af)[i]? = some e₀ ∧
        (i + 1 = s.count af ∧ e = e₀.clearLastItem ∨ i + 1 < s.count af ∧ e = e₀) := by
  have hlen : ((s.live af).modify (s.count af - 1) .clearLastItem).length = s.count af := by
    rw [List.length_modify, length_live h]
  rw [live_push_self hc] at he
  rcases lt_trichotomy i (s.count af) with hi | hi | hi
  · right
    rw [List.getElem?_append_left (by omega), List.getElem?_modify] at he
    obtain ⟨e₀, he₀, heq⟩ := Option.map_eq_some_iff.mp he
    refine ⟨e₀, he₀, ?_⟩
    by_cases hlast : s.count af - 1 = i
    · rw [if_pos hlast] at heq
      exact Or.inl ⟨by omega, heq.symm⟩
    · rw [if_neg hlast] at heq
      exact Or.inr ⟨by omega, heq.symm⟩
  · left
    rw [List.getElem?_append_right (by omega), hlen, hi, Nat.sub_self] at he
    exact ⟨hi, (Option.some.inj he).symm⟩
  · rw [List.getElem?_append_right (by omega), hlen, List.getElem?_singleton, if_neg (by omega)] at he
    cases he

/-- A new name goes where no entry has it. -/
theorem Keyed.push (h : s.Keyed) (hc : s.count af < s.maxIfCount)
    (hlen : ifname.length < ifnamsiz) (hnew : ifname ∉ s.names af) :
    (nwiStatePushIfstate s ifname af).Keyed where
  capacity af' := by
    rcases eq_or_eq_nwiOtherAf af af' with rfl | rfl
    · rw [count_push_self, maxIfCount_push]
      exact hc
    · rw [count_push_other, maxIfCount_push]
      exact h.capacity _
  af_eq af' e he := by
    rcases eq_or_eq_nwiOtherAf af af' with rfl | rfl
    · obtain ⟨i, hi⟩ := List.mem_iff_getElem?.mp he
      obtain ⟨-, rfl⟩ | ⟨e₀, he₀, ⟨-, rfl⟩ | ⟨-, rfl⟩⟩ := getElem?_live_push_inv h.capacity hc hi
      · rfl
      · exact h.af_eq af' e₀ (List.mem_of_getElem? he₀)
      · exact h.af_eq af' e (List.mem_of_getElem? he₀)
    · rw [live_push_other h.capacity hc] at he
      exact h.af_eq _ e he
  nodup af' := by
    rcases eq_or_eq_nwiOtherAf af af' with rfl | rfl
    · rw [names_push_self hc hlen]
      exact List.nodup_append.mpr ⟨h.nodup af', List.nodup_singleton _, by
        rintro a ha b hb rfl
        exact hnew (List.mem_singleton.mp hb ▸ ha)⟩
    · rw [names_push_other h.capacity hc]
      exact h.nodup _

/-- The new entry is the last, and the one before it no longer is. -/
theorem LastItems.push (h : s.LastItems) (hcap : s.Capacity) (hc : s.count af < s.maxIfCount) :
    (nwiStatePushIfstate s ifname af).LastItems := by
  intro af' i e he
  rcases eq_or_eq_nwiOtherAf af af' with rfl | rfl
  · rw [count_push_self]
    obtain ⟨rfl, rfl⟩ | ⟨e₀, he₀, ⟨hi, rfl⟩ | ⟨hi, rfl⟩⟩ := getElem?_live_push_inv hcap hc he
    · simp [NwiIfstate.isLastItem_fresh]
    · simp only [e₀.not_isLastItem_clearLastItem, false_iff]
      omega
    · rw [h af' i e he₀]
      omega
  · rw [live_push_other hcap hc] at he
    rw [count_push_other]
    exact h _ i e he

/-! ### The alias of a new entry -/

/-- The alias of every entry not called `name` is right. -/
def AliasedExcept (s : NwiState) (name : CString) : Prop :=
  ∀ af i e, (s.live af)[i]? = some e → e.ifname ≠ name →
    e.afAliasOffset = s.aliasOffset af i e.ifname

/-- The entries before the new one are found where they were. -/
theorem indexOf_push_self (hc : s.count af < s.maxIfCount)
    (hlen : ifname.length < ifnamsiz) (hne : name ≠ ifname) :
    (nwiStatePushIfstate s ifname af).indexOf af name = s.indexOf af name := by
  rw [indexOf, names_push_self hc hlen, List.findIdx?_append, indexOf]
  simp [hne.symm]

/-- Before its alias is added, a new name disturbs no other alias. -/
theorem Aliased.push (h : s.Aliased) (hk : s.Keyed) (hc : s.count af < s.maxIfCount)
    (hlen : ifname.length < ifnamsiz) :
    (nwiStatePushIfstate s ifname af).AliasedExcept ifname := by
  intro af' i e he hne
  have hoff : ∀ af'' j, (nwiStatePushIfstate s ifname af).aliasOffset af'' j e.ifname =
      s.aliasOffset af'' j e.ifname := by
    intro af'' j
    have hidx : (nwiStatePushIfstate s ifname af).indexOf (nwiOtherAf af'') e.ifname =
        s.indexOf (nwiOtherAf af'') e.ifname := by
      rcases eq_or_eq_nwiOtherAf af (nwiOtherAf af'') with h' | h'
      · rw [h', indexOf_push_self hc hlen hne]
      · rw [h', indexOf_congr (names_push_other hk.capacity hc)]
    simp only [aliasOffset, hidx, slot_push]
  rw [hoff]
  rcases eq_or_eq_nwiOtherAf af af' with rfl | rfl
  · obtain ⟨-, rfl⟩ | ⟨e₀, he₀, ⟨-, rfl⟩ | ⟨-, rfl⟩⟩ := getElem?_live_push_inv hk.capacity hc he
    · exact absurd (fresh_ifname hlen) hne
    · exact h af' i e₀ he₀
    · exact h af' i e he₀
  · rw [live_push_other hk.capacity hc] at he
    exact h _ i e he

/-- `nwi_state_add_ifstate_alias` links an entry with its peer, if it has one. -/
theorem nwiStateAddIfstateAlias_eq (hcap : s.Capacity) (haf : e.af = af)
    (he : (s.live af)[i]? = some e) :
    nwiStateAddIfstateAlias s (s.slot af i) =
      match s.indexOf (nwiOtherAf af) e.ifname with
      | none => s
      | some k =>
        (s.modify (s.slot af i)
          (.setAfAliasOffset (s.slot (nwiOtherAf af) k - s.slot af i))).modify
          (s.slot (nwiOtherAf af) k) (.setAfAliasOffset (s.slot af i - s.slot (nwiOtherAf af) k)) := by
  have hslot : s.ifstate (s.slot af i) = e := by
    rw [getElem?_live_of_lt hcap (lt_count_of_getElem? he)] at he
    exact Option.some.inj he
  rw [nwiStateAddIfstateAlias, hslot, haf, nwiStateGetIfstateWithName_eq hcap]
  cases s.indexOf (nwiOtherAf af) e.ifname <;> rfl

/-- An entry called `name` stands where `indexOf` says. -/
theorem indexOf_of_getElem? (hk : s.Keyed) (he : (s.live af)[i]? = some e) :
    s.indexOf af e.ifname = some i := by
  rw [indexOf_eq_some (hk.nodup af), getElem?_names, he, Option.map_some]

theorem lt_count_of_indexOf (hk : s.Keyed) (h : s.indexOf af name = some i) : i < s.count af := by
  obtain ⟨hlt, -⟩ := List.getElem?_eq_some_iff.mp ((indexOf_eq_some (hk.nodup _)).mp h)
  rwa [length_names hk.capacity] at hlt

/-- `nwi_state_add_ifstate_alias` completes the aliases when only those of the name it is
given are missing. -/
theorem AliasedExcept.addIfstateAlias (h : s.AliasedExcept e.ifname) (hk : s.Keyed)
    (he : (s.live af)[i]? = some e) (hzero : e.afAliasOffset = 0) :
    (nwiStateAddIfstateAlias s (s.slot af i)).Aliased := by
  have hidx := indexOf_of_getElem? hk he
  rw [nwiStateAddIfstateAlias_eq hk.capacity (hk.af_eq af e (List.mem_of_getElem? he)) he]
  cases hpeer : s.indexOf (nwiOtherAf af) e.ifname with
  | none =>
    intro af' j e' he'
    by_cases hn : e'.ifname = e.ifname
    · have hidx' := indexOf_of_getElem? hk he'
      rw [hn] at hidx'
      rcases eq_or_eq_nwiOtherAf af af' with rfl | rfl
      · obtain rfl := Option.some.inj (hidx'.symm.trans hidx)
        obtain rfl := Option.some.inj (he'.symm.trans he)
        rw [hzero, aliasOffset, hpeer]
      · rw [hidx'] at hpeer
        cases hpeer
    · exact h af' j e' he' hn
  | some k =>
    have hi := lt_of_lt_of_le (lt_count_of_getElem? he) (hk.capacity _)
    have hk' := lt_of_lt_of_le (lt_count_of_indexOf hk hpeer) (hk.capacity _)
    intro af' j e' he'
    have hj : j < s.maxIfCount := by
      have hlt := lt_count_of_getElem? he'
      simp only [count_modify] at hlt
      exact lt_of_lt_of_le hlt (hk.capacity _)
    have hoff : ((s.modify (s.slot af i)
        (.setAfAliasOffset (s.slot (nwiOtherAf af) k - s.slot af i))).modify
        (s.slot (nwiOtherAf af) k)
        (.setAfAliasOffset (s.slot af i - s.slot (nwiOtherAf af) k))).aliasOffset af' j e'.ifname =
          s.aliasOffset af' j e'.ifname := by
      rw [aliasOffset_modify, aliasOffset_modify] <;> exact fun _ => rfl
    rw [hoff]
    obtain ⟨e₁, he₁, hcase₁⟩ := getElem?_live_modify_inv he'
    obtain ⟨e₀, he₀, hcase₀⟩ := getElem?_live_modify_inv he₁
    rw [slot_modify, slot_eq_iff hk' hj] at hcase₁
    rw [slot_eq_iff hi hj] at hcase₀
    have hidx₀ := indexOf_of_getElem? hk he₀
    have hname₁ : e₁.ifname = e₀.ifname := by
      obtain ⟨rfl, -⟩ | ⟨rfl, -⟩ := hcase₀ <;> rfl
    obtain ⟨rfl, rfl, rfl⟩ | ⟨rfl, hp₁⟩ := hcase₁
    · -- the peer
      have hname : e₀.ifname = e.ifname := by
        have hget := (indexOf_eq_some (hk.nodup _)).mp hpeer
        rw [getElem?_names, he₀] at hget
        exact Option.some.inj hget
      simp only [NwiIfstate.setAfAliasOffset, hname₁, hname, aliasOffset, nwiOtherAf_nwiOtherAf,
        hidx]
    · obtain ⟨rfl, rfl, rfl⟩ | ⟨rfl, hp₀⟩ := hcase₀
      · -- the new entry
        obtain rfl := Option.some.inj (he₀.symm.trans he)
        simp only [NwiIfstate.setAfAliasOffset, aliasOffset, hpeer]
      · -- any other entry has another name
        refine h af' j _ he₀ fun hn => ?_
        rw [hn] at hidx₀
        rcases eq_or_eq_nwiOtherAf af af' with rfl | rfl
        · exact hp₀ ((slot_eq_iff hi hj).mpr ⟨rfl, Option.some.inj (hidx.symm.trans hidx₀)⟩)
        · exact hp₁ ((slot_eq_iff hk' hj).mpr ⟨rfl, Option.some.inj (hpeer.symm.trans hidx₀)⟩)

end NwiState

end ConfigdExtra
