import ConfigdExtra.NwiAlias
import ConfigdExtra.NwiDiffScript

/-!
# Is a difference well formed?

`nwi_state_diff_append` copies entries byte by byte, and with them what only makes sense where
they come from: the last-item bit, and the offset of the alias. The difference is well formed
when these happen to be right in it too.

* `AliasesResolve` — aliases in the terms of `nwi_ifstate_get_alias`; `aliasesResolve_iff` in
  those of the offsets.
* `lastOnly_script_iff` — the last-item bits of an edit script.
* `DiffCarries` — the condition on the two states.
* `nwiStateDiff_wellFormed_iff` — under it, and only under it, the difference is well formed.
-/

namespace ConfigdExtra

namespace NwiState

variable {s d : NwiState} {old new : Option NwiState} {af : AddressFamily} {i k : Nat}
  {e : NwiIfstate} {name : CString} {l : List NwiIfstate}

/-! ## Aliases -/

/-- The alias of every live entry is the live entry of its name in the other family, or `NULL`
where there is none. -/
def AliasesResolve (s : NwiState) : Prop :=
  ∀ af i e, (s.live af)[i]? = some e →
    nwiIfstateGetAlias s (s.slot af i) (nwiOtherAf af) =
      (s.indexOf (nwiOtherAf af) e.ifname).map fun k => (s.slot (nwiOtherAf af) k : Int)

/-- Where the keys are unique, the offsets can be followed exactly if they are those between the two
entries of a name. -/
theorem aliasesResolve_iff (h : s.Keyed) : s.AliasesResolve ↔ s.Aliased := by
  refine forall_congr' fun af => forall_congr' fun i => forall_congr' fun e =>
    forall_congr' fun he => ?_
  have hi := lt_count_of_getElem? he
  have hslot : s.ifstate (s.slot af i) = e := by
    rw [getElem?_live_of_lt h.capacity hi] at he
    exact Option.some.inj he
  have haf : e.af = af := h.af_eq af e (List.mem_of_getElem? he)
  rw [nwiIfstateGetAlias, hslot, haf, if_neg (nwiOtherAf_ne af).symm, aliasOffset]
  cases hidx : s.indexOf (nwiOtherAf af) e.ifname with
  | none =>
    by_cases hzero : e.afAliasOffset = 0
    · simp [hzero]
    · simp [hzero]
  | some k =>
    have hne : s.slot (nwiOtherAf af) k ≠ s.slot af i :=
      slot_other_ne (lt_of_lt_of_le hi (h.capacity _))
        (lt_of_lt_of_le (lt_count_of_indexOf h hidx) (h.capacity _))
    by_cases hzero : e.afAliasOffset = 0
    · simp only [hzero, if_true, Option.map_some]
      constructor
      · intro hcontra
        cases hcontra
      · intro hcontra
        omega
    · simp only [hzero, if_false, Option.map_some, Option.some.injEq]
      constructor
      · intro hsum
        omega
      · intro hoff
        omega

/-! ## Last items -/

/-- The last-item bit is on the last entry of a list, and on no other. -/
def LastOnly (l : List NwiIfstate) : Prop :=
  ∀ (i : Nat) (e : NwiIfstate), l[i]? = some e → (e.IsLastItem ↔ i + 1 = l.length)

/-- Marks are where they should be, said of the lists of entries. -/
theorem lastItems_iff (hcap : s.Capacity) : s.LastItems ↔ ∀ af, LastOnly (s.live af) := by
  simp only [LastItems, LastOnly, length_live hcap]

theorem lastOnly_map {g : NwiIfstate → NwiIfstate}
    (hg : ∀ e, (g e).IsLastItem ↔ e.IsLastItem) (h : LastOnly l) : LastOnly (l.map g) := by
  intro i e he
  rw [List.getElem?_map] at he
  obtain ⟨e₀, he₀, rfl⟩ := Option.map_eq_some_iff.mp he
  rw [hg, List.length_map, h i e₀ he₀]

/-- A tag is no last-item bit. -/
theorem isLastItem_setDiff (tag : BitVec 8) (e : NwiIfstate) :
    (nwiIfstateSetDiff tag e).IsLastItem ↔ e.IsLastItem := by
  rw [NwiIfstate.isLastItem_iff, NwiIfstate.isLastItem_iff, NwiIfstate.setDiff_flags]
  simp [nwiIfstateFlagsDiffMask, nwiIfstateFlagsFromDiff]

/-- The tag of a difference is no part of a link. -/
theorem link_setDiff (tag : BitVec 8) (e : NwiIfstate) :
    (nwiIfstateSetDiff tag e).link = e.link := by
  obtain ⟨flags, h⟩ := NwiIfstate.setDiff_eq tag e
  rw [h]
  rfl

/-- Nothing is gone exactly if every old name is still there. -/
theorem gone_eq_nil_iff {o n : List NwiIfstate} :
    nwiScheme.gone o n = [] ↔ ∀ name ∈ o.map (·.ifname), name ∈ n.map (·.ifname) := by
  simp only [EditScript.Scheme.gone, List.filter_eq_nil_iff, List.mem_map, forall_exists_index,
    and_imp, forall_apply_eq_imp_iff₂, decide_eq_true_eq, not_not, EditScript.Scheme.keys]
  exact Iff.rfl

theorem gone_nil (o : List NwiIfstate) : nwiScheme.gone o [] = o := by
  rw [EditScript.Scheme.gone, List.filter_eq_self]
  exact fun e _ => decide_eq_true List.not_mem_nil

/-- The bits of both lists survive in their edit script only if one list is all of it. -/
theorem lastOnly_script_iff {o n : List NwiIfstate} (ho : LastOnly o) (hn : LastOnly n) :
    LastOnly (nwiScheme.script o n) ↔ n = [] ∨ nwiScheme.gone o n = [] := by
  have hmark : LastOnly (nwiScheme.marked o n) := by
    intro i e he
    rw [EditScript.Scheme.marked, List.getElem?_map] at he
    obtain ⟨e₀, he₀, rfl⟩ := Option.map_eq_some_iff.mp he
    rw [nwiScheme_mark, isLastItem_setDiff, EditScript.Scheme.marked, List.length_map, hn i e₀ he₀]
  have hlen : (nwiScheme.marked o n).length = n.length := List.length_map _
  constructor
  · intro h
    by_contra hboth
    obtain ⟨hne, hgone⟩ := not_or.mp hboth
    have hpos := List.length_pos_iff.mpr hne
    have hposGone := List.length_pos_iff.mpr hgone
    -- the last entry of `n` carries the bit, but there are entries behind it
    have hlt : n.length - 1 < (nwiScheme.marked o n).length := by omega
    have hget := List.getElem?_eq_getElem hlt
    have hlast := (hmark _ _ hget).mpr (by omega)
    have hscript := h (n.length - 1) _ (by
      rw [EditScript.Scheme.script, List.getElem?_append_left hlt]
      exact hget)
    have heq := hscript.mp hlast
    rw [EditScript.Scheme.script, List.length_append, hlen, List.length_map] at heq
    omega
  · rintro (rfl | hgone)
    · rw [EditScript.Scheme.script, gone_nil]
      exact lastOnly_map (isLastItem_setDiff _) ho
    · rw [EditScript.Scheme.script, hgone, List.map_nil, List.append_nil]
      exact hmark

/-! ## The condition -/

/-- `NULL`, or a well-formed state. -/
def WellFormedOrNull (s : Option NwiState) : Prop := ∀ t, s = some t → t.WellFormed

/-- The names on the list of a family; `NULL` has none. -/
def entryNames (s : Option NwiState) (af : AddressFamily) : List CString :=
  (entries s af).map (·.ifname)

/-- `max_if_count`, or 0. -/
def maxIfCountOrZero (s : Option NwiState) : Nat := s.elim 0 (·.maxIfCount)

/-- Either state has the name in the family. -/
def Either (old new : Option NwiState) (af : AddressFamily) (name : CString) : Prop :=
  name ∈ entryNames old af ∨ name ∈ entryNames new af

/-- When last-item bits and alias offsets can be carried over as they are. -/
structure DiffCarries (old new : Option NwiState) : Prop where
  /-- each list of the difference comes from one state: `new` has no entry of the family, or
  none of the family is gone -/
  lists : ∀ af, entries new af = [] ∨ ∀ name ∈ entryNames old af, name ∈ entryNames new af
  /-- no name is on both families, or both lists come from the same state, and its buffer is of
  the size of the difference -/
  aliases : (∀ name, ¬ (Either old new .inet name ∧ Either old new .inet6 name)) ∨
    (∀ af, entries new af ≠ []) ∧
      maxIfCountOrZero new = nwiStateDiffCount old + nwiStateDiffCount new ∨
    (∀ af, entries new af = []) ∧
      maxIfCountOrZero old = nwiStateDiffCount old + nwiStateDiffCount new

theorem WellFormedOrNull.keyedOrNull (h : WellFormedOrNull old) : KeyedOrNull old :=
  fun t ht => (h t ht).toKeyed

theorem WellFormedOrNull.lastOnly (h : WellFormedOrNull old) (af : AddressFamily) :
    LastOnly (entries old af) := by
  cases old with
  | none =>
    intro i e he
    cases he
  | some o => exact (lastItems_iff (h o rfl).capacity).mp (h o rfl).lastItems af

/-- The state a list of the difference comes from. -/
def source (old new : Option NwiState) (af : AddressFamily) : Option NwiState :=
  if entries new af = [] then old else new

/-- The state that the entries of a difference come from is well formed, as both are. -/
theorem source_wellFormed (hold : WellFormedOrNull old) (hnew : WellFormedOrNull new) :
    WellFormedOrNull (source old new af) := by
  rw [source]
  split
  · exact hold
  · exact hnew

/-- Links are carried over. -/
theorem links_of_lists (hlive : d.live af = nwiScheme.script (entries old af) (entries new af))
    (hlists : entries new af = [] ∨ nwiScheme.gone (entries old af) (entries new af) = []) :
    d.links af = (entries (source old new af) af).map (·.link) := by
  rw [links, hlive, source]
  split
  · next hnil =>
    rw [hnil, EditScript.Scheme.script, gone_nil, EditScript.Scheme.marked, List.map_nil,
      List.nil_append, List.map_map]
    exact List.map_congr_left fun e _ => link_setDiff _ e
  · next hne =>
    rw [EditScript.Scheme.script, hlists.resolve_left hne, List.map_nil, List.append_nil,
      EditScript.Scheme.marked, List.map_map]
    exact List.map_congr_left fun e _ => link_setDiff _ e

/-! ## Offsets, carried over -/

/-- The slot of entry `i` of a family, in a buffer of `max` slots for each. -/
def slotAt (max : Nat) (af : AddressFamily) (i : Nat) : Int :=
  match af with
  | .inet => i
  | .inet6 => max + i

/-- Slots only depend on the room for entries. -/
theorem slot_eq_slotAt (s : NwiState) (af : AddressFamily) (i : Nat) :
    (s.slot af i : Int) = slotAt s.maxIfCount af i := by
  cases af <;> simp [slot, slotAt]

/-- The offset of the link of entry `i` is that of its name among those of the other family. -/
def OffsetIn (max : Nat) (other : List CString) (af : AddressFamily) (i : Nat) (l : Link) : Prop :=
  match other.findIdx? fun n => n = l.ifname with
  | none => l.offset = 0
  | some k => l.offset = slotAt max (nwiOtherAf af) k - slotAt max af i

/-- Without a peer the offset is zero. -/
theorem offsetIn_of_not_mem {max : Nat} {other : List CString} {l : Link}
    (h : l.ifname ∉ other) : OffsetIn max other af i l ↔ l.offset = 0 := by
  have hnone : other.findIdx? (fun n => n = l.ifname) = none := by
    rw [List.findIdx?_eq_none_iff]
    exact fun n hn => decide_eq_false fun heq => h (heq ▸ hn)
  rw [OffsetIn, hnone]

/-- With one it leads to the first entry of the name. -/
theorem offsetIn_of_mem (max : Nat) (af : AddressFamily) (i : Nat) {other : List CString}
    {l : Link} (h : l.ifname ∈ other) :
    ∃ k, other.findIdx? (fun n => n = l.ifname) = some k ∧
      (OffsetIn max other af i l ↔
        l.offset = slotAt max (nwiOtherAf af) k - slotAt max af i) := by
  cases hidx : other.findIdx? fun n => n = l.ifname with
  | none => exact absurd rfl (of_decide_eq_false (List.findIdx?_eq_none_iff.mp hidx _ h))
  | some k => exact ⟨k, rfl, by rw [OffsetIn, hidx]⟩

/-- Aliases are right when the offsets of all links are. -/
theorem aliased_iff_offsetIn : s.Aliased ↔ ∀ af i l, (s.links af)[i]? = some l →
    OffsetIn s.maxIfCount (s.names (nwiOtherAf af)) af i l := by
  have hkey : ∀ af (i : Nat) (e : NwiIfstate), e.afAliasOffset = s.aliasOffset af i e.ifname ↔
      OffsetIn s.maxIfCount (s.names (nwiOtherAf af)) af i e.link := by
    intro af i e
    simp only [aliasOffset, indexOf, slot_eq_slotAt]
    change _ ↔ match (s.names (nwiOtherAf af)).findIdx? fun n => n = e.ifname with
      | none => e.afAliasOffset = 0
      | some k => e.afAliasOffset =
          slotAt s.maxIfCount (nwiOtherAf af) k - slotAt s.maxIfCount af i
    cases (s.names (nwiOtherAf af)).findIdx? fun n => n = e.ifname with
    | none => exact Iff.rfl
    | some k => exact Iff.rfl
  constructor
  · intro h af i l hl
    rw [links, List.getElem?_map] at hl
    obtain ⟨e, he, rfl⟩ := Option.map_eq_some_iff.mp hl
    exact (hkey af i e).mp (h af i e he)
  · intro h af i e he
    refine (hkey af i e).mpr (h af i e.link ?_)
    rw [links, List.getElem?_map, he, Option.map_some]

/-- So it is in each of the two states. -/
theorem WellFormedOrNull.offsetIn {s' : Option NwiState} (h : WellFormedOrNull s') {l : Link}
    (hl : ((entries s' af).map (·.link))[i]? = some l) :
    OffsetIn (maxIfCountOrZero s') (entryNames s' (nwiOtherAf af)) af i l := by
  cases s' with
  | none => cases hl
  | some o => exact aliased_iff_offsetIn.mp (h o rfl).aliased af i l hl

/-- What is in the source is in one of the two states. -/
theorem mem_either_of_mem_source (h : name ∈ entryNames (source old new af) af) :
    Either old new af name := by
  rw [source] at h
  split at h
  · exact Or.inl h
  · exact Or.inr h

/-- Under the condition, the offsets carried over are right. -/
theorem aliased_of_diffCarries (hold : WellFormedOrNull old) (hnew : WellFormedOrNull new)
    (hmax : d.maxIfCount = nwiStateDiffCount old + nwiStateDiffCount new)
    (hlinks : ∀ af, d.links af = (entries (source old new af) af).map (·.link))
    (hnames : ∀ af, d.names af = entryNames (source old new af) af)
    (h : DiffCarries old new) : d.Aliased := by
  rw [aliased_iff_offsetIn]
  intro af i l hl
  have hmem : l.ifname ∈ d.names af := by
    rw [names_eq_map_links]
    exact List.mem_map_of_mem (List.mem_of_getElem? hl)
  have hoff := (source_wellFormed hold hnew).offsetIn (hlinks af ▸ hl)
  rw [hnames] at hmem ⊢
  obtain hdisjoint | ⟨hne, hsize⟩ | ⟨hnil, hsize⟩ := h.aliases
  · have hnot : ¬ Either old new (nwiOtherAf af) l.ifname := fun hother => by
      have hself := mem_either_of_mem_source hmem
      cases af with
      | inet => exact hdisjoint _ ⟨hself, hother⟩
      | inet6 => exact hdisjoint _ ⟨hother, hself⟩
    have hsource : l.ifname ∉ entryNames (source old new af) (nwiOtherAf af) := by
      rw [source]
      split
      · exact fun hmem => hnot (Or.inl hmem)
      · exact fun hmem => hnot (Or.inr hmem)
    rw [offsetIn_of_not_mem hsource] at hoff
    exact (offsetIn_of_not_mem fun hother => hnot (mem_either_of_mem_source hother)).mpr hoff
  · have hsource : ∀ af, source old new af = new := fun af => if_neg (hne af)
    rw [hsource] at hoff ⊢
    rwa [hmax, ← hsize]
  · have hsource : ∀ af, source old new af = old := fun af => if_pos (hnil af)
    rw [hsource] at hoff ⊢
    rwa [hmax, ← hsize]

/-- And where they are right, the condition holds. -/
theorem aliases_of_aliased (hold : WellFormedOrNull old) (hnew : WellFormedOrNull new)
    (hcap : d.Capacity)
    (hmax : d.maxIfCount = nwiStateDiffCount old + nwiStateDiffCount new)
    (hlinks : ∀ af, d.links af = (entries (source old new af) af).map (·.link))
    (hnames : ∀ af, d.names af = entryNames (source old new af) af)
    (hnamesEither : ∀ af name, Either old new af name → name ∈ d.names af) (h : d.Aliased) :
    (∀ name, ¬ (Either old new .inet name ∧ Either old new .inet6 name)) ∨
      (∀ af, entries new af ≠ []) ∧
        maxIfCountOrZero new = nwiStateDiffCount old + nwiStateDiffCount new ∨
      (∀ af, entries new af = []) ∧
        maxIfCountOrZero old = nwiStateDiffCount old + nwiStateDiffCount new := by
  rw [aliased_iff_offsetIn] at h
  by_contra hall
  obtain ⟨hshared, hsizes⟩ := not_or.mp hall
  obtain ⟨name, h4, h6⟩ : ∃ name, Either old new .inet name ∧ Either old new .inet6 name := by
    simpa only [not_forall, not_not] using hshared
  -- an entry of the shared name carries the offset of its peer, in the state it comes from
  have hpeer : ∀ af, name ∈ d.names af → name ∈ d.names (nwiOtherAf af) →
      name ∈ entryNames (source old new af) (nwiOtherAf af) ∧
        (source old new (nwiOtherAf af) = source old new af →
          maxIfCountOrZero (source old new af) = d.maxIfCount) := by
    intro af hself hother
    rw [names_eq_map_links] at hself
    obtain ⟨l, hl, rfl⟩ := List.mem_map.mp hself
    obtain ⟨i, hi⟩ := List.mem_iff_getElem?.mp hl
    have hlt : i < d.maxIfCount := by
      obtain ⟨hlt, -⟩ := List.getElem?_eq_some_iff.mp hi
      rw [length_links hcap] at hlt
      exact lt_of_lt_of_le hlt (hcap af)
    obtain ⟨k, hk, hoffd⟩ := offsetIn_of_mem d.maxIfCount af i hother
    have hoff := hoffd.mp (h af i l hi)
    have hklt : k < d.maxIfCount := by
      obtain ⟨hlt', -, -⟩ := List.findIdx?_eq_some_iff_getElem.mp hk
      rw [length_names hcap] at hlt'
      exact lt_of_lt_of_le hlt' (hcap _)
    have hne : l.offset ≠ 0 := by
      rw [hoff]
      cases af <;> simp only [slotAt, nwiOtherAf] <;> omega
    have hsource := (source_wellFormed hold hnew).offsetIn (hlinks af ▸ hi)
    have hmem : l.ifname ∈ entryNames (source old new af) (nwiOtherAf af) := by
      by_contra hnot
      exact hne ((offsetIn_of_not_mem hnot).mp hsource)
    refine ⟨hmem, fun hsame => ?_⟩
    obtain ⟨k', hk', hoffs⟩ := offsetIn_of_mem (maxIfCountOrZero (source old new af)) af i hmem
    have hoff' := hoffs.mp hsource
    -- the peer has one index in both
    rw [hnames, hsame] at hk
    obtain rfl := Option.some.inj (hk.symm.trans hk')
    rw [hoff] at hoff'
    cases af <;> simp only [slotAt, nwiOtherAf] at hoff' <;> omega
  obtain ⟨hmem4, hsize4⟩ := hpeer .inet (hnamesEither .inet name h4) (hnamesEither .inet6 name h6)
  obtain ⟨hmem6, -⟩ := hpeer .inet6 (hnamesEither .inet6 name h6) (hnamesEither .inet name h4)
  simp only [nwiOtherAf] at hmem4 hsize4 hmem6
  have hnonempty : ∀ (s : Option NwiState) af, name ∈ entryNames s af → entries s af ≠ [] := by
    intro s af hmem hnil
    rw [entryNames, hnil] at hmem
    cases hmem
  by_cases hnil4 : entries new .inet = []
  · have hsource4 : source old new .inet = old := if_pos hnil4
    have hnil6 : entries new .inet6 = [] := by
      by_contra hne6
      rw [show source old new .inet6 = new from if_neg hne6] at hmem6
      exact hnonempty new .inet hmem6 hnil4
    have hsource6 : source old new .inet6 = old := if_pos hnil6
    rw [hsource4, hsource6] at hsize4
    refine hsizes (Or.inr ⟨fun af => ?_, (hsize4 rfl).trans hmax⟩)
    cases af
    · exact hnil4
    · exact hnil6
  · have hsource4 : source old new .inet = new := if_neg hnil4
    rw [hsource4] at hmem4
    have hne6 := hnonempty new .inet6 hmem4
    have hsource6 : source old new .inet6 = new := if_neg hne6
    rw [hsource4, hsource6] at hsize4
    refine hsizes (Or.inl ⟨fun af => ?_, (hsize4 rfl).trans hmax⟩)
    cases af
    · exact hnil4
    · exact hne6

end NwiState

open NwiState in
/-- **The form of a difference.** Its last-item bits and its aliases are right if and only if
they can be carried over. Either state may be `NULL`. -/
theorem nwiStateDiff_wellFormed_iff {old new : Option NwiState} (hold : WellFormedOrNull old)
    (hnew : WellFormedOrNull new) (hne : ∃ af, entries old af ≠ [] ∨ entries new af ≠ []) :
    ∃ d, nwiStateDiff old new = some d ∧
      (d.LastItems ∧ d.AliasesResolve ↔ DiffCarries old new) := by
  obtain ⟨d, hd, hcap, hmax, hlive⟩ := nwiStateDiff_spec hold.keyedOrNull hnew.keyedOrNull hne
  have hkeyed := nwiStateDiff_keyed hold.keyedOrNull hnew.keyedOrNull hcap hlive
  have hlast : d.LastItems ↔ ∀ af, entries new af = [] ∨
      nwiScheme.gone (entries old af) (entries new af) = [] := by
    rw [lastItems_iff hcap]
    refine forall_congr' fun af => ?_
    rw [hlive, lastOnly_script_iff (hold.lastOnly af) (hnew.lastOnly af)]
  have hlists : (∀ af, entries new af = [] ∨
      nwiScheme.gone (entries old af) (entries new af) = []) ↔
      ∀ af, entries new af = [] ∨ ∀ name ∈ entryNames old af, name ∈ entryNames new af :=
    forall_congr' fun af => or_congr Iff.rfl gone_eq_nil_iff
  have hnamesEither : ∀ af name, Either old new af name → name ∈ d.names af := by
    intro af name hmem
    rw [names, hlive]
    have hkeys : name ∈ nwiScheme.keys (entries new af) ∨ name ∈ nwiScheme.keys (entries old af) :=
      hmem.symm
    exact EditScript.Scheme.mem_keys_script.mpr hkeys
  have hnames : (∀ af, d.links af = (entries (source old new af) af).map (·.link)) →
      ∀ af, d.names af = entryNames (source old new af) af := by
    intro hlinks af
    rw [names_eq_map_links, hlinks, List.map_map]
    rfl
  refine ⟨d, hd, ?_⟩
  rw [aliasesResolve_iff hkeyed, hlast]
  constructor
  · rintro ⟨hcarried, haliased⟩
    have hlinks := fun af => links_of_lists (hlive af) (hcarried af)
    exact ⟨hlists.mp hcarried,
      aliases_of_aliased hold hnew hcap hmax hlinks (hnames hlinks) hnamesEither haliased⟩
  · intro hcarries
    have hcarried := hlists.mpr hcarries.lists
    have hlinks := fun af => links_of_lists (hlive af) (hcarried af)
    exact ⟨hcarried, aliased_of_diffCarries hold hnew hmax hlinks (hnames hlinks) hcarries⟩

open NwiState in
/-- On IPv4 nothing is gone, on IPv6 everything is, and no name is on both: nothing that is
carried over goes wrong. -/
theorem nwiStateDiff_wellFormed_stateAfter :
    ∃ d, nwiStateDiff (some stateBefore) (some stateAfter) = some d ∧ d.LastItems ∧
      d.AliasesResolve := by
  have hsome : ∀ {s : NwiState}, BuildReachable s → WellFormedOrNull (some s) := by
    intro s hs t ht
    obtain rfl := Option.some.inj ht
    exact hs.wellFormed
  obtain ⟨d, hd, hform⟩ := nwiStateDiff_wellFormed_iff (hsome buildReachable_stateBefore)
    (hsome buildReachable_stateAfter) ⟨.inet, Or.inr (by decide +kernel)⟩
  have hnames6 : entryNames (some stateAfter) .inet6 = [] := by decide +kernel
  have hnames : ∀ name ∈ entryNames (some stateBefore) .inet,
      name ∈ entryNames (some stateAfter) .inet := by decide +kernel
  have hother : ∀ name ∈ entryNames (some stateBefore) .inet6,
      name ∉ entryNames (some stateAfter) .inet := by decide +kernel
  refine ⟨d, hd, hform.mpr ⟨fun af => ?_, Or.inl ?_⟩⟩
  · cases af with
    | inet => exact Or.inr hnames
    | inet6 => exact Or.inl (by decide +kernel)
  · rintro name ⟨h4, h6⟩
    have hmem4 : name ∈ entryNames (some stateAfter) .inet := h4.elim (hnames name) id
    rcases h6 with h6 | h6
    · exact hother name h6 hmem4
    · rw [hnames6] at h6
      cases h6

open NwiState in
/-- From `en0` to `en1`, both last on IPv4: two entries of the difference carry the last-item
bit. -/
theorem not_nwiStateDiff_wellFormed : ¬ ∀ old new : NwiState, old.WellFormed → new.WellFormed →
    (∃ af, entries (some old) af ≠ [] ∨ entries (some new) af ≠ []) →
    ∃ d, nwiStateDiff (some old) (some new) = some d ∧ d.LastItems ∧ d.AliasesResolve := by
  intro h
  have hempty : (nwiStateAlloc 1).WellFormed :=
    wellFormed_of_count_eq_zero fun af => by cases af <;> rfl
  obtain ⟨d, hd, hlast, -⟩ := h
    (nwiStateAddIfstate (nwiStateAlloc 1) [0x65, 0x6e, 0x30] .inet 1 0 none none 0).1
    (nwiStateAddIfstate (nwiStateAlloc 1) [0x65, 0x6e, 0x31] .inet 1 0 none none 0).1
    (hempty.addIfstate (by decide) 1 0 none none 0)
    (hempty.addIfstate (by decide) 1 0 none none 0) ⟨.inet, Or.inr (by decide)⟩
  have hdiff : (nwiStateDiff
      (some (nwiStateAddIfstate (nwiStateAlloc 1) [0x65, 0x6e, 0x30] .inet 1 0 none none 0).1)
      (some (nwiStateAddIfstate (nwiStateAlloc 1) [0x65, 0x6e, 0x31] .inet 1 0 none none 0).1)).map
      (fun d => ((d.live .inet).map fun e => decide e.IsLastItem, d.count .inet)) =
      some ([true, true], 2) := by decide +kernel
  rw [hd, Option.map_some] at hdiff
  obtain ⟨hbits, hcount⟩ := Prod.mk.inj (Option.some.inj hdiff)
  have hfirst := congrArg (fun l : List Bool => l[0]?) hbits
  simp only [List.getElem?_map, List.getElem?_cons_zero] at hfirst
  obtain ⟨e, he, hbit⟩ := Option.map_eq_some_iff.mp hfirst
  have hindex := (hlast .inet 0 e he).mp (of_decide_eq_true hbit)
  omega

end ConfigdExtra
