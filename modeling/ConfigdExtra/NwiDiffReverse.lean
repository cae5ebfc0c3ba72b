import ConfigdExtra.NwiDiffScript

/-!
# The difference the other way round

`nwi_state_diff(a, b)` and `nwi_state_diff(b, a)` are built in different orders: an interface
that only `b` has is tagged while the entries of `b` are copied, and in the other direction by
the pass over the entries that are gone. The tags answer each other all the same.

* `NwiState.entries_nwiStateDiff` — the lists of a difference, `NULL` included.
* `nwiTags` — the tags of a difference and their duals.
* `nwiStateDiff_antisymm` — added against removed, a rank that went up against one that went
  down, changed and unchanged against themselves, over the same names.
-/

namespace ConfigdExtra

namespace NwiState

variable {old new : Option NwiState} {af : AddressFamily} {name : CString} {d : BitVec 8}

/-- The lists of a difference are edit scripts, also where there is no difference to allocate. -/
theorem entries_nwiStateDiff (hold : KeyedOrNull old) (hnew : KeyedOrNull new)
    (af : AddressFamily) :
    entries (nwiStateDiff old new) af = nwiScheme.script (entries old af) (entries new af) := by
  by_cases hne : ∃ af, entries old af ≠ [] ∨ entries new af ≠ []
  · obtain ⟨d, hd, -, -, hlive⟩ := nwiStateDiff_spec hold hnew hne
    rw [hd, entries, hlive]
  · have hnil : ∀ af, entries old af = [] ∧ entries new af = [] := by
      simpa only [not_exists, not_or, not_not] using hne
    have hcount : ∀ s, KeyedOrNull s → (∀ af, entries s af = []) → nwiStateDiffCount s = 0 := by
      intro s hs hempty
      cases s with
      | none => rfl
      | some s =>
        have hzero : ∀ af, s.count af = 0 := fun af => by
          rw [← length_live (hs s rfl).capacity]
          exact List.length_eq_zero_iff.mpr (hempty af)
        have h4 := hzero .inet
        have h6 := hzero .inet6
        simp only [count] at h4 h6
        simp only [nwiStateDiffCount, nwiStateMaxAfCount, h4, h6, ge_iff_le, le_refl, if_true]
    have hnone : nwiStateDiff old new = none := by
      simp only [nwiStateDiff, hcount old hold fun af => (hnil af).1,
        hcount new hnew fun af => (hnil af).2, Nat.add_zero, if_true]
    rw [hnone, (hnil af).1, (hnil af).2]
    rfl

/-- The difference has an entry of that name in the family, and `nwi_ifstate_get_diff` reads
that tag from it. -/
def IsTagged (diff : Option NwiState) (af : AddressFamily) (name : CString) (d : BitVec 8) : Prop :=
  ∃ e ∈ entries diff af, e.ifname = name ∧ nwiIfstateGetDiff e = d

/-- The difference has an entry of that name in the family. -/
def Mentions (diff : Option NwiState) (af : AddressFamily) (name : CString) : Prop :=
  ∃ e ∈ entries diff af, e.ifname = name

end NwiState

/-! ## Tags and their duals -/

/-- The tag of an entry when old and new change places. -/
def dualDiff (d : BitVec 8) : BitVec 8 :=
  if d = nwiIfstateDiffAdded then
    nwiIfstateDiffRemoved
  else if d = nwiIfstateDiffRemoved then
    nwiIfstateDiffAdded
  else if d = nwiIfstateDiffRankUp then
    nwiIfstateDiffRankDown
  else if d = nwiIfstateDiffRankDown then
    nwiIfstateDiffRankUp
  else
    d

@[simp] theorem dualDiff_dualDiff (d : BitVec 8) : dualDiff (dualDiff d) = d := by
  revert d
  decide

/-- A comparison the other way round: the same test for a change, and ranks that answer each
other. -/
theorem NwiIfstate.diffOf_reverse (o e : NwiIfstate) :
    diffOf (some e) o = dualDiff (diffOf (some o) e) := by
  have hchanged : (nwiIfstateFlags e.flags ≠ nwiIfstateFlags o.flags ∨ e.address ≠ o.address) ↔
      (nwiIfstateFlags o.flags ≠ nwiIfstateFlags e.flags ∨ o.address ≠ e.address) :=
    or_congr ne_comm ne_comm
  simp only [diffOf, hchanged, gt_iff_lt]
  by_cases hlt : o.rank < e.rank
  · have hgt : ¬ e.rank < o.rank := BitVec.lt_asymm hlt
    simp only [hlt, hgt, if_true, if_false]
    split <;> rfl
  · simp only [hlt, if_false]
    split
    · rfl
    · split <;> rfl

theorem removed_lt : nwiIfstateDiffRemoved < 16 := by decide

/-- The tags of `nwi_state_diff`. -/
def nwiTags : EditScript.Scheme.Tags nwiScheme (BitVec 8) where
  tag := nwiIfstateGetDiff
  dual := dualDiff
  tag_markGone e := by
    rw [nwiScheme_markGone, nwiScheme_mark, NwiIfstate.getDiff_setDiff removed_lt,
      NwiIfstate.getDiff_setDiff (NwiIfstate.diffOf_lt none e)]
    rfl
  tag_mark_none e := by
    rw [nwiScheme_markGone, nwiScheme_mark, NwiIfstate.getDiff_setDiff removed_lt,
      NwiIfstate.getDiff_setDiff (NwiIfstate.diffOf_lt none e)]
    rfl
  tag_mark_some o e := by
    rw [nwiScheme_mark, nwiScheme_mark,
      NwiIfstate.getDiff_setDiff (NwiIfstate.diffOf_lt (some e) o),
      NwiIfstate.getDiff_setDiff (NwiIfstate.diffOf_lt (some o) e)]
    exact NwiIfstate.diffOf_reverse o e

/-! ## Both directions -/

namespace NwiState

variable {old new : Option NwiState} {af : AddressFamily} {name : CString} {d : BitVec 8}

/-- Names are distinct in a difference, so its tag of a name is the one a search finds. -/
theorem isTagged_iff (hold : KeyedOrNull old) (hnew : KeyedOrNull new) :
    IsTagged (nwiStateDiff old new) af name d ↔
      ((nwiScheme.script (entries old af) (entries new af)).find?
        fun e => nwiScheme.keyOf e = name).map nwiTags.tag = some d := by
  have hnodup := EditScript.Scheme.nodup_keys_script (S := nwiScheme) (hold.nodup af)
    (hnew.nodup af)
  rw [IsTagged, entries_nwiStateDiff hold hnew, Option.map_eq_some_iff]
  refine exists_congr fun e => ?_
  rw [EditScript.Scheme.find?_keyOf_eq_some hnodup, and_assoc]
  exact Iff.rfl

/-- A tag in one direction is the dual tag in the other. -/
theorem isTagged_reverse (hold : KeyedOrNull old) (hnew : KeyedOrNull new)
    (h : IsTagged (nwiStateDiff old new) af name d) :
    IsTagged (nwiStateDiff new old) af name (dualDiff d) := by
  rw [isTagged_iff hold hnew] at h
  rw [isTagged_iff hnew hold,
    EditScript.Scheme.tag_script_reverse nwiTags (hold.nodup af) (hnew.nodup af), h]
  rfl

theorem isTagged_reverse_iff (hold : KeyedOrNull old) (hnew : KeyedOrNull new) (d : BitVec 8) :
    IsTagged (nwiStateDiff old new) af name d ↔
      IsTagged (nwiStateDiff new old) af name (dualDiff d) := by
  refine ⟨isTagged_reverse hold hnew, fun h => ?_⟩
  have hback := isTagged_reverse hnew hold h
  rwa [dualDiff_dualDiff] at hback

theorem mentions_reverse (hold : KeyedOrNull old) (hnew : KeyedOrNull new)
    (h : Mentions (nwiStateDiff old new) af name) : Mentions (nwiStateDiff new old) af name := by
  obtain ⟨e, he, hname⟩ := h
  obtain ⟨e', he', hname', -⟩ := isTagged_reverse hold hnew ⟨e, he, hname, rfl⟩
  exact ⟨e', he', hname'⟩

end NwiState

open NwiState in
/-- **Antisymmetry.** The two differences of two states mention the same names, in each
family, and tag them dually. Either state may be `NULL`. -/
theorem nwiStateDiff_antisymm {a b : Option NwiState} (ha : KeyedOrNull a) (hb : KeyedOrNull b)
    (af : AddressFamily) (name : CString) :
    (IsTagged (nwiStateDiff a b) af name nwiIfstateDiffAdded ↔
        IsTagged (nwiStateDiff b a) af name nwiIfstateDiffRemoved) ∧
      (IsTagged (nwiStateDiff a b) af name nwiIfstateDiffChanged ↔
        IsTagged (nwiStateDiff b a) af name nwiIfstateDiffChanged) ∧
      (IsTagged (nwiStateDiff a b) af name nwiIfstateDiffRankUp ↔
        IsTagged (nwiStateDiff b a) af name nwiIfstateDiffRankDown) ∧
      (IsTagged (nwiStateDiff a b) af name nwiIfstateDiffUnchanged ↔
        IsTagged (nwiStateDiff b a) af name nwiIfstateDiffUnchanged) ∧
      (Mentions (nwiStateDiff a b) af name ↔ Mentions (nwiStateDiff b a) af name) :=
  ⟨isTagged_reverse_iff ha hb nwiIfstateDiffAdded, isTagged_reverse_iff ha hb nwiIfstateDiffChanged,
    isTagged_reverse_iff ha hb nwiIfstateDiffRankUp,
    isTagged_reverse_iff ha hb nwiIfstateDiffUnchanged,
    mentions_reverse ha hb, mentions_reverse hb ha⟩

open NwiState in
/-- `en0` at rank 7 against `en0` at rank 5: the rank went up one way, down the other. -/
theorem nwiStateDiff_antisymm_en0 :
    IsTagged (nwiStateDiff
        (some (nwiStateAddIfstate (nwiStateAlloc 1) [0x65, 0x6e, 0x30] .inet 1 7 none none 0).1)
        (some (nwiStateAddIfstate (nwiStateAlloc 1) [0x65, 0x6e, 0x30] .inet 1 5 none none 0).1))
      .inet [0x65, 0x6e, 0x30] nwiIfstateDiffRankUp ∧
    IsTagged (nwiStateDiff
        (some (nwiStateAddIfstate (nwiStateAlloc 1) [0x65, 0x6e, 0x30] .inet 1 5 none none 0).1)
        (some (nwiStateAddIfstate (nwiStateAlloc 1) [0x65, 0x6e, 0x30] .inet 1 7 none none 0).1))
      .inet [0x65, 0x6e, 0x30] nwiIfstateDiffRankDown := by
  have hkeyed : ∀ rank : BitVec 32, KeyedOrNull (some
      (nwiStateAddIfstate (nwiStateAlloc 1) [0x65, 0x6e, 0x30] .inet 1 rank none none 0).1) := by
    intro rank t ht
    obtain rfl := Option.some.inj ht
    exact (WellFormed.addIfstate (wellFormed_of_count_eq_zero fun af => by cases af <;> rfl)
      (by decide) 1 rank none none 0).toKeyed
  obtain ⟨-, -, hrank, -, -⟩ := nwiStateDiff_antisymm (hkeyed 7) (hkeyed 5) .inet [0x65, 0x6e, 0x30]
  have hup : IsTagged (nwiStateDiff
      (some (nwiStateAddIfstate (nwiStateAlloc 1) [0x65, 0x6e, 0x30] .inet 1 7 none none 0).1)
      (some (nwiStateAddIfstate (nwiStateAlloc 1) [0x65, 0x6e, 0x30] .inet 1 5 none none 0).1))
      .inet [0x65, 0x6e, 0x30] nwiIfstateDiffRankUp := by
    rw [isTagged_iff (hkeyed 7) (hkeyed 5)]
    decide +kernel
  exact ⟨hup, hrank.mp hup⟩

end ConfigdExtra
