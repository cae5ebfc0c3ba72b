import ConfigdExtra.EditScript
import ConfigdExtra.NwiBuild

/-!
# Comparing two states: `nwi_state_diff`

The difference of two states is a third one, whose entries carry diff bits in their flags.
The source builds it in four passes over slots: the entries of `new` are appended one family
after the other, each compared with the entry of its name in `old`; then the entries of `old`
are appended whose name the diff built so far lacks.

* `nwiStateDiffAppend`, `nwiStateDiffAddChange`, `nwiStateDiffRemove`, `nwiStateDiffPopulate`,
  `nwiStateDiff` — as the source computes them.
* `NwiIfstate.diffOf`, `nwiScheme` — the tag of an entry by comparison, and the scheme of
  marking by it: what a diff is meant to be.

That the passes compute the edit script of `nwiScheme` is in `NwiDiffScript`.
-/

namespace ConfigdExtra

/-! ## Diff bits -/

/-- `NWI_IFSTATE_DIFF_UNCHANGED` -/
def nwiIfstateDiffUnchanged : BitVec 8 := 0

/-- `NWI_IFSTATE_DIFF_ADDED` -/
def nwiIfstateDiffAdded : BitVec 8 := 1

/-- `NWI_IFSTATE_DIFF_REMOVED` -/
def nwiIfstateDiffRemoved : BitVec 8 := 2

/-- `NWI_IFSTATE_DIFF_CHANGED` -/
def nwiIfstateDiffChanged : BitVec 8 := 3

/-- `NWI_IFSTATE_DIFF_RANK_UP` -/
def nwiIfstateDiffRankUp : BitVec 8 := 4

/-- `NWI_IFSTATE_DIFF_RANK_DOWN` -/
def nwiIfstateDiffRankDown : BitVec 8 := 5

/-- `NWI_IFSTATE_FLAGS_GET_DIFF(flags)`, narrowed to the `uint8_t` it is returned as. -/
def nwiIfstateFlagsGetDiff (flags : BitVec 64) : BitVec 8 :=
  ((flags &&& nwiIfstateFlagsDiffMask) >>> 8).setWidth 8

/-- `NWI_IFSTATE_FLAGS_FROM_DIFF(diff)` -/
def nwiIfstateFlagsFromDiff (diff : BitVec 8) : BitVec 64 :=
  (diff.setWidth 64 <<< 8) &&& nwiIfstateFlagsDiffMask

/-- `nwi_ifstate_get_diff` -/
def nwiIfstateGetDiff (ifstate : NwiIfstate) : BitVec 8 := nwiIfstateFlagsGetDiff ifstate.flags

/-- `nwi_ifstate_set_diff` -/
def nwiIfstateSetDiff (diff : BitVec 8) (ifstate : NwiIfstate) : NwiIfstate :=
  let ifstate := { ifstate with flags := ifstate.flags &&& ~~~nwiIfstateFlagsDiffMask }
  if diff ≠ nwiIfstateDiffUnchanged then
    { ifstate with flags := ifstate.flags ||| nwiIfstateFlagsFromDiff diff }
  else
    ifstate

/-! ## The passes -/

/-- `nwi_ifstate_has_changed` -/
def nwiIfstateHasChanged (ifstate1 ifstate2 : NwiIfstate) : Bool :=
  if nwiIfstateFlags ifstate1.flags ≠ nwiIfstateFlags ifstate2.flags then
    true
  else
    match ifstate1.af with
    | .inet => ifstate1.addr.iaddr ≠ ifstate2.addr.iaddr
    | .inet6 => ifstate1.addr ≠ ifstate2.addr

/-- The entry that `nwi_state_get_ifstate_with_name` points to. -/
def nwiStateFindIfstate (state : Option NwiState) (af : AddressFamily) (name : CString) :
    Option NwiIfstate :=
  state.bind fun s => (nwiStateGetIfstateWithName (some s) af name).map s.ifstate

/-- `nwi_state_diff_append`: the new state and the returned pointer. -/
def nwiStateDiffAppend (state : NwiState) (scan : NwiIfstate) : NwiState × Nat :=
  let last := state.count scan.af
  let newIfstate := state.slot scan.af last
  ((state.modify newIfstate fun _ => scan).setCount scan.af (last + 1), newIfstate)

/-- `nwi_state_diff_add_change` -/
def nwiStateDiffAddChange (oldIfstate : Option NwiState) (diff : NwiState) (ifstate : NwiIfstate) :
    NwiState :=
  let existing := nwiStateFindIfstate oldIfstate ifstate.af ifstate.ifname
  let (diff, newIfstate) := nwiStateDiffAppend diff ifstate
  match existing with
  | some existing =>
    if nwiIfstateHasChanged existing (diff.ifstate newIfstate) then
      diff.modify newIfstate (nwiIfstateSetDiff nwiIfstateDiffChanged)
    else if existing.rank < (diff.ifstate newIfstate).rank then
      diff.modify newIfstate (nwiIfstateSetDiff nwiIfstateDiffRankDown)
    else if existing.rank > (diff.ifstate newIfstate).rank then
      diff.modify newIfstate (nwiIfstateSetDiff nwiIfstateDiffRankUp)
    else
      diff.modify newIfstate (nwiIfstateSetDiff nwiIfstateDiffUnchanged)
  | none => diff.modify newIfstate (nwiIfstateSetDiff nwiIfstateDiffAdded)

/-- `nwi_state_diff_remove` -/
def nwiStateDiffRemove (state : NwiState) (ifstate : NwiIfstate) : NwiState :=
  if (nwiStateGetIfstateWithName (some state) ifstate.af ifstate.ifname).isSome then
    -- there's still an ifstate
    state
  else
    let (state, removedIfstate) := nwiStateDiffAppend state ifstate
    state.modify removedIfstate (nwiIfstateSetDiff nwiIfstateDiffRemoved)

/-- `for (i = 0, scan = <list of af>; i < <count of af>; i++, scan++) body(diff, scan)` -/
def forEachScan (state : NwiState) (af : AddressFamily) (body : NwiState → NwiIfstate → NwiState)
    (diff : NwiState) : NwiState :=
  (List.range (state.count af)).foldl (fun diff i => body diff (state.ifstate (state.slot af i))) diff

/-- `nwi_state_diff_populate` -/
def nwiStateDiffPopulate (diff : NwiState) (oldIfstate newIfstate : Option NwiState) : NwiState :=
  -- check for adds/changes
  let diff :=
    match newIfstate with
    | none => diff
    | some new =>
      let diff := forEachScan new .inet (nwiStateDiffAddChange oldIfstate) diff
      forEachScan new .inet6 (nwiStateDiffAddChange oldIfstate) diff
  -- check for removes
  match oldIfstate with
  | none => diff
  | some old =>
    let diff := forEachScan old .inet nwiStateDiffRemove diff
    forEachScan old .inet6 nwiStateDiffRemove diff

/-- `nwi_state_max_af_count` -/
def nwiStateMaxAfCount (state : NwiState) : Nat :=
  if state.ipv4Count ≥ state.ipv6Count then state.ipv4Count else state.ipv6Count

/-- What a state adds to `total_count`; `NULL` adds nothing. -/
def nwiStateDiffCount (state : Option NwiState) : Nat :=
  match state with
  | none => 0
  | some state => nwiStateMaxAfCount state

/-- `nwi_state_diff` -/
def nwiStateDiff (oldIfstate newIfstate : Option NwiState) : Option NwiState :=
  -- the worst case: old and new share none of the same interfaces
  let totalCount := nwiStateDiffCount oldIfstate + nwiStateDiffCount newIfstate
  if totalCount = 0 then
    none
  else
    (nwiStateNew none totalCount).map fun diff => nwiStateDiffPopulate diff oldIfstate newIfstate

/-! ## What a diff is meant to be -/

namespace NwiIfstate

/-- The address of an entry: the four bytes of `iaddr` or the sixteen of `iaddr6`. -/
def address (e : NwiIfstate) : BitVec 128 :=
  match e.af with
  | .inet => e.addr.iaddr.setWidth 128
  | .inet6 => e.addr.iaddr6Rest ++ e.addr.iaddr

/-- The tag of an entry of `new`, given the entry of its name in `old`. -/
def diffOf : Option NwiIfstate → NwiIfstate → BitVec 8
  | none, _ => nwiIfstateDiffAdded
  | some o, e =>
    if nwiIfstateFlags o.flags ≠ nwiIfstateFlags e.flags ∨ o.address ≠ e.address then
      nwiIfstateDiffChanged
    else if o.rank < e.rank then
      nwiIfstateDiffRankDown
    else if o.rank > e.rank then
      nwiIfstateDiffRankUp
    else
      nwiIfstateDiffUnchanged

variable {e o : NwiIfstate} {d : BitVec 8}

theorem setDiff_eq (d : BitVec 8) (e : NwiIfstate) : ∃ flags, nwiIfstateSetDiff d e =
    { e with flags := flags } := by
  simp only [nwiIfstateSetDiff]
  split
  · exact ⟨_, rfl⟩
  · exact ⟨_, rfl⟩

theorem setDiff_flags (d : BitVec 8) (e : NwiIfstate) : (nwiIfstateSetDiff d e).flags =
    e.flags &&& ~~~nwiIfstateFlagsDiffMask ||| nwiIfstateFlagsFromDiff d := by
  simp only [nwiIfstateSetDiff]
  split
  · rfl
  · next h =>
    rw [not_not.mp h]
    simp [nwiIfstateFlagsFromDiff, nwiIfstateDiffUnchanged]

@[simp] theorem setDiff_ifname : (nwiIfstateSetDiff d e).ifname = e.ifname := by
  obtain ⟨flags, h⟩ := setDiff_eq d e
  rw [h]

@[simp] theorem setDiff_af : (nwiIfstateSetDiff d e).af = e.af := by
  obtain ⟨flags, h⟩ := setDiff_eq d e
  rw [h]

@[simp] theorem setDiff_rank : (nwiIfstateSetDiff d e).rank = e.rank := by
  obtain ⟨flags, h⟩ := setDiff_eq d e
  rw [h]

@[simp] theorem setDiff_address : (nwiIfstateSetDiff d e).address = e.address := by
  obtain ⟨flags, h⟩ := setDiff_eq d e
  rw [h]
  rfl

/-- The preserved flags and the diff bits do not overlap. -/
@[simp] theorem nwiIfstateFlags_setDiff :
    nwiIfstateFlags (nwiIfstateSetDiff d e).flags = nwiIfstateFlags e.flags := by
  have hmask : ~~~nwiIfstateFlagsDiffMask &&& nwiIfstateFlagsMask = nwiIfstateFlagsMask := by decide
  have hzero : nwiIfstateFlagsDiffMask &&& nwiIfstateFlagsMask = 0 := by decide
  rw [setDiff_flags, nwiIfstateFlags, nwiIfstateFlagsFromDiff, BitVec.and_or_distrib_right,
    BitVec.and_assoc, hmask, BitVec.and_assoc, hzero]
  simp [nwiIfstateFlags]

/-- The tags of the source fit the four diff bits. -/
theorem getDiff_setDiff (hd : d < 16) : nwiIfstateGetDiff (nwiIfstateSetDiff d e) = d := by
  have hcut : (e.flags &&& ~~~nwiIfstateFlagsDiffMask) &&& nwiIfstateFlagsDiffMask = 0 := by
    rw [BitVec.and_assoc, BitVec.and_comm (~~~_), BitVec.and_not_self]
    simp
  rw [nwiIfstateGetDiff, nwiIfstateFlagsGetDiff, setDiff_flags, BitVec.and_or_distrib_right, hcut,
    nwiIfstateFlagsFromDiff, BitVec.and_assoc, BitVec.and_self]
  revert d
  decide

/-- Clearing the diff bits undoes a tag. -/
theorem clearDiff_setDiff : nwiIfstateSetDiff nwiIfstateDiffUnchanged (nwiIfstateSetDiff d e) =
    nwiIfstateSetDiff nwiIfstateDiffUnchanged e := by
  have hflags : (nwiIfstateSetDiff d e).flags &&& ~~~nwiIfstateFlagsDiffMask =
      e.flags &&& ~~~nwiIfstateFlagsDiffMask := by
    rw [setDiff_flags, nwiIfstateFlagsFromDiff, BitVec.and_or_distrib_right, BitVec.and_assoc,
      BitVec.and_self, BitVec.and_assoc, BitVec.and_not_self]
    simp
  obtain ⟨flags, h⟩ := setDiff_eq d e
  rw [h] at hflags ⊢
  simp only [nwiIfstateSetDiff, ne_eq, not_true_eq_false, if_false]
  rw [hflags]

/-- On an entry without diff bits there is nothing to clear. -/
theorem clearDiff_eq_self (h : nwiIfstateGetDiff e = nwiIfstateDiffUnchanged) :
    nwiIfstateSetDiff nwiIfstateDiffUnchanged e = e := by
  have hflags : e.flags &&& ~~~nwiIfstateFlagsDiffMask = e.flags := by
    apply BitVec.eq_of_getLsbD_eq
    intro i hi
    have hbit := congrArg (fun b => b.getLsbD (i - 8)) h
    simp only [nwiIfstateGetDiff, nwiIfstateFlagsGetDiff, nwiIfstateFlagsDiffMask,
      nwiIfstateDiffUnchanged, BitVec.getLsbD_setWidth, BitVec.getLsbD_ushiftRight,
      BitVec.getLsbD_and] at hbit
    simp only [nwiIfstateFlagsDiffMask, BitVec.getLsbD_and, BitVec.getLsbD_not, hi, decide_true,
      Bool.true_and]
    by_cases hrange : 8 ≤ i ∧ i < 12
    · have hsub : 8 + (i - 8) = i := by omega
      rw [hsub] at hbit
      obtain ⟨h8, h12⟩ := hrange
      interval_cases i <;> simpa using hbit
    · have hmask : (3840 : BitVec 64).getLsbD i = false := by
        interval_cases i <;> first | rfl | omega
      rw [hmask]
      simp
  simp only [nwiIfstateSetDiff, ne_eq, not_true_eq_false, if_false, hflags]

theorem diffOf_lt (o : Option NwiIfstate) (e : NwiIfstate) : diffOf o e < 16 := by
  cases o with
  | none =>
    rw [diffOf]
    decide
  | some o =>
    simp only [diffOf]
    split_ifs <;> decide

theorem diffOf_ne_removed (o : Option NwiIfstate) (e : NwiIfstate) :
    diffOf o e ≠ nwiIfstateDiffRemoved := by
  cases o with
  | none =>
    rw [diffOf]
    decide
  | some o =>
    simp only [diffOf]
    split_ifs <;> decide

/-- Between entries of one family, `nwi_ifstate_has_changed` compares the preserved flags and
the address. -/
theorem hasChanged_iff (haf : o.af = e.af) : nwiIfstateHasChanged o e = true ↔
    nwiIfstateFlags o.flags ≠ nwiIfstateFlags e.flags ∨ o.address ≠ e.address := by
  have haddr : o.address ≠ e.address ↔ (match o.af with
      | .inet => decide (o.addr.iaddr ≠ e.addr.iaddr)
      | .inet6 => decide (o.addr ≠ e.addr)) = true := by
    rw [address, address, ← haf]
    cases o.af with
    | inet =>
      simp only [ne_eq, decide_not, Bool.not_eq_true', decide_eq_false_iff_not, not_iff_not]
      constructor
      · intro h
        have h' := congrArg (BitVec.setWidth 32) h
        simpa using h'
      · intro h
        rw [h]
    | inet6 =>
      simp only [ne_eq, decide_not, Bool.not_eq_true', decide_eq_false_iff_not, not_iff_not]
      constructor
      · intro h
        have hiaddr : o.addr.iaddr = e.addr.iaddr := by
          have hlow := congrArg (BitVec.setWidth 32) h
          rwa [BitVec.setWidth_append_eq_right, BitVec.setWidth_append_eq_right] at hlow
        have hrest : o.addr.iaddr6Rest = e.addr.iaddr6Rest := by
          rw [hiaddr] at h
          exact (BitVec.append_left_inj _).mp h
        cases ho : o.addr
        cases he : e.addr
        rw [ho, he] at hiaddr hrest
        simp only at hiaddr hrest
        rw [hiaddr, hrest]
      · intro h
        rw [h]
  rw [haddr, nwiIfstateHasChanged]
  split
  · next h => simp [h]
  · next h => simp [not_not.mp h]

end NwiIfstate

/-- How a diff keys and marks entries. -/
def nwiScheme : EditScript.Scheme NwiIfstate NwiIfstate CString where
  key e := e.ifname
  keyOf e := e.ifname
  mark o e := nwiIfstateSetDiff (NwiIfstate.diffOf o e) e
  markGone e := nwiIfstateSetDiff nwiIfstateDiffRemoved e
  keyOf_mark _ _ := NwiIfstate.setDiff_ifname
  keyOf_markGone _ := NwiIfstate.setDiff_ifname

theorem nwiScheme_key (e : NwiIfstate) : nwiScheme.key e = e.ifname := rfl

theorem nwiScheme_keyOf : nwiScheme.keyOf = fun e => e.ifname := rfl

theorem nwiScheme_mark (o : Option NwiIfstate) (e : NwiIfstate) :
    nwiScheme.mark o e = nwiIfstateSetDiff (NwiIfstate.diffOf o e) e := rfl

theorem nwiScheme_markGone (e : NwiIfstate) :
    nwiScheme.markGone e = nwiIfstateSetDiff nwiIfstateDiffRemoved e := rfl

end ConfigdExtra
