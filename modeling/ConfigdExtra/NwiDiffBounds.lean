import ConfigdExtra.NwiDiffScript

/-!
# The appends of a difference stay in their halves

`nwi_state_diff_append` writes behind the last entry of a family without looking at
`max_if_count`. What keeps it inside the half of the family is the size `nwi_state_diff`
allocates, and the count of entries the passes can append.

* `DiffRun` — a difference being built, with the calls of `nwi_state_diff_append` made for it.
  `recordAddChange`, `recordRemove`, … are the passes of `NwiDiff` over such runs.
* `Records`, `Records.foldl` — recording changes nothing, misses no call, and every call of a
  loop with enough room is in bounds.
* `nwiStateDiff_appends_inBounds` — every append of `nwi_state_diff` is in bounds.
-/

namespace ConfigdExtra

/-! ## Calls of `nwi_state_diff_append` -/

/-- One call of `nwi_state_diff_append`: the difference it is given, and the entry. -/
structure AppendCall where
  /-- the difference before the call -/
  state : NwiState
  /-- the entry to append -/
  scan : NwiIfstate

namespace AppendCall

/-- The index the entry gets on the list of its family. -/
def index (c : AppendCall) : Nat := c.state.count c.scan.af

/-- The slot the call writes. -/
def slot (c : AppendCall) : Nat := (nwiStateDiffAppend c.state c.scan).2

/-- The call writes inside the half of the family of its entry. -/
structure InBounds (c : AppendCall) : Prop where
  /-- the index is one the family has a slot for -/
  index_lt : c.index < c.state.maxIfCount
  /-- an IPv4 entry stays in front of the IPv6 half -/
  slot_inet : c.scan.af = .inet → c.slot < c.state.slot .inet6 0
  /-- an IPv6 entry is written behind the IPv4 half -/
  slot_inet6 : c.scan.af = .inet6 → c.state.slot .inet6 0 ≤ c.slot
  /-- and no entry behind the slots of the buffer -/
  slot_lt : c.slot < c.state.ifstateList.length

theorem inBounds_of_index_lt {c : AppendCall} (h : c.index < c.state.maxIfCount) : c.InBounds where
  index_lt := h
  slot_inet haf := by
    simp only [slot, nwiStateDiffAppend, NwiState.slot, haf, index] at h ⊢
    omega
  slot_inet6 haf := by
    simp only [slot, nwiStateDiffAppend, NwiState.slot, haf]
    omega
  slot_lt := NwiState.slot_lt h

end AppendCall

/-! ## Recording runs -/

/-- A difference being built, and the appends that built it. -/
structure DiffRun where
  /-- the difference -/
  diff : NwiState
  /-- the calls of `nwi_state_diff_append`, oldest first -/
  calls : List AppendCall

/-- `nwi_state_diff_append`, recorded. -/
def DiffRun.append (run : DiffRun) (scan : NwiIfstate) : DiffRun × Nat :=
  let (diff, newIfstate) := nwiStateDiffAppend run.diff scan
  ({ diff := diff, calls := run.calls ++ [⟨run.diff, scan⟩] }, newIfstate)

/-- `nwi_ifstate_set_diff` on an entry of the difference. -/
def DiffRun.setDiff (run : DiffRun) (ifstate : Nat) (diff : BitVec 8) : DiffRun :=
  { run with diff := run.diff.modify ifstate (nwiIfstateSetDiff diff) }

/-- `nwi_state_diff_add_change`, recorded. -/
def recordAddChange (oldIfstate : Option NwiState) (run : DiffRun) (ifstate : NwiIfstate) :
    DiffRun :=
  let existing := nwiStateFindIfstate oldIfstate ifstate.af ifstate.ifname
  let (run, newIfstate) := run.append ifstate
  match existing with
  | some existing =>
    if nwiIfstateHasChanged existing (run.diff.ifstate newIfstate) then
      run.setDiff newIfstate nwiIfstateDiffChanged
    else if existing.rank < (run.diff.ifstate newIfstate).rank then
      run.setDiff newIfstate nwiIfstateDiffRankDown
    else if existing.rank > (run.diff.ifstate newIfstate).rank then
      run.setDiff newIfstate nwiIfstateDiffRankUp
    else
      run.setDiff newIfstate nwiIfstateDiffUnchanged
  | none => run.setDiff newIfstate nwiIfstateDiffAdded

/-- `nwi_state_diff_remove`, recorded. -/
def recordRemove (run : DiffRun) (ifstate : NwiIfstate) : DiffRun :=
  if (nwiStateGetIfstateWithName (some run.diff) ifstate.af ifstate.ifname).isSome then
    run
  else
    let (run, removedIfstate) := run.append ifstate
    run.setDiff removedIfstate nwiIfstateDiffRemoved

/-- The loops of `nwi_state_diff_populate` over one list, recorded. -/
def recordEachScan (state : NwiState) (af : AddressFamily) (body : DiffRun → NwiIfstate → DiffRun)
    (run : DiffRun) : DiffRun :=
  (List.range (state.count af)).foldl (fun run i => body run (state.ifstate (state.slot af i))) run

/-- `nwi_state_diff_populate`, recorded. -/
def recordPopulate (run : DiffRun) (oldIfstate newIfstate : Option NwiState) : DiffRun :=
  let run :=
    match newIfstate with
    | none => run
    | some new =>
      let run := recordEachScan new .inet (recordAddChange oldIfstate) run
      recordEachScan new .inet6 (recordAddChange oldIfstate) run
  match oldIfstate with
  | none => run
  | some old =>
    let run := recordEachScan old .inet recordRemove run
    recordEachScan old .inet6 recordRemove run

/-- `nwi_state_diff`, recorded. -/
def recordDiff (oldIfstate newIfstate : Option NwiState) : Option DiffRun :=
  let totalCount := nwiStateDiffCount oldIfstate + nwiStateDiffCount newIfstate
  if totalCount = 0 then
    none
  else
    (nwiStateNew none totalCount).map fun diff => recordPopulate ⟨diff, []⟩ oldIfstate newIfstate

/-! ## One turn -/

/-- The entries in use in both families. -/
def NwiState.totalCount (s : NwiState) : Nat := s.count .inet + s.count .inet6

/-- As many calls are recorded as entries were appended. -/
def DiffRun.Complete (run : DiffRun) : Prop := run.calls.length = run.diff.totalCount

namespace NwiState

variable {old new : Option NwiState} {af : AddressFamily} {e : NwiIfstate} {run : DiffRun}
  {plain : NwiState → NwiIfstate → NwiState} {body : DiffRun → NwiIfstate → DiffRun}

/-- Recording a turn: the difference is that of the turn, and the only call there can be is the
one that appends the entry to the difference the turn began with. -/
structure Records (body : DiffRun → NwiIfstate → DiffRun)
    (plain : NwiState → NwiIfstate → NwiState) : Prop where
  /-- recording changes nothing -/
  diff_eq : ∀ run e, (body run e).diff = plain run.diff e
  /-- a turn appends its entry, or nothing -/
  calls_eq : ∀ run e, (body run e).calls = run.calls ++ [⟨run.diff, e⟩] ∨
    (body run e).calls = run.calls
  /-- no append goes unrecorded -/
  complete : ∀ run e, DiffRun.Complete run → DiffRun.Complete (body run e)

theorem totalCount_append (s : NwiState) (e : NwiIfstate) :
    (nwiStateDiffAppend s e).1.totalCount = s.totalCount + 1 := by
  cases haf : e.af <;> simp only [totalCount, nwiStateDiffAppend, haf, setCount, count, modify] <;>
    omega

theorem complete_append (h : DiffRun.Complete run) : DiffRun.Complete (run.append e).1 := by
  simp only [DiffRun.Complete, DiffRun.append, List.length_append, List.length_singleton] at h ⊢
  rw [totalCount_append, h]

theorem complete_setDiff {p : Nat} {d : BitVec 8} :
    DiffRun.Complete (run.setDiff p d) ↔ DiffRun.Complete run := by
  simp only [DiffRun.Complete, DiffRun.setDiff, totalCount, count_modify]

/-- Whatever the comparison says, the entry is appended and then tagged. -/
theorem recordAddChange_cases (old : Option NwiState) (run : DiffRun) (e : NwiIfstate) :
    ∃ d, recordAddChange old run e = (run.append e).1.setDiff (run.append e).2 d ∧
      nwiStateDiffAddChange old run.diff e =
        ((run.append e).1.setDiff (run.append e).2 d).diff := by
  simp only [recordAddChange, nwiStateDiffAddChange]
  cases nwiStateFindIfstate old e.af e.ifname with
  | none => exact ⟨_, rfl, rfl⟩
  | some existing =>
    by_cases hchanged :
        nwiIfstateHasChanged existing ((run.append e).1.diff.ifstate (run.append e).2) = true
    · exact ⟨_, if_pos hchanged, if_pos hchanged⟩
    · by_cases hdown : existing.rank < ((run.append e).1.diff.ifstate (run.append e).2).rank
      · exact ⟨_, (if_neg hchanged).trans (if_pos hdown), (if_neg hchanged).trans (if_pos hdown)⟩
      · by_cases hup : existing.rank > ((run.append e).1.diff.ifstate (run.append e).2).rank
        · exact ⟨_, (if_neg hchanged).trans ((if_neg hdown).trans (if_pos hup)),
            (if_neg hchanged).trans ((if_neg hdown).trans (if_pos hup))⟩
        · exact ⟨_, (if_neg hchanged).trans ((if_neg hdown).trans (if_neg hup)),
            (if_neg hchanged).trans ((if_neg hdown).trans (if_neg hup))⟩

theorem records_addChange : Records (recordAddChange old) (nwiStateDiffAddChange old) where
  diff_eq run e := by
    obtain ⟨d, hrecord, hplain⟩ := recordAddChange_cases old run e
    rw [hrecord, hplain]
  calls_eq run e := by
    obtain ⟨d, hrecord, -⟩ := recordAddChange_cases old run e
    rw [hrecord]
    exact Or.inl rfl
  complete run e h := by
    obtain ⟨d, hrecord, -⟩ := recordAddChange_cases old run e
    rw [hrecord, complete_setDiff]
    exact complete_append h

theorem records_remove : Records recordRemove nwiStateDiffRemove where
  diff_eq run e := by
    simp only [recordRemove, nwiStateDiffRemove]
    split <;> rfl
  calls_eq run e := by
    simp only [recordRemove]
    split
    · exact Or.inr rfl
    · exact Or.inl rfl
  complete run e h := by
    simp only [recordRemove]
    split
    · exact h
    · exact complete_setDiff.mpr (complete_append h)

/-! ## Loops -/

theorem Records.diff_foldl (h : Records body plain) (l : List NwiIfstate) (run : DiffRun) :
    (l.foldl body run).diff = l.foldl plain run.diff := by
  induction l generalizing run with
  | nil => rfl
  | cons e l ih => rw [List.foldl_cons, List.foldl_cons, ih, h.diff_eq]

theorem Records.complete_foldl (h : Records body plain) (l : List NwiIfstate)
    (hrun : DiffRun.Complete run) : DiffRun.Complete (l.foldl body run) := by
  induction l generalizing run with
  | nil => exact hrun
  | cons e l ih => exact ih (h.complete run e hrun)

/-- In a loop over no more entries than there is room for, every call is in bounds. -/
theorem Records.foldl (h : Records body plain)
    {pass : List NwiIfstate → NwiIfstate → List NwiIfstate}
    (hbody : ∀ s e, s.Capacity → s.count af < s.maxIfCount → e.af = af →
      Extends s (plain s e) af (pass (s.live af) e))
    (hpass : ∀ acc e, (pass acc e).length ≤ acc.length + 1) (l : List NwiIfstate) :
    ∀ run : DiffRun, run.diff.Capacity → (∀ e ∈ l, e.af = af) →
      run.diff.count af + l.length ≤ run.diff.maxIfCount →
      (∀ c ∈ run.calls, c.InBounds) → ∀ c ∈ (l.foldl body run).calls, c.InBounds := by
  induction l with
  | nil => exact fun run _ _ _ hcalls => hcalls
  | cons e l ih =>
    intro run hcap haf hroom hcalls
    rw [List.length_cons] at hroom
    have hlt : run.diff.count af < run.diff.maxIfCount := by omega
    have hstep := hbody run.diff e hcap hlt (haf e List.mem_cons_self)
    have hlen := hpass (run.diff.live af) e
    rw [← hstep.live_self, length_live hstep.capacity, length_live hcap] at hlen
    have hcall : AppendCall.InBounds ⟨run.diff, e⟩ := by
      refine AppendCall.inBounds_of_index_lt ?_
      rwa [AppendCall.index, haf e List.mem_cons_self]
    rw [List.foldl_cons]
    refine ih (body run e) ?_ (fun a ha => haf a (List.mem_cons_of_mem _ ha)) ?_ fun c hc => ?_
    · rw [h.diff_eq]
      exact hstep.capacity
    · rw [h.diff_eq, hstep.maxIfCount_eq]
      omega
    · obtain hcons | hsame := h.calls_eq run e
      · rw [hcons, List.mem_append, List.mem_singleton] at hc
        obtain hc | rfl := hc
        · exact hcalls c hc
        · exact hcall
      · exact hcalls c (hsame ▸ hc)

/-- So it is over both families. -/
theorem Records.foldl_pair (h : Records body plain)
    {pass : AddressFamily → List NwiIfstate → NwiIfstate → List NwiIfstate}
    {src : AddressFamily → List NwiIfstate}
    (hbody : ∀ af s e, s.Capacity → s.count af < s.maxIfCount → e.af = af →
      Extends s (plain s e) af (pass af (s.live af) e))
    (hpass : ∀ af acc e, (pass af acc e).length ≤ acc.length + 1)
    (hsrc : ∀ af, ∀ e ∈ src af, e.af = af) (hcap : run.diff.Capacity)
    (hroom : ∀ af, run.diff.count af + (src af).length ≤ run.diff.maxIfCount)
    (hcalls : ∀ c ∈ run.calls, c.InBounds) :
    ∀ c ∈ ((src .inet6).foldl body ((src .inet).foldl body run)).calls, c.InBounds := by
  have h4 := Extends.foldl (hbody .inet) (hpass .inet) (src .inet) run.diff hcap (hsrc .inet)
    (hroom .inet)
  have hcalls4 := h.foldl (hbody .inet) (hpass .inet) (src .inet) run hcap (hsrc .inet)
    (hroom .inet) hcalls
  refine h.foldl (hbody .inet6) (hpass .inet6) (src .inet6) _ ?_ (hsrc .inet6) ?_ hcalls4
  · rw [h.diff_foldl]
    exact h4.capacity
  · have hother := congrArg List.length h4.live_other
    rw [length_live h4.capacity, length_live hcap] at hother
    rw [h.diff_foldl, h4.maxIfCount_eq]
    exact hother ▸ hroom .inet6

theorem recordEachScan_eq {s : NwiState} (hcap : s.Capacity) (run : DiffRun) :
    recordEachScan s af body run = (s.live af).foldl body run := by
  rw [recordEachScan, live_eq_map hcap, List.foldl_map]

/-! ## The whole run -/

/-- The recorded passes over both families of `new`, or none. -/
def recordAddPasses (run : DiffRun) (old new : Option NwiState) : DiffRun :=
  let run := (entries new .inet).foldl (recordAddChange old) run
  (entries new .inet6).foldl (recordAddChange old) run

/-- The recorded passes over both families of `old`, or none. -/
def recordGonePasses (run : DiffRun) (old : Option NwiState) : DiffRun :=
  let run := (entries old .inet).foldl recordRemove run
  (entries old .inet6).foldl recordRemove run

theorem recordPopulate_eq (hold : KeyedOrNull old) (hnew : KeyedOrNull new) (run : DiffRun) :
    recordPopulate run old new = recordGonePasses (recordAddPasses run old new) old := by
  have hscan : ∀ (t : Option NwiState), KeyedOrNull t →
      ∀ (body : DiffRun → NwiIfstate → DiffRun) (r : DiffRun),
        (match t with
          | none => r
          | some t => recordEachScan t .inet6 body (recordEachScan t .inet body r)) =
        (entries t .inet6).foldl body ((entries t .inet).foldl body r) := by
    intro t ht body r
    cases t with
    | none => rfl
    | some t =>
      have hcap := (ht t rfl).capacity
      simp only [recordEachScan_eq hcap]
      rfl
  refine Eq.trans ?_ (hscan old hold recordRemove (recordAddPasses run old new))
  have hadd := hscan new hnew (recordAddChange old) run
  rw [recordAddPasses, ← hadd]
  rfl

theorem diff_recordAddPasses (run : DiffRun) (old new : Option NwiState) :
    (recordAddPasses run old new).diff = addPasses run.diff old new := by
  rw [recordAddPasses, records_addChange.diff_foldl, records_addChange.diff_foldl]
  rfl

theorem diff_recordGonePasses (run : DiffRun) :
    (recordGonePasses run old).diff = gonePasses run.diff old := by
  rw [recordGonePasses, records_remove.diff_foldl, records_remove.diff_foldl]
  rfl

end NwiState

open NwiState

/-- Recording changes nothing about `nwi_state_diff`. -/
theorem diff_recordDiff {old new : Option NwiState} (hold : KeyedOrNull old)
    (hnew : KeyedOrNull new) : (recordDiff old new).map (·.diff) = nwiStateDiff old new := by
  simp only [recordDiff, nwiStateDiff]
  split
  · rfl
  · rw [Option.map_map]
    refine congrArg (Option.map · _) (funext fun diff => ?_)
    rw [Function.comp_apply, recordPopulate_eq hold hnew, nwiStateDiffPopulate_eq hold hnew,
      diff_recordGonePasses, diff_recordAddPasses]

/-- **No overflow.** Recording the appends of `nwi_state_diff` changes nothing about it and
misses none, and every one of them is in bounds. Either state may be `NULL`. -/
theorem nwiStateDiff_appends_inBounds {old new : Option NwiState} (hold : KeyedOrNull old)
    (hnew : KeyedOrNull new) :
    (recordDiff old new).map (·.diff) = nwiStateDiff old new ∧
      ∀ run, recordDiff old new = some run →
        DiffRun.Complete run ∧ ∀ c ∈ run.calls, c.InBounds := by
  refine ⟨diff_recordDiff hold hnew, fun run hrun => ?_⟩
  obtain ⟨total, htotal⟩ : ∃ total, total = nwiStateDiffCount old + nwiStateDiffCount new :=
    ⟨_, rfl⟩
  have hroom : ∀ af, (entries new af).length + (entries old af).length ≤ total := fun af =>
    htotal ▸ length_entries_add_le hold hnew af
  simp only [recordDiff] at hrun
  rw [← htotal] at hrun
  split at hrun
  · cases hrun
  · next hpos =>
    rw [nwiStateNew, if_neg hpos, Option.map_some, recordPopulate_eq hold hnew] at hrun
    obtain rfl := Option.some.inj hrun
    have hdiff := diff_recordAddPasses ⟨nwiStateAlloc total, []⟩ old new
    obtain ⟨hcapAdd, -, -⟩ := addPasses_spec hold hnew hroom
    refine ⟨?_, ?_⟩
    · have hempty : DiffRun.Complete ⟨nwiStateAlloc total, []⟩ := by
        simp only [DiffRun.Complete, totalCount, count_alloc, List.length_nil, Nat.add_zero]
      exact records_remove.complete_foldl _ (records_remove.complete_foldl _
        (records_addChange.complete_foldl _ (records_addChange.complete_foldl _ hempty)))
    · have hcallsAdd : ∀ c ∈ (recordAddPasses ⟨nwiStateAlloc total, []⟩ old new).calls,
          c.InBounds := by
        refine records_addChange.foldl_pair (fun af s e => extends_addChange hold)
          (fun af acc e => ?_) (fun af e he => hnew.af_eq he) (capacity_alloc total)
          (fun af => ?_) fun c hc => by cases hc
        · rw [EditScript.Scheme.addPass, List.length_append, List.length_singleton]
        · rw [count_alloc, Nat.zero_add]
          exact le_trans (Nat.le_add_right _ _) (hroom af)
      refine records_remove.foldl_pair (fun af s e => extends_remove) (fun af acc e => ?_)
        (fun af e he => hold.af_eq he) (hdiff ▸ hcapAdd) (fun af => ?_) hcallsAdd
      · rw [EditScript.Scheme.gonePass]
        split <;> simp
      · rw [hdiff]
        exact count_addPasses_add_le hold hnew hroom af

/-- Three appends on IPv4 and one on IPv6, in a buffer of five slots for each. -/
theorem nwiStateDiff_appends_inBounds_stateAfter :
    ∃ run, recordDiff (some stateBefore) (some stateAfter) = some run ∧ run.calls.length = 4 ∧
      ∀ c ∈ run.calls, c.InBounds := by
  obtain ⟨-, hcalls⟩ := nwiStateDiff_appends_inBounds buildReachable_stateBefore.keyedOrNull
    buildReachable_stateAfter.keyedOrNull
  have hlength : (recordDiff (some stateBefore) (some stateAfter)).map (·.calls.length) =
      some 4 := by decide +kernel
  obtain ⟨run, hrun, hfour⟩ := Option.map_eq_some_iff.mp hlength
  exact ⟨run, hrun, hfour, (hcalls run hrun).2⟩

end ConfigdExtra
