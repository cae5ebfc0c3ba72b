import ConfigdExtra.NwiDiffScript

/-!
# Interface generations: `_nwi_state_update_interface_generations`

Each time the network state is rebuilt, every entry of the new state is given a generation:
that of the new state if the interface has changed in either family, otherwise the one its
entry had in the old state. The second case dereferences the old entry under an `assert`.

* `nwiStateUpdateInterfaceGenerations` — the two loops, an assertion that fails being `none`.
* `Tagged` — the difference says something other than "unchanged" about a name.
* `SameGenerations` — the entries of a name agree: the invariant of a run.
* `GenerationStep` — what one update does; `updateInterfaceGenerations_step` proves it.
* `generationRun_step` — over any run the assertions hold, and every step is such a step.
-/

namespace ConfigdExtra

/-! ## Operations -/

/-- `_nwi_ifstate_set_generation` -/
def nwiIfstateSetGeneration (generationCount : BitVec 64) (ifstate : NwiIfstate) : NwiIfstate :=
  { ifstate with ifGenerationCount := generationCount }

/-- `_nwi_ifstate_has_changed`, the one of a state and a name: either the v4 ifstate or the
v6 ifstate has changed. -/
def nwiStateIfstateHasChanged (state : NwiState) (ifname : CString) : Bool :=
  if (nwiStateFindIfstate (some state) .inet ifname).any
      fun ifstate => nwiIfstateGetDiff ifstate ≠ nwiIfstateDiffUnchanged then
    true
  else if (nwiStateFindIfstate (some state) .inet6 ifname).any
      fun ifstate => nwiIfstateGetDiff ifstate ≠ nwiIfstateDiffUnchanged then
    true
  else
    false

/-- The body both loops share; `none` when `assert(old_ifstate != NULL)` fails. -/
def nwiStateUpdateGeneration (oldState : Option NwiState) (changes : NwiState)
    (generationCount : BitVec 64) (af : AddressFamily) (state : NwiState) (scan : Nat) :
    Option NwiState :=
  if nwiStateIfstateHasChanged changes (state.ifstate scan).ifname then
    -- update the interface generation count
    some (state.modify scan (nwiIfstateSetGeneration generationCount))
  else
    match nwiStateFindIfstate oldState af (state.ifstate scan).ifname with
    | none => none
    | some oldIfstate =>
      some (state.modify scan (nwiIfstateSetGeneration oldIfstate.ifGenerationCount))

/-- The body of the IPv6 loop: an entry that has the generation already is skipped. -/
def nwiStateUpdateGeneration6 (oldState : Option NwiState) (changes : NwiState)
    (generationCount : BitVec 64) (state : NwiState) (scan : Nat) : Option NwiState :=
  if (state.ifstate scan).ifGenerationCount = generationCount then
    some state
  else
    nwiStateUpdateGeneration oldState changes generationCount .inet6 state scan

/-- `_nwi_state_update_interface_generations`: the state as updated, or `none` when an
assertion fails. -/
def nwiStateUpdateInterfaceGenerations (oldState state changes : Option NwiState) :
    Option (Option NwiState) :=
  match state, changes with
  | some state, some changes => do
    let generationCount := state.generationCount
    let state ← (List.range state.ipv4Count).foldlM (fun state i =>
      nwiStateUpdateGeneration oldState changes generationCount .inet state (state.slot .inet i)) state
    let state ← (List.range state.ipv6Count).foldlM (fun state i =>
      nwiStateUpdateGeneration6 oldState changes generationCount state (state.slot .inet6 i)) state
    some (some state)
  | state, _ => some state

/-! ## What one update does -/

/-- The difference tags an entry called `name`, of either family, as other than unchanged. -/
def Tagged (changes : Option NwiState) (name : CString) : Prop :=
  ∃ af, ∃ d ∈ NwiState.entries changes af, d.ifname = name ∧
    nwiIfstateGetDiff d ≠ nwiIfstateDiffUnchanged

/-- Entries of one name have one generation. -/
def SameGenerations (s : NwiState) : Prop :=
  ∀ af, ∀ e ∈ s.live af, ∀ af', ∀ e' ∈ s.live af', e.ifname = e'.ifname →
    e.ifGenerationCount = e'.ifGenerationCount

/-- `t'` is the rebuilt state `t` with the generations that follow on `s`. -/
structure GenerationStep (s t t' : NwiState) : Prop where
  /-- the state keeps its generation, its tables and everything but the generations in them -/
  generationCount_eq : t'.generationCount = t.generationCount
  keyed : t'.Keyed
  live_eq : ∀ af, (t'.live af).map (nwiIfstateSetGeneration 0) =
    (t.live af).map (nwiIfstateSetGeneration 0)
  /-- an interface that has changed is of the new generation -/
  of_tagged : ∀ name, Tagged (nwiStateDiff (some s) (some t)) name →
    ∀ af, ∀ e ∈ t'.live af, e.ifname = name → e.ifGenerationCount = t'.generationCount
  /-- any other keeps the generation of its entry in the old state -/
  of_not_tagged : ∀ name, ¬ Tagged (nwiStateDiff (some s) (some t)) name →
    ∀ af, ∀ e ∈ t'.live af, e.ifname = name →
      ∃ o ∈ s.live af, o.ifname = name ∧ e.ifGenerationCount = o.ifGenerationCount
  /-- the entries of a name agree -/
  same : SameGenerations t'

namespace NwiState

variable {s t : NwiState} {old : Option NwiState} {changes : NwiState} {af : AddressFamily}
  {e o : NwiIfstate} {name : CString} {n : Nat} {g : BitVec 64}

theorem modify_eq_const (s : NwiState) (p : Nat) (f : NwiIfstate → NwiIfstate) :
    s.modify p f = s.modify p fun _ => f (s.ifstate p) := by
  have hlist : s.ifstateList.modify p f = s.ifstateList.modify p fun _ => f (s.ifstate p) := by
    apply List.ext_getElem?
    intro i
    rw [List.getElem?_modify, List.getElem?_modify]
    by_cases hp : p = i
    · subst hp
      rw [ifstate, List.getD_eq_getElem?_getD]
      cases s.ifstateList[p]? <;> simp
    · simp [hp]
  simp only [modify, hlist]

/-- A loop that may fail is the loop over the same entries that cannot, when no turn fails. -/
theorem foldlM_eq_forEach {g : NwiState → Nat → Option NwiState} {f : NwiIfstate → NwiIfstate}
    (hbody : ∀ (t : NwiState) i, i < s.count af → t.maxIfCount = s.maxIfCount →
      t.ifstate (t.slot af i) = s.ifstate (s.slot af i) →
      g t (t.slot af i) = some (t.modify (t.slot af i) f)) (hcap : s.Capacity) :
    ∀ n ≤ s.count af, (List.range n).foldlM (fun t i => g t (t.slot af i)) s =
      some (forEachIfstate s af f n) := by
  intro n
  induction n with
  | zero => exact fun _ => rfl
  | succ n ih =>
    intro hn
    have hread : (forEachIfstate s af f n).ifstate ((forEachIfstate s af f n).slot af n) =
        s.ifstate (s.slot af n) := by
      have hnew : ((forEachIfstate s af f n).live af)[n]? = _ :=
        getElem?_live_of_lt (capacity_forEachIfstate hcap) (by rwa [count_forEachIfstate])
      rw [getElem?_live_forEachIfstate, if_neg (lt_irrefl n), getElem?_live_of_lt hcap hn] at hnew
      exact (Option.some.inj hnew).symm
    rw [List.range_succ, List.foldlM_append, ih (by omega)]
    have hturn := hbody (forEachIfstate s af f n) n hn maxIfCount_forEachIfstate hread
    simp only [Option.bind_eq_bind, Option.bind_some, List.foldlM_cons, List.foldlM_nil, hturn]
    rw [forEachIfstate, slot_congr maxIfCount_forEachIfstate]
    rfl

/-- A changed interface is one that the difference tags. -/
theorem ifstateHasChanged_iff (hk : changes.Keyed) :
    nwiStateIfstateHasChanged changes name = true ↔ Tagged (some changes) name := by
  have hkn : KeyedOrNull (some changes) := fun t ht => by
    obtain rfl := Option.some.inj ht
    exact hk
  have hany : ∀ af, (nwiStateFindIfstate (some changes) af name).any
      (fun d => nwiIfstateGetDiff d ≠ nwiIfstateDiffUnchanged) = true ↔
      ∃ d ∈ changes.live af, d.ifname = name ∧ nwiIfstateGetDiff d ≠ nwiIfstateDiffUnchanged := by
    intro af
    rw [nwiStateFindIfstate_eq hkn]
    constructor
    · intro h
      cases hlook : nwiScheme.lookup (entries (some changes) af) name with
      | none =>
        rw [hlook] at h
        cases h
      | some d =>
        rw [hlook] at h
        obtain ⟨hmem, hname⟩ := EditScript.Scheme.lookup_eq_some hlook
        exact ⟨d, hmem, hname, of_decide_eq_true h⟩
    · rintro ⟨d, hd, rfl, htag⟩
      have hlook := EditScript.Scheme.lookup_key (S := nwiScheme) (hk.nodup af) hd
      rw [nwiScheme_key] at hlook
      rw [entries, hlook]
      exact decide_eq_true htag
  rw [nwiStateIfstateHasChanged]
  constructor
  · intro h
    split at h
    · next h4 => exact ⟨.inet, (hany .inet).mp h4⟩
    · split at h
      · next h6 => exact ⟨.inet6, (hany .inet6).mp h6⟩
      · cases h
  · rintro ⟨af, h⟩
    cases af with
    | inet => rw [if_pos ((hany .inet).mpr h)]
    | inet6 =>
      split
      · rfl
      · rw [if_pos ((hany .inet6).mpr h)]

/-- The generation an entry is given. -/
def newGeneration (old : Option NwiState) (changes : NwiState) (g : BitVec 64)
    (af : AddressFamily) (name : CString) : BitVec 64 :=
  if nwiStateIfstateHasChanged changes name then g
  else ((nwiStateFindIfstate old af name).map (·.ifGenerationCount)).getD 0

/-- An entry given its generation. -/
def withNewGeneration (old : Option NwiState) (changes : NwiState) (g : BitVec 64)
    (af : AddressFamily) (e : NwiIfstate) : NwiIfstate :=
  nwiIfstateSetGeneration (newGeneration old changes g af e.ifname) e

/-- One turn, when its assertion holds. -/
theorem updateGeneration_eq {p : Nat} (hp : t.ifstate p = e)
    (hpresent : nwiStateIfstateHasChanged changes e.ifname = false →
      ∃ o, nwiStateFindIfstate old af e.ifname = some o) :
    nwiStateUpdateGeneration old changes g af t p =
      some (t.modify p (withNewGeneration old changes g af)) := by
  rw [modify_eq_const t p (withNewGeneration _ _ _ _), nwiStateUpdateGeneration, hp,
    withNewGeneration, newGeneration]
  cases hchanged : nwiStateIfstateHasChanged changes e.ifname with
  | true => rw [if_pos rfl, if_pos rfl, modify_eq_const, hp]
  | false =>
    obtain ⟨o, ho⟩ := hpresent hchanged
    simp only [ho, Bool.false_eq_true, if_false, Option.map_some, Option.getD_some]
    rw [modify_eq_const, hp]

/-- Both loops, when their assertions hold and no IPv6 entry has the new generation yet. -/
theorem updateInterfaceGenerations_eq (hcap : t.Capacity)
    (hpresent : ∀ af, ∀ e ∈ t.live af, nwiStateIfstateHasChanged changes e.ifname = false →
      ∃ o, nwiStateFindIfstate old af e.ifname = some o)
    (hold : ∀ e ∈ t.live .inet6, e.ifGenerationCount ≠ t.generationCount) :
    ∃ t', nwiStateUpdateInterfaceGenerations old (some t) (some changes) = some (some t') ∧
      t'.Capacity ∧ t'.generationCount = t.generationCount ∧
      ∀ af, t'.live af =
        (t.live af).map (withNewGeneration old changes t.generationCount af) := by
  obtain ⟨t₄, ht₄⟩ : ∃ t₄, t₄ = forEachIfstate t .inet
      (withNewGeneration old changes t.generationCount .inet) (t.count .inet) := ⟨_, rfl⟩
  have hcap₄ : t₄.Capacity := by
    rw [ht₄]
    exact capacity_forEachIfstate hcap
  have hlive₄ : t₄.live .inet =
      (t.live .inet).map (withNewGeneration old changes t.generationCount .inet) := by
    rw [ht₄]
    exact live_forEachIfstate_self
  have hlive₆ : t₄.live .inet6 = t.live .inet6 := by
    rw [ht₄]
    exact live_forEachIfstate_other hcap (hcap .inet)
  have hgen : ∀ (u : NwiState) af f n,
      (forEachIfstate u af f n).generationCount = u.generationCount := by
    intro u af f n
    induction n with
    | zero => rfl
    | succ n ih => exact ih
  -- the two loops, each as a pass over the entries of one family
  have hloop₄ := foldlM_eq_forEach (s := t)
    (f := withNewGeneration old changes t.generationCount .inet)
    (fun u i (hi : i < t.count .inet) _ hread => updateGeneration_eq hread
      (hpresent .inet _ (List.mem_of_getElem? (getElem?_live_of_lt hcap hi)))) hcap _ le_rfl
  have hloop₆ := foldlM_eq_forEach (s := t₄)
    (g := nwiStateUpdateGeneration6 old changes t.generationCount)
    (f := withNewGeneration old changes t.generationCount .inet6) (by
      intro u i (hi : i < t₄.count .inet6) _ hread
      have hmem := List.mem_of_getElem? (getElem?_live_of_lt hcap₄ hi)
      rw [hlive₆] at hmem
      rw [nwiStateUpdateGeneration6, hread, if_neg (hold _ hmem)]
      exact updateGeneration_eq hread (hpresent .inet6 _ hmem)) hcap₄ _ le_rfl
  refine ⟨forEachIfstate t₄ .inet6 (withNewGeneration old changes t.generationCount .inet6)
    t₄.ipv6Count, ?_, capacity_forEachIfstate hcap₄, ?_, fun af => ?_⟩
  · rw [← ht₄] at hloop₄
    simp only [nwiStateUpdateInterfaceGenerations]
    rw [show (List.range t.ipv4Count).foldlM _ t = some t₄ from hloop₄]
    exact congrArg (fun o => o.bind fun u => some (some u)) hloop₆
  · rw [hgen, ht₄, hgen]
  · cases af with
    | inet => exact (live_forEachIfstate_other hcap₄ (hcap₄ .inet6)).trans hlive₄
    | inet6 =>
      refine live_forEachIfstate_self.trans ?_
      rw [hlive₆]

/-- An entry the difference calls unchanged has its name in the old state, in its family. -/
theorem exists_of_not_tagged {d : NwiState} (hs : s.Keyed) (ht : t.Keyed)
    (hlive : ∀ af, d.live af = nwiScheme.script (s.live af) (t.live af)) (he : e ∈ t.live af)
    (hnot : ¬ Tagged (some d) e.ifname) :
    ∃ o ∈ s.live af, o.ifname = e.ifname ∧
      nwiStateFindIfstate (some s) af e.ifname = some o := by
  have hkn : KeyedOrNull (some s) := fun u hu => by
    obtain rfl := Option.some.inj hu
    exact hs
  have hfind : (nwiScheme.script (s.live af) (t.live af)).find? _ = _ :=
    EditScript.Scheme.find?_script_of_mem (ht.nodup af) he
  have hmem : nwiScheme.mark (nwiScheme.lookup (s.live af) e.ifname) e ∈ d.live af := by
    rw [hlive]
    exact List.mem_of_find?_eq_some hfind
  rw [nwiScheme_mark] at hmem
  have htag : nwiIfstateGetDiff (nwiIfstateSetDiff
      (NwiIfstate.diffOf (nwiScheme.lookup (s.live af) e.ifname) e) e) = nwiIfstateDiffUnchanged := by
    by_contra hne
    exact hnot ⟨af, _, hmem, NwiIfstate.setDiff_ifname, hne⟩
  rw [NwiIfstate.getDiff_setDiff (NwiIfstate.diffOf_lt _ e)] at htag
  cases hlook : nwiScheme.lookup (s.live af) e.ifname with
  | none =>
    rw [hlook, NwiIfstate.diffOf] at htag
    cases htag
  | some o =>
    obtain ⟨ho, hname⟩ := EditScript.Scheme.lookup_eq_some hlook
    exact ⟨o, ho, hname, by rw [nwiStateFindIfstate_eq hkn, entries, hlook]⟩

/-- A state without entries is left as it is. -/
theorem updateInterfaceGenerations_of_nil (ht : t.Capacity) (hnil : ∀ af, t.live af = [])
    (old changes : Option NwiState) :
    nwiStateUpdateInterfaceGenerations old (some t) changes = some (some t) := by
  have hcount : ∀ af, t.count af = 0 := fun af => by rw [← length_live ht, hnil, List.length_nil]
  have h4 : t.ipv4Count = 0 := hcount .inet
  have h6 : t.ipv6Count = 0 := hcount .inet6
  cases changes with
  | none => rfl
  | some c =>
    simp only [nwiStateUpdateInterfaceGenerations, h4, List.range_zero, List.foldlM_nil]
    simp [h6]

end NwiState

open NwiState in
/-- One update: its assertions hold, and it gives the new state its generations. -/
theorem updateInterfaceGenerations_step {s t : NwiState} (hs : s.Keyed)
    (hsame : SameGenerations s) (ht : t.Keyed)
    (hzero : ∀ af, ∀ e ∈ t.live af, e.ifGenerationCount = 0) (hg : t.generationCount ≠ 0) :
    ∃ t', nwiStateUpdateInterfaceGenerations (some s) (some t) (nwiStateDiff (some s) (some t)) =
      some (some t') ∧ GenerationStep s t t' := by
  have hks : KeyedOrNull (some s) := fun u hu => Option.some.inj hu ▸ hs
  have hkt : KeyedOrNull (some t) := fun u hu => Option.some.inj hu ▸ ht
  by_cases hne : ∃ af, entries (some s) af ≠ [] ∨ entries (some t) af ≠ []
  · obtain ⟨d, hd, hcap, -, hlive⟩ := nwiStateDiff_spec hks hkt hne
    have hkd : d.Keyed := nwiStateDiff_keyed hks hkt hcap hlive
    have hchanged : ∀ name, nwiStateIfstateHasChanged d name = true ↔ Tagged (some d) name :=
      fun name => ifstateHasChanged_iff hkd
    have hpresent : ∀ af, ∀ e ∈ t.live af, nwiStateIfstateHasChanged d e.ifname = false →
        ∃ o ∈ s.live af, o.ifname = e.ifname ∧
          nwiStateFindIfstate (some s) af e.ifname = some o := by
      intro af e he hfalse
      refine exists_of_not_tagged hs ht hlive he fun htag => ?_
      rw [(hchanged _).mpr htag] at hfalse
      cases hfalse
    obtain ⟨t', hupdate, hcap', hgen', hlive'⟩ := updateInterfaceGenerations_eq ht.capacity
      (fun af e he hfalse => by
        obtain ⟨o, -, -, ho⟩ := hpresent af e he hfalse
        exact ⟨o, ho⟩)
      (fun e he => by
        rw [hzero .inet6 e he]
        exact hg.symm)
    -- what each entry of the result is
    have hentry : ∀ af, ∀ e' ∈ t'.live af,
        (Tagged (some d) e'.ifname ∧ e'.ifGenerationCount = t'.generationCount) ∨
        (¬ Tagged (some d) e'.ifname ∧ ∃ o ∈ s.live af, o.ifname = e'.ifname ∧
          e'.ifGenerationCount = o.ifGenerationCount) := by
      intro af e' he'
      rw [hlive'] at he'
      obtain ⟨e, he, rfl⟩ := List.mem_map.mp he'
      simp only [withNewGeneration, newGeneration, nwiIfstateSetGeneration]
      cases hc : nwiStateIfstateHasChanged d e.ifname with
      | true => exact Or.inl ⟨(hchanged _).mp hc, by rw [if_pos rfl, hgen']⟩
      | false =>
        obtain ⟨o, ho, hname, hfind⟩ := hpresent af e he hc
        refine Or.inr ⟨fun htag => ?_, o, ho, hname, ?_⟩
        · rw [(hchanged _).mpr htag] at hc
          cases hc
        · rw [hfind]
          rfl
    refine ⟨t', hd ▸ hupdate, ⟨hgen', ⟨hcap', fun af e' he' => ?_, fun af => ?_⟩, fun af => ?_,
      fun name htag af e' he' hname => ?_, fun name hnot af e' he' hname => ?_,
      fun af e' he' af₁ e₁' he₁' hname => ?_⟩⟩
    · rw [hlive'] at he'
      obtain ⟨e, he, rfl⟩ := List.mem_map.mp he'
      exact ht.af_eq af e he
    · rw [names, hlive', List.map_map]
      exact ht.nodup af
    · rw [hlive', List.map_map]
      rfl
    · subst hname
      rw [hd] at htag
      obtain ⟨-, hgen⟩ | ⟨hnot, -⟩ := hentry af e' he'
      · exact hgen
      · exact absurd htag hnot
    · subst hname
      rw [hd] at hnot
      obtain ⟨htag, -⟩ | ⟨-, o, ho, hname, hgen⟩ := hentry af e' he'
      · exact absurd htag hnot
      · exact ⟨o, ho, hname, hgen⟩
    · -- both entries are tagged, or both come from entries that agree
      obtain ⟨htag, hgen⟩ | ⟨hnot, o, ho, hon, hgen⟩ := hentry af e' he'
      · obtain ⟨-, hgen₁⟩ | ⟨hnot₁, -⟩ := hentry af₁ e₁' he₁'
        · rw [hgen, hgen₁]
        · exact absurd (hname ▸ htag) hnot₁
      · obtain ⟨htag₁, -⟩ | ⟨-, o₁, ho₁, hon₁, hgen₁⟩ := hentry af₁ e₁' he₁'
        · exact absurd (hname ▸ htag₁) hnot
        · rw [hgen, hgen₁, hsame af o ho af₁ o₁ ho₁ (by rw [hon, hon₁, hname])]
  · have hnil : ∀ af, t.live af = [] := fun af => by
      by_contra h
      exact hne ⟨af, Or.inr h⟩
    have hmem : ∀ af, ∀ e ∈ t.live af, False := fun af e he => by
      rw [hnil] at he
      cases he
    exact ⟨t, updateInterfaceGenerations_of_nil ht.capacity hnil _ _, rfl, ht, fun _ => rfl,
      fun _ _ af e he _ => (hmem af e he).elim, fun _ _ af e he _ => (hmem af e he).elim,
      fun af e he => (hmem af e he).elim⟩

/-! ## Runs -/

/-- The states of a run: state `k + 1` is the rebuilt state `fresh k` with the generations that
follow on state `k`. A run ends where an assertion fails. -/
def generationRun (s₀ : NwiState) (fresh : Nat → NwiState) : Nat → Option NwiState
  | 0 => some s₀
  | k + 1 => do
    let s ← generationRun s₀ fresh k
    let t ← nwiStateUpdateInterfaceGenerations (some s) (some (fresh k))
      (nwiStateDiff (some s) (some (fresh k)))
    t

/-- Every state of a run exists, is keyed, and gives one generation to each name. -/
theorem generationRun_keyed {s₀ : NwiState} {fresh : Nat → NwiState} (hs₀ : s₀.Keyed)
    (hsame₀ : SameGenerations s₀) (hfresh : ∀ k, (fresh k).Keyed)
    (hzero : ∀ k af, ∀ e ∈ (fresh k).live af, e.ifGenerationCount = 0)
    (hgen : ∀ k, (fresh k).generationCount ≠ 0) (k : Nat) :
    ∃ s, generationRun s₀ fresh k = some s ∧ s.Keyed ∧ SameGenerations s := by
  induction k with
  | zero => exact ⟨s₀, rfl, hs₀, hsame₀⟩
  | succ k ih =>
    obtain ⟨s, hrun, hs, hsame⟩ := ih
    obtain ⟨t', hupdate, hstep⟩ :=
      updateInterfaceGenerations_step hs hsame (hfresh k) (hzero k) (hgen k)
    refine ⟨t', ?_, hstep.keyed, hstep.same⟩
    rw [generationRun, hrun]
    exact congrArg (fun o => o.bind fun t => t) hupdate

/-- **Generations over whole runs.** In every run of rebuilt states, each carrying a non-zero
generation, no assertion fails and each update is a `GenerationStep`. (That the generations of
the states increase plays no part.) -/
theorem generationRun_step {s₀ : NwiState} {fresh : Nat → NwiState} (hs₀ : s₀.Keyed)
    (hsame₀ : SameGenerations s₀) (hfresh : ∀ k, (fresh k).Keyed)
    (hzero : ∀ k af, ∀ e ∈ (fresh k).live af, e.ifGenerationCount = 0)
    (hgen : ∀ k, (fresh k).generationCount ≠ 0) (k : Nat) :
    ∃ s s', generationRun s₀ fresh k = some s ∧ generationRun s₀ fresh (k + 1) = some s' ∧
      GenerationStep s (fresh k) s' := by
  obtain ⟨s, hrun, hs, hsame⟩ := generationRun_keyed hs₀ hsame₀ hfresh hzero hgen k
  obtain ⟨t', hupdate, hstep⟩ :=
    updateInterfaceGenerations_step hs hsame (hfresh k) (hzero k) (hgen k)
  refine ⟨s, t', hrun, ?_, hstep⟩
  rw [generationRun, hrun]
  exact congrArg (fun o => o.bind fun t => t) hupdate

/-- The generations of a built state are 0, whatever the generation of the state is. -/
theorem BuildReachable.withGeneration {s : NwiState} (h : BuildReachable s) (g : BitVec 64) :
    { s with generationCount := g }.Keyed ∧
      ∀ af, ∀ e ∈ { s with generationCount := g }.live af, e.ifGenerationCount = 0 := by
  have hlive : ({ s with generationCount := g } : NwiState).live = s.live := by
    funext af
    cases af <;> rfl
  have hcount : ({ s with generationCount := g } : NwiState).count = s.count := by
    funext af
    cases af <;> rfl
  have hwf : ({ s with generationCount := g } : NwiState).WellFormed :=
    h.wellFormed.congr rfl rfl hcount
  refine ⟨hwf.toKeyed, fun af e he => ?_⟩
  rw [hlive] at he
  exact h.ifGenerationCount_eq_zero he

/-- A run that goes back and forth between two states. -/
theorem generationRun_step_stateAfter :
    let fresh := fun k : Nat => if k % 2 = 0 then { stateAfter with generationCount := 1 } else
      { stateBefore with generationCount := 2 }
    ∃ s s', generationRun stateBefore fresh 1 = some s ∧
      generationRun stateBefore fresh 2 = some s' ∧ GenerationStep s (fresh 1) s' := by
  intro fresh
  have hfresh : ∀ k, (fresh k).Keyed ∧ ∀ af, ∀ e ∈ (fresh k).live af, e.ifGenerationCount = 0 := by
    intro k
    dsimp only [fresh]
    split
    · exact buildReachable_stateAfter.withGeneration 1
    · exact buildReachable_stateBefore.withGeneration 2
  have hzero : ∀ af, ∀ e ∈ stateBefore.live af, e.ifGenerationCount = 0 := fun af e he =>
    buildReachable_stateBefore.ifGenerationCount_eq_zero he
  have hgen : ∀ k, (fresh k).generationCount ≠ 0 := by
    intro k
    dsimp only [fresh]
    split <;> decide
  refine generationRun_step buildReachable_stateBefore.wellFormed.toKeyed ?_
    (fun k => (hfresh k).1) (fun k => (hfresh k).2) hgen 1
  intro af e he af' e' he' _
  rw [hzero af e he, hzero af' e' he']

end ConfigdExtra
