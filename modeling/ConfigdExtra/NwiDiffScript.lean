import ConfigdExtra.NwiDiff
import ConfigdExtra.NwiReachable

/-!
# The difference of two states is an edit script

Each pass of `nwi_state_diff_populate` touches the list of one family and appends to it; the
lists of the two families are built on their own, and each comes out as the edit script
between the lists of that family.

* `NwiState.Extends`, `NwiState.Extends.foldl` — one pass over one family.
* `NwiState.extends_addChange`, `NwiState.extends_remove` — one turn of each kind of pass.
* `NwiState.nwiStateDiff_spec` — the passes compute the edit script of every family, inside
  the worst-case buffer.
* `nwiStateDiff_isDiff` — the same said entry by entry, with its consequences.
-/

namespace ConfigdExtra

/-! ## One pass -/

namespace NwiState

/-- The list of a family; the list of `NULL` is empty. -/
def entries (s : Option NwiState) (af : AddressFamily) : List NwiIfstate :=
  match s with
  | none => []
  | some s => s.live af

/-- `NULL`, or a state whose lists are tables. -/
def KeyedOrNull (s : Option NwiState) : Prop := ∀ t, s = some t → t.Keyed

variable {s s' s'' : NwiState} {old new : Option NwiState} {af : AddressFamily} {e : NwiIfstate}
  {l : List NwiIfstate} {f : NwiIfstate → NwiIfstate} {name : CString}

/-- The names of each family are keys. -/
theorem KeyedOrNull.nodup (h : KeyedOrNull old) (af : AddressFamily) :
    (nwiScheme.keys (entries old af)).Nodup := by
  cases old with
  | none => exact List.nodup_nil
  | some o => exact (h o rfl).nodup af

/-- The entries of a family are of that family. -/
theorem KeyedOrNull.af_eq (h : KeyedOrNull old) (he : e ∈ entries old af) : e.af = af := by
  cases old with
  | none => cases he
  | some o => exact (h o rfl).af_eq af e he

/-- The lookup in another state is the lookup in its table. -/
theorem nwiStateFindIfstate_eq (h : KeyedOrNull old) :
    nwiStateFindIfstate old af name = nwiScheme.lookup (entries old af) name := by
  cases old with
  | none => rfl
  | some o =>
    have hk := h o rfl
    simp only [nwiStateFindIfstate, Option.bind_some, nwiStateGetIfstateWithName_eq hk.capacity,
      entries]
    cases hidx : o.indexOf af name with
    | none =>
      exact (EditScript.Scheme.lookup_eq_none.mpr (indexOf_eq_none.mp hidx)).symm
    | some i =>
      have hget := getElem?_live_of_lt hk.capacity (lt_count_of_indexOf hk hidx)
      have hname := (indexOf_eq_some (hk.nodup af)).mp hidx
      rw [getElem?_names, hget] at hname
      have hkey := EditScript.Scheme.lookup_key (S := nwiScheme) (hk.nodup af)
        (List.mem_of_getElem? hget)
      obtain rfl := Option.some.inj hname
      exact hkey.symm

/-- `s'` is `s` with the list of one family replaced by `l`. -/
structure Extends (s s' : NwiState) (af : AddressFamily) (l : List NwiIfstate) : Prop where
  /-- the counts stay inside the halves -/
  capacity : s'.Capacity
  /-- the buffer is the same -/
  maxIfCount_eq : s'.maxIfCount = s.maxIfCount
  /-- the new list -/
  live_self : s'.live af = l
  /-- the other family is untouched -/
  live_other : s'.live (nwiOtherAf af) = s.live (nwiOtherAf af)

theorem Extends.refl (h : s.Capacity) : Extends s s af (s.live af) := ⟨h, rfl, rfl, rfl⟩

/-- What is appended to what was appended. -/
theorem Extends.trans {l' : List NwiIfstate} (h : Extends s s' af l) (h' : Extends s' s'' af l') :
    Extends s s'' af l' :=
  ⟨h'.capacity, h'.maxIfCount_eq.trans h.maxIfCount_eq, h'.live_self, h'.live_other.trans h.live_other⟩

/-- `nwi_state_diff_append` appends, and returns the new last slot. -/
theorem extends_append (hcap : s.Capacity) (hc : s.count af < s.maxIfCount) (he : e.af = af) :
    Extends s (nwiStateDiffAppend s e).1 af (s.live af ++ [e]) ∧
      (nwiStateDiffAppend s e).2 = (nwiStateDiffAppend s e).1.slot af (s.count af) := by
  subst he
  have hmax : (nwiStateDiffAppend s e).1.maxIfCount = s.maxIfCount := by
    rw [nwiStateDiffAppend, maxIfCount_setCount, maxIfCount_modify]
  refine ⟨⟨fun af' => ?_, hmax, live_push hc, ?_⟩, (slot_congr hmax).symm⟩
  · rw [hmax]
    rcases eq_or_eq_nwiOtherAf e.af af' with rfl | rfl
    · rw [nwiStateDiffAppend, count_setCount_self]
      exact hc
    · rw [nwiStateDiffAppend, count_setCount_other, count_modify]
      exact hcap _
  · rw [nwiStateDiffAppend, live_setCount_other, live_modify_other hcap hc]

/-- An entry appended and then written in place. -/
theorem extends_append_modify (hcap : s.Capacity) (hc : s.count af < s.maxIfCount)
    (he : e.af = af) :
    Extends s ((nwiStateDiffAppend s e).1.modify (nwiStateDiffAppend s e).2 f) af
      (s.live af ++ [f e]) := by
  obtain ⟨hext, hslot⟩ := extends_append hcap hc he
  refine ⟨capacity_modify hext.capacity, hext.maxIfCount_eq, ?_, ?_⟩
  · rw [hslot, live_modify_self, hext.live_self, ← length_live hcap, modify_length_concat]
  · rw [hslot, live_modify_other hext.capacity (by rwa [hext.maxIfCount_eq]), hext.live_other]

/-- The appended entry, read back. -/
theorem ifstate_append (hc : s.count af < s.maxIfCount) (he : e.af = af) :
    (nwiStateDiffAppend s e).1.ifstate (nwiStateDiffAppend s e).2 = e := by
  have hlt : s.slot af (s.count af) < s.ifstateList.length := slot_lt hc
  simp only [nwiStateDiffAppend, he, ifstate, ifstateList_setCount, List.getD_eq_getElem?_getD,
    getElem?_ifstateList_modify, if_true, List.getElem?_eq_getElem hlt, Option.map_some,
    Option.getD_some]

/-- `nwi_state_diff_add_change` is a turn of the pass over `new`. -/
theorem extends_addChange (hold : KeyedOrNull old) (hcap : s.Capacity)
    (hc : s.count af < s.maxIfCount) (he : e.af = af) :
    Extends s (nwiStateDiffAddChange old s e) af
      (nwiScheme.addPass (entries old af) (s.live af) e) := by
  have happend : ∀ d, Extends s
      ((nwiStateDiffAppend s e).1.modify (nwiStateDiffAppend s e).2 (nwiIfstateSetDiff d)) af
      (s.live af ++ [nwiIfstateSetDiff d e]) := fun d => extends_append_modify hcap hc he
  simp only [nwiStateDiffAddChange, nwiStateFindIfstate_eq hold, he, ifstate_append hc he,
    EditScript.Scheme.addPass, nwiScheme_key, nwiScheme_mark]
  cases hlook : nwiScheme.lookup (entries old af) e.ifname with
  | none => exact happend _
  | some o =>
    obtain ⟨ho, -⟩ := EditScript.Scheme.lookup_eq_some hlook
    have haf : o.af = e.af := by rw [hold.af_eq ho, he]
    simp only [NwiIfstate.hasChanged_iff haf, NwiIfstate.diffOf]
    split_ifs
    · exact happend _
    · exact happend _
    · exact happend _
    · exact happend _

/-- `nwi_state_diff_remove` is a turn of the pass over `old`. -/
theorem extends_remove (hcap : s.Capacity) (hc : s.count af < s.maxIfCount) (he : e.af = af) :
    Extends s (nwiStateDiffRemove s e) af (nwiScheme.gonePass (s.live af) e) := by
  have hmem : (s.indexOf af e.ifname).isSome = true ↔ e.ifname ∈ (s.live af).map (·.ifname) := by
    rw [← Option.ne_none_iff_isSome, ne_eq, indexOf_eq_none, not_not, names]
  simp only [nwiStateDiffRemove, he, nwiStateGetIfstateWithName_eq hcap, Option.isSome_map]
  rw [EditScript.Scheme.gonePass, nwiScheme_key, nwiScheme_keyOf, nwiScheme_markGone]
  by_cases hin : e.ifname ∈ (s.live af).map (·.ifname)
  · rw [if_pos (hmem.mpr hin), if_pos hin]
    exact Extends.refl hcap
  · rw [if_neg (mt hmem.mp hin), if_neg hin]
    exact extends_append_modify hcap hc he

/-- A loop whose turns each extend one family by at most one entry, over no more entries than
there is room for. -/
theorem Extends.foldl {body : NwiState → NwiIfstate → NwiState}
    {pass : List NwiIfstate → NwiIfstate → List NwiIfstate}
    (hbody : ∀ s e, s.Capacity → s.count af < s.maxIfCount → e.af = af →
      Extends s (body s e) af (pass (s.live af) e))
    (hpass : ∀ acc e, (pass acc e).length ≤ acc.length + 1) :
    ∀ (l : List NwiIfstate) (s : NwiState), s.Capacity → (∀ e ∈ l, e.af = af) →
      s.count af + l.length ≤ s.maxIfCount →
      Extends s (l.foldl body s) af (l.foldl pass (s.live af)) := by
  intro l
  induction l with
  | nil => exact fun s hcap _ _ => Extends.refl hcap
  | cons e l ih =>
    intro s hcap haf hroom
    rw [List.length_cons] at hroom
    have hstep := hbody s e hcap (by omega) (haf e List.mem_cons_self)
    have hlen := hpass (s.live af) e
    rw [← hstep.live_self, length_live hstep.capacity, length_live hcap] at hlen
    have hrest := ih (body s e) hstep.capacity (fun a ha => haf a (List.mem_cons_of_mem _ ha)) (by
      rw [hstep.maxIfCount_eq]
      omega)
    rw [hstep.live_self] at hrest
    exact hstep.trans hrest

/-- The list of a family, slot by slot. -/
theorem live_eq_map (hcap : s.Capacity) (af : AddressFamily) :
    s.live af = (List.range (s.count af)).map fun i => s.ifstate (s.slot af i) := by
  apply List.ext_getElem?
  intro i
  rw [List.getElem?_map]
  rcases lt_or_ge i (s.count af) with hi | hi
  · rw [getElem?_live_of_lt hcap hi, List.getElem?_range hi, Option.map_some]
  · rw [List.getElem?_eq_none (by rwa [length_live hcap]), List.getElem?_eq_none (by simpa),
      Option.map_none]

/-- A loop over slots is a loop over the list. -/
theorem forEachScan_eq (hcap : s.Capacity) (body : NwiState → NwiIfstate → NwiState)
    (diff : NwiState) : forEachScan s af body diff = (s.live af).foldl body diff := by
  rw [forEachScan, live_eq_map hcap, List.foldl_map]

/-! ## The whole diff -/

/-- The passes over both families of `new`, or none. -/
def addPasses (diff : NwiState) (old new : Option NwiState) : NwiState :=
  let diff := (entries new .inet).foldl (nwiStateDiffAddChange old) diff
  (entries new .inet6).foldl (nwiStateDiffAddChange old) diff

/-- The passes over both families of `old`, or none. -/
def gonePasses (diff : NwiState) (old : Option NwiState) : NwiState :=
  let diff := (entries old .inet).foldl nwiStateDiffRemove diff
  (entries old .inet6).foldl nwiStateDiffRemove diff

/-- The difference is made in two passes: what is new or kept, and what is gone. -/
theorem nwiStateDiffPopulate_eq (hold : KeyedOrNull old) (hnew : KeyedOrNull new)
    (diff : NwiState) :
    nwiStateDiffPopulate diff old new = gonePasses (addPasses diff old new) old := by
  have hscan : ∀ (t : Option NwiState), KeyedOrNull t →
      ∀ (body : NwiState → NwiIfstate → NwiState) (d : NwiState),
        (match t with
          | none => d
          | some t => forEachScan t .inet6 body (forEachScan t .inet body d)) =
        (entries t .inet6).foldl body ((entries t .inet).foldl body d) := by
    intro t ht body d
    cases t with
    | none => rfl
    | some t =>
      have hcap := (ht t rfl).capacity
      simp only [forEachScan_eq hcap]
      rfl
  refine Eq.trans ?_ (hscan old hold nwiStateDiffRemove (addPasses diff old new))
  have hadd := hscan new hnew (nwiStateDiffAddChange old) diff
  rw [addPasses, ← hadd]
  rfl

/-- A pair of passes, one over each family, changes each list on its own. -/
theorem extends_pair {body : NwiState → NwiIfstate → NwiState}
    {pass : AddressFamily → List NwiIfstate → NwiIfstate → List NwiIfstate}
    {src : AddressFamily → List NwiIfstate}
    (hbody : ∀ af s e, s.Capacity → s.count af < s.maxIfCount → e.af = af →
      Extends s (body s e) af (pass af (s.live af) e))
    (hpass : ∀ af acc e, (pass af acc e).length ≤ acc.length + 1)
    (hsrc : ∀ af, ∀ e ∈ src af, e.af = af) (hcap : s.Capacity)
    (hroom : ∀ af, s.count af + (src af).length ≤ s.maxIfCount) :
    let t := (src .inet6).foldl body ((src .inet).foldl body s)
    t.Capacity ∧ t.maxIfCount = s.maxIfCount ∧
      ∀ af, t.live af = (src af).foldl (pass af) (s.live af) := by
  have h4 := Extends.foldl (hbody .inet) (hpass .inet) (src .inet) s hcap (hsrc .inet) (hroom .inet)
  have hlive6 := h4.live_other
  simp only [nwiOtherAf] at hlive6
  have hroom6 : ((src .inet).foldl body s).count .inet6 + (src .inet6).length ≤
      ((src .inet).foldl body s).maxIfCount := by
    have hlen := congrArg List.length hlive6
    rw [length_live h4.capacity, length_live hcap] at hlen
    rw [hlen, h4.maxIfCount_eq]
    exact hroom .inet6
  have h6 := Extends.foldl (hbody .inet6) (hpass .inet6) (src .inet6) _ h4.capacity (hsrc .inet6)
    hroom6
  have hlive4 := h6.live_other
  simp only [nwiOtherAf] at hlive4
  refine ⟨h6.capacity, h6.maxIfCount_eq.trans h4.maxIfCount_eq, fun af => ?_⟩
  cases af with
  | inet => rw [hlive4, h4.live_self]
  | inet6 => rw [h6.live_self, hlive6]

theorem KeyedOrNull.length_entries_le (h : KeyedOrNull old) (af : AddressFamily) :
    (entries old af).length ≤ nwiStateDiffCount old := by
  cases old with
  | none => exact le_refl 0
  | some o =>
    rw [entries, length_live (h o rfl).capacity, nwiStateDiffCount, nwiStateMaxAfCount]
    cases af <;> simp only [count] <;> split <;> omega

/-- The worst case: no family has more entries to append than the buffer has slots for it. -/
theorem length_entries_add_le (hold : KeyedOrNull old) (hnew : KeyedOrNull new)
    (af : AddressFamily) :
    (entries new af).length + (entries old af).length ≤
      nwiStateDiffCount old + nwiStateDiffCount new := by
  rw [Nat.add_comm]
  exact Nat.add_le_add (hold.length_entries_le af) (hnew.length_entries_le af)

theorem live_alloc (total : Nat) (af : AddressFamily) : (nwiStateAlloc total).live af = [] := by
  cases af <;> simp [live, count, nwiStateAlloc]

theorem count_alloc (total : Nat) (af : AddressFamily) : (nwiStateAlloc total).count af = 0 := by
  cases af <;> rfl

theorem capacity_alloc (total : Nat) : (nwiStateAlloc total).Capacity := fun af => by
  rw [count_alloc]
  exact Nat.zero_le _

/-- The passes over `new` list its entries, marked. -/
theorem addPasses_spec {total : Nat} (hold : KeyedOrNull old) (hnew : KeyedOrNull new)
    (hroom : ∀ af, (entries new af).length + (entries old af).length ≤ total) :
    (addPasses (nwiStateAlloc total) old new).Capacity ∧
      (addPasses (nwiStateAlloc total) old new).maxIfCount = total ∧
      ∀ af, (addPasses (nwiStateAlloc total) old new).live af =
        nwiScheme.marked (entries old af) (entries new af) := by
  have hadd : (addPasses (nwiStateAlloc total) old new).Capacity ∧
      (addPasses (nwiStateAlloc total) old new).maxIfCount = total ∧
      ∀ af, (addPasses (nwiStateAlloc total) old new).live af =
        (entries new af).foldl (nwiScheme.addPass (entries old af)) ((nwiStateAlloc total).live af) := by
    refine extends_pair (fun af s e => extends_addChange hold) (fun af acc e => ?_)
      (fun af e he => hnew.af_eq he) (capacity_alloc total) fun af => ?_
    · rw [EditScript.Scheme.addPass, List.length_append, List.length_singleton]
    · rw [count_alloc, Nat.zero_add]
      exact le_trans (Nat.le_add_right _ _) (hroom af)
  obtain ⟨hcap, hmax, hlive⟩ := hadd
  refine ⟨hcap, hmax, fun af => ?_⟩
  rw [hlive, EditScript.Scheme.foldl_addPass, live_alloc, List.nil_append]

/-- Behind the passes over `new`, there is room for every entry of `old`. -/
theorem count_addPasses_add_le {total : Nat} (hold : KeyedOrNull old) (hnew : KeyedOrNull new)
    (hroom : ∀ af, (entries new af).length + (entries old af).length ≤ total)
    (af : AddressFamily) :
    (addPasses (nwiStateAlloc total) old new).count af + (entries old af).length ≤
      (addPasses (nwiStateAlloc total) old new).maxIfCount := by
  obtain ⟨hcap, hmax, hlive⟩ := addPasses_spec hold hnew hroom
  rw [← length_live hcap, hlive, EditScript.Scheme.marked, List.length_map, hmax]
  exact hroom af

/-- The passes compute the edit script of every family, in a buffer of the worst case. -/
theorem nwiStateDiff_spec (hold : KeyedOrNull old) (hnew : KeyedOrNull new)
    (hne : ∃ af, entries old af ≠ [] ∨ entries new af ≠ []) :
    ∃ d, nwiStateDiff old new = some d ∧ d.Capacity ∧
      d.maxIfCount = nwiStateDiffCount old + nwiStateDiffCount new ∧
      ∀ af, d.live af = nwiScheme.script (entries old af) (entries new af) := by
  obtain ⟨total, htotal⟩ : ∃ total, total = nwiStateDiffCount old + nwiStateDiffCount new :=
    ⟨_, rfl⟩
  have hroom : ∀ af, (entries new af).length + (entries old af).length ≤ total := fun af =>
    htotal ▸ length_entries_add_le hold hnew af
  have hpos : total ≠ 0 := by
    obtain ⟨af, hlist | hlist⟩ := hne
    · have := List.length_pos_iff.mpr hlist
      have := hroom af
      omega
    · have := List.length_pos_iff.mpr hlist
      have := hroom af
      omega
  obtain ⟨hcapAdd, hmaxAdd, hliveAdd⟩ := addPasses_spec hold hnew hroom
  have hgone : (gonePasses (addPasses (nwiStateAlloc total) old new) old).Capacity ∧
      (gonePasses (addPasses (nwiStateAlloc total) old new) old).maxIfCount =
        (addPasses (nwiStateAlloc total) old new).maxIfCount ∧
      ∀ af, (gonePasses (addPasses (nwiStateAlloc total) old new) old).live af =
        (entries old af).foldl nwiScheme.gonePass
          ((addPasses (nwiStateAlloc total) old new).live af) := by
    refine extends_pair (fun af s e => extends_remove) (fun af acc e => ?_)
      (fun af e he => hold.af_eq he) hcapAdd (count_addPasses_add_le hold hnew hroom)
    rw [EditScript.Scheme.gonePass]
    split <;> simp
  obtain ⟨hcapGone, hmaxGone, hliveGone⟩ := hgone
  refine ⟨gonePasses (addPasses (nwiStateAlloc total) old new) old, ?_, hcapGone, ?_,
    fun af => ?_⟩
  · simp only [nwiStateDiff]
    rw [← htotal, if_neg hpos, nwiStateNew, if_neg hpos, Option.map_some,
      nwiStateDiffPopulate_eq hold hnew]
  · rw [hmaxGone, hmaxAdd, htotal]
  · rw [hliveGone, hliveAdd, EditScript.Scheme.passes_eq_script (hold.nodup af)]

/-- A difference is keyed by name like the states it compares. -/
theorem nwiStateDiff_keyed (hold : KeyedOrNull old) (hnew : KeyedOrNull new) {d : NwiState}
    (hcap : d.Capacity)
    (hlive : ∀ af, d.live af = nwiScheme.script (entries old af) (entries new af)) : d.Keyed where
  capacity := hcap
  af_eq af e he := by
    rw [hlive, EditScript.Scheme.script] at he
    rcases List.mem_append.mp he with hmark | hgone
    · obtain ⟨e₀, he₀, rfl⟩ := List.mem_map.mp hmark
      rw [nwiScheme_mark, NwiIfstate.setDiff_af, hnew.af_eq he₀]
    · obtain ⟨e₀, he₀, rfl⟩ := List.mem_map.mp hgone
      rw [nwiScheme_markGone, NwiIfstate.setDiff_af,
        hold.af_eq (EditScript.Scheme.mem_gone.mp he₀).1]
  nodup af := by
    rw [names, hlive]
    exact EditScript.Scheme.nodup_keys_script (S := nwiScheme) (hold.nodup af) (hnew.nodup af)

end NwiState

/-! ## The difference, entry by entry -/

/-- `diff` is the edit script from the list `old` to the list `new` of one family. -/
structure IsDiff (old new diff : List NwiIfstate) : Prop where
  /-- the entries of `new` in order, tagged by comparison, then those of `old` that are gone -/
  eq_append : diff =
    (new.map fun e =>
      nwiIfstateSetDiff (NwiIfstate.diffOf (old.find? fun o => o.ifname = e.ifname) e) e) ++
    (old.filter fun o => o.ifname ∉ new.map (·.ifname)).map (nwiIfstateSetDiff nwiIfstateDiffRemoved)
  /-- an entry of `new` is copied with its name, address, rank and preserved flags -/
  copied : ∀ (i : Nat) (e : NwiIfstate), new[i]? = some e → ∃ d, diff[i]? = some d ∧ d.ifname = e.ifname ∧
    d.af = e.af ∧ d.address = e.address ∧ d.rank = e.rank ∧
    nwiIfstateFlags d.flags = nwiIfstateFlags e.flags ∧
    nwiIfstateGetDiff d = NwiIfstate.diffOf (old.find? fun o => o.ifname = e.ifname) e
  /-- what stands behind the entries of `new` is tagged as removed -/
  removed : ∀ d ∈ diff.drop new.length, nwiIfstateGetDiff d = nwiIfstateDiffRemoved
  /-- names are distinct -/
  nodup : (diff.map (·.ifname)).Nodup
  /-- without the removed entries and the diff bits, it is `new` without diff bits -/
  recover : (diff.filter fun d => nwiIfstateGetDiff d ≠ nwiIfstateDiffRemoved).map
      (nwiIfstateSetDiff nwiIfstateDiffUnchanged) =
    new.map (nwiIfstateSetDiff nwiIfstateDiffUnchanged)
  /-- which is `new` itself unless `new` carries diff bits of its own -/
  recover_eq : (∀ e ∈ new, nwiIfstateGetDiff e = nwiIfstateDiffUnchanged) →
    (diff.filter fun d => nwiIfstateGetDiff d ≠ nwiIfstateDiffRemoved).map
      (nwiIfstateSetDiff nwiIfstateDiffUnchanged) = new

/-- A script is a difference, if the names are unique in both lists. -/
theorem isDiff_script {old new : List NwiIfstate} (hold : (old.map (·.ifname)).Nodup)
    (hnew : (new.map (·.ifname)).Nodup) : IsDiff old new (nwiScheme.script old new) := by
  have hget : ∀ (o : Option NwiIfstate) (e : NwiIfstate),
      nwiIfstateGetDiff (nwiScheme.mark o e) = NwiIfstate.diffOf o e :=
    fun o e => NwiIfstate.getDiff_setDiff (NwiIfstate.diffOf_lt o e)
  have hgone : ∀ e, nwiIfstateGetDiff (nwiScheme.markGone e) = nwiIfstateDiffRemoved :=
    fun e => NwiIfstate.getDiff_setDiff (by decide)
  have hlen : (nwiScheme.marked old new).length = new.length := List.length_map _
  have hrecover : ((nwiScheme.script old new).filter
      fun d => nwiIfstateGetDiff d ≠ nwiIfstateDiffRemoved).map
      (nwiIfstateSetDiff nwiIfstateDiffUnchanged) =
      new.map (nwiIfstateSetDiff nwiIfstateDiffUnchanged) := by
    have hfilter : (nwiScheme.script old new).filter
        (fun d => !decide (nwiIfstateGetDiff d = nwiIfstateDiffRemoved)) = nwiScheme.marked old new :=
      EditScript.Scheme.filter_script (fun o e => by
        rw [hget]
        exact decide_eq_false (NwiIfstate.diffOf_ne_removed o e))
      (fun e => by
        rw [hgone]
        exact decide_eq_true rfl)
    simp only [ne_eq, decide_not]
    rw [hfilter, EditScript.Scheme.marked, List.map_map]
    exact List.map_congr_left fun e _ => NwiIfstate.clearDiff_setDiff
  refine ⟨?_, fun i e he => ?_, fun d hd => ?_,
    EditScript.Scheme.nodup_keys_script (S := nwiScheme) hold hnew,
    hrecover, fun hclear => ?_⟩
  · rw [EditScript.Scheme.script, EditScript.Scheme.marked, EditScript.Scheme.gone]
    congr 1
    refine congrArg (List.map _) (List.filter_congr fun o _ => ?_)
    exact decide_eq_decide.mpr Iff.rfl
  · refine ⟨nwiScheme.mark (nwiScheme.lookup old e.ifname) e, ?_, NwiIfstate.setDiff_ifname,
      NwiIfstate.setDiff_af, NwiIfstate.setDiff_address, NwiIfstate.setDiff_rank,
      NwiIfstate.nwiIfstateFlags_setDiff, hget _ e⟩
    obtain ⟨hlt, -⟩ := List.getElem?_eq_some_iff.mp he
    rw [EditScript.Scheme.script, List.getElem?_append_left (hlen ▸ hlt),
      EditScript.Scheme.marked, List.getElem?_map, he]
    rfl
  · rw [EditScript.Scheme.script, ← hlen, List.drop_left] at hd
    obtain ⟨o, -, rfl⟩ := List.mem_map.mp hd
    exact hgone o
  · rw [hrecover]
    exact (List.map_congr_left fun e he => NwiIfstate.clearDiff_eq_self (hclear e he)).trans
      (List.map_id new)

open NwiState in
/-- **The difference of two states** is the edit script between their lists, for each
family. Either state may be `NULL`. -/
theorem nwiStateDiff_isDiff {old new : Option NwiState} (hold : KeyedOrNull old)
    (hnew : KeyedOrNull new) (hne : ∃ af, entries old af ≠ [] ∨ entries new af ≠ []) :
    ∃ d, nwiStateDiff old new = some d ∧
      ∀ af, IsDiff (entries old af) (entries new af) (d.live af) := by
  obtain ⟨d, hd, -, -, hlive⟩ := nwiStateDiff_spec hold hnew hne
  refine ⟨d, hd, fun af => ?_⟩
  rw [hlive]
  exact isDiff_script (hold.nodup af) (hnew.nodup af)

/-- A builder leaves the diff bits clear, so a built `new` is recovered from its diff. -/
theorem BuildReachable.getDiff_eq_unchanged {s : NwiState} (h : BuildReachable s)
    {af : AddressFamily} {e : NwiIfstate} (he : e ∈ s.live af) :
    nwiIfstateGetDiff e = nwiIfstateDiffUnchanged := by
  have hkept : KeptByBuild fun e => nwiIfstateGetDiff e = nwiIfstateDiffUnchanged := by
    refine ⟨fun ifname af => ?_, fun e h => ?_, fun _ _ h => h, fun d e h => ?_,
      fun af flags rank ifa vpn reach e h => ?_⟩
    · change nwiIfstateFlagsGetDiff (NwiIfstate.zero.flags ||| nwiIfstateFlagsLastItem) = _
      decide
    · have hmask : ~~~nwiIfstateFlagsLastItem &&& nwiIfstateFlagsDiffMask =
          nwiIfstateFlagsDiffMask := by decide
      rw [nwiIfstateGetDiff, nwiIfstateFlagsGetDiff, NwiIfstate.clearLastItem, BitVec.and_assoc,
        hmask]
      exact h
    · rw [NwiIfstate.addOffset]
      split <;> exact h
    · have hmask : ~~~nwiIfstateFlagsMask &&& nwiIfstateFlagsDiffMask =
          nwiIfstateFlagsDiffMask := by decide
      have hzero : nwiIfstateFlagsMask &&& nwiIfstateFlagsDiffMask = 0#64 := by decide
      obtain ⟨addr, vpn', hupdate⟩ := NwiIfstate.update_eq af flags rank ifa vpn reach e
      rw [hupdate, nwiIfstateGetDiff, nwiIfstateFlagsGetDiff, nwiIfstateFlags,
        BitVec.and_or_distrib_right, BitVec.and_assoc, hmask, BitVec.and_assoc, hzero,
        BitVec.and_zero, BitVec.or_zero]
      exact h
  exact h.all hkept af e he

/-- A state with `en0` and `en1` on IPv4, and `en2` on IPv6. -/
def stateBefore : NwiState :=
  nwiStateOf 2 [⟨enName 0, .inet, 1, 1, ⟨1, 0⟩⟩, ⟨enName 1, .inet, 1, 2, ⟨2, 0⟩⟩,
    ⟨enName 2, .inet6, 1, 1, ⟨3, 0⟩⟩]

/-- The state after `en1` has become the first, `en0` has another address, `en3` has come, and
`en2` has gone. -/
def stateAfter : NwiState :=
  nwiStateOf 3 [⟨enName 1, .inet, 1, 1, ⟨2, 0⟩⟩, ⟨enName 0, .inet, 1, 2, ⟨4, 0⟩⟩,
    ⟨enName 3, .inet, 1, 3, ⟨5, 0⟩⟩]

theorem buildReachable_stateBefore : BuildReachable stateBefore :=
  buildReachable_nwiStateOf (by decide) (by decide)

theorem buildReachable_stateAfter : BuildReachable stateAfter :=
  buildReachable_nwiStateOf (by decide) (by decide)

theorem BuildReachable.keyedOrNull {s : NwiState} (h : BuildReachable s) :
    NwiState.KeyedOrNull (some s) := by
  intro t ht
  obtain rfl := Option.some.inj ht
  exact h.wellFormed.toKeyed

open NwiState in
/-- Entries of every kind, but for unchanged ones. The new lists are what is left of them. -/
theorem nwiStateDiff_isDiff_stateAfter :
    ∃ d, nwiStateDiff (some stateBefore) (some stateAfter) = some d ∧
      (∀ af, IsDiff (entries (some stateBefore) af) (entries (some stateAfter) af) (d.live af)) ∧
      ∀ af, ((d.live af).filter fun e => nwiIfstateGetDiff e ≠ nwiIfstateDiffRemoved).map
        (nwiIfstateSetDiff nwiIfstateDiffUnchanged) = stateAfter.live af := by
  obtain ⟨d, hd, hdiff⟩ := nwiStateDiff_isDiff buildReachable_stateBefore.keyedOrNull
    buildReachable_stateAfter.keyedOrNull ⟨.inet, Or.inr (by decide +kernel)⟩
  exact ⟨d, hd, hdiff, fun af => (hdiff af).recover_eq fun e he =>
    buildReachable_stateAfter.getDiff_eq_unchanged he⟩

example : (nwiStateDiff (some stateBefore) (some stateAfter)).map
    (fun d => ((d.live .inet).map nwiIfstateGetDiff, (d.live .inet6).map nwiIfstateGetDiff)) =
    some ([nwiIfstateDiffRankUp, nwiIfstateDiffChanged, nwiIfstateDiffAdded],
      [nwiIfstateDiffRemoved]) := by decide +kernel

end ConfigdExtra
