import ConfigdExtra.BondConverge

/-!
# When bond reconciliation is idempotent

A run whose calls all succeed leaves a kernel that depends on the configuration and on the
kernel before (`afterUpdate`); nothing is assumed of the member lists. Run again, the update
issues no `ioctl` exactly when no configured bond has to be reordered: a member that does not
support bonding is never added, but as the first one listed it makes the first devices differ
for ever.

* `membersAfter`, `afterUpdate` — what a run makes of one bond, and of the kernel.
* `update_run` — a run of the update, all calls granted.
* `update_only_socket`, `mem_granted_update` — a run on its own result.
* `bondInterfaceUpdateConfiguration_idempotent_iff` — two runs in a row.
-/

namespace ConfigdExtra

/-! ## What a run makes of a kernel -/

/-- The names of the listed members that can be added to a bond. -/
def supportedNames (interfaces : List BondMember) : List BsdName :=
  (interfaces.filter (·.supportsBond)).map (·.bsdName)

/-- Two lists of names that are not empty begin with different names. -/
def headsDiffer (names names' : List BsdName) : Bool :=
  match names, names' with
  | x :: _, y :: _ => x ≠ y
  | _, _ => false

/-- The members of a configured bond after a run, when `olds` were the active ones. -/
def membersAfter (c : SCBondInterface) (olds : List BsdName) : List BsdName :=
  if headsDiffer c.memberNames olds then
    supportedNames c.members
  else
    olds.filter (· ∈ c.memberNames) ++ (supportedNames c.members).filter (· ∉ olds)

/-- The members of a bond, none if it is not active. -/
def Kernel.olds (k : Kernel) (n : BsdName) : List BsdName := ((k n).map (·.members)).getD []

/-- The kernel after a run. -/
def afterUpdate (config : List SCBondInterface) (k : Kernel) : Kernel :=
  fun n => (config.find? fun c => n = c.bsdName).map fun c =>
    { mode := c.mode.getD ifBondModeLacp, members := membersAfter c (k.olds n) }

/-- No later run has to reorder the bond: it begins with the first listed member already, or no
listed member can be added, or the first one that can is the first one listed. -/
def Settles (c : SCBondInterface) (olds : List BsdName) : Prop :=
  olds.head? = c.memberNames.head? ∨ supportedNames c.members = [] ∨
    (supportedNames c.members).head? = c.memberNames.head?

variable {k : Kernel} {n : BsdName} {b : KernelBond} {v : UpdateLocals} {a c : SCBondInterface}
  {config : List SCBondInterface} {bonds : List (BsdName × KernelBond)}
  {supportsBond : BsdName → Bool} {names olds : List BsdName}

theorem supportedNames_subset {m : BsdName} (hm : m ∈ supportedNames c.members) :
    m ∈ c.memberNames := by
  obtain ⟨i, hi, rfl⟩ := List.mem_map.mp hm
  exact List.mem_map_of_mem (List.mem_of_mem_filter hi)

/-- Only listed members are left. -/
theorem membersAfter_subset {m : BsdName} (hm : m ∈ membersAfter c olds) : m ∈ c.memberNames := by
  rw [membersAfter] at hm
  split at hm
  · exact supportedNames_subset hm
  · rcases List.mem_append.mp hm with hm | hm
    · exact of_decide_eq_true (List.mem_filter.mp hm).2
    · exact supportedNames_subset (List.mem_of_mem_filter hm)

/-- All that can be added are there. -/
theorem mem_membersAfter {m : BsdName} (hm : m ∈ supportedNames c.members) :
    m ∈ membersAfter c olds := by
  rw [membersAfter]
  split
  · exact hm
  · by_cases hold : m ∈ olds
    · exact List.mem_append_left _
        (List.mem_filter.mpr ⟨hold, decide_eq_true (supportedNames_subset hm)⟩)
    · exact List.mem_append_right _ (List.mem_filter.mpr ⟨hm, decide_eq_true hold⟩)

/-- A list that is as configured stays as it is. -/
theorem membersAfter_self (h : c.memberNames = olds) : membersAfter c olds = olds := by
  subst h
  have hheads : headsDiffer c.memberNames c.memberNames = false := by
    cases c.memberNames with
    | nil => rfl
    | cons x l => exact decide_eq_false fun h => h rfl
  rw [membersAfter, if_neg (by rw [hheads]; exact Bool.noConfusion),
    List.filter_eq_self.mpr fun m hm => decide_eq_true hm,
    List.filter_eq_nil_iff.mpr fun m hm => by simpa using supportedNames_subset hm,
    List.append_nil]

/-- The first members are only compared where both lists have one. -/
theorem headsDiffer_eq_false_iff : headsDiffer names olds = false ↔
    names = [] ∨ olds = [] ∨ olds.head? = names.head? := by
  cases names with
  | nil => simp [headsDiffer]
  | cons x l =>
    cases olds with
    | nil => simp [headsDiffer]
    | cons y l' => simp [headsDiffer, @eq_comm _ y x]

/-- A bond settles when what a run leaves begins as listed. -/
theorem settles_iff : Settles c olds ↔ headsDiffer c.memberNames (membersAfter c olds) = false := by
  have hnil : c.memberNames = [] → supportedNames c.members = [] := by
    intro hnil
    rw [SCBondInterface.memberNames, List.map_eq_nil_iff] at hnil
    rw [hnil]
    rfl
  rw [headsDiffer_eq_false_iff, Settles, membersAfter]
  by_cases hdiffer : headsDiffer c.memberNames olds = true
  · rw [if_pos hdiffer]
    have hne : olds.head? ≠ c.memberNames.head? := by
      intro hhead
      rw [headsDiffer_eq_false_iff.mpr (Or.inr (Or.inr hhead))] at hdiffer
      cases hdiffer
    constructor
    · rintro (h | h)
      · exact absurd h hne
      · exact Or.inr h
    · rintro (h | h)
      · exact Or.inr (Or.inl (hnil h))
      · exact Or.inr h
  · rw [if_neg hdiffer]
    rcases headsDiffer_eq_false_iff.mp (Bool.not_eq_true _ ▸ hdiffer) with h | h | h
    · exact iff_of_true (Or.inr (Or.inl (hnil h))) (Or.inl h)
    · subst h
      have hall : (supportedNames c.members).filter (· ∉ ([] : List BsdName)) =
          supportedNames c.members := List.filter_eq_self.mpr fun m _ => by simp
      rw [List.filter_nil, List.nil_append, hall]
      constructor
      · rintro (h | h)
        · exact Or.inl (List.head?_eq_none_iff.mp h.symm)
        · exact Or.inr h
      · rintro (h | h)
        · exact Or.inr (Or.inl (hnil h))
        · exact Or.inr h
    · -- the first member is kept, and stays the first one
      refine iff_of_true (Or.inl h) ?_
      cases olds with
      | nil => exact Or.inl (List.head?_eq_none_iff.mp h.symm)
      | cons y l =>
        refine Or.inr (Or.inr ?_)
        have hy : y ∈ c.memberNames := List.mem_of_mem_head? (Option.mem_def.mpr h.symm)
        rw [List.filter_cons, if_pos (decide_eq_true hy)]
        exact h

/-! ## One run -/

open Calls

/-- The kernel as a machine whose calls succeed, with nothing asked of the states in between. -/
def grantingMachine : Machine Kernel BondCall :=
  { bondMachine with
    Inv := fun _ => True
    Allowed := fun _ _ => True }

/-- With every call granted, each part of the update does what it is for. -/
theorem run_openSocket : Ensures grantingMachine (openSocket v) (fun _ k' => k' = k) k := by
  rw [openSocket]
  split
  · exact ensures_ret trivial rfl
  · refine ensures_issue trivial trivial fun done hdone => ?_
    obtain rfl : done = true := hdone
    exact ensures_ret trivial rfl

theorem run_issue {call : BondCall} :
    Ensures grantingMachine (issue call) (fun done k' => done = true ∧ k' = bondApply k call) k := by
  refine ensures_issue (k := .ret) trivial trivial fun done hdone => ?_
  obtain rfl : done = true := hdone
  exact ensures_ret trivial ⟨rfl, rfl⟩

theorem run_issueOrFail {call : BondCall} :
    Ensures grantingMachine (issueOrFail v call) (fun _ k' => k' = bondApply k call) k := by
  rw [issueOrFail]
  refine ensures_bind run_issue ?_
  rintro done k' ⟨rfl, rfl⟩
  exact ensures_ret trivial rfl

theorem run_bondSetMode (hb : k n = some b) (mode : Option Int) :
    Ensures grantingMachine (bondSetMode n mode) (fun _ k' =>
      k' = Function.update k n (some { b with mode := mode.getD ifBondModeLacp })) k := by
  refine ensures_mono ?_ run_issue
  rintro done k' ⟨-, rfl⟩
  rw [bondApply, Kernel.modify, hb]
  rfl

/-- The first loop over the members of an active bond. -/
theorem run_removeIfVanished (hb : k n = some b) (ha : a.bsdName = n)
    (hmembers : a.memberNames = b.members) :
    Ensures grantingMachine (a.members.foldlM (removeIfVanished a c) v)
      (fun _ k' => k' = k.withMembers n b (b.members.filter (· ∈ c.memberNames))) k := by
  -- what is done is there no more unless it is configured
  have hloop := ensures_foldlM (M := grantingMachine) (g := removeIfVanished a c)
    (fun todo _ k' => ∃ done, a.members = done ++ todo ∧ k' = k.withMembers n b
      (b.members.filter fun m => m ∈ c.memberNames ∨ m ∉ done.map (·.bsdName)))
    (fun _ _ _ => trivial)
    (by
      rintro m todo v' k' ⟨done, hdone, rfl⟩
      have hnext : a.members = (done ++ [m]) ++ todo := by
        rw [hdone, List.append_assoc]
        rfl
      rw [removeIfVanished]
      split
      · next hgone =>
        have hnot : m.bsdName ∉ c.memberNames := bsdName_not_mem hgone
        refine ensures_bind run_openSocket ?_
        rintro v'' k'' rfl
        rw [ha]
        refine ensures_mono ?_ run_issueOrFail
        rintro v₃ k₃ rfl
        refine ⟨done ++ [m], hnext, ?_⟩
        rw [remove_withMembers, List.filter_filter]
        congr 1
        refine List.filter_congr fun x _ => ?_
        by_cases hx : x = m.bsdName
        · subst hx
          simp [hnot]
        · simp [hx]
      · next hkept =>
        have hin : m.bsdName ∈ c.memberNames := by
          by_contra hnot
          exact hkept (Or.inr (containsMember_eq_false.mpr hnot))
        refine ensures_ret trivial ⟨done ++ [m], hnext, ?_⟩
        congr 1
        refine List.filter_congr fun x _ => ?_
        by_cases hx : x = m.bsdName
        · subst hx
          simp [hin]
        · simp [hx])
  refine ensures_mono ?_ (hloop a.members v k ⟨[], rfl, ?_⟩)
  · rintro v' k' ⟨done, hdone, rfl⟩
    rw [List.append_nil] at hdone
    congr 1
    refine List.filter_congr fun x hx => ?_
    have hx' : x ∈ done.map (·.bsdName) := by
      rw [← hdone, ← SCBondInterface.memberNames, hmembers]
      exact hx
    simp only [hx', not_true_eq_false, or_false]
  · have hall : (b.members.filter fun m => m ∈ c.memberNames ∨ m ∉ ([] : List BondMember).map
        (·.bsdName)) = b.members := List.filter_eq_self.mpr fun m _ => by simp
    rw [hall, Kernel.withMembers_self hb]

/-- The second loop over the members of an active bond removes what the first one left. -/
theorem run_removeToReorder (ha : a.bsdName = n)
    (hb : k n = some { b with members := a.memberNames.filter (· ∈ c.memberNames) }) :
    Ensures grantingMachine (a.members.foldlM (removeToReorder a c) v)
      (fun _ k' => k' = k.withMembers n b []) k := by
  have hloop := ensures_foldlM (M := grantingMachine) (g := removeToReorder a c)
    (fun todo _ k' => ∃ done, a.members = done ++ todo ∧ k' = k.withMembers n b
      (a.memberNames.filter fun m => m ∈ c.memberNames ∧ m ∉ done.map (·.bsdName)))
    (fun _ _ _ => trivial)
    (by
      rintro m todo v' k' ⟨done, hdone, rfl⟩
      have hnext : a.members = (done ++ [m]) ++ todo := by
        rw [hdone, List.append_assoc]
        rfl
      rw [removeToReorder]
      split
      · next hgone =>
        have hnot : m.bsdName ∉ c.memberNames := containsMember_eq_false.mp hgone
        refine ensures_ret trivial ⟨done ++ [m], hnext, ?_⟩
        congr 1
        refine List.filter_congr fun x _ => ?_
        by_cases hx : x = m.bsdName
        · subst hx
          simp [hnot]
        · simp [hx]
      · rw [ha]
        refine ensures_mono ?_ run_issueOrFail
        rintro v₃ k₃ rfl
        refine ⟨done ++ [m], hnext, ?_⟩
        rw [remove_withMembers, List.filter_filter]
        congr 1
        refine List.filter_congr fun x _ => ?_
        by_cases hx : x = m.bsdName
        · subst hx
          simp
        · simp [hx])
  refine ensures_mono ?_ (hloop a.members v k ⟨[], rfl, ?_⟩)
  · rintro v' k' ⟨done, hdone, rfl⟩
    rw [List.append_nil] at hdone
    congr 1
    refine List.filter_eq_nil_iff.mpr fun x hx => ?_
    rw [SCBondInterface.memberNames, hdone] at hx
    simp only [hx, not_true_eq_false, and_false, decide_false, Bool.false_eq_true,
      not_false_eq_true]
  · have hall : (a.memberNames.filter fun m => m ∈ c.memberNames ∧ m ∉ ([] : List BondMember).map
        (·.bsdName)) = a.memberNames.filter (· ∈ c.memberNames) :=
      List.filter_congr fun m _ => by simp
    rw [hall, Kernel.withMembers, ← hb, Function.update_eq_self]

/-- The loop over the members of a configured bond. -/
theorem run_addIfMissing (hb : k n = some b) (hc : c.bsdName = n) (aInterfaces : List BondMember) :
    Ensures grantingMachine (c.members.foldlM (addIfMissing c aInterfaces) v)
      (fun _ k' => k' = k.withMembers n b (b.members ++
        (supportedNames c.members).filter (· ∉ aInterfaces.map (·.bsdName)))) k := by
  have hloop := ensures_foldlM (M := grantingMachine) (g := addIfMissing c aInterfaces)
    (fun todo _ k' => ∃ done, c.members = done ++ todo ∧ k' = k.withMembers n b (b.members ++
      (supportedNames done).filter (· ∉ aInterfaces.map (·.bsdName))))
    (fun _ _ _ => trivial)
    (by
      rintro m todo v' k' ⟨done, hdone, rfl⟩
      have hnext : c.members = (done ++ [m]) ++ todo := by
        rw [hdone, List.append_assoc]
        rfl
      have happend : supportedNames (done ++ [m]) =
          supportedNames done ++ if m.supportsBond = true then [m.bsdName] else [] := by
        rw [supportedNames, List.filter_append, List.map_append, List.filter_singleton]
        cases m.supportsBond <;> rfl
      rw [addIfMissing]
      split
      · next hmissing =>
        have hnot : m.bsdName ∉ aInterfaces.map (·.bsdName) :=
          bsdName_not_mem hmissing
        split
        · next hsupports =>
          refine ensures_ret trivial ⟨done ++ [m], hnext, ?_⟩
          rw [happend, if_neg (by rw [hsupports]; exact Bool.noConfusion), List.append_nil]
        · next hsupports =>
          rw [hc]
          refine ensures_mono ?_ run_issueOrFail
          rintro v₃ k₃ rfl
          refine ⟨done ++ [m], hnext, ?_⟩
          rw [add_withMembers, happend, if_pos (Bool.not_eq_false _ ▸ hsupports),
            List.filter_append, List.append_assoc, List.filter_cons,
            if_pos (decide_eq_true hnot), List.filter_nil]
      · next hpresent =>
        have hin : m.bsdName ∈ aInterfaces.map (·.bsdName) := by
          by_contra hnot
          exact hpresent (Or.inr (containsMember_eq_false.mpr hnot))
        refine ensures_ret trivial ⟨done ++ [m], hnext, ?_⟩
        rw [happend, List.filter_append]
        split
        · rw [List.filter_cons, if_neg (by simpa using hin), List.filter_nil, List.append_nil]
        · rw [List.filter_nil, List.append_nil])
  refine ensures_mono ?_ (hloop c.members v k ⟨[], rfl, ?_⟩)
  · rintro v' k' ⟨done, hdone, rfl⟩
    rw [List.append_nil] at hdone
    rw [hdone]
  · rw [show supportedNames [] = [] from rfl, List.filter_nil, List.append_nil,
      Kernel.withMembers_self hb]

/-- The comparison of the source, on names. -/
theorem firstDiffers_eq_headsDiffer :
    firstDiffers c a = headsDiffer c.memberNames a.memberNames := by
  rw [SCBondInterface.memberNames, SCBondInterface.memberNames, firstDiffers]
  cases c.members with
  | nil => rfl
  | cons x l => cases a.members <;> rfl

theorem addIfMissing_nil (hb : k n = some { b with members := [] }) (hc : c.bsdName = n) :
    Ensures grantingMachine (c.members.foldlM (addIfMissing c []) v)
      (fun _ k' => k' = k.withMembers n b (supportedNames c.members)) k := by
  refine ensures_mono ?_ (run_addIfMissing hb hc [])
  rintro v' k' rfl
  have hall : (supportedNames c.members).filter (· ∉ ([] : List BondMember).map (·.bsdName)) =
      supportedNames c.members := List.filter_eq_self.mpr fun m _ => by simp
  rw [hall]
  rfl

/-- The device lists of an active bond. -/
theorem run_updateMembers (hc : c.bsdName = n) (ha : a.bsdName = n)
    (hb : k n = some { b with members := a.memberNames.filter (· ∈ c.memberNames) }) :
    Ensures grantingMachine (updateMembers c a v)
      (fun _ k' => k' = k.withMembers n b (membersAfter c a.memberNames)) k := by
  rw [updateMembers, membersAfter, firstDiffers_eq_headsDiffer]
  split
  · refine ensures_bind (run_removeToReorder ha hb) ?_
    rintro v' k' rfl
    refine ensures_mono ?_ (addIfMissing_nil (b := b) (Function.update_self ..) hc)
    rintro v'' k'' rfl
    exact Kernel.withMembers_update _
  · exact run_addIfMissing hb hc a.members

/-- A bond that is configured and active. -/
theorem run_updateExisting (hc : c.bsdName = n)
    (hb : k n = some { b with members := b.members.filter (· ∈ c.memberNames) }) :
    Ensures grantingMachine (updateExisting c (activeBond supportsBond n b) v) (fun _ k' =>
      k' = Function.update k n (some
        { mode := c.mode.getD ifBondModeLacp, members := membersAfter c b.members })) k := by
  have hnames : (activeBond supportsBond n b).memberNames = b.members := memberNames_activeBond
  -- an unchanged list is what a run makes of it
  have hsame : ifListChange c (activeBond supportsBond n b) = false →
      b.members.filter (· ∈ c.memberNames) = membersAfter c b.members := by
    intro hlist
    have heq : c.memberNames = b.members := hnames ▸ memberNames_of_ifListChange hlist
    rw [membersAfter_self heq]
    exact List.filter_eq_self.mpr fun m hm => decide_eq_true (heq ▸ hm)
  have hmode : (activeBond supportsBond n b).mode = c.mode → b.mode = c.mode.getD ifBondModeLacp := by
    intro heq
    rw [← heq]
    rfl
  rw [updateExisting]
  split
  · next hno =>
    refine ensures_ret trivial ?_
    rw [← hsame hno.2, ← hmode hno.1, ← hb, Function.update_eq_self]
  · refine ensures_bind run_openSocket ?_
    rintro v' k' rfl
    split
    · refine ensures_bind (run_bondSetMode hb c.mode) ?_
      rintro done k'' rfl
      split
      · refine ensures_mono ?_ (run_updateMembers (a := activeBond supportsBond n b)
          (b := { b with mode := c.mode.getD ifBondModeLacp }) hc rfl
          (by rw [hnames, Function.update_self]))
        rintro v'' k'' rfl
        rw [hnames]
        exact Kernel.withMembers_update _
      · next hlist =>
        exact ensures_ret trivial (by rw [hsame (Bool.not_eq_true _ ▸ hlist)])
    · next hsameMode =>
      refine ensures_mono ?_ (run_updateMembers (a := activeBond supportsBond n b) (b := b) hc rfl
        (by rw [hnames, hb]))
      rintro v'' k'' rfl
      rw [hnames, ← hmode (not_not.mp hsameMode)]
      rfl

/-- A bond that is configured and not active. -/
theorem run_establish (hc : c.bsdName = n) :
    Ensures grantingMachine (establish c v) (fun _ k' => k' = Function.update k n (some
      { mode := c.mode.getD ifBondModeLacp, members := membersAfter c [] })) k := by
  have hafter : membersAfter c [] = supportedNames c.members := by
    have hheads : headsDiffer c.memberNames [] = false :=
      headsDiffer_eq_false_iff.mpr (Or.inr (Or.inl rfl))
    rw [membersAfter, if_neg (by rw [hheads]; exact Bool.noConfusion)]
    exact List.filter_eq_self.mpr fun m _ => by simp
  rw [establish]
  refine ensures_bind run_openSocket ?_
  rintro v' k' rfl
  refine ensures_bind run_issue ?_
  rintro done k' ⟨rfl, rfl⟩
  rw [if_pos rfl, hc]
  refine ensures_bind (run_bondSetMode (b := { mode := ifBondModeLacp, members := [] })
    (Function.update_self ..) c.mode) ?_
  rintro done k'' rfl
  rw [Function.update_idem, hafter]
  refine ensures_mono ?_ (addIfMissing_nil (b := { mode := c.mode.getD ifBondModeLacp, members := [] })
    (Function.update_self ..) hc)
  rintro v'' k'' rfl
  exact Kernel.withMembers_update _

/-- The first loop. -/
theorem run_removeVanished (hbonds : (bonds.map (·.1)).Nodup) :
    Ensures grantingMachine ((copyActive supportsBond bonds).foldlM (removeVanished config) v)
      (fun _ k' => k' = leftOver config (Kernel.ofList bonds)) (Kernel.ofList bonds) := by
  rw [copyActive, List.foldlM_map]
  refine ensures_mono ?_ (ensures_foldlM_keyed (fun _ => trivial) hbonds (Kernel.ofList bonds)
    (leftOver config (Kernel.ofList bonds)) ?_ v)
  · rintro v' k' hk'
    funext n
    rw [hk']
    split
    · rfl
    · next hn => rw [leftOver, Kernel.ofList_eq_none hn, Option.bind_none]
  · rintro ⟨n, b⟩ hmem v' k' hk'
    have hstart : Kernel.ofList bonds n = some b := (Kernel.ofList_eq_some hbonds).mpr hmem
    rw [removeVanished, leftOver, hstart, Option.bind_some]
    cases hfind : config.find? fun c => n = c.bsdName with
    | none =>
      rw [show config.find? (fun c => (activeBond supportsBond n b).bsdName = c.bsdName) = none
        from hfind]
      refine ensures_bind run_openSocket ?_
      rintro v'' k'' rfl
      exact run_issueOrFail
    | some c =>
      rw [show config.find? (fun c => (activeBond supportsBond n b).bsdName = c.bsdName) = some c
        from hfind]
      exact run_removeIfVanished (hk'.trans hstart) rfl memberNames_activeBond

/-- The second loop. -/
theorem run_addConfigured (hconfig : (config.map (·.bsdName)).Nodup) :
    Ensures grantingMachine (config.foldlM (addConfigured (copyActive supportsBond bonds)) v)
      (fun _ k' => k' = afterUpdate config (Kernel.ofList bonds))
      (leftOver config (Kernel.ofList bonds)) := by
  refine ensures_mono ?_ (ensures_foldlM_keyed (fun _ => trivial) hconfig
    (leftOver config (Kernel.ofList bonds)) (afterUpdate config (Kernel.ofList bonds)) ?_ v)
  · rintro v' k' hk'
    funext n
    rw [hk']
    split
    · rfl
    · next hn =>
      rw [leftOver, afterUpdate, find?_eq_none_of_notMem hn, Option.map_none]
      cases Kernel.ofList bonds n <;> rfl
  · intro c hmem v' k' hk'
    rw [leftOver, find?_name hconfig hmem] at hk'
    rw [addConfigured, find?_copyActive, afterUpdate, find?_name hconfig hmem, Kernel.olds]
    cases hb : Kernel.ofList bonds c.bsdName with
    | none => exact run_establish rfl
    | some b => exact run_updateExisting rfl (by rw [hk', hb]; rfl)

/-- A run of the update, all calls granted. -/
theorem update_run (hconfig : (config.map (·.bsdName)).Nodup) (hbonds : (bonds.map (·.1)).Nodup)
    (env : List (BondCall × Bool) → BondCall → Bool) {result : Option Bool}
    {history : List (BondCall × Bool)}
    (hrun : (bondInterfaceUpdateConfiguration (some config)
      (some (copyActive supportsBond bonds))).run env [] = (result, history))
    (hsuccess : ∀ e ∈ history, e.2 = true) :
    kernelAfter (Kernel.ofList bonds) (history.map (·.1)) =
      afterUpdate config (Kernel.ofList bonds) := by
  have hensures : Ensures grantingMachine
      (bondInterfaceUpdateConfiguration (some config) (some (copyActive supportsBond bonds)))
      (fun _ k => k = afterUpdate config (Kernel.ofList bonds)) (Kernel.ofList bonds) := by
    refine ensures_bind (run_removeVanished hbonds) ?_
    rintro v k rfl
    refine ensures_bind (run_addConfigured hconfig) ?_
    rintro v' k' rfl
    exact ensures_ret trivial rfl
  obtain ⟨events, hevents, hsound⟩ := wp_sound env hensures []
  rw [hrun] at hevents hsound
  rw [List.nil_append] at hevents
  subst hevents
  obtain ⟨-, ok, -, hend⟩ := hsound (Machine.answered_of_forall (fun _ _ => rfl) hsuccess)
  rw [← hend]
  exact (exec_eq_kernelAfter _ _ hsuccess).symm

/-! ## A run on its own result -/

/-- The call configures no bond. -/
abbrev isSocket (call : BondCall) : Prop := call = .socket

theorem openSocket_only : (openSocket v).Only isSocket := by
  rw [openSocket]
  split
  · trivial
  · refine ⟨rfl, fun done => ?_⟩
    cases done <;> trivial

/-- No part of the update ends early, since each call is granted. -/
theorem returns_openSocket : (openSocket v).Returns := by
  rw [openSocket]
  split
  · exact returns_ret v
  · exact ⟨_, rfl⟩

theorem returns_issueOrFail {call : BondCall} : (issueOrFail v call).Returns :=
  returns_bind (returns_issue call) fun _ => returns_ret _

theorem returns_removeVanished : (removeVanished config v a).Returns := by
  rw [removeVanished]
  split
  · refine returns_foldlM (fun m _ v' => ?_) v
    rw [removeIfVanished]
    split
    · exact returns_bind returns_openSocket fun _ => returns_issueOrFail
    · exact returns_ret v'
  · exact returns_bind returns_openSocket fun _ => returns_issueOrFail

theorem returns_addIfMissing {aInterfaces : List BondMember} :
    (c.members.foldlM (addIfMissing c aInterfaces) v).Returns := by
  refine returns_foldlM (fun m _ v' => ?_) v
  rw [addIfMissing]
  split
  · split
    · exact returns_ret v'
    · exact returns_issueOrFail
  · exact returns_ret v'

theorem returns_removeToReorder {m : BondMember} : (removeToReorder a c v m).Returns := by
  rw [removeToReorder]
  split
  · exact returns_ret v
  · exact returns_issueOrFail

theorem returns_updateMembers : (updateMembers c a v).Returns := by
  rw [updateMembers]
  split
  · exact returns_bind (returns_foldlM (fun m _ v' => returns_removeToReorder) v)
      fun _ => returns_addIfMissing
  · exact returns_addIfMissing

theorem returns_addConfigured {active : List SCBondInterface} :
    (addConfigured active v c).Returns := by
  rw [addConfigured]
  split
  · next aBond _ =>
    rw [updateExisting]
    split
    · exact returns_ret v
    · refine returns_bind returns_openSocket fun v' => ?_
      split
      · refine returns_bind (returns_issue _) fun _ => ?_
        split
        · exact returns_updateMembers
        · exact returns_ret v'
      · exact returns_updateMembers
  · refine returns_bind returns_openSocket fun v' => returns_bind (returns_issue _) fun done => ?_
    split
    · exact returns_bind (returns_issue _) fun _ => returns_addIfMissing
    · exact returns_ret _

/-- An active bond whose members are all configured loses none. -/
theorem removeVanished_only (hfind : config.find? (fun c => a.bsdName = c.bsdName) = some c)
    (hsubset : ∀ m ∈ a.memberNames, m ∈ c.memberNames) :
    (removeVanished config v a).Only isSocket := by
  rw [removeVanished, hfind]
  refine only_foldlM (fun m hm v' => ?_) v
  have hin : m.bsdName ∈ c.memberNames := hsubset _ (List.mem_map_of_mem hm)
  have hkept : ¬ (c.members.length = 0 ∨ containsMember c.members m = false) := by
    rintro (hnil | hnot)
    · rw [SCBondInterface.memberNames, List.length_eq_zero_iff.mp hnil] at hin
      cases hin
    · exact containsMember_eq_false.mp hnot hin
  rw [removeIfVanished, if_neg hkept]
  trivial

/-- An active bond of the right mode whose first device matches and which has all that can be
added stays as it is. -/
theorem updateExisting_only (hmode : a.mode = c.mode)
    (hheads : headsDiffer c.memberNames a.memberNames = false)
    (hall : ∀ m ∈ supportedNames c.members, m ∈ a.memberNames) :
    (updateExisting c a v).Only isSocket := by
  rw [updateExisting]
  split
  · trivial
  · refine only_bind openSocket_only fun v' => ?_
    rw [if_neg (not_not.mpr hmode), updateMembers, firstDiffers_eq_headsDiffer,
      if_neg (by rw [hheads]; exact Bool.noConfusion)]
    refine only_foldlM (fun m hm v'' => ?_) v'
    rw [addIfMissing]
    split
    · next hmissing =>
      split
      · trivial
      · next hsupports =>
        have hin : m.bsdName ∈ a.memberNames :=
          hall _ (List.mem_map_of_mem (List.mem_filter.mpr ⟨hm, Bool.not_eq_false _ ▸ hsupports⟩))
        exact absurd hin (bsdName_not_mem hmissing)
    · trivial

/-- An active bond whose first device does not match loses it. -/
theorem mem_granted_updateExisting (hmode : a.mode = c.mode)
    (hheads : headsDiffer c.memberNames a.memberNames = true)
    (hsubset : ∀ m ∈ a.memberNames, m ∈ c.memberNames) :
    ∃ m, ∀ v, .removeInterface a.bsdName m ∈ (updateExisting c a v).granted.2 := by
  have hlist : ifListChange c a ≠ false := by
    intro hsame
    rw [memberNames_of_ifListChange hsame,
      headsDiffer_eq_false_iff.mpr (Or.inr (Or.inr rfl))] at hheads
    cases hheads
  rw [← firstDiffers_eq_headsDiffer] at hheads
  cases hmembers : a.members with
  | nil =>
    rw [firstDiffers, hmembers] at hheads
    split at hheads
    · next h => cases h
    · cases hheads
  | cons m l =>
    have hmem : m ∈ a.members := by
      rw [hmembers]
      exact List.mem_cons_self
    have hin : m.bsdName ∈ c.memberNames := hsubset _ (List.mem_map_of_mem hmem)
    refine ⟨m.bsdName, fun v => ?_⟩
    rw [updateExisting, if_neg fun h => hlist h.2]
    refine mem_granted_bind_right returns_openSocket fun v' => ?_
    rw [if_neg (not_not.mpr hmode), updateMembers, if_pos hheads]
    refine mem_granted_bind_left (returns_foldlM (fun m _ v' => returns_removeToReorder) v') ?_
    refine mem_granted_foldlM (fun m v' => returns_removeToReorder) hmem (fun v'' => ?_) v'
    rw [removeToReorder, if_neg fun h => containsMember_eq_false.mp h hin]
    exact List.mem_cons_self

/-- What the snapshot after a run shows of a bond. -/
theorem afterUpdate_eq_some (hb : afterUpdate config k n = some b) :
    ∃ c, config.find? (fun c => n = c.bsdName) = some c ∧
      b = { mode := c.mode.getD ifBondModeLacp, members := membersAfter c (k.olds n) } := by
  obtain ⟨c, hfind, rfl⟩ := Option.map_eq_some_iff.mp hb
  exact ⟨c, hfind, rfl⟩

/-- How the snapshot after a run shows a configured bond. -/
def settledBond (supportsBond : BsdName → Bool) (k : Kernel) (c : SCBondInterface) :
    SCBondInterface :=
  activeBond supportsBond c.bsdName
    { mode := c.mode.getD ifBondModeLacp, members := membersAfter c (k.olds c.bsdName) }

/-- What is read after the update are the members that it has left. -/
theorem memberNames_settledBond :
    (settledBond supportsBond k c).memberNames = membersAfter c (k.olds c.bsdName) :=
  memberNames_activeBond

theorem mode_settledBond (hmode : c.mode ≠ none) : (settledBond supportsBond k c).mode = c.mode := by
  cases hm : c.mode with
  | none => exact absurd hm hmode
  | some mode =>
    rw [settledBond, hm]
    rfl

/-- The second update finds each bond as the first has settled it. -/
theorem find?_settledBond (hconfig : (config.map (·.bsdName)).Nodup)
    (hafter : Kernel.ofList bonds = afterUpdate config k) (hc : c ∈ config) :
    (copyActive supportsBond bonds).find? (fun a => c.bsdName = a.bsdName) =
      some (settledBond supportsBond k c) := by
  rw [find?_copyActive, hafter, afterUpdate, find?_name hconfig hc]
  rfl

/-- A run on its own result is quiet if every configured bond settles. -/
theorem update_only_socket (hconfig : (config.map (·.bsdName)).Nodup)
    (hmode : ∀ c ∈ config, c.mode ≠ none) (hbonds : (bonds.map (·.1)).Nodup)
    (hafter : Kernel.ofList bonds = afterUpdate config k)
    (hsettles : ∀ c ∈ config, Settles c (k.olds c.bsdName)) :
    (bondInterfaceUpdateConfiguration (some config)
      (some (copyActive supportsBond bonds))).Only isSocket := by
  refine only_bind (only_foldlM (fun a ha v => ?_) _) fun v => ?_
  · obtain ⟨⟨n, b⟩, hmem, rfl⟩ := List.mem_map.mp ha
    have hb := (Kernel.ofList_eq_some hbonds).mpr hmem
    rw [hafter] at hb
    obtain ⟨c, hname, rfl⟩ := afterUpdate_eq_some hb
    refine removeVanished_only hname fun m hm => ?_
    rw [memberNames_activeBond] at hm
    exact membersAfter_subset hm
  · refine only_bind (only_foldlM (fun c hc v' => ?_) v) fun v' => trivial
    rw [addConfigured, Option.getD_some, find?_settledBond hconfig hafter hc]
    refine updateExisting_only (mode_settledBond (hmode c hc)) ?_ fun m hm => ?_
    · rw [memberNames_settledBond]
      exact settles_iff.mp (hsettles c hc)
    · rw [memberNames_settledBond]
      exact mem_membersAfter hm

/-- A run on its own result, all calls granted, takes the first member out of every configured
bond that does not settle. -/
theorem mem_granted_update (hconfig : (config.map (·.bsdName)).Nodup)
    (hafter : Kernel.ofList bonds = afterUpdate config k) (hc : c ∈ config) (hmode : c.mode ≠ none)
    (hnot : ¬ Settles c (k.olds c.bsdName)) :
    ∃ m, .removeInterface c.bsdName m ∈ (bondInterfaceUpdateConfiguration (some config)
      (some (copyActive supportsBond bonds))).granted.2 := by
  have hnames : (settledBond supportsBond k c).memberNames = membersAfter c (k.olds c.bsdName) :=
    memberNames_settledBond
  rw [settles_iff, Bool.not_eq_false, ← hnames] at hnot
  obtain ⟨m, hm⟩ := mem_granted_updateExisting (mode_settledBond hmode) hnot fun m hm => by
    rw [memberNames_settledBond] at hm
    exact membersAfter_subset hm
  refine ⟨m, mem_granted_bind_right (returns_foldlM (fun _ _ _ => returns_removeVanished) _)
    fun v => mem_granted_bind_left (returns_foldlM (fun _ _ _ => returns_addConfigured) v) ?_⟩
  refine mem_granted_foldlM (fun _ _ => returns_addConfigured) hc (fun v' => ?_) v
  rw [addConfigured, Option.getD_some, find?_settledBond hconfig hafter hc]
  exact hm v'

/-! ## Two runs in a row -/

/-- What `SCBondInterfaceCopyAll` finds in the preferences: a bond for each name, each with a
mode, LACP if none is stored. -/
structure CopiedBonds (config : List SCBondInterface) : Prop where
  /-- bond names are the keys of a dictionary -/
  nodup : (config.map (·.bsdName)).Nodup
  /-- `_SCBondInterfaceSetMode` sets a mode in any case -/
  mode : ∀ c ∈ config, c.mode ≠ none

/-- After the calls of a history, a run with the same preferences configures nothing, whatever
snapshot of the kernel it is given and whatever its environment answers. -/
def QuietAfter (config : List SCBondInterface) (bonds : List (BsdName × KernelBond))
    (history : List (BondCall × Bool)) : Prop :=
  ∀ bonds' : List (BsdName × KernelBond), (bonds'.map (·.1)).Nodup →
    Kernel.ofList bonds' = kernelAfter (Kernel.ofList bonds) (history.map (·.1)) →
    ∀ (supportsBond : BsdName → Bool) (env : List (BondCall × Bool) → BondCall → Bool),
    ∀ e ∈ ((bondInterfaceUpdateConfiguration (some config)
      (some (copyActive supportsBond bonds'))).run env []).2, e.1 = .socket

/-- A snapshot of the kernel after a run. -/
theorem exists_bonds_afterUpdate (hconfig : (config.map (·.bsdName)).Nodup) (k : Kernel) :
    ∃ bonds : List (BsdName × KernelBond), (bonds.map (·.1)).Nodup ∧
      Kernel.ofList bonds = afterUpdate config k := by
  refine ⟨config.map fun c => (c.bsdName,
    { mode := c.mode.getD ifBondModeLacp, members := membersAfter c (k.olds c.bsdName) }), ?_, ?_⟩
  · rw [List.map_map]
    exact hconfig
  · funext n
    have hpred : ((fun b : BsdName × KernelBond => decide (b.1 = n)) ∘
        fun c : SCBondInterface => (c.bsdName, ({
          mode := c.mode.getD ifBondModeLacp
          members := membersAfter c (k.olds c.bsdName) } : KernelBond))) =
        fun c => decide (n = c.bsdName) := by
      funext c
      exact decide_eq_decide.mpr eq_comm
    rw [Kernel.ofList, afterUpdate, List.find?_map, hpred, Option.map_map]
    cases hfind : config.find? fun c => n = c.bsdName with
    | none => rfl
    | some c =>
      obtain rfl : n = c.bsdName := by simpa using List.find?_some hfind
      rfl

/-- **Idempotence.** After a run whose calls all succeeded, running the update again configures
nothing if and only if every configured bond settles. -/
theorem bondInterfaceUpdateConfiguration_idempotent_iff {config : List SCBondInterface}
    {bonds : List (BsdName × KernelBond)} (hconfig : CopiedBonds config)
    (hbonds : (bonds.map (·.1)).Nodup) (supportsBond : BsdName → Bool)
    (env : List (BondCall × Bool) → BondCall → Bool) {result : Option Bool}
    {history : List (BondCall × Bool)}
    (hrun : (bondInterfaceUpdateConfiguration (some config)
      (some (copyActive supportsBond bonds))).run env [] = (result, history))
    (hsuccess : ∀ e ∈ history, e.2 = true) :
    QuietAfter config bonds history ↔
      ∀ c ∈ config, Settles c ((Kernel.ofList bonds).olds c.bsdName) := by
  rw [QuietAfter, update_run hconfig.nodup hbonds env hrun hsuccess]
  constructor
  · intro hquiet
    obtain ⟨bonds', hnodup, hafter⟩ := exists_bonds_afterUpdate hconfig.nodup (Kernel.ofList bonds)
    intro c hc
    by_contra hnot
    have hremoves : ∃ m, .removeInterface c.bsdName m ∈ (bondInterfaceUpdateConfiguration
        (some config) (some (copyActive supportsBond bonds'))).granted.2 :=
      mem_granted_update hconfig.nodup hafter hc (hconfig.mode c hc) hnot
    obtain ⟨m, hm⟩ := hremoves
    have hrun := hquiet bonds' hnodup hafter supportsBond fun _ _ => true
    rw [run_granted] at hrun
    cases hrun (_, true) (List.mem_map_of_mem hm)
  · intro hsettles bonds' hnodup hafter supportsBond' env'
    have honly : (bondInterfaceUpdateConfiguration (some config)
        (some (copyActive supportsBond' bonds'))).Only isSocket :=
      update_only_socket hconfig.nodup hconfig.mode hnodup hafter hsettles
    exact honly.run env' fun e he => by cases he

/-- `bond0` is to have `en0`, and `en5`, which does not support bonding, behind it. -/
theorem bondInterfaceUpdateConfiguration_idempotent_iff_bond0 :
    let config : List SCBondInterface := [{
      bsdName := "bond0"
      interfaces := some [{ bsdName := "en0", supportsBond := true },
        { bsdName := "en5", supportsBond := false }]
      mode := some 0 }]
    let run := (bondInterfaceUpdateConfiguration (some config)
      (some (copyActive (fun _ => true) []))).run (fun _ _ => true) []
    QuietAfter config [] run.2 ↔ ∀ c ∈ config, Settles c ((Kernel.ofList []).olds c.bsdName) := by
  intro config run
  have hconfig : CopiedBonds config := ⟨by decide, by decide⟩
  have hrun : (bondInterfaceUpdateConfiguration (some config)
      (some (copyActive (fun _ => true) []))).run (fun _ _ => true) [] = (run.1, run.2) := rfl
  exact bondInterfaceUpdateConfiguration_idempotent_iff hconfig (by decide) (fun _ => true)
    (fun _ _ => true) hrun (by decide)

/-- `bond0` is to have `en5`, which does not support bonding, and `en0`. It has `en0`, which each
run takes out and puts back. -/
theorem unsupportedFirst_not_quietAfter :
    let config : List SCBondInterface := [{
      bsdName := "bond0"
      interfaces := some [{ bsdName := "en5", supportsBond := false },
        { bsdName := "en0", supportsBond := true }]
      mode := some 0 }]
    let bonds : List (BsdName × KernelBond) := [("bond0", { mode := 0, members := ["en0"] })]
    let run := (bondInterfaceUpdateConfiguration (some config)
      (some (copyActive (fun _ => true) bonds))).run (fun _ _ => true) []
    (∀ e ∈ run.2, e.2 = true) ∧ ¬ QuietAfter config bonds run.2 := by
  intro config bonds run
  refine ⟨by decide, fun hquiet => ?_⟩
  have hafter : Kernel.ofList bonds = kernelAfter (Kernel.ofList bonds) (run.2.map (·.1)) := by
    have hrun : (bondInterfaceUpdateConfiguration (some config)
        (some (copyActive (fun _ => true) bonds))).run (fun _ _ => true) [] = (run.1, run.2) := rfl
    rw [update_run (by decide) (by decide) (fun _ _ => true) hrun (by decide)]
    funext n
    by_cases hn : n = "bond0"
    · subst hn
      decide
    · rw [Kernel.ofList_eq_none (by simpa [bonds] using hn), afterUpdate,
        find?_eq_none_of_notMem (by simpa [config] using hn), Option.map_none]
  have hrun := hquiet bonds (by decide) hafter (fun _ => true) (fun _ _ => true)
  exact absurd (hrun (.removeInterface "bond0" "en0", true) (by decide)) (by decide)

end ConfigdExtra
