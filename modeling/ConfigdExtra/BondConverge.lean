import ConfigdExtra.BondUpdate

/-!
# Bond reconciliation converges

When every call succeeds, the update leaves the kernel with the configured bonds. Both loops
work bond by bond: the first takes each active bond from what it was (`Kernel.ofList`) to what
is left of it (`leftOver`), the second each configured bond from there to what is asked for
(`Converged`). Throughout, members lie `Within` a relation that gives each interface at most
one bond, at first the active one and then the configured one.

* `removeIfVanished_loop`, `removeToReorder_loop`, `addIfMissing_loop` — the loops over the
  members of one bond.
* `removeVanished_loop`, `addConfigured_loop` — the two loops over bonds.
* `bondInterfaceUpdateConfiguration_converges` — the whole update, over any environment that
  grants its calls.
-/

namespace ConfigdExtra

/-! ## What is configured, what is active, what is asked for -/

/-- The configured bonds: distinct names, disjoint duplicate-free lists of members that can be
added to a bond. -/
structure ConfiguredBonds (config : List SCBondInterface) : Prop where
  /-- bond names are distinct -/
  nodup : (config.map (·.bsdName)).Nodup
  /-- each member supports bonding -/
  supportsBond : ∀ c ∈ config, ∀ m ∈ c.members, m.supportsBond = true
  /-- member lists are duplicate-free -/
  nodup_members : ∀ c ∈ config, c.memberNames.Nodup
  /-- and disjoint -/
  disjoint : ∀ c ∈ config, ∀ c' ∈ config, ∀ m, m ∈ c.memberNames → m ∈ c'.memberNames →
    c.bsdName = c'.bsdName

/-- The bonds of a kernel: distinct names, disjoint lists of members. -/
structure ActiveBonds (bonds : List (BsdName × KernelBond)) : Prop where
  /-- bond names are distinct -/
  nodup : (bonds.map (·.1)).Nodup
  /-- an interface is added to a bond once -/
  nodup_members : ∀ b ∈ bonds, b.2.members.Nodup
  /-- and to one bond -/
  disjoint : ∀ b ∈ bonds, ∀ b' ∈ bonds, ∀ m, m ∈ b.2.members → m ∈ b'.2.members → b.1 = b'.1

/-- The kernel has the configured bond: its mode, its members, and its first member first. -/
def Converged (c : SCBondInterface) (o : Option KernelBond) : Prop :=
  ∃ b, o = some b ∧ b.mode = c.mode.getD ifBondModeLacp ∧ b.members.Nodup ∧
    (∀ m, m ∈ b.members ↔ m ∈ c.memberNames) ∧ b.members.head? = c.memberNames.head?

/-- What the first loop leaves of a bond: the members that are still configured. -/
def leftOver (config : List SCBondInterface) (k : Kernel) : Kernel :=
  fun n => (k n).bind fun b => (config.find? fun c => n = c.bsdName).map fun c =>
    { b with members := b.members.filter (· ∈ c.memberNames) }

/-! ## Exclusive kernels -/

/-- Every member of a bond is one that the relation allows it. -/
def Kernel.Within (k : Kernel) (allowed : BsdName → BsdName → Prop) : Prop :=
  ∀ n b, k n = some b → ∀ m ∈ b.members, allowed n m

/-- The relation allows each interface one bond. -/
def OneBond (allowed : BsdName → BsdName → Prop) : Prop :=
  ∀ n n' m, allowed n m → allowed n' m → n = n'

variable {k k' : Kernel} {allowed : BsdName → BsdName → Prop} {n : BsdName} {b : KernelBond}
  {v : UpdateLocals} {a c : SCBondInterface} {config : List SCBondInterface}
  {bonds : List (BsdName × KernelBond)} {supportsBond : BsdName → Bool} {ms : List BsdName}

/-- If a member is allowed in one bond only, no two bonds of the kernel have it. -/
theorem Kernel.Within.exclusive (hk : k.Within allowed) (hone : OneBond allowed) : k.Exclusive :=
  fun n b n' b' m hb hb' hm hm' => hone n n' m (hk n b hb m hm) (hk n' b' hb' m hm')

/-- A change of one bond stays within what is allowed, if its new members do. -/
theorem Kernel.Within.update (hk : k.Within allowed) {o : Option KernelBond}
    (ho : ∀ b, o = some b → ∀ m ∈ b.members, allowed n m) :
    Kernel.Within (Function.update k n o) allowed := by
  intro n' b' hb' m hm
  by_cases hn : n' = n
  · subst hn
    rw [Function.update_self] at hb'
    exact ho b' hb' m hm
  · rw [Function.update_of_ne hn] at hb'
    exact hk n' b' hb' m hm

/-- A kernel with other members in one bond. -/
def Kernel.withMembers (k : Kernel) (n : BsdName) (b : KernelBond) (ms : List BsdName) : Kernel :=
  Function.update k n (some { b with members := ms })

theorem Kernel.Within.withMembers (hk : k.Within allowed) (hms : ∀ m ∈ ms, allowed n m) :
    (k.withMembers n b ms).Within allowed :=
  hk.update fun b' hb' m hm => by
    obtain rfl := Option.some.inj hb'
    exact hms m hm

theorem Kernel.withMembers_update (o : Option KernelBond) :
    Kernel.withMembers (Function.update k n o) n b ms = k.withMembers n b ms :=
  Function.update_idem _ _ _

/-- The other fields of a bond are set without touching its members. -/
theorem Kernel.modify_withMembers (f : KernelBond → KernelBond) :
    (k.withMembers n b ms).modify n f = Function.update k n (some (f { b with members := ms })) := by
  rw [Kernel.modify, Kernel.withMembers, Function.update_self, Function.update_idem]
  rfl

theorem remove_withMembers (m : BsdName) :
    bondApply (k.withMembers n b ms) (.removeInterface n m) =
      k.withMembers n b (ms.filter (· ≠ m)) :=
  Kernel.modify_withMembers _

theorem add_withMembers (m : BsdName) :
    bondApply (k.withMembers n b ms) (.addInterface n m) = k.withMembers n b (ms ++ [m]) :=
  Kernel.modify_withMembers _

/-- A bond with the members that it has is the bond as it is. -/
theorem Kernel.withMembers_self (hk : k n = some b) : k.withMembers n b b.members = k := by
  rw [Kernel.withMembers, ← hk, Function.update_eq_self]

/-! ## Single calls -/

open Calls

/-- The socket is opened once. Nothing changes in the kernel. -/
theorem ensures_openSocket (hk : k.Exclusive) (hok : v.ok = true) :
    Ensures bondMachine (openSocket v) (fun v' k' => v'.ok = true ∧ k' = k) k := by
  rw [openSocket]
  split
  · exact ensures_ret hk ⟨hok, rfl⟩
  · refine ensures_issue hk trivial fun done hdone => ?_
    obtain rfl : done = true := hdone
    exact ensures_ret hk ⟨hok, rfl⟩

/-- A call that leaves the kernel as it must be is granted, and done. -/
theorem ensures_issueOrFail {call : BondCall} (hk : k.Exclusive) (hremoves : k.Removes call)
    (hk' : (bondApply k call).Exclusive) (hok : v.ok = true) :
    Ensures bondMachine (issueOrFail v call)
      (fun v' k' => v'.ok = true ∧ k' = bondApply k call) k := by
  rw [issueOrFail]
  refine ensures_issue hk hremoves fun done hdone => ?_
  obtain rfl : done = true := hdone
  exact ensures_ret hk' ⟨hok, rfl⟩

/-- A mode may be set at any time. -/
theorem ensures_bondSetMode (hk : k.Within allowed) (hone : OneBond allowed) (hb : k n = some b)
    (mode : Option Int) :
    Ensures bondMachine (bondSetMode n mode) (fun _ k' =>
      k' = Function.update k n (some { b with mode := mode.getD ifBondModeLacp })) k := by
  have happly : bondApply k (.setMode n (mode.getD ifBondModeLacp)) =
      Function.update k n (some { b with mode := mode.getD ifBondModeLacp }) := by
    rw [bondApply, Kernel.modify, hb]
    rfl
  have hwithin : Kernel.Within (Function.update k n
      (some { b with mode := mode.getD ifBondModeLacp })) allowed :=
    hk.update fun b' hb' m hm => by
      obtain rfl := Option.some.inj hb'
      exact hk n b hb m hm
  refine ensures_issue (k := .ret) (hk.exclusive hone) trivial fun done hdone => ?_
  obtain rfl : done = true := hdone
  rw [show bondMachine.step k (.setMode n (mode.getD ifBondModeLacp)) true = _ from happly]
  exact ensures_ret (hwithin.exclusive hone) rfl

/-! ## The members of one bond -/

/-- A member is found by its BSD name. -/
theorem containsMember_iff {l : List BondMember} {m : BondMember} :
    containsMember l m = true ↔ m.bsdName ∈ l.map (·.bsdName) := by
  simp only [containsMember, List.any_eq_true, decide_eq_true_eq, List.mem_map]

theorem containsMember_eq_false {l : List BondMember} {m : BondMember} :
    containsMember l m = false ↔ m.bsdName ∉ l.map (·.bsdName) := by
  rw [← containsMember_iff, Bool.not_eq_true]

/-- A device that the source does not find in a list of members, which may be empty. -/
theorem bsdName_not_mem {l : List BondMember} {m : BondMember}
    (h : l.length = 0 ∨ containsMember l m = false) : m.bsdName ∉ l.map (·.bsdName) := by
  rcases h with hnil | hnot
  · rw [List.length_eq_zero_iff.mp hnil]
    exact List.not_mem_nil
  · exact containsMember_eq_false.mp hnot

/-- The first loop over the members of a bond leaves those that are still configured. -/
theorem removeIfVanished_loop (hone : OneBond allowed) (hk : k.Within allowed)
    (hb : k n = some b) (hnodup : b.members.Nodup) (ha : a.bsdName = n)
    (hmembers : a.memberNames = b.members) (hok : v.ok = true) :
    Ensures bondMachine (a.members.foldlM (removeIfVanished a c) v)
      (fun v' k' => v'.ok = true ∧
        k' = k.withMembers n b (b.members.filter (· ∈ c.memberNames))) k := by
  have hwithin : ∀ ms : List BsdName, (∀ m ∈ ms, m ∈ b.members) →
      (k.withMembers n b ms).Within allowed :=
    fun ms hms => hk.withMembers fun m hm => hk n b hb m (hms m hm)
  -- what is done has been filtered, what is to do is still as it was
  have hloop := ensures_foldlM (M := bondMachine) (g := removeIfVanished a c)
    (fun todo v k' => v.ok = true ∧ ∃ done, b.members = done ++ todo.map (·.bsdName) ∧
      k' = k.withMembers n b (done.filter (· ∈ c.memberNames) ++ todo.map (·.bsdName)))
    (by
      rintro v' k' ⟨-, done, hdone, rfl⟩
      refine (hwithin _ fun m hm => ?_).exclusive hone
      rw [hdone]
      rcases List.mem_append.mp hm with hm | hm
      · exact List.mem_append_left _ (List.mem_of_mem_filter hm)
      · exact List.mem_append_right _ hm)
    (by
      rintro m todo v' k' ⟨hok', done, hdone, rfl⟩
      rw [List.map_cons] at hdone
      have hsub : ∀ m' ∈ done.filter (· ∈ c.memberNames) ++ m.bsdName :: todo.map (·.bsdName),
          m' ∈ b.members := by
        intro m' hm'
        rw [hdone]
        rcases List.mem_append.mp hm' with hm' | hm'
        · exact List.mem_append_left _ (List.mem_of_mem_filter hm')
        · exact List.mem_append_right _ hm'
      have hnext : b.members = (done ++ [m.bsdName]) ++ todo.map (·.bsdName) := by
        rw [hdone, List.append_assoc]
        rfl
      rw [removeIfVanished]
      split
      · next hgone =>
        have hnot : m.bsdName ∉ c.memberNames := bsdName_not_mem hgone
        -- the member stands once in the list, so removing it removes the head of what is to do
        have hfilter : (done.filter (· ∈ c.memberNames) ++ m.bsdName :: todo.map (·.bsdName)).filter
            (· ≠ m.bsdName) = (done ++ [m.bsdName]).filter (· ∈ c.memberNames) ++
              todo.map (·.bsdName) := by
          rw [hdone] at hnodup
          obtain ⟨hd, ht, hne⟩ := List.nodup_append.mp hnodup
          obtain ⟨hm, -⟩ := List.nodup_cons.mp ht
          have hfd : (done.filter (· ∈ c.memberNames)).filter (· ≠ m.bsdName) =
              done.filter (· ∈ c.memberNames) := by
            refine List.filter_eq_self.mpr fun x hx => decide_eq_true fun hxm => ?_
            exact hne x (List.mem_of_mem_filter hx) m.bsdName List.mem_cons_self hxm
          have hft : (todo.map (·.bsdName)).filter (· ≠ m.bsdName) = todo.map (·.bsdName) := by
            refine List.filter_eq_self.mpr fun x hx => decide_eq_true fun hxm => ?_
            exact hm (hxm ▸ hx)
          rw [List.filter_append, List.filter_cons, hfd, hft, List.filter_append]
          simp [hnot]
        refine ensures_bind (ensures_openSocket ((hwithin _ hsub).exclusive hone) hok') ?_
        rintro v'' k'' ⟨hok'', rfl⟩
        rw [ha]
        refine ensures_mono ?_ (ensures_issueOrFail ((hwithin _ hsub).exclusive hone)
          ⟨_, Function.update_self .., ?_⟩ ?_ hok'')
        · rintro v₃ k₃ ⟨hok₃, rfl⟩
          refine ⟨hok₃, done ++ [m.bsdName], hnext, ?_⟩
          rw [List.map_cons, remove_withMembers, hfilter]
        · exact List.mem_append_right _ List.mem_cons_self
        · rw [List.map_cons, remove_withMembers]
          exact (hwithin _ fun m' hm' => hsub m' (List.mem_of_mem_filter hm')).exclusive hone
      · next hkept =>
        have hin : m.bsdName ∈ c.memberNames := by
          by_contra hnot
          exact hkept (Or.inr (containsMember_eq_false.mpr hnot))
        refine ensures_ret ((hwithin _ hsub).exclusive hone)
          ⟨hok', done ++ [m.bsdName], hnext, ?_⟩
        rw [List.filter_append, List.map_cons, List.append_assoc]
        simp [hin])
  refine ensures_mono ?_ (hloop a.members v k ⟨hok, [], ?_, ?_⟩)
  · rintro v' k' ⟨hok', done, hdone, rfl⟩
    rw [List.map_nil, List.append_nil] at hdone ⊢
    rw [← hdone]
    exact ⟨hok', rfl⟩
  · exact hmembers.symm
  · change k = k.withMembers n b (a.memberNames)
    rw [hmembers, Kernel.withMembers_self hb]

/-- The second loop over the members of an active bond removes what the first one left. -/
theorem removeToReorder_loop (hone : OneBond allowed) (hk : k.Within allowed)
    (hnodup : a.memberNames.Nodup) (hallowed : ∀ m ∈ a.memberNames, m ∈ c.memberNames → allowed n m)
    (ha : a.bsdName = n) (hok : v.ok = true)
    (hb : k n = some { b with members := a.memberNames.filter (· ∈ c.memberNames) }) :
    Ensures bondMachine (a.members.foldlM (removeToReorder a c) v)
      (fun v' k' => v'.ok = true ∧ k' = k.withMembers n b []) k := by
  have hwithin : ∀ ms : List BsdName, (∀ m ∈ ms, m ∈ a.memberNames ∧ m ∈ c.memberNames) →
      (k.withMembers n b ms).Within allowed :=
    fun ms hms => hk.withMembers fun m hm => hallowed m (hms m hm).1 (hms m hm).2
  -- what is left are the members still to do that are configured
  have hloop := ensures_foldlM (M := bondMachine) (g := removeToReorder a c)
    (fun todo v k' => v.ok = true ∧ (∃ done, a.members = done ++ todo) ∧
      k' = k.withMembers n b ((todo.map (·.bsdName)).filter (· ∈ c.memberNames)))
    (by
      rintro v' k' ⟨-, -, rfl⟩
      exact (hwithin _ fun m hm => by cases hm).exclusive hone)
    (by
      rintro m todo v' k' ⟨hok', ⟨done, hdone⟩, rfl⟩
      have hnext : a.members = (done ++ [m]) ++ todo := by
        rw [hdone, List.append_assoc]
        rfl
      have hsub : ∀ m' ∈ ((m :: todo).map (·.bsdName)).filter (· ∈ c.memberNames),
          m' ∈ a.memberNames ∧ m' ∈ c.memberNames := by
        intro m' hm'
        obtain ⟨hm', hc⟩ := List.mem_filter.mp hm'
        rw [SCBondInterface.memberNames, hdone, List.map_append]
        exact ⟨List.mem_append_right _ hm', of_decide_eq_true hc⟩
      rw [removeToReorder]
      split
      · next hgone =>
        have hnot : m.bsdName ∉ c.memberNames := containsMember_eq_false.mp hgone
        refine ensures_ret ((hwithin _ hsub).exclusive hone) ⟨hok', ⟨done ++ [m], hnext⟩, ?_⟩
        rw [List.map_cons, List.filter_cons, if_neg (by simpa using hnot)]
      · next hkept =>
        have hin : m.bsdName ∈ c.memberNames := by
          by_contra hnot
          exact hkept (containsMember_eq_false.mpr hnot)
        have hcons : ((m :: todo).map (·.bsdName)).filter (· ∈ c.memberNames) =
            m.bsdName :: (todo.map (·.bsdName)).filter (· ∈ c.memberNames) := by
          rw [List.map_cons, List.filter_cons, if_pos (by simpa using hin)]
        have hfilter : (m.bsdName :: (todo.map (·.bsdName)).filter (· ∈ c.memberNames)).filter
            (· ≠ m.bsdName) = (todo.map (·.bsdName)).filter (· ∈ c.memberNames) := by
          rw [SCBondInterface.memberNames, hdone, List.map_append] at hnodup
          obtain ⟨-, ht, -⟩ := List.nodup_append.mp hnodup
          obtain ⟨hm, -⟩ := List.nodup_cons.mp ht
          rw [List.filter_cons, if_neg (by simp)]
          refine List.filter_eq_self.mpr fun x hx => decide_eq_true fun hxm => ?_
          have hx := List.mem_of_mem_filter hx
          rw [hxm] at hx
          exact hm hx
        rw [ha]
        refine ensures_mono ?_ (ensures_issueOrFail ((hwithin _ hsub).exclusive hone)
          ⟨_, Function.update_self .., ?_⟩ ?_ hok')
        · rintro v₃ k₃ ⟨hok₃, rfl⟩
          refine ⟨hok₃, ⟨done ++ [m], hnext⟩, ?_⟩
          rw [remove_withMembers, hcons, hfilter]
        · rw [hcons]
          exact List.mem_cons_self
        · rw [remove_withMembers]
          exact (hwithin _ fun m' hm' => hsub m' (List.mem_of_mem_filter hm')).exclusive hone)
  refine ensures_mono ?_ (hloop a.members v k ⟨hok, ⟨[], rfl⟩, ?_⟩)
  · rintro v' k' ⟨hok', -, rfl⟩
    exact ⟨hok', rfl⟩
  · rw [Kernel.withMembers, ← SCBondInterface.memberNames, ← hb, Function.update_eq_self]

/-- The loop over the members of a configured bond adds those that `aInterfaces` lacks. -/
theorem addIfMissing_loop (hone : OneBond allowed) (hk : k.Within allowed) (hb : k n = some b)
    (hc : c.bsdName = n) (hallowed : ∀ m ∈ c.memberNames, allowed n m)
    (hsupports : ∀ m ∈ c.members, m.supportsBond = true) (hok : v.ok = true)
    (aInterfaces : List BondMember) :
    Ensures bondMachine (c.members.foldlM (addIfMissing c aInterfaces) v)
      (fun v' k' => v'.ok = true ∧ k' = k.withMembers n b (b.members ++
        c.memberNames.filter (· ∉ aInterfaces.map (·.bsdName)))) k := by
  have hwithin : ∀ ms : List BsdName, (∀ m ∈ ms, m ∈ b.members ∨ m ∈ c.memberNames) →
      (k.withMembers n b ms).Within allowed :=
    fun ms hms => hk.withMembers fun m hm => (hms m hm).elim (hk n b hb m) (hallowed m)
  -- behind the members there were stand the missing ones of what is done
  have hloop := ensures_foldlM (M := bondMachine) (g := addIfMissing c aInterfaces)
    (fun todo v k' => v.ok = true ∧ ∃ done, c.members = done ++ todo ∧
      k' = k.withMembers n b (b.members ++
        (done.map (·.bsdName)).filter (· ∉ aInterfaces.map (·.bsdName))))
    (by
      rintro v' k' ⟨-, done, hdone, rfl⟩
      refine (hwithin _ fun m hm => ?_).exclusive hone
      rcases List.mem_append.mp hm with hm | hm
      · exact Or.inl hm
      · rw [List.append_nil] at hdone
        have hm := List.mem_of_mem_filter hm
        rw [← hdone] at hm
        exact Or.inr hm)
    (by
      rintro m todo v' k' ⟨hok', done, hdone, rfl⟩
      have hnext : c.members = (done ++ [m]) ++ todo := by
        rw [hdone, List.append_assoc]
        rfl
      have hmem : ∀ m' ∈ (done ++ [m]).map (·.bsdName), m' ∈ c.memberNames := by
        intro m' hm'
        rw [SCBondInterface.memberNames, hnext, List.map_append]
        exact List.mem_append_left _ hm'
      have hsub : ∀ m' ∈ b.members ++
          (done.map (·.bsdName)).filter (· ∉ aInterfaces.map (·.bsdName)),
          m' ∈ b.members ∨ m' ∈ c.memberNames := by
        intro m' hm'
        rcases List.mem_append.mp hm' with hm' | hm'
        · exact Or.inl hm'
        · refine Or.inr (hmem m' ?_)
          rw [List.map_append]
          exact List.mem_append_left _ (List.mem_of_mem_filter hm')
      have hsupport : m.supportsBond = true := by
        refine hsupports m ?_
        rw [hnext]
        exact List.mem_append_left _ (List.mem_append_right _ List.mem_cons_self)
      rw [addIfMissing]
      split
      · next hmissing =>
        have hnot : m.bsdName ∉ aInterfaces.map (·.bsdName) :=
          bsdName_not_mem hmissing
        have happend : b.members ++
            (done.map (·.bsdName)).filter (· ∉ aInterfaces.map (·.bsdName)) ++ [m.bsdName] =
            b.members ++
              ((done ++ [m]).map (·.bsdName)).filter (· ∉ aInterfaces.map (·.bsdName)) := by
          rw [List.map_append, List.filter_append, List.append_assoc, List.map_singleton,
            List.filter_cons, if_pos (by simpa using hnot), List.filter_nil]
        rw [if_neg (by rw [hsupport]; exact Bool.noConfusion), hc]
        refine ensures_mono ?_ (ensures_issueOrFail ((hwithin _ hsub).exclusive hone) trivial ?_ hok')
        · rintro v₃ k₃ ⟨hok₃, rfl⟩
          exact ⟨hok₃, done ++ [m], hnext, by rw [add_withMembers, happend]⟩
        · rw [add_withMembers, happend]
          refine (hwithin _ fun m' hm' => ?_).exclusive hone
          rcases List.mem_append.mp hm' with hm' | hm'
          · exact Or.inl hm'
          · exact Or.inr (hmem m' (List.mem_of_mem_filter hm'))
      · next hpresent =>
        have hin : m.bsdName ∈ aInterfaces.map (·.bsdName) := by
          by_contra hnot
          exact hpresent (Or.inr (containsMember_eq_false.mpr hnot))
        refine ensures_ret ((hwithin _ hsub).exclusive hone) ⟨hok', done ++ [m], hnext, ?_⟩
        rw [List.map_append, List.filter_append, List.map_singleton, List.filter_cons,
          if_neg (by simpa using hin), List.filter_nil, List.append_nil])
  refine ensures_mono ?_ (hloop c.members v k ⟨hok, [], rfl, ?_⟩)
  · rintro v' k' ⟨hok', done, hdone, rfl⟩
    rw [List.append_nil] at hdone
    rw [SCBondInterface.memberNames, hdone]
    exact ⟨hok', rfl⟩
  · rw [List.map_nil, List.filter_nil, List.append_nil, Kernel.withMembers_self hb]

/-! ## One bond -/

/-- The members a configured bond ends with, when those of `aInterfaces` that are configured
are there already. -/
theorem converged_withMembers (hnodup : c.memberNames.Nodup) {olds : List BsdName}
    (hold : olds.Nodup) (hfirst : ∀ x l y l', c.memberNames = x :: l → olds = y :: l' → x = y)
    (hmode : b.mode = c.mode.getD ifBondModeLacp) :
    Converged c (some
      { b with members := olds.filter (· ∈ c.memberNames) ++ c.memberNames.filter (· ∉ olds) }) := by
  refine ⟨_, rfl, hmode, ?_, fun m => ?_, ?_⟩
  · refine List.nodup_append.mpr ⟨hold.filter _, hnodup.filter _, fun x hx y hy hxy => ?_⟩
    obtain ⟨-, hy⟩ := List.mem_filter.mp hy
    exact of_decide_eq_true hy (hxy ▸ List.mem_of_mem_filter hx)
  · simp only [List.mem_append, List.mem_filter, decide_eq_true_eq]
    constructor
    · rintro (⟨-, hm⟩ | ⟨hm, -⟩)
      · exact hm
      · exact hm
    · intro hm
      by_cases ha : m ∈ olds
      · exact Or.inl ⟨ha, hm⟩
      · exact Or.inr ⟨hm, ha⟩
  · cases hc : c.memberNames with
    | nil => simp
    | cons x l =>
      cases olds with
      | nil => simp
      | cons y l' =>
        obtain rfl := hfirst x l y l' hc rfl
        simp

/-- A bond that has converged has no members but those configured. -/
theorem Converged.members_subset {o : Option KernelBond} (h : Converged c o) :
    ∀ b, o = some b → ∀ m ∈ b.members, m ∈ c.memberNames := by
  rintro b rfl m hm
  obtain ⟨b', hb', -, -, hmem, -⟩ := h
  obtain rfl := Option.some.inj hb'
  exact (hmem m).mp hm

/-- What is read of a bond of the kernel are the members that it has. -/
theorem memberNames_activeBond : (activeBond supportsBond n b).memberNames = b.members := by
  rw [SCBondInterface.memberNames, SCBondInterface.members, activeBond, Option.getD_some,
    List.map_map]
  exact List.map_id _

/-- Equal member lists have equal names. -/
theorem memberNames_of_ifListChange (h : ifListChange c a = false) :
    c.memberNames = a.memberNames := by
  have hnames : ∀ x : SCBondInterface,
      x.memberNames = (x.interfaces.map (List.map (·.bsdName))).getD [] := by
    intro x
    rw [SCBondInterface.memberNames, SCBondInterface.members]
    cases x.interfaces <;> rfl
  have heq := of_decide_eq_false h
  rw [hnames, hnames, not_not.mp heq]

/-- The first member decides the address of the bond, so it is compared by itself. -/
theorem firstDiffers_eq_false (h : firstDiffers c a = false) :
    ∀ x l y l', c.memberNames = x :: l → a.memberNames = y :: l' → x = y := by
  intro x l y l' hc ha
  rw [SCBondInterface.memberNames] at hc ha
  obtain ⟨xm, lm, hcm, rfl, -⟩ := List.map_eq_cons_iff.mp hc
  obtain ⟨ym, lm', ham, rfl, -⟩ := List.map_eq_cons_iff.mp ha
  rw [firstDiffers, hcm, ham] at h
  exact not_not.mp (of_decide_eq_false h)

/-- The device lists of an active bond, once its mode is right. -/
theorem updateMembers_spec (hone : OneBond allowed) (hk : k.Within allowed)
    (hc : c.bsdName = n) (ha : a.bsdName = n) (hallowed : ∀ m ∈ c.memberNames, allowed n m)
    (hcnodup : c.memberNames.Nodup) (hanodup : a.memberNames.Nodup)
    (hsupports : ∀ m ∈ c.members, m.supportsBond = true) (hok : v.ok = true)
    (hmode : b.mode = c.mode.getD ifBondModeLacp)
    (hb : k n = some { b with members := a.memberNames.filter (· ∈ c.memberNames) }) :
    Ensures bondMachine (updateMembers c a v) (fun v' k' => v'.ok = true ∧
      ∃ o, Converged c o ∧ k' = Function.update k n o) k := by
  rw [updateMembers]
  split
  · refine ensures_bind (removeToReorder_loop hone hk hanodup (fun m _ hm => hallowed m hm) ha hok
      hb) ?_
    rintro v' k' ⟨hok', rfl⟩
    have hnil : (k.withMembers n b []).Within allowed := hk.withMembers fun m hm => by cases hm
    refine ensures_mono ?_ (addIfMissing_loop hone hnil (Function.update_self ..) hc hallowed
      hsupports hok' [])
    rintro v'' k'' ⟨hok'', rfl⟩
    exact ⟨hok'', _, converged_withMembers hcnodup List.nodup_nil
      (fun x l y l' _ hnil => by cases hnil) hmode, Kernel.withMembers_update _⟩
  · next hfirst =>
    refine ensures_mono ?_ (addIfMissing_loop hone hk hb hc hallowed hsupports hok a.members)
    rintro v' k' ⟨hok', rfl⟩
    exact ⟨hok', _, converged_withMembers hcnodup hanodup
      (firstDiffers_eq_false (Bool.not_eq_true _ ▸ hfirst)) hmode, rfl⟩

/-- A bond that is configured and active. -/
theorem updateExisting_spec (hone : OneBond allowed) (hk : k.Within allowed)
    (hc : c.bsdName = n) (hallowed : ∀ m ∈ c.memberNames, allowed n m)
    (hcnodup : c.memberNames.Nodup) (hbnodup : b.members.Nodup)
    (hsupports : ∀ m ∈ c.members, m.supportsBond = true) (hok : v.ok = true)
    (hb : k n = some { b with members := b.members.filter (· ∈ c.memberNames) }) :
    Ensures bondMachine (updateExisting c (activeBond supportsBond n b) v) (fun v' k' =>
      v'.ok = true ∧ ∃ o, Converged c o ∧ k' = Function.update k n o) k := by
  have hnames : (activeBond supportsBond n b).memberNames = b.members := memberNames_activeBond
  -- an unchanged list leaves the bond as it is, up to its mode
  have hsame : ifListChange c (activeBond supportsBond n b) = false →
      ∀ mode, mode = c.mode.getD ifBondModeLacp → Converged c
        (some { mode := mode, members := b.members.filter (· ∈ c.memberNames) }) := by
    rintro hlist mode rfl
    have heq := memberNames_of_ifListChange hlist
    rw [hnames] at heq
    have hself : b.members.filter (· ∈ c.memberNames) = b.members :=
      List.filter_eq_self.mpr fun m hm => decide_eq_true (heq ▸ hm)
    rw [hself]
    exact ⟨_, rfl, rfl, hbnodup, fun m => by rw [heq], by rw [heq]⟩
  rw [updateExisting]
  split
  · next hsameMode =>
    obtain ⟨hmode, hlist⟩ := hsameMode
    refine ensures_ret (hk.exclusive hone) ⟨hok, _, hsame hlist b.mode ?_, ?_⟩
    · rw [← hmode]
      rfl
    · rw [← hb, Function.update_eq_self]
  · next hchange =>
    refine ensures_bind (ensures_openSocket (hk.exclusive hone) hok) ?_
    rintro v' k' ⟨hok', rfl⟩
    split
    · refine ensures_bind (ensures_bondSetMode hk hone hb c.mode) ?_
      rintro done k'' rfl
      have hk'' : Kernel.Within (Function.update k' n (some { b with
          mode := c.mode.getD ifBondModeLacp
          members := b.members.filter (· ∈ c.memberNames) })) allowed := by
        refine hk.update fun b' hb' m hm => ?_
        obtain rfl := Option.some.inj hb'
        exact hallowed m (of_decide_eq_true (List.mem_filter.mp hm).2)
      split
      · refine ensures_mono ?_ (updateMembers_spec (a := activeBond supportsBond n b)
          (b := { b with mode := c.mode.getD ifBondModeLacp }) hone hk'' hc rfl hallowed hcnodup
          (hnames ▸ hbnodup) hsupports hok' rfl (by rw [hnames, Function.update_self]))
        rintro v'' k'' ⟨hok'', o, ho, rfl⟩
        exact ⟨hok'', o, ho, Function.update_idem ..⟩
      · next hlist =>
        exact ensures_ret (hk''.exclusive hone)
          ⟨hok', _, hsame (Bool.not_eq_true _ ▸ hlist) _ rfl, rfl⟩
    · next hmode =>
      refine updateMembers_spec (a := activeBond supportsBond n b) (b := b) hone hk hc rfl hallowed
        hcnodup (hnames ▸ hbnodup) hsupports hok' ?_ (by rw [hnames, hb])
      rw [← not_not.mp hmode]
      rfl

/-- A bond that is configured and not active. -/
theorem establish_spec (hone : OneBond allowed) (hk : k.Within allowed)
    (hc : c.bsdName = n) (hallowed : ∀ m ∈ c.memberNames, allowed n m)
    (hcnodup : c.memberNames.Nodup) (hsupports : ∀ m ∈ c.members, m.supportsBond = true)
    (hok : v.ok = true) :
    Ensures bondMachine (establish c v) (fun v' k' =>
      v'.ok = true ∧ ∃ o, Converged c o ∧ k' = Function.update k n o) k := by
  have hnew : ∀ mode, Kernel.Within (Function.update k n
      (some { mode := mode, members := [] })) allowed := by
    refine fun mode => hk.update fun b' hb' m hm => ?_
    obtain rfl := Option.some.inj hb'
    cases hm
  rw [establish]
  refine ensures_bind (ensures_openSocket (hk.exclusive hone) hok) ?_
  rintro v' k' ⟨hok', rfl⟩
  refine ensures_issue (hk.exclusive hone) trivial fun done hdone => ?_
  obtain rfl : done = true := hdone
  rw [if_pos rfl, hc]
  refine ensures_bind (ensures_bondSetMode (b := { mode := ifBondModeLacp, members := [] })
    (hnew ifBondModeLacp) hone (Function.update_self ..) c.mode) ?_
  rintro done k'' rfl
  rw [Function.update_idem]
  refine ensures_mono ?_ (addIfMissing_loop hone (hnew _) (Function.update_self ..) hc hallowed
    hsupports hok' [])
  rintro v'' k'' ⟨hok'', rfl⟩
  exact ⟨hok'', _, converged_withMembers (b := { mode := _, members := [] }) hcnodup
    List.nodup_nil (fun x l y l' _ hnil => by cases hnil) rfl, Kernel.withMembers_update _⟩

/-! ## The loops over bonds -/

/-- An interface may be in the bond it is active in. -/
def isActiveIn (bonds : List (BsdName × KernelBond)) (n m : BsdName) : Prop :=
  ∃ b ∈ bonds, b.1 = n ∧ m ∈ b.2.members

/-- An interface may be in the bond it is configured for. -/
def isConfiguredIn (config : List SCBondInterface) (n m : BsdName) : Prop :=
  ∃ c ∈ config, c.bsdName = n ∧ m ∈ c.memberNames

/-- The kernel lets no interface into two bonds. -/
theorem ActiveBonds.oneBond (h : ActiveBonds bonds) : OneBond (isActiveIn bonds) := by
  rintro n n' m ⟨b, hb, rfl, hm⟩ ⟨b', hb', rfl, hm'⟩
  exact h.disjoint b hb b' hb' m hm hm'

/-- A configuration in which no two bonds have a member in common. -/
theorem ConfiguredBonds.oneBond (h : ConfiguredBonds config) : OneBond (isConfiguredIn config) := by
  rintro n n' m ⟨c, hc, rfl, hm⟩ ⟨c', hc', rfl, hm'⟩
  exact h.disjoint c hc c' hc' m hm hm'

/-- Bonds are found in the kernel by their names, which differ. -/
theorem Kernel.ofList_eq_some (h : (bonds.map (·.1)).Nodup) :
    Kernel.ofList bonds n = some b ↔ (n, b) ∈ bonds := by
  rw [Kernel.ofList, Option.map_eq_some_iff]
  constructor
  · rintro ⟨⟨n', b'⟩, hfind, rfl⟩
    obtain rfl : n' = n := by simpa using List.find?_some hfind
    exact List.mem_of_find?_eq_some hfind
  · intro hmem
    cases hfind : bonds.find? fun b => b.1 = n with
    | none =>
      have hnot := List.find?_eq_none.mp hfind (n, b) hmem
      exact absurd (decide_eq_true rfl) hnot
    | some b' =>
      have hname : b'.1 = n := by simpa using List.find?_some hfind
      have heq := List.inj_on_of_nodup_map h (List.mem_of_find?_eq_some hfind) hmem hname
      exact ⟨b', rfl, by rw [heq]⟩

/-- A bond is found by its name. -/
theorem find?_name (h : (config.map (·.bsdName)).Nodup) (hc : c ∈ config) :
    config.find? (fun c' => c.bsdName = c'.bsdName) = some c := by
  cases hfind : config.find? fun c' => c.bsdName = c'.bsdName with
  | none => exact absurd (decide_eq_true rfl) (List.find?_eq_none.mp hfind c hc)
  | some c' =>
    have hname : c.bsdName = c'.bsdName := by simpa using List.find?_some hfind
    rw [List.inj_on_of_nodup_map h (List.mem_of_find?_eq_some hfind) hc hname.symm]

theorem find?_eq_none_of_notMem (hn : n ∉ config.map (·.bsdName)) :
    config.find? (fun c => n = c.bsdName) = none := by
  refine List.find?_eq_none.mpr fun c hc hname => hn ?_
  rw [of_decide_eq_true hname]
  exact List.mem_map_of_mem hc

theorem Kernel.ofList_eq_none (hn : n ∉ bonds.map (·.1)) : Kernel.ofList bonds n = none := by
  rw [Kernel.ofList, Option.map_eq_none_iff, List.find?_eq_none]
  intro b hb hname
  rw [← of_decide_eq_true hname] at hn
  exact hn (List.mem_map_of_mem hb)

/-- What is found among the active bonds is the bond that the kernel has. -/
theorem find?_copyActive (supportsBond : BsdName → Bool) (bonds : List (BsdName × KernelBond))
    (n : BsdName) : (copyActive supportsBond bonds).find? (fun a => n = a.bsdName) =
      (Kernel.ofList bonds n).map (activeBond supportsBond n) := by
  rw [copyActive, List.find?_map, Kernel.ofList, Option.map_map]
  have hpred : ((fun a : SCBondInterface => decide (n = a.bsdName)) ∘
      fun b : BsdName × KernelBond => activeBond supportsBond b.1 b.2) =
        fun b => decide (b.1 = n) := by
    funext b
    exact decide_eq_decide.mpr eq_comm
  rw [hpred]
  cases hfind : bonds.find? fun b => b.1 = n with
  | none => rfl
  | some b =>
    obtain rfl : b.1 = n := by simpa using List.find?_some hfind
    rfl

/-- What is left over is within what was there. -/
theorem leftOver_within (h : (bonds.map (·.1)).Nodup) :
    (leftOver config (Kernel.ofList bonds)).Within (isActiveIn bonds) := by
  intro n b hb m hm
  obtain ⟨b₀, hb₀, hb⟩ := Option.bind_eq_some_iff.mp hb
  obtain ⟨c, -, rfl⟩ := Option.map_eq_some_iff.mp hb
  exact ⟨(n, b₀), (Kernel.ofList_eq_some h).mp hb₀, rfl, List.mem_of_mem_filter hm⟩

/-- And within what is configured. -/
theorem leftOver_within_config : (leftOver config k).Within (isConfiguredIn config) := by
  intro n b hb m hm
  obtain ⟨b₀, -, hb⟩ := Option.bind_eq_some_iff.mp hb
  obtain ⟨c, hfind, rfl⟩ := Option.map_eq_some_iff.mp hb
  exact ⟨c, List.mem_of_find?_eq_some hfind, by simpa [eq_comm] using List.find?_some hfind,
    of_decide_eq_true (List.mem_filter.mp hm).2⟩

/-- The first loop takes every bond to what is left over of it. -/
theorem removeVanished_loop (h : ActiveBonds bonds) (hok : v.ok = true) :
    Ensures bondMachine ((copyActive supportsBond bonds).foldlM (removeVanished config) v)
      (fun v' k' => v'.ok = true ∧ k' = leftOver config (Kernel.ofList bonds))
      (Kernel.ofList bonds) := by
  rw [copyActive, List.foldlM_map]
  -- what is to do is as it was, the rest is what is left over
  have hloop := ensures_foldlM (M := bondMachine)
    (g := fun v b => removeVanished config v (activeBond supportsBond b.1 b.2))
    (fun todo v k => v.ok = true ∧ todo <:+ bonds ∧ ∀ n, k n =
      if n ∈ todo.map (·.1) then Kernel.ofList bonds n
      else leftOver config (Kernel.ofList bonds) n)
    (by
      rintro v k ⟨-, -, hk⟩
      have heq : k = leftOver config (Kernel.ofList bonds) := funext fun n => by
        rw [hk, if_neg (by simp)]
      rw [heq]
      exact (leftOver_within h.nodup).exclusive h.oneBond)
    (by
      rintro ⟨n, b⟩ todo v k ⟨hok', hsuffix, hk⟩
      have hmem : (n, b) ∈ bonds := hsuffix.subset List.mem_cons_self
      have hnot : n ∉ todo.map (·.1) := by
        have hnodup := h.nodup.sublist (hsuffix.sublist.map (·.1))
        exact (List.nodup_cons.mp hnodup).1
      have hkn : k n = some b := by
        rw [hk, if_pos (by simp), (Kernel.ofList_eq_some h.nodup).mpr hmem]
      have hwithin : k.Within (isActiveIn bonds) := by
        intro n' b' hb' m hm
        rw [hk] at hb'
        split at hb'
        · exact ⟨(n', b'), (Kernel.ofList_eq_some h.nodup).mp hb', rfl, hm⟩
        · exact leftOver_within h.nodup n' b' hb' m hm
      -- a kernel that has changed in bond `n` only, and there to what is left over
      have hnext : ∀ o, o = leftOver config (Kernel.ofList bonds) n →
          ∀ n', (Function.update k n o : Kernel) n' = if n' ∈ todo.map (·.1) then
            Kernel.ofList bonds n' else leftOver config (Kernel.ofList bonds) n' := by
        rintro o rfl n'
        by_cases hn : n' = n
        · subst hn
          rw [Function.update_self, if_neg hnot]
        · rw [Function.update_of_ne hn, hk]
          refine if_congr ?_ rfl rfl
          rw [List.map_cons, List.mem_cons]
          exact or_iff_right hn
      rw [removeVanished]
      cases hfind : config.find? fun c => (activeBond supportsBond n b).bsdName = c.bsdName with
      | none =>
        have hleft : none = leftOver config (Kernel.ofList bonds) n := by
          rw [leftOver, (Kernel.ofList_eq_some h.nodup).mpr hmem, Option.bind_some,
            show config.find? (fun c => n = c.bsdName) = none from hfind, Option.map_none]
        refine ensures_bind (ensures_openSocket (hwithin.exclusive h.oneBond) hok') ?_
        rintro v' k' ⟨hok'', rfl⟩
        refine ensures_mono ?_ (ensures_issueOrFail (hwithin.exclusive h.oneBond) trivial
          ((hwithin.update fun b' hb' => by cases hb').exclusive h.oneBond) hok'')
        rintro v'' k'' ⟨hok₃, rfl⟩
        exact ⟨hok₃, (List.suffix_cons _ _).trans hsuffix, hnext none hleft⟩
      | some c =>
        have hleft : some { b with members := b.members.filter (· ∈ c.memberNames) } =
            leftOver config (Kernel.ofList bonds) n := by
          rw [leftOver, (Kernel.ofList_eq_some h.nodup).mpr hmem, Option.bind_some,
            show config.find? (fun c => n = c.bsdName) = some c from hfind, Option.map_some]
        refine ensures_mono ?_ (removeIfVanished_loop (a := activeBond supportsBond n b) h.oneBond
          hwithin hkn (h.nodup_members _ hmem) rfl memberNames_activeBond hok')
        rintro v' k' ⟨hok'', rfl⟩
        exact ⟨hok'', (List.suffix_cons _ _).trans hsuffix, hnext _ hleft⟩)
  refine ensures_mono ?_ (hloop bonds v (Kernel.ofList bonds) ⟨hok, List.suffix_refl _, fun n => ?_⟩)
  · rintro v' k' ⟨hok', -, hk⟩
    exact ⟨hok', funext fun n => by rw [hk, if_neg (by simp)]⟩
  · split
    · rfl
    · next hn =>
      rw [leftOver, Kernel.ofList_eq_none hn]
      rfl

/-- The second loop takes every configured bond to what is asked for. -/
theorem addConfigured_loop (h : ActiveBonds bonds) (hc : ConfiguredBonds config)
    (hok : v.ok = true) :
    Ensures bondMachine (config.foldlM (addConfigured (copyActive supportsBond bonds)) v)
      (fun v' k' => v'.ok = true ∧ (∀ c ∈ config, Converged c (k' c.bsdName)) ∧
        ∀ n, n ∉ config.map (·.bsdName) → k' n = none)
      (leftOver config (Kernel.ofList bonds)) := by
  have hloop := ensures_foldlM (M := bondMachine)
    (g := addConfigured (copyActive supportsBond bonds))
    (fun todo v k => v.ok = true ∧ todo <:+ config ∧ k.Within (isConfiguredIn config) ∧
      (∀ n, n ∈ todo.map (·.bsdName) ∨ n ∉ config.map (·.bsdName) →
        k n = leftOver config (Kernel.ofList bonds) n) ∧
      ∀ c ∈ config, c.bsdName ∉ todo.map (·.bsdName) → Converged c (k c.bsdName))
    (fun v k hk => hk.2.2.1.exclusive hc.oneBond)
    (by
      rintro c todo v k ⟨hok', hsuffix, hwithin, hleft, hdone⟩
      have hmem : c ∈ config := hsuffix.subset List.mem_cons_self
      have hnot : c.bsdName ∉ todo.map (·.bsdName) := by
        have hnodup := hc.nodup.sublist (hsuffix.sublist.map (·.bsdName))
        exact (List.nodup_cons.mp hnodup).1
      have hallowed : ∀ m ∈ c.memberNames, isConfiguredIn config c.bsdName m :=
        fun m hm => ⟨c, hmem, rfl, hm⟩
      have hkn : k c.bsdName = leftOver config (Kernel.ofList bonds) c.bsdName :=
        hleft c.bsdName (Or.inl (by simp))
      -- what one bond is left as is all the loop needs
      have hnext : ∀ (v' : UpdateLocals) (k' : Kernel),
          (v'.ok = true ∧ ∃ o, Converged c o ∧ k' = Function.update k c.bsdName o) →
          v'.ok = true ∧ todo <:+ config ∧ k'.Within (isConfiguredIn config) ∧
          (∀ n, n ∈ todo.map (·.bsdName) ∨ n ∉ config.map (·.bsdName) →
            k' n = leftOver config (Kernel.ofList bonds) n) ∧
          ∀ c ∈ config, c.bsdName ∉ todo.map (·.bsdName) → Converged c (k' c.bsdName) := by
        rintro v' k' ⟨hok'', o, ho, rfl⟩
        refine ⟨hok'', (List.suffix_cons _ _).trans hsuffix, hwithin.update fun b hb m hm =>
          hallowed m (ho.members_subset b hb m hm), fun n hn => ?_, fun c' hc' hn => ?_⟩
        · have hne : n ≠ c.bsdName := by
            rintro rfl
            rcases hn with hn | hn
            · exact hnot hn
            · exact hn (List.mem_map_of_mem hmem)
          rw [Function.update_of_ne hne]
          refine hleft n (hn.imp_left fun hn => ?_)
          rw [List.map_cons]
          exact List.mem_cons_of_mem _ hn
        · by_cases heq : c'.bsdName = c.bsdName
          · obtain rfl := List.inj_on_of_nodup_map hc.nodup hc' hmem heq
            rwa [Function.update_self]
          · rw [Function.update_of_ne heq]
            refine hdone c' hc' fun hn => ?_
            rcases List.mem_cons.mp (List.map_cons ▸ hn) with hn | hn'
            · exact heq hn
            · exact absurd hn' ‹_›
      rw [addConfigured, find?_copyActive]
      cases hb : Kernel.ofList bonds c.bsdName with
      | none =>
        exact ensures_mono hnext (establish_spec hc.oneBond hwithin rfl hallowed
          (hc.nodup_members c hmem) (hc.supportsBond c hmem) hok')
      | some b =>
        refine ensures_mono hnext (updateExisting_spec (b := b) hc.oneBond hwithin rfl hallowed
          (hc.nodup_members c hmem)
          (h.nodup_members _ ((Kernel.ofList_eq_some h.nodup).mp hb)) (hc.supportsBond c hmem) hok' ?_)
        rw [hkn, leftOver, hb, Option.bind_some, find?_name hc.nodup hmem, Option.map_some])
  refine ensures_mono ?_ (hloop config v _ ⟨hok, List.suffix_refl _, leftOver_within_config,
    fun n _ => rfl, fun c hc' hn => absurd (List.mem_map_of_mem hc') hn⟩)
  rintro v' k' ⟨hok', -, -, hleft, hdone⟩
  refine ⟨hok', fun c hc' => hdone c hc' (by simp), fun n hn => ?_⟩
  rw [hleft n (Or.inr hn), leftOver]
  cases Kernel.ofList bonds n with
  | none => rfl
  | some b => rw [Option.bind_some, find?_eq_none_of_notMem hn, Option.map_none]

/-! ## The whole update -/

/-- The state of the kernel after the calls of a history, each of which did what it was to. -/
def kernelAfter (k : Kernel) (calls : List BondCall) : Kernel := calls.foldl bondApply k

/-- A run of calls that all succeed changes the kernel as the calls say. -/
theorem exec_eq_kernelAfter : ∀ (events : List (BondCall × Bool)) (k : Kernel),
    (∀ e ∈ events, e.2 = true) →
      bondMachine.exec k events = kernelAfter k (events.map (·.1)) := by
  intro events
  induction events with
  | nil => exact fun _ _ => rfl
  | cons e events ih =>
    intro k hall
    have he : e.2 = true := hall e List.mem_cons_self
    refine (ih (bondMachine.step k e.1 e.2) fun e' he' => hall e' (List.mem_cons_of_mem _ he')).trans ?_
    rw [he]
    rfl

/-- **Convergence.** Whatever environment the update runs in, if all its calls succeed it
returns `TRUE`, the kernel has exactly the configured bonds, and on the way no interface is in
two bonds and only current members are removed. -/
theorem bondInterfaceUpdateConfiguration_converges {config : List SCBondInterface}
    {bonds : List (BsdName × KernelBond)} (hconfig : ConfiguredBonds config)
    (hbonds : ActiveBonds bonds) (supportsBond : BsdName → Bool)
    (env : List (BondCall × Bool) → BondCall → Bool) {result : Option Bool}
    {history : List (BondCall × Bool)}
    (hrun : (bondInterfaceUpdateConfiguration (some config)
      (some (copyActive supportsBond bonds))).run env [] = (result, history))
    (hsuccess : ∀ e ∈ history, e.2 = true) :
    result = some true ∧
    (∀ c ∈ config, Converged c (kernelAfter (Kernel.ofList bonds) (history.map (·.1)) c.bsdName)) ∧
    (∀ n, n ∉ config.map (·.bsdName) →
      kernelAfter (Kernel.ofList bonds) (history.map (·.1)) n = none) ∧
    (∀ before after, history.map (·.1) = before ++ after →
      (kernelAfter (Kernel.ofList bonds) before).Exclusive) ∧
    (∀ before call after, history.map (·.1) = before ++ call :: after →
      (kernelAfter (Kernel.ofList bonds) before).Removes call) := by
  have hensures : Ensures bondMachine
      (bondInterfaceUpdateConfiguration (some config) (some (copyActive supportsBond bonds)))
      (fun ok k => ok = true ∧ (∀ c ∈ config, Converged c (k c.bsdName)) ∧
        ∀ n, n ∉ config.map (·.bsdName) → k n = none) (Kernel.ofList bonds) := by
    refine ensures_bind (removeVanished_loop hbonds rfl) ?_
    rintro v k ⟨hok, rfl⟩
    refine ensures_bind (ensures_inv (addConfigured_loop hbonds hconfig hok)) ?_
    rintro v' k' ⟨hinv, hok', hconv, hnone⟩
    exact ensures_ret hinv ⟨hok', hconv, hnone⟩
  obtain ⟨events, hevents, hsound⟩ := wp_sound env hensures []
  rw [hrun] at hevents hsound
  rw [List.nil_append] at hevents
  subst hevents
  obtain ⟨hsafe, ok, hresult, hok, hconv, hnone⟩ := hsound (Machine.answered_of_forall (fun _ _ => rfl) hsuccess)
  rw [exec_eq_kernelAfter _ _ hsuccess] at hconv hnone
  -- a prefix of the calls comes from a prefix of the history
  have hprefix : ∀ before after, history.map (·.1) = before ++ after →
      ∃ b a, history = b ++ a ∧ a.map (·.1) = after ∧
        bondMachine.exec (Kernel.ofList bonds) b = kernelAfter (Kernel.ofList bonds) before := by
    intro before after hsplit
    obtain ⟨b, a, rfl, rfl, rfl⟩ := List.map_eq_append_iff.mp hsplit
    exact ⟨b, a, rfl, rfl,
      exec_eq_kernelAfter _ _ fun e he => hsuccess e (List.mem_append_left _ he)⟩
  refine ⟨hresult.trans (congrArg some hok), hconv, hnone, fun before after hsplit => ?_,
    fun before call after hsplit => ?_⟩
  · obtain ⟨b, a, hhist, -, hexec⟩ := hprefix before after hsplit
    rw [← hexec]
    exact hsafe.inv_exec hhist
  · obtain ⟨b, a, hhist, ha, hexec⟩ := hprefix before (call :: after) hsplit
    obtain ⟨e, a', rfl, rfl, -⟩ := List.map_eq_cons_iff.mp ha
    rw [← hexec]
    exact hsafe.allowed_exec hhist

/-- `bond0` is to have `en0` and `en1` in place of `en1`, and `bond1`, which has `en0`, is no
longer configured. -/
theorem bondInterfaceUpdateConfiguration_converges_bond0 :
    let config : List SCBondInterface := [{
      bsdName := "bond0"
      interfaces := some [{ bsdName := "en0", supportsBond := true },
        { bsdName := "en1", supportsBond := true }]
      mode := some 0 }]
    let bonds : List (BsdName × KernelBond) := [("bond0", { mode := 1, members := ["en1"] }),
      ("bond1", { mode := 0, members := ["en0"] })]
    let run := (bondInterfaceUpdateConfiguration (some config)
      (some (copyActive (fun _ => true) bonds))).run (fun _ _ => true) []
    run.1 = some true ∧
    (∀ c ∈ config, Converged c (kernelAfter (Kernel.ofList bonds) (run.2.map (·.1)) c.bsdName)) ∧
    (∀ n, n ∉ config.map (·.bsdName) →
      kernelAfter (Kernel.ofList bonds) (run.2.map (·.1)) n = none) ∧
    (∀ before after, run.2.map (·.1) = before ++ after →
      (kernelAfter (Kernel.ofList bonds) before).Exclusive) ∧
    (∀ before call after, run.2.map (·.1) = before ++ call :: after →
      (kernelAfter (Kernel.ofList bonds) before).Removes call) := by
  intro config bonds run
  have hconfig : ConfiguredBonds config := by
    refine ⟨by decide, by decide, by decide, fun c hc c' hc' m _ _ => ?_⟩
    rw [List.mem_singleton.mp hc, List.mem_singleton.mp hc']
  have hbonds : ActiveBonds bonds := by
    refine ⟨by decide, by decide, ?_⟩
    have hall : ∀ b ∈ bonds, ∀ b' ∈ bonds, ∀ m ∈ b.2.members, m ∈ b'.2.members → b.1 = b'.1 := by
      decide
    exact fun b hb b' hb' m hm hm' => hall b hb b' hb' m hm hm'
  exact bondInterfaceUpdateConfiguration_converges hconfig hbonds (fun _ => true) (fun _ _ => true)
    rfl (by decide)

end ConfigdExtra
