import ConfigdExtra.NetworkInterface

/-!
# When equality and hashing of interfaces agree

`__SCNetworkInterfaceEqual` is reflexive and symmetric. It compares unique identifiers if both
objects have one and names if one has, so it is transitive, and agrees with the hash, only among
objects where the two comparisons do not meet.

* `equal_refl`, `equal_comm` — what holds of all interfaces.
* `InterfaceInfo.SameIdentifier`, `SCNetworkInterface.Alike` — equality in two comparisons.
* `Unmixed` — what keeps identifiers and names apart.
* `equal_trans`, `hash_eq_of_equal` — what holds of unmixed interfaces.
* `equal_coherent_iff` — equality is an equivalence that agrees with the hash exactly among
  unmixed interfaces.
-/

namespace ConfigdExtra

/-! ## Reflexivity and symmetry -/

/-- What equality means for two objects. -/
theorem equal_mk_iff {if1 if2 : InterfaceInfo}
    {bond1 bond2 bridge1 bridge2 : Option (List SCNetworkInterface)}
    {vlan1 vlan2 interface1 interface2 : Option SCNetworkInterface} :
    (SCNetworkInterface.mk if1 bond1 bridge1 vlan1 interface1).equal
        (.mk if2 bond2 bridge2 vlan2 interface2) = true ↔
      if1.sameDevice if2 = true ∧
      (if1.interfaceType = kSCNetworkInterfaceTypeBond →
        equalArrays bond1 bond2 = true ∧ if1.bondMode = if2.bondMode) ∧
      (if1.interfaceType = kSCNetworkInterfaceTypeBridge → equalArrays bridge1 bridge2 = true) ∧
      (if1.interfaceType = kSCNetworkInterfaceTypeVLAN →
        equalOption vlan1 vlan2 = true ∧ if1.vlanTag = if2.vlanTag) ∧
      equalOption interface1 interface2 = true := by
  rw [SCNetworkInterface.equal]
  simp only [Bool.and_eq_true, Bool.or_eq_true, decide_eq_true_eq, ne_eq, imp_iff_not_or,
    and_assoc]

/-- An interface has its own device. -/
theorem InterfaceInfo.sameDevice_refl (i : InterfaceInfo) : i.sameDevice i = true := by
  rw [sameDevice]
  cases i.entityDeviceUnique <;> simp

/-- The comparison of two devices does not prefer either. -/
theorem InterfaceInfo.sameDevice_comm (i j : InterfaceInfo) : i.sameDevice j = j.sameDevice i := by
  rw [sameDevice, sameDevice, decide_eq_decide.mpr (eq_comm (a := i.interfaceType)),
    decide_eq_decide.mpr (eq_comm (a := i.entityDevice))]
  congr 1
  cases i.entityDeviceUnique <;> cases j.entityDeviceUnique <;> cases i.name <;> cases j.name <;>
    first | rfl | exact decide_eq_decide.mpr eq_comm

theorem InterfaceInfo.interfaceType_of_sameDevice {i j : InterfaceInfo}
    (h : i.sameDevice j = true) : i.interfaceType = j.interfaceType := by
  rw [sameDevice, Bool.and_eq_true, Bool.and_eq_true] at h
  exact of_decide_eq_true h.1.1

theorem InterfaceInfo.entityDevice_of_sameDevice {i j : InterfaceInfo}
    (h : i.sameDevice j = true) : i.entityDevice = j.entityDevice := by
  rw [sameDevice, Bool.and_eq_true, Bool.and_eq_true] at h
  exact of_decide_eq_true h.1.2

mutual

/-- Equality is reflexive. -/
theorem equal_refl : ∀ i : SCNetworkInterface, i.equal i = true
  | .mk info bond bridge vlan interface =>
    equal_mk_iff.mpr ⟨info.sameDevice_refl, fun _ => ⟨equalArrays_refl bond, rfl⟩,
      fun _ => equalArrays_refl bridge, fun _ => ⟨equalOption_refl vlan, rfl⟩,
      equalOption_refl interface⟩

/-- The four comparisons call each other, and so do the proofs about them. -/
theorem equalArrays_refl : ∀ l : Option (List SCNetworkInterface), equalArrays l l = true
  | none => rfl
  | some l => equalLists_refl l

theorem equalLists_refl : ∀ l : List SCNetworkInterface, equalLists l l = true
  | [] => rfl
  | i :: l => by rw [equalLists, equal_refl i, equalLists_refl l, Bool.and_self]

theorem equalOption_refl : ∀ o : Option SCNetworkInterface, equalOption o o = true
  | none => rfl
  | some i => equal_refl i

end

mutual

/-- Equality is symmetric. -/
theorem equal_symm : ∀ i j : SCNetworkInterface, i.equal j = true → j.equal i = true
  | .mk info1 bond1 bridge1 vlan1 interface1, .mk info2 bond2 bridge2 vlan2 interface2, h => by
    obtain ⟨hdevice, hbond, hbridge, hvlan, hlayer⟩ := equal_mk_iff.mp h
    have htype := InterfaceInfo.interfaceType_of_sameDevice hdevice
    refine equal_mk_iff.mpr ⟨InterfaceInfo.sameDevice_comm info2 info1 ▸ hdevice, fun ht => ?_,
      fun ht => ?_, fun ht => ?_, equalOption_symm interface1 interface2 hlayer⟩
    · obtain ⟨hmembers, hmode⟩ := hbond (htype.trans ht)
      exact ⟨equalArrays_symm bond1 bond2 hmembers, hmode.symm⟩
    · exact equalArrays_symm bridge1 bridge2 (hbridge (htype.trans ht))
    · obtain ⟨hphysical, htag⟩ := hvlan (htype.trans ht)
      exact ⟨equalOption_symm vlan1 vlan2 hphysical, htag.symm⟩

/-- The same for the order of the two sides. -/
theorem equalArrays_symm : ∀ l l' : Option (List SCNetworkInterface),
    equalArrays l l' = true → equalArrays l' l = true
  | none, none, _ => rfl
  | some l, some l', h => equalLists_symm l l' h

theorem equalLists_symm : ∀ l l' : List SCNetworkInterface,
    equalLists l l' = true → equalLists l' l = true
  | [], [], _ => rfl
  | i :: l, i' :: l', h => by
    rw [equalLists, Bool.and_eq_true] at h ⊢
    exact ⟨equal_symm i i' h.1, equalLists_symm l l' h.2⟩

theorem equalOption_symm : ∀ o o' : Option SCNetworkInterface,
    equalOption o o' = true → equalOption o' o = true
  | none, none, _ => rfl
  | some i, some i', h => equal_symm i i' h

end

theorem equal_comm (i j : SCNetworkInterface) : i.equal j = j.equal i :=
  Bool.eq_iff_iff.mpr ⟨equal_symm i j, equal_symm j i⟩

/-! ## Unmixed interfaces -/

/-- With each interface the set has what it is made of or layered on. -/
def PartsClosed (S : Set SCNetworkInterface) : Prop := ∀ i ∈ S, ∀ p ∈ i.parts, p ∈ S

/-- Two names are the same, or one is missing. -/
def SameName (name1 name2 : Option String) : Prop := ∀ n1 ∈ name1, ∀ n2 ∈ name2, n1 = n2

/-- The unique identifiers are the same, or both are missing; or one is, and the names are the
same. -/
def InterfaceInfo.SameIdentifier (if1 if2 : InterfaceInfo) : Prop :=
  match if1.entityDeviceUnique, if2.entityDeviceUnique with
  | some unique1, some unique2 => unique1 = unique2
  | none, none => True
  | _, _ => SameName if1.name if2.name

/-- Equal but for names and identifiers: the type, the device, and what the interfaces are made of
or layered on. -/
def SCNetworkInterface.Alike : SCNetworkInterface → SCNetworkInterface → Prop
  | .mk if1 bond1 bridge1 vlan1 interface1, .mk if2 bond2 bridge2 vlan2 interface2 =>
    if1.interfaceType = if2.interfaceType ∧ if1.entityDevice = if2.entityDevice ∧
    (if1.interfaceType = kSCNetworkInterfaceTypeBond →
      equalArrays bond1 bond2 = true ∧ if1.bondMode = if2.bondMode) ∧
    (if1.interfaceType = kSCNetworkInterfaceTypeBridge → equalArrays bridge1 bridge2 = true) ∧
    (if1.interfaceType = kSCNetworkInterfaceTypeVLAN →
      equalOption vlan1 vlan2 = true ∧ if1.vlanTag = if2.vlanTag) ∧
    equalOption interface1 interface2 = true

/-- Two equal interfaces both have a unique identifier or both have none; or else they have no
device, and every interface that is alike has the identifier (or name) of both or of neither. -/
def Unmixed (S : Set SCNetworkInterface) : Prop :=
  ∀ i ∈ S, ∀ j ∈ S, i.equal j = true → i.info.entityDeviceUnique ≠ none →
    j.info.entityDeviceUnique = none →
      i.info.entityDevice = none ∧
        ∀ k ∈ S, i.Alike k → (i.info.SameIdentifier k.info ↔ j.info.SameIdentifier k.info)

/-- Equality is an equivalence, and equal interfaces have the same hash, whatever the hash of
strings. -/
structure EqualCoherent (S : Set SCNetworkInterface) : Prop where
  /-- reflexive -/
  refl : ∀ i ∈ S, i.equal i = true
  /-- symmetric -/
  symm : ∀ i ∈ S, ∀ j ∈ S, i.equal j = true → j.equal i = true
  /-- transitive -/
  trans : ∀ i ∈ S, ∀ j ∈ S, ∀ k ∈ S, i.equal j = true → j.equal k = true → i.equal k = true
  /-- equal interfaces have the same hash -/
  hash_eq : ∀ cfHash, ∀ i ∈ S, ∀ j ∈ S, i.equal j = true → i.hash cfHash = j.hash cfHash

variable {S : Set SCNetworkInterface}

/-! ## Names and identifiers apart -/

theorem sameName_comm {name1 name2 : Option String} : SameName name1 name2 ↔ SameName name2 name1 :=
  ⟨fun h n2 h2 n1 h1 => (h n1 h1 n2 h2).symm, fun h n1 h1 n2 h2 => (h n2 h2 n1 h1).symm⟩

theorem InterfaceInfo.SameIdentifier.symm {i j : InterfaceInfo} (h : i.SameIdentifier j) :
    j.SameIdentifier i := by
  rw [SameIdentifier] at h ⊢
  cases hi : i.entityDeviceUnique with
  | none =>
    cases hj : j.entityDeviceUnique with
    | none => trivial
    | some _ =>
      rw [hi, hj] at h
      exact sameName_comm.mp h
  | some _ =>
    rw [hi] at h
    cases hj : j.entityDeviceUnique with
    | none =>
      rw [hj] at h
      exact sameName_comm.mp h
    | some _ =>
      rw [hj] at h
      exact h.symm

/-- What the comparison of two devices looks at, without its branches. -/
theorem InterfaceInfo.sameDevice_iff {i j : InterfaceInfo} : i.sameDevice j = true ↔
    i.interfaceType = j.interfaceType ∧ i.entityDevice = j.entityDevice ∧ i.SameIdentifier j := by
  rw [sameDevice, SameIdentifier, Bool.and_eq_true, Bool.and_eq_true, decide_eq_true_eq,
    decide_eq_true_eq, and_assoc]
  refine and_congr_right fun _ => and_congr_right fun _ => ?_
  cases i.entityDeviceUnique <;> cases j.entityDeviceUnique <;> cases i.name <;> cases j.name <;>
    simp [SameName]

/-- Equality is two comparisons. -/
theorem equal_iff {i j : SCNetworkInterface} :
    i.equal j = true ↔ i.Alike j ∧ i.info.SameIdentifier j.info := by
  cases i with | mk info1 bond1 bridge1 vlan1 interface1 =>
  cases j with | mk info2 bond2 bridge2 vlan2 interface2 =>
  rw [equal_mk_iff, InterfaceInfo.sameDevice_iff, SCNetworkInterface.Alike]
  constructor
  · rintro ⟨⟨htype, hdevice, hunique⟩, hparts⟩
    exact ⟨⟨htype, hdevice, hparts⟩, hunique⟩
  · rintro ⟨⟨htype, hdevice, hparts⟩, hunique⟩
    exact ⟨⟨htype, hdevice, hunique⟩, hparts⟩

theorem SCNetworkInterface.Alike.symm {i j : SCNetworkInterface} (h : i.Alike j) : j.Alike i := by
  cases i with | mk info1 bond1 bridge1 vlan1 interface1 =>
  cases j with | mk info2 bond2 bridge2 vlan2 interface2 =>
  obtain ⟨htype, hdevice, hbond, hbridge, hvlan, hlayer⟩ := h
  refine ⟨htype.symm, hdevice.symm, fun ht => ?_, fun ht => ?_, fun ht => ?_,
    equalOption_symm interface1 interface2 hlayer⟩
  · obtain ⟨hmembers, hmode⟩ := hbond (htype.trans ht)
    exact ⟨equalArrays_symm bond1 bond2 hmembers, hmode.symm⟩
  · exact equalArrays_symm bridge1 bridge2 (hbridge (htype.trans ht))
  · obtain ⟨hphysical, htag⟩ := hvlan (htype.trans ht)
    exact ⟨equalOption_symm vlan1 vlan2 hphysical, htag.symm⟩

/-- Equality is transitive on the interfaces of three lists. -/
def TransOn (l l' l'' : List SCNetworkInterface) : Prop :=
  ∀ p ∈ l, ∀ p' ∈ l', ∀ p'' ∈ l'', p.equal p' = true → p'.equal p'' = true → p.equal p'' = true

/-- Where the comparison is transitive on the members of three lists, it is on the lists. -/
theorem TransOn.lists : ∀ {l l' l'' : List SCNetworkInterface}, TransOn l l' l'' →
    equalLists l l' = true → equalLists l' l'' = true → equalLists l l'' = true
  | [], [], [], _, _, _ => rfl
  | i :: l, i' :: l', i'' :: l'', htrans, h, h' => by
    rw [equalLists, Bool.and_eq_true] at h h' ⊢
    constructor
    · exact htrans i List.mem_cons_self i' List.mem_cons_self i'' List.mem_cons_self h.1 h'.1
    · refine TransOn.lists (fun p hp p' hp' p'' hp'' => ?_) h.2 h'.2
      exact htrans p (List.mem_cons_of_mem _ hp) p' (List.mem_cons_of_mem _ hp') p''
        (List.mem_cons_of_mem _ hp'')

theorem TransOn.arrays : ∀ {l l' l'' : Option (List SCNetworkInterface)},
    TransOn (l.getD []) (l'.getD []) (l''.getD []) →
    equalArrays l l' = true → equalArrays l' l'' = true → equalArrays l l'' = true
  | none, none, none, _, _, _ => rfl
  | some _, some _, some _, htrans, h, h' => TransOn.lists htrans h h'

/-- And so it is for the layers below, which may be missing. -/
theorem TransOn.options : ∀ {o o' o'' : Option SCNetworkInterface},
    TransOn o.toList o'.toList o''.toList →
    equalOption o o' = true → equalOption o' o'' = true → equalOption o o'' = true
  | none, none, none, _, _, _ => rfl
  | some _, some _, some _, htrans, h, h' =>
    htrans _ List.mem_cons_self _ List.mem_cons_self _ List.mem_cons_self h h'

/-- Likeness is transitive if equality is, on what the interfaces are made of. -/
theorem SCNetworkInterface.Alike.trans {i j k : SCNetworkInterface}
    (htrans : TransOn i.parts j.parts k.parts) (hij : i.Alike j) (hjk : j.Alike k) :
    i.Alike k := by
  cases i with | mk info1 bond1 bridge1 vlan1 interface1 =>
  cases j with | mk info2 bond2 bridge2 vlan2 interface2 =>
  cases k with | mk info3 bond3 bridge3 vlan3 interface3 =>
  obtain ⟨htype, hdevice, hbond, hbridge, hvlan, hlayer⟩ := hij
  obtain ⟨htype', hdevice', hbond', hbridge', hvlan', hlayer'⟩ := hjk
  simp only [TransOn, parts, List.mem_append] at htrans
  refine ⟨htype.trans htype', hdevice.trans hdevice', fun ht => ?_, fun ht => ?_, fun ht => ?_, ?_⟩
  · obtain ⟨hmembers, hmode⟩ := hbond ht
    obtain ⟨hmembers', hmode'⟩ := hbond' (htype ▸ ht)
    refine ⟨TransOn.arrays (fun p hp p' hp' p'' hp'' => ?_) hmembers hmembers',
      hmode.trans hmode'⟩
    exact htrans p (.inl (.inl (.inl hp))) p' (.inl (.inl (.inl hp'))) p''
      (.inl (.inl (.inl hp'')))
  · refine TransOn.arrays (fun p hp p' hp' p'' hp'' => ?_) (hbridge ht) (hbridge' (htype ▸ ht))
    exact htrans p (.inl (.inl (.inr hp))) p' (.inl (.inl (.inr hp'))) p''
      (.inl (.inl (.inr hp'')))
  · obtain ⟨hphysical, htag⟩ := hvlan ht
    obtain ⟨hphysical', htag'⟩ := hvlan' (htype ▸ ht)
    refine ⟨TransOn.options (fun p hp p' hp' p'' hp'' => ?_) hphysical hphysical',
      htag.trans htag'⟩
    exact htrans p (.inl (.inr hp)) p' (.inl (.inr hp')) p'' (.inl (.inr hp''))
  · refine TransOn.options (fun p hp p' hp' p'' hp'' => ?_) hlayer hlayer'
    exact htrans p (.inr hp) p' (.inr hp') p'' (.inr hp'')

mutual

/-- What holds of an interface if it holds of what it is made of or layered on, holds of all. -/
theorem SCNetworkInterface.parts_induction {P : SCNetworkInterface → Prop}
    (h : ∀ i : SCNetworkInterface, (∀ p ∈ i.parts, P p) → P i) : ∀ i : SCNetworkInterface, P i
  | .mk info bond bridge vlan interface => h _ fun p hp => by
    simp only [SCNetworkInterface.parts, List.mem_append] at hp
    rcases hp with ((hp | hp) | hp) | hp
    · exact array_induction h bond p hp
    · exact array_induction h bridge p hp
    · exact option_induction h vlan p hp
    · exact option_induction h interface p hp

/-- The parts of an interface are smaller than it, so a property that goes from the parts to the
whole holds of every interface. This is said at each place that parts are kept. -/
theorem array_induction {P : SCNetworkInterface → Prop}
    (h : ∀ i : SCNetworkInterface, (∀ p ∈ i.parts, P p) → P i) :
    ∀ l : Option (List SCNetworkInterface), ∀ p ∈ l.getD [], P p
  | none, _, hp => absurd hp List.not_mem_nil
  | some l, p, hp => list_induction h l p hp

theorem list_induction {P : SCNetworkInterface → Prop}
    (h : ∀ i : SCNetworkInterface, (∀ p ∈ i.parts, P p) → P i) :
    ∀ l : List SCNetworkInterface, ∀ p ∈ l, P p
  | [], p, hp => absurd hp List.not_mem_nil
  | i :: l, p, hp => by
    rcases List.mem_cons.mp hp with heq | hp
    · rw [heq]
      exact SCNetworkInterface.parts_induction h i
    · exact list_induction h l p hp

theorem option_induction {P : SCNetworkInterface → Prop}
    (h : ∀ i : SCNetworkInterface, (∀ p ∈ i.parts, P p) → P i) :
    ∀ o : Option SCNetworkInterface, ∀ p ∈ o.toList, P p
  | none, _, hp => absurd hp List.not_mem_nil
  | some i, _, hp => List.mem_singleton.mp hp ▸ SCNetworkInterface.parts_induction h i

end

/-! ## What holds of unmixed interfaces -/

/-- Equal interfaces of an unmixed set both have an identifier or both have none, or nothing that
is alike tells them apart. -/
theorem Unmixed.cases {i j : SCNetworkInterface} (hS : Unmixed S) (hi : i ∈ S) (hj : j ∈ S)
    (h : i.equal j = true) :
    (i.info.entityDeviceUnique = none ↔ j.info.entityDeviceUnique = none) ∨
      i.info.entityDevice = none ∧ ∀ k ∈ S, i.Alike k → j.Alike k →
        (i.info.SameIdentifier k.info ↔ j.info.SameIdentifier k.info) := by
  by_cases hui : i.info.entityDeviceUnique = none
  · by_cases huj : j.info.entityDeviceUnique = none
    · exact Or.inl (iff_of_true hui huj)
    · obtain ⟨hdevice, hsame⟩ := hS j hj i hi (equal_symm i j h) huj hui
      refine Or.inr ⟨?_, fun k hk _ hjk => (hsame k hk hjk).symm⟩
      cases i with | mk info1 _ _ _ _ =>
      cases j with | mk info2 _ _ _ _ =>
      exact (InterfaceInfo.entityDevice_of_sameDevice (equal_mk_iff.mp h).1).trans hdevice
  · by_cases huj : j.info.entityDeviceUnique = none
    · obtain ⟨hdevice, hsame⟩ := hS i hi j hj h hui huj
      exact Or.inr ⟨hdevice, fun k hk hik _ => hsame k hk hik⟩
    · exact Or.inl (iff_of_false hui huj)

/-- Identifiers are compared transitively where names do not come in. -/
theorem InterfaceInfo.SameIdentifier.trans {i j k : InterfaceInfo} (hij : i.SameIdentifier j)
    (hjk : j.SameIdentifier k) (hu : i.entityDeviceUnique = none ↔ j.entityDeviceUnique = none)
    (hu' : j.entityDeviceUnique = none ↔ k.entityDeviceUnique = none) : i.SameIdentifier k := by
  rw [SameIdentifier] at hij hjk ⊢
  cases hi : i.entityDeviceUnique with
  | none =>
    have hj := hu.mp hi
    rw [hu'.mp hj]
    trivial
  | some u =>
    cases hj : j.entityDeviceUnique with
    | none => rw [hu.mpr hj] at hi; cases hi
    | some u' =>
      cases hk : k.entityDeviceUnique with
      | none => rw [hu'.mpr hk] at hj; cases hj
      | some u'' =>
        rw [hi, hj] at hij
        rw [hj, hk] at hjk
        exact Eq.trans hij hjk

/-- Equality is transitive among unmixed interfaces. -/
theorem equal_trans (hclosed : PartsClosed S) (hS : Unmixed S) (i : SCNetworkInterface) :
    ∀ j k : SCNetworkInterface, i ∈ S → j ∈ S → k ∈ S → i.equal j = true → j.equal k = true →
      i.equal k = true := by
  induction i using SCNetworkInterface.parts_induction with
  | h i ih =>
  intro j k hi hj hk hij hjk
  obtain ⟨halike, hidentifier⟩ := equal_iff.mp hij
  obtain ⟨halike', hidentifier'⟩ := equal_iff.mp hjk
  have hik : i.Alike k := halike.trans (fun p hp p' hp' p'' hp'' =>
    ih p hp p' p'' (hclosed i hi p hp) (hclosed j hj p' hp') (hclosed k hk p'' hp'')) halike'
  refine equal_iff.mpr ⟨hik, ?_⟩
  rcases hS.cases hi hj hij with hu | ⟨-, hsame⟩
  · rcases hS.cases hj hk hjk with hu' | ⟨-, hsame⟩
    · exact hidentifier.trans hidentifier' hu hu'
    · exact ((hsame i hi halike.symm hik.symm).mp hidentifier.symm).symm
  · exact (hsame k hk hik halike').mpr hidentifier'

/-- Equal interfaces are of one device. -/
theorem sameDevice_of_equal {i j : SCNetworkInterface} (h : i.equal j = true) :
    i.info.sameDevice j.info = true := by
  cases i with | mk info1 _ _ _ _ =>
  cases j with | mk info2 _ _ _ _ =>
  exact (equal_mk_iff.mp h).1

/-- Equal interfaces of an unmixed set have the same hash. -/
theorem hash_eq_of_equal (hS : Unmixed S) (cfHash : String → UInt64) {i j : SCNetworkInterface}
    (hi : i ∈ S) (hj : j ∈ S) (h : i.equal j = true) : i.hash cfHash = j.hash cfHash := by
  have hsame := sameDevice_of_equal h
  have hdevice := InterfaceInfo.entityDevice_of_sameDevice hsame
  rw [SCNetworkInterface.hash, SCNetworkInterface.hash, ← hdevice]
  cases hd : i.info.entityDevice with
  | none => rfl
  | some device =>
    rcases hS.cases hi hj h with hu | ⟨hnone, -⟩
    · obtain ⟨-, -, hunique⟩ := InterfaceInfo.sameDevice_iff.mp hsame
      rw [InterfaceInfo.SameIdentifier] at hunique
      cases hui : i.info.entityDeviceUnique with
      | none => rw [hu.mp hui]
      | some u =>
        cases huj : j.info.entityDeviceUnique with
        | none => rw [hu.mpr huj] at hui; cases hui
        | some u' =>
          rw [hui, huj] at hunique
          rw [show u = u' from hunique]
    · rw [hnone] at hd
      cases hd

/-! ## Coherence -/

/-- A device is hashed with its identifier or without: two different strings. -/
theorem device_ne_unique (device unique : String) : device ≠ device ++ "+" ++ unique := by
  intro h
  have hlength := congrArg String.length h
  rw [String.length_append, String.length_append, show "+".length = 1 from rfl] at hlength
  omega

/-- **Coherence.** Among the interfaces of a set, and with each what it is made of or layered
on, equality is an equivalence that agrees with the hash if and only if the set is unmixed. -/
theorem equal_coherent_iff {S : Set SCNetworkInterface} (hclosed : PartsClosed S) :
    EqualCoherent S ↔ Unmixed S := by
  constructor
  · intro h i hi j hj hij hui huj
    have hdevice := InterfaceInfo.entityDevice_of_sameDevice (sameDevice_of_equal hij)
    constructor
    · cases hd : i.info.entityDevice with
      | none => rfl
      | some device =>
        obtain ⟨unique, hunique⟩ := Option.ne_none_iff_exists'.mp hui
        -- a hash of strings that tells the two strings apart
        have hhash := h.hash_eq (fun s => if s = device then 0 else 1) i hi j hj hij
        rw [SCNetworkInterface.hash, SCNetworkInterface.hash, ← hdevice, hd, hunique, huj] at hhash
        dsimp only at hhash
        rw [if_neg (device_ne_unique device unique).symm, if_pos rfl] at hhash
        exact absurd hhash (by decide)
    · intro k hk hik
      have hji := h.symm i hi j hj hij
      have hjk : j.Alike k := (equal_iff.mp hji).1.trans (fun p hp p' hp' p'' hp'' =>
        h.trans p (hclosed j hj p hp) p' (hclosed i hi p' hp') p'' (hclosed k hk p'' hp'')) hik
      constructor
      · intro hsame
        have hequal := h.trans j hj i hi k hk hji (equal_iff.mpr ⟨hik, hsame⟩)
        exact (equal_iff.mp hequal).2
      · intro hsame
        have hequal := h.trans i hi j hj k hk hij (equal_iff.mpr ⟨hjk, hsame⟩)
        exact (equal_iff.mp hequal).2
  · intro hS
    exact {
      refl := fun i _ => equal_refl i
      symm := fun i _ j _ => equal_symm i j
      trans := fun i hi j hj k hk => equal_trans hclosed hS i j k hi hj hk
      hash_eq := fun cfHash i hi j hj => hash_eq_of_equal hS cfHash hi hj }

/-- A modem. -/
def modem (unique : Option String) : SCNetworkInterface :=
  .mk { InterfaceInfo.new kSCNetworkInterfaceTypeModem with
    name := some "USB Modem"
    entityDevice := some "usbmodem"
    entityDeviceUnique := unique } none none none none

/-- An interface that is layered on a modem. -/
def modemLayer (name : String) (unique : Option String) : SCNetworkInterface :=
  .mk { InterfaceInfo.new "PPP" with name := some name } none none none (some (modem unique))

/-- Two modems with a layer on each of them, and a bond of both layers. -/
def twoModems : Set SCNetworkInterface :=
  {modem (some "1"), modem (some "2"), modemLayer "PPP" (some "1"), modemLayer "PPP" (some "2"),
    .mk { InterfaceInfo.new kSCNetworkInterfaceTypeBond with entityDevice := some "bond0" }
      (some [modemLayer "PPP" (some "1"), modemLayer "PPP" (some "2")]) none none none}

/-- Both modems have identifiers, and their layers have none. -/
theorem equal_coherent_iff_twoModems : EqualCoherent twoModems ↔ Unmixed twoModems := by
  refine equal_coherent_iff fun i hi p hp => ?_
  rcases hi with rfl | rfl | rfl | rfl | rfl
  · cases hp
  · cases hp
  · exact .inl (List.mem_singleton.mp hp)
  · exact .inr (.inl (List.mem_singleton.mp hp))
  · rcases hp with _ | ⟨_, _ | ⟨_, hp⟩⟩
    · exact .inr (.inr (.inl rfl))
    · exact .inr (.inr (.inr (.inl rfl)))
    · cases hp

/-- A modem without a unique identifier equals two that have different ones. -/
theorem modems_not_coherent : ¬ EqualCoherent Set.univ ∧
    (modem (some "1")).equal (modem none) = true ∧ (modem none).equal (modem (some "2")) = true ∧
    (modem (some "1")).equal (modem (some "2")) = false := by
  have hleft : (modem (some "1")).equal (modem none) = true := by decide
  have hright : (modem none).equal (modem (some "2")) = true := by decide
  have hneq : (modem (some "1")).equal (modem (some "2")) = false := by decide
  refine ⟨fun h => ?_, hleft, hright, hneq⟩
  have htrans := h.trans _ (Set.mem_univ _) _ (Set.mem_univ _) _ (Set.mem_univ _) hleft hright
  rw [hneq] at htrans
  cases htrans

end ConfigdExtra
