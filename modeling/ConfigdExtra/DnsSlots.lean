import ConfigdExtra.DnsPointers

/-!
# The slots of the lists of a DNS configuration

The number of slots that are claimed for a list is taken from the header, modulo `2 ^ 32` bytes;
the number of stores is that of the attributes.

* `SlotStore.InClaim`, `StoresClaimed` — stores are inside the claims for their lists.
* `HasSlot`, `SlotsLeft` — the list that gets the next pointer has a slot for it.
* `storesClaimed_step_iff`, `storesClaimed_of_slotsLeft` — the stores are inside the claims as
  long as there are slots left, and only then.
* `surplusNameserver_not_storesClaimed` — they are not inside the claims for every buffer.
-/

namespace ConfigdExtra

open Memory (pointerSize)
open Program (Reaches GuardedReaches)

/-! ## Slots -/

/-- The store hits a slot of the range that was claimed for its list. -/
def SlotStore.InClaim (t : SlotStore) : Prop :=
  t.index < t.claim.slots ∧ t.address = t.claim.start + pointerSize * t.index

instance (t : SlotStore) : Decidable t.InClaim := inferInstanceAs (Decidable (_ ∧ _))

/-- All stores so far hit slots of their lists. -/
def StoresClaimed (s : ExpandState) : Prop := ∀ t ∈ s.world.trace, t.InClaim

instance : DecidablePred StoresClaimed := fun _ => inferInstanceAs (Decidable (∀ t ∈ _, _))

/-- A list of `n` pointers, `count` of which have been stored, has a slot for one more, or there
is no list at all. Its size in bytes is a `uint32_t`. -/
def HasSlot (n count : ℕ) : Prop := n % 2 ^ 29 = 0 ∨ count < n % 2 ^ 29

instance (n count : ℕ) : Decidable (HasSlot n count) := inferInstanceAs (Decidable (_ ∨ _))

/-- The list that gets one more pointer in the next step, if there is one, has a slot for it. -/
def SlotsLeft (L : DnsLayout) (reg : Region) (m : Memory) : Point → Prop
  | .resolver c k v =>
    (attributeSize ≤ v.nAttribute → ∀ l ∈ ResolverList.all,
      resolverTarget m v.attributePtr = some (.list l) →
        HasSlot (L.resolver.values m v.resolver (.n l)) (v.count l)) ∧
    (v.nAttribute < attributeSize →
      (∀ l ∈ ResolverList.all, v.count l % 2 ^ 32 = L.resolver.values m v.resolver (.n l)) →
        HasSlot (L.config.values m reg.start (.n k)) (c.count k))
  | _ => True

instance (L : DnsLayout) (reg : Region) (m : Memory) : DecidablePred (SlotsLeft L reg m)
  | .resolver _ _ _ => inferInstanceAs (Decidable (_ ∧ _))
  | .config _ | .configNext _ | .resolverNext _ _ _ | .returned _ | .crashed => isTrue trivial

section

variable {L : DnsLayout} {reg : Region} {m : Memory} {c : ConfigLoop} {k : ResolverKind}
  {v : ResolverLoop} {l : ResolverList}

theorem slotsLeft_list_iff (hv : attributeSize ≤ v.nAttribute)
    (htarget : resolverTarget m v.attributePtr = some (.list l)) :
    SlotsLeft L reg m (.resolver c k v) ↔
      HasSlot (L.resolver.values m v.resolver (.n l)) (v.count l) := by
  refine ⟨fun hslots => hslots.1 hv l l.mem_all htarget, fun hslot => ⟨fun _ l' _ hl' => ?_,
    fun hv' => absurd hv (Nat.not_le.mpr hv')⟩⟩
  rw [htarget] at hl'
  cases hl'
  exact hslot

theorem slotsLeft_of_ne (hv : attributeSize ≤ v.nAttribute)
    (htarget : ∀ l, resolverTarget m v.attributePtr ≠ some (.list l)) :
    SlotsLeft L reg m (.resolver c k v) :=
  ⟨fun _ l _ hl => absurd hl (htarget l), fun hv' => absurd hv (Nat.not_le.mpr hv')⟩

theorem slotsLeft_add_iff (hv : v.nAttribute < attributeSize)
    (hcount : ∀ l, v.count l % 2 ^ 32 = L.resolver.values m v.resolver (.n l)) :
    SlotsLeft L reg m (.resolver c k v) ↔
      HasSlot (L.config.values m reg.start (.n k)) (c.count k) :=
  ⟨fun hslots => hslots.2 hv fun l _ => hcount l,
    fun hslot => ⟨fun hv' => absurd hv (Nat.not_lt.mpr hv'), fun _ _ => hslot⟩⟩

end

theorem slots_listNeed (n : ℕ) : listNeed n / pointerSize = n % 2 ^ 29 := by
  simp only [listNeed, pointerSize]
  omega

theorem Claimed.slots_eq {stop n : ℕ} {c : Claim} (h : Claimed stop n c) :
    c.slots = n % 2 ^ 29 := by
  rw [Claim.slots, h.need, slots_listNeed]

/-- There is a list when it has slots. -/
theorem Claimed.list_of_ne {stop n : ℕ} {c : Claim} (h : Claimed stop n c) (hlist : c.list ≠ 0) :
    c.list = c.start ∧ n % 2 ^ 29 ≠ 0 := by
  have hneed : c.need ≠ 0 := fun hneed => hlist (if_pos hneed)
  refine ⟨if_neg hneed, ?_⟩
  rw [h.need] at hneed
  simp only [listNeed, pointerSize] at hneed
  omega

/-- A list without a slot for one more pointer is there. -/
theorem Claimed.list_ne_of_not {stop n index : ℕ} {c : Claim} (h : Claimed stop n c)
    (hstop : 0 < stop) (hslot : ¬ HasSlot n index) : c.list ≠ 0 := by
  have hneed : c.need ≠ 0 := by
    rw [h.need]
    simp only [HasSlot, not_or] at hslot
    simp only [listNeed, pointerSize]
    omega
  rw [Claim.list, if_neg hneed]
  exact (hstop.trans_le h.lo).ne'

/-- The next store to a list hits a slot of it if and only if there is one left. -/
theorem Claimed.inClaim_iff {stop n index : ℕ} {c : Claim} (h : Claimed stop n c)
    (hlist : c.list ≠ 0) : (slotStore c.list index c).InClaim ↔ HasSlot n index := by
  obtain ⟨hstart, hslots⟩ := h.list_of_ne hlist
  simp only [SlotStore.InClaim, slotStore, hstart, h.slots_eq, and_true, HasSlot]
  exact ⟨.inr, fun h => h.resolve_left hslots⟩

/-! ## Steps -/

section

variable {L : DnsLayout} {data m : Memory} {dataRef dataLen : ℕ} {reg : Region}

theorem storesClaimed_congr {w w' : World SlotStore} {p q : Point}
    (h : StoresClaimed ⟨p, w⟩) (htrace : w'.trace = w.trace) : StoresClaimed ⟨q, w'⟩ := by
  unfold StoresClaimed
  rw [htrace]
  exact h

theorem storesClaimed_concat {w w' : World SlotStore} {t : SlotStore} {p q : Point}
    (h : StoresClaimed ⟨p, w⟩) (htrace : w'.trace = w.trace ++ [t]) :
    StoresClaimed ⟨q, w'⟩ ↔ t.InClaim := by
  simp only [StoresClaimed, htrace, List.forall_mem_append, List.forall_mem_singleton]
  exact ⟨fun h => h.2, fun ht => ⟨h, ht⟩⟩

/-- The store of an attribute to a list of its resolver. -/
theorem ResolverBusy.inClaim_iff {mem : Memory} {c : ConfigLoop} {k : ResolverKind}
    {v : ResolverLoop} {done seen : List ℕ} {front : ℕ} {l : ResolverList}
    (h : ResolverBusy L reg dataLen m mem c k v done seen front)
    (hresolver : v.resolver = c.attributePtr + attributeSize)
    (hlist : L.resolver.values mem v.resolver (.list l) ≠ 0) :
    (v.slot L mem l).InClaim ↔ HasSlot (L.resolver.values mem v.resolver (.n l)) (v.count l) := by
  rw [hresolver, h.header.list_eq] at hlist
  rw [ResolverLoop.slot, hresolver, h.header.list_eq, h.header.n_eq]
  exact (h.header.claimed l).inClaim_iff hlist

/-- The store of a resolver to a list of the configuration. -/
theorem ConfigKept.inClaim_iff {mem : Memory} {c : ConfigLoop} {done as : List ℕ} {p : ℕ}
    {k : ResolverKind} (h : ConfigKept L reg dataLen m mem c.claim c.count done p as)
    (hlist : L.config.values mem reg.start (.list k) ≠ 0) :
    (c.slot L reg mem k).InClaim ↔ HasSlot (L.config.values mem reg.start (.n k)) (c.count k) := by
  rw [h.list_eq] at hlist
  rw [ConfigLoop.slot, h.list_eq, h.n_eq]
  exact (h.claimed k).inClaim_iff hlist

/-- In the loop of a resolver a step does not fail, but for want of a list. -/
theorem proceeds_of_slots (haccepted : Accepted L data dataRef dataLen reg m) {c : ConfigLoop}
    {k : ResolverKind} {v : ResolverLoop} {w : World SlotStore}
    (hinv : ExpandInv L reg dataLen m ⟨.resolver c k v, w⟩)
    (hslots : ¬ SlotsLeft L reg w.memory (.resolver c k v)) :
    Proceeds L reg w.memory (.resolver c k v) := by
  obtain ⟨⟨hconfig, hscan⟩, -, done, seen, hbusy⟩ := hinv
  have hresolver := hscan.resolver
  have hpos : 0 < reg.start + dataLen := Nat.add_pos_left haccepted.allocated _
  have hle := haccepted.size_le
  have hlo := hconfig.lo
  have hhi := hconfig.hi
  have hend := hscan.hi
  have hbegin := hscan.lo
  have hfills := hscan.fills
  have hpasses := hscan.passes
  have hresolverSize : L.resolverBufSize = L.resolver.size + 4 := rfl
  have hconfigSize : L.configBufSize = L.config.size + 8 := rfl
  have hstop : reg.stop = reg.start + reg.size := rfl
  refine ⟨⟨by omega, by omega⟩, fun hv => ⟨⟨by omega, by omega⟩, fun l hl => ?_⟩, fun hv => ?_⟩
  · rw [slotsLeft_list_iff hv hl, hresolver, hbusy.header.n_eq] at hslots
    rw [hresolver, hbusy.header.list_eq]
    exact (hbusy.header.claimed l).list_ne_of_not hpos hslots
  · have hcount : ∀ l ∈ ResolverList.all,
        v.count l % 2 ^ 32 = L.resolver.values w.memory v.resolver (.n l) := by
      by_contra hcount
      exact hslots ⟨fun hv' => absurd hv (Nat.not_lt.mpr hv'), fun _ h => absurd h hcount⟩
    have hcount : ∀ l, v.count l % 2 ^ 32 = L.resolver.values w.memory v.resolver (.n l) :=
      fun l => hcount l l.mem_all
    rw [slotsLeft_add_iff hv hcount, hbusy.config.n_eq] at hslots
    refine ⟨hcount, ⟨le_rfl, by omega⟩, ?_⟩
    rw [hbusy.config.list_eq]
    exact (hbusy.config.claimed k).list_ne_of_not hpos hslots

/-- A step stores inside the claims if and only if there is a slot left. -/
theorem storesClaimed_step_iff (haccepted : Accepted L data dataRef dataLen reg m)
    {s : ExpandState} (hinv : ExpandInv L reg dataLen m s) (h : StoresClaimed s) :
    StoresClaimed (expandStep L reg s) ↔ SlotsLeft L reg s.world.memory s.point := by
  have heffect := hinv.effect
  rcases hs' : expandStep L reg s with ⟨q, w'⟩
  rw [hs'] at heffect
  rcases s with ⟨p, w⟩
  cases heffect with
  | failed e htrace hfails =>
    refine iff_of_true (storesClaimed_congr h htrace) ?_
    by_contra hslots
    cases p with
    | resolver c k v => exact hfails (proceeds_of_slots haccepted hinv hslots)
    | _ => exact hslots trivial
  | listFailed hv htarget hlist _ htrace =>
    obtain ⟨⟨-, hscan⟩, -, done, seen, hbusy⟩ := hinv
    rw [storesClaimed_concat h htrace, hbusy.inClaim_iff hscan.resolver hlist]
    exact (slotsLeft_list_iff hv htarget).symm
  | addFailed hv hcount hlist _ htrace =>
    obtain ⟨-, -, done, seen, hbusy⟩ := hinv
    rw [storesClaimed_concat h htrace, hbusy.config.inClaim_iff hlist]
    exact (slotsLeft_add_iff hv hcount).symm
  | list hv htarget hlist _ =>
    obtain ⟨⟨-, hscan⟩, -, done, seen, hbusy⟩ := hinv
    rw [storesClaimed_concat h rfl, hbusy.inClaim_iff hscan.resolver hlist]
    exact (slotsLeft_list_iff hv htarget).symm
  | add hv hcount hlist _ =>
    obtain ⟨-, -, done, seen, hbusy⟩ := hinv
    rw [storesClaimed_concat h rfl, hbusy.config.inClaim_iff hlist]
    exact (slotsLeft_add_iff hv hcount).symm
  | field hv htarget _ =>
    exact iff_of_true (storesClaimed_congr h rfl) (slotsLeft_of_ne hv fun l => by simp [htarget])
  | other hv htarget =>
    exact iff_of_true (storesClaimed_congr h rfl) (slotsLeft_of_ne hv fun l => by simp [htarget])
  | rest hstop =>
    refine iff_of_true (storesClaimed_congr h rfl) ?_
    cases q with
    | resolver c k v => exact hstop.elim
    | _ => trivial
  | enter _ _ _ _ _ _ _ hw' => exact iff_of_true (storesClaimed_congr h hw'.trace) trivial
  | finish _ _ => exact iff_of_true (storesClaimed_congr h rfl) trivial
  | pass _ _ => exact iff_of_true (storesClaimed_congr h rfl) trivial
  | next => exact iff_of_true (storesClaimed_congr h rfl) trivial
  | nextOfResolver => exact iff_of_true (storesClaimed_congr h rfl) trivial

theorem Accepted.storesClaimed_start (h : Accepted L data dataRef dataLen reg m) :
    StoresClaimed (expandStart L reg m) := by
  obtain ⟨-, hend⟩ := h.wholePadding_eq
  have htrace : (expandStart L reg m).world.trace = [] := by
    refine ofResult_ensures (R := fun _ w => w.trace = []) ?_
    refine Prog.ensures_mono ?_ (fun _ _ hfailed => hfailed.1)
      (bufferExpandBegin_spec L reg (w := ⟨m, []⟩) (hend.trans_le h.addressable.le))
    rintro _ w' ⟨c, -, -, -, -, -, -, -, hw'⟩
    exact hw'.trace
  unfold StoresClaimed
  rw [htrace]
  exact List.forall_mem_nil _

end

/-- **Slots.** In every run of the expansion of an accepted buffer whose steps find lengths that
fit and a slot for each pointer, every store to a list hits a slot that was claimed for it. When all
lengths fit, every store of every run does so if and only if there is always such a slot. -/
theorem storesClaimed_of_slotsLeft (L : DnsLayout) (data m : Memory) (dataRef dataLen : ℕ)
    (reg : Region) (haccepted : Accepted L data dataRef dataLen reg m) :
    (∀ s, GuardedReaches (expandStep L reg)
      (fun s => LengthsFit s.world.memory s.point ∧ SlotsLeft L reg s.world.memory s.point)
      (expandStart L reg m) s → StoresClaimed s) ∧
    ((∀ s, Reaches (expandStep L reg) (expandStart L reg m) s →
        LengthsFit s.world.memory s.point) →
      ((∀ s, Reaches (expandStep L reg) (expandStart L reg m) s → StoresClaimed s) ↔
        ∀ s, Reaches (expandStep L reg) (expandStart L reg m) s →
          SlotsLeft L reg s.world.memory s.point)) := by
  have hstep : ∀ s, ExpandInv L reg dataLen m s ∧ StoresClaimed s →
      LengthsFit s.world.memory s.point → SlotsLeft L reg s.world.memory s.point →
      ExpandInv L reg dataLen m (expandStep L reg s) ∧ StoresClaimed (expandStep L reg s) :=
    fun s hs hfit hslots => ⟨haccepted.inv_step hs.1 hfit,
      (storesClaimed_step_iff haccepted hs.1 hs.2).mpr hslots⟩
  have hstart := And.intro haccepted.inv_start haccepted.storesClaimed_start
  refine ⟨fun s hs => ?_, fun hfit => ⟨fun hall s hs => ?_, fun hall s hs => ?_⟩⟩
  · refine (GuardedRun.inv (δ := fun s (_ : Unit) => expandStep L reg s)
      (I := fun s => ExpandInv L reg dataLen m s ∧ StoresClaimed s) hstart ?_ hs).2
    exact fun s _ hinv hguard => hstep s hinv hguard.1 hguard.2
  · exact (storesClaimed_step_iff haccepted (haccepted.inv hfit hs) (hall s hs)).mp
      (hall _ (.next () hs trivial))
  · refine (GuardedRun.inv_of_forall (δ := fun s (_ : Unit) => expandStep L reg s)
      (G := fun _ _ => True) (I := fun s => ExpandInv L reg dataLen m s ∧ StoresClaimed s)
      (C := fun s _ => LengthsFit s.world.memory s.point ∧
        SlotsLeft L reg s.world.memory s.point) hstart ?_ ?_ hs).2
    · exact fun s _ hinv _ hboth => hstep s hinv hboth.1 hboth.2
    · exact fun s _ hrun _ => ⟨hfit s hrun, hall s hrun⟩

theorem storesClaimed_of_slotsLeft_oneResolver :
    StoresClaimed ((expandStep dnsinfoLayout ⟨4096, 180⟩)^[6]
      (expandStart dnsinfoLayout ⟨4096, 180⟩ (bufferOf oneResolver))) :=
  ((storesClaimed_of_slotsLeft dnsinfoLayout (.ofBytes 0 oneResolver) (bufferOf oneResolver) 0 172
    ⟨4096, 180⟩ (accepted_of_size (by decide +kernel) (by decide +kernel) (by decide) (by decide)
      (by decide))).2
    (forall_reaches_of_stopped (P := fun s => LengthsFit s.world.memory s.point) (n := 6)
      (by decide +kernel) (by decide +kernel))).mpr
    (forall_reaches_of_stopped
      (P := fun s => SlotsLeft dnsinfoLayout ⟨4096, 180⟩ s.world.memory s.point) (n := 6)
      (by decide +kernel) (by decide +kernel)) _ (Reaches.iterate _ _ 6)

/-- A configuration with a resolver that counts one name server and has two. -/
def surplusNameserver : List UInt8 :=
  [0, 0, 0, 1] ++ List.replicate 44 0 ++ [0, 0, 0, 124, 0, 0, 0, 16] ++
    [0, 0, 0, 1, 0, 0, 0, 124] ++ List.replicate 8 0 ++ [0, 0, 0, 1] ++ List.replicate 84 0 ++
    [0, 0, 0, 16] ++ [0, 0, 0, 11, 0, 0, 0, 8] ++ [0, 0, 0, 11, 0, 0, 0, 8]

theorem surplusNameserver_not_storesClaimed :
    ¬ ∀ (data : Memory) (dataRef dataLen : ℕ) (reg : Region) (m : Memory),
      Accepted dnsinfoLayout data dataRef dataLen reg m →
      ∀ s, Reaches (expandStep dnsinfoLayout reg) (expandStart dnsinfoLayout reg m) s →
        StoresClaimed s := by
  intro h
  have hclaimed := h (.ofBytes 0 surplusNameserver) 0 180 ⟨4096, 196⟩
    (bufferOf surplusNameserver) (accepted_of_size (by decide +kernel) (by decide +kernel)
      (by decide) (by decide) (by decide)) _ (Reaches.iterate _ _ 4)
  revert hclaimed
  decide +kernel

end ConfigdExtra
