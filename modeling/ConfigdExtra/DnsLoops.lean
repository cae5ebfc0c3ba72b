import ConfigdExtra.DnsScan

/-!
# The loops over the attributes of a DNS configuration

The lengths by which the two loops of the expansion advance come from the buffer itself.

* `LooksInside`, `ReadsSafely` — every read is inside what is being scanned; `LengthsFit` — no
  attribute is longer than what remains, and none that is to hold a resolver is shorter than its
  own header.
* `readsSafely_iff` — the first is the case for a buffer if and only if the second is, and the
  buffer is not shorter than the header of a configuration.
* `PassesWithin`, `LoopsEnd`, `loopsEnd_of_passesWithin` — the loops end when no attribute they
  pass over is empty or longer than what remains.
* `overlongAttribute_not_readsSafely`, `emptyAttribute_not_loopsEnd` — neither holds of every
  buffer.
-/

namespace ConfigdExtra

open Program (Reaches GuardedReaches)

/-! ## Accepting -/

section

variable {L : DnsLayout} {data m : Memory} {dataRef dataLen : ℕ} {reg : Region}

/-- What it takes for a buffer to be accepted. -/
theorem accepted_of {buf : ℕ}
    (hlen : L.configBufSize + data.loadNet (dataRef + L.config.size) 4 = dataLen)
    (hmax : dataLen + data.loadNet (dataRef + L.config.size + 4) 4 ≤ dnsConfigBufMax)
    (hbuf : 0 < buf)
    (hend : buf + (dataLen + data.loadNet (dataRef + L.config.size + 4) 4) < 2 ^ 64) :
    Accepted L data dataRef dataLen
      ⟨buf, dataLen + data.loadNet (dataRef + L.config.size + 4) 4⟩
      (.ofBytes buf ((List.range dataLen).map fun i => data (dataRef + i))) where
  create := by
    have hsize : L.configBufSize = L.config.size + 8 := rfl
    have hfirst : Region.Contains ⟨dataRef, dataLen⟩ (dataRef + L.config.size) 4 :=
      ⟨Nat.le_add_right _ _, by simp only [Region.stop]; omega⟩
    have hsecond : Region.Contains ⟨dataRef, dataLen⟩ (dataRef + L.config.size + 4) 4 :=
      ⟨by simp only []; omega, by simp only [Region.stop]; omega⟩
    have hall : Region.Contains ⟨dataRef, dataLen⟩ dataRef dataLen := ⟨le_rfl, le_rfl⟩
    unfold bufferCreate
    rw [bind_loadNtohl hfirst, bind_loadNtohl hsecond]
    generalize data.loadNet (dataRef + L.config.size) 4 = nAttribute at hlen
    generalize data.loadNet (dataRef + L.config.size + 4) 4 = nPadding at hmax
    have hpadding : ¬ nPadding > sub64 dnsConfigBufMax dataLen := by
      simp only [dnsConfigBufMax] at hmax
      simp only [sub64, dnsConfigBufMax]
      omega
    rw [if_neg (not_not.mpr hlen), if_neg hpadding, if_neg (Nat.not_lt.mpr hmax),
      Prog.bind_loadBytes hall]
    rfl
  allocated := hbuf
  addressable := hend

/-- What it takes for a buffer to be accepted, when the size with the padding is known. -/
theorem accepted_of_size {buf size : ℕ}
    (hlen : L.configBufSize + data.loadNet (dataRef + L.config.size) 4 = dataLen)
    (hsize : dataLen + data.loadNet (dataRef + L.config.size + 4) 4 = size)
    (hmax : size ≤ dnsConfigBufMax) (hbuf : 0 < buf) (hend : buf + size < 2 ^ 64) :
    Accepted L data dataRef dataLen ⟨buf, size⟩
      (.ofBytes buf ((List.range dataLen).map fun i => data (dataRef + i))) := by
  subst hsize
  exact accepted_of hlen hmax hbuf hend

/-- The buffer at 4096 that is made of the bytes `bytes`. -/
def bufferOf (bytes : List UInt8) : Memory :=
  .ofBytes 4096 ((List.range bytes.length).map fun i => Memory.ofBytes 0 bytes (0 + i))

/-- The expansion of an accepted buffer begins at the head of its loop, with all attributes still
to scan, or does not get there. -/
theorem Accepted.start_point (h : Accepted L data dataRef dataLen reg m) :
    (expandStart L reg m).point.Stopped ∨
      ∃ c, (expandStart L reg m).point = .config c ∧
        c.attributePtr = reg.start + L.configBufSize ∧
        c.attributePtr + c.nAttribute = reg.start + dataLen ∧ c.area = c.nAttribute ∧
        c.turns = 0 := by
  have hE : ∀ (e : Stop) (w' : World SlotStore), True := fun _ _ => trivial
  have hens : Prog.Ensures (bufferExpandBegin L reg) (fun q _ => ∃ c, q = .config c ∧
      c.attributePtr = reg.start + L.configBufSize ∧
      c.attributePtr + c.nAttribute = reg.start + dataLen ∧ c.area = c.nAttribute ∧
      c.turns = 0) (fun _ _ => True) ⟨m, []⟩ := by
    unfold bufferExpandBegin
    refine ensures_loadNtohl (fun _ => ?_) fun _ => trivial
    have hsize := h.size_eq
    generalize m.loadNet (reg.start + L.config.size) 4 = nAttribute at hsize
    refine Prog.ensures_skip hE fun nPadding _ => ?_
    refine Prog.ensures_skip hE fun ⟨padding, resolver⟩ _ => ?_
    refine Prog.ensures_skip hE fun ⟨padding, scopedResolver⟩ _ => ?_
    refine Prog.ensures_skip hE fun ⟨padding, serviceSpecificResolver⟩ _ => ?_
    refine Prog.ensures_pure ⟨_, rfl, rfl, ?_, rfl, rfl⟩
    change reg.start + L.configBufSize + nAttribute = reg.start + dataLen
    rw [← hsize, Nat.add_assoc]
  rcases ofResult_cases hens with hstart | ⟨hstop, -⟩
  · exact .inr hstart
  · exact .inl hstop

end

/-! ## Reads -/

/-- The attribute at `a`, its header and all of its length, is inside `area`. -/
def AttributeInside (area : Region) (m : Memory) (a : ℕ) : Prop :=
  area.Contains a attributeSize ∧ area.Contains a (attributeLength m a)

instance (area : Region) (m : Memory) (a : ℕ) : Decidable (AttributeInside area m a) :=
  inferInstanceAs (Decidable (_ ∧ _))

/-- The attributes of a configuration. -/
def configArea (L : DnsLayout) (reg : Region) (dataLen : ℕ) : Region :=
  ⟨reg.start + L.configBufSize, dataLen - L.configBufSize⟩

/-- The attributes of a resolver. -/
def resolverArea (L : DnsLayout) (v : ResolverLoop) : Region :=
  ⟨v.resolver + L.resolverBufSize, v.area⟩

/-- What the next step looks at is inside what is being scanned: an attribute is inside the
attributes of the configuration or the resolver, the buffer of a resolver is inside its
attribute, and `n_attribute` does not wrap. -/
def LooksInside (L : DnsLayout) (reg : Region) (dataLen : ℕ) (m : Memory) : Point → Prop
  | .config c => attributeSize ≤ c.nAttribute →
      AttributeInside (configArea L reg dataLen) m c.attributePtr ∧
        ((ResolverKind.ofType (attributeType m c.attributePtr)).isSome →
          Region.Contains ⟨c.attributePtr, attributeLength m c.attributePtr⟩
            (c.attributePtr + attributeSize)
            (sub32 (attributeLength m c.attributePtr) attributeSize))
  | .configNext c => c.length ≤ c.nAttribute
  | .resolver c _ v =>
      Region.Contains ⟨c.attributePtr, c.length⟩ v.resolver (L.resolverBufSize + v.area) ∧
        (attributeSize ≤ v.nAttribute → AttributeInside (resolverArea L v) m v.attributePtr)
  | .resolverNext _ _ v => v.length ≤ v.nAttribute
  | _ => True

instance (L : DnsLayout) (reg : Region) (dataLen : ℕ) (m : Memory) :
    DecidablePred (LooksInside L reg dataLen m)
  | .config _ => inferInstanceAs (Decidable (_ → _))
  | .configNext _ => inferInstanceAs (Decidable (_ ≤ _))
  | .resolver _ _ _ => inferInstanceAs (Decidable (_ ∧ _))
  | .resolverNext _ _ _ => inferInstanceAs (Decidable (_ ≤ _))
  | .returned _ | .crashed => isTrue trivial

/-- `_dns_configuration_buffer_create` reads only the `dataLen` bytes at `dataRef`, and when it
accepts them the loops of the expansion look only at what they are to scan. -/
def ReadsSafely (L : DnsLayout) (data : Memory) (dataRef dataLen : ℕ) : Prop :=
  (∀ buf, (bufferCreate L dataRef dataLen buf ⟨data, []⟩).1 ≠ .error .fault) ∧
    ∀ reg m, Accepted L data dataRef dataLen reg m →
      ∀ s, Reaches (expandStep L reg) (expandStart L reg m) s →
        LooksInside L reg dataLen s.world.memory s.point

/-- The next attribute is not longer than what remains, and not shorter than its header when it
is to hold a resolver. -/
def LengthsFit (m : Memory) : Point → Prop
  | .config c => attributeSize ≤ c.nAttribute →
      attributeLength m c.attributePtr ≤ c.nAttribute ∧
        ((ResolverKind.ofType (attributeType m c.attributePtr)).isSome →
          attributeSize ≤ attributeLength m c.attributePtr)
  | .resolver _ _ v => attributeSize ≤ v.nAttribute →
      attributeLength m v.attributePtr ≤ v.nAttribute
  | _ => True

instance (m : Memory) : DecidablePred (LengthsFit m)
  | .config _ => inferInstanceAs (Decidable (_ → _))
  | .resolver _ _ _ => inferInstanceAs (Decidable (_ → _))
  | .configNext _ | .resolverNext _ _ _ | .returned _ | .crashed => isTrue trivial

/-! ### The invariant of scanning -/

section

variable {L : DnsLayout} {data m : Memory} {dataRef dataLen : ℕ} {reg : Region}

/-- `attribute` and `n_attribute` are what is left of the attributes of the configuration. -/
structure ConfigScanned (L : DnsLayout) (reg : Region) (dataLen : ℕ) (c : ConfigLoop) : Prop where
  /-- not in front of them -/
  lo : reg.start + L.configBufSize ≤ c.attributePtr
  /-- up to their end -/
  hi : c.attributePtr + c.nAttribute = reg.start + dataLen

/-- `attribute` and `n_attribute` are what is left of the attributes of the resolver, and the
resolver is what its attribute holds. -/
structure ResolverScanned (L : DnsLayout) (c : ConfigLoop) (v : ResolverLoop) : Prop where
  /-- the attribute is within what remains -/
  passes : c.length ≤ c.nAttribute
  /-- where the resolver lies -/
  resolver : v.resolver = c.attributePtr + attributeSize
  /-- it fills the attribute -/
  fills : v.resolver + L.resolverBufSize + v.area = c.attributePtr + c.length
  /-- not in front of its attributes -/
  lo : v.resolver + L.resolverBufSize ≤ v.attributePtr
  /-- up to their end -/
  hi : v.attributePtr + v.nAttribute = v.resolver + L.resolverBufSize + v.area

/-- The count of a resolver is less than that of the buffer, so it never wraps around. -/
theorem ResolverScanned.nAttribute_lt {c : ConfigLoop} {v : ResolverLoop}
    (h : ResolverScanned L c v) (hc : ConfigScanned L reg dataLen c) (hmax : dataLen < 2 ^ 32) :
    v.nAttribute < 2 ^ 32 := by
  obtain ⟨hpasses, hresolver, hfills, hlo, hhi⟩ := h
  obtain ⟨hclo, hchi⟩ := hc
  omega

/-- The invariant of scanning. -/
def Scanned (L : DnsLayout) (reg : Region) (dataLen : ℕ) : Point → Prop
  | .config c => ConfigScanned L reg dataLen c
  | .configNext c => ConfigScanned L reg dataLen c ∧ c.length ≤ c.nAttribute
  | .resolver c _ v => ConfigScanned L reg dataLen c ∧ ResolverScanned L c v
  | .resolverNext c _ v => ConfigScanned L reg dataLen c ∧ ResolverScanned L c v ∧
      v.length ≤ v.nAttribute
  | _ => True

/-- Nothing is said of a run that has stopped. -/
theorem scanned_of_stopped {p : Point} (h : p.Stopped) : Scanned L reg dataLen p := by
  cases p with
  | returned config => trivial
  | crashed => trivial
  | _ => exact h.elim

/-- A fitting attribute that holds a resolver is filled by it. -/
theorem resolverScanned_of_entered {c : ConfigLoop} {v : ResolverLoop} (hlen : c.length < 2 ^ 32)
    (hpass : c.length ≤ c.nAttribute) (hheader : attributeSize ≤ c.length)
    (h : ResolverEntered L (c.attributePtr + attributeSize) (sub32 c.length attributeSize) v) :
    ResolverScanned L c v := by
  have hnBuf : sub32 c.length attributeSize = c.length - attributeSize := sub32_of_le hheader hlen
  have hfits : L.resolverBufSize ≤ c.length - attributeSize := hnBuf ▸ h.fits
  have hnAttribute : v.nAttribute = c.length - attributeSize - L.resolverBufSize := by
    rw [h.nAttribute, hnBuf]
    exact sub32_of_le hfits (by omega)
  refine ⟨hpass, h.resolver, ?_, ?_, ?_⟩
  · rw [h.resolver, h.area]
    omega
  · rw [h.resolver, h.attributePtr]
  · rw [h.resolver, h.area, h.attributePtr]

theorem attributeLength_lt (m : Memory) (a : ℕ) : attributeLength m a < 2 ^ 32 :=
  loadNet_lt m (a + 4) 4

/-- A step keeps the invariant when the lengths fit. -/
theorem scanned_step {p q : Point} (hmax : dataLen < 2 ^ 32) (h : Scanned L reg dataLen p)
    (hfit : LengthsFit m p) (hstep : ScanStep L m p q) : Scanned L reg dataLen q := by
  cases hstep with
  | stop hstop => exact scanned_of_stopped hstop
  | pass hc _ => exact ⟨⟨h.lo, h.hi⟩, (hfit hc).1⟩
  | @enter c k v padding hc hkind hentered =>
    obtain ⟨hlen, hheader⟩ := hfit hc
    refine ⟨⟨h.lo, h.hi⟩, ?_⟩
    exact resolverScanned_of_entered
      (c := { c.look (attributeLength m c.attributePtr) with padding }) (attributeLength_lt _ _)
      hlen (hheader (hkind ▸ rfl)) hentered
  | @next c =>
    obtain ⟨⟨hlo, hhi⟩, hlen⟩ := h
    have hsub : sub32 c.nAttribute c.length = c.nAttribute - c.length :=
      sub32_of_le hlen (by omega)
    refine ⟨hlo.trans (Nat.le_add_right _ _), ?_⟩
    change c.attributePtr + c.length + sub32 c.nAttribute c.length = reg.start + dataLen
    rw [hsub]
    omega
  | turn hv => exact ⟨h.1, ⟨h.2.passes, h.2.resolver, h.2.fills, h.2.lo, h.2.hi⟩, hfit hv⟩
  | @nextOfResolver c k v =>
    obtain ⟨hc, hscan, hlen⟩ := h
    have hsub : sub32 v.nAttribute v.length = v.nAttribute - v.length :=
      sub32_of_le hlen (hscan.nAttribute_lt hc hmax)
    have hhi := hscan.hi
    refine ⟨hc, hscan.passes, hscan.resolver, hscan.fills,
      hscan.lo.trans (Nat.le_add_right _ _), ?_⟩
    change v.attributePtr + v.length + sub32 v.nAttribute v.length =
      v.resolver + L.resolverBufSize + v.area
    rw [hsub]
    omega
  | add _ => exact ⟨⟨h.1.lo, h.1.hi⟩, h.2.passes⟩

/-- Where the invariant holds, what the next step looks at is inside what is being scanned if and
only if the next length fits. -/
theorem looksInside_iff_lengthsFit {p : Point} (h : Scanned L reg dataLen p) :
    LooksInside L reg dataLen m p ↔ LengthsFit m p := by
  cases p with
  | config c =>
    have hlt := attributeLength_lt m c.attributePtr
    have hlo := h.lo
    have hhi := h.hi
    refine imp_congr_right fun hc => ?_
    simp only [AttributeInside, Region.Contains, configArea, Region.stop]
    constructor
    · rintro ⟨⟨-, -, hlen⟩, hnested⟩
      refine ⟨by omega, fun hkind => ?_⟩
      by_contra hshort
      obtain ⟨-, hover⟩ := hnested hkind
      rw [sub32_of_lt (Nat.lt_of_not_le hshort) (by decide)] at hover
      simp only [attributeSize] at hover
      omega
    · rintro ⟨hlen, hheader⟩
      refine ⟨⟨⟨hlo, by omega⟩, hlo, by omega⟩, fun hkind => ⟨Nat.le_add_right _ _, ?_⟩⟩
      have hheader := hheader hkind
      rw [sub32_of_le hheader hlt]
      omega
  | configNext c => exact iff_of_true h.2 trivial
  | resolver c k v =>
    obtain ⟨-, hscan⟩ := h
    have hlo := hscan.lo
    have hhi := hscan.hi
    have hfills := hscan.fills
    have hresolver := hscan.resolver
    simp only [LooksInside, LengthsFit, AttributeInside, Region.Contains, resolverArea,
      Region.stop]
    constructor
    · rintro ⟨-, hinside⟩ hv
      obtain ⟨-, -, hlen⟩ := hinside hv
      omega
    · intro hfit
      refine ⟨⟨by omega, by omega⟩, fun hv => ?_⟩
      have hlen := hfit hv
      exact ⟨⟨hlo, by omega⟩, hlo, by omega⟩
  | resolverNext c k v => exact iff_of_true h.2.2 trivial
  | returned config => exact iff_of_true trivial trivial
  | crashed => exact iff_of_true trivial trivial

/-- At the start nothing has been scanned. -/
theorem Accepted.scanned_start (h : Accepted L data dataRef dataLen reg m) :
    Scanned L reg dataLen (expandStart L reg m).point := by
  rcases h.start_point with hstop | ⟨c, hpoint, hptr, hend, -, -⟩
  · exact scanned_of_stopped hstop
  · rw [hpoint]
    exact ⟨hptr.ge, hend⟩

theorem Accepted.dataLen_lt (h : Accepted L data dataRef dataLen reg m) : dataLen < 2 ^ 32 := by
  have hle := h.size_le.trans h.size_le_max
  simp only [dnsConfigBufMax] at hle
  omega

/-- For an accepted buffer, every step looks inside what is being scanned if and only if every
length fits. -/
theorem Accepted.looksInside_iff (h : Accepted L data dataRef dataLen reg m) :
    (∀ s, Reaches (expandStep L reg) (expandStart L reg m) s →
        LooksInside L reg dataLen s.world.memory s.point) ↔
      ∀ s, Reaches (expandStep L reg) (expandStart L reg m) s →
        LengthsFit s.world.memory s.point := by
  have hiff := GuardedRun.forall_reached_iff
    (δ := fun s (_ : Unit) => expandStep L reg s) (G := fun _ _ => True)
    (I := fun s => Scanned L reg dataLen s.point)
    (P := fun s _ => LooksInside L reg dataLen s.world.memory s.point)
    (C := fun s _ => LengthsFit s.world.memory s.point) h.scanned_start
    (fun s _ hs _ hfit => scanned_step h.dataLen_lt hs hfit (expandStep_scan L reg s))
    (fun s _ hs _ => looksInside_iff_lengthsFit hs)
  exact ⟨fun hall s hs => hiff.mp (fun s _ hs _ => hall s hs) s () hs trivial,
    fun hall s hs => hiff.mpr (fun s _ hs _ => hall s hs) s () hs trivial⟩

end

/-- **Reading.** The parser reads only what it is given if and only if the buffer is not shorter
than the header of a configuration, and the expansion, when the buffer is accepted, finds no
attribute that is longer than what remains or that is to hold a resolver and is shorter than its
own header. -/
theorem readsSafely_iff (L : DnsLayout) (data : Memory) (dataRef dataLen : ℕ) :
    ReadsSafely L data dataRef dataLen ↔
      L.configBufSize ≤ dataLen ∧ ∀ reg m, Accepted L data dataRef dataLen reg m →
        ∀ s, Reaches (expandStep L reg) (expandStart L reg m) s →
          LengthsFit s.world.memory s.point := by
  refine and_congr ?_ ?_
  · simp only [ne_eq, bufferCreate_fault_iff, not_lt, forall_const]
  · exact forall₂_congr fun reg m => forall_congr' fun h => h.looksInside_iff

/-- A configuration whose only attribute is longer than the buffer. -/
def overlongAttribute : List UInt8 :=
  List.replicate 48 0 ++ [0, 0, 0, 8, 0, 0, 0, 0] ++ [0, 0, 0, 0, 0, 0, 0, 16]

/-- The length of an attribute is not compared with what is left, so some buffer that is accepted is
read beyond its end. -/
theorem overlongAttribute_not_readsSafely :
    ¬ ∀ (data : Memory) (dataRef dataLen : ℕ), ReadsSafely dnsinfoLayout data dataRef dataLen := by
  intro h
  have hin := (h (.ofBytes 0 overlongAttribute) 0 64).2 _ _
    (@accepted_of dnsinfoLayout (.ofBytes 0 overlongAttribute) 0 64 4096 (by decide +kernel)
      (by decide +kernel) (by decide) (by decide +kernel)) _ .start
  revert hin
  decide +kernel

/-! ## Termination -/

/-- An attribute that is passed over is not empty and not longer than what remains. -/
def PassesWithin : Point → Prop
  | .configNext c => 0 < c.length ∧ c.length ≤ c.nAttribute
  | .resolverNext _ _ v => 0 < v.length ∧ v.length ≤ v.nAttribute
  | _ => True

instance : DecidablePred PassesWithin
  | .configNext _ => inferInstanceAs (Decidable (_ ∧ _))
  | .resolverNext _ _ _ => inferInstanceAs (Decidable (_ ∧ _))
  | .config _ | .resolver _ _ _ | .returned _ | .crashed => isTrue trivial

/-- No loop has begun more iterations than there were bytes of attributes. -/
def TurnsBounded : Point → Prop
  | .config c | .configNext c => c.turns ≤ c.area
  | .resolver c _ v | .resolverNext c _ v => c.turns ≤ c.area ∧ v.turns ≤ v.area
  | _ => True

instance : DecidablePred TurnsBounded
  | .config _ | .configNext _ => inferInstanceAs (Decidable (_ ≤ _))
  | .resolver _ _ _ | .resolverNext _ _ _ => inferInstanceAs (Decidable (_ ∧ _))
  | .returned _ | .crashed => isTrue trivial

/-- The loops of the expansion end, each after at most `n_attribute` iterations. -/
def LoopsEnd (L : DnsLayout) (reg : Region) (m : Memory) : Prop :=
  (∀ s, Reaches (expandStep L reg) (expandStart L reg m) s → TurnsBounded s.point) ∧
    ∃ n, ((expandStep L reg)^[n] (expandStart L reg m)).point.Stopped

section

variable {L : DnsLayout} {data m : Memory} {dataRef dataLen : ℕ} {reg : Region}

/-- What remains pays for the iterations to come, each with at least a byte. In an iteration that
is yet to be paid for, `owed` is one. -/
structure Counted (owed turns nAttribute area : ℕ) : Prop where
  /-- the iterations so far and the bytes that remain -/
  paid : turns + nAttribute ≤ area + owed
  /-- no more iterations than bytes -/
  turns_le : turns ≤ area
  /-- what remains was there -/
  nAttribute_le : nAttribute ≤ area
  /-- `n_attribute` is a `uint32_t` -/
  area_lt : area < 2 ^ 32

/-- An iteration begins. -/
theorem Counted.look {turns nAttribute area : ℕ} (h : Counted 0 turns nAttribute area)
    (hleft : attributeSize ≤ nAttribute) : Counted 1 (turns + 1) nAttribute area := by
  obtain ⟨hpaid, -, hle, hlt⟩ := h
  have hpos : 0 < nAttribute := Nat.lt_of_lt_of_le (by decide) hleft
  exact ⟨by omega, by omega, hle, hlt⟩

/-- Where the length of an attribute does not exceed what is left, the subtraction is exact. -/
theorem Counted.sub_eq {owed turns nAttribute area length : ℕ}
    (h : Counted owed turns nAttribute area) (hle : length ≤ nAttribute) :
    sub32 nAttribute length = nAttribute - length :=
  sub32_of_le hle (h.nAttribute_le.trans_lt h.area_lt)

/-- An iteration ends. -/
theorem Counted.next {turns nAttribute area length : ℕ} (h : Counted 1 turns nAttribute area)
    (hpos : 0 < length) (hle : length ≤ nAttribute) :
    Counted 0 turns (sub32 nAttribute length) area := by
  rw [h.sub_eq hle]
  obtain ⟨hpaid, hturns, hleft, hlt⟩ := h
  exact ⟨by omega, hturns, by omega, hlt⟩

/-- The invariant of counting. -/
def LoopsCounted : Point → Prop
  | .config c => Counted 0 c.turns c.nAttribute c.area
  | .configNext c => Counted 1 c.turns c.nAttribute c.area
  | .resolver c _ v => Counted 1 c.turns c.nAttribute c.area ∧
      Counted 0 v.turns v.nAttribute v.area
  | .resolverNext c _ v => Counted 1 c.turns c.nAttribute c.area ∧
      Counted 1 v.turns v.nAttribute v.area
  | _ => True

theorem loopsCounted_of_stopped {p : Point} (h : p.Stopped) : LoopsCounted p := by
  cases p with
  | returned config => trivial
  | crashed => trivial
  | _ => exact h.elim

theorem turnsBounded_of_loopsCounted {p : Point} (h : LoopsCounted p) : TurnsBounded p := by
  cases p with
  | config c => exact Counted.turns_le h
  | configNext c => exact Counted.turns_le h
  | resolver c k v => exact ⟨h.1.turns_le, h.2.turns_le⟩
  | resolverNext c k v => exact ⟨h.1.turns_le, h.2.turns_le⟩
  | returned config => trivial
  | crashed => trivial

theorem ResolverEntered.counted {buf nBuf : ℕ} {v : ResolverLoop}
    (h : ResolverEntered L buf nBuf v) : Counted 0 v.turns v.nAttribute v.area := by
  have hlt : v.nAttribute < 2 ^ 32 := h.nAttribute ▸ sub32_lt _ _
  rw [h.turns, h.area]
  exact ⟨by omega, Nat.zero_le _, le_rfl, hlt⟩

/-- A step keeps the invariant when what it passes over is within what remains. -/
theorem loopsCounted_step {p q : Point} (h : LoopsCounted p) (hpass : PassesWithin p)
    (hstep : ScanStep L m p q) : LoopsCounted q := by
  cases hstep with
  | stop hstop => exact loopsCounted_of_stopped hstop
  | pass hc _ => exact Counted.look h hc
  | enter hc _ hentered => exact ⟨Counted.look h hc, hentered.counted⟩
  | next => exact Counted.next h hpass.1 hpass.2
  | turn hv => exact ⟨h.1, h.2.look hv⟩
  | nextOfResolver => exact ⟨h.1, h.2.next hpass.1 hpass.2⟩
  | add _ => exact h.1

/-- How far the expansion is from its end: the loop of a resolver ends before the loop it is
in goes on. -/
def loopMeasure : Point → ℕ
  | .config c => c.nAttribute * 2 ^ 34 + (2 ^ 34 - 1)
  | .configNext c => c.nAttribute * 2 ^ 34 + 1
  | .resolver c _ v => c.nAttribute * 2 ^ 34 + 2 * v.nAttribute + 3
  | .resolverNext c _ v => c.nAttribute * 2 ^ 34 + 2 * v.nAttribute + 2
  | .returned _ | .crashed => 0

/-- Each turn that goes on leaves less to scan. This is where a length of zero has to be
excluded. -/
theorem loopMeasure_step {p q : Point} (h : LoopsCounted p) (hpass : PassesWithin p)
    (hstep : ScanStep L m p q) (hgoing : ¬ p.Stopped) : loopMeasure q < loopMeasure p := by
  cases hstep with
  | stop hstop =>
    have hq : loopMeasure q = 0 := by
      cases q with
      | returned config => rfl
      | crashed => rfl
      | _ => exact hstop.elim
    rw [hq]
    cases p with
    | returned config => exact absurd trivial hgoing
    | crashed => exact absurd trivial hgoing
    | _ =>
      simp only [loopMeasure]
      omega
  | @pass c _ _ =>
    change c.nAttribute * 2 ^ 34 + 1 < c.nAttribute * 2 ^ 34 + (2 ^ 34 - 1)
    omega
  | @enter c k v padding _ _ hentered =>
    have hlt : v.nAttribute < 2 ^ 32 := hentered.nAttribute ▸ sub32_lt _ _
    change c.nAttribute * 2 ^ 34 + 2 * v.nAttribute + 3 < c.nAttribute * 2 ^ 34 + (2 ^ 34 - 1)
    omega
  | @next c =>
    obtain ⟨hpos, hle⟩ := hpass
    have hsub : sub32 c.nAttribute c.length = c.nAttribute - c.length := Counted.sub_eq h hle
    change sub32 c.nAttribute c.length * 2 ^ 34 + (2 ^ 34 - 1) < c.nAttribute * 2 ^ 34 + 1
    rw [hsub]
    omega
  | @turn c k v count _ =>
    change c.nAttribute * 2 ^ 34 + 2 * v.nAttribute + 2 <
      c.nAttribute * 2 ^ 34 + 2 * v.nAttribute + 3
    omega
  | @nextOfResolver c k v =>
    obtain ⟨hpos, hle⟩ := hpass
    have hsub : sub32 v.nAttribute v.length = v.nAttribute - v.length := h.2.sub_eq hle
    change c.nAttribute * 2 ^ 34 + 2 * sub32 v.nAttribute v.length + 3 <
      c.nAttribute * 2 ^ 34 + 2 * v.nAttribute + 2
    rw [hsub]
    omega
  | @add c k v count _ =>
    change c.nAttribute * 2 ^ 34 + 1 < c.nAttribute * 2 ^ 34 + 2 * v.nAttribute + 3
    omega

theorem Accepted.loopsCounted_start (h : Accepted L data dataRef dataLen reg m) :
    LoopsCounted (expandStart L reg m).point := by
  rcases h.start_point with hstop | ⟨c, hpoint, hptr, hend, harea, hturns⟩
  · exact loopsCounted_of_stopped hstop
  · have hlt := h.dataLen_lt
    have hle : c.nAttribute < 2 ^ 32 := by omega
    rw [hpoint]
    change Counted 0 c.turns c.nAttribute c.area
    rw [hturns, harea]
    exact ⟨by omega, Nat.zero_le _, le_rfl, hle⟩

end

/-- **Termination.** In every run of the expansion whose steps pass only over attributes that are
not empty and not longer than what remains, no loop has begun more than `n_attribute` iterations;
and when every step is like that, the loops end. -/
theorem loopsEnd_of_passesWithin (L : DnsLayout) (data m : Memory) (dataRef dataLen : ℕ)
    (reg : Region) (haccepted : Accepted L data dataRef dataLen reg m) :
    (∀ s, GuardedReaches (expandStep L reg) (fun s => PassesWithin s.point)
      (expandStart L reg m) s → TurnsBounded s.point) ∧
    ((∀ s, Reaches (expandStep L reg) (expandStart L reg m) s → PassesWithin s.point) →
      LoopsEnd L reg m) := by
  have hrun : ∀ s, GuardedReaches (expandStep L reg) (fun s => PassesWithin s.point)
      (expandStart L reg m) s → LoopsCounted s.point := fun s hs =>
    GuardedRun.inv (I := fun s => LoopsCounted s.point) haccepted.loopsCounted_start
      (fun s _ hcounted hpass => loopsCounted_step hcounted hpass (expandStep_scan L reg s)) hs
  refine ⟨fun s hs => turnsBounded_of_loopsCounted (hrun s hs), fun hall => ⟨fun s hs => ?_, ?_⟩⟩
  · refine turnsBounded_of_loopsCounted (GuardedRun.inv_of_forall
      (I := fun s => LoopsCounted s.point) (C := fun s _ => PassesWithin s.point)
      haccepted.loopsCounted_start ?_ (fun s _ hs _ => hall s hs) hs)
    exact fun s _ hcounted _ hpass => loopsCounted_step hcounted hpass (expandStep_scan L reg s)
  · obtain ⟨n, -, hstop⟩ := Program.exists_done
      (I := fun s => LoopsCounted s.point) (G := fun s => PassesWithin s.point)
      (fun s => loopMeasure s.point) haccepted.loopsCounted_start hall
      fun s hcounted hpass hgoing =>
        ⟨loopsCounted_step hcounted hpass (expandStep_scan L reg s),
          loopMeasure_step hcounted hpass (expandStep_scan L reg s) hgoing⟩
    exact ⟨n, hstop⟩

/-- A run that has stopped stays as it is. -/
theorem expandStep_of_stopped {L : DnsLayout} {reg : Region} {s : ExpandState}
    (h : s.point.Stopped) : expandStep L reg s = s := by
  rcases s with ⟨p, w⟩
  cases p with
  | returned config => rfl
  | crashed => rfl
  | _ => exact h.elim

/-- What holds until the expansion stops holds of every state of its run. -/
theorem forall_reaches_of_stopped {L : DnsLayout} {reg : Region} {s₀ : ExpandState}
    {P : ExpandState → Prop} {n : ℕ} (hstop : ((expandStep L reg)^[n] s₀).point.Stopped)
    (hall : ∀ k < n + 1, P ((expandStep L reg)^[k] s₀)) :
    ∀ s, Reaches (expandStep L reg) s₀ s → P s := by
  intro s hs
  obtain ⟨k, hk, rfl⟩ := hs.le_of_rest (expandStep_of_stopped hstop)
  exact hall k (Nat.lt_succ_of_le hk)

/-- A configuration whose only attribute has length zero. -/
def emptyAttribute : List UInt8 :=
  List.replicate 48 0 ++ [0, 0, 0, 8, 0, 0, 0, 0] ++ [0, 0, 0, 0, 0, 0, 0, 0]

/-- An attribute of length zero is looked at again and again. -/
theorem emptyAttribute_not_loopsEnd :
    ¬ ∀ (data : Memory) (dataRef dataLen : ℕ) (reg : Region) (m : Memory),
      Accepted dnsinfoLayout data dataRef dataLen reg m → LoopsEnd dnsinfoLayout reg m := by
  intro h
  have hbounded := (h (.ofBytes 0 emptyAttribute) 0 64 _ _
    (@accepted_of dnsinfoLayout (.ofBytes 0 emptyAttribute) 0 64 4096 (by decide +kernel)
      (by decide +kernel) (by decide) (by decide +kernel))).1 _ (Reaches.iterate _ _ 18)
  revert hbounded
  decide +kernel

/-- A configuration with one resolver, whose only attribute is of no known type. -/
def oneResolver : List UInt8 :=
  [0, 0, 0, 1] ++ List.replicate 44 0 ++ [0, 0, 0, 116, 0, 0, 0, 8] ++
    [0, 0, 0, 1, 0, 0, 0, 116] ++ List.replicate 96 0 ++ [0, 0, 0, 8] ++ [0, 0, 0, 0, 0, 0, 0, 8]

theorem oneResolver_accepted :
    Accepted dnsinfoLayout (.ofBytes 0 oneResolver) 0 172
      ⟨4096, 172 + (Memory.ofBytes 0 oneResolver).loadNet (0 + dnsinfoLayout.config.size + 4) 4⟩
      (.ofBytes 4096 ((List.range 172).map fun i => Memory.ofBytes 0 oneResolver (0 + i))) :=
  accepted_of (by decide +kernel) (by decide +kernel) (by decide) (by decide +kernel)

theorem loopsEnd_of_passesWithin_oneResolver :
    LoopsEnd dnsinfoLayout
      ⟨4096, 172 + (Memory.ofBytes 0 oneResolver).loadNet (0 + dnsinfoLayout.config.size + 4) 4⟩
      (.ofBytes 4096 ((List.range 172).map fun i => Memory.ofBytes 0 oneResolver (0 + i))) :=
  (loopsEnd_of_passesWithin _ _ _ _ _ _ oneResolver_accepted).2
    (forall_reaches_of_stopped (P := fun s => PassesWithin s.point) (n := 6) (by decide +kernel)
      (by decide +kernel))

end ConfigdExtra
