import ConfigdExtra.DnsExpand

/-!
# Scanning the attributes of a DNS configuration

What the two loops of the expansion look at, whatever the buffer holds.

* `bufferCreate_ensures`, `Accepted.size_eq` — what an accepted buffer is.
* `ScanStep`, `expandStep_scan` — what a step does to the variables that steer the loops.
-/

namespace ConfigdExtra

open Memory (pointerSize)
open Prog (Ensures ensures_bind ensures_stop ensures_pure ensures_load ensures_mono)

/-! ## Arithmetic -/

/-- The parser swaps what it loads, so it reads in the order of the network. -/
@[simp] theorem ntohl_load (m : Memory) (a : ℕ) : ntohl (m.load a 4) = m.loadNet a 4 :=
  Memory.swapBytes_load m a 4

theorem loadNet_lt (m : Memory) (a w : ℕ) : m.loadNet a w < 256 ^ w := by
  rw [← Memory.swapBytes_load]
  exact swapBytes_lt w _

/-- A subtraction that does not wrap around. -/
theorem sub32_of_le {a b : ℕ} (h : b ≤ a) (ha : a < 2 ^ 32) : sub32 a b = a - b := by
  rw [sub32]
  omega

theorem sub32_lt (a b : ℕ) : sub32 a b < 2 ^ 32 := by
  rw [sub32]
  omega

/-- A difference that would be negative is above what it was taken from. -/
theorem sub32_of_lt {a b : ℕ} (h : a < b) (hb : b < 2 ^ 32) : sub32 a b = a + 2 ^ 32 - b := by
  rw [sub32]
  omega

/-! ## Accepted buffers -/

section

variable {L : DnsLayout} {data : Memory} {dataRef dataLen : ℕ} {reg : Region} {m : Memory}

/-- The rule for a read: inside of the region the value is what is there, and outside of it the run
faults. -/
theorem ensures_loadNtohl {α : Type} {a : ℕ} {f : ℕ → ParserProg α}
    {Q : α → World SlotStore → Prop} {E : Stop → World SlotStore → Prop} {w : World SlotStore}
    (hin : reg.Contains a 4 → Ensures (f (w.memory.loadNet a 4)) Q E w)
    (hout : ¬ reg.Contains a 4 → E .fault w) : Ensures (loadNtohl reg a >>= f) Q E w := by
  refine ensures_bind (R := fun v w' => w' = w ∧ v = w.memory.loadNet a 4 ∧ reg.Contains a 4) ?_ ?_
  · exact ensures_load (fun h => ensures_pure ⟨rfl, ntohl_load _ _, h⟩) hout
  · rintro _ w' ⟨rfl, rfl, h⟩
    exact hin h

theorem bind_loadNtohl {α : Type} {a : ℕ} (h : reg.Contains a 4) (f : ℕ → ParserProg α)
    (w : World SlotStore) : (loadNtohl reg a >>= f) w = f (w.memory.loadNet a 4) w := by
  refine Prog.bind_of_ok (?_ : _ = (_, w)) f
  rw [loadNtohl, Prog.bind_load h, ntohl_load]
  rfl

theorem bind_loadNtohl_fault {α : Type} {a : ℕ} (h : ¬ reg.Contains a 4) (f : ℕ → ParserProg α)
    (w : World SlotStore) : (loadNtohl reg a >>= f) w = (.error .fault, w) := by
  refine Prog.bind_of_error ?_ f
  rw [loadNtohl, Prog.bind_of_error (if_neg h)]

/-- What `_dns_configuration_buffer_create` returns, and when it reads what it should not. -/
theorem bufferCreate_ensures (L : DnsLayout) (dataRef dataLen buf : ℕ) (w : World SlotStore) :
    Ensures (bufferCreate L dataRef dataLen buf)
      (fun b w' => w' = w ∧ b.1.start = buf ∧
        L.configBufSize + w.memory.loadNet (dataRef + L.config.size) 4 = dataLen ∧
        b.1.size = dataLen + w.memory.loadNet (dataRef + L.config.size + 4) 4 ∧
        b.1.size ≤ dnsConfigBufMax ∧ b.2.CopyAt w.memory buf dataRef dataLen)
      (fun e w' => w' = w ∧ (e = .fault → dataLen < L.configBufSize)) w := by
  unfold bufferCreate
  have hsize : L.configBufSize = L.config.size + 8 := rfl
  refine ensures_loadNtohl (fun _ => ?_) fun hout => ⟨rfl, fun _ => ?_⟩
  swap
  · by_contra hlen
    exact hout ⟨Nat.le_add_right _ _, by simp only [Region.stop]; omega⟩
  refine ensures_loadNtohl (fun _ => ?_) fun hout => ⟨rfl, fun _ => ?_⟩
  swap
  · by_contra hlen
    exact hout ⟨by simp only []; omega, by simp only [Region.stop]; omega⟩
  split
  · exact ensures_stop ⟨rfl, fun h => nomatch h⟩
  rename_i hlen
  rw [not_not] at hlen
  split
  · exact ensures_stop ⟨rfl, fun h => nomatch h⟩
  split
  · exact ensures_stop ⟨rfl, fun h => nomatch h⟩
  rename_i hmax
  have hin : Region.Contains ⟨dataRef, dataLen⟩ dataRef dataLen := ⟨le_rfl, le_rfl⟩
  unfold Ensures
  rw [Prog.bind_loadBytes hin]
  exact ⟨rfl, rfl, hlen, rfl, Nat.le_of_not_lt hmax, Memory.ofBytes_copyAt _ _ _ _⟩

/-- `_dns_configuration_buffer_create` reads only the buffer if and only if the buffer is not
shorter than its header. -/
theorem bufferCreate_fault_iff (L : DnsLayout) (dataRef dataLen buf : ℕ) (w : World SlotStore) :
    (bufferCreate L dataRef dataLen buf w).1 = .error .fault ↔ dataLen < L.configBufSize := by
  constructor
  · intro h
    have hens := bufferCreate_ensures L dataRef dataLen buf w
    rw [Prog.ensures_iff] at hens
    exact (hens.2 .fault _ (Prod.ext h rfl)).2 rfl
  · intro h
    have hsize : L.configBufSize = L.config.size + 8 := rfl
    unfold bufferCreate
    by_cases hfirst : Region.Contains ⟨dataRef, dataLen⟩ (dataRef + L.config.size) 4
    · have hsecond : ¬ Region.Contains ⟨dataRef, dataLen⟩ (dataRef + L.config.size + 4) 4 := by
        rintro ⟨-, hhi⟩
        simp only [Region.stop] at hhi
        omega
      rw [bind_loadNtohl hfirst]
      exact congrArg Prod.fst (bind_loadNtohl_fault hsecond _ _)
    · exact congrArg Prod.fst (bind_loadNtohl_fault hfirst _ _)

namespace Accepted

/-- What the checks of `_dns_configuration_expand_config` have established: the sizes add up, are
not too large, and the buffer has been copied. -/
theorem facts (h : Accepted L data dataRef dataLen reg m) :
    L.configBufSize + data.loadNet (dataRef + L.config.size) 4 = dataLen ∧
      reg.size = dataLen + data.loadNet (dataRef + L.config.size + 4) 4 ∧
      reg.size ≤ dnsConfigBufMax ∧ m.CopyAt data reg.start dataRef dataLen := by
  have hens := bufferCreate_ensures L dataRef dataLen reg.start ⟨data, []⟩
  rw [Prog.ensures_iff] at hens
  obtain ⟨-, -, hlen, hsize, hmax, hcopy⟩ := hens.1 _ _ h.create
  exact ⟨hlen, hsize, hmax, hcopy⟩

/-- The header and the attributes are the whole buffer. -/
theorem size_eq (h : Accepted L data dataRef dataLen reg m) :
    L.configBufSize + m.loadNet (reg.start + L.config.size) 4 = dataLen := by
  obtain ⟨hlen, -, -, hcopy⟩ := h.facts
  have hcopy' : m.CopyAt data (reg.start + L.config.size) (dataRef + L.config.size) 4 := by
    refine hcopy.sub ?_
    rw [← hlen, DnsLayout.configBufSize]
    omega
  rw [hcopy'.loadNet_eq, hlen]

/-- The buffer is inside of the region. -/
theorem size_le (h : Accepted L data dataRef dataLen reg m) : dataLen ≤ reg.size := by
  obtain ⟨-, hsize, -, -⟩ := h.facts
  omega

theorem size_le_max (h : Accepted L data dataRef dataLen reg m) : reg.size ≤ dnsConfigBufMax :=
  h.facts.2.2.1

end Accepted

end

/-! ## Steps -/

/-- The type of the attribute at `a`. -/
def attributeType (m : Memory) (a : ℕ) : ℕ := m.loadNet a 4

/-- The length of the attribute at `a`. -/
def attributeLength (m : Memory) (a : ℕ) : ℕ := m.loadNet (a + 4) 4

/-- The expansion is over. -/
def Point.Stopped : Point → Prop
  | .returned _ | .crashed => True
  | _ => False

instance : DecidablePred Point.Stopped
  | .returned _ | .crashed => isTrue trivial
  | .config _ | .configNext _ | .resolver _ _ _ | .resolverNext _ _ _ => isFalse id

/-- The loop of `_dns_configuration_expand_resolver(buf, n_buf)` begins with `v`. -/
structure ResolverEntered (L : DnsLayout) (buf nBuf : ℕ) (v : ResolverLoop) : Prop where
  /-- the buffer is not shorter than its header -/
  fits : L.resolverBufSize ≤ nBuf
  /-- `resolver` -/
  resolver : v.resolver = buf
  /-- `attribute` -/
  attributePtr : v.attributePtr = buf + L.resolverBufSize
  /-- `n_attribute` -/
  nAttribute : v.nAttribute = sub32 nBuf L.resolverBufSize
  /-- what there is to scan -/
  area : v.area = v.nAttribute
  /-- no iteration yet -/
  turns : v.turns = 0

/-- What a step does to the variables that steer the loops. -/
inductive ScanStep (L : DnsLayout) (m : Memory) : Point → Point → Prop where
  /-- the function returns, or crashes -/
  | stop {p q : Point} : q.Stopped → ScanStep L m p q
  /-- an attribute that is not a resolver -/
  | pass {c : ConfigLoop} : attributeSize ≤ c.nAttribute →
      ResolverKind.ofType (attributeType m c.attributePtr) = none →
      ScanStep L m (.config c) (.configNext (c.look (attributeLength m c.attributePtr)))
  /-- an attribute that is a resolver -/
  | enter {c : ConfigLoop} {k : ResolverKind} {v : ResolverLoop} {padding : Padding} :
      attributeSize ≤ c.nAttribute →
      ResolverKind.ofType (attributeType m c.attributePtr) = some k →
      ResolverEntered L (c.attributePtr + attributeSize)
        (sub32 (attributeLength m c.attributePtr) attributeSize) v →
      ScanStep L m (.config c)
        (.resolver { c.look (attributeLength m c.attributePtr) with padding } k v)
  /-- to the next attribute -/
  | next {c : ConfigLoop} : ScanStep L m (.configNext c) (.config c.next)
  /-- an attribute of a resolver -/
  | turn {c : ConfigLoop} {k : ResolverKind} {v : ResolverLoop} {count : ResolverList → ℕ} :
      attributeSize ≤ v.nAttribute →
      ScanStep L m (.resolver c k v)
        (.resolverNext c k { v.look (attributeLength m v.attributePtr) with count })
  /-- to the next attribute of a resolver -/
  | nextOfResolver {c : ConfigLoop} {k : ResolverKind} {v : ResolverLoop} :
      ScanStep L m (.resolverNext c k v) (.resolver c k v.next)
  /-- a resolver is complete -/
  | add {c : ConfigLoop} {k : ResolverKind} {v : ResolverLoop} {count : ResolverKind → ℕ} :
      v.nAttribute < attributeSize →
      ScanStep L m (.resolver c k v) (.configNext { c with count })

section

variable (L : DnsLayout) (reg : Region)

/-- A step either ends as its precondition says or has stopped. -/
theorem ofResult_cases {p : ParserProg Point} {R : Point → World SlotStore → Prop}
    {E : Stop → World SlotStore → Prop} {w : World SlotStore} (h : Ensures p R E w) :
    R (ExpandState.ofResult (p w)).point (ExpandState.ofResult (p w)).world ∨
      (ExpandState.ofResult (p w)).point.Stopped ∧
        ∃ e, E e (ExpandState.ofResult (p w)).world := by
  unfold Ensures at h
  rcases hp : p w with ⟨e | q, w'⟩
  · rw [hp] at h
    cases e with
    | error => exact .inr ⟨trivial, _, h⟩
    | fault => exact .inr ⟨trivial, _, h⟩
  · rw [hp] at h
    exact .inl h

theorem expandResolverBegin_entered (buf nBuf : ℕ) (padding : Padding) (w : World SlotStore) :
    Ensures (expandResolverBegin L reg buf nBuf padding)
      (fun v _ => ResolverEntered L buf nBuf v.1) (fun _ _ => True) w := by
  have hE : ∀ (e : Stop) (w' : World SlotStore), True := fun _ _ => trivial
  unfold expandResolverBegin
  split
  · exact ensures_stop trivial
  rename_i hfits
  refine Prog.ensures_skip hE fun _ _ => Prog.ensures_skip hE fun ⟨padding, nameserver⟩ _ => ?_
  refine Prog.ensures_skip hE fun _ _ => Prog.ensures_skip hE fun ⟨padding, search⟩ _ => ?_
  refine Prog.ensures_skip hE fun ⟨padding, sortaddr⟩ _ => ?_
  iterate 8 refine Prog.ensures_skip hE fun _ _ => ?_
  split
  · exact ensures_stop trivial
  · exact ensures_pure ⟨Nat.le_of_not_lt hfits, rfl, rfl, rfl, rfl, rfl⟩

/-- The types that the configuration knows enter a resolver. All others are passed over. -/
theorem bufferExpandSwitch_scan (c : ConfigLoop) (type : ℕ) (w : World SlotStore) :
    Ensures (bufferExpandSwitch L reg c type)
      (fun q _ => ResolverKind.ofType type = none ∧ q = .configNext c ∨
        ∃ k v padding, ResolverKind.ofType type = some k ∧ q = .resolver { c with padding } k v ∧
          ResolverEntered L (c.attributePtr + attributeSize) (sub32 c.length attributeSize) v)
      (fun _ _ => True) w := by
  unfold bufferExpandSwitch
  cases ResolverKind.ofType type with
  | none => exact ensures_pure (.inl ⟨rfl, rfl⟩)
  | some k =>
    refine ensures_bind (expandResolverBegin_entered L reg _ _ _ _) ?_
    exact fun _ _ hentered => ensures_pure (.inr ⟨k, _, _, rfl, rfl, hentered⟩)

theorem bufferExpandTurn_scan {c : ConfigLoop} (hc : attributeSize ≤ c.nAttribute)
    (w : World SlotStore) :
    Ensures (bufferExpandTurn L reg c) (fun q _ => ScanStep L w.memory (.config c) q)
      (fun _ _ => True) w := by
  unfold bufferExpandTurn
  refine ensures_loadNtohl (fun _ => ?_) fun _ => trivial
  refine ensures_loadNtohl (fun _ => ?_) fun _ => trivial
  refine ensures_mono ?_ (fun _ _ h => h) (bufferExpandSwitch_scan L reg _ _ w)
  rintro _ _ (⟨hkind, rfl⟩ | ⟨k, v, padding, hkind, rfl, hentered⟩)
  · exact .pass hc hkind
  · exact .enter hc hkind hentered

/-- The attributes of a resolver only change its counts. -/
theorem expandResolverSwitch_scan (v : ResolverLoop) (type : ℕ) (w : World SlotStore) :
    Ensures (expandResolverSwitch L reg v type) (fun v' _ => ∃ count, v' = { v with count })
      (fun _ _ => True) w := by
  have hE : ∀ (e : Stop) (w' : World SlotStore), True := fun _ _ => trivial
  unfold expandResolverSwitch
  split
  · exact ensures_pure ⟨_, rfl⟩
  · exact Prog.ensures_skip hE fun _ _ => ensures_pure ⟨_, rfl⟩
  · exact Prog.ensures_skip hE fun _ _ => ensures_pure ⟨_, rfl⟩

/-- A turn inside of a resolver moves on by one attribute. -/
theorem expandResolverTurn_scan (v : ResolverLoop) (w : World SlotStore) :
    Ensures (expandResolverTurn L reg v)
      (fun v' _ => ∃ count, v' = { v.look (attributeLength w.memory v.attributePtr) with count })
      (fun _ _ => True) w := by
  unfold expandResolverTurn
  refine ensures_loadNtohl (fun _ => ?_) fun _ => trivial
  refine ensures_loadNtohl (fun _ => ?_) fun _ => trivial
  exact expandResolverSwitch_scan L reg _ _ w

/-- **What a step can do** to the loops. -/
theorem expandStep_scan (s : ExpandState) :
    ScanStep L s.world.memory s.point (expandStep L reg s).point := by
  have hE : ∀ (e : Stop) (w' : World SlotStore), True := fun _ _ => trivial
  suffices hens : Ensures (expandPoint L reg s.point)
      (fun q _ => ScanStep L s.world.memory s.point q) (fun _ _ => True) s.world by
    rcases ofResult_cases hens with hstep | ⟨hstop, -⟩
    · exact hstep
    · exact .stop hstop
  rcases s with ⟨p, w⟩
  cases p with
  | config c =>
    simp only [expandPoint]
    split
    · rename_i hc
      exact bufferExpandTurn_scan L reg hc w
    · unfold bufferExpandEnd
      iterate 3 refine Prog.ensures_skip hE fun _ _ => ?_
      exact ensures_pure (.stop trivial)
  | configNext c => exact ensures_pure .next
  | resolver c k v =>
    simp only [expandPoint]
    split
    · rename_i hv
      refine ensures_bind (expandResolverTurn_scan L reg v w) ?_
      rintro _ w' ⟨count, rfl⟩
      exact ensures_pure (.turn hv)
    · rename_i hv
      unfold bufferExpandAdd
      iterate 2 refine Prog.ensures_skip hE fun _ _ => ?_
      exact ensures_pure (.add (Nat.lt_of_not_le hv))
  | resolverNext c k v => exact ensures_pure .nextOfResolver
  | returned config => exact ensures_pure (.stop trivial)
  | crashed => exact ensures_pure (.stop trivial)

end

end ConfigdExtra
