import ConfigdExtra.DnsAttributes

/-!
# The headers while a DNS configuration is expanded

While the lengths fit, the expansion of an accepted buffer writes to nothing but the header of the
configuration, the headers of its resolvers and what is behind the attributes.

* `Claimed`, `ResolverKept`, `ConfigKept` — the header of a resolver and that of the configuration
  are what was expanded, and the attributes are what they were.
* `Kept`, `kept_step`, `ExpandInv`, `Accepted.inv` — this is so in every state of a run.
-/

namespace ConfigdExtra

open Memory (pointerSize)
open Program (Reaches)

/-! ## What is kept -/

/-- `c` was claimed for a list of `n` pointers, behind `stop`. -/
structure Claimed (stop n : ℕ) (c : Claim) : Prop where
  /-- `need` -/
  need : c.need = listNeed n
  /-- in the padding -/
  lo : stop ≤ c.start

/-- The list is in the padding when there is one. -/
theorem Claimed.le_list {stop n : ℕ} {c : Claim} (h : Claimed stop n c) (hlist : c.list ≠ 0) :
    stop ≤ c.list := by
  unfold Claim.list at hlist ⊢
  split at hlist
  · exact absurd rfl hlist
  · rw [if_neg ‹_›]
    exact h.lo

section

variable (L : DnsLayout) (reg : Region) (dataLen : ℕ) (m : Memory)

/-- The header of the resolver at the attribute `a` is what it is after the attributes `seen`. -/
structure ResolverKept (mem : Memory) (a : ℕ) (seen : List ℕ) (claim : ResolverList → Claim) :
    Prop where
  /-- the header is inside the attribute -/
  fits : attributeSize + L.resolverBufSize ≤ attributeLength m a
  /-- the lists are claimed -/
  claimed : ∀ l, Claimed (reg.start + dataLen)
    (ntohl (L.resolver.values m (a + attributeSize) (.n l))) (claim l)
  /-- the fields -/
  values : L.resolver.values mem (a + attributeSize) =
    headerAfter m (expandedHeader L (L.resolver.values m (a + attributeSize)) claim) seen

/-- The `n` bytes from `b` are not in the header of a resolver at one of the attributes `as`. -/
def ApartFrom (as : List ℕ) (b n : ℕ) : Prop :=
  ∀ a ∈ as, HoldsResolver m a →
    b + n ≤ a + attributeSize ∨ a + attributeSize + L.resolver.size ≤ b

/-- What there is after the attributes `done`, up to `front`, when the resolvers at `as` have
been begun. -/
structure ConfigKept (mem : Memory) (claim : ResolverKind → Claim) (count : ResolverKind → ℕ)
    (done : List ℕ) (front : ℕ) (as : List ℕ) : Prop where
  /-- these are the first attributes -/
  walk : AttributeWalk m (reg.start + dataLen) (reg.start + L.configBufSize) done front
  /-- the resolvers are counted -/
  count : ∀ k, count k = (ofKind m k done).length
  /-- the lists are claimed -/
  claimed : ∀ k, Claimed (reg.start + dataLen)
    (ntohl (L.config.values m reg.start (.n k))) (claim k)
  /-- the fields -/
  values : L.config.values mem reg.start = expandedConfig (L.config.values m reg.start) claim
  /-- the attributes -/
  untouched : ∀ b n, reg.start + L.configBufSize ≤ b → b + n ≤ reg.start + dataLen →
    ApartFrom L m as b n → m.EqOn mem b n
  /-- the resolvers -/
  resolvers : ∀ a ∈ done, HoldsResolver m a →
    ∃ claim, ResolverKept L reg dataLen m mem a (resolverAttributes L m a) claim

/-- What there is after the attributes `seen`, up to `front`, of the resolver of kind `k` that
comes after the attributes `done`. -/
structure ResolverBusy (mem : Memory) (c : ConfigLoop) (k : ResolverKind) (v : ResolverLoop)
    (done seen : List ℕ) (front : ℕ) : Prop where
  /-- what came before -/
  config : ConfigKept L reg dataLen m mem c.claim c.count done c.attributePtr
    (done ++ [c.attributePtr])
  /-- there is a resolver -/
  kind : ResolverKind.ofType (attributeType m c.attributePtr) = some k
  /-- its attribute -/
  length : c.length = attributeLength m c.attributePtr
  /-- its first attributes -/
  walk : AttributeWalk m (c.attributePtr + c.length)
    (c.attributePtr + attributeSize + L.resolverBufSize) seen front
  /-- these are counted -/
  count : ∀ l, v.count l = (ofList m l seen).length
  /-- its header -/
  header : ResolverKept L reg dataLen m mem c.attributePtr seen v.claim

/-- The padding that is left is behind the attributes. -/
structure PaddingKept (padding : Padding) : Prop where
  /-- behind the attributes -/
  lo : reg.start + dataLen ≤ padding.ptr
  /-- it can be addressed -/
  hi : padding.ptr + padding.n ≤ 2 ^ 64

/-- What the expansion keeps. -/
def Kept (mem : Memory) : Point → Prop
  | .config c => PaddingKept reg dataLen c.padding ∧
      ∃ done, ConfigKept L reg dataLen m mem c.claim c.count done c.attributePtr done
  | .configNext c => PaddingKept reg dataLen c.padding ∧
      ∃ done, ConfigKept L reg dataLen m mem c.claim c.count done (c.attributePtr + c.length) done
  | .resolver c k v => PaddingKept reg dataLen c.padding ∧
      ∃ done seen, ResolverBusy L reg dataLen m mem c k v done seen v.attributePtr
  | .resolverNext c k v => PaddingKept reg dataLen c.padding ∧
      ∃ done seen, ResolverBusy L reg dataLen m mem c k v done seen (v.attributePtr + v.length)
  | .returned (some config) => config = reg.start ∧
      ∀ a ∈ configAttributes L reg dataLen m, HoldsResolver m a →
        ∃ claim, ResolverKept L reg dataLen m mem a (resolverAttributes L m a) claim
  | _ => True

end

/-! ## Lemmas about what is kept -/

section

variable {L : DnsLayout} {reg : Region} {dataLen : ℕ} {m mem mem' : Memory}

/-- One attribute more to stay away from. -/
theorem apartFrom_concat {as : List ℕ} {a b n : ℕ} (h : ApartFrom L m as b n)
    (ha : b + n ≤ a + attributeSize ∨ a + attributeSize + L.resolver.size ≤ b) :
    ApartFrom L m (as ++ [a]) b n := by
  intro x hx hholds
  rcases List.mem_append.mp hx with hx | hx
  · exact h x hx hholds
  · rw [List.mem_singleton.mp hx]
    exact ha

theorem ApartFrom.mono {as bs : List ℕ} {b n : ℕ} (h : ApartFrom L m bs b n)
    (hsub : ∀ a ∈ as, a ∈ bs) : ApartFrom L m as b n := fun a ha => h a (hsub a ha)

/-- What is kept of a resolver is in its header only. -/
theorem ResolverKept.congr {a : ℕ} {seen : List ℕ} {claim : ResolverList → Claim}
    (h : ResolverKept L reg dataLen m mem a seen claim)
    (heq : mem.EqOn mem' (a + attributeSize) L.resolver.size) :
    ResolverKept L reg dataLen m mem' a seen claim :=
  ⟨h.fits, h.claimed, (StructLayout.values_eq heq).symm.trans h.values⟩

namespace ConfigKept

variable {claim : ResolverKind → Claim} {count count' : ResolverKind → ℕ} {done as : List ℕ}
  {p b n : ℕ}

/-- Resolvers that are finished lie in front of what is next. -/
theorem apartFrom (h : ConfigKept L reg dataLen m mem claim count done p as) (hb : p ≤ b) :
    ApartFrom L m done b n := by
  intro a ha hholds
  obtain ⟨_, hkept⟩ := h.resolvers a ha hholds
  obtain ⟨-, -, hlen⟩ := h.walk.mem_bounds ha
  have hfits := hkept.fits
  have hsize : L.resolverBufSize = L.resolver.size + 4 := rfl
  exact .inr (by omega)

/-- What is next is untouched. -/
theorem eqOn (h : ConfigKept L reg dataLen m mem claim count done p done) (hb : p ≤ b)
    (hn : b + n ≤ reg.start + dataLen) : m.EqOn mem b n :=
  h.untouched b n (h.walk.le.trans hb) hn (h.apartFrom hb)

/-- What is next, behind the header of a resolver that has been begun, is untouched. -/
theorem eqOn_of_begun (h : ConfigKept L reg dataLen m mem claim count done p (done ++ [p]))
    (hb : p + attributeSize + L.resolver.size ≤ b) (hn : b + n ≤ reg.start + dataLen) :
    m.EqOn mem b n := by
  have hpb : p ≤ b := by omega
  exact h.untouched b n (h.walk.le.trans hpb) hn (apartFrom_concat (h.apartFrom hpb) (.inr hb))

/-- A write to the header of the resolver that comes next, or behind the attributes. -/
theorem write (h : ConfigKept L reg dataLen m mem claim count done p as)
    (has : ∀ a ∈ as, a ∈ done ++ [p]) (hp : HoldsResolver m p)
    (hstop : p + attributeSize ≤ reg.start + dataLen)
    (hframe : ∀ b n, b + n ≤ reg.start + dataLen →
      b + n ≤ p + attributeSize ∨ p + attributeSize + L.resolver.size ≤ b → mem.EqOn mem' b n) :
    ConfigKept L reg dataLen m mem' claim count done p (done ++ [p]) where
  walk := h.walk
  count := h.count
  claimed := h.claimed
  values := by
    have hle := h.walk.le
    have hsize : L.configBufSize = L.config.size + 8 := rfl
    rw [← StructLayout.values_eq (hframe reg.start L.config.size (by omega) (.inl (by omega)))]
    exact h.values
  untouched b n hlo hhi hapart :=
    (h.untouched b n hlo hhi (hapart.mono has)).trans
      (hframe b n hhi (hapart p (by simp) hp))
  resolvers a ha hholds := by
    obtain ⟨claim, hkept⟩ := h.resolvers a ha hholds
    obtain ⟨-, -, hlen⟩ := h.walk.mem_bounds ha
    have hfits := hkept.fits
    have hsize : L.resolverBufSize = L.resolver.size + 4 := rfl
    exact ⟨claim, hkept.congr (hframe _ _ (by omega) (.inl (by omega)))⟩

/-- To the next attribute, once the one at `p` is finished. -/
theorem advance (h : ConfigKept L reg dataLen m mem claim count done p as)
    (has : ∀ a ∈ as, a ∈ done ++ [p]) (hheader : p + attributeSize ≤ reg.start + dataLen)
    (hlength : p + attributeLength m p ≤ reg.start + dataLen)
    (hcount : ∀ k, count' k = count k +
      if ResolverKind.ofType (attributeType m p) = some k then 1 else 0)
    (hresolver : HoldsResolver m p →
      ∃ claim, ResolverKept L reg dataLen m mem p (resolverAttributes L m p) claim) :
    ConfigKept L reg dataLen m mem claim count' (done ++ [p]) (p + attributeLength m p)
      (done ++ [p]) where
  walk := h.walk.concat hheader hlength
  count k := by
    rw [hcount, h.count, ofKind, ofKind, List.filter_append, List.length_append]
    by_cases hk : ResolverKind.ofType (attributeType m p) = some k
    · simp [hk]
    · simp [hk]
  claimed := h.claimed
  values := h.values
  untouched b n hlo hhi hapart := h.untouched b n hlo hhi (hapart.mono has)
  resolvers a ha hholds := by
    rcases List.mem_append.mp ha with ha | ha
    · exact h.resolvers a ha hholds
    · rw [List.mem_singleton.mp ha] at hholds ⊢
      exact hresolver hholds

/-- The list is where its claim in the padding starts. -/
theorem list_eq (h : ConfigKept L reg dataLen m mem claim count done p as) (k : ResolverKind) :
    L.config.values mem reg.start (.list k) = (claim k).list := by
  rw [h.values]
  rfl

/-- The count has been swapped once. -/
theorem n_eq (h : ConfigKept L reg dataLen m mem claim count done p as) (k : ResolverKind) :
    L.config.values mem reg.start (.n k) = ntohl (L.config.values m reg.start (.n k)) := by
  rw [h.values]
  rfl

end ConfigKept

namespace ResolverKept

variable {a : ℕ} {seen : List ℕ} {claim : ResolverList → Claim}

theorem list_eq (h : ResolverKept L reg dataLen m mem a seen claim) (l : ResolverList) :
    L.resolver.values mem (a + attributeSize) (.list l) = (claim l).list := by
  rw [h.values, headerAfter_list]
  rfl

theorem n_eq (h : ResolverKept L reg dataLen m mem a seen claim) (l : ResolverList) :
    L.resolver.values mem (a + attributeSize) (.n l) =
      ntohl (L.resolver.values m (a + attributeSize) (.n l)) := by
  rw [h.values, headerAfter_n]
  rfl

end ResolverKept

namespace ResolverBusy

variable {c : ConfigLoop} {k : ResolverKind} {v v' : ResolverLoop} {done seen : List ℕ}
  {b n front : ℕ}

theorem holds (h : ResolverBusy L reg dataLen m mem c k v done seen front) :
    HoldsResolver m c.attributePtr := holdsResolver_of h.kind

/-- What is next is untouched. -/
theorem eqOn (h : ResolverBusy L reg dataLen m mem c k v done seen front) (hb : front ≤ b)
    (hn : b + n ≤ reg.start + dataLen) : m.EqOn mem b n := by
  have hle := h.walk.le
  have hsize : L.resolverBufSize = L.resolver.size + 4 := rfl
  exact h.config.eqOn_of_begun (by omega) hn

/-- To the next attribute of a resolver. -/
theorem turn (h : ResolverBusy L reg dataLen m mem c k v done seen front)
    (hstop : c.attributePtr + attributeSize ≤ reg.start + dataLen)
    (hheader : front + attributeSize ≤ c.attributePtr + c.length)
    (hlength : front + attributeLength m front ≤ c.attributePtr + c.length)
    (hclaim : v'.claim = v.claim)
    (hcount : ∀ l, v'.count l = v.count l +
      if resolverTarget m front = some (.list l) then 1 else 0)
    (hframe : ∀ b n, b + n ≤ reg.start + dataLen →
      b + n ≤ c.attributePtr + attributeSize ∨
        c.attributePtr + attributeSize + L.resolver.size ≤ b → mem.EqOn mem' b n)
    (hvalues : L.resolver.values mem' (c.attributePtr + attributeSize) =
      headerNext m (L.resolver.values mem (c.attributePtr + attributeSize)) front) :
    ResolverBusy L reg dataLen m mem' c k v' done (seen ++ [front])
      (front + attributeLength m front) where
  config := h.config.write (fun _ ha => ha) h.holds hstop hframe
  kind := h.kind
  length := h.length
  walk := h.walk.concat hheader hlength
  count l := by
    rw [hcount, h.count, ofList, ofList, List.filter_append, List.length_append]
    by_cases hl : resolverTarget m front = some (.list l)
    · simp [hl]
    · simp [hl]
  header := by
    refine ⟨h.header.fits, fun l => hclaim ▸ h.header.claimed l, ?_⟩
    rw [hvalues, h.header.values, headerAfter_concat, hclaim]

/-- A resolver is finished when all its attributes have been seen. -/
theorem finished (h : ResolverBusy L reg dataLen m mem c k v done seen front)
    (hend : c.attributePtr + c.length < front + attributeSize) :
    ResolverKept L reg dataLen m mem c.attributePtr
      (resolverAttributes L m c.attributePtr) v.claim := by
  have hseen : resolverAttributes L m c.attributePtr = seen := by
    rw [resolverAttributes, ← h.length]
    exact h.walk.complete hend
  rw [hseen]
  exact h.header

end ResolverBusy

end

/-! ## Claims -/

section

variable {stop : ℕ} {p : Padding}

/-- A claim is behind what was claimed before. -/
theorem Padding.claimed (h : stop ≤ p.ptr) (n : ℕ) : Claimed stop n (p.claim n) := ⟨rfl, h⟩

/-- The padding only moves on. -/
theorem Padding.le_rest (h : stop ≤ p.ptr) (n : ℕ) : stop ≤ (p.rest n).ptr :=
  h.trans (Nat.le_add_right _ _)

/-- The lists of a resolver are behind what was claimed before. -/
theorem resolverClaims_claimed (count : ResolverList → ℕ) (h : stop ≤ p.ptr) (l : ResolverList) :
    Claimed stop (count l) ((resolverClaims p count).1 l) := by
  cases l with
  | nameserver => exact Padding.claimed h _
  | search => exact Padding.claimed (Padding.le_rest h _) _
  | sortaddr => exact Padding.claimed (Padding.le_rest (Padding.le_rest h _) _) _

/-- So are the lists of the configuration. -/
theorem configClaims_claimed (count : ResolverKind → ℕ) (h : stop ≤ p.ptr) (k : ResolverKind) :
    Claimed stop (count k) ((configClaims p count).1 k) := by
  cases k with
  | resolver => exact Padding.claimed h _
  | scopedResolver => exact Padding.claimed (Padding.le_rest h _) _
  | serviceSpecificResolver => exact Padding.claimed (Padding.le_rest (Padding.le_rest h _) _) _

end

/-! ## Runs -/

section

variable {L : DnsLayout} {data m : Memory} {dataRef dataLen : ℕ} {reg : Region}

/-- The padding is what is behind the attributes. -/
theorem Accepted.wholePadding_eq (h : Accepted L data dataRef dataLen reg m) :
    (wholePadding L reg m).ptr = reg.start + dataLen ∧
      (wholePadding L reg m).ptr + (wholePadding L reg m).n = reg.stop := by
  obtain ⟨hlen, hsize, -, hcopy⟩ := h.facts
  have hconfig : L.configBufSize = L.config.size + 8 := rfl
  have hcopy' : m.CopyAt data (reg.start + L.config.size + 4) (dataRef + L.config.size + 4) 4 := by
    rw [Nat.add_assoc, Nat.add_assoc]
    exact hcopy.sub (by omega)
  have hpadding : m.loadNet (reg.start + L.config.size + 4) 4 =
      data.loadNet (dataRef + L.config.size + 4) 4 := hcopy'.loadNet_eq
  have hattributes := h.size_eq
  simp only [wholePadding, Region.stop]
  omega

/-- Nothing is said of a run that has stopped. -/
theorem kept_of_failed {mem : Memory} (e : Stop) :
    Kept L reg dataLen m mem (stopPoint e) := by
  cases e with
  | error => trivial
  | fault => trivial

/-- The expansion of an accepted buffer begins with what it keeps. -/
theorem Accepted.kept_start (h : Accepted L data dataRef dataLen reg m) :
    Kept L reg dataLen m (expandStart L reg m).world.memory (expandStart L reg m).point := by
  obtain ⟨hptr, hend⟩ := h.wholePadding_eq
  have hle : (wholePadding L reg m).ptr + (wholePadding L reg m).n ≤ 2 ^ 64 :=
    hend.trans_le h.addressable.le
  refine ofResult_ensures (R := fun p w => Kept L reg dataLen m w.memory p) ?_
  refine Prog.ensures_mono ?_ (fun e _ _ => kept_of_failed e)
    (bufferExpandBegin_spec L reg (w := ⟨m, []⟩) hle)
  rintro _ w' ⟨c, rfl, hattribute, -, hcount, hclaims, hsum, hrest, hw'⟩
  refine ⟨⟨hptr.ge.trans hrest, hsum.trans_le hle⟩, [], ?_⟩
  exact {
    walk := hattribute
    count := fun k => by rw [hcount]; rfl
    claimed := fun k => by
      rw [show c.claim = (configClaims _ _).1 from congrArg Prod.fst hclaims]
      exact configClaims_claimed (fun k => ntohl (L.config.values m reg.start (.n k))) hptr.ge k
    values := hw'.values
    untouched := fun b n hlo _ _ => hw'.frame b n (.inr (by
      have hsize : L.configBufSize = L.config.size + 8 := rfl
      omega))
    resolvers := fun a ha => absurd ha (by simp) }

/-- The bytes in front of a store behind the attributes. -/
theorem storeSlot_frame {w : World SlotStore} {t : SlotStore} {value : ℕ}
    (h : reg.start + dataLen ≤ t.address) (b n : ℕ) (hn : b + n ≤ reg.start + dataLen) :
    w.memory.EqOn (storeSlot w t value).memory b n := Memory.EqOn.store (.inr (hn.trans h))

/-- A resolver is begun. -/
theorem kept_enter {c : ConfigLoop} {k : ResolverKind} {v : ResolverLoop} {padding : Padding}
    {w w' : World SlotStore} (hscan : ConfigScanned L reg dataLen c)
    (h : Kept L reg dataLen m w.memory (.config c)) (hc : attributeSize ≤ c.nAttribute)
    (hfit : LengthsFit w.memory (.config c))
    (hkind : ResolverKind.ofType (attributeType w.memory c.attributePtr) = some k)
    (hentered : ResolverEntered L (c.attributePtr + attributeSize)
      (sub32 (attributeLength w.memory c.attributePtr) attributeSize) v)
    (hcount : v.count = fun _ => 0)
    (hclaims : (v.claim, padding) = resolverClaims c.padding (fun l =>
      ntohl (L.resolver.values w.memory (c.attributePtr + attributeSize) (.n l))))
    (hsum : padding.ptr + padding.n = c.padding.ptr + c.padding.n)
    (hrest : c.padding.ptr ≤ padding.ptr)
    (hw' : L.resolver.Rewritten w w' (c.attributePtr + attributeSize)
      (expandedHeader L (L.resolver.values w.memory (c.attributePtr + attributeSize)) v.claim)) :
    Kept L reg dataLen m w'.memory
      (.resolver { c.look (attributeLength w.memory c.attributePtr) with padding } k v) := by
  obtain ⟨⟨hlo, hhi⟩, done, hdone⟩ := h
  have hend := hscan.hi
  obtain ⟨hpass, hheader⟩ := hfit hc
  have hheader := hheader (hkind ▸ rfl)
  have heq : m.EqOn w.memory c.attributePtr attributeSize := hdone.eqOn le_rfl (by omega)
  rw [attributeLength_eq heq] at hpass hheader hentered ⊢
  rw [attributeType_eq heq] at hkind
  have hfits := hentered.fits
  rw [sub32_of_le hheader (attributeLength_lt _ _)] at hfits
  have hsize : L.resolverBufSize = L.resolver.size + 4 := rfl
  have hvalues : L.resolver.values w.memory (c.attributePtr + attributeSize) =
      L.resolver.values m (c.attributePtr + attributeSize) :=
    (StructLayout.values_eq (hdone.eqOn (Nat.le_add_right _ _) (by omega))).symm
  rw [hvalues] at hclaims hw'
  have hholds : HoldsResolver m c.attributePtr := holdsResolver_of hkind
  refine ⟨⟨hlo.trans hrest, hsum.trans_le hhi⟩, done, [], ?_⟩
  exact {
    config := hdone.write (fun a ha => List.mem_append_left _ ha) hholds (by omega)
      fun b n _ hapart => hw'.frame b n hapart
    kind := hkind
    length := rfl
    walk := hentered.attributePtr
    count := fun l => by rw [hcount]; rfl
    header := {
      fits := by
        change attributeSize + L.resolverBufSize ≤ attributeLength m c.attributePtr
        omega
      claimed := fun l => by
        rw [show v.claim = (resolverClaims _ _).1 from congrArg Prod.fst hclaims]
        exact resolverClaims_claimed
          (fun l => ntohl (L.resolver.values m (c.attributePtr + attributeSize) (.n l))) hlo l
      values := hw'.values } }

/-- The attribute that comes next has the type and the length that it had. -/
theorem ResolverBusy.next_eq {mem : Memory} {c : ConfigLoop} {k : ResolverKind}
    {v : ResolverLoop} {done seen : List ℕ} {front : ℕ}
    (h : ResolverBusy L reg dataLen m mem c k v done seen front)
    (hin : front + attributeSize ≤ reg.start + dataLen) :
    attributeLength mem front = attributeLength m front ∧
      resolverTarget mem front = resolverTarget m front := by
  have heq : m.EqOn mem front attributeSize := h.eqOn le_rfl hin
  exact ⟨attributeLength_eq heq, resolverTarget_eq heq⟩

/-- An attribute of a resolver is passed. -/
theorem kept_turn {c : ConfigLoop} {k : ResolverKind} {v v' : ResolverLoop} {mem mem' : Memory}
    (hconfig : ConfigScanned L reg dataLen c) (hscan : ResolverScanned L c v)
    (h : Kept L reg dataLen m mem (.resolver c k v)) (hv : attributeSize ≤ v.nAttribute)
    (hfit : LengthsFit mem (.resolver c k v)) (hptr : v'.attributePtr = v.attributePtr)
    (hlength : v'.length = attributeLength mem v.attributePtr) (hclaim : v'.claim = v.claim)
    (hcount : ∀ l, v'.count l = v.count l +
      if resolverTarget mem v.attributePtr = some (.list l) then 1 else 0)
    (hframe : ∀ b n, b + n ≤ reg.start + dataLen →
      b + n ≤ v.resolver ∨ v.resolver + L.resolver.size ≤ b → mem.EqOn mem' b n)
    (hvalues : L.resolver.values mem' v.resolver =
      headerNext mem (L.resolver.values mem v.resolver) v.attributePtr) :
    Kept L reg dataLen m mem' (.resolverNext c k v') := by
  obtain ⟨hpadding, done, seen, hbusy⟩ := h
  have hpass := hfit hv
  have hend := hconfig.hi
  have hlo := hscan.lo
  have hhi := hscan.hi
  have hfills := hscan.fills
  have hpasses := hscan.passes
  have hresolver := hscan.resolver
  obtain ⟨hlen, htarget⟩ := hbusy.next_eq (by omega)
  rw [hlen] at hpass hlength
  rw [hresolver] at hframe hvalues
  simp only [headerNext, htarget] at hvalues
  rw [htarget] at hcount
  refine ⟨hpadding, done, seen ++ [v.attributePtr], ?_⟩
  rw [hptr, hlength]
  exact hbusy.turn (by omega) (by omega) (by omega) hclaim hcount hframe hvalues

/-- The address of a field of the resolver in a structure of the region is one that fits into a
pointer. -/
theorem Accepted.pointer_lt (h : Accepted L data dataRef dataLen reg m) {a : ℕ}
    (ha : reg.Contains a 4) : a + 4 < 256 ^ pointerSize := by
  have hstop := h.addressable
  have hpow : 256 ^ pointerSize = 2 ^ 64 := by decide
  exact hpow ▸ ha.2.trans_lt hstop

/-- Only pointers are the target of an attribute. -/
theorem width_of_target {b : ℕ} {f : ResolverField} (h : resolverTarget m b = some (.field f)) :
    L.resolver.width f = pointerSize := by
  rw [L.resolver_width]
  obtain ⟨t, -, htarget⟩ := Option.map_eq_some_iff.mp h
  cases t <;> cases htarget <;> rfl

/-- A step keeps the headers when the lengths fit. -/
theorem kept_step (haccepted : Accepted L data dataRef dataLen reg m) {p q : Point}
    {w w' : World SlotStore} (hscan : Scanned L reg dataLen p)
    (h : Kept L reg dataLen m w.memory p) (hfit : LengthsFit w.memory p)
    (hstep : StepEffect L reg p w q w') : Kept L reg dataLen m w'.memory q := by
  cases hstep with
  | failed e _ _ => exact kept_of_failed e
  | listFailed _ _ _ _ _ => trivial
  | addFailed _ _ _ _ _ => trivial
  | rest hstop =>
    cases p with
    | returned config => exact h
    | crashed => trivial
    | _ => exact hstop.elim
  | @finish c w hc _ =>
    obtain ⟨-, done, hdone⟩ := h
    have hend := hscan.hi
    refine ⟨rfl, ?_⟩
    -- the walk is complete: fewer bytes are left than an attribute takes
    rw [configAttributes, hdone.walk.complete (by omega)]
    exact hdone.resolvers
  | @pass c w hc hkind =>
    obtain ⟨hpadding, done, hdone⟩ := h
    have hend := hscan.hi
    have hpass := (hfit hc).1
    have heq : m.EqOn w.memory c.attributePtr attributeSize := hdone.eqOn le_rfl (by omega)
    rw [attributeLength_eq heq] at hpass ⊢
    rw [attributeType_eq heq] at hkind
    refine ⟨hpadding, done ++ [c.attributePtr], ?_⟩
    refine hdone.advance (fun a ha => List.mem_append_left _ ha) (by omega) (by omega)
      (fun k => by simp [ConfigLoop.look, hkind]) fun hholds => ?_
    rw [HoldsResolver, hkind] at hholds
    -- an attribute that is passed over holds no resolver
    exact absurd hholds (by decide)
  | enter hc hkind hentered hcount hclaims hsum hrest hw' =>
    exact kept_enter hscan h hc hfit hkind hentered hcount hclaims hsum hrest hw'
  | next =>
    obtain ⟨hpadding, done, hdone⟩ := h
    exact ⟨hpadding, done, hdone⟩
  -- the pointer is stored in the header, and fits the field
  | @field c k v w f hv htarget hin =>
    have hvalue : v.attributePtr + attributeSize < 256 ^ L.resolver.width f := by
      rw [width_of_target htarget]
      exact haccepted.pointer_lt hin
    refine kept_turn hscan.1 hscan.2 h hv hfit rfl rfl rfl (fun l => ?_)
      (fun b n _ hapart => StructLayout.put_eqOn _ _ _ hapart.symm) ?_
    · simp [ResolverLoop.look, htarget]
    · rw [StructLayout.values_put _ _ hvalue, headerNext_field htarget]
  | @list c k v w l hv htarget hptr _ =>
    obtain ⟨-, done, seen, hbusy⟩ := id h
    have hlist := hbusy.header.list_eq l
    rw [← hscan.2.resolver] at hlist
    have haddress : reg.start + dataLen ≤ (v.slot L w.memory l).address := by
      have hle := (hbusy.header.claimed l).le_list (hlist ▸ hptr)
      rw [ResolverLoop.slot, slotStore, hlist]
      exact hle.trans (Nat.le_add_right _ _)
    refine kept_turn hscan.1 hscan.2 h hv hfit rfl rfl rfl (fun l' => ?_)
      (fun b n hn _ => storeSlot_frame haddress b n hn) ?_
    · -- one list gets an element, the others stay
      by_cases hl : l' = l
      · subst hl
        simp [htarget]
      · have hne : some (ResolverTarget.list l) ≠ some (.list l') := by
          simpa using fun h => hl h.symm
        simp [htarget, hl, hne]
    · rw [headerNext_other fun f => by simp [htarget]]
      have hhi := hscan.1.hi
      have hfills := hscan.2.fills
      have hpasses := hscan.2.passes
      have hsize : L.resolverBufSize = L.resolver.size + 4 := rfl
      exact (StructLayout.values_eq (storeSlot_frame haddress _ _ (by omega))).symm
  | @other c k v w hv htarget =>
    refine kept_turn hscan.1 hscan.2 h hv hfit rfl rfl rfl (fun l => ?_)
      (fun b n _ _ => .refl _ b n) ?_
    · simp [ResolverLoop.look, htarget]
    · rw [headerNext_other fun f => by simp [htarget]]
  | nextOfResolver =>
    obtain ⟨hpadding, done, seen, hbusy⟩ := h
    exact ⟨hpadding, done, seen, hbusy.config, hbusy.kind, hbusy.length, hbusy.walk, hbusy.count,
      hbusy.header⟩
  -- the resolver is finished, and its address goes into a list of the configuration
  | @add c k v w hv _ hptr _ =>
    obtain ⟨hpadding, done, seen, hbusy⟩ := h
    have hlist := hbusy.config.list_eq k
    have haddress : reg.start + dataLen ≤ (c.slot L reg w.memory k).address := by
      have hle := (hbusy.config.claimed k).le_list (hlist ▸ hptr)
      rw [ConfigLoop.slot, slotStore, hlist]
      exact hle.trans (Nat.le_add_right _ _)
    have hend := hscan.1.hi
    have hhi := hscan.2.hi
    have hfills := hscan.2.fills
    have hpasses := hscan.2.passes
    have hlo := hscan.2.lo
    have hresolver := hscan.2.resolver
    have hlength := hbusy.length
    have hframe : ∀ b n, b + n ≤ reg.start + dataLen →
        w.memory.EqOn (storeSlot w (c.slot L reg w.memory k) v.resolver).memory b n :=
      storeSlot_frame haddress
    have hafter := hbusy.config.write (fun _ ha => ha) hbusy.holds (by omega)
      fun b n hn _ => hframe b n hn
    refine ⟨hpadding, done ++ [c.attributePtr], ?_⟩
    change ConfigKept L reg dataLen m _ _ _ _ (c.attributePtr + c.length) _
    -- its header has not been touched by the store, which is behind the buffer
    rw [hlength]
    refine hafter.advance (fun _ ha => ha) (by omega) (by omega) (fun k' => ?_) fun _ => ?_
    · rw [hbusy.kind]
      by_cases hk : k' = k
      · subst hk
        simp
      · have hne : some k ≠ some k' := by simpa using fun h => hk h.symm
        simp [hk, hne]
    · have hfits := hbusy.header.fits
      have hsize : L.resolverBufSize = L.resolver.size + 4 := rfl
      exact ⟨v.claim, (hbusy.finished (by omega)).congr (hframe _ _ (by omega))⟩

theorem Kept.paddingAddressable {mem : Memory} {p : Point} (h : Kept L reg dataLen m mem p) :
    PaddingAddressable p := by
  cases p with
  | config c => exact h.1.hi
  | configNext c => exact h.1.hi
  | resolver c k v => exact h.1.hi
  | resolverNext c k v => exact h.1.hi
  | returned config => trivial
  | crashed => trivial

/-- The invariant of the expansion: the loops are scanning what they should, and the headers are
kept. -/
structure ExpandInv (L : DnsLayout) (reg : Region) (dataLen : ℕ) (m : Memory) (s : ExpandState) :
    Prop where
  /-- the loops -/
  scanned : Scanned L reg dataLen s.point
  /-- the headers -/
  kept : Kept L reg dataLen m s.world.memory s.point

/-- What a step does where the invariant holds. -/
theorem ExpandInv.effect {s : ExpandState} (h : ExpandInv L reg dataLen m s) :
    StepEffect L reg s.point s.world (expandStep L reg s).point (expandStep L reg s).world :=
  expandStep_effect L reg s h.kept.paddingAddressable

theorem Accepted.inv_start (h : Accepted L data dataRef dataLen reg m) :
    ExpandInv L reg dataLen m (expandStart L reg m) := ⟨h.scanned_start, h.kept_start⟩

/-- A step keeps the invariant when the lengths fit. -/
theorem Accepted.inv_step (h : Accepted L data dataRef dataLen reg m) {s : ExpandState}
    (hs : ExpandInv L reg dataLen m s) (hfit : LengthsFit s.world.memory s.point) :
    ExpandInv L reg dataLen m (expandStep L reg s) where
  scanned := scanned_step h.dataLen_lt hs.scanned hfit (expandStep_scan L reg s)
  kept := kept_step h hs.scanned hs.kept hfit hs.effect

/-- **The headers.** When all lengths fit, the expansion of an accepted buffer keeps the
headers. -/
theorem Accepted.inv (h : Accepted L data dataRef dataLen reg m)
    (hfit : ∀ s, Reaches (expandStep L reg) (expandStart L reg m) s →
      LengthsFit s.world.memory s.point)
    {s : ExpandState} (hs : Reaches (expandStep L reg) (expandStart L reg m) s) :
    ExpandInv L reg dataLen m s := by
  refine GuardedRun.inv_of_forall (δ := fun s (_ : Unit) => expandStep L reg s)
    (G := fun _ _ => True) (I := fun s => ExpandInv L reg dataLen m s)
    (C := fun s _ => LengthsFit s.world.memory s.point) h.inv_start ?_ ?_ hs
  · exact fun s _ hinv _ hfits => h.inv_step hinv hfits
  · exact fun s _ hrun _ => hfit s hrun

end

end ConfigdExtra
