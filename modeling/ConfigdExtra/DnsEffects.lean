import ConfigdExtra.DnsScan

/-!
# What the expansion does to the buffer

One specification for each function of the expansion: what it writes, and what it leaves.

* `expandList_spec`, `expandList_claim` — a list is claimed.
* `expandedHeader`, `expandResolverBegin_spec` — the header of a resolver.
* `expandedConfig`, `bufferExpandBegin_spec` — the header of the configuration.
* `addToList_spec`, `checkCount_spec` — a pointer is stored to a list, and a count is checked.
* `Proceeds`, `StepEffect`, `expandStep_effect` — when a step does not fail, and what it does to
  the buffer.
-/

namespace ConfigdExtra

open Memory (pointerSize)
open Prog (Ensures ensures_bind ensures_stop ensures_pure)
open StructLayout (Rewritten)

/-! ## Claiming -/

/-- The bytes that a list of `count` pointers needs, as `__dns_configuration_expand_add_list`
computes them. -/
def listNeed (count : ℕ) : ℕ := count * pointerSize % 2 ^ 32

theorem expandAddList_eq (padding : Padding) (count : ℕ) :
    expandAddList padding count pointerSize =
      if listNeed count > padding.n then none
      else some (⟨padding.ptr + listNeed count, padding.n - listNeed count⟩,
        ⟨padding.ptr, listNeed count⟩) := by
  rw [expandAddList, listNeed]

section

variable {F : Type} [DecidableEq F] {reg : Region} {S : StructLayout F} {x : ℕ} {n list : F}
  {g : F → ℕ} {w₀ w : World SlotStore} {α : Type} {Q : α → World SlotStore → Prop}
  {E : Stop → World SlotStore → Prop} {padding : Padding}

theorem claim_list_lt {claim : Claim} (hend : claim.start + claim.need ≤ 2 ^ 64) :
    claim.list < 256 ^ pointerSize := by
  have hpow : 256 ^ pointerSize = 2 ^ 64 := by decide
  rw [Claim.list, hpow]
  split
  · exact Nat.pow_pos (by decide)
  · omega

/-- Claiming a list, and why it fails: its length is converted, and its space is the first of the
padding that is left. -/
theorem expandList_spec {k : Padding × Claim → ParserProg α} (h : S.Rewritten w₀ w x g)
    (hn : S.width n = 4) (hlist : S.width list = pointerSize)
    (hend : padding.ptr + padding.n ≤ 2 ^ 64)
    (hin : listNeed (ntohl (g n)) ≤ padding.n → ∀ w',
      S.Rewritten w₀ w' x (Function.update (Function.update g n (ntohl (g n))) list
        (Claim.list ⟨padding.ptr, listNeed (ntohl (g n))⟩)) →
      Ensures (k (⟨padding.ptr + listNeed (ntohl (g n)), padding.n - listNeed (ntohl (g n))⟩,
        ⟨padding.ptr, listNeed (ntohl (g n))⟩)) Q E w')
    (hfault : ∀ w', w'.trace = w₀.trace → ¬ reg.Contains x S.size → E .fault w')
    (herror : ∀ w', w'.trace = w₀.trace → padding.n < listNeed (ntohl (g n)) → E .error w') :
    Ensures (expandList reg S x n list padding >>= k) Q E w := by
  have hcount : ntohl (g n) < 256 ^ S.width n := by
    rw [hn]
    exact swapBytes_lt 4 _
  refine ensures_bind (R := fun r w' => listNeed (ntohl (g n)) ≤ padding.n ∧
    S.Rewritten w₀ w' x (Function.update (Function.update g n (ntohl (g n))) list
      (Claim.list ⟨padding.ptr, listNeed (ntohl (g n))⟩)) ∧
    r = (⟨padding.ptr + listNeed (ntohl (g n)), padding.n - listNeed (ntohl (g n))⟩,
      ⟨padding.ptr, listNeed (ntohl (g n))⟩)) ?_ ?_
  · unfold expandList
    refine StructLayout.ensures_get h (fun _ => ?_) fun hout => hfault w h.trace hout
    generalize ntohl (g n) = count at hcount hin herror
    refine StructLayout.ensures_set h hcount (fun w₁ h₁ => ?_) fun hout => hfault w h.trace hout
    rw [expandAddList_eq]
    generalize listNeed count = need at hin herror
    by_cases hneed : need ≤ padding.n
    · rw [if_neg (Nat.not_lt.mpr hneed)]
      refine StructLayout.ensures_set h₁ ?_ (fun w₂ h₂ => ?_) fun hout => hfault w₁ h₁.trace hout
      · rw [hlist]
        exact claim_list_lt (le_trans (Nat.add_le_add_left hneed _) hend)
      · exact ensures_pure ⟨hneed, h₂, rfl⟩
    · rw [if_pos (Nat.lt_of_not_le hneed)]
      exact ensures_stop (herror w₁ h₁.trace (Nat.lt_of_not_le hneed))
  · rintro r w' ⟨hneed, hw', rfl⟩
    exact hin hneed w' hw'

end

namespace Padding

/-- The claim for a list of `count` pointers. -/
def claim (p : Padding) (count : ℕ) : Claim := ⟨p.ptr, listNeed count⟩

/-- What is left behind it. -/
def rest (p : Padding) (count : ℕ) : Padding := ⟨p.ptr + listNeed count, p.n - listNeed count⟩

theorem ptr_add_n_rest {p : Padding} {count : ℕ} (h : listNeed count ≤ p.n) :
    (p.rest count).ptr + (p.rest count).n = p.ptr + p.n := by
  simp only [rest]
  omega

end Padding

section

variable {F : Type} [DecidableEq F] (reg : Region) {S : StructLayout F} {x : ℕ} {n list : F}
  {g : F → ℕ} {w₀ w : World SlotStore} {α : Type} {Q : α → World SlotStore → Prop}
  {E : Stop → World SlotStore → Prop} {padding : Padding}

/-- Claiming a list of a known length. -/
theorem expandList_claim {k : Padding × Claim → ParserProg α} (hn : S.width n = 4)
    (hlist : S.width list = pointerSize) (count : ℕ)
    (h : S.Rewritten w₀ w x g) (hcount : ntohl (g n) = count)
    (hend : padding.ptr + padding.n ≤ 2 ^ 64)
    (hin : listNeed count ≤ padding.n → ∀ w', S.Rewritten w₀ w' x
      (Function.update (Function.update g n count) list (padding.claim count).list) →
      Ensures (k (padding.rest count, padding.claim count)) Q E w')
    (hfault : ∀ w', w'.trace = w₀.trace → ¬ reg.Contains x S.size → E .fault w')
    (herror : ∀ w', w'.trace = w₀.trace → padding.n < listNeed count → E .error w') :
    Ensures (expandList reg S x n list padding >>= k) Q E w := by
  subst hcount
  exact expandList_spec h hn hlist hend hin hfault herror

/-! ## Lists -/

/-- The store to slot `index` of the list at `ptr`. -/
def slotStore (ptr index : ℕ) (claim : Claim) : SlotStore :=
  ⟨ptr + pointerSize * index, index, claim⟩

/-- The world after the store `t` of `value`. -/
def storeSlot (w : World SlotStore) (t : SlotStore) (value : ℕ) : World SlotStore :=
  ⟨w.memory.store t.address pointerSize value, w.trace ++ [t]⟩

omit [DecidableEq F] in
/-- A pointer is stored to a list. -/
theorem addToList_spec {claim : Claim} {index value : ℕ} :
    Ensures (addToList reg S x list claim index value)
      (fun _ w' => S.values w.memory x list ≠ 0 ∧
        reg.Contains (S.values w.memory x list + pointerSize * index) pointerSize ∧
        w' = storeSlot w (slotStore (S.values w.memory x list) index claim) value)
      (fun e w' => (w'.trace = w.trace ∧
          (reg.Contains x S.size → S.values w.memory x list = 0)) ∨
        e = .fault ∧ S.values w.memory x list ≠ 0 ∧
          ¬ reg.Contains (S.values w.memory x list + pointerSize * index) pointerSize ∧
          w'.trace = w.trace ++ [slotStore (S.values w.memory x list) index claim])
      w := by
  unfold addToList
  refine StructLayout.ensures_get (Rewritten.refl w x) (fun _ => ?_)
    fun hout => .inl ⟨rfl, fun hin => absurd hin hout⟩
  split
  · rename_i hptr
    exact ensures_stop (.inl ⟨rfl, fun _ => hptr⟩)
  rename_i hptr
  exact Prog.ensures_note
    (Prog.ensures_store (fun hin => ⟨hptr, hin, rfl⟩) fun hout => .inr ⟨rfl, hptr, hout, rfl⟩)

omit [DecidableEq F] in
theorem checkCount_spec {count : ℕ} :
    Ensures (checkCount reg S x n count)
      (fun _ w' => w' = w ∧ count % 2 ^ 32 = S.values w.memory x n)
      (fun _ w' => w' = w ∧ ¬ (reg.Contains x S.size ∧ count % 2 ^ 32 = S.values w.memory x n))
      w := by
  unfold checkCount
  refine StructLayout.ensures_get (Rewritten.refl w x) (fun _ => ?_)
    fun hout => ⟨rfl, fun h => hout h.1⟩
  split
  · rename_i hcount
    exact ensures_stop ⟨rfl, fun h => hcount h.2⟩
  rename_i hcount
  exact ensures_pure ⟨rfl, not_not.mp hcount⟩

end

/-! ## The header of a resolver -/

/-- The claims for the lists of a resolver, and what they leave of the padding. -/
def resolverClaims (p : Padding) (count : ResolverList → ℕ) : (ResolverList → Claim) × Padding :=
  let search := p.rest (count .nameserver)
  let sortaddr := search.rest (count .search)
  (fun
    | .nameserver => p.claim (count .nameserver)
    | .search => search.claim (count .search)
    | .sortaddr => sortaddr.claim (count .sortaddr), sortaddr.rest (count .sortaddr))

section

variable (L : DnsLayout) (reg : Region) {x : ℕ} {g : ResolverField → ℕ}
  {w₀ w : World SlotStore} {α : Type} {Q : α → World SlotStore → Prop}
  {E : Stop → World SlotStore → Prop}

/-- The fields of a resolver when its loop begins, with the claims for its lists. `cid` and
`if_name` are what they were. -/
def expandedHeader (g : ResolverField → ℕ) (claim : ResolverList → Claim) : ResolverField → ℕ
  | .domain | .options => 0
  | .cid => g .cid
  | .ifName => g .ifName
  | .n l => ntohl (g (.n l))
  | .list l => (claim l).list
  | .scalar s => swapBytes (L.resolver.width (.scalar s)) (g (.scalar s))

theorem swapScalar_spec {s : ResolverScalar} {k : Unit → ParserProg α}
    (h : L.resolver.Rewritten w₀ w x g)
    (hin : ∀ w', L.resolver.Rewritten w₀ w' x (Function.update g (.scalar s)
      (swapBytes (L.resolver.width (.scalar s)) (g (.scalar s)))) → Ensures (k ()) Q E w')
    (hfault : ∀ w', w'.trace = w₀.trace → ¬ reg.Contains x L.resolver.size → E .fault w') :
    Ensures (swapScalar L reg x s >>= k) Q E w := by
  refine ensures_bind (R := fun _ w' => L.resolver.Rewritten w₀ w' x (Function.update g (.scalar s)
    (swapBytes (L.resolver.width (.scalar s)) (g (.scalar s))))) ?_ fun _ w' => hin w'
  unfold swapScalar
  refine StructLayout.ensures_get h (fun _ => ?_) fun hout => hfault _ h.trace hout
  exact Prog.ensures_store (fun _ => h.put (swapBytes_lt _ _))
    fun hout => hfault _ h.trace fun hall => hout (StructLayout.contains_field hall _)

/-- The header of a resolver can be expanded: it is in the buffer, there is padding for its lists,
and it counts its attributes. -/
structure ResolverFits (m : Memory) (buf nBuf : ℕ) (padding : Padding) : Prop where
  /-- the buffer of the resolver is not shorter than its header -/
  fits : L.resolverBufSize ≤ nBuf
  /-- where the header lies -/
  inside : reg.Contains buf L.resolverBufSize
  /-- the lists -/
  space : listNeed (ntohl (L.resolver.values m buf (.n .nameserver))) +
    listNeed (ntohl (L.resolver.values m buf (.n .search))) +
      listNeed (ntohl (L.resolver.values m buf (.n .sortaddr))) ≤ padding.n
  /-- `n_attribute` -/
  counted : sub32 nBuf L.resolverBufSize = m.loadNet (buf + L.resolver.size) 4

theorem ResolverFits.contains {m : Memory} {buf nBuf : ℕ} {padding : Padding}
    (h : ResolverFits L reg m buf nBuf padding) : reg.Contains buf L.resolver.size :=
  h.inside.sub le_rfl (by rw [DnsLayout.resolverBufSize]; omega)

/-- The header of a resolver is expanded, and its lists are claimed. -/
theorem expandResolverBegin_spec (buf nBuf : ℕ) {padding : Padding}
    (hend : padding.ptr + padding.n ≤ 2 ^ 64) :
    Ensures (expandResolverBegin L reg buf nBuf padding) (fun r w' =>
      ResolverEntered L buf nBuf r.1 ∧ r.1.count = (fun _ => 0) ∧
      (r.1.claim, r.2) =
        resolverClaims padding (fun l => ntohl (L.resolver.values w.memory buf (.n l))) ∧
      r.2.ptr + r.2.n = padding.ptr + padding.n ∧ padding.ptr ≤ r.2.ptr ∧
      L.resolver.Rewritten w w' buf
        (expandedHeader L (L.resolver.values w.memory buf) r.1.claim))
      (fun _ w' => w'.trace = w.trace ∧ ¬ ResolverFits L reg w.memory buf nBuf padding) w := by
  have hfault : ∀ w' : World SlotStore, w'.trace = w.trace → ¬ reg.Contains buf L.resolver.size →
      w'.trace = w.trace ∧ ¬ ResolverFits L reg w.memory buf nBuf padding :=
    fun _ htrace hout => ⟨htrace, fun h => hout h.contains⟩
  have hwidth : ∀ l, L.resolver.width (.n l) = 4 := fun l => L.resolver_width _
  have hlist : ∀ l, L.resolver.width (.list l) = pointerSize := fun l => L.resolver_width _
  unfold expandResolverBegin
  split
  · rename_i hfits
    exact ensures_stop ⟨rfl, fun h => absurd h.fits (Nat.not_le.mpr hfits)⟩
  rename_i hfits
  have hR := Rewritten.refl (S := L.resolver) w buf
  -- one store after the other, with what has been written so far in `hR`
  refine StructLayout.ensures_set hR (Nat.pow_pos (by decide)) (fun w₁ hR => ?_)
    fun hout => hfault _ hR.trace hout
  refine expandList_claim reg (hwidth _) (hlist _)
    (ntohl (L.resolver.values w.memory buf (.n .nameserver))) hR (by simp) hend
    (fun hneed₁ w₂ hR => ?_) hfault fun w' htrace hshort => ⟨htrace, fun h => ?_⟩
  swap
  · have hspace := h.space
    omega
  -- each list takes its part of the padding
  have hend₁ := Padding.ptr_add_n_rest hneed₁
  refine swapScalar_spec L reg hR (fun w₃ hR => ?_) hfault
  refine expandList_claim reg (hwidth _) (hlist _)
    (ntohl (L.resolver.values w.memory buf (.n .search))) hR (by simp) (hend₁.trans_le hend)
    (fun hneed₂ w₄ hR => ?_) hfault fun w' htrace hshort => ⟨htrace, fun h => ?_⟩
  swap
  · have hspace := h.space
    simp only [Padding.rest] at hshort
    omega
  have hend₂ := (Padding.ptr_add_n_rest hneed₂).trans hend₁
  refine expandList_claim reg (hwidth _) (hlist _)
    (ntohl (L.resolver.values w.memory buf (.n .sortaddr))) hR (by simp) (hend₂.trans_le hend)
    (fun hneed₃ w₅ hR => ?_) hfault fun w' htrace hshort => ⟨htrace, fun h => ?_⟩
  swap
  · have hspace := h.space
    simp only [Padding.rest] at hshort
    omega
  have hend₃ := (Padding.ptr_add_n_rest hneed₃).trans hend₂
  refine StructLayout.ensures_set hR (Nat.pow_pos (by decide)) (fun w₆ hR => ?_)
    fun hout => hfault _ hR.trace hout
  -- the numbers that are only swapped
  iterate 6 refine swapScalar_spec L reg hR (fun _ hR => ?_) hfault
  refine ensures_loadNtohl (fun _ => ?_) fun hout => ⟨hR.trace, fun h => hout ?_⟩
  swap
  · exact h.inside.sub (Nat.le_add_right _ _) (by rw [DnsLayout.resolverBufSize]; omega)
  split
  · rename_i hcounted
    refine ensures_stop ⟨hR.trace, fun h => hcounted (h.counted.trans ?_)⟩
    exact (hR.frame _ 4 (.inr le_rfl)).loadNet_eq
  refine ensures_pure ⟨⟨Nat.le_of_not_lt hfits, rfl, rfl, rfl, rfl, rfl⟩, rfl, ?_, hend₃, ?_, ?_⟩
  · refine Prod.ext (funext fun l => ?_) rfl
    cases l <;> rfl
  · simp only [Padding.rest]
    omega
  · -- what has been written is the header that was to be written
    convert hR using 1
    funext f
    cases f with
    | domain => simp [expandedHeader]
    | options => simp [expandedHeader]
    | cid => simp [expandedHeader]
    | ifName => simp [expandedHeader]
    | n l => cases l <;> simp [expandedHeader]
    | list l => cases l <;> simp [expandedHeader]
    | scalar s => cases s <;> simp [expandedHeader]

end

/-! ## The header of the configuration -/

/-- The claims for the lists of a configuration, and what they leave of the padding. -/
def configClaims (p : Padding) (count : ResolverKind → ℕ) : (ResolverKind → Claim) × Padding :=
  let second := p.rest (count .resolver)
  let specific := second.rest (count .scopedResolver)
  (fun
    | .resolver => p.claim (count .resolver)
    | .scopedResolver => second.claim (count .scopedResolver)
    | .serviceSpecificResolver => specific.claim (count .serviceSpecificResolver),
    specific.rest (count .serviceSpecificResolver))

/-- The fields of a configuration when its loop begins. -/
def expandedConfig (g : ConfigField → ℕ) (claim : ResolverKind → Claim) : ConfigField → ℕ
  | .n k => ntohl (g (.n k))
  | .list k => (claim k).list
  | .generation => g .generation
  | .version => g .version

/-- The header of the configuration can be expanded: there is padding for its lists. -/
structure ConfigFits (L : DnsLayout) (reg : Region) (m : Memory) : Prop where
  /-- the buffer is not shorter than the header -/
  inside : reg.Contains reg.start L.configBufSize
  /-- the lists -/
  space : listNeed (ntohl (L.config.values m reg.start (.n .resolver))) +
    listNeed (ntohl (L.config.values m reg.start (.n .scopedResolver))) +
      listNeed (ntohl (L.config.values m reg.start (.n .serviceSpecificResolver))) ≤
        m.loadNet (reg.start + L.config.size + 4) 4

/-- The padding behind the attributes: `padding` and `n_padding` before anything is claimed. -/
def wholePadding (L : DnsLayout) (reg : Region) (m : Memory) : Padding :=
  ⟨reg.start + L.configBufSize + m.loadNet (reg.start + L.config.size) 4,
    m.loadNet (reg.start + L.config.size + 4) 4⟩

/-- The header of the configuration is expanded, and its lists are claimed. -/
theorem bufferExpandBegin_spec (L : DnsLayout) (reg : Region) {w : World SlotStore}
    (hend : (wholePadding L reg w.memory).ptr + (wholePadding L reg w.memory).n ≤ 2 ^ 64) :
    Ensures (bufferExpandBegin L reg) (fun q w' => ∃ c, q = .config c ∧
      c.attributePtr = reg.start + L.configBufSize ∧
      c.nAttribute = w.memory.loadNet (reg.start + L.config.size) 4 ∧
      c.count = (fun _ => 0) ∧
      (c.claim, c.padding) = configClaims (wholePadding L reg w.memory)
        (fun k => ntohl (L.config.values w.memory reg.start (.n k))) ∧
      c.padding.ptr + c.padding.n =
        (wholePadding L reg w.memory).ptr + (wholePadding L reg w.memory).n ∧
      (wholePadding L reg w.memory).ptr ≤ c.padding.ptr ∧
      L.config.Rewritten w w' reg.start
        (expandedConfig (L.config.values w.memory reg.start) c.claim))
      (fun _ w' => w'.trace = w.trace ∧ ¬ ConfigFits L reg w.memory) w := by
  have hsize : L.configBufSize = L.config.size + 8 := rfl
  have hfault : ∀ w' : World SlotStore, w'.trace = w.trace →
      ¬ reg.Contains reg.start L.config.size → w'.trace = w.trace ∧ ¬ ConfigFits L reg w.memory :=
    fun _ htrace hout => ⟨htrace, fun h => hout (h.inside.sub le_rfl (by omega))⟩
  have hwidth : ∀ k, L.config.width (.n k) = 4 := fun k => L.config_width _
  have hlist : ∀ k, L.config.width (.list k) = pointerSize := fun k => L.config_width _
  unfold bufferExpandBegin
  refine ensures_loadNtohl (fun _ => ?_)
    fun hout => ⟨rfl, fun h => hout (h.inside.sub (by omega) (by omega))⟩
  refine ensures_loadNtohl (fun _ => ?_)
    fun hout => ⟨rfl, fun h => hout (h.inside.sub (by omega) (by omega))⟩
  -- nothing has been written when the lists are claimed
  have hR := Rewritten.refl (S := L.config) w reg.start
  refine expandList_claim reg (hwidth _) (hlist _)
    (ntohl (L.config.values w.memory reg.start (.n .resolver))) hR rfl hend
    (fun hneed₁ w₂ hR => ?_) hfault fun w' htrace hshort => ⟨htrace, fun h => ?_⟩
  swap
  · have hspace := h.space
    simp only at hshort
    omega
  have hend₁ := Padding.ptr_add_n_rest hneed₁
  refine expandList_claim reg (hwidth _) (hlist _)
    (ntohl (L.config.values w.memory reg.start (.n .scopedResolver))) hR (by simp)
    (hend₁.trans_le hend) (fun hneed₂ w₄ hR => ?_) hfault
    fun w' htrace hshort => ⟨htrace, fun h => ?_⟩
  swap
  · have hspace := h.space
    simp only [Padding.rest] at hshort
    omega
  have hend₂ := (Padding.ptr_add_n_rest hneed₂).trans hend₁
  refine expandList_claim reg (hwidth _) (hlist _)
    (ntohl (L.config.values w.memory reg.start (.n .serviceSpecificResolver))) hR (by simp)
    (hend₂.trans_le hend) (fun hneed₃ w₅ hR => ?_) hfault
    fun w' htrace hshort => ⟨htrace, fun h => ?_⟩
  swap
  · have hspace := h.space
    simp only [Padding.rest] at hshort
    omega
  have hend₃ := (Padding.ptr_add_n_rest hneed₃).trans hend₂
  refine ensures_pure ⟨_, rfl, rfl, rfl, rfl, ?_, hend₃, ?_, ?_⟩
  · refine Prod.ext (funext fun k => ?_) rfl
    cases k <;> rfl
  · simp only [Padding.rest, wholePadding]
    omega
  · -- and then only what belongs to the lists
    convert hR using 1
    funext f
    cases f with
    | n k => cases k <;> simp [expandedConfig]
    | list k => cases k <;> simp [expandedConfig]
    | generation => simp [expandedConfig]
    | version => simp [expandedConfig]

/-! ## Steps -/

/-- Where the expansion is when it has ended early. -/
def stopPoint : Stop → Point
  | .error => .returned none
  | .fault => .crashed

/-- What the attribute at `a` of a resolver is for, if its type is known. -/
def resolverTarget (m : Memory) (a : ℕ) : Option ResolverTarget :=
  (ResolverAttribute.ofType (attributeType m a)).map ResolverAttribute.target

/-- The store by which a resolver gets its next pointer in the list `l`. -/
def ResolverLoop.slot (L : DnsLayout) (m : Memory) (v : ResolverLoop) (l : ResolverList) :
    SlotStore :=
  slotStore (L.resolver.values m v.resolver (.list l)) (v.count l) (v.claim l)

/-- The store by which the configuration gets its next resolver of kind `k`. -/
def ConfigLoop.slot (L : DnsLayout) (reg : Region) (m : Memory) (c : ConfigLoop)
    (k : ResolverKind) : SlotStore :=
  slotStore (L.config.values m reg.start (.list k)) (c.count k) (c.claim k)

/-- The next step does not fail: what it reads is in the buffer, a list that gets one more pointer
is there, and the counts are right. -/
def Proceeds (L : DnsLayout) (reg : Region) (m : Memory) : Point → Prop
  | .config c =>
    (attributeSize ≤ c.nAttribute → reg.Contains c.attributePtr attributeSize ∧
      ((ResolverKind.ofType (attributeType m c.attributePtr)).isSome →
        ResolverFits L reg m (c.attributePtr + attributeSize)
          (sub32 (attributeLength m c.attributePtr) attributeSize) c.padding)) ∧
    (c.nAttribute < attributeSize → reg.Contains reg.start L.config.size ∧
      ∀ k, c.count k % 2 ^ 32 = L.config.values m reg.start (.n k))
  | .resolver _ k v =>
    reg.Contains v.resolver L.resolver.size ∧
    (attributeSize ≤ v.nAttribute → reg.Contains v.attributePtr attributeSize ∧
      ∀ l, resolverTarget m v.attributePtr = some (.list l) →
        L.resolver.values m v.resolver (.list l) ≠ 0) ∧
    (v.nAttribute < attributeSize →
      (∀ l, v.count l % 2 ^ 32 = L.resolver.values m v.resolver (.n l)) ∧
        reg.Contains reg.start L.config.size ∧ L.config.values m reg.start (.list k) ≠ 0)
  | _ => True

/-- What a step does to the variables and to the buffer. -/
inductive StepEffect (L : DnsLayout) (reg : Region) :
    Point → World SlotStore → Point → World SlotStore → Prop where
  /-- the function returns `NULL`, or crashes -/
  | failed {p w w'} (e : Stop) : w'.trace = w.trace → ¬ Proceeds L reg w.memory p →
      StepEffect L reg p w (stopPoint e) w'
  /-- it crashes when it stores an attribute of a resolver to a list -/
  | listFailed {c k v w w' l} : attributeSize ≤ v.nAttribute →
      resolverTarget w.memory v.attributePtr = some (.list l) →
      L.resolver.values w.memory v.resolver (.list l) ≠ 0 →
      ¬ reg.Contains (v.slot L w.memory l).address pointerSize →
      w'.trace = w.trace ++ [v.slot L w.memory l] →
      StepEffect L reg (.resolver c k v) w .crashed w'
  /-- it crashes when it stores a resolver to a list -/
  | addFailed {c k v w w'} : v.nAttribute < attributeSize →
      (∀ l, v.count l % 2 ^ 32 = L.resolver.values w.memory v.resolver (.n l)) →
      L.config.values w.memory reg.start (.list k) ≠ 0 →
      ¬ reg.Contains (c.slot L reg w.memory k).address pointerSize →
      w'.trace = w.trace ++ [c.slot L reg w.memory k] →
      StepEffect L reg (.resolver c k v) w .crashed w'
  /-- it has ended -/
  | rest {p w} : p.Stopped → StepEffect L reg p w p w
  /-- it returns the configuration -/
  | finish {c w} : c.nAttribute < attributeSize →
      (∀ k, c.count k % 2 ^ 32 = L.config.values w.memory reg.start (.n k)) →
      StepEffect L reg (.config c) w (.returned (some reg.start)) w
  /-- an attribute that is not a resolver -/
  | pass {c w} : attributeSize ≤ c.nAttribute →
      ResolverKind.ofType (attributeType w.memory c.attributePtr) = none →
      StepEffect L reg (.config c) w
        (.configNext (c.look (attributeLength w.memory c.attributePtr))) w
  /-- an attribute that is a resolver: its header is expanded -/
  | enter {c k v padding w w'} : attributeSize ≤ c.nAttribute →
      ResolverKind.ofType (attributeType w.memory c.attributePtr) = some k →
      ResolverEntered L (c.attributePtr + attributeSize)
        (sub32 (attributeLength w.memory c.attributePtr) attributeSize) v →
      v.count = (fun _ => 0) →
      (v.claim, padding) = resolverClaims c.padding (fun l =>
        ntohl (L.resolver.values w.memory (c.attributePtr + attributeSize) (.n l))) →
      padding.ptr + padding.n = c.padding.ptr + c.padding.n → c.padding.ptr ≤ padding.ptr →
      L.resolver.Rewritten w w' (c.attributePtr + attributeSize)
        (expandedHeader L (L.resolver.values w.memory (c.attributePtr + attributeSize)) v.claim) →
      StepEffect L reg (.config c) w
        (.resolver { c.look (attributeLength w.memory c.attributePtr) with padding } k v) w'
  /-- to the next attribute -/
  | next {c w} : StepEffect L reg (.configNext c) w (.config c.next) w
  /-- an attribute to which a field is to point -/
  | field {c k v w f} : attributeSize ≤ v.nAttribute →
      resolverTarget w.memory v.attributePtr = some (.field f) →
      reg.Contains (v.attributePtr + 4) 4 →
      StepEffect L reg (.resolver c k v) w
        (.resolverNext c k (v.look (attributeLength w.memory v.attributePtr)))
        { w with memory :=
            L.resolver.put w.memory v.resolver f (v.attributePtr + attributeSize) }
  /-- an attribute to which a list is to point -/
  | list {c k v w l} : attributeSize ≤ v.nAttribute →
      resolverTarget w.memory v.attributePtr = some (.list l) →
      L.resolver.values w.memory v.resolver (.list l) ≠ 0 →
      reg.Contains (v.slot L w.memory l).address pointerSize →
      StepEffect L reg (.resolver c k v) w
        (.resolverNext c k
          { v.look (attributeLength w.memory v.attributePtr) with
            count := Function.update v.count l (v.count l + 1) })
        (storeSlot w (v.slot L w.memory l) (v.attributePtr + attributeSize))
  /-- an attribute of a resolver of no known type -/
  | other {c k v w} : attributeSize ≤ v.nAttribute →
      resolverTarget w.memory v.attributePtr = none →
      StepEffect L reg (.resolver c k v) w
        (.resolverNext c k (v.look (attributeLength w.memory v.attributePtr))) w
  /-- to the next attribute of a resolver -/
  | nextOfResolver {c k v w} :
      StepEffect L reg (.resolverNext c k v) w (.resolver c k v.next) w
  /-- a resolver is complete -/
  | add {c k v w} : v.nAttribute < attributeSize →
      (∀ l, v.count l % 2 ^ 32 = L.resolver.values w.memory v.resolver (.n l)) →
      L.config.values w.memory reg.start (.list k) ≠ 0 →
      reg.Contains (c.slot L reg w.memory k).address pointerSize →
      StepEffect L reg (.resolver c k v) w
        (.configNext { c with count := Function.update c.count k (c.count k + 1) })
        (storeSlot w (c.slot L reg w.memory k) v.resolver)

section

variable (L : DnsLayout) (reg : Region)

theorem ofResult_ensures {p : ParserProg Point} {R : Point → World SlotStore → Prop}
    {w : World SlotStore} (h : Ensures p R (fun e w' => R (stopPoint e) w') w) :
    R (ExpandState.ofResult (p w)).point (ExpandState.ofResult (p w)).world := by
  unfold Ensures at h
  rcases hp : p w with ⟨e | q, w'⟩
  · rw [hp] at h
    cases e with
    | error => exact h
    | fault => exact h
  · rw [hp] at h
    exact h

/-- The header of a resolver is expanded. -/
theorem expandResolverBegin_effect {c : ConfigLoop} {k : ResolverKind} {w : World SlotStore}
    (hc : attributeSize ≤ c.nAttribute)
    (hkind : ResolverKind.ofType (attributeType w.memory c.attributePtr) = some k)
    (hend : c.padding.ptr + c.padding.n ≤ 2 ^ 64) :
    Ensures (expandResolverBegin L reg (c.attributePtr + attributeSize)
        (sub32 (attributeLength w.memory c.attributePtr) attributeSize) c.padding)
      (fun r => StepEffect L reg (.config c) w (.resolver
        { c.look (attributeLength w.memory c.attributePtr) with padding := r.2 } k r.1))
      (fun e => StepEffect L reg (.config c) w (stopPoint e)) w := by
  refine Prog.ensures_mono ?_ (fun e _ h => .failed e h.1 fun hproceeds => h.2 ?_)
    (expandResolverBegin_spec L reg _ _ hend)
  · rintro ⟨v, padding⟩ w' ⟨hentered, hcount, hclaims, hrest, hle, hw'⟩
    exact .enter hc hkind hentered hcount hclaims hrest hle hw'
  · exact (hproceeds.1 hc).2 (hkind ▸ rfl)

/-- The `switch`, for an attribute whose length and type have been read. -/
theorem bufferExpandSwitch_effect {c : ConfigLoop} {w : World SlotStore} {length type : ℕ}
    (hc : attributeSize ≤ c.nAttribute) (hend : c.padding.ptr + c.padding.n ≤ 2 ^ 64)
    (hlength : attributeLength w.memory c.attributePtr = length)
    (htype : attributeType w.memory c.attributePtr = type) :
    Ensures (bufferExpandSwitch L reg (c.look length) type)
      (StepEffect L reg (.config c) w) (fun e => StepEffect L reg (.config c) w (stopPoint e))
      w := by
  unfold bufferExpandSwitch
  split
  · rename_i k hkind
    rw [← htype] at hkind
    have hbegin := expandResolverBegin_effect L reg hc hkind hend
    rw [hlength] at hbegin
    refine ensures_bind hbegin ?_
    rintro ⟨v, padding⟩ w' heffect
    exact ensures_pure heffect
  · rename_i hkind
    rw [← htype] at hkind
    have hpass : StepEffect L reg (.config c) w
        (.configNext (c.look (attributeLength w.memory c.attributePtr))) w := .pass hc hkind
    rw [hlength] at hpass
    exact ensures_pure hpass

theorem bufferExpandTurn_effect {c : ConfigLoop} (hc : attributeSize ≤ c.nAttribute)
    {w : World SlotStore} (hend : c.padding.ptr + c.padding.n ≤ 2 ^ 64) :
    Ensures (bufferExpandTurn L reg c) (StepEffect L reg (.config c) w)
      (fun e => StepEffect L reg (.config c) w (stopPoint e)) w := by
  unfold bufferExpandTurn
  refine ensures_loadNtohl (fun _ => ?_) fun hout => .failed .fault rfl fun hproceeds =>
    hout ((hproceeds.1 hc).1.sub (Nat.le_add_right _ _) le_rfl)
  refine ensures_loadNtohl (fun _ => ?_) fun hout => .failed .fault rfl fun hproceeds =>
    hout ((hproceeds.1 hc).1.sub le_rfl (Nat.add_le_add_left (by decide) _))
  exact bufferExpandSwitch_effect L reg hc hend rfl rfl

theorem bufferExpandEnd_effect {c : ConfigLoop} (hc : c.nAttribute < attributeSize)
    {w : World SlotStore} :
    Ensures (bufferExpandEnd L reg c) (StepEffect L reg (.config c) w)
      (fun e => StepEffect L reg (.config c) w (stopPoint e)) w := by
  have hE : ∀ (k : ResolverKind) (e : Stop) (w' : World SlotStore),
      w' = w ∧ ¬ (reg.Contains reg.start L.config.size ∧
        c.count k % 2 ^ 32 = L.config.values w.memory reg.start (.n k)) →
      StepEffect L reg (.config c) w (stopPoint e) w' := fun k e w' h =>
    .failed e (congrArg _ h.1) fun hproceeds =>
      h.2 ⟨(hproceeds.2 hc).1, (hproceeds.2 hc).2 k⟩
  unfold bufferExpandEnd
  refine ensures_bind (Prog.ensures_mono (fun _ _ h => h) (hE _) (checkCount_spec reg)) ?_
  rintro _ w ⟨rfl, h₁⟩
  refine ensures_bind (Prog.ensures_mono (fun _ _ h => h) (hE _) (checkCount_spec reg)) ?_
  rintro _ w ⟨rfl, h₂⟩
  refine ensures_bind (Prog.ensures_mono (fun _ _ h => h) (hE _) (checkCount_spec reg)) ?_
  rintro _ w ⟨rfl, h₃⟩
  refine ensures_pure (.finish hc fun k => ?_)
  cases k with
  | resolver => exact h₁
  | scopedResolver => exact h₂
  | serviceSpecificResolver => exact h₃

theorem expandResolverSwitch_effect {c : ConfigLoop} {k : ResolverKind} {v : ResolverLoop}
    {w : World SlotStore} {length type : ℕ} (hv : attributeSize ≤ v.nAttribute)
    (hin : reg.Contains (v.attributePtr + 4) 4)
    (hlength : attributeLength w.memory v.attributePtr = length)
    (htype : attributeType w.memory v.attributePtr = type) :
    Ensures (expandResolverSwitch L reg (v.look length) type)
      (fun v' => StepEffect L reg (.resolver c k v) w (.resolverNext c k v'))
      (fun e => StepEffect L reg (.resolver c k v) w (stopPoint e)) w := by
  have htarget : resolverTarget w.memory v.attributePtr =
      (ResolverAttribute.ofType type).map ResolverAttribute.target := by
    rw [resolverTarget, htype]
  unfold expandResolverSwitch
  split
  · rename_i hnone
    rw [← htarget] at hnone
    have hother : StepEffect L reg (.resolver c k v) w
        (.resolverNext c k (v.look (attributeLength w.memory v.attributePtr))) w :=
      .other hv hnone
    rw [hlength] at hother
    exact ensures_pure hother
  · rename_i f hfield
    rw [← htarget] at hfield
    have heffect : StepEffect L reg (.resolver c k v) w
        (.resolverNext c k (v.look (attributeLength w.memory v.attributePtr))) _ :=
      .field hv hfield hin
    rw [hlength] at heffect
    refine ensures_bind (R := fun _ w' => w' = _) (Prog.ensures_store (fun _ => rfl)
      fun hout => .failed .fault rfl fun hproceeds =>
        hout (StructLayout.contains_field hproceeds.1 f)) ?_
    rintro _ w' rfl
    exact ensures_pure heffect
  · rename_i l hlist
    rw [← htarget] at hlist
    refine ensures_bind (Prog.ensures_mono (fun _ _ h => h) ?_ (addToList_spec reg)) ?_
    · rintro e w' (⟨htrace, hnull⟩ | ⟨rfl, hptr, hout, htrace⟩)
      · exact .failed e htrace fun hproceeds =>
          (hproceeds.2.1 hv).2 l hlist (hnull hproceeds.1)
      · exact .listFailed hv hlist hptr hout htrace
    · rintro _ w' ⟨hptr, hslot, rfl⟩
      have heffect := StepEffect.list (c := c) (k := k) hv hlist hptr hslot
      rw [hlength] at heffect
      exact ensures_pure heffect

theorem expandResolverTurn_effect {c : ConfigLoop} {k : ResolverKind} {v : ResolverLoop}
    (hv : attributeSize ≤ v.nAttribute) {w : World SlotStore} :
    Ensures (expandResolverTurn L reg v)
      (fun v' => StepEffect L reg (.resolver c k v) w (.resolverNext c k v'))
      (fun e => StepEffect L reg (.resolver c k v) w (stopPoint e)) w := by
  unfold expandResolverTurn
  refine ensures_loadNtohl (fun hin => ?_) fun hout => .failed .fault rfl fun hproceeds =>
    hout ((hproceeds.2.1 hv).1.sub (Nat.le_add_right _ _) le_rfl)
  refine ensures_loadNtohl (fun _ => ?_) fun hout => .failed .fault rfl fun hproceeds =>
    hout ((hproceeds.2.1 hv).1.sub le_rfl (Nat.add_le_add_left (by decide) _))
  exact expandResolverSwitch_effect L reg hv hin rfl rfl

theorem bufferExpandAdd_effect {c : ConfigLoop} {k : ResolverKind} {v : ResolverLoop}
    (hv : v.nAttribute < attributeSize) {w : World SlotStore} :
    Ensures (bufferExpandAdd L reg c k v) (StepEffect L reg (.resolver c k v) w)
      (fun e => StepEffect L reg (.resolver c k v) w (stopPoint e)) w := by
  have hE : ∀ (l : ResolverList) (e : Stop) (w' : World SlotStore),
      w' = w ∧ ¬ (reg.Contains v.resolver L.resolver.size ∧
        v.count l % 2 ^ 32 = L.resolver.values w.memory v.resolver (.n l)) →
      StepEffect L reg (.resolver c k v) w (stopPoint e) w' := fun l e w' h =>
    .failed e (congrArg _ h.1) fun hproceeds =>
      h.2 ⟨hproceeds.1, (hproceeds.2.2 hv).1 l⟩
  unfold bufferExpandAdd
  refine ensures_bind (R := fun r w' => w' = w ∧ r = v.resolver ∧
    ∀ l, v.count l % 2 ^ 32 = L.resolver.values w.memory v.resolver (.n l)) ?_ ?_
  · unfold expandResolverEnd
    refine ensures_bind (Prog.ensures_mono (fun _ _ h => h) (hE _) (checkCount_spec reg)) ?_
    rintro _ w ⟨rfl, h₁⟩
    refine ensures_bind (Prog.ensures_mono (fun _ _ h => h) (hE _) (checkCount_spec reg)) ?_
    rintro _ w ⟨rfl, h₂⟩
    refine ensures_bind (Prog.ensures_mono (fun _ _ h => h) (hE _) (checkCount_spec reg)) ?_
    rintro _ w ⟨rfl, h₃⟩
    refine ensures_pure ⟨rfl, rfl, fun l => ?_⟩
    cases l with
    | nameserver => exact h₁
    | search => exact h₂
    | sortaddr => exact h₃
  · rintro _ w ⟨rfl, rfl, hcount⟩
    refine ensures_bind (Prog.ensures_mono (fun _ _ h => h) ?_ (addToList_spec reg)) ?_
    · rintro e w' (⟨htrace, hnull⟩ | ⟨rfl, hptr, hout, htrace⟩)
      · exact .failed e htrace fun hproceeds =>
          (hproceeds.2.2 hv).2.2 (hnull (hproceeds.2.2 hv).2.1)
      · exact .addFailed hv hcount hptr hout htrace
    · rintro _ w' ⟨hptr, hslot, rfl⟩
      exact ensures_pure (.add hv hcount hptr hslot)

/-- The padding that is left can be addressed. -/
def PaddingAddressable : Point → Prop
  | .config c | .configNext c | .resolver c _ _ | .resolverNext c _ _ =>
    c.padding.ptr + c.padding.n ≤ 2 ^ 64
  | _ => True

/-- **What a step can do** to the buffer. -/
theorem expandStep_effect (s : ExpandState) (hend : PaddingAddressable s.point) :
    StepEffect L reg s.point s.world (expandStep L reg s).point (expandStep L reg s).world := by
  refine ofResult_ensures (R := StepEffect L reg s.point s.world) ?_
  rcases s with ⟨p, w⟩
  cases p with
  | config c =>
    simp only [expandPoint]
    split
    · rename_i hc
      exact bufferExpandTurn_effect L reg hc hend
    · rename_i hc
      exact bufferExpandEnd_effect L reg (Nat.lt_of_not_le hc)
  | configNext c => exact ensures_pure .next
  | resolver c k v =>
    simp only [expandPoint]
    split
    · rename_i hv
      exact ensures_bind (expandResolverTurn_effect L reg hv) fun _ _ h => ensures_pure h
    · rename_i hv
      exact bufferExpandAdd_effect L reg (Nat.lt_of_not_le hv)
  | resolverNext c k v => exact ensures_pure .nextOfResolver
  | returned config => exact ensures_pure (.rest trivial)
  | crashed => exact ensures_pure (.rest trivial)

end

end ConfigdExtra
