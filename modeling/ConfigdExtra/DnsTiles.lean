import ConfigdExtra.DnsHeaders

/-!
# DNS configurations as they are documented

The attributes of a documented configuration tile the buffer, they are counted in its headers, and
there is padding for all lists of pointers.

* `ResolverTiled`, `ConfigTiled` — a buffer that is laid out like this.
* `AttributeWalk.exists_append` — how attributes that tile an area go on behind some of them.
* `configClaim`, `resolverClaim`, `paddingAfter` — where the lists will be.
-/

namespace ConfigdExtra

open Memory (pointerSize)

/-! ## Walks to the end -/

namespace AttributeWalk

variable {m : Memory} {stop a b : ℕ} {as as' : List ℕ}

/-- Attributes that tile an area go on behind the first of them. -/
theorem exists_append (h : AttributeWalk m stop a as b) (htiles : AttributeWalk m stop a as' stop) :
    ∃ rest, as' = as ++ rest ∧ AttributeWalk m stop b rest stop := by
  induction as generalizing a as' with
  | nil =>
    obtain rfl : b = a := h
    exact ⟨as', rfl, htiles⟩
  | cons x as ih =>
    obtain ⟨rfl, hheader, -, hrest⟩ := h
    cases as' with
    | nil =>
      obtain rfl : stop = x := htiles
      simp only [attributeSize] at hheader
      omega
    | cons y as' =>
      obtain ⟨rfl, -, -, hrest'⟩ := htiles
      obtain ⟨rest, rfl, hwalk⟩ := ih hrest hrest'
      exact ⟨rest, rfl, hwalk⟩

/-- At the end of the area there is nothing more. -/
theorem eq_nil (h : AttributeWalk m stop stop as b) : as = [] := by
  cases as with
  | nil => rfl
  | cons x as =>
    have hheader := h.2.1
    simp only [attributeSize] at hheader
    omega

/-- The attributes up to some point are determined. -/
theorem unique {all : List ℕ} (htiles : AttributeWalk m stop a all stop)
    (h : AttributeWalk m stop a as b) (h' : AttributeWalk m stop a as' b) : as = as' := by
  obtain ⟨rest, rfl, hrest⟩ := h.exists_append htiles
  obtain ⟨rest', heq, hrest'⟩ := h'.exists_append htiles
  obtain ⟨end₁, rfl, hend⟩ := hrest.exists_append hrest'
  obtain rfl := hend.eq_nil
  rw [List.append_nil] at heq
  exact List.append_cancel_right heq

/-- What is next, if there is space for a header. -/
theorem exists_cons (h : AttributeWalk m stop a as stop) (hheader : a + attributeSize ≤ stop) :
    ∃ rest, as = a :: rest ∧ a + attributeLength m a ≤ stop ∧
      AttributeWalk m stop (a + attributeLength m a) rest stop := by
  cases as with
  | nil =>
    obtain rfl : stop = a := h
    simp only [attributeSize] at hheader
    omega
  | cons x as =>
    obtain ⟨rfl, -, hlength, hrest⟩ := h
    exact ⟨as, rfl, hlength, hrest⟩

/-- If there is no space for a header, nothing is next. -/
theorem eq_nil_of_lt (h : AttributeWalk m stop a as stop) (hheader : stop < a + attributeSize) :
    as = [] ∧ a = stop := by
  cases as with
  | nil => exact ⟨rfl, Eq.symm h⟩
  | cons x as => exact absurd h.2.1 (Nat.not_le.mpr hheader)

end AttributeWalk

/-- Attributes tile the area from `lo` to `hi`. -/
def Tiled (m : Memory) (lo hi : ℕ) : Prop := ∃ as, AttributeWalk m hi lo as hi

theorem Tiled.walk {m : Memory} {lo hi : ℕ} (h : Tiled m lo hi) :
    AttributeWalk m hi lo (attributesIn m lo hi) hi := by
  obtain ⟨as, has⟩ := h
  rw [has.complete (Nat.lt_add_of_pos_right (by decide))]
  exact has

/-! ## Where the lists will be -/

section

variable (L : DnsLayout) (reg : Region) (m : Memory)

/-- The number of attributes that the header of a resolver gives for a list. -/
def resolverCounts (a : ℕ) (l : ResolverList) : ℕ :=
  ntohl (L.resolver.values m (a + attributeSize) (.n l))

/-- The number of resolvers that the header of the configuration gives. -/
def configCounts (k : ResolverKind) : ℕ := ntohl (L.config.values m reg.start (.n k))

/-- The space for the list of the resolvers of a kind. -/
def configClaim : ResolverKind → Claim :=
  (configClaims (wholePadding L reg m) (configCounts L reg m)).1

/-- What the lists of the configuration leave. -/
def configPadding : Padding := (configClaims (wholePadding L reg m) (configCounts L reg m)).2

/-- What is left of some padding behind the attribute at `a`. -/
def paddingStep (p : Padding) (a : ℕ) : Padding :=
  if HoldsResolver m a then (resolverClaims p (resolverCounts L m a)).2 else p

/-- What is left of the padding after some attributes. -/
def paddingAfter (as : List ℕ) : Padding := as.foldl (paddingStep L m) (configPadding L reg m)

/-- The space for a list of the resolver at `a`, which comes after others. -/
def resolverClaim (before : List ℕ) (a : ℕ) : ResolverList → Claim :=
  (resolverClaims (paddingAfter L reg m before) (resolverCounts L m a)).1

/-- The number of pointers in the lists of the attribute at `a`. -/
def resolverSlots (a : ℕ) : ℕ :=
  if HoldsResolver m a then
    resolverCounts L m a .nameserver + resolverCounts L m a .search + resolverCounts L m a .sortaddr
  else 0

/-- The number of pointers in the lists of the configuration. -/
def configSlots : ℕ :=
  configCounts L reg m .resolver + configCounts L reg m .scopedResolver +
    configCounts L reg m .serviceSpecificResolver

end

/-! ## Documented buffers -/

section

variable (L : DnsLayout) (reg : Region) (dataLen : ℕ) (m : Memory)

/-- The resolver at the attribute `a` is laid out as documented. -/
structure ResolverTiled (a : ℕ) : Prop where
  /-- there is its header -/
  fits : attributeSize + L.resolverBufSize ≤ attributeLength m a
  /-- `n_attribute` -/
  area : m.loadNet (a + attributeSize + L.resolver.size) 4 =
    attributeLength m a - attributeSize - L.resolverBufSize
  /-- its attributes tile the area -/
  tiles : Tiled m (a + attributeSize + L.resolverBufSize) (a + attributeLength m a)
  /-- they are not shorter than their headers -/
  long : ∀ b ∈ resolverAttributes L m a, attributeSize ≤ attributeLength m b
  /-- they are counted -/
  counts : ∀ l, resolverCounts L m a l = (ofList m l (resolverAttributes L m a)).length

/-- A configuration is laid out as documented. -/
structure ConfigTiled : Prop where
  /-- the attributes tile the area -/
  tiles : Tiled m (reg.start + L.configBufSize) (reg.start + dataLen)
  /-- they are not shorter than their headers -/
  long : ∀ a ∈ configAttributes L reg dataLen m, attributeSize ≤ attributeLength m a
  /-- the resolvers are counted -/
  counts : ∀ k, configCounts L reg m k = (ofKind m k (configAttributes L reg dataLen m)).length
  /-- the resolvers -/
  resolvers : ∀ a ∈ configAttributes L reg dataLen m, HoldsResolver m a → ResolverTiled L m a
  /-- there is padding for all lists -/
  padding : pointerSize * (configSlots L reg m +
      ((configAttributes L reg dataLen m).map (resolverSlots L m)).sum) ≤
    m.loadNet (reg.start + L.config.size + 4) 4

end

/-! ## Arithmetic of claims -/

/-- The first address behind a claim. -/
def Claim.stop (c : Claim) : ℕ := c.start + c.need

theorem listNeed_eq {count : ℕ} (h : count < 2 ^ 29) : listNeed count = pointerSize * count := by
  rw [listNeed, pointerSize]
  omega

section

variable (p : Padding)

/-- The lists of a resolver are claimed one behind the other. -/
theorem resolverClaims_bounds (count : ResolverList → ℕ) (l : ResolverList) :
    p.ptr ≤ ((resolverClaims p count).1 l).start ∧
      ((resolverClaims p count).1 l).stop ≤ (resolverClaims p count).2.ptr ∧
      ((resolverClaims p count).1 l).need = listNeed (count l) := by
  cases l <;>
    simp only [resolverClaims, Padding.claim, Padding.rest, Claim.stop, and_true] <;> omega

theorem resolverClaims_apart (count : ResolverList → ℕ) {l l' : ResolverList} (hne : l ≠ l') :
    ((resolverClaims p count).1 l).stop ≤ ((resolverClaims p count).1 l').start ∨
      ((resolverClaims p count).1 l').stop ≤ ((resolverClaims p count).1 l).start := by
  cases l <;> cases l' <;> first
    | exact absurd rfl hne
    | (simp only [resolverClaims, Padding.claim, Padding.rest, Claim.stop]; omega)

/-- The lists of a configuration are claimed one behind the other. -/
theorem configClaims_bounds (count : ResolverKind → ℕ) (k : ResolverKind) :
    p.ptr ≤ ((configClaims p count).1 k).start ∧
      ((configClaims p count).1 k).stop ≤ (configClaims p count).2.ptr ∧
      ((configClaims p count).1 k).need = listNeed (count k) := by
  cases k <;> simp only [configClaims, Padding.claim, Padding.rest, Claim.stop, and_true] <;> omega

theorem configClaims_apart (count : ResolverKind → ℕ) {k k' : ResolverKind} (hne : k ≠ k') :
    ((configClaims p count).1 k).stop ≤ ((configClaims p count).1 k').start ∨
      ((configClaims p count).1 k').stop ≤ ((configClaims p count).1 k).start := by
  cases k <;> cases k' <;> first
    | exact absurd rfl hne
    | (simp only [configClaims, Padding.claim, Padding.rest, Claim.stop]; omega)

/-- What the lists of a resolver leave. -/
theorem resolverClaims_padding {count : ResolverList → ℕ}
    (hcount : count .nameserver + count .search + count .sortaddr < 2 ^ 29) :
    (resolverClaims p count).2 =
      ⟨p.ptr + pointerSize * (count .nameserver + count .search + count .sortaddr),
        p.n - pointerSize * (count .nameserver + count .search + count .sortaddr)⟩ := by
  simp only [resolverClaims, Padding.rest]
  rw [listNeed_eq (by omega), listNeed_eq (by omega), listNeed_eq (by omega)]
  simp only [Padding.mk.injEq, pointerSize]
  omega

/-- What the lists of a configuration leave. -/
theorem configClaims_padding {count : ResolverKind → ℕ}
    (hcount : count .resolver + count .scopedResolver + count .serviceSpecificResolver < 2 ^ 29) :
    (configClaims p count).2 =
      ⟨p.ptr + pointerSize *
          (count .resolver + count .scopedResolver + count .serviceSpecificResolver),
        p.n - pointerSize *
          (count .resolver + count .scopedResolver + count .serviceSpecificResolver)⟩ := by
  simp only [configClaims, Padding.rest]
  rw [listNeed_eq (by omega), listNeed_eq (by omega), listNeed_eq (by omega)]
  simp only [Padding.mk.injEq, pointerSize]
  omega

end

section

variable {L : DnsLayout} {reg : Region} {dataLen : ℕ} {m : Memory} {before after as : List ℕ}
  {a : ℕ}

theorem paddingAfter_concat : paddingAfter L reg m (as ++ [a]) =
    paddingStep L m (paddingAfter L reg m as) a := by
  rw [paddingAfter, List.foldl_concat]
  rfl

theorem paddingStep_of_holds (h : HoldsResolver m a) (p : Padding) :
    paddingStep L m p a = (resolverClaims p (resolverCounts L m a)).2 := if_pos h

theorem paddingStep_of_not_holds (h : ¬ HoldsResolver m a) (p : Padding) :
    paddingStep L m p a = p := if_neg h

theorem le_paddingStep (p : Padding) : p.ptr ≤ (paddingStep L m p a).ptr := by
  rw [paddingStep]
  split
  · obtain ⟨hlo, hhi, -⟩ := resolverClaims_bounds p (resolverCounts L m a) .nameserver
    exact (hlo.trans (Nat.le_add_right _ _)).trans hhi
  · exact le_rfl

/-- The padding goes on. -/
theorem paddingAfter_le_append (before after : List ℕ) :
    (paddingAfter L reg m before).ptr ≤ (paddingAfter L reg m (before ++ after)).ptr := by
  induction after using List.reverseRecOn with
  | nil => rw [List.append_nil]
  | append_singleton after a ih =>
    rw [← List.append_assoc, paddingAfter_concat]
    exact ih.trans (le_paddingStep _)

/-- The lists of a resolver are behind those that come before, and in front of those that come
after. -/
theorem resolverClaim_bounds (L : DnsLayout) (reg : Region) (before after : List ℕ)
    (h : HoldsResolver m a) (l : ResolverList) :
    (paddingAfter L reg m before).ptr ≤ (resolverClaim L reg m before a l).start ∧
      (resolverClaim L reg m before a l).stop ≤
        (paddingAfter L reg m (before ++ a :: after)).ptr := by
  obtain ⟨hlo, hhi, -⟩ :=
    resolverClaims_bounds (paddingAfter L reg m before) (resolverCounts L m a) l
  refine ⟨hlo, hhi.trans ?_⟩
  have hstep : paddingAfter L reg m (before ++ [a]) =
      (resolverClaims (paddingAfter L reg m before) (resolverCounts L m a)).2 := by
    rw [paddingAfter_concat, paddingStep_of_holds h]
  rw [← hstep, List.append_cons before a after]
  exact paddingAfter_le_append _ _

/-- The padding that is left, if the lists are not too long. -/
theorem paddingAfter_eq
    (h : configSlots L reg m + (as.map (resolverSlots L m)).sum < 2 ^ 29) :
    paddingAfter L reg m as =
      ⟨(wholePadding L reg m).ptr + pointerSize *
          (configSlots L reg m + (as.map (resolverSlots L m)).sum),
        (wholePadding L reg m).n - pointerSize *
          (configSlots L reg m + (as.map (resolverSlots L m)).sum)⟩ := by
  induction as using List.reverseRecOn with
  | nil =>
    rw [List.map_nil, List.sum_nil, Nat.add_zero] at h ⊢
    rw [configSlots] at h ⊢
    rw [paddingAfter, List.foldl_nil, configPadding, configClaims_padding _ h]
  | append_singleton as a ih =>
    rw [List.map_append, List.sum_append, List.map_singleton, List.sum_singleton] at h ⊢
    have ih := ih (by omega)
    rw [paddingAfter_concat, ih, paddingStep]
    split
    · rename_i hholds
      have hslots : resolverSlots L m a = resolverCounts L m a .nameserver +
        resolverCounts L m a .search + resolverCounts L m a .sortaddr := if_pos hholds
      rw [resolverClaims_padding _ (by omega), ← hslots]
      simp only [Padding.mk.injEq, pointerSize]
      omega
    · rename_i hholds
      have hslots : resolverSlots L m a = 0 := if_neg hholds
      rw [hslots, Nat.add_zero]

end

end ConfigdExtra
