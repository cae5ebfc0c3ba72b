import ConfigdExtra.DnsDocument
import ConfigdExtra.DnsFilled
import ConfigdExtra.DnsPointers

/-!
# Decoding DNS configurations

The expansion of an encoded configuration returns what was encoded.

* `DecodedResolver`, `DecodedLists` — the structures that are returned hold a configuration.
* `DecodedNumbers`, `EncodedNumbers` — its numbers, in one byte order and in the other.
* `ConfigList`, `ListsApart` — its lists are in the padding, and do not overlap.
* `encodedConfig_expands` — this is what the expansion returns; `generation` and `version` are
  not converted.
* `twoResolvers_not_expands` — so these numbers are not what was encoded.
-/

namespace ConfigdExtra

open Memory (pointerSize)
open Program (Reaches)

/-! ## Decoded configurations -/

section

variable (L : DnsLayout) (mem : Memory)

/-- The elements of a list of the `dns_resolver_t` at `p`. -/
def resolverPointers (p : ℕ) (l : ResolverList) : List ℕ :=
  mem.pointers (L.resolver.values mem p (.list l)) (L.resolver.values mem p (.n l))

/-- The elements of a list of the `dns_config_t` at `config`. -/
def configPointers (config : ℕ) (k : ResolverKind) : List ℕ :=
  mem.pointers (L.config.values mem config (.list k)) (L.config.values mem config (.n k))

/-- The `dns_resolver_t` at `p` holds `r`. -/
structure DecodedResolver (p : ℕ) (r : EncodedResolver) : Prop where
  /-- its numbers -/
  scalar : ∀ s, L.resolver.values mem p (.scalar s) = r.scalar s
  /-- the lengths of its lists -/
  n : ∀ l, L.resolver.values mem p (.n l) = (r.list l).length
  /-- its lists -/
  list : ∀ l, List.Forall₂ mem.BytesAt (resolverPointers L mem p l) (r.list l)
  /-- `domain`, `options`, `cid` and `if_name`, if there are such attributes -/
  field : ∀ f, ∀ data ∈ r.field f, mem.BytesAt (L.resolver.values mem p f) data
  /-- `domain` and `options`, if there are none -/
  null : ∀ f ∈ [ResolverField.domain, .options], r.field f = none →
    L.resolver.values mem p f = 0

/-- The lists of the `dns_config_t` at `config` hold those of `c`. -/
structure DecodedLists (config : ℕ) (c : EncodedConfig) : Prop where
  /-- their lengths -/
  n : ∀ k, L.config.values mem config (.n k) = (c.resolvers k).length
  /-- their resolvers -/
  list : ∀ k, List.Forall₂ (DecodedResolver L mem) (configPointers L mem config k) (c.resolvers k)

/-- The numbers of the `dns_config_t` at `config` are those of `c`. -/
structure DecodedNumbers (config : ℕ) (c : EncodedConfig) : Prop where
  /-- `generation` -/
  generation : L.config.values mem config .generation = c.generation
  /-- `version` -/
  version : L.config.values mem config .version = c.version

/-- The numbers of the `dns_config_t` at `config` are those of `c`, in network byte order. -/
structure EncodedNumbers (config : ℕ) (c : EncodedConfig) : Prop where
  /-- `generation` -/
  generation : mem.loadNet (config + L.config.offset .generation) (L.config.width .generation) =
    c.generation
  /-- `version` -/
  version : mem.loadNet (config + L.config.offset .version) (L.config.width .version) = c.version

/-- A list of pointers. -/
inductive ConfigList where
  /-- the resolvers of kind `k` -/
  | config (k : ResolverKind)
  /-- the list `l` of the `dns_resolver_t` at `p` -/
  | resolver (p : ℕ) (l : ResolverList)

/-- Where the list lies. -/
def ConfigList.region (config : ℕ) : ConfigList → Region
  | .config k => ⟨L.config.values mem config (.list k),
      pointerSize * L.config.values mem config (.n k)⟩
  | .resolver p l => ⟨L.resolver.values mem p (.list l),
      pointerSize * L.resolver.values mem p (.n l)⟩

/-- It is a list of the `dns_config_t` at `config`, or of one of its resolvers. -/
def ConfigList.Of (config : ℕ) : ConfigList → Prop
  | .config _ => True
  | .resolver p _ => ∃ k, p ∈ configPointers L mem config k

/-- The lists of the `dns_config_t` at `config` are in `padding`, and do not overlap. -/
structure ListsApart (config : ℕ) (padding : Region) : Prop where
  /-- where they are -/
  inside : ∀ x : ConfigList, x.Of L mem config → 0 < (x.region L mem config).size →
    padding.Contains (x.region L mem config).start (x.region L mem config).size
  /-- they do not overlap -/
  apart : ∀ x y : ConfigList, x.Of L mem config → y.Of L mem config → x ≠ y →
    (x.region L mem config).Apart (y.region L mem config)

/-- `_dns_configuration_buffer_create` makes a buffer at `buf` of the `dataLen` bytes at `dataRef`,
and `_dns_configuration_buffer_expand` returns a configuration with `Q`. -/
def Expands (data : Memory) (dataRef dataLen buf : ℕ) (Q : Region → Memory → Prop) : Prop :=
  ∃ reg m s, Accepted L data dataRef dataLen reg m ∧ reg.start = buf ∧
    Reaches (expandStep L reg) (expandStart L reg m) s ∧
    s.point = .returned (some reg.start) ∧ Q reg s.world.memory

end

/-! ## Lists -/

section

variable {mem : Memory} {list : ℕ} {claim claim' : Claim} {as : List ℕ}

/-- Where the list of a claim lies. -/
def Claim.region (c : Claim) : Region := ⟨c.list, c.need⟩

theorem Claim.region_of_pos (h : 0 < claim.need) : claim.region = ⟨claim.start, claim.need⟩ := by
  rw [Claim.region, Claim.list, if_neg h.ne']

/-- The lists of claims that do not overlap do not overlap. -/
theorem Claim.region_apart
    (h : claim.stop ≤ claim'.start ∨ claim'.stop ≤ claim.start) :
    claim.region.Apart claim'.region := by
  rcases Nat.eq_zero_or_pos claim.need with hneed | hneed
  · left
    simp [Region.stop, Claim.region, Claim.list, hneed]
  rcases Nat.eq_zero_or_pos claim'.need with hneed' | hneed'
  · right
    simp [Region.stop, Claim.region, Claim.list, hneed']
  rw [Claim.region_of_pos hneed, Claim.region_of_pos hneed']
  exact h

/-- The pointers of a list that is full. -/
theorem ListAt.pointers_eq (h : ListAt mem list claim as)
    (hneed : claim.need = pointerSize * as.length) :
    mem.pointers list as.length = as.map (· + attributeSize) := by
  cases as with
  | nil => rfl
  | cons a as =>
    have hlist : list = claim.start := by
      rw [h.list_eq, Claim.list, if_neg]
      rw [hneed, pointerSize, List.length_cons]
      omega
    have hpointers := h.pointers.pointers_eq
    rw [List.length_map] at hpointers
    rw [hlist, hpointers]

end

/-! ## The attributes -/

/-- Attributes of a walk do not overlap. -/
theorem AttributeWalk.apart {m : Memory} {stop a b : ℕ} {as : List ℕ}
    (h : AttributeWalk m stop a as b) {x y : ℕ} (hx : x ∈ as) (hy : y ∈ as) :
    x = y ∨ x + attributeLength m x ≤ y ∨ y + attributeLength m y ≤ x := by
  induction as generalizing a with
  | nil => simp at hx
  | cons z as ih =>
    obtain ⟨rfl, -, -, hrest⟩ := h
    rcases List.mem_cons.mp hx with rfl | hxs
    · rcases List.mem_cons.mp hy with rfl | hys
      · exact .inl rfl
      · exact .inr (.inl (hrest.mem_bounds hys).1)
    · rcases List.mem_cons.mp hy with rfl | hys
      · exact .inr (.inr (hrest.mem_bounds hxs).1)
      · exact ih hrest hxs hys

section

variable {L : DnsLayout} {reg : Region} {dataLen : ℕ} {m mem : Memory}
  {claim : ResolverKind → Claim} {count : ResolverKind → ℕ} {as : List ℕ} {a : ℕ}

/-- The attributes of a resolver are what they were. -/
theorem ConfigKept.eqOn_attributes
    (h : ConfigKept L reg dataLen m mem claim count as (reg.start + dataLen) as)
    (htiled : ∀ a ∈ as, HoldsResolver m a → ResolverTiled L m a) (ha : a ∈ as) {b n : ℕ}
    (hlo : a + attributeSize + L.resolverBufSize ≤ b)
    (hhi : b + n ≤ a + attributeLength m a) : m.EqOn mem b n := by
  obtain ⟨hstart, -, hstop⟩ := h.walk.mem_bounds ha
  have hsize : L.resolverBufSize = L.resolver.size + 4 := rfl
  refine h.untouched b n (by omega) (by omega) fun x hx hxholds => ?_
  have hfits := (htiled x hx hxholds).fits
  rcases h.walk.apart ha hx with rfl | hapart | hapart
  · exact .inr (by omega)
  · exact .inl (by omega)
  · exact .inr (by omega)

theorem headerAfter_scalar {g : ResolverField → ℕ} (s : ResolverScalar) :
    headerAfter m g as (.scalar s) = g (.scalar s) := by
  refine headerAfter_of_forall fun b _ => ?_
  unfold resolverTarget
  rcases ResolverAttribute.ofType (attributeType m b) with _ | t
  · simp
  · cases t <;> simp [ResolverAttribute.target]

/-- The data of an attribute of a resolver is what it was. -/
theorem ConfigKept.bytesAt
    (h : ConfigKept L reg dataLen m mem claim count as (reg.start + dataLen) as)
    (htiled : ∀ a ∈ as, HoldsResolver m a → ResolverTiled L m a) (ha : a ∈ as)
    (hholds : HoldsResolver m a) {b : ℕ} (hb : b ∈ resolverAttributes L m a) {data : List UInt8}
    (hdata : DataAt m b data) : mem.BytesAt (b + attributeSize) data := by
  obtain ⟨hlo, -, hhi⟩ := (htiled a ha hholds).tiles.walk.mem_bounds hb
  have hlength := hdata.length
  refine hdata.bytes.congr (h.eqOn_attributes htiled ha ?_ ?_).copyAt
  · exact hlo.trans (Nat.le_add_right _ _)
  · omega

/-- **A resolver is decoded.** -/
theorem EncodedResolver.At.decoded {r : EncodedResolver} (hr : r.At L m a)
    (h : ConfigKept L reg dataLen m mem claim count as (reg.start + dataLen) as)
    (htiled : ∀ a ∈ as, HoldsResolver m a → ResolverTiled L m a) (ha : a ∈ as)
    (hholds : HoldsResolver m a)
    (hlists : ∀ l, ∃ claim : Claim,
      claim.need = pointerSize * (ofList m l (resolverAttributes L m a)).length ∧
      ListAt mem (L.resolver.values mem (a + attributeSize) (.list l)) claim
        (ofList m l (resolverAttributes L m a))) :
    DecodedResolver L mem (a + attributeSize) r := by
  obtain ⟨_, hkept⟩ := h.resolvers a ha hholds
  have hbytes : ∀ b ∈ resolverAttributes L m a, ∀ data, DataAt m b data →
      mem.BytesAt (b + attributeSize) data :=
    fun b hb _ hdata => h.bytesAt htiled ha hholds hb hdata
  have hn : ∀ l, L.resolver.values mem (a + attributeSize) (.n l) = (r.list l).length :=
    fun l => (hkept.n_eq l).trans (hr.resolverCounts_eq l)
  refine ⟨fun s => ?_, hn, fun l => ?_, fun f data hf => ?_, fun f hf hnone => ?_⟩
  · rw [hkept.values, headerAfter_scalar, expandedHeader, StructLayout.values,
      Memory.swapBytes_load]
    exact hr.scalar s
  · obtain ⟨_, hneed, hlist⟩ := hlists l
    have hforall := hr.forall₂_list l
    rw [resolverPointers, hn, ← hforall.length_eq, hlist.pointers_eq hneed,
      List.forall₂_map_left_iff]
    exact forall₂_imp_of_mem hforall fun b hb => hbytes b (List.mem_of_mem_filter hb)
  · have hrel := hr.rel_field f
    rw [hkept.values, headerAfter_eq_lastFor]
    rw [Option.mem_def.mp hf] at hrel
    cases hlast : lastFor m f (resolverAttributes L m a) with
    | none =>
      rw [hlast] at hrel
      cases hrel
    | some b =>
      rw [hlast] at hrel
      have hb : b ∈ resolverAttributes L m a :=
        List.mem_of_mem_filter (List.mem_of_mem_getLast? hlast)
      cases hrel with
      | some hdata => exact hbytes b hb data hdata
  · have hrel := hr.rel_field f
    rw [hnone] at hrel
    rw [hkept.values, headerAfter_eq_lastFor]
    cases hlast : lastFor m f (resolverAttributes L m a) with
    | none =>
      rcases List.mem_pair.mp hf with rfl | rfl
      · rfl
      · rfl
    | some b =>
      rw [hlast] at hrel
      cases hrel

end

/-! ## The configuration -/

section

variable {L : DnsLayout} {data m mem : Memory} {dataRef dataLen : ℕ} {reg : Region}
  {claim : ResolverKind → Claim} {count : ResolverKind → ℕ}
  (haccepted : Accepted L data dataRef dataLen reg m) (htiled : ConfigTiled L reg dataLen m)
  (hkept : ConfigKept L reg dataLen m mem claim count (configAttributes L reg dataLen m)
    (reg.start + dataLen) (configAttributes L reg dataLen m))
  (hlists : ListsLaid L reg m mem (configAttributes L reg dataLen m))

include htiled hkept in
/-- The lengths of the lists of the configuration. -/
theorem configValues_n (k : ResolverKind) : L.config.values mem reg.start (.n k) =
    (ofKind m k (configAttributes L reg dataLen m)).length :=
  (hkept.n_eq k).trans (htiled.counts k)

include haccepted htiled hkept hlists in
/-- The lists of the configuration point to its resolvers. -/
theorem configPointers_eq (k : ResolverKind) : configPointers L mem reg.start k =
    (ofKind m k (configAttributes L reg dataLen m)).map (· + attributeSize) := by
  rw [configPointers, configValues_n htiled hkept]
  exact (hlists.config k).pointers_eq (configClaim_need haccepted htiled k)

include haccepted hkept hlists in
/-- **The lists are decoded.** -/
theorem EncodedConfig.At.decodedLists {c : EncodedConfig} (h : c.At L m reg.start dataLen) :
    DecodedLists L mem reg.start c := by
  refine ⟨fun k => ?_, fun k => ?_⟩
  · rw [configValues_n h.tiled hkept, (h.forall₂_ofKind k).length_eq]
  · rw [configPointers_eq haccepted h.tiled hkept hlists, List.forall₂_map_left_iff]
    refine forall₂_imp_of_mem (h.forall₂_ofKind k) fun a ha r hr => ?_
    have hmem := List.mem_of_mem_filter ha
    have hholds : HoldsResolver m a := holdsResolver_of (by simpa using List.of_mem_filter ha)
    obtain ⟨before, after, hall⟩ := List.append_of_mem hmem
    exact hr.decoded hkept h.tiled.resolvers hmem hholds fun l =>
      ⟨_, resolverClaim_need haccepted h.tiled before hmem hholds l,
        hlists.resolvers before a after hall hholds l⟩

include hkept in
/-- The numbers of the configuration stay as they are. -/
theorem EncodedConfig.At.encodedNumbers {c : EncodedConfig} (h : c.At L m reg.start dataLen) :
    EncodedNumbers L mem reg.start c := by
  have hfield : ∀ f, L.config.values mem reg.start f = L.config.values m reg.start f →
      mem.loadNet (reg.start + L.config.offset f) (L.config.width f) =
        m.loadNet (reg.start + L.config.offset f) (L.config.width f) := by
    intro f hf
    rw [← Memory.swapBytes_load, ← Memory.swapBytes_load]
    exact congrArg _ hf
  constructor
  · rw [hfield .generation (by rw [hkept.values]; rfl)]
    exact h.generation
  · rw [hfield .version (by rw [hkept.values]; rfl)]
    exact h.version

/-! ### Where the lists are -/

/-- The list `x` lies in the space `c` that was claimed for it. -/
inductive ClaimOf (L : DnsLayout) (reg : Region) (dataLen : ℕ) (m : Memory) :
    ConfigList → Claim → Prop where
  /-- a list of the configuration -/
  | config (k : ResolverKind) : ClaimOf L reg dataLen m (.config k) (configClaim L reg m k)
  /-- a list of a resolver -/
  | resolver {before after : List ℕ} {a : ℕ}
      (hall : configAttributes L reg dataLen m = before ++ a :: after) (hholds : HoldsResolver m a)
      (l : ResolverList) :
      ClaimOf L reg dataLen m (.resolver (a + attributeSize) l) (resolverClaim L reg m before a l)

include haccepted htiled hkept hlists in
/-- Each list lies in a space that was claimed for it. -/
theorem exists_claimOf {x : ConfigList} (hx : x.Of L mem reg.start) :
    ∃ c, ClaimOf L reg dataLen m x c ∧ x.region L mem reg.start = c.region := by
  cases x with
  | config k =>
    refine ⟨_, .config k, ?_⟩
    rw [ConfigList.region, configValues_n htiled hkept, (hlists.config k).list_eq,
      ← configClaim_need haccepted htiled k]
    rfl
  | resolver p l =>
    obtain ⟨k, hp⟩ := hx
    rw [configPointers_eq haccepted htiled hkept hlists] at hp
    obtain ⟨a, ha, rfl⟩ := List.mem_map.mp hp
    have hmem := List.mem_of_mem_filter ha
    have hholds : HoldsResolver m a := holdsResolver_of (by simpa using List.of_mem_filter ha)
    obtain ⟨before, after, hall⟩ := List.append_of_mem hmem
    obtain ⟨_, hheader⟩ := hkept.resolvers a hmem hholds
    have hn : L.resolver.values mem (a + attributeSize) (.n l) =
        (ofList m l (resolverAttributes L m a)).length :=
      (hheader.n_eq l).trans ((htiled.resolvers a hmem hholds).counts l)
    refine ⟨_, .resolver hall hholds l, ?_⟩
    rw [ConfigList.region, hn, (hlists.resolvers before a after hall hholds l).list_eq,
      ← resolverClaim_need haccepted htiled before hmem hholds l]
    rfl

include haccepted htiled in
/-- The space for a list is in the padding. -/
theorem ClaimOf.inside {x : ConfigList} {c : Claim} (h : ClaimOf L reg dataLen m x c) :
    reg.start + dataLen ≤ c.start ∧ c.stop ≤ reg.stop := by
  cases h with
  | config k =>
    exact ⟨(configClaim_bounds haccepted k []).1, configClaim_stop haccepted htiled k⟩
  | resolver hall hholds l => exact resolverClaim_stop haccepted htiled hall hholds l

/-- Of two places in a list one is in front of the other, or they are the same. -/
theorem split_cases {α : Type} {before after before' after' : List α} {a a' : α}
    (h : before ++ a :: after = before' ++ a' :: after') :
    (∃ mid, before' = before ++ a :: mid) ∨ (∃ mid, before = before' ++ a' :: mid) ∨
      before = before' ∧ a = a' := by
  rcases List.append_eq_append_iff.mp h with ⟨mid, rfl, hmid⟩ | ⟨mid, rfl, hmid⟩
  · cases mid with
    | nil => exact .inr (.inr ⟨by simp, by simpa using congrArg List.head? hmid⟩)
    | cons y mid =>
      obtain ⟨rfl, -⟩ := List.cons.inj hmid
      exact .inl ⟨mid, rfl⟩
  · cases mid with
    | nil => exact .inr (.inr ⟨by simp, by simpa using congrArg List.head? hmid.symm⟩)
    | cons y mid =>
      obtain ⟨rfl, -⟩ := List.cons.inj hmid
      exact .inr (.inl ⟨mid, rfl⟩)

include haccepted in
/-- The spaces for two lists do not overlap. -/
theorem ClaimOf.apart {x y : ConfigList} {c c' : Claim} (hx : ClaimOf L reg dataLen m x c)
    (hy : ClaimOf L reg dataLen m y c') (hne : x ≠ y) :
    c.stop ≤ c'.start ∨ c'.stop ≤ c.start := by
  cases hx with
  | config k =>
    cases hy with
    | config k' => exact configClaims_apart _ _ fun h => hne (h ▸ rfl)
    | @resolver before after a hall hholds l =>
      obtain ⟨-, hstop⟩ := configClaim_bounds haccepted k before
      exact .inl (hstop.trans (resolverClaim_bounds L reg before after hholds l).1)
  | @resolver before after a hall hholds l =>
    cases hy with
    | config k' =>
      obtain ⟨-, hstop⟩ := configClaim_bounds haccepted k' before
      exact .inr (hstop.trans (resolverClaim_bounds L reg before after hholds l).1)
    | @resolver before' after' a' hall' hholds' l' =>
      rcases split_cases (hall.symm.trans hall') with ⟨mid, rfl⟩ | ⟨mid, rfl⟩ | ⟨rfl, rfl⟩
      · obtain ⟨-, hstop⟩ := resolverClaim_bounds L reg before mid hholds l
        exact .inl (hstop.trans (resolverClaim_bounds L reg _ after' hholds' l').1)
      · obtain ⟨-, hstop⟩ := resolverClaim_bounds L reg before' mid hholds' l'
        exact .inr (hstop.trans (resolverClaim_bounds L reg _ after hholds l).1)
      · exact resolverClaims_apart _ _ fun h => hne (h ▸ rfl)

include haccepted htiled hkept hlists in
/-- **The lists are in the padding, and do not overlap.** -/
theorem listsApart :
    ListsApart L mem reg.start ⟨reg.start + dataLen, reg.size - dataLen⟩ where
  inside x hx hsize := by
    obtain ⟨c, hc, hregion⟩ := exists_claimOf haccepted htiled hkept hlists hx
    obtain ⟨hlo, hhi⟩ := hc.inside haccepted htiled
    have hle := haccepted.size_le
    have hstop : reg.stop = reg.start + reg.size := rfl
    rw [hregion] at hsize ⊢
    rw [Claim.region_of_pos hsize]
    refine ⟨hlo, ?_⟩
    simp only [Claim.stop, Region.stop] at hhi ⊢
    omega
  apart x y hx hy hne := by
    obtain ⟨c, hc, hregion⟩ := exists_claimOf haccepted htiled hkept hlists hx
    obtain ⟨c', hc', hregion'⟩ := exists_claimOf haccepted htiled hkept hlists hy
    rw [hregion, hregion']
    exact Claim.region_apart (hc.apart haccepted hc' hne)

end

/-! ## Runs -/

/-- The configuration `c` is laid out in the `dataLen` bytes at `dataRef`, and `malloc` returns
`buf`. -/
structure Allocated (L : DnsLayout) (c : EncodedConfig) (data : Memory)
    (dataRef dataLen buf : ℕ) : Prop where
  /-- the layout -/
  encoded : c.At L data dataRef dataLen
  /-- `malloc` does not return `NULL` -/
  allocated : 0 < buf
  /-- what `malloc` returns can be addressed, up to the pointer behind it -/
  addressable : buf + (dataLen + data.loadNet (dataRef + L.config.size + 4) 4) < 2 ^ 64

section

variable {L : DnsLayout} {c : EncodedConfig} {data m : Memory} {dataRef dataLen buf : ℕ}
  {reg : Region}

/-- The buffer is laid out as the bytes from which it was made. -/
theorem EncodedConfig.At.accepted (h : c.At L data dataRef dataLen)
    (haccepted : Accepted L data dataRef dataLen reg m) : c.At L m reg.start dataLen :=
  h.congr haccepted.facts.2.2.2.symm

/-- What is laid out as documented is accepted. -/
theorem Allocated.accepted (h : Allocated L c data dataRef dataLen buf) :
    ∃ reg m, Accepted L data dataRef dataLen reg m ∧ reg.start = buf := by
  refine ⟨_, _, accepted_of ?_ h.encoded.max h.allocated h.addressable, rfl⟩
  rw [h.encoded.area, ← h.encoded.length]

end

/-- **Decoding.** The expansion of a configuration that is laid out as documented returns its
resolvers, with their lists in the padding, and leaves `generation` and `version` as they are. -/
theorem encodedConfig_expands (L : DnsLayout) (c : EncodedConfig) (data : Memory)
    (dataRef dataLen buf : ℕ) (h : Allocated L c data dataRef dataLen buf) :
    Expands L data dataRef dataLen buf fun reg mem =>
      DecodedLists L mem reg.start c ∧ EncodedNumbers L mem reg.start c ∧
        ListsApart L mem reg.start ⟨reg.start + dataLen, reg.size - dataLen⟩ := by
  obtain ⟨reg, m, haccepted, hstart⟩ := h.accepted
  have hencoded := h.encoded.accepted haccepted
  obtain ⟨s, hs, hreturned, ⟨claim, count, hkept⟩, hlists⟩ :=
    exists_returned haccepted hencoded.tiled
  exact ⟨reg, m, s, haccepted, hstart, hs, hreturned,
    hencoded.decodedLists haccepted hkept hlists, hencoded.encodedNumbers hkept,
    listsApart haccepted hencoded.tiled hkept hlists⟩

/-- A resolver with one nameserver, and a scoped resolver with no attributes. -/
def twoResolvers : EncodedConfig where
  generation := 1
  version := 2
  entries := [.resolver .resolver ⟨fun s => if s = .port then 53 else 0, [⟨11, [8, 8, 4, 4]⟩]⟩,
    .resolver .scopedResolver ⟨fun _ => 0, []⟩]

/-- The bytes of `twoResolvers`. -/
def twoResolversBytes : List UInt8 :=
  [0, 0, 0, 1] ++ List.replicate 8 0 ++ [0, 0, 0, 1] ++ List.replicate 15 0 ++ [1] ++
    List.replicate 12 0 ++ [0, 0, 0, 2, 0, 0, 0, 228, 0, 0, 0, 24] ++
    [0, 0, 0, 1, 0, 0, 0, 120] ++ List.replicate 11 0 ++ [1] ++ List.replicate 8 0 ++ [0, 53] ++
    List.replicate 74 0 ++ [0, 0, 0, 12] ++ [0, 0, 0, 11, 0, 0, 0, 12, 8, 8, 4, 4] ++
    [0, 0, 0, 2, 0, 0, 0, 108] ++ List.replicate 100 0

theorem twoResolvers_allocated :
    Allocated dnsinfoLayout twoResolvers (.ofBytes 0 twoResolversBytes) 0 284 4096 where
  encoded := by
    refine ⟨by decide +kernel, by decide +kernel, fun k => ?_, by decide +kernel,
      by decide +kernel, by decide +kernel, by decide +kernel, ⟨⟨by decide +kernel, ?_⟩,
        ⟨by decide +kernel, ?_⟩, trivial⟩⟩
    · cases k <;> decide +kernel
    · refine ⟨by decide +kernel, fun s => ?_, fun l => ?_, by decide +kernel,
        ⟨by decide +kernel, by decide +kernel, ?_⟩, trivial⟩
      · cases s <;> decide +kernel
      · cases l <;> decide +kernel
      · refine ⟨?_, ?_, ?_, ?_, trivial⟩ <;> decide +kernel
    · refine ⟨by decide +kernel, fun s => ?_, fun l => ?_, by decide +kernel, trivial⟩
      · cases s <;> decide +kernel
      · cases l <;> decide +kernel
  allocated := by decide
  addressable := by decide +kernel

theorem encodedConfig_expands_twoResolvers :
    Expands dnsinfoLayout (.ofBytes 0 twoResolversBytes) 0 284 4096 fun reg mem =>
      DecodedLists dnsinfoLayout mem reg.start twoResolvers ∧
        EncodedNumbers dnsinfoLayout mem reg.start twoResolvers ∧
          ListsApart dnsinfoLayout mem reg.start ⟨reg.start + 284, reg.size - 284⟩ :=
  encodedConfig_expands dnsinfoLayout twoResolvers (.ofBytes 0 twoResolversBytes) 0 284 4096
    twoResolvers_allocated

/-- The `generation` of `twoResolvers` is not what was encoded. -/
theorem twoResolvers_not_expands :
    ¬ ∀ (c : EncodedConfig) (data : Memory) (dataRef dataLen buf : ℕ),
      Allocated dnsinfoLayout c data dataRef dataLen buf →
      Expands dnsinfoLayout data dataRef dataLen buf fun reg mem =>
        DecodedLists dnsinfoLayout mem reg.start c ∧ DecodedNumbers dnsinfoLayout mem reg.start c ∧
          ListsApart dnsinfoLayout mem reg.start ⟨reg.start + dataLen, reg.size - dataLen⟩ := by
  intro h
  obtain ⟨reg, m, s, haccepted, -, hs, hreturned, -, hnumbers, -⟩ :=
    h twoResolvers (.ofBytes 0 twoResolversBytes) 0 284 4096 twoResolvers_allocated
  have hencoded := twoResolvers_allocated.encoded.accepted haccepted
  have hlaid := (laidInv_reached haccepted hencoded.tiled hs).laid
  rw [hreturned] at hlaid
  obtain ⟨-, ⟨_, _, hkept⟩, -⟩ := hlaid
  have hnet := (hencoded.encodedNumbers hkept).generation
  have hhost := hnumbers.generation
  -- the eight bytes of 1 in the other order
  rw [StructLayout.values] at hhost
  rw [← Memory.swapBytes_load, hhost] at hnet
  revert hnet
  decide

end ConfigdExtra
