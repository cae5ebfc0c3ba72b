import ConfigdExtra.DnsTiles

/-!
# Encoded DNS configurations

What a DNS configuration is before it is laid out in a buffer, and the layout that the comments
describe: network byte order, attributes one behind the other, counts in the headers, and padding
for the lists.

* `SequenceAt`, `addresses` — things that lie one behind the other.
* `EncodedAttribute`, `EncodedResolver`, `EncodedEntry`, `EncodedConfig` — configurations.
* `EncodedAttribute.At`, `EncodedResolver.At`, `EncodedEntry.At`, `EncodedConfig.At` — their layout.
* `EncodedConfig.At.tiled` — the attributes tile the buffer.
-/

namespace ConfigdExtra

open Memory (pointerSize)

/-! ## Sequences -/

section

variable {α : Type}

/-- The elements of `xs` lie at `a`, one behind the other. -/
def SequenceAt (size : α → ℕ) (At : ℕ → α → Prop) : ℕ → List α → Prop
  | _, [] => True
  | a, x :: xs => At a x ∧ SequenceAt size At (a + size x) xs

/-- Where they lie. -/
def addresses (size : α → ℕ) : ℕ → List α → List ℕ
  | _, [] => []
  | a, x :: xs => a :: addresses size (a + size x) xs

variable {size : α → ℕ} {At At' : ℕ → α → Prop} {m : Memory} {a b stop : ℕ} {xs : List α}

/-- What lies in a row in memory are its parts, each at its address. -/
theorem SequenceAt.forall₂ (h : SequenceAt size At a xs) :
    List.Forall₂ At (addresses size a xs) xs := by
  induction xs generalizing a with
  | nil => exact .nil
  | cons x xs ih => exact .cons h.1 (ih h.2)

/-- What a relation says about the elements on one side. -/
theorem forall_mem_of_forall₂ {β : Type} {R : β → α → Prop} {p : β → Prop} {ys : List β}
    (h : List.Forall₂ R ys xs) (hp : ∀ y x, R y x → p y) : ∀ y ∈ ys, p y :=
  ((List.forall₂_and_left _ _).mp (h.imp fun y x hyx => ⟨hp y x hyx, hyx⟩)).1

/-- A relation that is stronger for the elements on one side. -/
theorem forall₂_imp_of_mem {β : Type} {R S : β → α → Prop} {ys : List β}
    (h : List.Forall₂ R ys xs) (hp : ∀ y ∈ ys, ∀ x, R y x → S y x) : List.Forall₂ S ys xs :=
  ((List.forall₂_and_left (p := (· ∈ ys)) _ _).mpr ⟨fun _ hy => hy, h⟩).imp
    fun y x hyx => hp y hyx.1 x hyx.2

/-- The last elements. -/
theorem rel_getLast? {β : Type} {R : β → α → Prop} {ys : List β} (h : List.Forall₂ R ys xs) :
    Option.Rel R ys.getLast? xs.getLast? := by
  rw [List.getLast?_eq_head?_reverse, List.getLast?_eq_head?_reverse]
  have hreverse : List.Forall₂ R ys.reverse xs.reverse := List.rel_reverse h
  generalize ys.reverse = ys', xs.reverse = xs' at hreverse
  cases hreverse with
  | nil => exact .none
  | cons hyx _ => exact .some hyx

/-- The same elements somewhere else. -/
theorem SequenceAt.congr (h : SequenceAt size At a xs)
    (hsame : ∀ x d, At (a + d) x → d + size x ≤ (xs.map size).sum → At' (b + d) x) :
    SequenceAt size At' b xs := by
  induction xs generalizing a b with
  | nil => trivial
  | cons x xs ih =>
    rw [List.map_cons, List.sum_cons] at hsame
    refine ⟨hsame x 0 h.1 (by omega), ih h.2 fun y d hy hd => ?_⟩
    rw [Nat.add_assoc] at hy ⊢
    exact hsame y _ hy (by omega)

/-- Attributes that lie one behind the other. -/
theorem SequenceAt.walk (h : SequenceAt size At a xs)
    (hlength : ∀ a x, At a x → attributeLength m a = size x ∧ attributeSize ≤ size x)
    (hstop : a + (xs.map size).sum ≤ stop) :
    AttributeWalk m stop a (addresses size a xs) (a + (xs.map size).sum) := by
  induction xs generalizing a with
  | nil => rfl
  | cons x xs ih =>
    obtain ⟨hx, hxs⟩ := h
    obtain ⟨hlen, hlong⟩ := hlength a x hx
    rw [List.map_cons, List.sum_cons, ← Nat.add_assoc] at hstop ⊢
    have hwalk := ih hxs hstop
    refine ⟨rfl, by omega, by omega, ?_⟩
    rw [hlen]
    exact hwalk

end

/-! ## Configurations -/

/-- An attribute. -/
structure EncodedAttribute where
  /-- its type -/
  type : ℕ
  /-- its data -/
  data : List UInt8

/-- A resolver. -/
structure EncodedResolver where
  /-- its numbers -/
  scalar : ResolverScalar → ℕ
  /-- its attributes -/
  attributes : List EncodedAttribute

/-- An attribute of a configuration. -/
inductive EncodedEntry where
  /-- a resolver -/
  | resolver (kind : ResolverKind) (r : EncodedResolver)
  /-- something else -/
  | other (x : EncodedAttribute) (h : ResolverKind.ofType x.type = none)

/-- A configuration. -/
structure EncodedConfig where
  /-- `generation` -/
  generation : ℕ
  /-- `version` -/
  version : ℕ
  /-- its attributes -/
  entries : List EncodedEntry

namespace EncodedAttribute

/-- The number of bytes of the attribute. -/
def size (x : EncodedAttribute) : ℕ := attributeSize + x.data.length

/-- What the attribute is for. -/
def target (x : EncodedAttribute) : Option ResolverTarget :=
  (ResolverAttribute.ofType x.type).map ResolverAttribute.target

/-- The attribute lies at `a`. -/
structure At (m : Memory) (a : ℕ) (x : EncodedAttribute) : Prop where
  /-- its type -/
  type : attributeType m a = x.type
  /-- its length -/
  length : attributeLength m a = x.size
  /-- its data -/
  data : m.BytesAt (a + attributeSize) x.data

end EncodedAttribute

/-- The data of the attribute at `a` is `data`. -/
structure DataAt (m : Memory) (a : ℕ) (data : List UInt8) : Prop where
  /-- its length -/
  length : attributeLength m a = attributeSize + data.length
  /-- its bytes -/
  bytes : m.BytesAt (a + attributeSize) data

theorem EncodedAttribute.At.dataAt {m : Memory} {a : ℕ} {x : EncodedAttribute} (h : x.At m a) :
    DataAt m a x.data := ⟨h.length, h.data⟩

namespace EncodedResolver

variable (L : DnsLayout) (r : EncodedResolver)

/-- The data of the attributes for the list `l`. -/
def list (l : ResolverList) : List (List UInt8) :=
  (r.attributes.filter fun x => x.target = some (.list l)).map EncodedAttribute.data

/-- The data of the last attribute for the field `f`. -/
def field (f : ResolverField) : Option (List UInt8) :=
  ((r.attributes.filter fun x => x.target = some (.field f)).map EncodedAttribute.data).getLast?

/-- The number of bytes of its attributes: `n_attribute`. -/
def area : ℕ := (r.attributes.map EncodedAttribute.size).sum

/-- The number of bytes of the attribute that holds the resolver. -/
def size : ℕ := attributeSize + L.resolverBufSize + r.area

/-- The number of pointers in its lists. -/
def slots : ℕ := (r.list .nameserver).length + (r.list .search).length + (r.list .sortaddr).length

/-- The resolver lies in the attribute at `a`. -/
structure At (m : Memory) (a : ℕ) (r : EncodedResolver) : Prop where
  /-- its length -/
  length : attributeLength m a = r.size L
  /-- its numbers -/
  scalar : ∀ s, m.loadNet (a + attributeSize + L.resolver.offset (.scalar s))
    (L.resolver.width (.scalar s)) = r.scalar s
  /-- the lengths of its lists -/
  counts : ∀ l, m.loadNet (a + attributeSize + L.resolver.offset (.n l))
    (L.resolver.width (.n l)) = (r.list l).length
  /-- `n_attribute` -/
  area : m.loadNet (a + attributeSize + L.resolver.size) 4 = r.area
  /-- its attributes -/
  attributes : SequenceAt EncodedAttribute.size (EncodedAttribute.At m)
    (a + attributeSize + L.resolverBufSize) r.attributes

end EncodedResolver

namespace EncodedEntry

variable (L : DnsLayout)

/-- The number of bytes of the attribute. -/
def size : EncodedEntry → ℕ
  | resolver _ r => r.size L
  | other x _ => x.size

/-- The number of pointers in its lists. -/
def slots : EncodedEntry → ℕ
  | resolver _ r => r.slots
  | other _ _ => 0

/-- The resolver, if it is one of kind `k`. -/
def ofKind (k : ResolverKind) : EncodedEntry → Option EncodedResolver
  | resolver kind r => if kind = k then some r else none
  | other _ _ => none

/-- The attribute lies at `a`. -/
def At (m : Memory) (a : ℕ) : EncodedEntry → Prop
  | resolver kind r => ResolverKind.ofType (attributeType m a) = some kind ∧ r.At L m a
  | other x _ => x.At m a

end EncodedEntry

namespace EncodedConfig

variable (L : DnsLayout) (c : EncodedConfig)

/-- The resolvers of kind `k`. -/
def resolvers (k : ResolverKind) : List EncodedResolver :=
  c.entries.filterMap (EncodedEntry.ofKind k)

/-- The number of bytes of its attributes: `n_attribute`. -/
def area : ℕ := (c.entries.map (EncodedEntry.size L)).sum

/-- The number of pointers in all lists. -/
def slots : ℕ := (c.resolvers .resolver).length + (c.resolvers .scopedResolver).length +
  (c.resolvers .serviceSpecificResolver).length + (c.entries.map EncodedEntry.slots).sum

/-- The configuration is laid out in the `len` bytes at `a` as documented. -/
structure At (m : Memory) (a len : ℕ) (c : EncodedConfig) : Prop where
  /-- `generation` -/
  generation : m.loadNet (a + L.config.offset .generation) (L.config.width .generation) =
    c.generation
  /-- `version` -/
  version : m.loadNet (a + L.config.offset .version) (L.config.width .version) = c.version
  /-- the lengths of its lists -/
  counts : ∀ k, m.loadNet (a + L.config.offset (.n k)) (L.config.width (.n k)) =
    (c.resolvers k).length
  /-- `n_attribute` -/
  area : m.loadNet (a + L.config.size) 4 = c.area L
  /-- the padding is enough for all lists -/
  padding : pointerSize * c.slots ≤ m.loadNet (a + L.config.size + 4) 4
  /-- the whole buffer -/
  length : len = L.configBufSize + c.area L
  /-- it is not too long -/
  max : len + m.loadNet (a + L.config.size + 4) 4 ≤ dnsConfigBufMax
  /-- its attributes -/
  entries : SequenceAt (EncodedEntry.size L) (EncodedEntry.At L m) (a + L.configBufSize) c.entries

end EncodedConfig

/-! ## Copies -/

section

variable {L : DnsLayout} {m m' : Memory} {a b n : ℕ}

theorem loadNet_of_copyAt (h : m.CopyAt m' a b n) (d w : ℕ) (hd : d + w ≤ n) :
    m'.loadNet (b + d) w = m.loadNet (a + d) w := (h.sub hd).loadNet_eq.symm

/-- What is encoded somewhere is encoded also where it was copied to. -/
theorem EncodedAttribute.At.congr {x : EncodedAttribute} (h : x.At m a)
    (hcopy : m.CopyAt m' a b x.size) : x.At m' b where
  type := by
    rw [← h.type]
    exact loadNet_of_copyAt hcopy 0 4 (by simp only [size, attributeSize]; omega)
  length := by
    rw [← h.length]
    exact loadNet_of_copyAt hcopy 4 4 (by simp only [size, attributeSize]; omega)
  data := h.data.congr (hcopy.sub le_rfl)

theorem EncodedResolver.At.congr {r : EncodedResolver} (h : r.At L m a)
    (hcopy : m.CopyAt m' a b (r.size L)) : r.At L m' b := by
  have hsize : L.resolverBufSize = L.resolver.size + 4 := rfl
  have hfits := L.resolver.fits
  rw [size] at hcopy
  have hload : ∀ d w, d + w ≤ L.resolverBufSize → m'.loadNet (b + attributeSize + d) w =
      m.loadNet (a + attributeSize + d) w := fun d w hd => by
    rw [Nat.add_assoc, Nat.add_assoc]
    exact loadNet_of_copyAt hcopy _ _ (by omega)
  refine ⟨?_, fun s => ?_, fun l => ?_, ?_, h.attributes.congr fun x d hx hd => ?_⟩
  · rw [← h.length]
    exact loadNet_of_copyAt hcopy 4 4 (by simp only [attributeSize]; omega)
  · rw [← h.scalar]
    exact hload _ _ ((hfits _).trans (by omega))
  · rw [← h.counts]
    exact hload _ _ ((hfits _).trans (by omega))
  · rw [← h.area]
    exact hload _ _ (by omega)
  · refine hx.congr ?_
    rw [Nat.add_assoc, Nat.add_assoc, Nat.add_assoc, Nat.add_assoc]
    exact hcopy.sub (by rw [EncodedResolver.area]; omega)

theorem EncodedEntry.At.congr {e : EncodedEntry} (h : e.At L m a)
    (hcopy : m.CopyAt m' a b (e.size L)) : e.At L m' b := by
  cases e with
  | resolver kind r =>
    refine ⟨?_, h.2.congr hcopy⟩
    rw [← h.1]
    refine congrArg _ (loadNet_of_copyAt hcopy 0 4 ?_)
    simp only [size, EncodedResolver.size, attributeSize]
    omega
  | other x _ => exact EncodedAttribute.At.congr h hcopy

/-- A copy of the buffer is laid out as the buffer. -/
theorem EncodedConfig.At.congr {c : EncodedConfig} {len : ℕ} (h : c.At L m a len)
    (hcopy : m.CopyAt m' a b len) : c.At L m' b len := by
  have hsize : L.configBufSize = L.config.size + 8 := rfl
  have hfits := L.config.fits
  have hlength := h.length
  have hpadding : m'.loadNet (b + L.config.size + 4) 4 = m.loadNet (a + L.config.size + 4) 4 := by
    rw [Nat.add_assoc, Nat.add_assoc]
    exact loadNet_of_copyAt hcopy _ _ (by omega)
  refine ⟨?_, ?_, fun k => ?_, ?_, ?_, hlength, ?_, h.entries.congr fun e d he hd => ?_⟩
  · rw [← h.generation]
    exact loadNet_of_copyAt hcopy _ _ ((hfits _).trans (by omega))
  · rw [← h.version]
    exact loadNet_of_copyAt hcopy _ _ ((hfits _).trans (by omega))
  · rw [← h.counts]
    exact loadNet_of_copyAt hcopy _ _ ((hfits _).trans (by omega))
  · rw [← h.area]
    exact loadNet_of_copyAt hcopy _ _ (by omega)
  · rw [hpadding]
    exact h.padding
  · rw [hpadding]
    exact h.max
  · refine he.congr ?_
    rw [Nat.add_assoc, Nat.add_assoc]
    exact hcopy.sub (by rw [EncodedConfig.area] at hlength; omega)

end

/-! ## Tiles -/

section

variable {L : DnsLayout} {m : Memory} {a b : ℕ}

theorem EncodedAttribute.le_size (x : EncodedAttribute) : attributeSize ≤ x.size :=
  Nat.le_add_right _ _

theorem EncodedEntry.le_size (e : EncodedEntry) : attributeSize ≤ e.size L := by
  cases e with
  | resolver kind r =>
    rw [size, EncodedResolver.size, Nat.add_assoc]
    exact Nat.le_add_right _ _
  | other x _ => exact x.le_size

/-- The length that an entry says is the room that it takes. -/
theorem EncodedEntry.At.length {e : EncodedEntry} (h : e.At L m a) :
    attributeLength m a = e.size L := by
  cases e with
  | resolver kind r => exact h.2.length
  | other x _ => exact EncodedAttribute.At.length h

/-- The type in memory is that of the attribute. -/
theorem EncodedAttribute.At.target_eq {x : EncodedAttribute} (h : x.At m a) :
    resolverTarget m a = x.target := by
  rw [resolverTarget, h.type, target]

/-- The entry in memory is a resolver of a kind exactly if what was encoded is. -/
theorem EncodedEntry.At.ofKind_rel {e : EncodedEntry} (h : e.At L m a) (k : ResolverKind) :
    Option.Rel (fun a r => r.At L m a)
      (Option.guard (fun a => decide (ResolverKind.ofType (attributeType m a) = some k)) a)
      (e.ofKind k) := by
  cases e with
  | resolver kind r =>
    obtain ⟨htype, hr⟩ := h
    rw [ofKind, Option.guard, htype]
    by_cases hk : kind = k
    · simpa [hk] using Option.Rel.some hr
    · simp [hk]
  | other x hother =>
    rw [ofKind, Option.guard, EncodedAttribute.At.type h, hother]
    simp

/-! ### Resolvers -/

namespace EncodedResolver.At

variable {r : EncodedResolver} (h : r.At L m a)

include h

/-- Its attributes tile the attribute that holds it. -/
theorem walk : AttributeWalk m (a + attributeLength m a) (a + attributeSize + L.resolverBufSize)
    (addresses EncodedAttribute.size (a + attributeSize + L.resolverBufSize) r.attributes)
    (a + attributeLength m a) := by
  have hend : a + attributeLength m a = a + attributeSize + L.resolverBufSize +
      (r.attributes.map EncodedAttribute.size).sum := by
    rw [h.length, size, EncodedResolver.area]
    omega
  rw [hend]
  exact h.attributes.walk (fun _ x hx => ⟨hx.length, x.le_size⟩) le_rfl

/-- Its attributes. -/
theorem resolverAttributes_eq : resolverAttributes L m a =
    addresses EncodedAttribute.size (a + attributeSize + L.resolverBufSize) r.attributes :=
  h.walk.complete (Nat.lt_add_of_pos_right (by decide))

/-- The attributes that the parser walks over are those that were encoded. -/
theorem forall₂_attributes :
    List.Forall₂ (EncodedAttribute.At m) (resolverAttributes L m a) r.attributes := by
  rw [h.resolverAttributes_eq]
  exact h.attributes.forall₂

/-- Its attributes for a list. -/
theorem forall₂_list (l : ResolverList) :
    List.Forall₂ (DataAt m) (ofList m l (resolverAttributes L m a)) (r.list l) := by
  rw [list, List.forall₂_map_right_iff]
  refine (List.rel_filter (fun b x hx => ?_) h.forall₂_attributes).imp fun _ _ hx => hx.dataAt
  simp [EncodedAttribute.At.target_eq hx]

/-- The attribute for a field. -/
theorem rel_field (f : ResolverField) :
    Option.Rel (DataAt m) (lastFor m f (resolverAttributes L m a)) (r.field f) := by
  refine rel_getLast? ?_
  rw [List.forall₂_map_right_iff]
  refine (List.rel_filter (fun b x hx => ?_) h.forall₂_attributes).imp fun _ _ hx => hx.dataAt
  simp [EncodedAttribute.At.target_eq hx]

/-- The parser counts what was encoded. -/
theorem resolverCounts_eq (l : ResolverList) : resolverCounts L m a l = (r.list l).length := by
  have hcounts := h.counts l
  rw [L.resolver_width] at hcounts
  rw [resolverCounts, StructLayout.values, L.resolver_width]
  exact (ntohl_load _ _).trans hcounts

/-- The attributes fill the resolver. -/
theorem tiled : ResolverTiled L m a where
  fits := by
    rw [h.length, size]
    exact Nat.le_add_right _ _
  area := by
    rw [h.area, h.length, size]
    omega
  tiles := ⟨_, h.walk⟩
  long := forall_mem_of_forall₂ h.forall₂_attributes fun b x hx => by
    rw [hx.length]
    exact x.le_size
  counts l := by rw [h.resolverCounts_eq, (h.forall₂_list l).length_eq]

end EncodedResolver.At

/-! ### Entries -/

namespace EncodedEntry.At

variable {e : EncodedEntry} (h : e.At L m a)

include h

/-- The lists of the attribute are as long as they should be. -/
theorem resolverSlots_eq : resolverSlots L m a = e.slots := by
  cases e with
  | resolver kind r =>
    have hcounts := h.2.resolverCounts_eq
    rw [resolverSlots, if_pos (holdsResolver_of h.1), hcounts, hcounts, hcounts]
    rfl
  | other x hother =>
    refine if_neg ?_
    rw [HoldsResolver, EncodedAttribute.At.type h, hother]
    decide

/-- A resolver is laid out as documented. -/
theorem tiled (hholds : HoldsResolver m a) : ResolverTiled L m a := by
  cases e with
  | resolver kind r => exact h.2.tiled
  | other x hother =>
    rw [HoldsResolver, EncodedAttribute.At.type h, hother] at hholds
    exact absurd hholds (by decide)

end EncodedEntry.At

/-! ### Configurations -/

namespace EncodedConfig.At

variable {c : EncodedConfig} {reg : Region} {dataLen : ℕ} (h : c.At L m reg.start dataLen)

include h

/-- The attributes tile the buffer. -/
theorem walk : AttributeWalk m (reg.start + dataLen) (reg.start + L.configBufSize)
    (addresses (EncodedEntry.size L) (reg.start + L.configBufSize) c.entries)
    (reg.start + dataLen) := by
  have hend : reg.start + dataLen =
      reg.start + L.configBufSize + (c.entries.map (EncodedEntry.size L)).sum := by
    rw [h.length, EncodedConfig.area, Nat.add_assoc]
  rw [hend]
  exact h.entries.walk (fun _ e he => ⟨he.length, e.le_size⟩) le_rfl

/-- The attributes. -/
theorem forall₂_entries :
    List.Forall₂ (fun a e => EncodedEntry.At L m a e) (configAttributes L reg dataLen m)
      c.entries := by
  have hall : configAttributes L reg dataLen m =
      addresses (EncodedEntry.size L) (reg.start + L.configBufSize) c.entries :=
    h.walk.complete (Nat.lt_add_of_pos_right (by decide))
  rw [hall]
  exact h.entries.forall₂

/-- The resolvers of a kind. -/
theorem forall₂_ofKind (k : ResolverKind) :
    List.Forall₂ (fun a r => EncodedResolver.At L m a r)
      (ofKind m k (configAttributes L reg dataLen m)) (c.resolvers k) := by
  have hrel : (Relator.LiftFun (EncodedEntry.At L m) (Option.Rel (EncodedResolver.At L m)))
      (Option.guard fun a => decide (ResolverKind.ofType (attributeType m a) = some k))
      (EncodedEntry.ofKind k) := fun a e he => he.ofKind_rel k
  have hforall := List.rel_filterMap hrel h.forall₂_entries
  rw [List.filterMap_eq_filter] at hforall
  exact hforall

/-- The parser counts the resolvers that were encoded. -/
theorem configCounts_eq (k : ResolverKind) : configCounts L reg m k = (c.resolvers k).length := by
  have hcounts := h.counts k
  rw [L.config_width] at hcounts
  rw [configCounts, StructLayout.values, L.config_width]
  exact (ntohl_load _ _).trans hcounts

/-- The number of pointers in the lists of the resolvers. -/
theorem map_resolverSlots : (configAttributes L reg dataLen m).map (resolverSlots L m) =
    c.entries.map EncodedEntry.slots := by
  rw [← List.forall₂_eq_eq_eq, List.forall₂_map_left_iff, List.forall₂_map_right_iff]
  exact h.forall₂_entries.imp fun _ _ he => he.resolverSlots_eq

/-- **What is laid out as documented tiles the buffer.** -/
theorem tiled : ConfigTiled L reg dataLen m where
  tiles := ⟨_, h.walk⟩
  long := forall_mem_of_forall₂ h.forall₂_entries fun a e he => by
    rw [he.length]
    exact e.le_size
  counts k := by rw [h.configCounts_eq, (h.forall₂_ofKind k).length_eq]
  resolvers := forall_mem_of_forall₂ h.forall₂_entries fun _ _ he => he.tiled
  padding := by
    rw [h.map_resolverSlots, configSlots, h.configCounts_eq, h.configCounts_eq, h.configCounts_eq]
    exact h.padding

end EncodedConfig.At

end

end ConfigdExtra
