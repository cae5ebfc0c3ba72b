import ConfigdExtra.DnsTiles

/-!
# The lists of a DNS configuration that is laid out as documented

Where the lists of pointers are while the configuration is expanded, and what they hold.

* `ListAt` — a list of pointers in the space that was claimed for it.
* `ResolverLaid`, `ListsLaid` — the lists as far as they are filled.
* `ListsLaid.of_header`, `ListsLaid.of_list` — writing to the next resolver and to its lists leaves
  the lists of what comes before.
* `NextEntry`, `BusyEntry`, `NextAttribute` — what the loops come to next.
-/

namespace ConfigdExtra

open Memory (pointerSize)
open Program (Reaches)

/-! ## Lists -/

/-- `list` is a list of pointers to the data of the attributes `as`, in the space `claim`. -/
structure ListAt (mem : Memory) (list : ℕ) (claim : Claim) (as : List ℕ) : Prop where
  /-- where it is -/
  list_eq : list = claim.list
  /-- there is space for it -/
  room : pointerSize * as.length ≤ claim.need
  /-- the pointers -/
  pointers : mem.PointersAt claim.start (as.map (· + attributeSize))

namespace ListAt

variable {mem mem' : Memory} {list a : ℕ} {claim : Claim} {as : List ℕ}

/-- An empty list is anywhere. -/
theorem nil (mem : Memory) (claim : Claim) : ListAt mem claim.list claim [] :=
  ⟨rfl, Nat.zero_le _, trivial⟩

/-- A list stays where the memory of its claim stays. -/
theorem congr (h : ListAt mem list claim as) (heq : mem.EqOn mem' claim.start claim.need) :
    ListAt mem' list claim as where
  list_eq := h.list_eq
  room := h.room
  pointers := h.pointers.congr (heq.sub le_rfl (by
    rw [List.length_map]
    exact Nat.add_le_add_left h.room _))

/-- A list with space for one more pointer begins where its space does. -/
theorem eq_start (h : ListAt mem list claim as)
    (hroom : pointerSize * (as.length + 1) ≤ claim.need) : list = claim.start := by
  rw [h.list_eq, Claim.list, if_neg]
  simp only [pointerSize] at hroom
  omega

/-- One more pointer. -/
theorem concat (h : ListAt mem list claim as)
    (hroom : pointerSize * (as.length + 1) ≤ claim.need) (ha : a + attributeSize < 2 ^ 64) :
    ListAt (mem.store (list + pointerSize * as.length) pointerSize (a + attributeSize)) list claim
      (as ++ [a]) where
  list_eq := h.list_eq
  room := by
    rw [List.length_append]
    exact hroom
  pointers := by
    have hconcat := h.pointers.concat ha
    rw [List.length_map] at hconcat
    rw [h.eq_start hroom, List.map_append]
    exact hconcat

end ListAt

/-! ## The invariant -/

section

variable (L : DnsLayout) (reg : Region) (dataLen : ℕ) (m mem : Memory)

/-- The lists of the resolver at `a`, which comes after others, point to its attributes `seen`. -/
def ResolverLaid (before : List ℕ) (a : ℕ) (seen : List ℕ) : Prop :=
  ∀ l, ListAt mem (L.resolver.values mem (a + attributeSize) (.list l))
    (resolverClaim L reg m before a l) (ofList m l seen)

/-- The lists after the attributes `done` of a configuration. -/
structure ListsLaid (done : List ℕ) : Prop where
  /-- those of the configuration -/
  config : ∀ k, ListAt mem (L.config.values mem reg.start (.list k)) (configClaim L reg m k)
    (ofKind m k done)
  /-- those of its resolvers -/
  resolvers : ∀ before a after, done = before ++ a :: after → HoldsResolver m a →
    ResolverLaid L reg m mem before a (resolverAttributes L m a)

/-- `done` are the attributes of the configuration up to `front`. -/
def ConfigWalk (done : List ℕ) (front : ℕ) : Prop :=
  AttributeWalk m (reg.start + dataLen) (reg.start + L.configBufSize) done front

/-- `seen` are the attributes of the resolver at `a` up to `front`. -/
def ResolverWalk (a : ℕ) (seen : List ℕ) (front : ℕ) : Prop :=
  AttributeWalk m (a + attributeLength m a) (a + attributeSize + L.resolverBufSize) seen front

end

/-! ## One more attribute -/

section

variable {L : DnsLayout} {reg : Region} {m mem : Memory} {as done : List ℕ} {a : ℕ}
  {k : ResolverKind} {l : ResolverList}

/-- One resolver more in the list of its kind. -/
theorem ofKind_concat_of_eq (h : ResolverKind.ofType (attributeType m a) = some k) :
    ofKind m k (as ++ [a]) = ofKind m k as ++ [a] := by
  rw [ofKind, List.filter_append, List.filter_cons_of_pos (by simpa using h)]
  rfl

/-- The lists of the other kinds stay. -/
theorem ofKind_concat_of_ne (h : ResolverKind.ofType (attributeType m a) ≠ some k) :
    ofKind m k (as ++ [a]) = ofKind m k as := by
  rw [ofKind, List.filter_append, List.filter_cons_of_neg (by simpa using h), List.filter_nil,
    List.append_nil]
  rfl

/-- One attribute more in the list of its type. -/
theorem ofList_concat_of_eq (h : resolverTarget m a = some (.list l)) :
    ofList m l (as ++ [a]) = ofList m l as ++ [a] := by
  rw [ofList, List.filter_append, List.filter_cons_of_pos (by simpa using h)]
  rfl

/-- The lists of the other types stay. -/
theorem ofList_concat_of_ne (h : resolverTarget m a ≠ some (.list l)) :
    ofList m l (as ++ [a]) = ofList m l as := by
  rw [ofList, List.filter_append, List.filter_cons_of_neg (by simpa using h), List.filter_nil,
    List.append_nil]
  rfl

/-- One more attribute of the configuration. -/
theorem ListsLaid.concat
    (hdone : ∀ before x after, done = before ++ x :: after → HoldsResolver m x →
      ResolverLaid L reg m mem before x (resolverAttributes L m x))
    (hconfig : ∀ k, ListAt mem (L.config.values mem reg.start (.list k)) (configClaim L reg m k)
      (ofKind m k (done ++ [a])))
    (hresolver : HoldsResolver m a →
      ResolverLaid L reg m mem done a (resolverAttributes L m a)) :
    ListsLaid L reg m mem (done ++ [a]) where
  config := hconfig
  resolvers before x after heq hholds := by
    rcases List.eq_nil_or_concat after with rfl | ⟨after, y, rfl⟩
    · obtain ⟨rfl, hx⟩ := List.append_inj' heq rfl
      obtain rfl := List.singleton_inj.mp hx
      exact hresolver hholds
    · rw [List.concat_eq_append, ← List.cons_append, ← List.append_assoc] at heq
      exact hdone before x after (List.append_inj' heq rfl).1 hholds

end

/-! ## Documented buffers -/

section

variable {L : DnsLayout} {data m mem mem' : Memory} {dataRef dataLen : ℕ} {reg : Region}
  (haccepted : Accepted L data dataRef dataLen reg m) (htiled : ConfigTiled L reg dataLen m)

/-! ### Padding -/

include haccepted in
/-- Where the padding is, and how long. -/
theorem padding_facts : (wholePadding L reg m).ptr = reg.start + dataLen ∧
    (wholePadding L reg m).n = m.loadNet (reg.start + L.config.size + 4) 4 ∧
    reg.stop = reg.start + dataLen + m.loadNet (reg.start + L.config.size + 4) 4 ∧
    m.loadNet (reg.start + L.config.size + 4) 4 ≤ dnsConfigBufMax := by
  obtain ⟨hptr, hend⟩ := haccepted.wholePadding_eq
  have hsize := haccepted.size_le_max
  have hstop : reg.stop = reg.start + reg.size := rfl
  have hn : (wholePadding L reg m).n = m.loadNet (reg.start + L.config.size + 4) 4 := rfl
  refine ⟨hptr, hn, by omega, by omega⟩

include haccepted htiled in
/-- There is padding for all lists, and their sizes do not wrap. -/
theorem slots_lt : configSlots L reg m +
    ((configAttributes L reg dataLen m).map (resolverSlots L m)).sum < 2 ^ 29 := by
  obtain ⟨-, -, -, hmax⟩ := padding_facts haccepted
  have hpadding := htiled.padding
  simp only [pointerSize, dnsConfigBufMax] at hpadding hmax
  omega

include haccepted htiled in
/-- The padding behind some attributes is enough for the others. -/
theorem paddingAfter_facts {done rest : List ℕ}
    (hall : configAttributes L reg dataLen m = done ++ rest) :
    reg.start + dataLen ≤ (paddingAfter L reg m done).ptr ∧
      (paddingAfter L reg m done).ptr + (paddingAfter L reg m done).n = reg.stop ∧
      pointerSize * (rest.map (resolverSlots L m)).sum ≤ (paddingAfter L reg m done).n := by
  obtain ⟨hptr, hn, hstop, -⟩ := padding_facts haccepted
  have hlt := slots_lt haccepted htiled
  have hpadding := htiled.padding
  rw [hall, List.map_append, List.sum_append] at hlt hpadding
  rw [paddingAfter_eq (by omega), hptr, hn, hstop]
  simp only [pointerSize] at hpadding ⊢
  omega

include haccepted htiled in
/-- The counts of a resolver are small, since each took an attribute. So eight bytes for each of
them do not wrap around. -/
theorem resolverCounts_lt {a : ℕ} (ha : a ∈ configAttributes L reg dataLen m)
    (hholds : HoldsResolver m a) :
    resolverCounts L m a .nameserver + resolverCounts L m a .search +
      resolverCounts L m a .sortaddr < 2 ^ 29 := by
  have hlt := slots_lt haccepted htiled
  have hle := List.single_le_sum (fun _ _ => Nat.zero_le _) _
    (List.mem_map_of_mem (f := resolverSlots L m) ha)
  have hslots : resolverSlots L m a = resolverCounts L m a .nameserver +
    resolverCounts L m a .search + resolverCounts L m a .sortaddr := if_pos hholds
  omega

include haccepted htiled in
/-- The space for a list of a resolver is just what it needs. -/
theorem resolverClaim_need (before : List ℕ) {a : ℕ}
    (ha : a ∈ configAttributes L reg dataLen m) (hholds : HoldsResolver m a) (l : ResolverList) :
    (resolverClaim L reg m before a l).need =
      pointerSize * (ofList m l (resolverAttributes L m a)).length := by
  have hlt := resolverCounts_lt haccepted htiled ha hholds
  obtain ⟨-, -, hneed⟩ :=
    resolverClaims_bounds (paddingAfter L reg m before) (resolverCounts L m a) l
  rw [resolverClaim, hneed, listNeed_eq (by cases l <;> omega),
    (htiled.resolvers a ha hholds).counts]

include haccepted htiled in
/-- The space for a list of the configuration is just what it needs. -/
theorem configClaim_need (k : ResolverKind) : (configClaim L reg m k).need =
    pointerSize * (ofKind m k (configAttributes L reg dataLen m)).length := by
  have hlt := slots_lt haccepted htiled
  rw [configSlots] at hlt
  obtain ⟨-, -, hneed⟩ := configClaims_bounds (wholePadding L reg m) (configCounts L reg m) k
  rw [configClaim, hneed, listNeed_eq (by cases k <;> omega), htiled.counts]

include haccepted in
/-- The lists of the configuration are in front of those of its resolvers. -/
theorem configClaim_bounds (k : ResolverKind) (as : List ℕ) :
    reg.start + dataLen ≤ (configClaim L reg m k).start ∧
      (configClaim L reg m k).stop ≤ (paddingAfter L reg m as).ptr := by
  obtain ⟨hptr, -, -, -⟩ := padding_facts haccepted
  obtain ⟨hlo, hhi, -⟩ := configClaims_bounds (wholePadding L reg m) (configCounts L reg m) k
  refine ⟨hptr ▸ hlo, hhi.trans ?_⟩
  exact paddingAfter_le_append [] as

include haccepted in
/-- All lists are behind the attributes. -/
theorem le_paddingAfter (as : List ℕ) : reg.start + dataLen ≤ (paddingAfter L reg m as).ptr := by
  obtain ⟨hlo, hhi⟩ := configClaim_bounds haccepted .resolver as
  exact (hlo.trans (Nat.le_add_right _ _)).trans hhi

/-! ### Frames -/

/-- The lists stay as they are when nothing is written to them and to the headers. -/
theorem ListsLaid.congr {done : List ℕ} (h : ListsLaid L reg m mem done)
    (hconfig : mem.EqOn mem' reg.start L.config.size)
    (hclaim : ∀ k, mem.EqOn mem' (configClaim L reg m k).start (configClaim L reg m k).need)
    (hheader : ∀ a ∈ done, HoldsResolver m a → mem.EqOn mem' (a + attributeSize) L.resolver.size)
    (hlists : ∀ before a after, done = before ++ a :: after → HoldsResolver m a → ∀ l,
      mem.EqOn mem' (resolverClaim L reg m before a l).start
        (resolverClaim L reg m before a l).need) :
    ListsLaid L reg m mem' done where
  config k := by
    rw [← StructLayout.values_eq hconfig]
    exact (h.config k).congr (hclaim k)
  resolvers before a after heq hholds l := by
    rw [← StructLayout.values_eq (hheader a (by simp [heq]) hholds)]
    exact (h.resolvers before a after heq hholds l).congr (hlists before a after heq hholds l)

/-- The headers of resolvers that come before the attribute at `front`. -/
theorem ConfigTiled.header_le {done rest : List ℕ} {front a : ℕ}
    (h : ConfigTiled L reg dataLen m) (hall : configAttributes L reg dataLen m = done ++ rest)
    (hwalk : ConfigWalk L reg dataLen m done front) (ha : a ∈ done) (hholds : HoldsResolver m a) :
    reg.start + L.configBufSize ≤ a ∧ a + attributeSize + L.resolver.size ≤ front := by
  obtain ⟨hlo, -, hhi⟩ := hwalk.mem_bounds ha
  have hfits := (h.resolvers a (by simp [hall, ha]) hholds).fits
  have hsize : L.resolverBufSize = L.resolver.size + 4 := rfl
  omega

include haccepted htiled in
/-- Writing to the header of the next resolver leaves the lists. -/
theorem ListsLaid.of_header {done rest : List ℕ} {a : ℕ} (h : ListsLaid L reg m mem done)
    (hall : configAttributes L reg dataLen m = done ++ rest)
    (hwalk : ConfigWalk L reg dataLen m done a)
    (hstop : a + attributeSize + L.resolver.size ≤ reg.start + dataLen)
    (hframe : ∀ b n, b + n ≤ a + attributeSize ∨ a + attributeSize + L.resolver.size ≤ b →
      mem.EqOn mem' b n) : ListsLaid L reg m mem' done := by
  have hconfig : L.configBufSize = L.config.size + 8 := rfl
  have hlo := hwalk.le
  refine h.congr (hframe _ _ (.inl (by omega))) (fun k => hframe _ _ (.inr ?_))
    (fun x hx hholds => hframe _ _ (.inl ?_)) fun before x after heq hholds l =>
      hframe _ _ (.inr ?_)
  · exact hstop.trans (configClaim_bounds haccepted k []).1
  · obtain ⟨-, hle⟩ := htiled.header_le hall hwalk hx hholds
    omega
  · obtain ⟨hclaim, -⟩ := resolverClaim_bounds L reg before after hholds l
    exact (hstop.trans (le_paddingAfter haccepted before)).trans hclaim

include haccepted htiled in
/-- Writing to the lists of the next resolver leaves the others. -/
theorem ListsLaid.of_list {done rest : List ℕ} {front : ℕ} (h : ListsLaid L reg m mem done)
    (hall : configAttributes L reg dataLen m = done ++ rest)
    (hwalk : ConfigWalk L reg dataLen m done front) (hfront : front ≤ reg.start + dataLen)
    (hframe : ∀ b n, b + n ≤ (paddingAfter L reg m done).ptr → mem.EqOn mem' b n) :
    ListsLaid L reg m mem' done := by
  have hconfig : L.configBufSize = L.config.size + 8 := rfl
  have hlo := hwalk.le
  have hpadding := le_paddingAfter haccepted (L := L) (m := m) done
  refine h.congr (hframe _ _ (by omega))
    (fun k => hframe _ _ (configClaim_bounds haccepted k done).2)
    (fun x hx hholds => hframe _ _ ?_) fun before x after heq hholds l => hframe _ _ ?_
  · obtain ⟨-, hle⟩ := htiled.header_le hall hwalk hx hholds
    omega
  · rw [heq]
    exact (resolverClaim_bounds _ _ _ _ hholds l).2

end

/-! ## What is next -/

section

variable (L : DnsLayout) (reg : Region) (dataLen : ℕ) (m mem : Memory)

/-- The attribute of the configuration at `c`, after `done` and in front of `rest`. -/
structure NextEntry (c : ConfigLoop) (done rest : List ℕ) : Prop where
  /-- what came before -/
  kept : ConfigKept L reg dataLen m mem c.claim c.count done c.attributePtr done
  /-- where it is -/
  all : configAttributes L reg dataLen m = done ++ c.attributePtr :: rest
  /-- it is within what remains -/
  within : c.attributePtr + attributeLength m c.attributePtr ≤ reg.start + dataLen
  /-- it is not shorter than its header -/
  long : attributeSize ≤ attributeLength m c.attributePtr
  /-- its header is untouched -/
  eqOn : m.EqOn mem c.attributePtr attributeSize

/-- The resolver at `c`, after `done` and in front of `rest`. -/
structure BusyEntry (c : ConfigLoop) (k : ResolverKind) (v : ResolverLoop)
    (done rest seen : List ℕ) (front : ℕ) : Prop where
  /-- what came before -/
  busy : ResolverBusy L reg dataLen m mem c k v done seen front
  /-- where it is -/
  all : configAttributes L reg dataLen m = done ++ c.attributePtr :: rest
  /-- it is within what remains -/
  within : c.attributePtr + attributeLength m c.attributePtr ≤ reg.start + dataLen

/-- The attribute of a resolver at `v`, after `seen` and in front of `left`. -/
structure NextAttribute (c : ConfigLoop) (v : ResolverLoop) (seen left : List ℕ) : Prop where
  /-- where it is -/
  all : resolverAttributes L m c.attributePtr = seen ++ v.attributePtr :: left
  /-- it is within what remains -/
  within : v.attributePtr + attributeLength m v.attributePtr ≤
    c.attributePtr + attributeLength m c.attributePtr
  /-- it is not shorter than its header -/
  long : attributeSize ≤ attributeLength m v.attributePtr
  /-- its header is untouched -/
  eqOn : m.EqOn mem v.attributePtr attributeSize

end

section

variable {L : DnsLayout} {data m mem mem' : Memory} {dataRef dataLen : ℕ} {reg : Region}
  {c : ConfigLoop} {k : ResolverKind} {v : ResolverLoop} {done rest seen left : List ℕ} {front : ℕ}
  (haccepted : Accepted L data dataRef dataLen reg m) (htiled : ConfigTiled L reg dataLen m)

include htiled in
/-- A turn of the outer loop is at an entry of the configuration. -/
theorem exists_nextEntry (hscan : ConfigScanned L reg dataLen c)
    (hkept : Kept L reg dataLen m mem (.config c)) (hc : attributeSize ≤ c.nAttribute) :
    ∃ done rest, NextEntry L reg dataLen m mem c done rest := by
  obtain ⟨-, done, hdone⟩ := hkept
  have hhi := hscan.hi
  obtain ⟨rest, hall, hwalk⟩ := hdone.walk.exists_append htiled.tiles.walk
  obtain ⟨rest, rfl, hwithin, -⟩ := hwalk.exists_cons (by omega)
  exact ⟨done, rest, hdone, hall, hwithin, htiled.long _ (by simp [configAttributes, hall]),
    hdone.eqOn le_rfl (by omega)⟩

include htiled in
/-- A turn of the inner loop is inside of one. -/
theorem exists_busyEntry (hscan : Scanned L reg dataLen (.resolver c k v))
    (hkept : Kept L reg dataLen m mem (.resolver c k v)) :
    ∃ done rest seen, BusyEntry L reg dataLen m mem c k v done rest seen v.attributePtr := by
  obtain ⟨-, done, seen, hbusy⟩ := hkept
  have hhi := hscan.1.hi
  have hpasses := hscan.2.passes
  have hfits := hbusy.header.fits
  have hlength := hbusy.length
  obtain ⟨rest, hall, hwalk⟩ := hbusy.config.walk.exists_append htiled.tiles.walk
  obtain ⟨rest, rfl, hwithin, -⟩ := hwalk.exists_cons (by omega)
  exact ⟨done, rest, seen, hbusy, hall, hwithin⟩

namespace BusyEntry

variable (h : BusyEntry L reg dataLen m mem c k v done rest seen front)

include h in
theorem mem_all : c.attributePtr ∈ configAttributes L reg dataLen m := by simp [h.all]

include h in
theorem walk : ResolverWalk L m c.attributePtr seen front := by
  have hwalk := h.busy.walk
  rw [h.busy.length] at hwalk
  exact hwalk

include h htiled in
theorem tiled : ResolverTiled L m c.attributePtr :=
  htiled.resolvers _ h.mem_all h.busy.holds

include h in
/-- There is space for the resolver in the list for its kind. -/
theorem room (hneed : (configClaim L reg m k).need =
    pointerSize * (ofKind m k (configAttributes L reg dataLen m)).length) :
    pointerSize * ((ofKind m k done).length + 1) ≤ (configClaim L reg m k).need := by
  rw [hneed, h.all, ofKind, ofKind, List.filter_append, List.length_append,
    List.filter_cons_of_pos (by simpa using h.busy.kind), List.length_cons]
  exact Nat.mul_le_mul_left _ (by omega)

end BusyEntry

include htiled in
/-- And it is at an attribute of it. -/
theorem exists_nextAttribute (hscan : Scanned L reg dataLen (.resolver c k v))
    (hkept : Kept L reg dataLen m mem (.resolver c k v)) (hv : attributeSize ≤ v.nAttribute) :
    ∃ done rest seen left, BusyEntry L reg dataLen m mem c k v done rest seen v.attributePtr ∧
      NextAttribute L m mem c v seen left := by
  obtain ⟨done, rest, seen, h⟩ := exists_busyEntry htiled hscan hkept
  have hend := hscan.2.hi
  have hfills := hscan.2.fills
  have hlength := h.busy.length
  have hwithin := h.within
  obtain ⟨left, hall, hwalk⟩ := h.walk.exists_append (h.tiled htiled).tiles.walk
  obtain ⟨left, rfl, hnext, -⟩ := hwalk.exists_cons (by omega)
  exact ⟨done, rest, seen, left, h, hall, hnext,
    (h.tiled htiled).long _ (by simp [resolverAttributes, hall]),
    h.busy.eqOn le_rfl (by omega)⟩

/-- At the end of a resolver all its attributes have been seen. -/
theorem BusyEntry.seen_eq
    (h : BusyEntry L reg dataLen m mem c k v done rest seen v.attributePtr)
    (hstop : c.attributePtr + c.length < v.attributePtr + attributeSize) :
    resolverAttributes L m c.attributePtr = seen := by
  rw [h.busy.length] at hstop
  exact h.walk.complete hstop

/-- There is space for the attribute in its list. -/
theorem NextAttribute.room (h : NextAttribute L m mem c v seen left) {l : ResolverList}
    {claim : Claim} (htarget : resolverTarget m v.attributePtr = some (.list l))
    (hneed : claim.need =
      pointerSize * (ofList m l (resolverAttributes L m c.attributePtr)).length) :
    pointerSize * ((ofList m l seen).length + 1) ≤ claim.need := by
  rw [hneed, h.all, ofList, ofList, List.filter_append, List.length_append,
    List.filter_cons_of_pos (by simpa using htarget), List.length_cons]
  exact Nat.mul_le_mul_left _ (by omega)

/-- A list with space for one more pointer, in the padding: it is there, and so is the slot. -/
theorem ListAt.slot {list : ℕ} {claim : Claim} {as : List ℕ} (h : ListAt mem list claim as)
    (hroom : pointerSize * (as.length + 1) ≤ claim.need) :
    claim.start ≤ list + pointerSize * as.length ∧
      list + pointerSize * as.length + pointerSize ≤ claim.stop := by
  rw [h.eq_start hroom, Claim.stop]
  simp only [pointerSize] at hroom ⊢
  omega

include haccepted htiled in
/-- The lists of the configuration are in the padding. -/
theorem configClaim_stop (k : ResolverKind) : (configClaim L reg m k).stop ≤ reg.stop := by
  obtain ⟨-, hend, -⟩ := paddingAfter_facts haccepted htiled (List.append_nil _).symm
  obtain ⟨-, hhi⟩ := configClaim_bounds haccepted k (configAttributes L reg dataLen m)
  omega

include haccepted htiled in
/-- The lists of a resolver are in the padding. -/
theorem resolverClaim_stop {a : ℕ} (hall : configAttributes L reg dataLen m = done ++ a :: rest)
    (hholds : HoldsResolver m a) (l : ResolverList) :
    reg.start + dataLen ≤ (resolverClaim L reg m done a l).start ∧
      (resolverClaim L reg m done a l).stop ≤ reg.stop := by
  obtain ⟨-, hend, -⟩ := paddingAfter_facts haccepted htiled (List.append_nil _).symm
  obtain ⟨hlo, hhi⟩ := resolverClaim_bounds L reg done rest hholds l
  rw [← hall] at hhi
  exact ⟨(le_paddingAfter haccepted done).trans hlo, by omega⟩

end

end ConfigdExtra
