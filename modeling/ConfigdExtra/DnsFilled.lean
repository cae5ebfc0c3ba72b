import ConfigdExtra.DnsLists

/-!
# Filling the lists of a DNS configuration

The expansion of a configuration that is laid out as documented never fails, and each list gets the
pointers it should.

* `Laid` — the lists are filled as far as the expansion is.
* `proceeds_of_laid`, `laid_step` — the next step does not fail, and fills the lists further.
* `exists_returned` — the configuration is returned, with all lists.
-/

namespace ConfigdExtra

open Memory (pointerSize)
open Program (Reaches)

/-! ## The invariant -/

section

variable (L : DnsLayout) (reg : Region) (dataLen : ℕ) (m mem : Memory)

/-- The lists of the resolver at `a` and of what comes before it, up to its attribute at
`front`. -/
def BusyLaid (padding : Padding) (a front : ℕ) : Prop :=
  ∀ done seen, ConfigWalk L reg dataLen m done a → ResolverWalk L m a seen front →
    padding = paddingAfter L reg m (done ++ [a]) ∧ ListsLaid L reg m mem done ∧
      ResolverLaid L reg m mem done a seen

/-- The lists are filled as far as the expansion is, and it has not failed. -/
def Laid : Point → Prop
  | .config c => ∀ done, ConfigWalk L reg dataLen m done c.attributePtr →
      c.padding = paddingAfter L reg m done ∧ ListsLaid L reg m mem done
  | .configNext c => attributeSize ≤ c.length ∧
      ∀ done, ConfigWalk L reg dataLen m done (c.attributePtr + c.length) →
        c.padding = paddingAfter L reg m done ∧ ListsLaid L reg m mem done
  | .resolver c _ v => BusyLaid L reg dataLen m mem c.padding c.attributePtr v.attributePtr
  | .resolverNext c _ v => attributeSize ≤ v.length ∧
      BusyLaid L reg dataLen m mem c.padding c.attributePtr (v.attributePtr + v.length)
  | .returned result => result = some reg.start ∧
      (∃ claim count, ConfigKept L reg dataLen m mem claim count
        (configAttributes L reg dataLen m) (reg.start + dataLen)
        (configAttributes L reg dataLen m)) ∧
      ListsLaid L reg m mem (configAttributes L reg dataLen m)
  | .crashed => False

end

section

variable {L : DnsLayout} {data m mem mem' : Memory} {dataRef dataLen : ℕ} {reg : Region}
  {c : ConfigLoop} {k : ResolverKind} {v : ResolverLoop} {done rest seen left : List ℕ} {front : ℕ}
  (haccepted : Accepted L data dataRef dataLen reg m) (htiled : ConfigTiled L reg dataLen m)

/-! ## Steps that do not fail -/

include haccepted htiled in
/-- The header of a resolver can be expanded. -/
theorem NextEntry.resolverFits (h : NextEntry L reg dataLen m mem c done rest)
    (hpadding : c.padding = paddingAfter L reg m done)
    (hholds : HoldsResolver m c.attributePtr) :
    ResolverFits L reg mem (c.attributePtr + attributeSize)
      (sub32 (attributeLength m c.attributePtr) attributeSize) c.padding := by
  have hresolver := htiled.resolvers c.attributePtr (by simp [h.all]) hholds
  have hsize : L.resolverBufSize = L.resolver.size + 4 := rfl
  have hstop : reg.stop = reg.start + reg.size := rfl
  have hfits := hresolver.fits
  have hwithin := h.within
  have hle := haccepted.size_le
  have hlo := h.kept.walk.le
  have hlength := attributeLength_lt m c.attributePtr
  have heq : m.EqOn mem (c.attributePtr + attributeSize) L.resolverBufSize :=
    h.kept.eqOn (Nat.le_add_right _ _) (by omega)
  have hvalues : L.resolver.values mem (c.attributePtr + attributeSize) =
      L.resolver.values m (c.attributePtr + attributeSize) :=
    (StructLayout.values_eq (heq.sub le_rfl (by omega))).symm
  rw [sub32_of_le h.long hlength]
  refine ⟨by omega, ⟨by omega, by omega⟩, ?_, ?_⟩
  · obtain ⟨-, -, hspace⟩ := paddingAfter_facts haccepted htiled h.all
    have hlt := resolverCounts_lt haccepted htiled (a := c.attributePtr) (by simp [h.all]) hholds
    have hslots : resolverSlots L m c.attributePtr = resolverCounts L m c.attributePtr .nameserver +
      resolverCounts L m c.attributePtr .search + resolverCounts L m c.attributePtr .sortaddr :=
      if_pos hholds
    have hcounts : ∀ l, ntohl (L.resolver.values m (c.attributePtr + attributeSize) (.n l)) =
      resolverCounts L m c.attributePtr l := fun l => rfl
    rw [List.map_cons, List.sum_cons] at hspace
    rw [hvalues, hcounts, hcounts, hcounts, listNeed_eq (by omega), listNeed_eq (by omega),
      listNeed_eq (by omega), hpadding]
    simp only [pointerSize] at hspace ⊢
    omega
  · rw [sub32_of_le (by omega) (by omega),
      ← (heq.sub (b := c.attributePtr + attributeSize + L.resolver.size) (w := 4) (by omega)
        (by omega)).loadNet_eq, hresolver.area]

include htiled in
/-- All lengths fit. -/
theorem lengthsFit_of_tiled {p : Point} {w : World SlotStore}
    (hinv : ExpandInv L reg dataLen m ⟨p, w⟩) : LengthsFit w.memory p := by
  obtain ⟨hscan, hkept⟩ := hinv
  cases p with
  | config c =>
    intro hc
    obtain ⟨done, rest, hnext⟩ := exists_nextEntry htiled hscan hkept hc
    have hwithin := hnext.within
    have hhi := ConfigScanned.hi hscan
    rw [attributeLength_eq hnext.eqOn]
    exact ⟨by omega, fun _ => hnext.long⟩
  | resolver c k v =>
    intro hv
    have hhi := hscan.2.hi
    have hfills := hscan.2.fills
    obtain ⟨done, rest, seen, left, h, hnext⟩ := exists_nextAttribute htiled hscan hkept hv
    have hwithin := hnext.within
    have hlength := h.busy.length
    rw [attributeLength_eq hnext.eqOn]
    omega
  | configNext c => trivial
  | resolverNext c k v => trivial
  | returned config => trivial
  | crashed => trivial

include haccepted htiled in
/-- The resolver that is complete has been counted as its header says, and there is a list for
it. -/
theorem BusyEntry.complete (h : BusyEntry L reg dataLen m mem c k v done rest seen front)
    (hall : resolverAttributes L m c.attributePtr = seen) :
    ∀ l, v.count l % 2 ^ 32 = L.resolver.values mem (c.attributePtr + attributeSize) (.n l) := by
  intro l
  have hlt := resolverCounts_lt haccepted htiled h.mem_all h.busy.holds
  have hcounts := (h.tiled htiled).counts l
  rw [hall] at hcounts
  rw [h.busy.header.n_eq, h.busy.count, ← hcounts,
    Nat.mod_eq_of_lt (by cases l <;> omega)]
  rfl

include haccepted htiled in
/-- **The next step does not fail.** -/
theorem proceeds_of_laid {p : Point} {w : World SlotStore}
    (hinv : ExpandInv L reg dataLen m ⟨p, w⟩) (hlaid : Laid L reg dataLen m w.memory p) :
    Proceeds L reg w.memory p := by
  obtain ⟨hscan, hkept⟩ := hinv
  have hpos : 0 < reg.start + dataLen := Nat.add_pos_left haccepted.allocated _
  have hle := haccepted.size_le
  have hstop : reg.stop = reg.start + reg.size := rfl
  have hresolverSize : L.resolverBufSize = L.resolver.size + 4 := rfl
  have hconfigSize : L.configBufSize = L.config.size + 8 := rfl
  cases p with
  | config c =>
    have hlo := ConfigScanned.lo hscan
    have hhi := ConfigScanned.hi hscan
    refine ⟨fun hc => ⟨⟨by omega, by omega⟩, fun hkind => ?_⟩, fun hc =>
      ⟨⟨le_rfl, by omega⟩, fun k => ?_⟩⟩
    · -- an entry is left, so it fits, and its type decides whether it is entered
      obtain ⟨done, rest, hnext⟩ := exists_nextEntry htiled hscan hkept hc
      rw [attributeType_eq hnext.eqOn] at hkind
      rw [attributeLength_eq hnext.eqOn]
      exact hnext.resolverFits haccepted htiled (hlaid done hnext.kept.walk).1 hkind
    · obtain ⟨-, done, hdone⟩ := hkept
      have hcounts := htiled.counts k
      have hlt := slots_lt haccepted htiled
      rw [configSlots] at hlt
      -- none is left, so the counts are those of all the entries
      rw [configAttributes, hdone.walk.complete (by omega)] at hcounts
      rw [hdone.n_eq, hdone.count, ← hcounts, Nat.mod_eq_of_lt (by cases k <;> omega)]
      rfl
  | resolver c k v =>
    have hlo := hscan.1.lo
    have hhi := hscan.1.hi
    have hbegin := hscan.2.lo
    have hend := hscan.2.hi
    have hfills := hscan.2.fills
    have hpasses := hscan.2.passes
    have hbuf := hscan.2.resolver
    rw [Proceeds, hbuf]
    refine ⟨⟨by omega, by omega⟩, fun hv => ⟨⟨by omega, by omega⟩, fun l hl => ?_⟩, fun hv => ?_⟩
    · obtain ⟨done, rest, seen, left, h, hnext⟩ := exists_nextAttribute htiled hscan hkept hv
      obtain ⟨-, -, hresolver⟩ := hlaid done seen h.busy.config.walk h.walk
      rw [resolverTarget_eq hnext.eqOn] at hl
      have hroom := hnext.room hl
        (resolverClaim_need haccepted htiled done h.mem_all h.busy.holds l)
      obtain ⟨hclaim, -⟩ := resolverClaim_stop haccepted htiled h.all h.busy.holds l
      rw [(hresolver l).eq_start hroom]
      -- a claim with room for an element is not `NULL`
      exact (hpos.trans_le hclaim).ne'
    · obtain ⟨done, rest, seen, h⟩ := exists_busyEntry htiled hscan hkept
      obtain ⟨-, hlists, -⟩ := hlaid done seen h.busy.config.walk h.walk
      refine ⟨h.complete haccepted htiled (h.seen_eq (by omega)), ⟨le_rfl, by omega⟩, ?_⟩
      have hroom := h.room (configClaim_need haccepted htiled k)
      obtain ⟨hclaim, -⟩ := configClaim_bounds haccepted k []
      rw [(hlists.config k).eq_start hroom]
      exact (hpos.trans_le hclaim).ne'
  | configNext c => trivial
  | resolverNext c k v => trivial
  | returned config => trivial
  | crashed => trivial

/-! ## Steps -/

include htiled in
/-- The attributes up to some point are what they are. -/
theorem ConfigWalk.unique {done' : List ℕ} (h : ConfigWalk L reg dataLen m done front)
    (h' : ConfigWalk L reg dataLen m done' front) : done = done' :=
  AttributeWalk.unique htiled.tiles.walk h h'

/-- A list of a configuration or a resolver lies in what a store to its header leaves. -/
theorem ResolverLaid.congr {a : ℕ} (h : ResolverLaid L reg m mem done a seen)
    (hvalues : ∀ l, L.resolver.values mem' (a + attributeSize) (.list l) =
      L.resolver.values mem (a + attributeSize) (.list l))
    (hlists : ∀ l, mem.EqOn mem' (resolverClaim L reg m done a l).start
      (resolverClaim L reg m done a l).need) : ResolverLaid L reg m mem' done a seen := by
  intro l
  rw [hvalues]
  exact (h l).congr (hlists l)

include htiled in
/-- An attribute that is not a resolver is passed. -/
theorem NextEntry.laid_pass (h : NextEntry L reg dataLen m mem c done rest)
    (hlaid : Laid L reg dataLen m mem (.config c))
    (hkind : ResolverKind.ofType (attributeType m c.attributePtr) = none) :
    Laid L reg dataLen m mem (.configNext (c.look (attributeLength m c.attributePtr))) := by
  obtain ⟨hpadding, hlists⟩ := hlaid done h.kept.walk
  have hnot : ¬ HoldsResolver m c.attributePtr := by
    rw [HoldsResolver, hkind]
    decide
  refine ⟨h.long, fun done' hdone' => ?_⟩
  have hwalk := h.kept.walk.concat (by have := h.within; have := h.long; omega) h.within
  obtain rfl := ConfigWalk.unique htiled hwalk hdone'
  rw [paddingAfter_concat, paddingStep_of_not_holds hnot]
  refine ⟨hpadding, .concat hlists.resolvers (fun k => ?_) fun hholds => absurd hholds hnot⟩
  rw [ofKind_concat_of_ne (by simp [hkind])]
  exact hlists.config k

include haccepted htiled in
/-- A resolver is begun. -/
theorem NextEntry.laid_enter (h : NextEntry L reg dataLen m mem c done rest) {padding : Padding}
    {w w' : World SlotStore} (hlaid : Laid L reg dataLen m mem (.config c)) (hmem : w.memory = mem)
    (hholds : HoldsResolver m c.attributePtr)
    (hptr : v.attributePtr = c.attributePtr + attributeSize + L.resolverBufSize)
    (hclaims : (v.claim, padding) = resolverClaims c.padding (resolverCounts L m c.attributePtr))
    (hw' : L.resolver.Rewritten w w' (c.attributePtr + attributeSize)
      (expandedHeader L (L.resolver.values mem (c.attributePtr + attributeSize)) v.claim)) :
    BusyLaid L reg dataLen m w'.memory padding c.attributePtr v.attributePtr := by
  subst hmem
  intro done' seen hdone' hseen
  obtain rfl := ConfigWalk.unique htiled h.kept.walk hdone'
  obtain ⟨hpadding, hlists⟩ := hlaid done hdone'
  have hresolver := htiled.resolvers _ (by simp [h.all]) hholds
  have hnil : ResolverWalk L m c.attributePtr [] v.attributePtr := hptr
  obtain rfl := AttributeWalk.unique hresolver.tiles.walk hnil hseen
  have hfits := hresolver.fits
  have hwithin := h.within
  have hsize : L.resolverBufSize = L.resolver.size + 4 := rfl
  rw [hpadding] at hclaims
  refine ⟨?_, hlists.of_header haccepted htiled h.all hdone' (by omega) hw'.frame, fun l => ?_⟩
  · rw [paddingAfter_concat, paddingStep_of_holds hholds]
    exact congrArg Prod.snd hclaims
  · rw [hw'.values]
    have hclaim : v.claim l = resolverClaim L reg m done c.attributePtr l :=
      congrFun (congrArg Prod.fst hclaims) l
    rw [expandedHeader, hclaim]
    exact ListAt.nil _ _

include htiled in
/-- An attribute of a resolver has been taken care of. -/
theorem BusyEntry.laid_turn
    (h : BusyEntry L reg dataLen m mem c k v done rest seen v.attributePtr)
    (hnext : NextAttribute L m mem c v seen left) {padding : Padding}
    (hpadding : padding = paddingAfter L reg m (done ++ [c.attributePtr]))
    (hlists : ListsLaid L reg m mem' done)
    (hresolver : ResolverLaid L reg m mem' done c.attributePtr (seen ++ [v.attributePtr])) :
    BusyLaid L reg dataLen m mem' padding c.attributePtr
      (v.attributePtr + attributeLength m v.attributePtr) := by
  intro done' seen' hdone' hseen'
  obtain rfl := ConfigWalk.unique htiled h.busy.config.walk hdone'
  have hwalk := h.walk.concat (by have := hnext.within; have := hnext.long; omega) hnext.within
  obtain rfl := AttributeWalk.unique (h.tiled htiled).tiles.walk hwalk hseen'
  exact ⟨hpadding, hlists, hresolver⟩

/-- The header of a resolver is in front of all lists. -/
theorem BusyEntry.header_le (h : BusyEntry L reg dataLen m mem c k v done rest seen front) :
    c.attributePtr + attributeSize + L.resolver.size ≤ reg.start + dataLen := by
  have hfits := h.busy.header.fits
  have hwithin := h.within
  have hsize : L.resolverBufSize = L.resolver.size + 4 := rfl
  omega

include haccepted htiled in
/-- A field points to the attribute. -/
theorem BusyEntry.laid_field
    (h : BusyEntry L reg dataLen m mem c k v done rest seen v.attributePtr)
    (hnext : NextAttribute L m mem c v seen left)
    (hlaid : Laid L reg dataLen m mem (.resolver c k v)) {f : ResolverField} {value : ℕ}
    (htarget : resolverTarget m v.attributePtr = some (.field f))
    (hvalue : value < 256 ^ L.resolver.width f) :
    BusyLaid L reg dataLen m (L.resolver.put mem (c.attributePtr + attributeSize) f value) c.padding
      c.attributePtr (v.attributePtr + attributeLength m v.attributePtr) := by
  obtain ⟨hpadding, hlists, hresolver⟩ := hlaid done seen h.busy.config.walk h.walk
  have hframe : ∀ b n, b + n ≤ c.attributePtr + attributeSize ∨
      c.attributePtr + attributeSize + L.resolver.size ≤ b →
      mem.EqOn (L.resolver.put mem (c.attributePtr + attributeSize) f value) b n :=
    fun b n hapart => StructLayout.put_eqOn _ _ _ hapart.symm
  refine h.laid_turn htiled hnext hpadding
    (hlists.of_header haccepted htiled h.all h.busy.config.walk h.header_le hframe) ?_
  have hsame : ResolverLaid L reg m mem done c.attributePtr (seen ++ [v.attributePtr]) := by
    intro l
    rw [ofList_concat_of_ne (by simp [htarget])]
    exact hresolver l
  refine hsame.congr (fun l => ?_) fun l => hframe _ _ (.inr ?_)
  · rw [StructLayout.values_put _ _ hvalue, Function.update_of_ne]
    rintro rfl
    exact (ne_field_of_attribute m v.attributePtr l).1 htarget
  · obtain ⟨hclaim, -⟩ := resolverClaim_stop haccepted htiled h.all h.busy.holds l
    exact h.header_le.trans hclaim

include haccepted htiled in
/-- A list points to the attribute. -/
theorem BusyEntry.laid_list
    (h : BusyEntry L reg dataLen m mem c k v done rest seen v.attributePtr)
    (hnext : NextAttribute L m mem c v seen left)
    (hlaid : Laid L reg dataLen m mem (.resolver c k v)) {l : ResolverList}
    (htarget : resolverTarget m v.attributePtr = some (.list l)) :
    BusyLaid L reg dataLen m
      (mem.store (L.resolver.values mem (c.attributePtr + attributeSize) (.list l) +
        pointerSize * v.count l) pointerSize (v.attributePtr + attributeSize)) c.padding
      c.attributePtr (v.attributePtr + attributeLength m v.attributePtr) := by
  obtain ⟨hpadding, hlists, hresolver⟩ := hlaid done seen h.busy.config.walk h.walk
  have hroom := hnext.room htarget
    (resolverClaim_need haccepted htiled done h.mem_all h.busy.holds l)
  obtain ⟨hlo, hhi⟩ := (hresolver l).slot hroom
  obtain ⟨hclaim, -⟩ := resolverClaim_bounds L reg done [] h.busy.holds l
  have hwithin := h.within
  have hheader := h.header_le
  have hpaddingLe := le_paddingAfter haccepted (L := L) (m := m) done
  have haddress : v.attributePtr + attributeSize < 2 ^ 64 := by
    have hsize := haccepted.size_le
    have hstop : reg.stop = reg.start + reg.size := rfl
    have haddressable := haccepted.addressable
    have hnextWithin := hnext.within
    have hlong := hnext.long
    omega
  rw [h.busy.count]
  generalize hstore : mem.store _ _ _ = mem'
  have hframe : ∀ b n, b + n ≤ (paddingAfter L reg m done).ptr → mem.EqOn mem' b n := by
    rintro b n hb
    rw [← hstore]
    exact Memory.EqOn.store (.inr (hb.trans (hclaim.trans hlo)))
  have hvalues : L.resolver.values mem' (c.attributePtr + attributeSize) =
      L.resolver.values mem (c.attributePtr + attributeSize) :=
    (StructLayout.values_eq (hframe _ _ (hheader.trans hpaddingLe))).symm
  refine h.laid_turn htiled hnext hpadding (hlists.of_list haccepted htiled h.all
    h.busy.config.walk (by omega) hframe) fun l' => ?_
  rw [hvalues]
  by_cases hl : l' = l
  · subst hl
    rw [ofList_concat_of_eq htarget, ← hstore]
    exact (hresolver l').concat hroom haddress
  · rw [ofList_concat_of_ne (by simpa [htarget] using fun h => hl h.symm)]
    refine (hresolver l').congr ?_
    rw [← hstore]
    have hapart := resolverClaims_apart (paddingAfter L reg m done)
      (resolverCounts L m c.attributePtr) hl
    refine Memory.EqOn.store ?_
    simp only [resolverClaim, Claim.stop] at hlo hhi hapart ⊢
    omega

include haccepted htiled in
/-- A list of the configuration points to the resolver. -/
theorem BusyEntry.laid_add (h : BusyEntry L reg dataLen m mem c k v done rest seen v.attributePtr)
    (hlaid : Laid L reg dataLen m mem (.resolver c k v))
    (hall : resolverAttributes L m c.attributePtr = seen) {count : ResolverKind → ℕ} :
    Laid L reg dataLen m
      (mem.store (L.config.values mem reg.start (.list k) + pointerSize * c.count k) pointerSize
        (c.attributePtr + attributeSize)) (.configNext { c with count }) := by
  obtain ⟨hpadding, hlists, hresolver⟩ := hlaid done seen h.busy.config.walk h.walk
  have hroom := h.room (configClaim_need haccepted htiled k)
  obtain ⟨hlo, hhi⟩ := (hlists.config k).slot hroom
  obtain ⟨hclaim, hclaimStop⟩ := configClaim_bounds haccepted k []
  have hwithin := h.within
  have hheader := h.header_le
  have hlength := h.busy.length
  have hfits := h.busy.header.fits
  have hwalkLe := h.busy.config.walk.le
  have hconfigSize : L.configBufSize = L.config.size + 8 := rfl
  have haddress : c.attributePtr + attributeSize < 2 ^ 64 := by
    have hsize := haccepted.size_le
    have hstop : reg.stop = reg.start + reg.size := rfl
    have haddressable := haccepted.addressable
    omega
  rw [h.busy.config.count]
  generalize hstore : mem.store _ _ _ = mem'
  -- the store is in the space for the list, in front of the lists of all resolvers
  have hframe : ∀ b n, b + n ≤ reg.start + dataLen ∨ (paddingAfter L reg m []).ptr ≤ b →
      mem.EqOn mem' b n := by
    intro b n hb
    rw [← hstore]
    exact Memory.EqOn.store (by omega)
  have hpaddingLe : ∀ as, (paddingAfter L reg m []).ptr ≤ (paddingAfter L reg m as).ptr :=
    fun as => paddingAfter_le_append [] as
  have hconfig : L.config.values mem' reg.start = L.config.values mem reg.start :=
    (StructLayout.values_eq (hframe _ _ (.inl (by omega)))).symm
  have hresolvers : ∀ before x after, done ++ [c.attributePtr] = before ++ x :: after →
      HoldsResolver m x → ∀ seen, ResolverLaid L reg m mem before x seen →
        ResolverLaid L reg m mem' before x seen := by
    intro before x after heq hholds seen hx
    have hle : x + attributeSize + L.resolver.size ≤ reg.start + dataLen := by
      rcases List.mem_append.mp (heq ▸ by simp : x ∈ done ++ [c.attributePtr]) with hx | hx
      · obtain ⟨-, hle⟩ := htiled.header_le h.all h.busy.config.walk hx hholds
        omega
      · rw [List.mem_singleton.mp hx]
        exact hheader
    refine hx.congr (fun l => ?_) fun l => hframe _ _ (.inr ?_)
    · rw [← StructLayout.values_eq (hframe _ _ (.inl hle))]
    · obtain ⟨hclaim, -⟩ := resolverClaim_bounds L reg before [] hholds l
      exact (hpaddingLe before).trans hclaim
  refine ⟨by rw [hlength]; omega, fun done' hdone' => ?_⟩
  have hwalk := h.busy.config.walk.concat (by omega) hwithin
  rw [← hlength] at hwalk
  obtain rfl := ConfigWalk.unique htiled hwalk hdone'
  refine ⟨hpadding, .concat (fun before x after heq hholds => ?_) (fun k' => ?_) fun hholds => ?_⟩
  · exact hresolvers before x (after ++ [c.attributePtr]) (by simp [heq]) hholds _
      (hlists.resolvers before x after heq hholds)
  · rw [hconfig]
    by_cases hk : k' = k
    · subst hk
      rw [ofKind_concat_of_eq h.busy.kind, ← hstore]
      exact (hlists.config k').concat hroom haddress
    · rw [ofKind_concat_of_ne (by simpa [h.busy.kind] using fun h => hk h.symm)]
      refine (hlists.config k').congr ?_
      rw [← hstore]
      have hapart := configClaims_apart (wholePadding L reg m) (configCounts L reg m) hk
      refine Memory.EqOn.store ?_
      simp only [configClaim, Claim.stop] at hlo hhi hapart ⊢
      omega
  · rw [hall]
    exact hresolvers done c.attributePtr [] rfl hholds _ hresolver

include haccepted htiled in
/-- **A step fills the lists further.** -/
theorem laid_step {p q : Point} {w w' : World SlotStore}
    (hinv : ExpandInv L reg dataLen m ⟨p, w⟩) (hlaid : Laid L reg dataLen m w.memory p)
    (hstep : StepEffect L reg p w q w') : Laid L reg dataLen m w'.memory q := by
  have hproceeds := proceeds_of_laid haccepted htiled hinv hlaid
  obtain ⟨hscan, hkept⟩ := hinv
  cases hstep with
  | failed e _ hfails => exact absurd hproceeds hfails
  -- a slot outside of the region: but the claim has room for each element
  | @listFailed c k v w _ l hv htarget hptr hout _ =>
    obtain ⟨done, rest, seen, left, h, hnext⟩ := exists_nextAttribute htiled hscan hkept hv
    rw [resolverTarget_eq hnext.eqOn] at htarget
    obtain ⟨-, -, hresolver⟩ := hlaid done seen h.busy.config.walk h.walk
    obtain ⟨hlo, hhi⟩ := (hresolver l).slot (hnext.room htarget
      (resolverClaim_need haccepted htiled done h.mem_all h.busy.holds l))
    obtain ⟨hclaim, hclaimStop⟩ := resolverClaim_stop haccepted htiled h.all h.busy.holds l
    refine absurd ?_ hout
    change reg.Contains (L.resolver.values w.memory v.resolver (.list l) +
      pointerSize * v.count l) pointerSize
    rw [hscan.2.resolver, h.busy.count]
    exact ⟨by omega, by omega⟩
  | @addFailed c k v w _ hv _ hptr hout _ =>
    obtain ⟨done, rest, seen, h⟩ := exists_busyEntry htiled hscan hkept
    obtain ⟨-, hlists, -⟩ := hlaid done seen h.busy.config.walk h.walk
    obtain ⟨hlo, hhi⟩ := (hlists.config k).slot (h.room (configClaim_need haccepted htiled k))
    obtain ⟨hclaim, -⟩ := configClaim_bounds haccepted k []
    have hclaimStop := configClaim_stop haccepted htiled k
    -- likewise for the lists of the configuration
    refine absurd ?_ hout
    change reg.Contains (L.config.values w.memory reg.start (.list k) +
      pointerSize * c.count k) pointerSize
    rw [h.busy.config.count]
    exact ⟨by omega, by omega⟩
  | rest hstop => exact hlaid
  | @finish c w hc _ =>
    obtain ⟨-, done, hdone⟩ := hkept
    have hend := ConfigScanned.hi hscan
    obtain ⟨rest, hall, hwalk⟩ := hdone.walk.exists_append htiled.tiles.walk
    -- nothing is left to walk over
    obtain ⟨rfl, hfront⟩ := hwalk.eq_nil_of_lt (by omega)
    rw [List.append_nil] at hall
    have hall : configAttributes L reg dataLen m = done := hall
    obtain ⟨-, hlists⟩ := hlaid done hdone.walk
    rw [hfront] at hdone
    rw [← hall] at hdone hlists
    exact ⟨rfl, ⟨_, _, hdone⟩, hlists⟩
  | @pass c w hc hkind =>
    obtain ⟨done, rest, hnext⟩ := exists_nextEntry htiled hscan hkept hc
    rw [attributeType_eq hnext.eqOn] at hkind
    rw [attributeLength_eq hnext.eqOn]
    exact hnext.laid_pass htiled hlaid hkind
  | @enter c k v padding w w' hc hkind hentered _ hclaims _ _ hw' =>
    obtain ⟨done, rest, hnext⟩ := exists_nextEntry htiled hscan hkept hc
    rw [attributeType_eq hnext.eqOn] at hkind
    have hholds := holdsResolver_of hkind
    have hfits := (htiled.resolvers c.attributePtr (by simp [hnext.all]) hholds).fits
    have hwithin := hnext.within
    have hsize : L.resolverBufSize = L.resolver.size + 4 := rfl
    have hvalues : L.resolver.values w.memory (c.attributePtr + attributeSize) =
        L.resolver.values m (c.attributePtr + attributeSize) :=
      (StructLayout.values_eq (hnext.kept.eqOn (Nat.le_add_right _ _) (by omega))).symm
    -- the counts are those of the buffer, as nothing has been stored there
    rw [hvalues] at hclaims
    exact hnext.laid_enter haccepted htiled hlaid rfl hholds hentered.attributePtr hclaims hw'
  | next => exact hlaid.2
  | @field c k v w f hv htarget hin =>
    obtain ⟨done, rest, seen, left, h, hnext⟩ := exists_nextAttribute htiled hscan hkept hv
    rw [resolverTarget_eq hnext.eqOn] at htarget
    rw [attributeLength_eq hnext.eqOn, hscan.2.resolver]
    refine ⟨hnext.long, h.laid_field haccepted htiled hnext hlaid htarget ?_⟩
    rw [width_of_target htarget]
    exact haccepted.pointer_lt hin
  | @list c k v w l hv htarget _ _ =>
    obtain ⟨done, rest, seen, left, h, hnext⟩ := exists_nextAttribute htiled hscan hkept hv
    rw [resolverTarget_eq hnext.eqOn] at htarget
    rw [attributeLength_eq hnext.eqOn, ResolverLoop.slot, hscan.2.resolver]
    exact ⟨hnext.long, h.laid_list haccepted htiled hnext hlaid htarget⟩
  | @other c k v w hv htarget =>
    obtain ⟨done, rest, seen, left, h, hnext⟩ := exists_nextAttribute htiled hscan hkept hv
    rw [resolverTarget_eq hnext.eqOn] at htarget
    rw [attributeLength_eq hnext.eqOn]
    obtain ⟨hpadding, hlists, hresolver⟩ := hlaid done seen h.busy.config.walk h.walk
    refine ⟨hnext.long, h.laid_turn htiled hnext hpadding hlists fun l => ?_⟩
    rw [ofList_concat_of_ne (by simp [htarget])]
    exact hresolver l
  | nextOfResolver => exact hlaid.2
  | @add c k v w hv _ _ _ =>
    obtain ⟨done, rest, seen, h⟩ := exists_busyEntry htiled hscan hkept
    have hend := hscan.2.hi
    have hfills := hscan.2.fills
    rw [ConfigLoop.slot, hscan.2.resolver]
    exact h.laid_add haccepted htiled hlaid (h.seen_eq (by omega))

/-! ## Runs -/

include haccepted htiled in
/-- The header of the configuration can be expanded. -/
theorem configFits_of_tiled : ConfigFits L reg m := by
  have hsize := haccepted.size_eq
  have hle := haccepted.size_le
  have hstop : reg.stop = reg.start + reg.size := rfl
  have hlt := slots_lt haccepted htiled
  have hpadding := htiled.padding
  have hcounts : ∀ k, ntohl (L.config.values m reg.start (.n k)) = configCounts L reg m k :=
    fun k => rfl
  rw [configSlots] at hlt hpadding
  refine ⟨⟨le_rfl, by omega⟩, ?_⟩
  rw [hcounts, hcounts, hcounts, listNeed_eq (by omega), listNeed_eq (by omega),
    listNeed_eq (by omega)]
  simp only [pointerSize] at hpadding ⊢
  omega

include haccepted htiled in
/-- Before the first iteration all lists are empty. -/
theorem laid_start :
    Laid L reg dataLen m (expandStart L reg m).world.memory (expandStart L reg m).point := by
  obtain ⟨hptr, hend⟩ := haccepted.wholePadding_eq
  refine ofResult_ensures (R := fun p w => Laid L reg dataLen m w.memory p) ?_
  refine Prog.ensures_mono ?_ (fun e _ h => absurd (configFits_of_tiled haccepted htiled) h.2)
    (bufferExpandBegin_spec L reg (w := ⟨m, []⟩) (hend.trans_le haccepted.addressable.le))
  rintro _ w' ⟨c, rfl, hattribute, -, -, hclaims, -, -, hw'⟩ done hdone
  have hnil : ConfigWalk L reg dataLen m [] c.attributePtr := hattribute
  obtain rfl := ConfigWalk.unique htiled hnil hdone
  refine ⟨congrArg Prod.snd hclaims, fun k => ?_, fun before a after heq => ?_⟩
  · have hclaim : c.claim k = configClaim L reg m k := congrFun (congrArg Prod.fst hclaims) k
    rw [hw'.values, expandedConfig, hclaim]
    exact ListAt.nil _ _
  · simp at heq

/-- What is passed over is not empty and within what remains. -/
theorem passesWithin_of_laid {p : Point} (hscan : Scanned L reg dataLen p)
    (hlaid : Laid L reg dataLen m mem p) : PassesWithin p := by
  cases p with
  | configNext c => exact ⟨Nat.lt_of_lt_of_le (by decide) hlaid.1, hscan.2⟩
  | resolverNext c k v => exact ⟨Nat.lt_of_lt_of_le (by decide) hlaid.1, hscan.2.2⟩
  | config c => trivial
  | resolver c k v => trivial
  | returned config => trivial
  | crashed => trivial

/-- The invariant of the expansion of a documented buffer. -/
structure LaidInv (L : DnsLayout) (reg : Region) (dataLen : ℕ) (m : Memory) (s : ExpandState) :
    Prop where
  /-- the headers -/
  inv : ExpandInv L reg dataLen m s
  /-- the iterations -/
  counted : LoopsCounted s.point
  /-- the lists -/
  laid : Laid L reg dataLen m s.world.memory s.point

include haccepted htiled in
theorem laidInv_start : LaidInv L reg dataLen m (expandStart L reg m) :=
  ⟨haccepted.inv_start, haccepted.loopsCounted_start, laid_start haccepted htiled⟩

include haccepted htiled in
theorem LaidInv.step {s : ExpandState} (h : LaidInv L reg dataLen m s) :
    LaidInv L reg dataLen m (expandStep L reg s) where
  inv := haccepted.inv_step h.inv (lengthsFit_of_tiled htiled h.inv)
  counted := loopsCounted_step h.counted (passesWithin_of_laid h.inv.scanned h.laid)
    (expandStep_scan L reg s)
  laid := laid_step haccepted htiled h.inv h.laid h.inv.effect

include haccepted htiled in
theorem laidInv_reached {s : ExpandState}
    (hs : Reaches (expandStep L reg) (expandStart L reg m) s) : LaidInv L reg dataLen m s :=
  GuardedRun.inv (I := LaidInv L reg dataLen m) (laidInv_start haccepted htiled)
    (fun _ _ h _ => h.step haccepted htiled) hs

include haccepted htiled in
/-- **The configuration is returned.** The expansion of a configuration that is laid out as
documented ends, and returns the configuration with all its lists. -/
theorem exists_returned : ∃ s, Reaches (expandStep L reg) (expandStart L reg m) s ∧
    s.point = .returned (some reg.start) ∧
    (∃ claim count, ConfigKept L reg dataLen m s.world.memory claim count
      (configAttributes L reg dataLen m) (reg.start + dataLen)
      (configAttributes L reg dataLen m)) ∧
    ListsLaid L reg m s.world.memory (configAttributes L reg dataLen m) := by
  have hstep : ∀ s, LaidInv L reg dataLen m s → True → ¬ s.point.Stopped →
      LaidInv L reg dataLen m (expandStep L reg s) ∧
        loopMeasure (expandStep L reg s).point < loopMeasure s.point :=
    fun s h _ hgoing => ⟨h.step haccepted htiled, loopMeasure_step h.counted
      (passesWithin_of_laid h.inv.scanned h.laid) (expandStep_scan L reg s) hgoing⟩
  obtain ⟨n, -, hstop⟩ := Program.exists_done (G := fun _ => True) (fun s => loopMeasure s.point)
    (laidInv_start haccepted htiled) (fun _ _ => trivial) hstep
  refine ⟨_, Reaches.iterate _ _ n, ?_⟩
  have hlaid := (laidInv_reached haccepted htiled (Reaches.iterate _ _ n)).laid
  generalize (expandStep L reg)^[n] (expandStart L reg m) = s at hstop hlaid
  rcases s with ⟨p, w⟩
  cases p with
  | returned result =>
    obtain ⟨rfl, hkept, hlists⟩ := hlaid
    exact ⟨rfl, hkept, hlists⟩
  | crashed => exact hlaid.elim
  | _ => exact hstop.elim

end

end ConfigdExtra
