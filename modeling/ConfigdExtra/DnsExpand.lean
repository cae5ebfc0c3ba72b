import ConfigdExtra.DnsLayout
import ConfigdExtra.GuardedRun

/-!
# Expanding a DNS configuration: `_dns_configuration_buffer_expand`

* `bufferCreate` — `_dns_configuration_buffer_create`: check the sizes in the header and copy
  the buffer, with padding behind it.
* `expandAddList`, `expandList` — claim space in the padding for a list of pointers.
* `addToList` — store the next pointer of a list.
* `expandResolverBegin`, `expandResolverTurn`, `expandResolverEnd` —
  `_dns_configuration_expand_resolver`: what comes before its loop, one iteration, and what
  comes after.
* `bufferExpandBegin`, `bufferExpandTurn`, `bufferExpandEnd` — the same of
  `_dns_configuration_buffer_expand`.
* `ExpandState`, `expandStep`, `expandStart` — the two functions as a program that takes one
  step for each head of a loop and one for going on to the next attribute. The loops need not
  end, so there is no function to call.

What is not in the source: the loops count their iterations and remember how many bytes of
attributes they started with, the claims are remembered, and each store to a list leaves a note.
-/

namespace ConfigdExtra

open Memory (pointerSize)

/-! ## Arithmetic -/

/-- `ntohl` -/
def ntohl (v : ℕ) : ℕ := swapBytes 4 v

/-- A difference in `uint32_t`. -/
def sub32 (a b : ℕ) : ℕ := (((a : ℤ) - b) % 4294967296).toNat

/-- A difference in `size_t`. -/
def sub64 (a b : ℕ) : ℕ := (((a : ℤ) - b) % 18446744073709551616).toNat

/-! ## Lists of pointers -/

/-- What is left of the padding: `padding` and `n_padding`. -/
structure Padding where
  /-- `padding` -/
  ptr : ℕ
  /-- `n_padding` -/
  n : ℕ
  deriving DecidableEq, Repr

/-- A range of the padding that was claimed for a list. -/
structure Claim where
  /-- where it begins -/
  start : ℕ
  /-- `need`, its number of bytes -/
  need : ℕ
  deriving DecidableEq, Repr

namespace Claim

/-- The pointer to the list. -/
def list (c : Claim) : ℕ := if c.need = 0 then 0 else c.start

/-- The number of pointers for which there is space. -/
def slots (c : Claim) : ℕ := c.need / pointerSize

end Claim

/-- `__dns_configuration_expand_add_list` -/
def expandAddList (padding : Padding) (count size : ℕ) : Option (Padding × Claim) :=
  let need := count * size % 2 ^ 32
  if need > padding.n then
    none
  else
    some (⟨padding.ptr + need, padding.n - need⟩, ⟨padding.ptr, need⟩)

/-- A store to slot `index` of a list, at `address`, and the claim for that list. -/
structure SlotStore where
  /-- the address of the store -/
  address : ℕ
  /-- the index into the list -/
  index : ℕ
  /-- the claim for the list -/
  claim : Claim
  deriving DecidableEq, Repr

/-- Programs that note their stores to lists. -/
abbrev ParserProg := Prog SlotStore

section

variable {F : Type} (reg : Region) (S : StructLayout F)

/-- `ntohl` of the four bytes at `a`. -/
def loadNtohl (a : ℕ) : ParserProg ℕ := do
  let v ← Prog.load reg a 4
  pure (ntohl v)

/-- `x->n_list = ntohl(x->n_list); if (!__dns_configuration_expand_add_list(…)) goto error;
x->list = ptr;` -/
def expandList (x : ℕ) (n list : F) (padding : Padding) : ParserProg (Padding × Claim) := do
  let count := ntohl (← S.get reg x n)
  S.set reg x n count
  match expandAddList padding count pointerSize with
  | none => Prog.stop .error
  | some (padding, claim) =>
    S.set reg x list claim.list
    pure (padding, claim)

/-- `if (x->list == NULL) goto error; x->list[index] = value;` -/
def addToList (x : ℕ) (list : F) (claim : Claim) (index value : ℕ) : ParserProg Unit := do
  let ptr ← S.get reg x list
  if ptr = 0 then
    Prog.stop .error
  else
    Prog.note ⟨ptr + pointerSize * index, index, claim⟩
    Prog.store reg (ptr + pointerSize * index) pointerSize value

end

/-! ## `_dns_configuration_buffer_create` -/

/-- `_dns_configuration_buffer_create(dataRef, dataLen)`, where `malloc` returns `buf`: the
buffer and what it holds. -/
def bufferCreate (L : DnsLayout) (dataRef dataLen buf : ℕ) : ParserProg (Region × Memory) := do
  let nAttribute ← loadNtohl ⟨dataRef, dataLen⟩ (dataRef + L.config.size)
  let nPadding ← loadNtohl ⟨dataRef, dataLen⟩ (dataRef + L.config.size + 4)
  if L.configBufSize + nAttribute ≠ dataLen then
    Prog.stop .error
  else if nPadding > sub64 dnsConfigBufMax dataLen then
    Prog.stop .error
  else if dataLen + nPadding > dnsConfigBufMax then
    Prog.stop .error
  else
    let bytes ← Prog.loadBytes ⟨dataRef, dataLen⟩ dataRef dataLen
    pure (⟨buf, dataLen + nPadding⟩, .ofBytes buf bytes)

/-! ## `_dns_configuration_expand_resolver` -/

/-- The variables of `_dns_configuration_expand_resolver` at its loop. -/
structure ResolverLoop where
  /-- `resolver` -/
  resolver : ℕ
  /-- `attribute` -/
  attributePtr : ℕ
  /-- `n_attribute` -/
  nAttribute : ℕ
  /-- `attribute_length` -/
  length : ℕ
  /-- `n_nameserver`, `n_search`, `n_sortaddr` -/
  count : ResolverList → ℕ
  /-- the claims for the lists -/
  claim : ResolverList → Claim
  /-- `n_attribute` before the loop -/
  area : ℕ
  /-- the iterations begun so far -/
  turns : ℕ

section

variable (L : DnsLayout) (reg : Region)

/-- `resolver->x = ntohl(resolver->x);` for a number, and `ntohs` for the port. -/
def swapScalar (resolver : ℕ) (s : ResolverScalar) : ParserProg Unit := do
  let v ← L.resolver.get reg resolver (.scalar s)
  L.resolver.set reg resolver (.scalar s) (swapBytes (L.resolver.width (.scalar s)) v)

/-- What comes before the loop. -/
def expandResolverBegin (buf nBuf : ℕ) (padding : Padding) :
    ParserProg (ResolverLoop × Padding) :=
  if nBuf < L.resolverBufSize then
    Prog.stop .error
  else do
    L.resolver.set reg buf .domain 0
    let (padding, nameserver) ←
      expandList reg L.resolver buf (.n .nameserver) (.list .nameserver) padding
    swapScalar L reg buf .port
    let (padding, search) ← expandList reg L.resolver buf (.n .search) (.list .search) padding
    let (padding, sortaddr) ←
      expandList reg L.resolver buf (.n .sortaddr) (.list .sortaddr) padding
    L.resolver.set reg buf .options 0
    swapScalar L reg buf .timeout
    swapScalar L reg buf .searchOrder
    swapScalar L reg buf .ifIndex
    swapScalar L reg buf .serviceIdentifier
    swapScalar L reg buf .flags
    swapScalar L reg buf .reachFlags
    let counted ← loadNtohl reg (buf + L.resolver.size)
    if sub32 nBuf L.resolverBufSize ≠ counted then
      Prog.stop .error
    else
      pure
        ({ resolver := buf
           attributePtr := buf + L.resolverBufSize
           nAttribute := sub32 nBuf L.resolverBufSize
           length := 0
           count := fun _ => 0
           claim := fun
             | .nameserver => nameserver
             | .search => search
             | .sortaddr => sortaddr
           area := sub32 nBuf L.resolverBufSize
           turns := 0 }, padding)

/-- The variables when the loop has found an attribute of the given length. -/
def ResolverLoop.look (v : ResolverLoop) (length : ℕ) : ResolverLoop :=
  { v with length := length, turns := v.turns + 1 }

/-- The `switch` over the type of the attribute. -/
def expandResolverSwitch (v : ResolverLoop) (type : ℕ) : ParserProg ResolverLoop :=
  match (ResolverAttribute.ofType type).map ResolverAttribute.target with
  | none => pure v
  | some (.field f) => do
    L.resolver.set reg v.resolver f (v.attributePtr + attributeSize)
    pure v
  | some (.list l) => do
    addToList reg L.resolver v.resolver (.list l) (v.claim l) (v.count l)
      (v.attributePtr + attributeSize)
    pure { v with count := Function.update v.count l (v.count l + 1) }

/-- One iteration, up to the next attribute. -/
def expandResolverTurn (v : ResolverLoop) : ParserProg ResolverLoop := do
  let length ← loadNtohl reg (v.attributePtr + 4)
  let type ← loadNtohl reg v.attributePtr
  expandResolverSwitch L reg (v.look length) type

/-- The end of an iteration: go on to the next attribute. -/
def ResolverLoop.next (v : ResolverLoop) : ResolverLoop :=
  { v with
    attributePtr := v.attributePtr + v.length
    nAttribute := sub32 v.nAttribute v.length }

/-- `if (n_list != resolver->n_list) goto error;` -/
def checkCount {F : Type} (S : StructLayout F) (x : ℕ) (n : F) (count : ℕ) : ParserProg Unit := do
  let counted ← S.get reg x n
  if count % 2 ^ 32 ≠ counted then Prog.stop .error else pure ()

/-- What comes after the loop. -/
def expandResolverEnd (v : ResolverLoop) : ParserProg ℕ := do
  checkCount reg L.resolver v.resolver (.n .nameserver) (v.count .nameserver)
  checkCount reg L.resolver v.resolver (.n .search) (v.count .search)
  checkCount reg L.resolver v.resolver (.n .sortaddr) (v.count .sortaddr)
  pure v.resolver

end

/-! ## `_dns_configuration_buffer_expand` -/

/-- The variables of `_dns_configuration_buffer_expand` at its loop. -/
structure ConfigLoop where
  /-- `attribute` -/
  attributePtr : ℕ
  /-- `n_attribute` -/
  nAttribute : ℕ
  /-- `attribute_length` -/
  length : ℕ
  /-- `n_resolver`, `n_scoped_resolver`, `n_service_specific_resolver` -/
  count : ResolverKind → ℕ
  /-- the claims for the lists -/
  claim : ResolverKind → Claim
  /-- `padding` and `n_padding` -/
  padding : Padding
  /-- `n_attribute` before the loop -/
  area : ℕ
  /-- the iterations begun so far -/
  turns : ℕ

/-- Where `_dns_configuration_buffer_expand` is. -/
inductive Point where
  /-- at the head of its loop -/
  | config (c : ConfigLoop)
  /-- about to go on to the next attribute -/
  | configNext (c : ConfigLoop)
  /-- in `_dns_configuration_expand_resolver`, for a resolver of kind `k`, at the head of the
  loop -/
  | resolver (c : ConfigLoop) (k : ResolverKind) (v : ResolverLoop)
  /-- there, about to go on to the next attribute -/
  | resolverNext (c : ConfigLoop) (k : ResolverKind) (v : ResolverLoop)
  /-- returned a configuration, or `NULL` -/
  | returned (config : Option ℕ)
  /-- an access was not inside the buffer -/
  | crashed

section

variable (L : DnsLayout) (reg : Region)

/-- What comes before the loop. -/
def bufferExpandBegin : ParserProg Point := do
  let nAttribute ← loadNtohl reg (reg.start + L.config.size)
  let nPadding ← loadNtohl reg (reg.start + L.config.size + 4)
  let (padding, resolver) ←
    expandList reg L.config reg.start (.n .resolver) (.list .resolver)
      ⟨reg.start + L.configBufSize + nAttribute, nPadding⟩
  let (padding, scopedResolver) ←
    expandList reg L.config reg.start (.n .scopedResolver) (.list .scopedResolver) padding
  let (padding, serviceSpecificResolver) ←
    expandList reg L.config reg.start (.n .serviceSpecificResolver)
      (.list .serviceSpecificResolver) padding
  pure <| .config
    { attributePtr := reg.start + L.configBufSize
      nAttribute := nAttribute
      length := 0
      count := fun _ => 0
      claim := fun
        | .resolver => resolver
        | .scopedResolver => scopedResolver
        | .serviceSpecificResolver => serviceSpecificResolver
      padding := padding
      area := nAttribute
      turns := 0 }

/-- The variables when the loop has found an attribute of the given length. -/
def ConfigLoop.look (c : ConfigLoop) (length : ℕ) : ConfigLoop :=
  { c with length := length, turns := c.turns + 1 }

/-- The `switch` over the type of the attribute, up to the loop of
`_dns_configuration_expand_resolver`. -/
def bufferExpandSwitch (c : ConfigLoop) (type : ℕ) : ParserProg Point :=
  match ResolverKind.ofType type with
  | some kind => do
    let (v, padding) ←
      expandResolverBegin L reg (c.attributePtr + attributeSize) (sub32 c.length attributeSize)
        c.padding
    pure (.resolver { c with padding } kind v)
  | none => pure (.configNext c)

/-- One iteration, up to the loop of `_dns_configuration_expand_resolver` or to the next
attribute. -/
def bufferExpandTurn (c : ConfigLoop) : ParserProg Point := do
  let length ← loadNtohl reg (c.attributePtr + 4)
  let type ← loadNtohl reg c.attributePtr
  bufferExpandSwitch L reg (c.look length) type

/-- The rest of the iteration, once a resolver has been expanded: it becomes the next of its
list. -/
def bufferExpandAdd (c : ConfigLoop) (kind : ResolverKind) (v : ResolverLoop) :
    ParserProg Point := do
  let resolver ← expandResolverEnd L reg v
  addToList reg L.config reg.start (.list kind) (c.claim kind) (c.count kind) resolver
  pure (.configNext { c with count := Function.update c.count kind (c.count kind + 1) })

/-- The end of an iteration: go on to the next attribute. -/
def ConfigLoop.next (c : ConfigLoop) : ConfigLoop :=
  { c with
    attributePtr := c.attributePtr + c.length
    nAttribute := sub32 c.nAttribute c.length }

/-- What comes after the loop. -/
def bufferExpandEnd (c : ConfigLoop) : ParserProg Point := do
  checkCount reg L.config reg.start (.n .resolver) (c.count .resolver)
  checkCount reg L.config reg.start (.n .scopedResolver) (c.count .scopedResolver)
  checkCount reg L.config reg.start (.n .serviceSpecificResolver)
    (c.count .serviceSpecificResolver)
  pure (.returned (some reg.start))

/-- One step. -/
def expandPoint : Point → ParserProg Point
  | .config c =>
    if attributeSize ≤ c.nAttribute then bufferExpandTurn L reg c else bufferExpandEnd L reg c
  | .configNext c => pure (.config c.next)
  | .resolver c kind v =>
    if attributeSize ≤ v.nAttribute then do
      let v ← expandResolverTurn L reg v
      pure (.resolverNext c kind v)
    else
      bufferExpandAdd L reg c kind v
  | .resolverNext c kind v => pure (.resolver c kind v.next)
  | .returned config => pure (.returned config)
  | .crashed => pure .crashed

end

/-- A state of the expansion. -/
structure ExpandState where
  /-- where it is -/
  point : Point
  /-- the buffer, and the stores to lists so far -/
  world : World SlotStore

/-- How a step ends: after `goto error` the function returns `NULL`. -/
def ExpandState.ofResult : Except Stop Point × World SlotStore → ExpandState
  | (.ok point, w) => ⟨point, w⟩
  | (.error .error, w) => ⟨.returned none, w⟩
  | (.error .fault, w) => ⟨.crashed, w⟩

/-- The state after a step. -/
def expandStep (L : DnsLayout) (reg : Region) (s : ExpandState) : ExpandState :=
  .ofResult (expandPoint L reg s.point s.world)

/-- The state before the first iteration. -/
def expandStart (L : DnsLayout) (reg : Region) (memory : Memory) : ExpandState :=
  .ofResult (bufferExpandBegin L reg ⟨memory, []⟩)

/-- `_dns_configuration_buffer_create` makes a buffer `reg` with contents `m` of the `dataLen`
bytes at `dataRef` of the memory `data`, and `malloc` succeeds. -/
structure Accepted (L : DnsLayout) (data : Memory) (dataRef dataLen : ℕ) (reg : Region)
    (m : Memory) : Prop where
  /-- the function returns it -/
  create : bufferCreate L dataRef dataLen reg.start ⟨data, []⟩ = (.ok (reg, m), ⟨data, []⟩)
  /-- `malloc` does not return `NULL` -/
  allocated : 0 < reg.start
  /-- what `malloc` returns can be addressed, up to the pointer behind it -/
  addressable : reg.stop < 2 ^ 64

end ConfigdExtra
