import Mathlib

/-!
# The network state buffer: `nwi_state` and its live entries

The data model of `network_state_information_priv.[ch]`. One `nwi_state` is a single
allocation: a header, `2 * max_if_count` interface slots (the IPv4 half first, the
IPv6 half behind it) and `max_if_count` indices of the interface list. A pointer
`nwi_ifstate_t` into the buffer is the index of its slot; `NULL` is `none`.

* `NwiIfstate`, `NwiState` — one slot, and the buffer with its two sizes as fields.
* `NwiState.live` — the abstract view: the entries of one family in use, as a list.
  Everything the invariants say is said about `live`.
* `nwiStateGetIfstateWithName` — the linear search, with its specification
  `nwiStateGetIfstateWithName_eq`: the first live entry of that name.

Counts and indices are `int32_t` in the source. They are natural numbers here: every
sum formed below is at most `2 * max_if_count`, the number of slots of a buffer that was
allocated, and `aliasOffset_bounds` (in `NwiReachable`) says the same of the offsets.
-/

namespace ConfigdExtra

/-! ## Entries -/

/-- The address families a state keeps a list for. -/
inductive AddressFamily where
  /-- `AF_INET` -/
  | inet
  /-- `AF_INET6` -/
  | inet6
  deriving DecidableEq, Repr

/-- `nwi_other_af` -/
def nwiOtherAf : AddressFamily → AddressFamily
  | .inet => .inet6
  | .inet6 => .inet

@[simp] theorem nwiOtherAf_nwiOtherAf (af : AddressFamily) : nwiOtherAf (nwiOtherAf af) = af := by
  cases af <;> rfl

@[simp] theorem nwiOtherAf_ne (af : AddressFamily) : nwiOtherAf af ≠ af := by
  cases af <;> simp [nwiOtherAf]

/-- There is one other family. -/
theorem eq_or_eq_nwiOtherAf (af af' : AddressFamily) : af' = af ∨ af' = nwiOtherAf af := by
  cases af <;> cases af' <;> simp [nwiOtherAf]

/-- A C string, without its terminating NUL. -/
abbrev CString : Type := List UInt8

/-- `IFNAMSIZ`: the size of an interface name field, its NUL included. -/
def ifnamsiz : Nat := 16

/-- `strlcpy` into a field of `size` bytes. -/
def strlcpy (src : CString) (size : Nat) : CString := src.take (size - 1)

/-- The `union { struct in_addr iaddr; struct in6_addr iaddr6; }`: `iaddr` names its
first four bytes, `iaddr6` all sixteen. -/
structure InAddrUnion where
  /-- the bytes shared by both members -/
  iaddr : BitVec 32
  /-- the bytes only `iaddr6` covers -/
  iaddr6Rest : BitVec 96
  deriving DecidableEq, Repr

/-- A BSD `struct sockaddr`: its bytes start with `sa_len` and `sa_family`. -/
structure Sockaddr where
  /-- the bytes at the pointer -/
  bytes : List UInt8
  deriving DecidableEq, Repr

/-- `sa_len` -/
def Sockaddr.saLen (sa : Sockaddr) : Nat := (sa.bytes.getD 0 0).toNat

/-- `sa_family` -/
def Sockaddr.saFamily (sa : Sockaddr) : UInt8 := sa.bytes.getD 1 0

/-- `sizeof` the `vpn_server_address` union, that of `struct sockaddr_in6`. -/
def vpnServerAddressSize : Nat := 28

/-- One slot of `ifstate_list`. -/
structure NwiIfstate where
  /-- interface name -/
  ifname : CString
  /-- preserved flags, and the control bits (diff, last item) -/
  flags : BitVec 64
  /-- relative index to the entry of the same name in the other family, or 0 -/
  afAliasOffset : Int
  /-- the lower, the better -/
  rank : BitVec 32
  /-- the family of the list the entry is on -/
  af : AddressFamily
  /-- the interface address -/
  addr : InAddrUnion
  /-- the generation the interface last changed in -/
  ifGenerationCount : BitVec 64
  /-- reachability flags -/
  reachFlags : BitVec 32
  /-- the `vpn_server_address` union, `vpnServerAddressSize` bytes -/
  vpnServerAddress : List UInt8
  deriving DecidableEq, Repr

/-- A slot cleared by `memset`. (A zero `sa_family_t` is `AF_UNSPEC`; the family of a
cleared slot is set before the slot comes into use and never read earlier.) -/
def NwiIfstate.zero : NwiIfstate where
  ifname := []
  flags := 0
  afAliasOffset := 0
  rank := 0
  af := .inet
  addr := ⟨0, 0⟩
  ifGenerationCount := 0
  reachFlags := 0
  vpnServerAddress := List.replicate vpnServerAddressSize 0

/-! ### Flags -/

/-- `NWI_IFSTATE_FLAGS_NOT_IN_IFLIST` -/
def nwiIfstateFlagsNotInIflist : BitVec 64 := 0x0020

/-- `NWI_IFSTATE_FLAGS_MASK`: the bits that get preserved. -/
def nwiIfstateFlagsMask : BitVec 64 := 0x00ff

/-- `NWI_IFSTATE_FLAGS_DIFF_MASK` -/
def nwiIfstateFlagsDiffMask : BitVec 64 := 0x0f00

/-- `NWI_IFSTATE_FLAGS_LAST_ITEM` -/
def nwiIfstateFlagsLastItem : BitVec 64 := 0x1000

/-- `NWI_IFSTATE_FLAGS(flags)` -/
def nwiIfstateFlags (flags : BitVec 64) : BitVec 64 := flags &&& nwiIfstateFlagsMask

/-- The entry carries `NWI_IFSTATE_FLAGS_LAST_ITEM`. -/
def NwiIfstate.IsLastItem (e : NwiIfstate) : Prop := e.flags &&& nwiIfstateFlagsLastItem ≠ 0

instance (e : NwiIfstate) : Decidable e.IsLastItem :=
  inferInstanceAs (Decidable (_ ≠ _))

/-! ## The buffer -/

/-- `nwi_state`: the header fields and the two arrays behind it. -/
structure NwiState where
  /-- `NWI_STATE_VERSION` -/
  version : BitVec 32
  /-- available slots per family -/
  maxIfCount : Nat
  /-- IPv4 entries in use -/
  ipv4Count : Nat
  /-- IPv6 entries in use -/
  ipv6Count : Nat
  /-- `if_list` slots in use -/
  ifListCount : Nat
  /-- reference count -/
  ref : BitVec 32
  /-- IPv4 reachability -/
  reachFlagsV4 : BitVec 32
  /-- IPv6 reachability -/
  reachFlagsV6 : BitVec 32
  /-- generation of the whole state -/
  generationCount : BitVec 64
  /-- the slots of both families -/
  ifstateList : List NwiIfstate
  /-- the interface list: indices into `ifstateList` -/
  ifList : List Nat
  /-- the allocation holds two halves of `max_if_count` slots -/
  ifstateList_length : ifstateList.length = 2 * maxIfCount
  /-- and `max_if_count` indices -/
  ifList_length : ifList.length = maxIfCount
  deriving DecidableEq

namespace NwiState

/-- The slot a pointer refers to. -/
def ifstate (s : NwiState) (p : Nat) : NwiIfstate := s.ifstateList.getD p .zero

/-- Write through a pointer. -/
def modify (s : NwiState) (p : Nat) (f : NwiIfstate → NwiIfstate) : NwiState :=
  { s with
    ifstateList := s.ifstateList.modify p f
    ifstateList_length := by rw [List.length_modify, s.ifstateList_length] }

/-- The count field of a family. -/
def count (s : NwiState) : AddressFamily → Nat
  | .inet => s.ipv4Count
  | .inet6 => s.ipv6Count

/-- Store a count field. -/
def setCount (s : NwiState) (af : AddressFamily) (n : Nat) : NwiState :=
  match af with
  | .inet => { s with ipv4Count := n }
  | .inet6 => { s with ipv6Count := n }

/-- The pointer to entry `i` of a family: the IPv6 half starts behind the IPv4 half. -/
def slot (s : NwiState) (af : AddressFamily) (i : Nat) : Nat :=
  match af with
  | .inet => i
  | .inet6 => s.maxIfCount + i

/-- The entries of a family in use. -/
def live (s : NwiState) (af : AddressFamily) : List NwiIfstate :=
  (s.ifstateList.drop (s.slot af 0)).take (s.count af)

/-- The names on the list of a family. -/
def names (s : NwiState) (af : AddressFamily) : List CString := (s.live af).map (·.ifname)

/-- The ranks of the entries of a family do not decrease. -/
def SortedByRank (s : NwiState) : Prop :=
  ∀ af, (s.live af).Pairwise fun e e' => e.rank ≤ e'.rank

/-- Where a name stands on the list of a family. -/
def indexOf (s : NwiState) (af : AddressFamily) (name : CString) : Option Nat :=
  (s.names af).findIdx? fun n => n = name

/-! ### The live view -/

variable {s : NwiState} {af af' : AddressFamily} {i j n p : Nat} {f : NwiIfstate → NwiIfstate}

/-- No family uses more slots than its half has. -/
def Capacity (s : NwiState) : Prop := ∀ af, s.count af ≤ s.maxIfCount

/-- Each index of a family has a slot of its own. -/
@[simp] theorem slot_inj : s.slot af i = s.slot af j ↔ i = j := by
  cases af <;> simp [slot]

/-- The two halves do not overlap. -/
theorem slot_other_ne (hi : i < s.maxIfCount) (hj : j < s.maxIfCount) :
    s.slot (nwiOtherAf af) j ≠ s.slot af i := by
  cases af <;> simp only [slot, nwiOtherAf] <;> omega

/-- The slots that a family may use are in the list. -/
theorem slot_lt (hi : i < s.maxIfCount) : s.slot af i < s.ifstateList.length := by
  rw [s.ifstateList_length]
  cases af <;> simp only [slot] <;> omega

theorem slot_eq_add (s : NwiState) (af : AddressFamily) (i : Nat) :
    s.slot af i = s.slot af 0 + i := by
  cases af <;> simp [slot]

theorem slot_congr {s' : NwiState} (h : s'.maxIfCount = s.maxIfCount) :
    s'.slot af i = s.slot af i := by
  cases af <;> simp [slot, h]

/-- The entries in use are the first of the slots of the family. -/
theorem getElem?_live (s : NwiState) (af : AddressFamily) (i : Nat) :
    (s.live af)[i]? = if i < s.count af then s.ifstateList[s.slot af i]? else none := by
  rw [live, List.getElem?_take, List.getElem?_drop, ← slot_eq_add]

/-- A live entry is what its slot holds. -/
theorem getElem?_live_of_lt (hc : s.Capacity) (hi : i < s.count af) :
    (s.live af)[i]? = some (s.ifstate (s.slot af i)) := by
  have hlt : s.slot af i < s.ifstateList.length := slot_lt (lt_of_lt_of_le hi (hc af))
  rw [getElem?_live, if_pos hi, ifstate, List.getD_eq_getElem?_getD, List.getElem?_eq_getElem hlt]
  rfl

/-- There are as many entries as the count says. -/
theorem length_live (hc : s.Capacity) (af : AddressFamily) : (s.live af).length = s.count af := by
  have hle := hc af
  have hlen := s.ifstateList_length
  rw [live, List.length_take, List.length_drop]
  cases af <;> simp only [slot] <;> omega

theorem length_names (hc : s.Capacity) (af : AddressFamily) :
    (s.names af).length = s.count af := by
  rw [names, List.length_map, length_live hc]

theorem getElem?_names (s : NwiState) (af : AddressFamily) (i : Nat) :
    (s.names af)[i]? = ((s.live af)[i]?).map (·.ifname) :=
  List.getElem?_map

theorem getElem?_names_of_lt (hc : s.Capacity) (hi : i < s.count af) :
    (s.names af)[i]? = some (s.ifstate (s.slot af i)).ifname := by
  rw [getElem?_names, getElem?_live_of_lt hc hi]
  rfl

/-- Two states agree on a family when they agree on its count and on its slots. -/
theorem live_congr {s s' : NwiState} (hcount : s'.count af = s.count af)
    (hslot : ∀ i < s.count af, s'.ifstateList[s'.slot af i]? = s.ifstateList[s.slot af i]?) :
    s'.live af = s.live af := by
  apply List.ext_getElem?
  intro i
  rw [getElem?_live, getElem?_live, hcount]
  split
  · next hi => exact hslot i hi
  · rfl

/-! ### Writes and the live view -/

@[simp] theorem count_modify : (s.modify p f).count af = s.count af := by
  cases af <;> rfl

@[simp] theorem slot_modify : (s.modify p f).slot af i = s.slot af i := by
  cases af <;> rfl

@[simp] theorem maxIfCount_modify : (s.modify p f).maxIfCount = s.maxIfCount := rfl

/-- Only one slot is changed. -/
theorem getElem?_ifstateList_modify :
    (s.modify p f).ifstateList[n]? = if p = n then s.ifstateList[n]?.map f else s.ifstateList[n]? := by
  simp only [modify, List.getElem?_modify]
  split <;> simp

/-- Writing a slot of a family changes that entry of its list. -/
theorem live_modify_self : (s.modify (s.slot af i) f).live af = (s.live af).modify i f := by
  apply List.ext_getElem?
  intro j
  rw [getElem?_live, List.getElem?_modify, getElem?_live, count_modify, slot_modify,
    getElem?_ifstateList_modify]
  simp only [slot_inj]
  split
  · split <;> simp
  · simp

/-- Writing a slot of a family leaves the other list alone. -/
theorem live_modify_other (hc : s.Capacity) (hi : i < s.maxIfCount) :
    (s.modify (s.slot af i) f).live (nwiOtherAf af) = s.live (nwiOtherAf af) := by
  refine live_congr count_modify fun j hj => ?_
  rw [slot_modify, getElem?_ifstateList_modify,
    if_neg (slot_other_ne hi (lt_of_lt_of_le hj (hc _))).symm]

/-- Writing the last entry of a list. -/
theorem modify_length_concat {α : Type} (l : List α) (a : α) (g : α → α) :
    (l ++ [a]).modify l.length g = l ++ [g a] := by
  induction l with
  | nil => rfl
  | cons b l ih => rw [List.cons_append, List.length_cons, List.modify_succ_cons, ih, List.cons_append]

/-- A write that keeps a projection of the entry keeps that projection of every list. -/
theorem map_live_modify {α : Type} {π : NwiIfstate → α} (hπ : ∀ e, π (f e) = π e) :
    ((s.modify p f).live af).map π = (s.live af).map π := by
  apply List.ext_getElem?
  intro j
  rw [List.getElem?_map, List.getElem?_map, getElem?_live, getElem?_live, count_modify,
    slot_modify, getElem?_ifstateList_modify]
  split
  · split
    · rw [Option.map_map]
      exact congrArg (Option.map · _) (funext hπ)
    · rfl
  · rfl

/-- A change that keeps the name keeps the names. -/
theorem names_modify (hf : ∀ e, (f e).ifname = e.ifname) : (s.modify p f).names af = s.names af :=
  map_live_modify hf

theorem capacity_modify (hc : s.Capacity) : (s.modify p f).Capacity := by
  intro af
  rw [count_modify]
  exact hc af

@[simp] theorem count_setCount_self : (s.setCount af n).count af = n := by
  cases af <;> rfl

@[simp] theorem count_setCount_other :
    (s.setCount af n).count (nwiOtherAf af) = s.count (nwiOtherAf af) := by
  cases af <;> rfl

@[simp] theorem ifstateList_setCount : (s.setCount af n).ifstateList = s.ifstateList := by
  cases af <;> rfl

@[simp] theorem maxIfCount_setCount : (s.setCount af n).maxIfCount = s.maxIfCount := by
  cases af <;> rfl

@[simp] theorem slot_setCount : (s.setCount af n).slot af' i = s.slot af' i := by
  cases af <;> cases af' <;> rfl

@[simp] theorem live_setCount_other :
    (s.setCount af n).live (nwiOtherAf af) = s.live (nwiOtherAf af) := by
  refine live_congr count_setCount_other fun j _ => ?_
  rw [ifstateList_setCount, slot_setCount]

/-- The list of a family grows at its end. -/
theorem live_push {e : NwiIfstate} (hc : s.count af < s.maxIfCount) :
    ((s.modify (s.slot af (s.count af)) fun _ => e).setCount af (s.count af + 1)).live af =
      s.live af ++ [e] := by
  have hlt : s.slot af (s.count af) < s.ifstateList.length := slot_lt hc
  have hlen : (s.live af).length = s.count af := by
    have := s.ifstateList_length
    rw [live, List.length_take, List.length_drop]
    cases af <;> simp only [slot] at hlt ⊢ <;> omega
  apply List.ext_getElem?
  intro j
  rw [getElem?_live, count_setCount_self, ifstateList_setCount, slot_setCount, slot_modify,
    getElem?_ifstateList_modify]
  simp only [slot_inj]
  rcases lt_trichotomy j (s.count af) with hj | hj | hj
  · rw [if_pos (by omega), if_neg (by omega), List.getElem?_append_left (by omega), getElem?_live,
      if_pos hj]
  · subst hj
    rw [if_pos (by omega), if_pos rfl, List.getElem?_eq_getElem hlt,
      List.getElem?_append_right (by omega), hlen]
    simp
  · rw [if_neg (by omega), List.getElem?_append_right (by omega), hlen]
    simp
    omega

/-- An entry of a list after a write: the written one, or the old one. -/
theorem getElem?_live_modify_inv {e : NwiIfstate} (h : ((s.modify p f).live af)[i]? = some e) :
    ∃ e₀, (s.live af)[i]? = some e₀ ∧
      (e = f e₀ ∧ p = s.slot af i ∨ e = e₀ ∧ p ≠ s.slot af i) := by
  rw [getElem?_live, count_modify, slot_modify, getElem?_ifstateList_modify] at h
  rw [getElem?_live]
  split at h
  · next hi =>
    rw [if_pos hi]
    split at h
    · next hp =>
      obtain ⟨e₀, he₀, rfl⟩ := Option.map_eq_some_iff.mp h
      exact ⟨e₀, he₀, Or.inl ⟨rfl, hp⟩⟩
    · next hp => exact ⟨e, h, Or.inr ⟨rfl, hp⟩⟩
  · cases h

/-- A slot of one half is no slot of the other. -/
theorem slot_eq_iff (hi : i < s.maxIfCount) (hj : j < s.maxIfCount) :
    s.slot af i = s.slot af' j ↔ af = af' ∧ i = j := by
  cases af <;> cases af' <;> simp only [slot, reduceCtorEq, true_and, false_and, iff_false] <;>
    omega

end NwiState

/-! ## Lookup -/

/-- `nwi_state_get_ifstate_with_index` -/
def nwiStateGetIfstateWithIndex (state : NwiState) (af : AddressFamily) (idx : Nat) : Option Nat :=
  if idx ≥ state.maxIfCount then
    none
  else if idx ≥ state.count af then
    none
  else
    some (state.slot af idx)

/-- The search loop of `nwi_state_get_ifstate_with_name`, at index `idx` with `n` entries
still to look at. -/
def nwiStateGetIfstateWithNameLoop (state : NwiState) (af : AddressFamily) (name : CString) :
    (idx n : Nat) → Option Nat
  | _, 0 => none
  | idx, n + 1 =>
    match nwiStateGetIfstateWithIndex state af idx with
    | none => none
    | some ifstate =>
      if name = (state.ifstate ifstate).ifname then
        some ifstate
      else
        nwiStateGetIfstateWithNameLoop state af name (idx + 1) n

/-- `nwi_state_get_ifstate_with_name` -/
def nwiStateGetIfstateWithName (state : Option NwiState) (af : AddressFamily) (name : CString) :
    Option Nat :=
  match state with
  | none => none
  | some state =>
    if state.count af > state.maxIfCount then
      none
    else
      nwiStateGetIfstateWithNameLoop state af name 0 (state.count af)

namespace NwiState

variable {s : NwiState} {af : AddressFamily} {i n : Nat} {name : CString}

/-- An index below the count gives the slot. -/
theorem nwiStateGetIfstateWithIndex_of_lt (hc : s.Capacity) (hi : i < s.count af) :
    nwiStateGetIfstateWithIndex s af i = some (s.slot af i) := by
  have hmax := hc af
  rw [nwiStateGetIfstateWithIndex, if_neg (by omega), if_neg (by omega)]

/-- The search, from any index on, finds the first entry of the name. -/
theorem nwiStateGetIfstateWithNameLoop_eq (hc : s.Capacity) :
    ∀ (n idx : Nat), idx + n = s.count af →
      nwiStateGetIfstateWithNameLoop s af name idx n =
        (((s.names af).drop idx).findIdx? fun n => n = name).map fun k => s.slot af (idx + k) := by
  intro n
  induction n with
  | zero =>
    intro idx hidx
    have hnil : (s.names af).drop idx = [] := by
      rw [List.drop_eq_nil_iff, length_names hc]
      omega
    rw [hnil]
    rfl
  | succ n ih =>
    intro idx hidx
    have hi : idx < s.count af := by omega
    have hcons : (s.names af).drop idx =
        (s.ifstate (s.slot af idx)).ifname :: (s.names af).drop (idx + 1) := by
      have hget := getElem?_names_of_lt hc hi
      obtain ⟨hlt, hget⟩ := List.getElem?_eq_some_iff.mp hget
      rw [List.drop_eq_getElem_cons hlt, hget]
    rw [nwiStateGetIfstateWithNameLoop, nwiStateGetIfstateWithIndex_of_lt hc hi, hcons,
      List.findIdx?_cons]
    by_cases hname : (s.ifstate (s.slot af idx)).ifname = name
    · simp [hname]
    · simp only [hname, Ne.symm hname, if_false, decide_false, Bool.false_eq_true]
      rw [ih (idx + 1) (by omega), Option.map_map]
      congr 1
      funext k
      simp only [Function.comp_apply]
      congr 1
      omega

/-- The search finds the first live entry of that name. -/
theorem nwiStateGetIfstateWithName_eq (hc : s.Capacity) :
    nwiStateGetIfstateWithName (some s) af name = (s.indexOf af name).map (s.slot af) := by
  have hle := hc af
  simp only [nwiStateGetIfstateWithName]
  rw [if_neg (by omega), nwiStateGetIfstateWithNameLoop_eq hc _ _ (Nat.zero_add _), indexOf]
  simp

/-- Nothing is found only where there is no entry of the name. -/
theorem indexOf_eq_none : s.indexOf af name = none ↔ name ∉ s.names af := by
  simp only [indexOf, List.findIdx?_eq_none_iff, decide_eq_false_iff_not]
  exact ⟨fun h hm => h name hm rfl, fun h n hm heq => h (heq ▸ hm)⟩

/-- With distinct names, a name stands at the only index that holds it. -/
theorem indexOf_eq_some (hnd : (s.names af).Nodup) :
    s.indexOf af name = some i ↔ (s.names af)[i]? = some name := by
  rw [indexOf, List.findIdx?_eq_some_iff_getElem]
  constructor
  · rintro ⟨hlt, hname, -⟩
    rw [List.getElem?_eq_getElem hlt, of_decide_eq_true hname]
  · intro hget
    obtain ⟨hlt, hname⟩ := List.getElem?_eq_some_iff.mp hget
    refine ⟨hlt, decide_eq_true hname, fun j hj hje => ?_⟩
    have hjlt : j < (s.names af).length := lt_trans hj hlt
    have heq : (s.names af)[j] = (s.names af)[i] := by
      rw [hname]
      simpa using hje
    have := (List.Nodup.getElem_inj_iff hnd).mp heq
    omega

end NwiState

end ConfigdExtra
