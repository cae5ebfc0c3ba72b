import ConfigdExtra.NwiState

/-!
# Building a state: `nwi_state_new`, `nwi_state_add_ifstate`, `nwi_state_finalize`

The operations a builder of network state applies, as the source computes them, slot by
slot:

* `nwiStateNew`, `nwiStateFixAfAliases` — a new buffer, and growth into a larger one.
* `nwiStateAddIfstate` — update in place, or a push at the end of a list and its alias.
* `nwiStateFinalize`, `nwiStateClear` — the interface list, and an emptied family.

The last section says which fields the updates of an entry keep.
-/

namespace ConfigdExtra

/-! ## Operations -/

/-- `NWI_STATE_VERSION` -/
def nwiStateVersion : BitVec 32 := 0x20170601

/-- The allocation of `nwi_state_new`: `malloc`, `memset`, and the two header fields. -/
def nwiStateAlloc (maxIfCount : Nat) : NwiState where
  version := nwiStateVersion
  maxIfCount := maxIfCount
  ipv4Count := 0
  ipv6Count := 0
  ifListCount := 0
  ref := 0
  reachFlagsV4 := 0
  reachFlagsV6 := 0
  generationCount := 0
  ifstateList := List.replicate (2 * maxIfCount) .zero
  ifList := List.replicate maxIfCount 0
  ifstateList_length := List.length_replicate
  ifList_length := List.length_replicate

/-- `memcpy` of the entries in use of one family, from one buffer into another. -/
def copyIfstates (state old : NwiState) (af : AddressFamily) : NwiState :=
  { state with
    ifstateList := state.ifstateList.mapIdx fun p ifstate =>
      if state.slot af 0 ≤ p ∧ p < state.slot af (old.count af) then
        old.ifstate (old.slot af (p - state.slot af 0))
      else
        ifstate
    ifstateList_length := by rw [List.length_mapIdx, state.ifstateList_length] }

/-- Apply `f` to the first `n` entries of a family, one after the other. -/
def forEachIfstate (state : NwiState) (af : AddressFamily) (f : NwiIfstate → NwiIfstate) :
    (n : Nat) → NwiState
  | 0 => state
  | n + 1 => (forEachIfstate state af f n).modify (state.slot af n) f

/-- The body of the loops of `nwi_state_fix_af_aliases`. -/
def NwiIfstate.addOffset (offset : Int) (ifstate : NwiIfstate) : NwiIfstate :=
  if ifstate.afAliasOffset ≠ 0 then
    { ifstate with afAliasOffset := ifstate.afAliasOffset + offset }
  else
    ifstate

/-- `nwi_state_fix_af_aliases` -/
def nwiStateFixAfAliases (state : NwiState) (oldMaxIfCount : Nat) : NwiState :=
  let offset : Int := state.maxIfCount - oldMaxIfCount
  if offset < 0 then
    state
  else
    -- IPv6 is higher in memory: its aliases are backward, those of IPv4 forward
    let state := forEachIfstate state .inet (NwiIfstate.addOffset offset) state.ipv4Count
    forEachIfstate state .inet6 (NwiIfstate.addOffset (-offset)) state.ipv6Count

/-- `nwi_state_add_to_if_list` -/
def nwiStateAddToIfList (state : NwiState) (ifstate : Nat) : NwiState :=
  if (state.ifstate ifstate).flags &&& nwiIfstateFlagsNotInIflist ≠ 0 then
    state
  else if state.ifListCount ≥ state.maxIfCount then
    state
  else if (state.ifList.take state.ifListCount).any fun scan =>
      (state.ifstate scan).ifname = (state.ifstate ifstate).ifname then
    -- it's already in the list
    state
  else
    { state with
      ifList := state.ifList.set state.ifListCount ifstate
      ifListCount := state.ifListCount + 1
      ifList_length := by rw [List.length_set, state.ifList_length] }

/-- The merge loop of `nwi_state_set_if_list`; every turn consumes an entry of one family,
so `n` turns suffice for `n` entries. -/
def nwiStateSetIfListLoop (state : NwiState) : (n v4 v6 : Nat) → NwiState
  | 0, _, _ => state
  | n + 1, v4, v6 =>
    match nwiStateGetIfstateWithIndex state .inet v4,
        nwiStateGetIfstateWithIndex state .inet6 v6 with
    | none, none => state
    | some scanV4, none =>
      nwiStateSetIfListLoop (nwiStateAddToIfList state scanV4) n (v4 + 1) v6
    | none, some scanV6 =>
      nwiStateSetIfListLoop (nwiStateAddToIfList state scanV6) n v4 (v6 + 1)
    | some scanV4, some scanV6 =>
      -- add the higher rank of v4 or v6
      if (state.ifstate scanV4).rank ≤ (state.ifstate scanV6).rank then
        nwiStateSetIfListLoop (nwiStateAddToIfList state scanV4) n (v4 + 1) v6
      else
        nwiStateSetIfListLoop (nwiStateAddToIfList state scanV6) n v4 (v6 + 1)

/-- `nwi_state_set_if_list` -/
def nwiStateSetIfList (state : NwiState) : NwiState :=
  nwiStateSetIfListLoop { state with ifListCount := 0 } (state.ipv4Count + state.ipv6Count) 0 0

/-- `nwi_state_new` -/
def nwiStateNew (oldState : Option NwiState) (maxIfCount : Nat) : Option NwiState :=
  match oldState with
  | none => if maxIfCount = 0 then none else some (nwiStateAlloc maxIfCount)
  | some old =>
    if old.maxIfCount ≥ maxIfCount then
      -- if we're staying the same or shrinking, don't grow
      some old
    else
      let state := (nwiStateAlloc maxIfCount).setCount .inet6 old.ipv6Count
      let state := copyIfstates state old .inet6
      let state := state.setCount .inet old.ipv4Count
      let state := copyIfstates state old .inet
      let state := nwiStateFixAfAliases state old.maxIfCount
      some (nwiStateSetIfList state)

/-- `nwi_state_finalize` -/
def nwiStateFinalize (state : Option NwiState) : Option NwiState :=
  state.map nwiStateSetIfList

/-- `nwi_state_clear` -/
def nwiStateClear (state : NwiState) (af : AddressFamily) : NwiState := state.setCount af 0

/-- Store `af_alias_offset`. -/
def NwiIfstate.setAfAliasOffset (offset : Int) (ifstate : NwiIfstate) : NwiIfstate :=
  { ifstate with afAliasOffset := offset }

/-- `nwi_state_add_ifstate_alias` -/
def nwiStateAddIfstateAlias (state : NwiState) (ifstate : Nat) : NwiState :=
  match nwiStateGetIfstateWithName (some state) (nwiOtherAf (state.ifstate ifstate).af)
      (state.ifstate ifstate).ifname with
  | none => state
  | some aliasPtr =>
    let state := state.modify ifstate (.setAfAliasOffset (aliasPtr - ifstate))
    state.modify aliasPtr (.setAfAliasOffset (ifstate - aliasPtr))

/-- `_nwi_ifstate_set_vpn_server` -/
def nwiIfstateSetVpnServer (ifstate : NwiIfstate) (servAddr : Option Sockaddr) : NwiIfstate :=
  match servAddr with
  | none => { ifstate with vpnServerAddress := List.replicate vpnServerAddressSize 0 }
  | some servAddr =>
    let len := servAddr.saLen
    if len = 0 ∨ len > vpnServerAddressSize then
      ifstate
    else
      { ifstate with
        vpnServerAddress := servAddr.bytes.take len ++ ifstate.vpnServerAddress.drop len }

/-- The tail of `nwi_state_add_ifstate`: the address, rank and flag fields of the
existing or new element. -/
def NwiIfstate.update (af : AddressFamily) (flags : BitVec 64) (rank : BitVec 32)
    (ifa : Option InAddrUnion) (vpnServerAddr : Option Sockaddr) (reachFlags : BitVec 32)
    (ifstate : NwiIfstate) : NwiIfstate :=
  let ifstate :=
    match ifa, af with
    | none, _ => ifstate
    | some ifa, .inet => { ifstate with addr := { ifstate.addr with iaddr := ifa.iaddr } }
    | some ifa, .inet6 => { ifstate with addr := ifa }
  let ifstate := nwiIfstateSetVpnServer ifstate (vpnServerAddr.filter fun sa => sa.saFamily ≠ 0)
  { ifstate with
    reachFlags := reachFlags
    rank := rank
    flags := ifstate.flags &&& ~~~nwiIfstateFlagsMask ||| nwiIfstateFlags flags }

/-- `prev->flags &= ~NWI_IFSTATE_FLAGS_LAST_ITEM` -/
def NwiIfstate.clearLastItem (ifstate : NwiIfstate) : NwiIfstate :=
  { ifstate with flags := ifstate.flags &&& ~~~nwiIfstateFlagsLastItem }

/-- A cleared slot named and put at the end of its list. -/
def NwiIfstate.fresh (ifname : CString) (af : AddressFamily) : NwiIfstate :=
  { NwiIfstate.zero with
    ifname := strlcpy ifname ifnamsiz
    af := af
    flags := NwiIfstate.zero.flags ||| nwiIfstateFlagsLastItem }

/-- The branch of `nwi_state_add_ifstate` that adds to the end, up to the alias. -/
def nwiStatePushIfstate (state : NwiState) (ifname : CString) (af : AddressFamily) : NwiState :=
  let count := state.count af
  let ifstate := state.slot af count
  -- previous ifstate is no longer last
  let state := if count > 0 then state.modify (ifstate - 1) .clearLastItem else state
  let state := state.modify ifstate fun _ => .fresh ifname af
  state.setCount af (count + 1)

/-- `nwi_state_add_ifstate`: the new state and the returned pointer. -/
def nwiStateAddIfstate (state : NwiState) (ifname : CString) (af : AddressFamily)
    (flags : BitVec 64) (rank : BitVec 32) (ifa : Option InAddrUnion)
    (vpnServerAddr : Option Sockaddr) (reachFlags : BitVec 32) : NwiState × Option Nat :=
  let update := NwiIfstate.update af flags rank ifa vpnServerAddr reachFlags
  match nwiStateGetIfstateWithName (some state) af ifname with
  | some ifstate =>
    if (state.ifstate ifstate).rank < rank then
      (state, none)
    else
      (state.modify ifstate update, some ifstate)
  | none =>
    if state.count af = state.maxIfCount then
      -- full
      (state, none)
    else
      let ifstate := state.slot af (state.count af)
      let state := nwiStatePushIfstate state ifname af
      -- add the alias
      let state := nwiStateAddIfstateAlias state ifstate
      (state.modify ifstate update, some ifstate)

/-! ## What the field updates keep -/

namespace NwiIfstate

variable {af : AddressFamily} {flags : BitVec 64} {rank : BitVec 32} {ifa : Option InAddrUnion}
  {vpnServerAddr : Option Sockaddr} {reachFlags : BitVec 32} {e : NwiIfstate}

theorem nwiIfstateSetVpnServer_eq (e : NwiIfstate) (sa : Option Sockaddr) :
    ∃ b, nwiIfstateSetVpnServer e sa = { e with vpnServerAddress := b } := by
  cases sa with
  | none => exact ⟨_, rfl⟩
  | some sa =>
    simp only [nwiIfstateSetVpnServer]
    split
    · exact ⟨e.vpnServerAddress, rfl⟩
    · exact ⟨_, rfl⟩

/-- `update` leaves the identity and the position of an entry alone. -/
theorem update_eq (af : AddressFamily) (flags : BitVec 64) (rank : BitVec 32)
    (ifa : Option InAddrUnion) (vpnServerAddr : Option Sockaddr) (reachFlags : BitVec 32)
    (e : NwiIfstate) :
    ∃ addr vpn, e.update af flags rank ifa vpnServerAddr reachFlags =
      { e with
        addr := addr
        vpnServerAddress := vpn
        reachFlags := reachFlags
        rank := rank
        flags := e.flags &&& ~~~nwiIfstateFlagsMask ||| nwiIfstateFlags flags } := by
  simp only [update]
  split
  all_goals
    obtain ⟨b, hb⟩ := nwiIfstateSetVpnServer_eq _ _
    rw [hb]
    exact ⟨_, _, rfl⟩

@[simp] theorem update_ifname :
    (e.update af flags rank ifa vpnServerAddr reachFlags).ifname = e.ifname := by
  obtain ⟨addr, vpn, h⟩ := update_eq af flags rank ifa vpnServerAddr reachFlags e
  rw [h]

@[simp] theorem update_af :
    (e.update af flags rank ifa vpnServerAddr reachFlags).af = e.af := by
  obtain ⟨addr, vpn, h⟩ := update_eq af flags rank ifa vpnServerAddr reachFlags e
  rw [h]

@[simp] theorem update_afAliasOffset :
    (e.update af flags rank ifa vpnServerAddr reachFlags).afAliasOffset = e.afAliasOffset := by
  obtain ⟨addr, vpn, h⟩ := update_eq af flags rank ifa vpnServerAddr reachFlags e
  rw [h]

@[simp] theorem update_ifGenerationCount :
    (e.update af flags rank ifa vpnServerAddr reachFlags).ifGenerationCount =
      e.ifGenerationCount := by
  obtain ⟨addr, vpn, h⟩ := update_eq af flags rank ifa vpnServerAddr reachFlags e
  rw [h]

theorem isLastItem_iff : e.IsLastItem ↔ e.flags.getLsbD 12 = true := by
  have h : nwiIfstateFlagsLastItem = BitVec.twoPow 64 12 := by decide
  rw [IsLastItem, h, BitVec.and_twoPow]
  split <;> simp_all
  decide

@[simp] theorem isLastItem_update :
    (e.update af flags rank ifa vpnServerAddr reachFlags).IsLastItem ↔ e.IsLastItem := by
  obtain ⟨addr, vpn, h⟩ := update_eq af flags rank ifa vpnServerAddr reachFlags e
  rw [isLastItem_iff, isLastItem_iff, h]
  simp [nwiIfstateFlags, nwiIfstateFlagsMask]

theorem not_isLastItem_clearLastItem (e : NwiIfstate) : ¬ e.clearLastItem.IsLastItem := by
  rw [isLastItem_iff]
  simp [clearLastItem, nwiIfstateFlagsLastItem]

theorem isLastItem_fresh (ifname : CString) (af : AddressFamily) :
    (fresh ifname af).IsLastItem := by
  rw [isLastItem_iff]
  simp [fresh, zero, nwiIfstateFlagsLastItem]

end NwiIfstate

end ConfigdExtra
