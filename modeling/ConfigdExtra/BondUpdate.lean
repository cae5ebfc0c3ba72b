import ConfigdExtra.CallLogic

/-!
# Reconciling bonds: `_SCBondInterfaceUpdateConfiguration`

The bonds of the preferences are compared with the bonds of the kernel, and the kernel is
brought in line by `ioctl`s: first what is no longer configured is removed, then what is not
there yet is added.

The function compares members with `CFEqual`, which looks at their types first. Here a BSD name
stands for one interface, so that members are equal when their names are: the members of both
lists are made of names, by the same function. Only where companion preferences have an interface
of that name with another type than the system's would a configured member differ from the active
one.

* `SCBondInterface` — a bond as the function sees it, configured or active.
* `BondCall` — the calls it issues; each may fail.
* `bondInterfaceUpdateConfiguration` — the function, as a program of such calls.
* `Kernel`, `bondApply`, `copyActive` — the bonds of a kernel, what the calls do to them, and
  the snapshot of them the function works from.
* `bondMachine` — the kernel as a machine: the states in between are to be exclusive, and only
  a current member may be removed.
-/

namespace ConfigdExtra

/-! ## Bonds -/

/-- The BSD name of an interface. -/
abbrev BsdName : Type := String

/-- A member of a bond: of an `SCNetworkInterface`, what the update reads. -/
structure BondMember where
  /-- `SCNetworkInterfaceGetBSDName` -/
  bsdName : BsdName
  /-- `supportsBond` -/
  supportsBond : Bool
  deriving DecidableEq, Repr

/-- `SCBondInterfaceRef` -/
structure SCBondInterface where
  /-- `SCNetworkInterfaceGetBSDName` -/
  bsdName : BsdName
  /-- `SCBondInterfaceGetMemberInterfaces`, which may be `NULL` -/
  interfaces : Option (List BondMember)
  /-- `SCBondInterfaceGetMode`, which may be `NULL` -/
  mode : Option Int
  deriving DecidableEq, Repr

/-- The members, none for `NULL`. -/
def SCBondInterface.members (bond : SCBondInterface) : List BondMember := bond.interfaces.getD []

/-- The BSD names of the members. -/
def SCBondInterface.memberNames (bond : SCBondInterface) : List BsdName :=
  bond.members.map (·.bsdName)

/-- `CFArrayContainsValue` on a list of members. A name stands for one interface, so that equal
names are equal interfaces. -/
def containsMember (interfaces : List BondMember) (interface : BondMember) : Bool :=
  interfaces.any fun i => i.bsdName = interface.bsdName

/-- `IF_BOND_MODE_LACP` -/
def ifBondModeLacp : Int := 0

/-! ## The update -/

/-- What the update asks of the system. -/
inductive BondCall where
  /-- `inet_dgram_socket` -/
  | socket
  /-- `SIOCIFCREATE`, by `__createInterface` -/
  | createInterface (bondIf : BsdName)
  /-- `SIOCIFDESTROY`, by `__destroyInterface` -/
  | destroyInterface (bondIf : BsdName)
  /-- `IF_BOND_OP_ADD_INTERFACE`, by `__bond_add_interface` -/
  | addInterface (bondIf interfaceIf : BsdName)
  /-- `IF_BOND_OP_REMOVE_INTERFACE`, by `__bond_remove_interface` -/
  | removeInterface (bondIf interfaceIf : BsdName)
  /-- `IF_BOND_OP_SET_MODE`, by `__bond_set_mode` -/
  | setMode (bondIf : BsdName) (mode : Int)
  deriving DecidableEq, Repr

/-- The local variables that the loops share. -/
structure UpdateLocals where
  /-- `ok` -/
  ok : Bool
  /-- `s != -1` -/
  s : Bool
  deriving DecidableEq, Repr

/-- `if (s == -1) { s = inet_dgram_socket(); … goto done; }` -/
def openSocket (v : UpdateLocals) : Calls BondCall UpdateLocals :=
  if v.s then
    pure v
  else do
    let opened ← Calls.issue .socket
    if opened then pure { v with s := true } else .exit

/-- Issue a call whose failure makes `ok` `FALSE`. -/
def issueOrFail (v : UpdateLocals) (call : BondCall) : Calls BondCall UpdateLocals := do
  let done ← Calls.issue call
  pure (if done then v else { v with ok := false })

/-- `__bond_set_mode`: no mode stands for LACP. Its result is ignored by its callers. -/
def bondSetMode (bondIf : BsdName) (mode : Option Int) : Calls BondCall Bool :=
  Calls.issue (.setMode bondIf (mode.getD ifBondModeLacp))

/-- The first loop, for one member of an active bond that is still configured. -/
def removeIfVanished (aBond cBond : SCBondInterface) (v : UpdateLocals) (aInterface : BondMember) :
    Calls BondCall UpdateLocals :=
  if cBond.members.length = 0 ∨ containsMember cBond.members aInterface = false then do
    -- this device is no longer part of the bond
    let v ← openSocket v
    issueOrFail v (.removeInterface aBond.bsdName aInterface.bsdName)
  else
    pure v

/-- The first loop, for one active bond. -/
def removeVanished (config : List SCBondInterface) (v : UpdateLocals) (aBond : SCBondInterface) :
    Calls BondCall UpdateLocals :=
  match config.find? fun cBond => aBond.bsdName = cBond.bsdName with
  | some cBond => aBond.members.foldlM (removeIfVanished aBond cBond) v
  | none => do
    -- this interface is no longer configured
    let v ← openSocket v
    issueOrFail v (.destroyInterface aBond.bsdName)

/-- The removal of one device of a bond whose first device does not match. -/
def removeToReorder (aBond cBond : SCBondInterface) (v : UpdateLocals) (aInterface : BondMember) :
    Calls BondCall UpdateLocals :=
  if containsMember cBond.members aInterface = false then
    -- already removed
    pure v
  else
    issueOrFail v (.removeInterface aBond.bsdName aInterface.bsdName)

/-- The addition of one member, unless it is among `aInterfaces` already or not supported. -/
def addIfMissing (cBond : SCBondInterface) (aInterfaces : List BondMember) (v : UpdateLocals)
    (cInterface : BondMember) : Calls BondCall UpdateLocals :=
  if aInterfaces.length = 0 ∨ containsMember aInterfaces cInterface = false then
    if cInterface.supportsBond = false then
      pure v
    else
      issueOrFail v (.addInterface cBond.bsdName cInterface.bsdName)
  else
    pure v

/-- The first devices of two bonds that have devices are not `CFEqual`: their names differ. -/
def firstDiffers (cBond aBond : SCBondInterface) : Bool :=
  match cBond.members, aBond.members with
  | c :: _, a :: _ => c.bsdName ≠ a.bsdName
  | _, _ => false

/-- The member lists of two bonds are not `_SC_CFEqual`: their lists of names differ. -/
def ifListChange (cBond aBond : SCBondInterface) : Bool :=
  cBond.interfaces.map (List.map (·.bsdName)) ≠ aBond.interfaces.map (List.map (·.bsdName))

/-- The device lists of a bond that is configured and active. -/
def updateMembers (cBond aBond : SCBondInterface) (v : UpdateLocals) :
    Calls BondCall UpdateLocals :=
  if firstDiffers cBond aBond then do
    -- all devices are removed and added back in the preferred order
    let v ← aBond.members.foldlM (removeToReorder aBond cBond) v
    cBond.members.foldlM (addIfMissing cBond []) v
  else
    cBond.members.foldlM (addIfMissing cBond aBond.members) v

/-- The second loop, for a bond that is configured and active. -/
def updateExisting (cBond aBond : SCBondInterface) (v : UpdateLocals) :
    Calls BondCall UpdateLocals :=
  if aBond.mode = cBond.mode ∧ ifListChange cBond aBond = false then
    pure v
  else do
    let v ← openSocket v
    if aBond.mode ≠ cBond.mode then do
      let _ ← bondSetMode aBond.bsdName cBond.mode
      if ifListChange cBond aBond then updateMembers cBond aBond v else pure v
    else
      updateMembers cBond aBond v

/-- The second loop, for a bond that is configured and not active. -/
def establish (cBond : SCBondInterface) (v : UpdateLocals) : Calls BondCall UpdateLocals := do
  let v ← openSocket v
  let created ← Calls.issue (.createInterface cBond.bsdName)
  if created then do
    let _ ← bondSetMode cBond.bsdName cBond.mode
    cBond.members.foldlM (addIfMissing cBond []) v
  else
    pure { v with ok := false }

/-- The second loop, for one configured bond. -/
def addConfigured (active : List SCBondInterface) (v : UpdateLocals) (cBond : SCBondInterface) :
    Calls BondCall UpdateLocals :=
  match active.find? fun aBond => cBond.bsdName = aBond.bsdName with
  | some aBond => updateExisting cBond aBond v
  | none => establish cBond v

/-- `_SCBondInterfaceUpdateConfiguration`. `prefs` stands for `NULL` or the bonds that
`SCBondInterfaceCopyAll` finds, `active` for what `_SCBondInterfaceCopyActive` returns. An early
exit is the `goto done` with `ok` at `FALSE`. -/
def bondInterfaceUpdateConfiguration (prefs active : Option (List SCBondInterface)) :
    Calls BondCall Bool :=
  match prefs with
  | none => pure false
  | some config => do
    let active := active.getD []
    let v ← active.foldlM (removeVanished config) { ok := true, s := false }
    let v ← config.foldlM (addConfigured active) v
    pure v.ok

/-! ## The kernel -/

/-- A bond of the kernel. -/
structure KernelBond where
  /-- its mode -/
  mode : Int
  /-- its members, in the order they were added -/
  members : List BsdName
  deriving DecidableEq, Repr

/-- The bonds of a kernel, by name. -/
abbrev Kernel : Type := BsdName → Option KernelBond

/-- Change one bond, if it is there. -/
def Kernel.modify (k : Kernel) (bondIf : BsdName) (f : KernelBond → KernelBond) : Kernel :=
  Function.update k bondIf ((k bondIf).map f)

/-- What a call does when it succeeds: a new bond is without members, a member is added behind
the others. -/
def bondApply (k : Kernel) : BondCall → Kernel
  | .socket => k
  | .createInterface bondIf => Function.update k bondIf (some { mode := ifBondModeLacp, members := [] })
  | .destroyInterface bondIf => Function.update k bondIf none
  | .addInterface bondIf interfaceIf =>
    k.modify bondIf fun b => { b with members := b.members ++ [interfaceIf] }
  | .removeInterface bondIf interfaceIf =>
    k.modify bondIf fun b => { b with members := b.members.filter (· ≠ interfaceIf) }
  | .setMode bondIf mode => k.modify bondIf fun b => { b with mode := mode }

/-- The kernel with the given bonds. -/
def Kernel.ofList (bonds : List (BsdName × KernelBond)) : Kernel :=
  fun n => (bonds.find? fun b => b.1 = n).map (·.2)

/-- What `_SCBondInterfaceCopyActive` makes of one bond: its mode and its members. A bond is
created with an empty array of members, and keeps it if the kernel reports none. -/
def activeBond (supportsBond : BsdName → Bool) (bondIf : BsdName) (b : KernelBond) :
    SCBondInterface where
  bsdName := bondIf
  interfaces := some (b.members.map fun m => { bsdName := m, supportsBond := supportsBond m })
  mode := some b.mode

/-- `_SCBondInterfaceCopyActive` -/
def copyActive (supportsBond : BsdName → Bool) (bonds : List (BsdName × KernelBond)) :
    List SCBondInterface :=
  bonds.map fun b => activeBond supportsBond b.1 b.2

/-- No interface is a member of two bonds. -/
def Kernel.Exclusive (k : Kernel) : Prop :=
  ∀ n b n' b' m, k n = some b → k n' = some b' → m ∈ b.members → m ∈ b'.members → n = n'

/-- A remove is of a current member. -/
def Kernel.Removes (k : Kernel) : BondCall → Prop
  | .removeInterface bondIf interfaceIf => ∃ b, k bondIf = some b ∧ interfaceIf ∈ b.members
  | _ => True

/-- The kernel as a machine whose calls succeed. -/
def bondMachine : Machine Kernel BondCall where
  step k call done := if done then bondApply k call else k
  Answers _ _ done := done = true
  Inv k := k.Exclusive
  Allowed k call := k.Removes call

end ConfigdExtra
