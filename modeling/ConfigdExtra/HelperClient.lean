import ConfigdExtra.PropertyLists
import ConfigdExtra.SharedRights

/-!
# The client of the helper

A process that may not read or write a preferences file has a helper do it. It reaches the helper
through a port that it gets from a server, and the port of the server is kept for all threads.

* `HelperRight`, `HelperCall`, `helperSystem` — the rights to ports and files, and the calls.
* `schelperOpen`, `schelperExec`, `schelperClose` — sessions with the helper.
* `PreferencesHandle` — a preferences object, with `createHelper`, `accessHelper`,
  `synchronizeHelper`, `forceConfigurationRefreshHelper`, `preferencesAccess` and
  `preferencesDeallocate`.
* `Swaps`, `KeepsPort` — a function that gives the right to one port up for that to another.
* `preferencesThread_safe` — a thread that uses preferences objects only uses what it holds.
* `preferencesProcess_accounted` — what holds of every process with such threads.
-/

namespace ConfigdExtra

open SharedRights

/-! ## The system -/

abbrev Bytes := List UInt8

/-- A right that a process has from the kernel. -/
inductive HelperRight
  /-- a send right, under a name -/
  | port (name : UInt32)
  /-- an open file -/
  | file (fd : ℕ)
deriving DecidableEq, Repr

/-- `MACH_PORT_NULL` -/
def machPortNull : UInt32 := 0

/-- `SCHELPER_MSG_*` -/
inductive HelperMessage
  | auth
  | prefsOpen
  | prefsAccess
  | prefsClose
  | prefsSynchronize
  | interfaceRefresh
  | exit
deriving DecidableEq, Repr

/-- `struct stat`, as far as it is read -/
structure StatBuf where
  dev : ℤ
  ino : ℕ
  /-- `st_mtimespec` -/
  mtime : ℕ × ℕ
  size : ℕ
deriving DecidableEq, Repr

/-- `errno` -/
inductive OpenError
  | enoent
  | eperm
  | eacces
  | other
deriving DecidableEq, Repr

/-- What `helperinit` returns. -/
inductive HelperInit
  | success (port : UInt32)
  /-- `MACH_SEND_INVALID_DEST` -/
  | invalidDest
  | failed
deriving DecidableEq, Repr

/-- What `helperexec` returns. -/
inductive HelperReply
  | success (status : UInt32) (reply : Option Bytes)
  | failed
deriving DecidableEq, Repr

/-- A call of the kernel, or of a process behind a port. -/
inductive HelperCall
  /-- `bootstrap_look_up` -/
  | lookUp
  | helperinit (server : UInt32)
  | helperexec (port : UInt32) (msgID : HelperMessage) (data : Option Bytes)
  /-- `mach_port_deallocate` -/
  | deallocate (port : UInt32)
  /-- `open`, where `access` finds that the file can be read -/
  | openFile (path : String)
  | fstat (fd : ℕ)
  | read (fd : ℕ) (size : ℕ)
  | close (fd : ℕ)

namespace HelperCall

@[reducible] def Reply : HelperCall → Type
  | lookUp => UInt32
  | helperinit _ => HelperInit
  | helperexec _ _ _ => HelperReply
  | deallocate _ => Unit
  | openFile _ => Except OpenError ℕ
  | fstat _ => Option StatBuf
  | read _ _ => Option Bytes
  | close _ => Unit

/-- The right to a port, unless it is `MACH_PORT_NULL`. -/
def portRight (port : UInt32) : Multiset HelperRight :=
  if port = machPortNull then 0 else {.port port}

/-- The rights that a call uses: each call to a port uses the send right to it. -/
def needs : HelperCall → Multiset HelperRight
  | helperinit server => {.port server}
  | helperexec port _ _ => {.port port}
  | deallocate port => {.port port}
  | fstat fd => {.file fd}
  | read fd _ => {.file fd}
  | close fd => {.file fd}
  | _ => 0

/-- `helperinit` is called with what was read from `_helper_server` without the lock, so another
thread may have given the right up in between. The call then fails, or goes to whatever has got the
name since. -/
def mayLack : HelperCall → Bool
  | helperinit _ => true
  | _ => false

/-- The rights that a call takes back. -/
def releases : HelperCall → Multiset HelperRight
  | deallocate port => {.port port}
  | close fd => {.file fd}
  | _ => 0

/-- The rights that come with a reply. -/
def grants : (c : HelperCall) → c.Reply → Multiset HelperRight
  | lookUp, server => portRight server
  | helperinit _, .success port => portRight port
  | openFile _, .ok fd => {.file fd}
  | _, _ => 0

end HelperCall

open HelperCall (portRight)

/-- The kernel, with the processes behind the ports. -/
abbrev helperSystem : RightsSystem where
  Right := HelperRight
  Call := HelperCall
  Reply := HelperCall.Reply
  needs := HelperCall.needs
  mayLack := HelperCall.mayLack
  releases := HelperCall.releases
  grants := HelperCall.grants
  releases_le c := by cases c <;> simp [HelperCall.releases, HelperCall.needs]
  releases_of_mayLack c h := by cases c <;> first | rfl | cases h

/-- A thread of a process that uses the helper. The variable is `_helper_server`, and the lock
`_helper_lock`. -/
abbrev HelperThread := Thread helperSystem UInt32

/-- A call by a thread. -/
def requestHelper (c : HelperCall) : HelperThread c.Reply := Thread.call (S := helperSystem) c

/-! ## Sessions with the helper -/

/-- The end of a pass of `_SCHelperOpen`, when the server could not be reached: looks the server up
unless another thread has done so, and goes on where there is one. -/
def refreshServer (server : UInt32) : HelperThread (UInt32 ⊕ UInt32) := do
  Thread.lock
  let current ← Thread.load
  if current ≠ machPortNull then
    if server = current then
      requestHelper (.deallocate current)
      let found ← requestHelper .lookUp
      Thread.store found
  else
    let found ← requestHelper .lookUp
    Thread.store found
  let server ← Thread.load
  Thread.unlock
  if server = machPortNull then return .inr machPortNull else return .inl server

/-- A pass of the loop of `_SCHelperOpen`: the port of the helper, or the server to try next. -/
def openPass (server : UInt32) : HelperThread (UInt32 ⊕ UInt32) := do
  if server ≠ machPortNull then
    match ← requestHelper (.helperinit server) with
    | .success port => return .inr port
    | .failed => return .inr machPortNull
    | .invalidDest => refreshServer server
  else refreshServer server

/-- What the process is, and what it calls to write objects as bytes and to read them. -/
structure HelperLibrary where
  pid : ℤ
  progname : String
  /-- `_SCSerialize` -/
  serialize : PropertyList → Option Bytes
  /-- `_SCSerializeString` -/
  serializeString : String → Option Bytes
  /-- `_SCUnserialize` -/
  unserialize : Bytes → Option PropertyList
  /-- `_SCUnserializeData` -/
  unserializeData : Bytes → Option Bytes
  /-- `CFPropertyListCreateWithData` -/
  propertyListWithData : Bytes → Option PropertyList

variable (lib : HelperLibrary)

/-- `_SCHelperExec`: the status and the reply -/
def schelperExec (port : UInt32) (msgID : HelperMessage) (data : Option Bytes) :
    HelperThread (Option (UInt32 × Option Bytes)) := do
  match ← requestHelper (.helperexec port msgID data) with
  | .failed => return none
  | .success status none => return some (status, none)
  | .success status (some reply) =>
    match lib.unserializeData reply with
    | none => return none
    | some reply => return some (status, some reply)

/-- `_SCHelperOpen`: the port of the helper, which is `MACH_PORT_NULL` where it fails -/
def schelperOpen (authorizationData : Option Bytes) : HelperThread UInt32 := do
  let server ← Thread.load
  let port ← Thread.iterate openPass server
  if port = machPortNull then return machPortNull
  match ← schelperExec lib port .auth authorizationData with
  | some (0, _) => return port
  | _ =>
    requestHelper (.deallocate port)
    return machPortNull

/-- `_SCHelperClose` -/
def schelperClose (port : UInt32) : HelperThread UInt32 := do
  let _ ← schelperExec lib port .exit none
  if port ≠ machPortNull then requestHelper (.deallocate port)
  return machPortNull

/-! ## Preferences -/

/-- `kSCStatusOK` -/
def statusOK : UInt32 := 0

/-- `kSCStatusAccessError` -/
def statusAccessError : UInt32 := 1003

/-- `SCPreferencesPrivate`, as far as the helper is concerned -/
structure PreferencesHandle where
  name : String
  prefsID : Option String
  options : Option (List (String × PropertyList))
  authorizationData : Option Bytes
  path : String
  /-- `helper_port` -/
  helperPort : UInt32
  prefs : Option (List (String × PropertyList))
  signature : Option Bytes
  accessed : Bool
  changed : Bool

/-- A number in 8 bytes. -/
def eightBytes (n : ℤ) : Bytes :=
  (List.range 8).map fun i => UInt8.ofNat ((n / 256 ^ i % 256).toNat)

/-- `__SCPSignatureFromStatbuf` -/
def signatureFromStatbuf (s : StatBuf) : Bytes :=
  eightBytes s.dev ++ eightBytes s.ino ++ eightBytes s.mtime.1 ++ eightBytes s.mtime.2 ++
    eightBytes s.size

/-- The bytes of an object, if it is `CFData`. -/
def PropertyList.bytes? : PropertyList → Option Bytes
  | .data bytes => some bytes
  | _ => none

namespace PreferencesHandle

/-- What the helper is told about the preferences that it is to open. -/
def openInfo (p : PreferencesHandle) : PropertyList :=
  .dictionary
    ((p.prefsID.map fun prefsID => ("prefsID", .string prefsID)).toList ++
      (p.options.map fun options => ("options", .dictionary options)).toList ++
      [("name", .string p.name), ("PID", .integer lib.pid), ("PROC_NAME", .string lib.progname)])

/-- `fail`, in the functions that use the helper -/
def fail (p : PreferencesHandle) : HelperThread (Except UInt32 Unit × PreferencesHandle) := do
  if p.helperPort = machPortNull then return (.error statusAccessError, p)
  let port ← schelperClose lib p.helperPort
  return (.error statusAccessError, { p with helperPort := port })

/-- `__SCPreferencesCreate_helper` -/
def createHelper (p : PreferencesHandle) :
    HelperThread (Except UInt32 Unit × PreferencesHandle) := do
  let port ← schelperOpen lib p.authorizationData
  let p := { p with helperPort := port }
  if port = machPortNull then p.fail lib
  else
    match lib.serialize (p.openInfo lib) with
    | none => p.fail lib
    | some data =>
      match ← schelperExec lib p.helperPort .prefsOpen (some data) with
      | none => p.fail lib
      | some (status, _) =>
        if status ≠ statusOK then return (.error status, p) else return (.ok (), p)

/-- The first part of the functions that use the helper: starts it if there is none. -/
def startHelper (p : PreferencesHandle) :
    HelperThread (Except UInt32 Unit × PreferencesHandle) :=
  if p.helperPort = machPortNull then p.createHelper lib else pure (.ok (), p)

/-- The preferences and the signature in the reply of the helper. -/
def serverAccess (reply : Bytes) : Option (List (String × PropertyList) × Bytes) := do
  let serverDict ← (← lib.unserialize reply).entries?
  let serverPrefs ← (← serverDict.lookup "preferences").entries?
  let serverSignature ← (← serverDict.lookup "signature").bytes?
  return (serverPrefs, serverSignature)

/-- `__SCPreferencesAccess_helper` -/
def accessHelper (p : PreferencesHandle) :
    HelperThread (Except UInt32 Unit × PreferencesHandle) := do
  match ← p.startHelper lib with
  | (.error e, p) => return (.error e, p)
  | (.ok (), p) =>
    match ← schelperExec lib p.helperPort .prefsAccess none with
    | none => p.fail lib
    | some (status, reply) =>
      if status ≠ statusOK then return (.error status, p)
      else
        match reply.bind (serverAccess lib) with
        | none => p.fail lib
        | some (prefs, signature) =>
          return (.ok (),
            { p with prefs := some prefs, signature := some signature, accessed := true })

/-- `__SCNetworkInterfaceForceConfigurationRefresh_helper` -/
def forceConfigurationRefreshHelper (p : PreferencesHandle) (ifName : String) :
    HelperThread (Except UInt32 Unit × PreferencesHandle) := do
  match ← p.startHelper lib with
  | (.error e, p) => return (.error e, p)
  | (.ok (), p) =>
    match lib.serializeString ifName with
    | none => p.fail lib
    | some data =>
      match ← schelperExec lib p.helperPort .interfaceRefresh (some data) with
      | none => p.fail lib
      | some (status, _) =>
        if status ≠ statusOK then return (.error status, p) else return (.ok (), p)

/-- `__SCPreferencesSynchronize_helper` -/
def synchronizeHelper (p : PreferencesHandle) : HelperThread PreferencesHandle := do
  if p.helperPort = machPortNull then return p
  match ← schelperExec lib p.helperPort .prefsSynchronize none with
  | none =>
    let port ← schelperClose lib p.helperPort
    return { p with helperPort := port }
  | some _ => return p

/-- `__SCPreferencesDeallocate` -/
def deallocate (p : PreferencesHandle) : HelperThread Unit := do
  if p.helperPort = machPortNull then return ()
  let _ ← schelperExec lib p.helperPort .prefsClose none
  let _ ← schelperClose lib p.helperPort
  return ()

/-- `done`, in `__SCPreferencesAccess` -/
def accessDone (p : PreferencesHandle) : PreferencesHandle :=
  match p.prefs with
  | none => { p with prefs := some [], changed := false, accessed := true }
  | some _ => { p with accessed := true }

/-- The preferences in an open file, as `__SCPreferencesAccess` reads them -/
def loadFile (p : PreferencesHandle) (fd : ℕ) : HelperThread PreferencesHandle := do
  let statBuf := (← requestHelper (.fstat fd)).getD ⟨0, 0, (0, 0), 0⟩
  let p := { p with signature := some (signatureFromStatbuf statBuf) }
  if statBuf.size = 0 then return p
  match ← requestHelper (.read fd statBuf.size) with
  | none => return p
  | some xmlData =>
    match (lib.propertyListWithData xmlData).bind PropertyList.entries? with
    | none => return p
    | some dict => return { p with prefs := some dict }

/-- `__SCPreferencesAccess` where there is nothing to read -/
def startFresh (p : PreferencesHandle) : PreferencesHandle :=
  accessDone { p with signature := some (signatureFromStatbuf ⟨0, 0, (0, 0), 0⟩) }

/-- `__SCPreferencesAccess` -/
def access (p : PreferencesHandle) : HelperThread PreferencesHandle := do
  if p.accessed then return p
  match ← requestHelper (.openFile p.path) with
  | .ok fd =>
    let p ← p.loadFile lib fd
    requestHelper (.close fd)
    return p.accessDone
  | .error e =>
    if (e = .eperm ∨ e = .eacces) ∧ p.authorizationData.isSome then
      match ← p.accessHelper lib with
      | (.ok (), p) => return p.accessDone
      | (.error _, p) => return p.startFresh
    else return p.startFresh

end PreferencesHandle

/-- What is done with a preferences object. -/
inductive PreferencesOperation
  | access
  | synchronize
  | refresh (ifName : String)
  /-- what other code does to the other fields -/
  | change (f : PreferencesHandle → PreferencesHandle)

namespace PreferencesHandle

/-- An operation. -/
def perform (p : PreferencesHandle) : PreferencesOperation → HelperThread PreferencesHandle
  | .access => p.access lib
  | .synchronize => p.synchronizeHelper lib
  | .refresh ifName => do return (← p.forceConfigurationRefreshHelper lib ifName).2
  | .change f => return { f p with helperPort := p.helperPort }

/-- The life of a preferences object. -/
def life (p : PreferencesHandle) : List PreferencesOperation → HelperThread Unit
  | [] => p.deallocate lib
  | o :: os => do
    let p ← p.perform lib o
    p.life os

/-- An object that has just been created. -/
def created (p : PreferencesHandle) : PreferencesHandle := { p with helperPort := machPortNull }

end PreferencesHandle

/-- A thread that uses preferences objects, one after the other. -/
def preferencesThread : List (PreferencesHandle × List PreferencesOperation) → HelperThread Unit
  | [] => pure ()
  | (p, os) :: rest => do
    p.created.life lib os
    preferencesThread rest


section

variable {lib} {α β : Type} {port server : UInt32} {R : Multiset HelperRight}

/-- A thread that gives a port up and has another in the end: the right to it is all that changes.
`P` is what is known of the result. -/
def Swaps (P : α → Prop) (port : α → UInt32) (t : HelperThread α) (before : UInt32) : Prop :=
  ∀ (R : Multiset HelperRight) (Q : α → Multiset HelperRight → Option UInt32 → Prop),
    (∀ a, P a → Q a (R + portRight (port a)) none) → Safe portRight t Q (R + portRight before) none

@[simp] theorem portRight_null : portRight machPortNull = 0 := if_pos rfl

/-- Any other name stands for one send right. -/
theorem portRight_of_ne (h : port ≠ machPortNull) : portRight port = {.port port} := if_neg h

/-- The rule for a call: whoever makes it holds what it uses, and goes on, whatever the reply, with
what the call takes back gone and what the reply brings added. -/
@[simp] theorem safe_request {c : HelperCall} {f : c.Reply → HelperThread β}
    {Q : β → Multiset HelperRight → Option UInt32 → Prop} {l : Option UInt32} :
    Safe portRight (requestHelper c >>= f) Q R l ↔
      (c.mayLack = false → c.needs ≤ R) ∧
        ∀ r, Safe portRight (f r) Q (R - c.releases + c.grants r) l :=
  safe_call

/-- A pass that could not reach the server leaves the thread with the rights that it had. What is
looked up belongs to the variable, which is guarded by the lock. -/
theorem safe_refreshServer {Q : UInt32 ⊕ UInt32 → Multiset HelperRight → Option UInt32 → Prop}
    (hnull : Q (.inr machPortNull) R none) (hnext : ∀ s, Q (.inl s) R none) :
    Safe portRight (refreshServer server) Q R none := by
  have hend : ∀ s : UInt32, Safe portRight (if s = machPortNull then
      (pure (.inr machPortNull) : HelperThread (UInt32 ⊕ UInt32)) else pure (.inl s)) Q R none := by
    intro s
    split
    · exact safe_pure.mpr hnull
    · exact safe_pure.mpr (hnext s)
  have hlookUp : ∀ current, Safe portRight (do
      let found ← requestHelper .lookUp
      Thread.store found
      let server ← Thread.load
      Thread.unlock
      if server = machPortNull then
        (pure (.inr machPortNull) : HelperThread (UInt32 ⊕ UInt32)) else pure (.inl server))
      Q R (some current) := by
    intro current
    rw [safe_request]
    refine ⟨fun _ => zero_le, fun found => ?_⟩
    rw [safe_store, safe_load_some, safe_unlock]
    simp only [HelperCall.releases, HelperCall.grants]
    rw [tsub_zero]
    exact ⟨le_add_self, by simpa using hend found⟩
  rw [refreshServer, safe_lock]
  intro current
  rw [safe_load_some]
  split
  · rename_i hcurrent
    split
    · dsimp only
      rw [safe_request, portRight_of_ne hcurrent]
      refine ⟨fun _ => le_add_self, fun _ => ?_⟩
      simpa [HelperCall.releases, HelperCall.grants] using hlookUp current
    · simp [hend]
  · rename_i hcurrent
    obtain rfl : current = machPortNull := by simpa using hcurrent
    dsimp only
    simpa using hlookUp machPortNull

/-- A pass that ends with a port gives the thread the right to it. One that goes on gives it
nothing, so that the passes before do not matter. -/
theorem safe_openPass {Q : UInt32 ⊕ UInt32 → Multiset HelperRight → Option UInt32 → Prop}
    (hport : ∀ port, Q (.inr port) (R + portRight port) none) (hnext : ∀ s, Q (.inl s) R none) :
    Safe portRight (openPass server) Q R none := by
  have hnull : Q (.inr machPortNull) R none := by simpa using hport machPortNull
  rw [openPass]
  split
  · rw [safe_request]
    -- the right to the server may be gone
    refine ⟨fun h => (by cases h), fun r => ?_⟩
    cases r with
    | success port => simpa [HelperCall.releases, HelperCall.grants] using hport port
    | invalidDest =>
      simpa [HelperCall.releases, HelperCall.grants] using safe_refreshServer hnull hnext
    | failed => simpa [HelperCall.releases, HelperCall.grants] using hnull
  · exact safe_refreshServer hnull hnext

/-- One swap after another: the port that the first leaves is the one that the second gives up. -/
theorem Swaps.bind {P : α → Prop} {P' : β → Prop} {port : α → UInt32} {port' : β → UInt32}
    {t : HelperThread α} {f : α → HelperThread β} {before : UInt32} (ht : Swaps P port t before)
    (hf : ∀ a, P a → Swaps P' port' (f a) (port a)) : Swaps P' port' (t >>= f) before :=
  fun R Q hQ => safe_bind (ht R _ fun a ha => hf a ha R Q hQ)

/-- A function that makes no call keeps the port that it says. -/
theorem Swaps.pure {P : α → Prop} (port : α → UInt32) (a : α) (ha : P a) :
    Swaps P port (Pure.pure a : HelperThread α) (port a) :=
  fun _ _ hQ => safe_pure.mpr (hQ a ha)

/-- `_SCHelperExec` uses the right to its port, and leaves it to the caller. -/
theorem schelperExec_swaps (hport : port ≠ machPortNull) (m : HelperMessage)
    (data : Option Bytes) :
    Swaps (fun _ => True) (fun _ => port) (schelperExec lib port m data) port := by
  intro R Q hQ
  rw [schelperExec, safe_request]
  refine ⟨fun _ => by simp [HelperCall.needs, portRight_of_ne hport], fun r => ?_⟩
  simp only [HelperCall.releases]
  rw [tsub_zero]
  cases r with
  | failed => simpa [HelperCall.grants] using hQ none trivial
  | success status reply =>
    cases reply with
    | none => simpa [HelperCall.grants] using hQ (some (status, none)) trivial
    | some reply =>
      simp only [HelperCall.grants, add_zero]
      split <;> exact safe_pure.mpr (hQ _ trivial)

/-- The caller of `_SCHelperOpen` has the right to the port that it returns, and to no other. Where
the helper refuses the authorization, the port has been given back. -/
theorem schelperOpen_swaps {authorizationData : Option Bytes} :
    Swaps (fun _ => True) id (schelperOpen lib authorizationData) machPortNull := by
  intro R Q hQ
  rw [schelperOpen, portRight_null, add_zero, safe_load_none]
  intro server
  refine safe_bind (safe_iterate (fun _ R' l => R' = R ∧ l = none) ?_ ⟨rfl, rfl⟩)
  rintro server _ _ ⟨rfl, rfl⟩
  refine safe_openPass (fun port => ?_) fun s => ⟨rfl, rfl⟩
  rw [Sum.elim_inr]
  split
  · rename_i hport
    subst hport
    exact safe_pure.mpr (hQ machPortNull trivial)
  · rename_i hport
    refine safe_bind (schelperExec_swaps hport _ _ _ _ fun reply _ => ?_)
    split
    · exact safe_pure.mpr (hQ port trivial)
    · rw [safe_request, portRight_of_ne hport]
      simpa [HelperCall.needs, HelperCall.releases, HelperCall.grants] using hQ machPortNull trivial

/-- `_SCHelperClose` gives the right up, and returns `MACH_PORT_NULL`, so that the caller forgets
the name with it. -/
theorem schelperClose_swaps (hport : port ≠ machPortNull) :
    Swaps (fun port' => port' = machPortNull) id (schelperClose lib port) port := by
  refine Swaps.bind (schelperExec_swaps hport _ _) fun _ _ => ?_
  intro R Q hQ
  rw [if_pos hport, safe_request, portRight_of_ne hport]
  refine ⟨fun _ => le_add_self, fun _ => safe_pure.mpr ?_⟩
  simpa [HelperCall.releases, HelperCall.grants] using hQ machPortNull rfl

namespace PreferencesHandle

variable {ρ : Type} (p : PreferencesHandle)

/-- A function that uses the helper leaves the object with the right to its port, and no other. If
it succeeds, there is a helper. -/
def KeepsPort (t : HelperThread (Except UInt32 Unit × PreferencesHandle)) (p : PreferencesHandle) :
    Prop :=
  Swaps (fun x => x.1.isOk → x.2.helperPort ≠ machPortNull) (fun x => x.2.helperPort) t p.helperPort

/-- An error that changes nothing. -/
theorem keepsPort_error (e : UInt32) : KeepsPort (pure (.error e, p)) p :=
  Swaps.pure _ (Except.error e, p) fun h => by cases h

/-- Success that changes nothing, where there is a helper. -/
theorem keepsPort_ok (hport : p.helperPort ≠ machPortNull) : KeepsPort (pure (.ok (), p)) p :=
  Swaps.pure _ (Except.ok (), p) fun _ => hport

/-- What the functions make of a status. -/
theorem keepsPort_status (status : UInt32) (hport : p.helperPort ≠ machPortNull) :
    KeepsPort (if status ≠ statusOK then pure (.error status, p) else pure (.ok (), p)) p := by
  split
  · exact keepsPort_error p status
  · exact keepsPort_ok p hport

/-- `fail` ends the session, if there is one. -/
theorem fail_keepsPort : KeepsPort (p.fail lib) p := by
  rw [fail]
  split
  · exact keepsPort_error p _
  · rename_i hport
    exact Swaps.bind (schelperClose_swaps hport) fun port _ =>
      keepsPort_error { p with helperPort := port } _

/-- Where the helper cannot be started, the port has been closed by `fail`; where it answers with an
error status, the session stays open. -/
theorem createHelper_keepsPort (hport : p.helperPort = machPortNull) :
    KeepsPort (p.createHelper lib) p := by
  rw [KeepsPort, hport]
  refine Swaps.bind schelperOpen_swaps fun port _ => ?_
  dsimp only
  split
  · exact fail_keepsPort { p with helperPort := port }
  · rename_i hopen
    split
    · exact fail_keepsPort { p with helperPort := port }
    · refine Swaps.bind (schelperExec_swaps hopen _ _) fun reply _ => ?_
      split
      · exact fail_keepsPort { p with helperPort := port }
      · exact keepsPort_status { p with helperPort := port } _ hopen

/-- A helper that is there already is not started again. A second port would be lost with the
first. -/
theorem startHelper_keepsPort : KeepsPort (p.startHelper lib) p := by
  rw [startHelper]
  split
  · rename_i hport
    exact createHelper_keepsPort p hport
  · rename_i hport
    exact keepsPort_ok p hport

/-- A reply that cannot be read ends the session. -/
theorem accessHelper_keepsPort : KeepsPort (p.accessHelper lib) p := by
  refine Swaps.bind (startHelper_keepsPort p) fun x hx => ?_
  obtain ⟨e | ⟨⟩, p⟩ := x
  · exact keepsPort_error p e
  · have hport : p.helperPort ≠ machPortNull := hx rfl
    refine Swaps.bind (schelperExec_swaps hport _ _) fun reply _ => ?_
    split
    · exact fail_keepsPort p
    · split
      · exact keepsPort_error p _
      · split
        · exact fail_keepsPort p
        · exact keepsPort_ok { p with prefs := _, signature := _, accessed := true } hport

theorem forceConfigurationRefreshHelper_keepsPort (ifName : String) :
    KeepsPort (p.forceConfigurationRefreshHelper lib ifName) p := by
  refine Swaps.bind (startHelper_keepsPort p) fun x hx => ?_
  obtain ⟨e | ⟨⟩, p⟩ := x
  · exact keepsPort_error p e
  · have hport : p.helperPort ≠ machPortNull := hx rfl
    dsimp only
    split
    · exact fail_keepsPort p
    · refine Swaps.bind (schelperExec_swaps hport _ _) fun reply _ => ?_
      split
      · exact fail_keepsPort p
      · exact keepsPort_status p _ hport

/-- The operations that have no result but the object. -/
abbrev LeavesPort (t : HelperThread PreferencesHandle) (p : PreferencesHandle) : Prop :=
  Swaps (fun _ => True) (fun p => p.helperPort) t p.helperPort

/-- The other fields may change in any way. -/
theorem leavesPort_pure {q : PreferencesHandle} (hq : q.helperPort = p.helperPort) :
    LeavesPort (pure q) p := by
  rw [LeavesPort, ← hq]
  exact Swaps.pure helperPort q trivial

/-- A helper that does not answer is closed. -/
theorem synchronizeHelper_leavesPort : LeavesPort (p.synchronizeHelper lib) p := by
  rw [synchronizeHelper]
  split
  · exact leavesPort_pure p rfl
  · rename_i hport
    refine Swaps.bind (schelperExec_swaps hport _ _) fun reply _ => ?_
    split
    · exact Swaps.bind (schelperClose_swaps hport) fun port _ =>
        leavesPort_pure { p with helperPort := port } rfl
    · exact leavesPort_pure p rfl

/-- The file is only read. The caller closes it, whatever was found in it. -/
theorem safe_loadFile {fd : ℕ} {Q : PreferencesHandle → Multiset HelperRight → Option UInt32 → Prop}
    (hfd : {.file fd} ≤ R) (hQ : ∀ q, q.helperPort = p.helperPort → Q q R none) :
    Safe portRight (p.loadFile lib fd) Q R none := by
  rw [loadFile, safe_request]
  refine ⟨fun _ => hfd, fun s => ?_⟩
  simp only [HelperCall.releases, HelperCall.grants, tsub_zero, add_zero]
  split
  · exact safe_pure.mpr (hQ _ rfl)
  · rw [safe_request]
    refine ⟨fun _ => hfd, fun xmlData => ?_⟩
    simp only [HelperCall.releases, HelperCall.grants, tsub_zero, add_zero]
    split
    · exact safe_pure.mpr (hQ _ rfl)
    · split
      · exact safe_pure.mpr (hQ _ rfl)
      · exact safe_pure.mpr (hQ _ rfl)

theorem accessDone_helperPort : p.accessDone.helperPort = p.helperPort := by
  rw [accessDone]
  split <;> rfl

theorem startFresh_helperPort : p.startFresh.helperPort = p.helperPort := by
  rw [startFresh, accessDone_helperPort]

/-- The file is closed on every way through, and the helper is only asked when the file could not be
opened. -/
theorem access_leavesPort : LeavesPort (p.access lib) p := by
  rw [access]
  split
  · exact leavesPort_pure p rfl
  · intro R Q hQ
    rw [safe_request]
    refine ⟨fun _ => zero_le, fun opened => ?_⟩
    simp only [HelperCall.releases, tsub_zero]
    cases opened with
    | ok fd =>
      refine safe_bind (safe_loadFile p le_add_self fun q hq => ?_)
      rw [safe_request]
      refine ⟨fun _ => le_add_self, fun _ => safe_pure.mpr ?_⟩
      have := hQ q.accessDone trivial
      simpa [HelperCall.releases, HelperCall.grants, accessDone_helperPort, hq] using this
    | error e =>
      simp only [HelperCall.grants, add_zero]
      split
      · refine Swaps.bind (accessHelper_keepsPort p) (fun x _ => ?_) R Q hQ
        obtain ⟨e | ⟨⟩, q⟩ := x
        · exact leavesPort_pure q (startFresh_helperPort q)
        · exact leavesPort_pure q (accessDone_helperPort q)
      · exact leavesPort_pure p (startFresh_helperPort p) R Q hQ

/-- Each operation leaves the object with the right to its port. -/
theorem perform_leavesPort (o : PreferencesOperation) : LeavesPort (p.perform lib o) p := by
  cases o with
  | access => exact access_leavesPort p
  | synchronize => exact synchronizeHelper_leavesPort p
  | refresh ifName =>
    exact Swaps.bind (forceConfigurationRefreshHelper_keepsPort p ifName) fun x _ =>
      leavesPort_pure x.2 rfl
  | change f => exact leavesPort_pure p rfl

/-- When an object goes, so does its port. -/
theorem deallocate_swaps :
    Swaps (fun _ => True) (fun _ => machPortNull) (p.deallocate lib) p.helperPort := by
  rw [deallocate]
  split
  · rename_i hport
    rw [hport]
    exact Swaps.pure (fun _ => machPortNull) () trivial
  · rename_i hport
    refine Swaps.bind (schelperExec_swaps hport _ _) fun _ _ => ?_
    refine Swaps.bind (schelperClose_swaps hport) fun port hnull => ?_
    obtain rfl : port = machPortNull := hnull
    exact Swaps.pure (fun _ => machPortNull) () trivial

/-- An object with any operations in any order leaves nothing behind. -/
theorem life_swaps (os : List PreferencesOperation) :
    Swaps (fun _ => True) (fun _ => machPortNull) (p.life lib os) p.helperPort := by
  induction os generalizing p with
  | nil => exact deallocate_swaps p
  | cons o os ih => exact Swaps.bind (perform_leavesPort p o) fun q _ => ih q

end PreferencesHandle

/-- A thread starts with nothing and ends with nothing, and holds the lock at neither end. -/
theorem preferencesThread_safe (objects : List (PreferencesHandle × List PreferencesOperation)) :
    Safe portRight (preferencesThread lib objects) (fun _ R l => R = 0 ∧ l = none) 0 none := by
  induction objects with
  | nil => exact safe_pure.mpr ⟨rfl, rfl⟩
  | cons x objects ih =>
    obtain ⟨p, os⟩ := x
    refine safe_bind ?_
    have hlife : Swaps _ _ (p.created.life lib os) machPortNull :=
      PreferencesHandle.life_swaps p.created os
    simpa using hlife 0 _ fun _ _ => ih

end

/-! ## Processes -/

section

variable {ι : Type} [DecidableEq ι] [Fintype ι]

/-- A process whose threads are about to use preferences. `base` are the rights that it has
already. -/
def preferencesProcess (base : Multiset HelperRight)
    (objects : ι → List (PreferencesHandle × List PreferencesOperation)) :
    Process helperSystem UInt32 ι where
  held := base
  shared := machPortNull
  owner := none
  threads i := preferencesThread lib (objects i)

/-- There is one call that may be made without the right. -/
theorem HelperCall.eq_helperinit_of_mayLack {c : HelperCall} (h : c.mayLack = true) :
    ∃ server, c = .helperinit server := by
  cases c with
  | helperinit server => exact ⟨server, rfl⟩
  | _ => cases h

/-- The kernel can answer every call, so no thread is stuck in one. -/
theorem reply_nonempty (c : HelperCall) : Nonempty c.Reply := by
  cases c with
  | lookUp => exact ⟨(0 : UInt32)⟩
  | helperinit _ => exact ⟨HelperInit.failed⟩
  | helperexec _ _ _ => exact ⟨HelperReply.failed⟩
  | deallocate _ => exact ⟨()⟩
  | openFile _ => exact ⟨Except.error OpenError.other⟩
  | fstat _ => exact ⟨(none : Option StatBuf)⟩
  | read _ _ => exact ⟨(none : Option Bytes)⟩
  | close _ => exact ⟨()⟩

/-- **Rights to ports and files are kept in order**, however the threads take turns and whatever the
calls return: a port or file is only used or given back while the process has the right to it, but
for the port of the server in `helperinit`; what the process had before is never touched, in the end
there is nothing left but the right to the server that is kept, and the threads never wait for each
other for ever. -/
theorem preferencesProcess_accounted (base : Multiset HelperRight)
    (objects : ι → List (PreferencesHandle × List PreferencesOperation))
    (p : Process helperSystem UInt32 ι)
    (hrun : Relation.ReflTransGen Process.Step (preferencesProcess lib base objects) p) :
    ¬ p.Faulty ∧ (∀ i c, p.Lacks i c → ∃ server, c = .helperinit server) ∧ base ≤ p.held ∧
      ((∀ i, (p.threads i).IsDone) → p.owner = none ∧ p.held = base + portRight p.shared) ∧
      ((∃ i, ¬ (p.threads i).IsDone) → ∃ p', p.Step p') := by
  have hstart : Accounted portRight base (preferencesProcess lib base objects) :=
    Accounted.of_safe rfl (by simp [preferencesProcess]) fun i =>
      preferencesThread_safe (objects i)
  have h := hstart.run hrun
  refine ⟨h.not_faulty, fun i c hlacks => ?_, h.base_le, h.of_done, h.exists_step reply_nonempty⟩
  exact HelperCall.eq_helperinit_of_mayLack (h.mayLack_of_lacks hlacks)

end

/-- A library that writes nothing. -/
def emptyLibrary : HelperLibrary where
  pid := 1
  progname := "scutil"
  serialize _ := none
  serializeString _ := none
  unserialize _ := none
  unserializeData _ := none
  propertyListWithData _ := none

/-- An object for the default preferences. -/
def defaultHandle : PreferencesHandle where
  name := "scutil"
  prefsID := none
  options := none
  authorizationData := some []
  path := "/Library/Preferences/SystemConfiguration/preferences.plist"
  helperPort := machPortNull
  prefs := none
  signature := none
  accessed := false
  changed := false

/-- A thread looks the server up, cannot open a session with it, and ends. -/
theorem preferencesProcess_accounted_lookedUp :
    ∃ p, Relation.ReflTransGen Process.Step (preferencesProcess emptyLibrary 0 fun _ : Unit =>
      [(defaultHandle, [.refresh "en0"])]) p ∧ p.held = {.port 7} := by
  have hrun : ∃ p, Relation.ReflTransGen Process.Step (preferencesProcess emptyLibrary 0
      fun _ : Unit => [(defaultHandle, [.refresh "en0"])]) p ∧ (∀ i, (p.threads i).IsDone) ∧
      p.shared = 7 := by
    apply Exists.intro
    refine ⟨?run, ?done, ?shared⟩
    case run =>
      apply Relation.ReflTransGen.head (.act () .load _ machPortNull _ rfl .load)
      apply Relation.ReflTransGen.head (.loop () _ _ _ rfl)
      apply Relation.ReflTransGen.head (.act () .lock _ () _ rfl (.lock rfl))
      apply Relation.ReflTransGen.head (.act () .load _ machPortNull _ rfl .load)
      apply Relation.ReflTransGen.head (.act () (.call (S := helperSystem) HelperCall.lookUp) _
        (7 : UInt32) _ rfl (.call _ _ fun _ => zero_le))
      apply Relation.ReflTransGen.head (.act () (.store (7 : UInt32)) _ () _ rfl (.store 7 rfl))
      apply Relation.ReflTransGen.head (.act () .load _ (7 : UInt32) _ rfl .load)
      apply Relation.ReflTransGen.head (.act () .unlock _ () _ rfl (.unlock rfl))
      apply Relation.ReflTransGen.head (.loop () _ _ _ rfl)
      apply Relation.ReflTransGen.head (.act () (.call (S := helperSystem) (.helperinit 7)) _
        HelperInit.failed _ rfl (.call _ _ fun h => by cases h))
      apply Relation.ReflTransGen.refl
    · exact fun _ => ⟨(), rfl⟩
    · rfl
  obtain ⟨p, hrun, hdone, hshared⟩ := hrun
  have h := (preferencesProcess_accounted emptyLibrary 0 _ p hrun).2.2.2.1 hdone
  refine ⟨p, hrun, ?_⟩
  rw [h.2, hshared]
  decide

/-- The exception is needed: one thread has read the port of the server, another finds that the
server is gone and gives the right up, and then the first one calls `helperinit`. -/
theorem exists_lacks_helperinit :
    ∃ p, Relation.ReflTransGen Process.Step (preferencesProcess emptyLibrary 0 fun _ : Bool =>
      [(defaultHandle, [.refresh "en0"])]) p ∧ p.Lacks false (.helperinit 7) := by
  apply Exists.intro
  refine ⟨?run, ?lacks⟩
  case run =>
    -- the first thread looks the server up
    apply Relation.ReflTransGen.head (.act false .load _ machPortNull _ rfl .load)
    apply Relation.ReflTransGen.head (.loop false _ _ _ rfl)
    apply Relation.ReflTransGen.head (.act false .lock _ () _ rfl (.lock rfl))
    apply Relation.ReflTransGen.head (.act false .load _ machPortNull _ rfl .load)
    apply Relation.ReflTransGen.head (.act false (.call (S := helperSystem) HelperCall.lookUp) _
      (7 : UInt32) _ rfl (.call _ _ fun _ => zero_le))
    apply Relation.ReflTransGen.head (.act false (.store (7 : UInt32)) _ () _ rfl (.store 7 rfl))
    apply Relation.ReflTransGen.head (.act false .load _ (7 : UInt32) _ rfl .load)
    apply Relation.ReflTransGen.head (.act false .unlock _ () _ rfl (.unlock rfl))
    apply Relation.ReflTransGen.head (.loop false _ _ _ rfl)
    -- the other one tries it, and gives the right up
    apply Relation.ReflTransGen.head (.act true .load _ (7 : UInt32) _ rfl .load)
    apply Relation.ReflTransGen.head (.loop true _ _ _ rfl)
    apply Relation.ReflTransGen.head (.act true (.call (S := helperSystem) (.helperinit 7)) _
      HelperInit.invalidDest _ rfl (.call _ _ fun h => by cases h))
    apply Relation.ReflTransGen.head (.act true .lock _ () _ rfl (.lock rfl))
    apply Relation.ReflTransGen.head (.act true .load _ (7 : UInt32) _ rfl .load)
    apply Relation.ReflTransGen.head (.act true (.call (S := helperSystem) (.deallocate 7)) _
      () _ rfl (.call _ _ fun _ => by decide))
    apply Relation.ReflTransGen.refl
  · exact ⟨⟨_, rfl⟩, by decide⟩

end ConfigdExtra
