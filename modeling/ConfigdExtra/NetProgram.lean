import ConfigdExtra.CallLogic
import Mathlib.Tactic

/-!
# What the handlers of `scutil --net` reach for

A handler of `scutil --net` reads arguments, calls handlers through tables, and uses the objects
that are selected. Here only this is kept of it, with what its branches depend on.

* `NetVars` — which of the variables of `scutil --net` are not `NULL`.
* `NetAction`, `netMachine` — what a handler does, and when it may be done.
* `argument`, `use`, `isNull`, … — programs of one action, and the precondition of each.
-/

namespace ConfigdExtra

/-- The variables of `net.c` that hold objects. -/
inductive NetVar
  | prefs
  | netSet
  | netService
  | netProtocol
  | netInterface
  | sets
  | services
  | protocols
  | interfaces
  | newInterfaces
deriving DecidableEq, Repr

/-- Which variables are not `NULL`. -/
abbrev NetVars := NetVar → Bool

/-- Nothing is open or selected. -/
def NetVars.closed : NetVars := fun _ => false

/-- What a handler asks that is not decided by the variables: whether a call of the framework
succeeds or gives an object, whether two objects are equal, whether a list has a match. -/
inductive NetRequest
  | prefsOpen
  | prefsChanged
  | inputIsTerminal
  | commitChanges
  | applyChanges
  | configurationClean
  | configurationUpgrade
  | upgradable
  | migration
  | listMatches
  | equal
  | setCopyAll
  | setCopyCurrent
  | setCreate
  | setCreateDefault
  | setEstablishDefaultConfiguration
  | setSetName
  | setSetCurrent
  | setSetSetID
  | setRemove
  | setCopyServices
  | setAddService
  | setSetServiceOrder
  | withinServices
  | serviceCopyAll
  | serviceCreate
  | serviceSetName
  | serviceEstablishDefaultConfiguration
  | serviceGetInterface
  | serviceSetEnabled
  | serviceRemove
  | serviceSetPrimaryRank
  | serviceSetServiceID
  | serviceCopyProtocols
  | serviceCopyProtocol
  | serviceAddProtocolType
  | serviceRemoveProtocolType
  | protocolSetEnabled
  | interfaceCopyAll
  | interfaceIsOfType (type : String)
  | interfaceGetInterface
  | interfaceGetMembers
  | interfaceGetPhysicalInterface
  | interfaceGetSupportedProtocolTypes
  | interfaceCreateWithInterface
deriving DecidableEq, Repr

/-- What a handler does. -/
inductive NetAction
  /-- read `argv[n]`, with `argc` arguments -/
  | argument (argc n : ℕ)
  /-- call a handler through a table, which may be `NULL` there -/
  | handler (present : Bool)
  /-- pass a variable to a function that takes an object -/
  | use (v : NetVar)
  /-- compare a variable with `NULL` -/
  | isNull (v : NetVar)
  /-- assign an object to a variable -/
  | assign (v : NetVar)
  /-- assign `NULL` to a variable -/
  | clear (v : NetVar)
  | request (r : NetRequest)
deriving DecidableEq, Repr

/-- Arguments are read below `argc`, and neither handlers nor variables that are used are `NULL`.
A comparison with `NULL` is answered by the variables, a request in any way. -/
def netMachine : Machine NetVars NetAction where
  step s c _ :=
    match c with
    | .assign v => Function.update s v true
    | .clear v => Function.update s v false
    | _ => s
  Answers s c b :=
    match c with
    | .isNull v => b = !s v
    | .request _ => True
    | _ => b = true
  Inv _ := True
  Allowed s c :=
    match c with
    | .argument argc n => n < argc
    | .handler present => present = true
    | .use v => s v = true
    | _ => True

/-- Each action has an answer. -/
theorem netMachine_answers (s : NetVars) (c : NetAction) : ∃ b, netMachine.Answers s c b := by
  cases c with
  | isNull v => exact ⟨_, rfl⟩
  | request r => exact ⟨true, trivial⟩
  | argument | handler | use | assign | clear => exact ⟨true, rfl⟩

/-- A handler, or a part of one -/
abbrev NetProgram := Calls NetAction

namespace NetProgram

/-! ## Programs of one action -/

/-- `argv[n]` -/
def argument (argv : List String) (n : ℕ) : NetProgram String := do
  let _ ← Calls.issue (.argument argv.length n)
  pure (argv.getD n "")

/-- `(*func)(argc, argv)`, for an entry of a table -/
def handler (func : Option (List String → NetProgram Unit)) (argv : List String) :
    NetProgram Unit := do
  let _ ← Calls.issue (.handler func.isSome)
  match func with
  | none => pure ()
  | some f => f argv

/-- A variable is passed to a function that takes an object. -/
def use (v : NetVar) : NetProgram Unit := do
  let _ ← Calls.issue (.use v)
  pure ()

/-- `v == NULL` -/
def isNull (v : NetVar) : NetProgram Bool := Calls.issue (.isNull v)

/-- `v = object` -/
def assign (v : NetVar) : NetProgram Unit := do
  let _ ← Calls.issue (.assign v)
  pure ()

/-- `v = NULL` -/
def clear (v : NetVar) : NetProgram Unit := do
  let _ ← Calls.issue (.clear v)
  pure ()

/-- A request to the framework. -/
def request (r : NetRequest) : NetProgram Bool := Calls.issue (.request r)

/-- `if (v != NULL) CFRelease(v)` -/
def release (v : NetVar) : NetProgram Unit := do
  if ← isNull v then pure () else use v

/-- `if (v != NULL) { CFRelease(v); v = NULL; }` -/
def drop (v : NetVar) : NetProgram Unit := do
  if ← isNull v then pure ()
  else
    use v
    clear v

/-- `if (v != NULL) CFRelease(v); v = object` -/
def select (v : NetVar) : NetProgram Unit := do
  release v
  assign v

/-- The lines of a listing, each with a mark if its object is the selected one. -/
def mark (v : NetVar) : ℕ → NetProgram Unit
  | 0 => pure ()
  | n + 1 => do
    if ← isNull v then pure ()
    else
      use v
      let _ ← request .equal
    mark v n

/-- The object that is meant: the one of the argument, or the selected one. -/
def target (v : NetVar) (find : NetProgram Bool) (given : Bool) (argv : List String) :
    NetProgram Bool := do
  if given then
    let _ ← argument argv 0
    find
  else
    return !(← isNull v)

/-! ## Their preconditions -/

/-- From here, whatever the framework answers, arguments, handlers and variables are there, and
the end satisfies `Q`. -/
def Pre {α : Type} (p : NetProgram α) (Q : α → NetVars → Prop) (s : NetVars) : Prop :=
  p.wp netMachine (fun r s => ∀ a, r = some a → Q a s) s

section

variable {α β : Type} {Q : α → NetVars → Prop} {s : NetVars}

@[simp] theorem pre_ret {a : α} : Pre (.ret a) Q s ↔ Q a s := by
  simp [Pre, Calls.wp, netMachine]

/-- What is required before two parts is what the first requires so that it ends where the second
may start. Where the first part ends early, nothing is left to require. -/
@[simp] theorem pre_bind {p : NetProgram β} {f : β → NetProgram α} :
    Pre (p.bind f) Q s ↔ Pre p (fun b => Pre (f b) Q) s := by
  rw [Pre, Calls.wp_bind_iff]
  constructor
  · exact Calls.wp_mono fun r s h b hr => by subst hr; exact h
  · refine Calls.wp_mono fun r s h => ?_
    cases r with
    | none => exact nofun
    | some b => exact h b rfl

@[simp] theorem pre_ite {c : Prop} [Decidable c] {p q : NetProgram α} :
    Pre (if c then p else q) Q s ↔ if c then Pre p Q s else Pre q Q s := by
  split <;> rfl

/-- The rule that the others come from: an action is allowed, and every answer leads to where the
rest may start. -/
theorem pre_issue {c : NetAction} {Q : Bool → NetVars → Prop} :
    Pre (Calls.issue c) Q s ↔
      netMachine.Allowed s c ∧ ∀ b, netMachine.Answers s c b → Q b (netMachine.step s c b) := by
  simp [Pre, Calls.issue, Calls.wp, netMachine]

/-- An argument is there. -/
@[simp] theorem pre_argument {argv : List String} {n : ℕ} {Q : String → NetVars → Prop} :
    Pre (argument argv n) Q s ↔ n < argv.length ∧ Q (argv.getD n "") s := by
  simp [argument, pre_issue, netMachine]

/-- A variable that is used is not `NULL`. -/
@[simp] theorem pre_use {v : NetVar} {Q : Unit → NetVars → Prop} :
    Pre (use v) Q s ↔ s v = true ∧ Q () s := by
  simp [use, pre_issue, netMachine]

/-- A comparison with `NULL` has one answer, the one that the variable gives. -/
@[simp] theorem pre_isNull {v : NetVar} {Q : Bool → NetVars → Prop} :
    Pre (isNull v) Q s ↔ Q (!s v) s := by
  simp [isNull, pre_issue, netMachine]

@[simp] theorem pre_assign {v : NetVar} {Q : Unit → NetVars → Prop} :
    Pre (assign v) Q s ↔ Q () (Function.update s v true) := by
  simp [assign, pre_issue, netMachine]

@[simp] theorem pre_clear {v : NetVar} {Q : Unit → NetVars → Prop} :
    Pre (clear v) Q s ↔ Q () (Function.update s v false) := by
  simp [clear, pre_issue, netMachine]

/-- The framework may answer either way. -/
@[simp] theorem pre_request {r : NetRequest} {Q : Bool → NetVars → Prop} :
    Pre (request r) Q s ↔ Q true s ∧ Q false s := by
  simp [request, pre_issue, netMachine, and_comm]

/-- Nothing is required to release a variable: it is compared with `NULL` first. -/
@[simp] theorem pre_release {v : NetVar} {Q : Unit → NetVars → Prop} :
    Pre (release v) Q s ↔ Q () s := by
  cases h : s v <;> simp [release, h]

/-- After `drop` the variable is `NULL`, whether it was before or not. -/
@[simp] theorem pre_drop {v : NetVar} {Q : Unit → NetVars → Prop} :
    Pre (drop v) Q s ↔ Q () (Function.update s v false) := by
  cases h : s v with
  | true => simp [drop, h]
  | false =>
    have hself : Function.update s v false = s := by rw [← h, Function.update_eq_self]
    simp [drop, h, hself]

/-- After `select` the variable is not `NULL`. -/
@[simp] theorem pre_select {v : NetVar} {Q : Unit → NetVars → Prop} :
    Pre (select v) Q s ↔ Q () (Function.update s v true) := by
  simp [select]

/-- A listing marks what is selected and changes nothing. -/
@[simp] theorem pre_mark {v : NetVar} {n : ℕ} {Q : Unit → NetVars → Prop} :
    Pre (mark v n) Q s ↔ Q () s := by
  induction n with
  | zero => simp [mark]
  | succ n ih => cases h : s v <;> simp [mark, h, ih]

/-- With an argument it has to be there to be read. Without one, the object is the selected one, and
there is none if the variable is `NULL`. -/
@[simp] theorem pre_target {v : NetVar} {find : NetProgram Bool} {given : Bool}
    {argv : List String} {Q : Bool → NetVars → Prop} :
    Pre (target v find given argv) Q s ↔
      if given then 0 < argv.length ∧ Pre find Q s else Q (s v) s := by
  cases given <;> simp [target]

end

end NetProgram

end ConfigdExtra
