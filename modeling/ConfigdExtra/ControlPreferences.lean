import ConfigdExtra.AtomicObjects
import ConfigdExtra.PropertyLists

/-!
# Preferences that control daemons

The preferences of IPMonitor and of InterfaceNamer are files with one switch each. Any process may
read or set it, through a session with the file that only that process has. This is the build without
`TARGET_OS_IPHONE`, in which there are no managed preferences that are asked first.

* `PreferencesCalls`, `PreferencesCalls.Documented` — the calls of a preferences session.
* `ClientProgram` — the code of a process that makes such calls.
* `ControlFile` — the two files, with `ControlFile.get` and `ControlFile.set`.
* `controlSystem` — the processes that use a file, and others that change it.
* `switchObject` — a switch that is read or set at once.
* `FollowsCall` — a program that is as good as a call of an atomic object.
* `controlSystem_atomic` — the processes find the file to be such a switch.
-/

namespace ConfigdExtra

/-! ## Sessions -/

/-- The values of a preferences file. -/
abbrev Values := String → Option PropertyList

/-- What a session has: nothing yet, or what was in the file when it was read, with changes. -/
inductive SessionView
  | fresh
  | read (before now : Values)

/-- What a session has after it has read the file, if it had not. -/
def SessionView.access (v : SessionView) (file : Values) : SessionView :=
  match v with
  | fresh => read file file
  | read before now => read before now

/-- The values that a session shows. -/
def SessionView.values (v : SessionView) (file : Values) : Values :=
  match v with
  | fresh => file
  | read _ now => now

/-- A session in which a value was set, or removed. -/
def SessionView.change (v : SessionView) (file : Values) (key : String)
    (value : Option PropertyList) : SessionView :=
  match v with
  | fresh => read file (Function.update file key value)
  | read before now => read before (Function.update now key value)

/-- The calls of `SCPreferences`. A file is any `F`, so that it may also have a signature. -/
structure PreferencesCalls (F : Type) where
  Session : Type
  contents : F → Values
  /-- what a session has -/
  view : Session → SessionView
  /-- `SCPreferencesCreate`, where it succeeds -/
  create : F → Session → Prop
  /-- `SCPreferencesGetValue` -/
  getValue : F → Session → String → Option PropertyList → Session → Prop
  /-- `SCPreferencesSetValue` -/
  setValue : F → Session → String → PropertyList → Session → Prop
  /-- `SCPreferencesRemoveValue` -/
  removeValue : F → Session → String → Session → Prop
  /-- `SCPreferencesCommitChanges` -/
  commitChanges : F → Session → Bool → F → Session → Prop
  /-- `SCPreferencesSynchronize` -/
  synchronize : Session → Session → Prop

/-- The calls do what is documented: a session reads the file when it is first used and keeps what
it has read, and changes are saved unless the file has been changed since. -/
structure PreferencesCalls.Documented {F : Type} (calls : PreferencesCalls F) : Prop where
  create (f : F) (s : calls.Session) (h : calls.create f s) : calls.view s = .fresh
  getValue (f : F) (s s' : calls.Session) (key : String) (value : Option PropertyList)
    (h : calls.getValue f s key value s') :
    value = (calls.view s).values (calls.contents f) key ∧
      calls.view s' = (calls.view s).access (calls.contents f)
  setValue (f : F) (s s' : calls.Session) (key : String) (value : PropertyList)
    (h : calls.setValue f s key value s') :
    calls.view s' = (calls.view s).change (calls.contents f) key (some value)
  removeValue (f : F) (s s' : calls.Session) (key : String) (h : calls.removeValue f s key s') :
    calls.view s' = (calls.view s).change (calls.contents f) key none
  failed (f f' : F) (s s' : calls.Session) (h : calls.commitChanges f s false f' s') :
    calls.contents f' = calls.contents f
  committed (f f' : F) (s s' : calls.Session) (h : calls.commitChanges f s true f' s')
    (before now : Values) (hs : calls.view s = .read before now) :
    calls.contents f = before ∧ calls.contents f' = now
  synchronize (s s' : calls.Session) (h : calls.synchronize s s') : calls.view s' = .fresh

/-! ## Programs -/

/-- What a process may do with its session, which is `NULL` at first. -/
inductive ClientRequest
  /-- `S_prefs != NULL` -/
  | hasSession
  /-- `S_prefs = SCPreferencesCreate(…)` -/
  | create
  | getValue (key : String)
  | setValue (key : String) (value : PropertyList)
  | removeValue (key : String)
  | commitChanges
  | synchronize

/-- What comes of it. -/
@[reducible] def ClientRequest.Answer : ClientRequest → Type
  | hasSession => Bool
  | create => Unit
  | getValue _ => Option PropertyList
  | setValue _ _ => Unit
  | removeValue _ => Unit
  | commitChanges => Bool
  | synchronize => Unit

/-- The code of a process. -/
inductive ClientProgram (α : Type)
  | done (a : α)
  | act (o : ClientRequest) (next : o.Answer → ClientProgram α)

namespace ClientProgram

variable {α β : Type}

/-- One after the other. -/
def bind : ClientProgram α → (α → ClientProgram β) → ClientProgram β
  | done a, f => f a
  | act o next, f => act o fun x => (next x).bind f

instance : Monad ClientProgram where
  pure := done
  bind := bind

end ClientProgram

/-- A request. -/
def ask (o : ClientRequest) : ClientProgram o.Answer := .act o .done

/-- `IPMonitorControlPrefsGet`, `InterfaceNamerControlPrefsGet`: is there a session? -/
def controlPrefsGet : ClientProgram Bool := do
  if !(← ask .hasSession) then ask .create
  ask .hasSession

/-- `prefs_set_boolean` -/
def prefsSetBoolean (key : String) (b : Option PropertyList) : ClientProgram Unit := do
  if ← controlPrefsGet then
    match isA .boolean b with
    | none => ask (.removeValue key)
    | some b => ask (.setValue key b)

/-- `IPMonitorControlPrefsSave`, `InterfaceNamerControlPrefsSave` -/
def controlPrefsSave : ClientProgram Bool := do
  if ← ask .hasSession then
    let saved ← ask .commitChanges
    ask .synchronize
    return saved
  return false

/-- `IPMonitorControlPrefsRefresh`, `InterfaceNamerControlPrefsRefresh` -/
def controlPrefsRefresh : ClientProgram Unit := do
  if ← ask .hasSession then ask .synchronize

/-- The two files. -/
inductive ControlFile
  | ipMonitor
  | interfaceNamer
deriving DecidableEq, Repr

namespace ControlFile

/-- `kVerbose`, `kAllowNewInterfaces` -/
def key : ControlFile → String
  | ipMonitor => "Verbose"
  | interfaceNamer => "AllowNewInterfaces"

/-- `prefs_get_boolean`, which only checks for a session in the one file -/
def prefsGetBoolean : ControlFile → String → ClientProgram (Option PropertyList)
  | ipMonitor, key => do
    let _ ← controlPrefsGet
    return isA .boolean (← ask (.getValue key))
  | interfaceNamer, key => do
    if ← controlPrefsGet then
      return isA .boolean (← ask (.getValue key))
    return none

/-- `IPMonitorControlPrefsIsVerbose`, `InterfaceNamerControlPrefsAllowNewInterfaces` -/
def get (file : ControlFile) : ClientProgram Bool := do
  let b ← file.prefsGetBoolean file.key
  let on := (b.bind PropertyList.boolean?).getD false
  controlPrefsRefresh
  return on

/-- `IPMonitorControlPrefsSetVerbose`, `InterfaceNamerControlPrefsSetAllowNewInterfaces` -/
def set : ControlFile → Bool → ClientProgram Bool
  | ipMonitor, verbose => do
    if !verbose then prefsSetBoolean "Verbose" none
    else prefsSetBoolean "Verbose" (some (.boolean true))
    controlPrefsSave
  | interfaceNamer, allow => do
    if allow then prefsSetBoolean "AllowNewInterfaces" (some (.boolean true))
    else prefsSetBoolean "AllowNewInterfaces" none
    controlPrefsSave

end ControlFile

/-! ## Processes -/

section

variable {F ι : Type} [DecidableEq ι]

/-- A process: its session, if any, and what is left of the function that it is in. -/
structure ClientProcess (calls : PreferencesCalls F) where
  session : Option calls.Session
  program : Option (ClientProgram Bool)

/-- What a request does. Without a session, it does nothing. -/
inductive Performs (calls : PreferencesCalls F) (f : F) :
    Option calls.Session → (o : ClientRequest) → o.Answer → F → Option calls.Session → Prop
  | hasSession (s : Option calls.Session) : Performs calls f s .hasSession s.isSome f s
  | create (s : Option calls.Session) (s' : calls.Session) (h : calls.create f s') :
    Performs calls f s .create () f (some s')
  | noValue (key : String) : Performs calls f none (.getValue key) none f none
  | getValue (s s' : calls.Session) (key : String) (value : Option PropertyList)
    (h : calls.getValue f s key value s') :
    Performs calls f (some s) (.getValue key) value f (some s')
  | notSet (key : String) (value : PropertyList) :
    Performs calls f none (.setValue key value) () f none
  | setValue (s s' : calls.Session) (key : String) (value : PropertyList)
    (h : calls.setValue f s key value s') :
    Performs calls f (some s) (.setValue key value) () f (some s')
  | notRemoved (key : String) : Performs calls f none (.removeValue key) () f none
  | removeValue (s s' : calls.Session) (key : String) (h : calls.removeValue f s key s') :
    Performs calls f (some s) (.removeValue key) () f (some s')
  | notCommitted : Performs calls f none .commitChanges false f none
  | commitChanges (s s' : calls.Session) (ok : Bool) (f' : F)
    (h : calls.commitChanges f s ok f' s') :
    Performs calls f (some s) .commitChanges ok f' (some s')
  | notSynchronized : Performs calls f none .synchronize () f none
  | synchronize (s s' : calls.Session) (h : calls.synchronize s s') :
    Performs calls f (some s) .synchronize () f (some s')

/-- A call of the functions of a file: the switch is read, or set. -/
inductive SwitchCall
  | get
  | set (on : Bool)
deriving DecidableEq, Repr

/-- The function that is called. -/
def ControlFile.code (file : ControlFile) : SwitchCall → ClientProgram Bool
  | .get => file.get
  | .set on => file.set on

/-- A step of a process, or of others that change the file. It is seen when a function is called
and when it returns, and that the session cannot be created. -/
inductive ControlStep (file : ControlFile) (calls : PreferencesCalls F) :
    F × (ι → ClientProcess calls) → Option (CallEvent ι Values SwitchCall Bool) →
    F × (ι → ClientProcess calls) → Prop
  | invoke {f : F} {p : ι → ClientProcess calls} (i : ι) (c : SwitchCall)
    (hi : (p i).program = none) :
    ControlStep file calls (f, p) (some (.invoke i c))
      (f, Function.update p i ⟨(p i).session, some (file.code c)⟩)
  | act {f f' : F} {p : ι → ClientProcess calls} (i : ι) (o : ClientRequest)
    (next : o.Answer → ClientProgram Bool) (x : o.Answer) (s' : Option calls.Session)
    (hi : (p i).program = some (.act o next)) (h : Performs calls f (p i).session o x f' s') :
    ControlStep file calls (f, p) none (f', Function.update p i ⟨s', some (next x)⟩)
  | refuse {f : F} {p : ι → ClientProcess calls} (i : ι) (next : Unit → ClientProgram Bool)
    (hi : (p i).program = some (.act .create next)) :
    ControlStep file calls (f, p) (some (.refuse i))
      (f, Function.update p i ⟨none, some (next ())⟩)
  | answer {f : F} {p : ι → ClientProcess calls} (i : ι) (r : Bool)
    (hi : (p i).program = some (.done r)) :
    ControlStep file calls (f, p) (some (.answer i r))
      (f, Function.update p i ⟨(p i).session, none⟩)
  | change {f : F} {p : ι → ClientProcess calls} (f' : F) :
    ControlStep file calls (f, p) (some (.change (calls.contents f'))) (f', p)

/-- The processes that use a file. -/
def controlSystem (file : ControlFile) (calls : PreferencesCalls F) :
    Transitions (F × (ι → ClientProcess calls)) (CallEvent ι Values SwitchCall Bool) where
  step := ControlStep file calls

/-! ## A switch -/

/-- Is the switch on? -/
def switchOn (key : String) (v : Values) : Bool :=
  ((isA .boolean (v key)).bind PropertyList.boolean?).getD false

/-- What is in the file when the switch has been set. -/
def setSwitch (key : String) (on : Bool) (v : Values) : Values :=
  Function.update v key (if on then some (.boolean true) else none)

/-- A switch that is read or set at once, among other values that are left as they are. Setting it
may fail, and then changes nothing. -/
def switchObject (key : String) : AtomicObject Values SwitchCall Bool where
  apply
    | .get, v, r, v' => v' = v ∧ r = switchOn key v
    | .set on, v, r, v' => (r = true ∧ v' = setSwitch key on v) ∨ (r = false ∧ v' = v)
  refusal := false

/-! ## Programs that are as good as a call -/

/-- There is no session, or it has nothing yet. -/
def Rested : Option SessionView → Prop
  | none => True
  | some .fresh => True
  | some (.read _ _) => False

/-- What is left of a function is as good as what is left of a call of the object, from a session
that has `v`: the call takes effect when the value is read, or when the changes are committed. -/
def FollowsCall {ω : Type} (O : AtomicObject Values ω Bool) :
    ClientProgram Bool → Option SessionView → CallStatus ω Bool → Prop
  | .done r, v, c => c = .answered r ∧ Rested v
  | .act .hasSession next, v, c => FollowsCall O (next v.isSome) v c
  | .act .create next, _, c =>
    FollowsCall O (next ()) (some .fresh) c ∧
      ∃ o, c = .called o ∧ FollowsCall O (next ()) none (.answered O.refusal)
  | .act (.getValue _) next, none, c => FollowsCall O (next none) none c
  | .act (.getValue key) next, some v, c =>
    ∀ file, ∃ o r, c = .called o ∧ O.apply o file r file ∧
      FollowsCall O (next (v.values file key)) (some (v.access file)) (.answered r)
  | .act (.setValue _ _) next, none, c => FollowsCall O (next ()) none c
  | .act (.setValue key value) next, some v, c =>
    ∀ file, FollowsCall O (next ()) (some (v.change file key (some value))) c
  | .act (.removeValue _) next, none, c => FollowsCall O (next ()) none c
  | .act (.removeValue key) next, some v, c =>
    ∀ file, FollowsCall O (next ()) (some (v.change file key none)) c
  | .act .commitChanges next, none, c => FollowsCall O (next false) none c
  | .act .commitChanges _, some .fresh, _ => False
  | .act .commitChanges next, some (.read before now), c =>
    ∃ o, c = .called o ∧ (∀ file, O.apply o file false file) ∧ O.apply o before true now ∧
      ∀ v ok, FollowsCall O (next ok) (some v) (.answered ok)
  | .act .synchronize next, v, c => FollowsCall O (next ()) (v.map fun _ => .fresh) c

variable {ω : Type} {O : AtomicObject Values ω Bool} {calls : PreferencesCalls F}

/-- A request on the way is not noticed, or is the moment at which the call takes effect. -/
theorem FollowsCall.performs (hcalls : calls.Documented) {f f' : F} {s s' : Option calls.Session}
    {o : ClientRequest} {next : o.Answer → ClientProgram Bool} {x : o.Answer}
    {c : CallStatus ω Bool} (h : FollowsCall O (.act o next) (s.map calls.view) c)
    (hp : Performs calls f s o x f' s') :
    (calls.contents f' = calls.contents f ∧ FollowsCall O (next x) (s'.map calls.view) c) ∨
      ∃ o' r, c = .called o' ∧ O.apply o' (calls.contents f) r (calls.contents f') ∧
        FollowsCall O (next x) (s'.map calls.view) (.answered r) := by
  cases hp with
  | hasSession s => exact .inl ⟨rfl, by simpa [FollowsCall] using h⟩
  | create s s' hs =>
    refine .inl ⟨rfl, ?_⟩
    rw [Option.map_some, hcalls.create f s' hs]
    exact h.1
  | noValue key => exact .inl ⟨rfl, h⟩
  -- a value is read from the file when it is first asked for
  | getValue s s' key value hs =>
    obtain ⟨rfl, hview⟩ := hcalls.getValue f s s' key value hs
    obtain ⟨o', r, hc, happly, hnext⟩ := h (calls.contents f)
    refine .inr ⟨o', r, hc, happly, ?_⟩
    rwa [Option.map_some, hview]
  | notSet key value => exact .inl ⟨rfl, h⟩
  | setValue s s' key value hs =>
    refine .inl ⟨rfl, ?_⟩
    rw [Option.map_some, hcalls.setValue f s s' key value hs]
    exact h (calls.contents f)
  | notRemoved key => exact .inl ⟨rfl, h⟩
  | removeValue s s' key hs =>
    refine .inl ⟨rfl, ?_⟩
    rw [Option.map_some, hcalls.removeValue f s s' key hs]
    exact h (calls.contents f)
  | notCommitted => exact .inl ⟨rfl, h⟩
  -- all that has been written takes effect at once
  | commitChanges s s' ok f' hs =>
    rw [Option.map_some] at h
    cases hview : calls.view s with
    | fresh =>
      rw [hview] at h
      exact h.elim
    | read before now =>
      rw [hview] at h
      obtain ⟨o', hc, hfailed, hdone, hnext⟩ := h
      refine .inr ⟨o', ok, hc, ?_, hnext _ ok⟩
      cases ok with
      | false =>
        rw [hcalls.failed f f' s s' hs]
        exact hfailed _
      | true =>
        obtain ⟨rfl, rfl⟩ := hcalls.committed f f' s s' hs before now hview
        exact hdone
  | notSynchronized => exact .inl ⟨rfl, h⟩
  | synchronize s s' hs =>
    refine .inl ⟨rfl, ?_⟩
    rw [Option.map_some, hcalls.synchronize s s' hs]
    exact h

/-! ## The functions -/

theorem save_follows {key : String} {on : Bool} {before : Values} :
    FollowsCall (switchObject key) controlPrefsSave (some (.read before (setSwitch key on before)))
      (.called (.set on)) := by
  refine ⟨.set on, rfl, fun file => .inr ⟨rfl, rfl⟩, .inl ⟨rfl, rfl⟩, fun v ok => ?_⟩
  exact ⟨rfl, trivial⟩

theorem get_follows (file : ControlFile) {v : Option SessionView} (hv : Rested v) :
    FollowsCall (switchObject file.key) file.get v (.called .get) := by
  cases file with
  | ipMonitor =>
    rcases v with _ | _ | _
    · refine ⟨fun d => ⟨.get, _, rfl, ⟨rfl, rfl⟩, rfl, trivial⟩, .get, rfl, rfl, trivial⟩
    · exact fun d => ⟨.get, _, rfl, ⟨rfl, rfl⟩, rfl, trivial⟩
    · exact hv.elim
  | interfaceNamer =>
    rcases v with _ | _ | _
    · refine ⟨fun d => ⟨.get, _, rfl, ⟨rfl, rfl⟩, rfl, trivial⟩, .get, rfl, rfl, trivial⟩
    · exact fun d => ⟨.get, _, rfl, ⟨rfl, rfl⟩, rfl, trivial⟩
    · exact hv.elim

/-- What the functions that set the switch come to. -/
theorem setBoolean_follows (key : String) (on : Bool) {v : Option SessionView} (hv : Rested v) :
    FollowsCall (switchObject key)
      (do
        prefsSetBoolean key (if on then some (.boolean true) else none)
        controlPrefsSave) v (.called (.set on)) := by
  rcases v with _ | _ | _
  · refine ⟨?_, .set on, rfl, rfl, trivial⟩
    cases on with
    | true => exact fun d => save_follows
    | false => exact fun d => save_follows
  · cases on with
    | true => exact fun d => save_follows
    | false => exact fun d => save_follows
  · exact hv.elim

theorem set_eq (file : ControlFile) (on : Bool) :
    file.set on = (do
      prefsSetBoolean file.key (if on then some (.boolean true) else none)
      controlPrefsSave) := by
  cases file <;> cases on <;> rfl

theorem code_follows (file : ControlFile) (c : SwitchCall) {v : Option SessionView}
    (hv : Rested v) : FollowsCall (switchObject file.key) (file.code c) v (.called c) := by
  cases c with
  | get => exact get_follows file hv
  | set on =>
    rw [ControlFile.code, set_eq]
    exact setBoolean_follows file.key on hv

/-! ## All processes -/

/-- What has to be there of a process while its call has some status. -/
def ClientProcess.Matches (p : ClientProcess calls) (O : AtomicObject Values ω Bool)
    (c : CallStatus ω Bool) : Prop :=
  match p.program with
  | none => c = .idle ∧ Rested (p.session.map calls.view)
  | some q => FollowsCall O q (p.session.map calls.view) c

/-- The file has what the object has, and every process matches its call. -/
def FollowsObject (O : AtomicObject Values ω Bool) (s : F × (ι → ClientProcess calls))
    (a : Values × (ι → CallStatus ω Bool)) : Prop :=
  a.1 = calls.contents s.1 ∧ ∀ i, (s.2 i).Matches O (a.2 i)

/-- One process has gone on. -/
theorem matches_update {p : ι → ClientProcess calls} {c : ι → CallStatus ω Bool}
    (h : ∀ j, (p j).Matches O (c j)) (i : ι) {q : ClientProcess calls} {d : CallStatus ω Bool}
    (hi : q.Matches O d) (j : ι) :
    (Function.update p i q j).Matches O (Function.update c i d j) := by
  by_cases hj : j = i
  · subst hj
    simpa using hi
  · simpa [hj] using h j

theorem controlSystem_simulates (file : ControlFile) (hcalls : calls.Documented) :
    Simulates (controlSystem (ι := ι) file calls) (switchObject file.key).transitions
      (FollowsObject (switchObject file.key)) := by
  rintro ⟨f, p⟩ ⟨d, c⟩ o s' ⟨hd, hc⟩ hstep
  obtain rfl : d = calls.contents f := hd
  cases hstep with
  | invoke i call hi =>
    have hci := hc i
    rw [ClientProcess.Matches, hi] at hci
    refine ⟨_, .single (.invoke i call hci.1), rfl, matches_update hc i ?_⟩
    exact code_follows file call hci.2
  | @act _ f' _ i o next x s' hi hp =>
    have hci := hc i
    rw [ClientProcess.Matches, hi] at hci
    obtain ⟨hf, hnext⟩ | ⟨call, r, hcall, happly, hnext⟩ := hci.performs hcalls hp
    · refine ⟨(calls.contents f, c), .start, hf.symm, fun j => ?_⟩
      have := matches_update hc i (q := ⟨s', some (next x)⟩) (d := c i) hnext j
      rwa [Function.update_eq_self] at this
    · exact ⟨_, .single (.apply i call r hcall happly), rfl, matches_update hc i hnext⟩
  | refuse i next hi =>
    have hci := hc i
    rw [ClientProcess.Matches, hi] at hci
    obtain ⟨-, call, hcall, hnext⟩ := hci
    exact ⟨_, .single (.refuse i call hcall), rfl, matches_update hc i hnext⟩
  | answer i r hi =>
    have hci := hc i
    rw [ClientProcess.Matches, hi] at hci
    exact ⟨_, .single (.answer i r hci.1), rfl, matches_update hc i ⟨rfl, hci.2⟩⟩
  | change f' => exact ⟨_, .single (.change (calls.contents f')), rfl, hc⟩

/-- **The switch is atomic.** Whatever processes read and set a control file at the same time, also
while others change it: what is seen of them could be seen of a switch that is read and set at once,
and in the end the file has what that switch has. -/
theorem controlSystem_atomic (file : ControlFile) (hcalls : calls.Documented) (f : F)
    {t : List (CallEvent ι Values SwitchCall Bool)} {s : F × (ι → ClientProcess calls)}
    (hrun : (controlSystem file calls).Run (f, fun _ => ⟨none, none⟩) t s) :
    ∃ c, (switchObject file.key).transitions.Run (calls.contents f, fun _ => .idle) t
      (calls.contents s.1, c) := by
  have hstart : FollowsObject (switchObject file.key)
      (f, fun _ : ι => (⟨none, none⟩ : ClientProcess calls))
      (calls.contents f, fun _ => .idle) := ⟨rfl, fun _ => ⟨rfl, trivial⟩⟩
  obtain ⟨⟨d, c⟩, hrun', hd, -⟩ := (controlSystem_simulates file hcalls).run hstart hrun
  obtain rfl : d = calls.contents s.1 := hd
  exact ⟨c, hrun'⟩

end

/-- A session that is what it shows, and a file that is its values. -/
def plainCalls : PreferencesCalls Values where
  Session := SessionView
  contents f := f
  view s := s
  create _ s := s = .fresh
  getValue f s key value s' := value = s.values f key ∧ s' = s.access f
  setValue f s key value s' := s' = s.change f key (some value)
  removeValue f s key s' := s' = s.change f key none
  commitChanges f s ok f' s' := s' = s ∧
    ((ok = false ∧ f' = f) ∨ (ok = true ∧ s = .fresh ∧ f' = f) ∨
      (ok = true ∧ s = .read f f'))
  synchronize _ s' := s' = .fresh

theorem plainCalls_documented : plainCalls.Documented where
  create _ _ h := h
  getValue _ _ _ _ _ h := h
  setValue _ _ _ _ _ h := h
  removeValue _ _ _ _ h := h
  failed := by
    rintro f f' s s' ⟨-, ⟨-, rfl⟩ | ⟨⟨⟩, -⟩ | ⟨⟨⟩, -⟩⟩
    rfl
  committed := by
    rintro f f' s s' ⟨-, ⟨⟨⟩, -⟩ | ⟨-, rfl, -⟩ | ⟨-, rfl⟩⟩ before now hs
    · cases hs
    · cases hs
      exact ⟨rfl, rfl⟩
  synchronize _ _ h := h

/-- One process sets the switch of IPMonitor while another reads it, and reads it again. -/
theorem controlSystem_atomic_set :
    ∃ c, (switchObject "Verbose").transitions.Run (fun _ => none, fun _ : Bool => .idle)
      [.invoke false (.set true), .invoke true .get, .answer true false, .answer false true,
        .invoke true .get, .answer true true] (setSwitch "Verbose" true fun _ => none, c) := by
  have hcreate : plainCalls.create (fun _ => none) SessionView.fresh := rfl
  have hsynchronize : ∀ s, plainCalls.synchronize s SessionView.fresh := fun _ => rfl
  have step : ∀ {s s' : Values × (Bool → ClientProcess plainCalls)}
      {t : List (CallEvent Bool Values SwitchCall Bool)}
      (o : Option (CallEvent Bool Values SwitchCall Bool)),
      (controlSystem .ipMonitor plainCalls).Run (fun _ => none, fun _ => ⟨none, none⟩) t s →
      ControlStep .ipMonitor plainCalls s o s' →
      (controlSystem .ipMonitor plainCalls).Run (fun _ => none, fun _ => ⟨none, none⟩)
        (t ++ o.toList) s' := fun o h hs => h.next o hs
  have h₁ := step (some (.invoke false (.set true))) .start (.invoke false (.set true) rfl)
  have h₂ := step (some (.invoke true .get)) h₁ (.invoke true .get rfl)
  -- both get a session
  have h₃ := step none h₂ (.act false .hasSession _ _ _ rfl (.hasSession _))
  have h₄ := step none h₃ (.act false .create _ _ _ rfl (.create _ _ hcreate))
  have h₅ := step none h₄ (.act true .hasSession _ _ _ rfl (.hasSession _))
  have h₆ := step none h₅ (.act true .create _ _ _ rfl (.create _ _ hcreate))
  have h₇ := step none h₆ (.act false .hasSession _ _ _ rfl (.hasSession _))
  have h₈ := step none h₇ (.act true .hasSession _ _ _ rfl (.hasSession _))
  -- the value is set in the one, and read in the other
  have h₉ := step none h₈ (.act false (.setValue "Verbose" (.boolean true)) _ _ _ rfl
    (.setValue _ _ _ _ rfl))
  have h₁₀ := step none h₉ (.act true (.getValue "Verbose") _ _ _ rfl
    (.getValue _ _ _ none ⟨rfl, rfl⟩))
  have h₁₁ := step none h₁₀ (.act false .hasSession _ _ _ rfl (.hasSession _))
  have h₁₂ := step none h₁₁ (.act false .commitChanges _ true _ rfl
    (.commitChanges _ _ true (setSwitch "Verbose" true fun _ => none)
      ⟨rfl, .inr (.inr ⟨rfl, rfl⟩)⟩))
  have h₁₃ := step none h₁₂ (.act true .hasSession _ _ _ rfl (.hasSession _))
  have h₁₄ := step none h₁₃ (.act true .synchronize _ _ _ rfl (.synchronize _ _ (hsynchronize _)))
  have h₁₅ := step (some (.answer true false)) h₁₄ (.answer true false rfl)
  have h₁₆ := step none h₁₅ (.act false .synchronize _ _ _ rfl
    (.synchronize _ _ (hsynchronize _)))
  have h₁₇ := step (some (.answer false true)) h₁₆ (.answer false true rfl)
  -- it is read again
  have h₁₈ := step (some (.invoke true .get)) h₁₇ (.invoke true .get rfl)
  have h₁₉ := step none h₁₈ (.act true .hasSession _ _ _ rfl (.hasSession _))
  have h₂₀ := step none h₁₉ (.act true .hasSession _ _ _ rfl (.hasSession _))
  have h₂₁ := step none h₂₀ (.act true (.getValue "Verbose") _ _ _ rfl
    (.getValue _ _ _ (some (.boolean true)) ⟨rfl, rfl⟩))
  have h₂₂ := step none h₂₁ (.act true .hasSession _ _ _ rfl (.hasSession _))
  have h₂₃ := step none h₂₂ (.act true .synchronize _ _ _ rfl (.synchronize _ _ (hsynchronize _)))
  have h₂₄ := step (some (.answer true true)) h₂₃ (.answer true true rfl)
  exact controlSystem_atomic .ipMonitor plainCalls_documented _ h₂₄

end ConfigdExtra
