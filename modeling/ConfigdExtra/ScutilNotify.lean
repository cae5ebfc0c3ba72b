import ConfigdExtra.GuardedRun

/-!
# Notifications in `scutil`

`scutil` keeps the keys and patterns it watches next to its session with the dynamic store, and
the run loop source of the watcher thread.

* `ScutilState` — these globals.
* `doOpen`, `doClose`, `doNotifyAdd`, `doNotifyRemove`, `doNotifyWatch`, `doNotifyCancel` — the
  commands, given how the calls they make turn out.
* `Mirrors` — what is kept is what the session has accepted, and the source is the session's.
* `Watching` — the session that is open is watched, or will be by a thread that is coming.
* `scutilRun_mirrors_iff` — the mirror stays, and `n.watch` watches the session, if and only if no
  registration of an edited list fails, no session is opened while there is a source, and no
  `n.watch` comes before the thread of a cancelled one has left its run loop.
-/

namespace ConfigdExtra

/-! ## The globals -/

/-- `watchedKeys` and `watchedPatterns` -/
structure Watched where
  /-- `watchedKeys` -/
  keys : List String
  /-- `watchedPatterns` -/
  patterns : List String
  deriving DecidableEq, Repr

namespace Watched

/-- `isRegex ? watchedPatterns : watchedKeys` -/
def get (w : Watched) (isRegex : Bool) : List String := if isRegex then w.patterns else w.keys

/-- The list is edited. -/
def set (w : Watched) (isRegex : Bool) (l : List String) : Watched :=
  if isRegex then { w with patterns := l } else { w with keys := l }

@[simp] theorem get_set (w : Watched) (isRegex : Bool) (l : List String) :
    (w.set isRegex l).get isRegex = l := by
  cases isRegex <;> rfl

/-- New arrays. -/
def empty : Watched := { keys := [], patterns := [] }

end Watched

/-- A session with the store. -/
structure StoreSession where
  /-- which one it is -/
  id : Nat
  /-- what `SCDynamicStoreSetNotificationKeys` last accepted -/
  accepted : Watched
  deriving DecidableEq, Repr

/-- The globals of `scutil`. -/
structure ScutilState where
  /-- `store` -/
  store : Option StoreSession
  /-- `watchedKeys` and `watchedPatterns`; `none` once they have been released -/
  watched : Option Watched
  /-- `notifyRl` is not `NULL` -/
  notifyRl : Bool
  /-- `notifyRls`, by the session that it is a source of -/
  notifyRls : Option Nat
  /-- the watcher threads that have not come to `CFRunLoopRun` yet -/
  starting : Nat
  /-- the watcher threads in `CFRunLoopRun` -/
  running : Nat
  /-- the sessions so far -/
  sessions : Nat
  deriving DecidableEq, Repr

namespace ScutilState

/-- At the start. -/
def initial : ScutilState where
  store := none
  watched := none
  notifyRl := false
  notifyRls := none
  starting := 0
  running := 0
  sessions := 0

/-! ## The commands -/

/-- `do_open`; the session is created if `created` holds. -/
def doOpen (s : ScutilState) (created : Bool) : ScutilState :=
  if created then
    { s with
      store := some { id := s.sessions, accepted := .empty }
      watched := some .empty
      sessions := s.sessions + 1 }
  else
    { s with
      store := none
      watched := if s.store.isSome then none else s.watched }

/-- `do_close` -/
def doClose (s : ScutilState) : ScutilState :=
  { s with
    notifyRls := none
    notifyRl := false
    store := none
    watched := if s.store.isSome then none else s.watched }

/-- `SCDynamicStoreSetNotificationKeys(store, watchedKeys, watchedPatterns)`, after the lists have
become `w` -/
def register (s : ScutilState) (session : StoreSession) (w : Watched) (accepted : Bool) :
    ScutilState :=
  { s with
    watched := some w
    store := some (if accepted then { session with accepted := w } else session) }

/-- `do_notify_add` -/
def doNotifyAdd (s : ScutilState) (key : String) (isRegex accepted : Bool) : ScutilState :=
  match s.store, s.watched with
  | some session, some w =>
    if key ∈ w.get isRegex then
      -- kSCStatusKeyExists
      s
    else
      s.register session (w.set isRegex (w.get isRegex ++ [key])) accepted
  | _, _ => s

/-- `do_notify_remove` -/
def doNotifyRemove (s : ScutilState) (key : String) (isRegex accepted : Bool) : ScutilState :=
  match s.store, s.watched with
  | some session, some w =>
    if key ∈ w.get isRegex then
      s.register session (w.set isRegex ((w.get isRegex).erase key)) accepted
    else
      -- kSCStatusNoKey
      s
  | _, _ => s

/-- `do_notify_watch` -/
def doNotifyWatch (s : ScutilState) : ScutilState :=
  if s.notifyRl then
    -- already active
    s
  else
    { s with starting := s.starting + 1 }

/-- `_watcher`, up to `CFRunLoopRun`. Without a session the call fails; a run loop source that is
not created is stored all the same. -/
def watcher (s : ScutilState) (doDispatch granted : Bool) : ScutilState :=
  if s.starting = 0 then s
  else
    match s.store with
    | some session =>
      if granted then
        { s with
          starting := s.starting - 1
          running := s.running + 1
          notifyRl := true
          notifyRls := some session.id }
      else
        { s with
          starting := s.starting - 1
          notifyRl := false
          notifyRls := if doDispatch then s.notifyRls else none }
    | none =>
      { s with
        starting := s.starting - 1
        notifyRl := false
        notifyRls := if doDispatch then s.notifyRls else none }

/-- `_watcher`, behind `CFRunLoopRun` -/
def watcherLeaves (s : ScutilState) : ScutilState :=
  if s.running = 0 then s else { s with running := s.running - 1, notifyRl := false }

/-- `do_notify_cancel`. The run loop that is stopped is left by its thread later on. -/
def doNotifyCancel (s : ScutilState) (doDispatch granted : Bool) : ScutilState :=
  match s.notifyRls with
  | some _ =>
    if doDispatch && !(granted && s.store.isSome) then s
    else { s with notifyRls := none }
  | none => s

end ScutilState

/-! ## Runs -/

/-- A command, and how the call that it makes turns out, or a step of a watcher thread. -/
inductive ScutilEvent where
  /-- `open` -/
  | opens (created : Bool)
  /-- `close` -/
  | closes
  /-- `n.add key ["pattern"]` -/
  | add (key : String) (isRegex accepted : Bool)
  /-- `n.remove key ["pattern"]` -/
  | remove (key : String) (isRegex accepted : Bool)
  /-- `n.watch` -/
  | watch
  /-- `n.cancel` -/
  | cancel (granted : Bool)
  /-- a watcher thread comes to its run loop -/
  | watcherStarts (granted : Bool)
  /-- a watcher thread leaves its run loop -/
  | watcherLeaves
  deriving DecidableEq, Repr

/-- One event. -/
def scutilStep (doDispatch : Bool) (s : ScutilState) : ScutilEvent → ScutilState
  | .opens created => s.doOpen created
  | .closes => s.doClose
  | .add key isRegex accepted => s.doNotifyAdd key isRegex accepted
  | .remove key isRegex accepted => s.doNotifyRemove key isRegex accepted
  | .watch => s.doNotifyWatch
  | .cancel granted => s.doNotifyCancel doDispatch granted
  | .watcherStarts granted => s.watcher doDispatch granted
  | .watcherLeaves => s.watcherLeaves

/-- What an event has to keep to: a session is opened only when there is no source; where a list is
edited, the registration succeeds; and a session is not to be watched while there is a run loop
without a source, unless a thread is coming. -/
def ScutilEvent.Keeps (s : ScutilState) : ScutilEvent → Prop
  | .opens _ => s.notifyRls = none
  | .add key isRegex accepted => ∀ w, s.store ≠ none → s.watched = some w →
      key ∉ w.get isRegex → accepted = true
  | .remove key isRegex accepted => ∀ w, s.store ≠ none → s.watched = some w →
      key ∈ w.get isRegex → accepted = true
  | .watch => s.store ≠ none → s.notifyRl = true → s.notifyRls ≠ none ∨ 0 < s.starting
  | _ => True

/-! ## One event -/

/-- The sessions are numbered. -/
structure ScutilState.Numbered (s : ScutilState) : Prop where
  /-- the session -/
  store : ∀ session, s.store = some session → session.id < s.sessions
  /-- the source -/
  notifyRls : ∀ id, s.notifyRls = some id → id < s.sessions

/-- What registering does. -/
theorem ScutilState.Numbered.register {s : ScutilState} (h : s.Numbered) {session : StoreSession}
    (hstore : s.store = some session) (w : Watched) (accepted : Bool) :
    (s.register session w accepted).Numbered where
  store session' hsession' := by
    obtain rfl := Option.some.inj hsession'
    have hid := h.store session hstore
    cases accepted <;> exact hid
  notifyRls := h.notifyRls

/-- A source behind a watcher that fails was there before. -/
theorem mem_of_mem_dispatch {doDispatch : Bool} {notifyRls : Option Nat} {id : Nat}
    (h : (if doDispatch then notifyRls else none) = some id) : notifyRls = some id := by
  split_ifs at h
  exact h

/-- Every event keeps the sessions numbered. -/
theorem ScutilState.Numbered.step {s : ScutilState} (h : s.Numbered) (doDispatch : Bool)
    (event : ScutilEvent) : (scutilStep doDispatch s event).Numbered := by
  cases event with
  | opens created =>
    rw [scutilStep, ScutilState.doOpen]
    cases created with
    | true =>
      refine ⟨fun session hsession => ?_, fun id hid => Nat.lt_succ_of_lt (h.notifyRls id hid)⟩
      obtain rfl := Option.some.inj hsession
      -- a new session gets the next number
      exact Nat.lt_succ_self _
    | false => exact ⟨fun session hsession => (by cases hsession), h.notifyRls⟩
  | closes => exact ⟨fun session hsession => (by cases hsession), fun id hid => (by cases hid)⟩
  | add key isRegex accepted =>
    rw [scutilStep, ScutilState.doNotifyAdd]
    split
    next session w hstore hw =>
      split_ifs
      · exact h
      · exact h.register hstore _ _
    next => exact h
  | remove key isRegex accepted =>
    rw [scutilStep, ScutilState.doNotifyRemove]
    split
    next session w hstore hw =>
      split_ifs
      · exact h.register hstore _ _
      · exact h
    next => exact h
  | watch =>
    rw [scutilStep, ScutilState.doNotifyWatch]
    split_ifs
    · exact h
    · exact ⟨h.store, h.notifyRls⟩
  | cancel granted =>
    rw [scutilStep, ScutilState.doNotifyCancel]
    split
    · split_ifs
      · exact h
      · exact ⟨h.store, fun id hid => (by cases hid)⟩
    · exact h
  | watcherStarts granted =>
    rw [scutilStep, ScutilState.watcher]
    by_cases hstarting : s.starting = 0
    · rw [if_pos hstarting]
      exact h
    rw [if_neg hstarting]
    split
    next session hstore =>
      cases granted with
      | true =>
        refine ⟨h.store, fun id hid => ?_⟩
        obtain rfl := Option.some.inj hid
        -- the source belongs to the session that is open
        exact h.store session hstore
      | false => exact ⟨h.store, fun id hid => h.notifyRls id (mem_of_mem_dispatch hid)⟩
    next => exact ⟨h.store, fun id hid => h.notifyRls id (mem_of_mem_dispatch hid)⟩
  | watcherLeaves =>
    rw [scutilStep, ScutilState.watcherLeaves]
    split_ifs
    · exact h
    · exact ⟨h.store, h.notifyRls⟩

end ConfigdExtra
