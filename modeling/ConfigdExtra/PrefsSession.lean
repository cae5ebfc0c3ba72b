import ConfigdExtra.GuardedRun

/-!
# The session of a preferences object

`session` is shared by the notifications that are scheduled and by others, such as a lock, and
counted by `sessionRefcnt`.

* `Preferences` — the fields, with `scheduleWithRunLoop` and `unscheduleFromRunLoop`.
* `Holding` — who holds the session, from what the calls have returned.
* `Disciplined` — the fields are those of the holders.
* `referencesKept_iff` — they are all along a run if and only if it is not scheduled while
  another holder has the session, and no call of the store fails after the session was created.
-/

namespace ConfigdExtra

/-! ## The fields and the calls -/

/-- The fields about notifications, for run loops `ρ`, modes `μ` and queues `κ`. -/
@[ext]
structure Preferences (ρ μ κ : Type) where
  /-- is there a session? -/
  session : Bool
  /-- an `int` -/
  sessionRefcnt : Int
  scheduled : Bool
  /-- is there a run loop source? -/
  rls : Bool
  /-- the run loops and modes that were scheduled -/
  rlList : Option (Multiset (ρ × μ))
  dispatchQueue : Option κ
  /-- the run loops and modes that have the source -/
  sources : Finset (ρ × μ)

/-- What notifications are scheduled with: a run loop in a mode, or a queue. -/
inductive ScheduleTarget (ρ μ κ : Type)
  | runLoop (e : ρ × μ)
  | queue (q : κ)

/-- How the calls of the dynamic store turn out. -/
structure StoreCalls where
  /-- `SCDynamicStoreCreate` -/
  created : Bool
  /-- `SCDynamicStoreSetNotificationKeys` -/
  keys : Bool
  /-- `SCDynamicStoreCreateRunLoopSource` -/
  source : Bool
  /-- `SCDynamicStoreSetDispatchQueue` -/
  queue : Bool

/-- `int` arithmetic -/
def asInt (n : Int) : Int := n.bmod (2 ^ 32)

section

variable {ρ μ κ : Type} [DecidableEq ρ] [DecidableEq μ]

namespace Preferences

/-- Nothing is scheduled, and there is no session. -/
def initial : Preferences ρ μ κ where
  session := false
  sessionRefcnt := 0
  scheduled := false
  rls := false
  rlList := none
  dispatchQueue := none
  sources := ∅

/-- `__SCPreferencesAddSession` -/
def addSession (p : Preferences ρ μ κ) (created : Bool) : Bool × Preferences ρ μ κ :=
  if p.sessionRefcnt = 0 then
    if created then (true, { p with session := true, sessionRefcnt := asInt (p.sessionRefcnt + 1) })
    else (false, { p with session := false })
  else (true, { p with sessionRefcnt := asInt (p.sessionRefcnt + 1) })

/-- `__SCPreferencesRemoveSession` -/
def removeSession (p : Preferences ρ μ κ) : Preferences ρ μ κ :=
  if 0 < p.sessionRefcnt then
    if p.sessionRefcnt - 1 = 0 then { p with session := false, sessionRefcnt := 0 }
    else { p with sessionRefcnt := p.sessionRefcnt - 1 }
  else p

/-- The first part of `__SCPreferencesScheduleWithRunLoop`, while nothing is scheduled -/
def establish (p : Preferences ρ μ κ) (target : ScheduleTarget ρ μ κ) (calls : StoreCalls) :
    Bool × Preferences ρ μ κ :=
  let added := if p.session then (true, p) else p.addSession calls.created
  if !added.1 then added
  else if !calls.keys then (false, added.2)
  else
    match target with
    | .runLoop _ =>
      if calls.source then
        (true, { added.2 with rls := true, rlList := some 0, scheduled := true })
      else (false, { added.2 with rls := false })
    | .queue _ => (true, { added.2 with scheduled := true })

/-- The second part -/
def attach (p : Preferences ρ μ κ) (target : ScheduleTarget ρ μ κ) (calls : StoreCalls) :
    Bool × Preferences ρ μ κ :=
  match target with
  | .queue q =>
    if calls.queue then (true, { p with dispatchQueue := some q })
    else (false, { p with scheduled := false }.removeSession)
  | .runLoop e =>
    (true,
      { p with
        sources := if e ∈ p.rlList.getD 0 then p.sources else insert e p.sources
        rlList := p.rlList.map fun l => e ::ₘ l })

/-- `__SCPreferencesScheduleWithRunLoop` -/
def scheduleWithRunLoop (p : Preferences ρ μ κ) (target : ScheduleTarget ρ μ κ)
    (calls : StoreCalls) : Bool × Preferences ρ μ κ :=
  let onQueue := match target with
    | .queue _ => true
    | .runLoop _ => false
  if p.dispatchQueue.isSome || (onQueue && p.scheduled) then (false, p)
  else
    let established := if p.scheduled then (true, p) else p.establish target calls
    if established.1 then established.2.attach target calls else established

/-- The last part of `__SCPreferencesUnscheduleFromRunLoop`, when nothing is scheduled any more -/
def release (p : Preferences ρ μ κ) : Preferences ρ μ κ :=
  { p with scheduled := false }.removeSession

/-- `__SCPreferencesUnscheduleFromRunLoop`, from a run loop in a mode, or from the queue -/
def unscheduleFromRunLoop (p : Preferences ρ μ κ) (target : Option (ρ × μ)) :
    Bool × Preferences ρ μ κ :=
  if target.isSome && !p.scheduled then (false, p)
  else if (target.isNone && p.dispatchQueue.isNone) || (target.isSome && p.dispatchQueue.isSome)
  then (false, p)
  else
    match target with
    | none => (true, { p with dispatchQueue := none }.release)
    | some e =>
      let l := p.rlList.getD 0
      if e ∈ l then
        let rest := l.erase e
        if rest.card = 0 then
          (true, { p with rlList := none, rls := false, sources := ∅ }.release)
        else
          (true,
            { p with
              rlList := some rest
              sources := if e ∈ rest then p.sources else p.sources.erase e })
      else (false, p)

end Preferences

end

/-! ## Runs -/

/-- Who holds the session: the notifications that are scheduled, and how many others. -/
structure Holding (ρ μ κ : Type) where
  loops : Multiset (ρ × μ)
  queue : Option κ
  others : ℕ

/-- The calls. What is not scheduling is by another holder: a reference is taken, or given
back. -/
inductive SessionCall (ρ μ κ : Type)
  | schedule (target : ScheduleTarget ρ μ κ) (calls : StoreCalls)
  | unschedule (target : Option (ρ × μ))
  | acquire (created : Bool)
  | giveBack

section

variable {ρ μ κ : Type} [DecidableEq ρ] [DecidableEq μ]

namespace Holding

/-- Nobody holds the session. -/
def initial : Holding ρ μ κ := ⟨0, none, 0⟩

/-- Notifications are scheduled. -/
def Scheduled (h : Holding ρ μ κ) : Prop := h.loops ≠ 0 ∨ h.queue.isSome

instance (h : Holding ρ μ κ) : Decidable h.Scheduled := inferInstanceAs (Decidable (_ ∨ _))

/-- Who holds the session after a call that has returned `ok`. -/
def after (h : Holding ρ μ κ) (ok : Bool) (c : SessionCall ρ μ κ) : Holding ρ μ κ :=
  if ok then
    match c with
    | .schedule (.runLoop e) _ => { h with loops := e ::ₘ h.loops }
    | .schedule (.queue q) _ => { h with queue := some q }
    | .unschedule none => { h with queue := none }
    | .unschedule (some e) => { h with loops := h.loops.erase e }
    | .acquire _ => { h with others := h.others + 1 }
    | .giveBack => { h with others := h.others - 1 }
  else h

end Holding

/-- A preferences object and its holders -/
abbrev HeldPreferences (ρ μ κ : Type) : Type := Preferences ρ μ κ × Holding ρ μ κ

/-- What a call returns and leaves. Only who has a reference can give it back. -/
def SessionCall.perform (s : HeldPreferences ρ μ κ) :
    SessionCall ρ μ κ → Bool × Preferences ρ μ κ
  | .schedule target calls => s.1.scheduleWithRunLoop target calls
  | .unschedule target => s.1.unscheduleFromRunLoop target
  | .acquire created => s.1.addSession created
  | .giveBack => (true, if 0 < s.2.others then s.1.removeSession else s.1)

/-- One call -/
def sessionStep (s : HeldPreferences ρ μ κ) (c : SessionCall ρ μ κ) : HeldPreferences ρ μ κ :=
  ((c.perform s).2, s.2.after (c.perform s).1 c)

/-- The state after a run. -/
def sessionRun (calls : List (SessionCall ρ μ κ)) : HeldPreferences ρ μ κ :=
  calls.foldl sessionStep (.initial, .initial)

/-! ## The property -/

/-- **The fields are those of the holders.** -/
structure Disciplined (p : Preferences ρ μ κ) (h : Holding ρ μ κ) : Prop where
  /-- the other holders, and one if notifications are scheduled -/
  sessionRefcnt : p.sessionRefcnt = h.others + if h.Scheduled then 1 else 0
  session : p.session = true ↔ 0 < p.sessionRefcnt
  scheduled : p.scheduled = true ↔ h.Scheduled
  rls : p.rls = true ↔ h.loops ≠ 0
  rlList : p.rlList = if h.loops = 0 then none else some h.loops
  dispatchQueue : p.dispatchQueue = h.queue
  /-- never both -/
  single : h.loops = 0 ∨ h.queue = none
  /-- the source is where notifications are scheduled -/
  sources : p.sources = h.loops.toFinset

/-- The fields are those of the holders after every call, and a call that returns `FALSE` leaves
them. -/
structure ReferencesKept (calls : List (SessionCall ρ μ κ)) : Prop where
  disciplined : ∀ before after, calls = before ++ after →
    Disciplined (sessionRun before).1 (sessionRun before).2
  refused : ∀ before c after, calls = before ++ c :: after →
    (c.perform (sessionRun before)).1 = false →
    (c.perform (sessionRun before)).2 = (sessionRun before).1

/-! ## The condition -/

/-- The calls of the store before the last one succeed. -/
def StoreCalls.establish (calls : StoreCalls) : ScheduleTarget ρ μ κ → Bool
  | .runLoop _ => calls.keys && calls.source
  | .queue _ => calls.keys

/-- While nothing is scheduled, notifications are not scheduled with the session of another
holder; and when the session is created for them, they get that far. -/
def SessionCall.Keeps (s : HeldPreferences ρ μ κ) : SessionCall ρ μ κ → Prop
  | .schedule target calls => s.1.scheduled = false →
      if s.1.session then calls.establish target = false
      else calls.created = true → calls.establish target = true
  | .acquire _ => s.1.sessionRefcnt + 1 < 2 ^ 31
  | _ => True

/-! ## One call -/

theorem asInt_eq_self_iff {n : Int} (hn : 0 ≤ n) : asInt n = n ↔ n < 2 ^ 31 := by
  unfold asInt
  constructor
  · intro heq
    have := Int.bmod_lt (x := n) (m := 2 ^ 32) (by decide)
    omega
  · intro hlt
    exact Int.bmod_eq_of_le (by omega) (by omega)

/-- How many references there are. -/
def Holding.references (h : Holding ρ μ κ) : ℕ := h.others + if h.Scheduled then 1 else 0

/-- The fields, from the holders. -/
def Holding.prefs (h : Holding ρ μ κ) : Preferences ρ μ κ where
  session := decide (0 < h.references)
  sessionRefcnt := h.references
  scheduled := decide h.Scheduled
  rls := decide (h.loops ≠ 0)
  rlList := if h.loops = 0 then none else some h.loops
  dispatchQueue := h.queue
  sources := h.loops.toFinset

theorem disciplined_iff {p : Preferences ρ μ κ} {h : Holding ρ μ κ} :
    Disciplined p h ↔ p = h.prefs ∧ (h.loops = 0 ∨ h.queue = none) := by
  constructor
  · intro hd
    refine ⟨?_, hd.single⟩
    ext1
    · rw [Bool.eq_iff_iff, hd.session, hd.sessionRefcnt]
      simp [Holding.prefs, Holding.references]
      split_ifs <;> omega
    · simp [hd.sessionRefcnt, Holding.prefs, Holding.references]
    · rw [Bool.eq_iff_iff, hd.scheduled]
      simp [Holding.prefs]
    · rw [Bool.eq_iff_iff, hd.rls]
      simp [Holding.prefs]
    · exact hd.rlList
    · exact hd.dispatchQueue
    · exact hd.sources
  · rintro ⟨rfl, hsingle⟩
    exact ⟨by simp [Holding.prefs, Holding.references], by simp [Holding.prefs],
      by simp [Holding.prefs], by simp [Holding.prefs], rfl, rfl, hsingle, rfl⟩

omit [DecidableEq ρ] [DecidableEq μ] in
/-- A reference is given back. -/
theorem removeSession_eq {p : Preferences ρ μ κ} (hsession : p.session = true)
    (h : 0 < p.sessionRefcnt) : p.removeSession =
      { p with session := decide (1 < p.sessionRefcnt), sessionRefcnt := p.sessionRefcnt - 1 } := by
  unfold Preferences.removeSession
  rw [if_pos h]
  split_ifs with hone
  · have hlt : ¬ 1 < p.sessionRefcnt := by omega
    simp [hlt, hone]
  · have hlt : 1 < p.sessionRefcnt := by omega
    simp [hlt, hsession]

theorem references_idle (others : ℕ) :
    (⟨0, none, others⟩ : Holding ρ μ κ).references = others := by
  simp [Holding.references, Holding.Scheduled]

theorem references_loops {loops : Multiset (ρ × μ)} (hloops : loops ≠ 0) (others : ℕ) :
    (⟨loops, none, others⟩ : Holding ρ μ κ).references = others + 1 := by
  simp [Holding.references, Holding.Scheduled, hloops]

theorem references_queue (q : κ) (others : ℕ) :
    (⟨0, some q, others⟩ : Holding ρ μ κ).references = others + 1 := by
  simp [Holding.references, Holding.Scheduled]

/-- While nothing is scheduled. -/
theorem prefs_idle (others : ℕ) : (⟨0, none, others⟩ : Holding ρ μ κ).prefs =
    ⟨decide (0 < others), others, false, false, none, none, ∅⟩ := by
  simp [Holding.prefs, Holding.references, Holding.Scheduled]

/-- While notifications are scheduled on run loops. -/
theorem prefs_loops {loops : Multiset (ρ × μ)} (hloops : loops ≠ 0) (others : ℕ) :
    (⟨loops, none, others⟩ : Holding ρ μ κ).prefs =
      ⟨true, others + 1, true, true, some loops, none, loops.toFinset⟩ := by
  simp [Holding.prefs, Holding.references, Holding.Scheduled, hloops]

/-- While notifications are scheduled on a queue. -/
theorem prefs_queue (q : κ) (others : ℕ) : (⟨0, some q, others⟩ : Holding ρ μ κ).prefs =
    ⟨true, others + 1, true, false, none, some q, ∅⟩ := by
  simp [Holding.prefs, Holding.references, Holding.Scheduled]

/-- Nothing is scheduled, or it is on run loops, or on a queue. -/
theorem Disciplined.cases {p : Preferences ρ μ κ} {h : Holding ρ μ κ} (hd : Disciplined p h) :
    p = h.prefs ∧ ((∃ others, h = ⟨0, none, others⟩) ∨
      (∃ loops others, loops ≠ 0 ∧ h = ⟨loops, none, others⟩) ∨
      ∃ q others, h = ⟨0, some q, others⟩) := by
  obtain ⟨hp, hsingle⟩ := disciplined_iff.mp hd
  refine ⟨hp, ?_⟩
  obtain ⟨loops, queue, others⟩ := h
  by_cases hloops : loops = 0
  · subst hloops
    cases queue with
    | none => exact .inl ⟨others, rfl⟩
    | some q => exact .inr (.inr ⟨q, others, rfl⟩)
  · obtain rfl := hsingle.resolve_left hloops
    exact .inr (.inl ⟨loops, others, hloops, rfl⟩)

/-- What is disciplined has the references of its holders. -/
theorem Disciplined.references {p : Preferences ρ μ κ} {h : Holding ρ μ κ} (hd : Disciplined p h) :
    p.sessionRefcnt = h.references := by
  simp [hd.sessionRefcnt, Holding.references]

/-- While something is scheduled, scheduling adds a run loop or is refused. -/
theorem schedule_loops {loops : Multiset (ρ × μ)} (hloops : loops ≠ 0) (others : ℕ)
    (target : ScheduleTarget ρ μ κ) (calls : StoreCalls) :
    (⟨loops, none, others⟩ : Holding ρ μ κ).prefs.scheduleWithRunLoop target calls =
      match target with
      | .runLoop e => (true, (⟨e ::ₘ loops, none, others⟩ : Holding ρ μ κ).prefs)
      | .queue _ => (false, (⟨loops, none, others⟩ : Holding ρ μ κ).prefs) := by
  rw [prefs_loops hloops]
  cases target with
  | queue q => simp [Preferences.scheduleWithRunLoop]
  | runLoop e =>
    have hcons : e ::ₘ loops ≠ 0 := Multiset.cons_ne_zero
    simp only [prefs_loops hcons]
    by_cases he : e ∈ loops
    · simp [Preferences.scheduleWithRunLoop, Preferences.attach, he]
    · simp [Preferences.scheduleWithRunLoop, Preferences.attach, he]

theorem schedule_queue (q : κ) (others : ℕ) (target : ScheduleTarget ρ μ κ) (calls : StoreCalls) :
    (⟨0, some q, others⟩ : Holding ρ μ κ).prefs.scheduleWithRunLoop target calls =
      (false, (⟨0, some q, others⟩ : Holding ρ μ κ).prefs) := by
  rw [prefs_queue]
  simp [Preferences.scheduleWithRunLoop]

/-- A session is created for the notifications. -/
theorem schedule_created (target : ScheduleTarget ρ μ κ) (calls : StoreCalls) :
    ((⟨0, none, 0⟩ : Holding ρ μ κ).prefs.scheduleWithRunLoop target calls) =
      if calls.created && !calls.establish target then
        (false, ⟨true, 1, false, false, none, none, ∅⟩)
      else if !calls.created then (false, (⟨0, none, 0⟩ : Holding ρ μ κ).prefs)
      else
        match target with
        | .runLoop e => (true, (⟨e ::ₘ 0, none, 0⟩ : Holding ρ μ κ).prefs)
        | .queue q =>
          if calls.queue then (true, (⟨0, some q, 0⟩ : Holding ρ μ κ).prefs)
          else (false, (⟨0, none, 0⟩ : Holding ρ μ κ).prefs) := by
  obtain ⟨created, keys, source, queue⟩ := calls
  rw [prefs_idle]
  cases target with
  | runLoop e =>
    simp only [prefs_loops (Multiset.cons_ne_zero (a := e) (m := 0))]
    cases created <;> cases keys <;> cases source <;>
      simp [Preferences.scheduleWithRunLoop, Preferences.establish, Preferences.addSession,
        Preferences.attach, StoreCalls.establish, asInt]
  | queue q =>
    simp only [prefs_queue]
    cases created <;> cases keys <;> cases queue <;>
      simp [Preferences.scheduleWithRunLoop, Preferences.establish, Preferences.addSession,
        Preferences.attach, StoreCalls.establish, asInt, removeSession_eq]

/-- The session of another holder is used for the notifications, without a reference. -/
theorem schedule_shared {others : ℕ} (hothers : 0 < others) (target : ScheduleTarget ρ μ κ)
    (calls : StoreCalls) :
    (calls.establish target = false →
      (⟨0, none, others⟩ : Holding ρ μ κ).prefs.scheduleWithRunLoop target calls =
        (false, (⟨0, none, others⟩ : Holding ρ μ κ).prefs)) ∧
    (calls.establish target = true →
      let r := (⟨0, none, others⟩ : Holding ρ μ κ).prefs.scheduleWithRunLoop target calls
      (r.1 = true ∧ r.2.sessionRefcnt = others) ∨
      (r.1 = false ∧ r.2.sessionRefcnt = others - 1)) := by
  obtain ⟨created, keys, source, queue⟩ := calls
  rw [prefs_idle]
  cases target with
  | runLoop e =>
    cases keys <;> cases source <;>
      simp [Preferences.scheduleWithRunLoop, Preferences.establish, Preferences.attach,
        StoreCalls.establish, hothers]
  | queue q =>
    cases keys <;> cases queue <;>
      simp [Preferences.scheduleWithRunLoop, Preferences.establish, Preferences.attach,
        StoreCalls.establish, hothers, removeSession_eq]

/-- Notifications are not scheduled on a run loop any more, or this is refused. -/
theorem unschedule_loops {loops : Multiset (ρ × μ)} (hloops : loops ≠ 0) (others : ℕ)
    (target : Option (ρ × μ)) :
    (⟨loops, none, others⟩ : Holding ρ μ κ).prefs.unscheduleFromRunLoop target =
      match target with
      | none => (false, (⟨loops, none, others⟩ : Holding ρ μ κ).prefs)
      | some e =>
        if e ∈ loops then (true, (⟨loops.erase e, none, others⟩ : Holding ρ μ κ).prefs)
        else (false, (⟨loops, none, others⟩ : Holding ρ μ κ).prefs) := by
  simp only [prefs_loops hloops]
  cases target with
  | none => simp [Preferences.unscheduleFromRunLoop]
  | some e =>
    by_cases he : e ∈ loops
    swap
    · simp [Preferences.unscheduleFromRunLoop, he]
    by_cases hrest : loops.erase e = 0
    · simp only [hrest, prefs_idle]
      simp [Preferences.unscheduleFromRunLoop, Preferences.release, he, hrest, removeSession_eq]
    · have hcard : ¬ loops.card - 1 = 0 := by
        rw [← Nat.pred_eq_sub_one, ← Multiset.card_erase_of_mem he, Multiset.card_eq_zero]
        exact hrest
      have hsources : (if e ∈ loops.erase e then loops.toFinset else loops.toFinset.erase e) =
          (loops.erase e).toFinset := by
        ext x
        by_cases hx : x = e
        · subst hx
          split_ifs with hagain <;> simp [he, hagain]
        · split_ifs <;> simp [hx, Multiset.mem_erase_of_ne hx]
      simp only [prefs_loops hrest, he, if_true, ← hsources, Preferences.unscheduleFromRunLoop]
      simp [he, hcard]

/-- Notifications are not scheduled on a queue any more, or this is refused. -/
theorem unschedule_queue (q : κ) (others : ℕ) (target : Option (ρ × μ)) :
    (⟨0, some q, others⟩ : Holding ρ μ κ).prefs.unscheduleFromRunLoop target =
      match target with
      | none => (true, (⟨0, none, others⟩ : Holding ρ μ κ).prefs)
      | some _ => (false, (⟨0, some q, others⟩ : Holding ρ μ κ).prefs) := by
  simp only [prefs_queue, prefs_idle]
  cases target with
  | none => simp [Preferences.unscheduleFromRunLoop, Preferences.release, removeSession_eq]
  | some e => simp [Preferences.unscheduleFromRunLoop]

theorem unschedule_idle (others : ℕ) (target : Option (ρ × μ)) :
    (⟨0, none, others⟩ : Holding ρ μ κ).prefs.unscheduleFromRunLoop target =
      (false, (⟨0, none, others⟩ : Holding ρ μ κ).prefs) := by
  simp only [prefs_idle]
  cases target <;> simp [Preferences.unscheduleFromRunLoop]

/-- One more holder. -/
theorem prefs_others (h : Holding ρ μ κ) : ({ h with others := h.others + 1 } : Holding ρ μ κ).prefs =
    { h.prefs with session := true, sessionRefcnt := h.references + 1 } := by
  have hnext : ({ h with others := h.others + 1 } : Holding ρ μ κ).references =
      h.references + 1 := Nat.add_right_comm _ _ _
  simp only [Holding.prefs, hnext, Nat.zero_lt_succ, decide_true]
  rfl

/-- Another holder takes a reference, creating the session if there is none. -/
theorem addSession_eq (h : Holding ρ μ κ) (created : Bool) (hlt : h.references + 1 < 2 ^ 31) :
    h.prefs.addSession created =
      if h.references = 0 ∧ created = false then (false, h.prefs)
      else (true, ({ h with others := h.others + 1 } : Holding ρ μ κ).prefs) := by
  have hint : asInt (h.references + 1 : Int) = h.references + 1 :=
    (asInt_eq_self_iff (by omega)).mpr (by omega)
  have hrefcnt : h.prefs.sessionRefcnt = h.references := rfl
  rw [prefs_others, Preferences.addSession, hrefcnt, hint]
  by_cases hzero : h.references = 0
  · have hsession : h.prefs.session = false := by simp [Holding.prefs, hzero]
    cases created with
    | true => simp [hzero]
    | false => simp [Holding.prefs, hzero]
  · have hsession : h.prefs.session = true := by simp [Holding.prefs, Nat.pos_of_ne_zero hzero]
    simp [hzero, ← hsession]

/-- Another holder gives a reference back. -/
theorem giveBack_eq (h : Holding ρ μ κ) :
    ({ h with others := h.others + 1 } : Holding ρ μ κ).prefs.removeSession = h.prefs := by
  have hrefcnt : ({ h with others := h.others + 1 } : Holding ρ μ κ).prefs.sessionRefcnt =
      h.references + 1 := by rw [prefs_others]
  rw [removeSession_eq (by rw [prefs_others]) (by omega), hrefcnt, prefs_others]
  simp [Holding.prefs]

/-! ## Runs -/

/-- While nothing is scheduled: either the session is created, or it is another holder's. -/
theorem schedule_idle_disciplined_iff (others : ℕ) (target : ScheduleTarget ρ μ κ)
    (calls : StoreCalls) :
    let s : HeldPreferences ρ μ κ := ((⟨0, none, others⟩ : Holding ρ μ κ).prefs, ⟨0, none, others⟩)
    Disciplined (sessionStep s (.schedule target calls)).1
        (sessionStep s (.schedule target calls)).2 ↔
      (SessionCall.schedule target calls).Keeps s := by
  intro s
  have hkeeps : (SessionCall.schedule target calls).Keeps s ↔
      if 0 < others then calls.establish target = false
      else calls.created = true → calls.establish target = true := by
    simp [s, SessionCall.Keeps, prefs_idle]
  rw [hkeeps]
  by_cases hothers : 0 < others
  · rw [if_pos hothers]
    obtain ⟨hrefused, htaken⟩ := schedule_shared (κ := κ) hothers target calls
    constructor
    · -- the reference is missing, or one too many is given back
      intro hd
      by_contra hestablish
      have hrefcnt := hd.references
      simp only [sessionStep, SessionCall.perform, s] at hrefcnt
      rcases htaken (by simpa using hestablish) with ⟨hok, hcount⟩ | ⟨hok, hcount⟩
      · rw [hok, hcount] at hrefcnt
        cases target with
        | runLoop e =>
          have hreferences := references_loops (κ := κ) (Multiset.cons_ne_zero (a := e) (m := 0)) others
          simp only [Holding.after, if_true, hreferences] at hrefcnt
          omega
        | queue q =>
          simp only [Holding.after, if_true, references_queue] at hrefcnt
          omega
      · rw [hok, hcount] at hrefcnt
        simp [Holding.after, references_idle] at hrefcnt
    · intro hestablish
      rw [sessionStep, SessionCall.perform, hrefused hestablish]
      exact disciplined_iff.mpr ⟨rfl, .inl rfl⟩
  · rw [if_neg hothers]
    obtain rfl : others = 0 := by omega
    have hperform := schedule_created (ρ := ρ) (μ := μ) (κ := κ) target calls
    simp only [sessionStep, SessionCall.perform, s, hperform]
    by_cases hcreated : calls.created = true
    · by_cases hestablish : calls.establish target = true
      · refine iff_of_true ?_ fun _ => hestablish
        simp only [hcreated, hestablish]
        cases target with
        | runLoop e => exact disciplined_iff.mpr ⟨rfl, .inr rfl⟩
        | queue q => cases calls.queue <;> exact disciplined_iff.mpr ⟨rfl, .inl rfl⟩
      · refine iff_of_false (fun hd => ?_) fun hall => hestablish (hall hcreated)
        -- the reference is not given back
        have hrefcnt := hd.references
        simp [hcreated, hestablish, Holding.after, references_idle] at hrefcnt
    · refine iff_of_true ?_ fun hok => absurd hok hcreated
      simp only [hcreated]
      exact disciplined_iff.mpr ⟨rfl, .inl rfl⟩

/-- **One call** keeps the fields those of the holders if and only if it meets the condition. -/
theorem sessionStep_disciplined_iff {s : HeldPreferences ρ μ κ} (hd : Disciplined s.1 s.2)
    (c : SessionCall ρ μ κ) :
    Disciplined (sessionStep s c).1 (sessionStep s c).2 ↔ c.Keeps s := by
  obtain ⟨p, h⟩ := s
  obtain ⟨hp, hshape⟩ := hd.cases
  dsimp only at hp hshape
  subst hp
  -- a call that does what its result says
  have hkept : ∀ ok : Bool, c.perform (h.prefs, h) = (ok, (h.after ok c).prefs) →
      ((h.after ok c).loops = 0 ∨ (h.after ok c).queue = none) →
      Disciplined (sessionStep (h.prefs, h) c).1 (sessionStep (h.prefs, h) c).2 := by
    intro ok hperform hsingle
    rw [sessionStep, hperform]
    exact disciplined_iff.mpr ⟨rfl, hsingle⟩
  cases c with
  | giveBack =>
    refine iff_of_true (hkept true ?_ hd.single) trivial
    obtain ⟨loops, queue, others⟩ := h
    cases others with
    | zero => rfl
    | succ others =>
      have hback := giveBack_eq (⟨loops, queue, others⟩ : Holding ρ μ κ)
      simpa [SessionCall.perform, Holding.after] using hback
  | acquire created =>
    have hkeeps : (SessionCall.acquire created : SessionCall ρ μ κ).Keeps (h.prefs, h) ↔
        h.references + 1 < 2 ^ 31 := by
      simp only [SessionCall.Keeps, Holding.prefs]
      omega
    rw [hkeeps]
    by_cases hlt : h.references + 1 < 2 ^ 31
    · refine iff_of_true ?_ hlt
      have hperform := addSession_eq h created hlt
      split_ifs at hperform
      · exact hkept false hperform hd.single
      · exact hkept true hperform hd.single
    · -- the count overflows
      refine iff_of_false (fun hd' => ?_) hlt
      have hperform : (h.prefs.addSession created).1 = true ∧
          (h.prefs.addSession created).2.sessionRefcnt = asInt (h.references + 1) := by
        have hpos : h.references ≠ 0 := by omega
        simp [Preferences.addSession, hpos, Holding.prefs]
      have hrefcnt := hd'.references
      simp only [sessionStep, SessionCall.perform, hperform, Holding.after, if_true] at hrefcnt
      have hnext : ({ h with others := h.others + 1 } : Holding ρ μ κ).references =
        h.references + 1 := Nat.add_right_comm _ _ _
      rw [hnext] at hrefcnt
      have := (asInt_eq_self_iff (n := h.references + 1) (by omega)).mp (by exact_mod_cast hrefcnt)
      omega
  | unschedule target =>
    refine iff_of_true ?_ trivial
    rcases hshape with ⟨others, rfl⟩ | ⟨loops, others, hloops, rfl⟩ | ⟨q, others, rfl⟩
    · exact hkept false (unschedule_idle others target) hd.single
    · have hperform := unschedule_loops (κ := κ) hloops others target
      cases target with
      | none => exact hkept false hperform hd.single
      | some e =>
        dsimp only at hperform
        split_ifs at hperform
        · exact hkept true hperform (.inr rfl)
        · exact hkept false hperform (.inr rfl)
    · have hperform := unschedule_queue (ρ := ρ) (μ := μ) q others target
      cases target with
      | none => exact hkept true hperform (.inl rfl)
      | some e => exact hkept false hperform (.inl rfl)
  | schedule target calls =>
    rcases hshape with ⟨others, rfl⟩ | ⟨loops, others, hloops, rfl⟩ | ⟨q, others, rfl⟩
    · exact schedule_idle_disciplined_iff others target calls
    · refine iff_of_true ?_ fun hscheduled => ?_
      · have hperform := schedule_loops (κ := κ) hloops others target calls
        cases target with
        | runLoop e => exact hkept true hperform (.inr rfl)
        | queue q => exact hkept false hperform (.inr rfl)
      · simp [prefs_loops hloops] at hscheduled
    · refine iff_of_true ?_ fun hscheduled => ?_
      · exact hkept false (schedule_queue q others target calls) (.inl rfl)
      · simp [prefs_queue] at hscheduled

/-- A call that meets the condition and returns `FALSE` leaves the fields. -/
theorem perform_refused {s : HeldPreferences ρ μ κ} (hd : Disciplined s.1 s.2)
    {c : SessionCall ρ μ κ} (hkeeps : c.Keeps s) (hrefused : (c.perform s).1 = false) :
    (c.perform s).2 = s.1 := by
  -- the holders are the same, and they determine the fields
  have hnext := (sessionStep_disciplined_iff hd c).mpr hkeeps
  rw [sessionStep, hrefused] at hnext
  exact (disciplined_iff.mp hnext).1.trans (disciplined_iff.mp hd).1.symm

/-- **The references are kept** along a run if and only if each of its calls meets the
condition. -/
theorem referencesKept_iff (calls : List (SessionCall ρ μ κ)) :
    ReferencesKept calls ↔
      ∀ before c after, calls = before ++ c :: after → c.Keeps (sessionRun before) := by
  have hinitial : Disciplined (ρ := ρ) (μ := μ) (κ := κ) .initial .initial :=
    disciplined_iff.mpr ⟨(prefs_idle 0).symm, .inl rfl⟩
  have hrun := Run.forall_prefix_iff (I := fun s : HeldPreferences ρ μ κ => Disciplined s.1 s.2)
    (C := fun s c => c.Keeps s) (fun s c hd => sessionStep_disciplined_iff hd c)
    (s := (.initial, .initial)) hinitial calls
  constructor
  · exact fun h => hrun.mp h.disciplined
  · intro hkeeps
    have hdisciplined := hrun.mpr hkeeps
    refine ⟨hdisciplined, fun before c after heq hrefused => ?_⟩
    exact perform_refused (hdisciplined before (c :: after) heq) (hkeeps before c after heq) hrefused

/-- A lock holds the session when notifications are scheduled on a queue, and has none when they
are not any more; and with no session before, the reference of a failing call stays. -/
theorem not_referencesKept :
    ¬ ReferencesKept (ρ := ℕ) (μ := ℕ) [.acquire true,
      .schedule (.queue ()) ⟨true, true, true, true⟩, .unschedule none] ∧
    ¬ ReferencesKept (κ := Unit) [.schedule (.runLoop (0, 0)) ⟨true, true, false, true⟩] := by
  constructor
  · intro h
    have hd := h.disciplined _ [] (List.append_nil _).symm
    have hsession := (hd.session.mpr (by rw [hd.sessionRefcnt]; decide))
    revert hsession
    decide
  · intro h
    have hrefcnt := (h.disciplined _ [] (List.append_nil _).symm).sessionRefcnt
    revert hrefcnt
    decide

end

end ConfigdExtra
