import ConfigdExtra.GuardedRun
import ConfigdExtra.NetSession

/-!
# The unsaved-changes flag of `scutil --net`

`_prefs_changed` stands for two sessions: what `commit` saves is `prefs`, and `clean` and
`upgrade` edit `ni_prefs` too.

* `NetState.Tracked` — where a session has changes that are not saved, the flag is set.
* `FlagSound` — it is so all along a run, `commit` clears the flag only when nothing is left to
  save, and changes are never given up without a word.
* `netRun_flagSound_iff` — a run is so if and only if each of its commands settles what it edits.
-/

namespace ConfigdExtra

open FlaggedEdits DeferredEdits

variable {π ν ι : Type} {lib : NetLibrary π ι}

/-! ## The property -/

namespace NetState

/-- One of the sessions has changes that are not saved. -/
def Modified (s : NetState π ν ι) : Prop :=
  (∃ d ∈ s.prefs, d.Modified) ∨ ∃ n ∈ s.niPrefs, n.Modified

/-- Changes that are not saved are flagged. -/
def Tracked (s : NetState π ν ι) : Prop := s.Modified → s.prefsChanged = true

/-- Without `prefs` there is no `ni_prefs`. -/
def Paired (s : NetState π ν ι) : Prop := s.prefs = none → s.niPrefs = none

end NetState

/-- What a command that may end the sessions finds out before it does. -/
def NetCommand.check (s : NetState π ν ι) : NetCommand π ν ι → Option CommitCheck
  | .opens interactive path _ =>
    if s.prefs.isSome then some (s.commitRequired interactive path) else none
  | .close interactive arg | .quit interactive arg => some (s.commitRequired interactive arg)
  | _ => none

/-- **The flag is sound** along a run. -/
structure FlagSound (lib : NetLibrary π ι) (commands : List (NetCommand π ν ι)) : Prop where
  /-- changes that are not saved are flagged -/
  tracked : ∀ before after, commands = before ++ after → (netRun lib before).Tracked
  /-- `commit` clears the flag only when nothing is left to save -/
  commits : ∀ before ok after, commands = before ++ .commit ok :: after →
    (netRun lib before).prefsChanged = true →
    (netStep lib (netRun lib before) (.commit ok)).prefsChanged = false →
    ¬ (netStep lib (netRun lib before) (.commit ok)).Modified
  /-- sessions with changes are kept, or it is said that they are given up -/
  discards : ∀ before command after, commands = before ++ command :: after →
    (netRun lib before).Modified →
    command.check (netRun lib before) ≠ some .unchanged

/-! ## The condition -/

/-- The configurations that a `set` command has left, and the flag then. -/
def NetState.configure (lib : NetLibrary π ι) (s : NetState π ν ι) (c : π)
    (target : SetTarget ι) (command : SetCommand) (args : List String) : Attempt π :=
  let cs := lib.configurations c target
  let f := command.run cs.own args (.start cs.ipsec cs.qos s.currentProxy s.prefsChanged)
  ⟨f.world.prefsChanged,
    lib.configured c target ⟨f.session.result, f.world.ipsec.result, f.world.qos.result⟩⟩

/-- The last call of `do_net_update` -/
def NetState.updateAttempt (lib : NetLibrary π ι) (s : NetState π ν ι) (c : π)
    (created updated : Attempt π) : Attempt π :=
  if s.selection.netSet.isSome ∨ (lib.currentSet c).isSome ∨ created.ok = true then updated
  else created

/-- What is asked of an interface has a copy stored at the end, or what it has written through
leaves the contents as they were. -/
def NetLibrary.StoresOrKeeps (lib : NetLibrary π ι) (services : InterfaceServices)
    (args : List String) (c : π) (i : ι) : Prop :=
  let cs := lib.configurations c (.interface i)
  let a := asked services cs.own cs.ipsec cs.qos args
  a.Stores services cs.own cs.ipsec cs.qos ∨
    lib.configured c (.interface i)
      ⟨writtenThrough cs.own a.own, a.writtenIPSec cs.ipsec, a.writtenQoS cs.qos⟩ = c

/-- While the flag is not set, a command that does not set it leaves the sessions without changes:
the first call that fails leaves the contents as they were, or what is removed after it does. -/
def NetCommand.Restores (lib : NetLibrary π ι) (s : NetState π ν ι) (d : Document π) :
    NetCommand π ν ι → Prop
  | .edit e => (scriptOf lib d.current s.selection e).Settles d.current
  | .setInterface services args => ∀ i ∈ s.selection.netInterface,
      lib.StoresOrKeeps services args d.current i
  | .clean created cleaned left =>
      cleaned.Clean d.current ∧
        (cleaned.ok = false → ∀ n ∈ s.companion created, left = n.current)
  | .update _ created updated =>
      (s.updateAttempt lib d.current created updated).Clean d.current
  | .upgrade arg _ upgraded niLeft =>
      (∀ path ∈ s.prefsPath, lastComponent path = prefsDefaultConfigPlist) →
        (arg = none ∨ arg = some prefsDefaultConfigPlist → upgraded.Clean d.current) ∧
        (arg = none ∧ upgraded.ok = false ∨ arg = some interfacesDefaultConfigPlist →
          ∀ n ∈ niLeft, ¬ n.Modified)
  | _ => True

/-- What a command has to keep to: `commit` saves `prefs` only when `ni_prefs` has nothing to
save, and a command leaves no changes without the flag. -/
def NetCommand.Settles (lib : NetLibrary π ι) (s : NetState π ν ι)
    (command : NetCommand π ν ι) : Prop :=
  s.selection.fault = none → ∀ d ∈ s.prefs,
    match command with
    | .commit ok => ok = true → ∀ n ∈ s.niPrefs, ¬ n.Modified
    | command => s.prefsChanged = false → command.Restores lib s d

/-! ## One command -/

namespace NetState

variable {s : NetState π ν ι}

/-- Something is not committed, in one session or the other. -/
theorem modified_iff : s.Modified ↔ ¬ ((∀ d ∈ s.prefs, ¬ d.Modified) ∧
    ∀ n ∈ s.niPrefs, ¬ n.Modified) := by
  rw [Modified, not_and_or]
  simp only [not_forall, not_not, exists_prop]

/-- Nothing is left to save. -/
theorem not_modified_iff : ¬ s.Modified ↔ (∀ d ∈ s.prefs, ¬ d.Modified) ∧
    ∀ n ∈ s.niPrefs, ¬ n.Modified := by
  rw [modified_iff, not_not]

theorem tracked_of_changed (h : s.prefsChanged = true) : s.Tracked := fun _ => h

theorem tracked_of_not_modified (h : ¬ s.Modified) : s.Tracked := fun hm => absurd hm h

/-- While the flag is clear, tracking says that nothing is modified. -/
theorem tracked_iff_of_unchanged (h : s.prefsChanged = false) : s.Tracked ↔ ¬ s.Modified := by
  rw [Tracked, h]
  simp

theorem Tracked.not_modified (h : s.Tracked) (hchanged : s.prefsChanged = false) : ¬ s.Modified :=
  (tracked_iff_of_unchanged hchanged).mp h

/-- Sessions that were closed have no changes. -/
theorem not_modified_close (s : NetState π ν ι) : ¬ s.netClose.prefsClose.Modified := by
  rw [not_modified_iff]
  exact ⟨fun d hd => (by cases hd), fun n hn => (by cases hn)⟩

/-- Sessions that are new have nothing to commit. -/
theorem not_modified_prefsOpen (hni : s.niPrefs = none) (hprefs : s.prefs = none)
    (path : Option String) (opened : Option π) : ¬ (s.prefsOpen lib path opened).Modified := by
  rw [not_modified_iff]
  cases opened with
  | none => simp [prefsOpen, hprefs, hni]
  | some c =>
    refine ⟨fun d hd => ?_, fun n hn => ?_⟩
    · obtain rfl := Option.some.inj hd
      exact Document.not_modified_read c
    · simp [prefsOpen, hni] at hn

/-- `open` closes what there is only where the flag allows it. -/
theorem doNetOpen_tracked (h : s.Tracked) (hpaired : s.Paired) (interactive : Bool)
    (path : Option String) (opened : Option π) :
    (s.doNetOpen lib interactive path opened).Tracked := by
  unfold doNetOpen
  split_ifs with hprefs hrequired
  · exact h
  · exact tracked_of_not_modified (not_modified_prefsOpen rfl rfl path opened)
  · have hnone : s.prefs = none := Option.not_isSome_iff_eq_none.mp hprefs
    exact tracked_of_not_modified (not_modified_prefsOpen (hpaired hnone) hnone path opened)

/-- `close` likewise. -/
theorem doNetClose_tracked (h : s.Tracked) (interactive : Bool) (arg : Option String) :
    (s.doNetClose interactive arg).Tracked := by
  unfold doNetClose
  split_ifs
  · exact h
  · exact tracked_of_not_modified s.not_modified_close

/-- `commit` keeps the flag sound if and only if it leaves nothing to save in `ni_prefs`. -/
theorem doNetCommit_tracked_iff (h : s.Tracked) {d : Document π} (hd : s.prefs = some d)
    (ok : Bool) :
    (s.doNetCommit ok).Tracked ↔ (ok = true → ∀ n ∈ s.niPrefs, ¬ n.Modified) := by
  unfold doNetCommit
  rw [hd]
  cases ok with
  | false => simpa using h
  | true =>
    simp only [if_true]
    rw [tracked_iff_of_unchanged rfl, not_modified_iff]
    constructor
    · intro hsaved _
      exact hsaved.2
    · intro hni
      refine ⟨fun d' hd' => ?_, hni trivial⟩
      obtain rfl := Option.some.inj hd'
      exact d.not_modified_save

/-- A call on `prefs` that may set the flag, with what becomes of `ni_prefs`. -/
theorem attempt_tracked_iff {t : NetState π ν ι} {d : Document π} {a : Attempt π}
    (hd : ¬ d.Modified) (hchanged : t.prefsChanged = a.ok)
    (hprefs : t.prefs = some (d.leave a.left)) :
    t.Tracked ↔ a.Clean d.current ∧ (a.ok = false → ∀ n ∈ t.niPrefs, ¬ n.Modified) := by
  rcases Bool.eq_false_or_eq_true a.ok with hok | hok
  · refine iff_of_true (tracked_of_changed (hchanged.trans hok)) ⟨fun hfail => ?_, fun hfail => ?_⟩
    all_goals
      rw [hok] at hfail
      cases hfail
  · rw [tracked_iff_of_unchanged (hchanged.trans hok), not_modified_iff]
    have hleft : (∀ d' ∈ t.prefs, ¬ d'.Modified) ↔ a.Clean d.current := by
      rw [hprefs]
      constructor
      · intro hsaved _
        exact (Document.not_modified_leave_iff hd a.left).mp (hsaved _ rfl)
      · intro hclean d' hd'
        obtain rfl := Option.some.inj hd'
        exact (Document.not_modified_leave_iff hd a.left).mpr (hclean hok)
    rw [hleft]
    exact and_congr_right fun _ => ⟨fun hni _ => hni, fun hni => hni hok⟩

/-- Running the calls of a command -/
theorem edit_tracked_iff (h : ¬ s.Modified) (hchanged : s.prefsChanged = false) {d : Document π}
    (hd : s.prefs = some d) (e : NetEdit π ι) :
    (s.edit lib e).Tracked ↔ (scriptOf lib d.current s.selection e).Settles d.current := by
  obtain ⟨hprefs, hni⟩ := not_modified_iff.mp h
  rw [← Script.run_tracked_iff (f := ⟨d, s.prefsChanged⟩) _ (hprefs d hd) hchanged, edit, hd]
  constructor
  · intro htracked hmodified
    exact htracked (.inl ⟨_, rfl, hmodified⟩)
  · rintro htracked (⟨d', hd', hmodified⟩ | ⟨n, hn, hmodified⟩)
    · obtain rfl := Option.some.inj hd'
      exact htracked hmodified
    · exact absurd hmodified (hni n hn)

/-- No edit takes the flag back. -/
theorem edit_changed (h : s.prefsChanged = true) (e : NetEdit π ι) :
    (s.edit lib e).prefsChanged = true := by
  unfold edit
  cases s.prefs with
  | none => exact h
  | some d => exact Script.run_changed _ h

end NetState

/-- A `set` command does not take the flag back. -/
theorem setCommand_changed (command : SetCommand) (configuration : CFConfiguration)
    (args : List String) (ipsec qos : CFConfiguration) (proxy : Option ProxyKeys) :
    (command.run configuration args (.start ipsec qos proxy true)).world.prefsChanged = true := by
  have hfinish : ∀ {o i : CFConfiguration} {l : CFConfiguration → CFConfiguration}
      (setter : CFConfiguration → Option StoreError) (noKey : String)
      {r : Bool × SetState o i l}, Tracked ipsec qos true r.1 r.2 →
      (finish setter noKey r).world.prefsChanged = true := by
    intro o i l setter noKey r hr
    simp [finish, hr.prefsChanged]
  let start : Draft configuration (editCopy configuration) id := .start
  cases command with
  | interface selected =>
    cases selected with
    | none => rfl
    | some svc =>
      by_cases hargs : args = []
      · simp [SetCommand.run, setInterface, hargs, Finished.nothing, SetWorld.start]
      · simp only [SetCommand.run, setInterface, hargs, if_false]
        exact hfinish _ _ (setInterfaceOptions_tracked svc args start proxy)
  | protocol selected =>
    cases selected with
    | none => rfl
    | some svc =>
      by_cases hargs : args = []
      · simp [SetCommand.run, setProtocol, hargs, Finished.nothing, SetWorld.start]
      · simp only [SetCommand.run, setProtocol, hargs, if_false]
        exact hfinish _ _ (setProtocolOptions_edited svc args (d := start) rfl _).world.tracked

namespace NetState

variable {s : NetState π ν ι}

/-- A flag that is set stays set. -/
theorem setConfiguration_changed (h : s.prefsChanged = true) (target : Option (SetTarget ι))
    (command : SetCommand) (args : List String) :
    (s.setConfiguration lib target command args).prefsChanged = true := by
  unfold setConfiguration
  split
  · dsimp only
    rw [h]
    exact setCommand_changed command _ args _ _ _
  · exact h

theorem setConfiguration_tracked_iff (h : ¬ s.Modified) {d : Document π} (hd : s.prefs = some d)
    (target : Option (SetTarget ι))
    (command : SetCommand) (args : List String) :
    (s.setConfiguration lib target command args).Tracked ↔
      ∀ t ∈ target, (s.configure lib d.current t command args).Clean d.current := by
  obtain ⟨hprefs, hni⟩ := not_modified_iff.mp h
  cases target with
  | none =>
    rw [show s.setConfiguration lib none command args = s by simp [setConfiguration, hd]]
    exact iff_of_true (tracked_of_not_modified h) (fun t ht => by cases ht)
  | some target =>
    have hstep := attempt_tracked_iff (t := s.setConfiguration lib (some target) command args)
      (a := s.configure lib d.current target command args) (hprefs d hd)
      (by simp only [setConfiguration, hd, configure])
      (by simp only [setConfiguration, hd, configure])
    have hni' : ∀ n ∈ (s.setConfiguration lib (some target) command args).niPrefs,
        ¬ n.Modified := by
      simpa only [setConfiguration, hd] using hni
    rw [hstep]
    constructor
    · rintro ⟨hclean, -⟩ t ht
      obtain rfl := Option.some.inj ht
      exact hclean
    · exact fun hclean => ⟨hclean target rfl, fun _ => hni'⟩

/-- A companion that is created has no changes. -/
theorem companion_not_modified (h : ∀ n ∈ s.niPrefs, ¬ n.Modified) (created : Option ν) :
    ∀ n ∈ s.companion created, ¬ n.Modified := by
  intro n hn
  unfold companion at hn
  cases hs : s.niPrefs with
  | some n' =>
    rw [hs] at hn
    obtain rfl := Option.some.inj hn
    exact h _ hs
  | none =>
    rw [hs] at hn
    obtain ⟨c, -, rfl⟩ := Option.map_eq_some_iff.mp hn
    exact Document.not_modified_read c

/-- `clean` sets the flag only if it reports an update. -/
theorem doNetClean_tracked_iff (h : ¬ s.Modified) (hchanged : s.prefsChanged = false)
    {d : Document π} (hd : s.prefs = some d) (created : Option ν) (cleaned : Attempt π) (left : ν) :
    (s.doNetClean created cleaned left).Tracked ↔ cleaned.Clean d.current ∧
      (cleaned.ok = false → ∀ n ∈ s.companion created, left = n.current) := by
  obtain ⟨hprefs, hni⟩ := not_modified_iff.mp h
  have hcompanion := companion_not_modified hni created
  rw [attempt_tracked_iff (t := s.doNetClean created cleaned left) (a := cleaned) (hprefs d hd)
    (by simp [doNetClean, hd, apply, hchanged]) (by simp [doNetClean, hd, apply])]
  refine and_congr_right fun _ => imp_congr_right fun _ => ?_
  have hleft : (s.doNetClean created cleaned left).niPrefs =
      (s.companion created).map fun n => n.leave left := by simp [doNetClean, hd]
  rw [hleft]
  constructor
  · intro hsaved n hn
    exact (Document.not_modified_leave_iff (hcompanion n hn) left).mp
      (hsaved _ (Option.mem_map_of_mem _ hn))
  · rintro heq n' hn'
    obtain ⟨n, hn, rfl⟩ := Option.map_eq_some_iff.mp hn'
    exact (Document.not_modified_leave_iff (hcompanion n hn) left).mpr (heq n hn)

/-- `update` sets it only if the set was updated, whether it was made or not. -/
theorem doNetUpdate_tracked_iff (h : ¬ s.Modified) (hchanged : s.prefsChanged = false)
    {d : Document π} (hd : s.prefs = some d) (id : String) (created updated : Attempt π) :
    (s.doNetUpdate lib id created updated).Tracked ↔
      (s.updateAttempt lib d.current created updated).Clean d.current := by
  obtain ⟨hprefs, hni⟩ := not_modified_iff.mp h
  have hni' : (s.doNetUpdate lib id created updated).niPrefs = s.niPrefs := by
    simp only [doNetUpdate, hd]
    split_ifs <;> rfl
  rw [attempt_tracked_iff (t := s.doNetUpdate lib id created updated)
    (a := s.updateAttempt lib d.current created updated) (hprefs d hd), hni']
  · exact and_iff_left fun _ => hni
  all_goals
    simp only [doNetUpdate, updateAttempt, hd, ← or_assoc]
    by_cases hset : s.selection.netSet.isSome ∨ (lib.currentSet d.current).isSome
    · simp [hset, apply, hchanged]
    · rcases Bool.eq_false_or_eq_true created.ok with hok | hok
      · simp [hset, hok, apply, hchanged]
      · simp [hset, hok, hchanged]

/-- `upgrade` sets it for what it reports of each of the two files. -/
theorem doNetUpgrade_tracked_iff (h : ¬ s.Modified) (hchanged : s.prefsChanged = false)
    {d : Document π} (hd : s.prefs = some d) (arg : Option String) (created : Option ν)
    (upgraded : Attempt π) (niLeft : Option (Document ν)) :
    (s.doNetUpgrade arg created upgraded niLeft).Tracked ↔
      NetCommand.Restores lib s d (.upgrade arg created upgraded niLeft) := by
  obtain ⟨hprefs, hni⟩ := not_modified_iff.mp h
  have horElse : ∀ {n : Option (Document ν)}, (∀ x ∈ n, ¬ x.Modified) →
      ((∀ x ∈ niLeft.orElse fun _ => n, ¬ x.Modified) ↔ ∀ x ∈ niLeft, ¬ x.Modified) := by
    intro n hn
    cases niLeft with
    | none => exact iff_of_true hn (fun x hx => by cases hx)
    | some x => exact Iff.rfl
  have hplists : interfacesDefaultConfigPlist ≠ prefsDefaultConfigPlist := by decide
  simp only [doNetUpgrade, hd, NetCommand.Restores]
  -- another file than the default one is not upgraded
  by_cases hpath : ∀ path ∈ s.prefsPath, lastComponent path = prefsDefaultConfigPlist
  · have hany : ¬ s.prefsPath.any (fun path => lastComponent path ≠ prefsDefaultConfigPlist) := by
      cases hs : s.prefsPath with
      | none => simp
      | some path => simpa using hpath path hs
    rw [if_neg hany, imp_iff_right hpath]
    cases arg with
    | none =>
      rw [attempt_tracked_iff (a := upgraded) (hprefs d hd) (by simp [apply, hchanged]) rfl]
      simp only [true_imp_iff, true_and, reduceCtorEq, or_false]
      exact and_congr_right fun _ => imp_congr_right fun _ => horElse hni
    | some plist =>
      dsimp only
      -- one of the two files, or a name that is neither
      split_ifs with hprefsPlist hniPlist
      · subst hprefsPlist
        rw [attempt_tracked_iff (t := s.apply d upgraded) (a := upgraded) (hprefs d hd)
          (by simp [apply, hchanged]) rfl]
        simp only [Option.some.injEq, or_true, true_imp_iff, false_and, false_or, hplists.symm,
          false_imp_iff, and_true]
        exact and_iff_left fun _ => hni
      · subst hniPlist
        rw [tracked_iff_of_unchanged (by exact hchanged), not_modified_iff]
        simp only [Option.some.injEq, hplists, or_self, false_imp_iff, true_and, false_and,
          or_true, true_imp_iff]
        rw [and_iff_right (hd ▸ hprefs)]
        exact horElse (companion_not_modified hni created)
      · refine iff_of_true (tracked_of_not_modified h) ⟨fun harg => ?_, fun harg => ?_⟩
        · simp [hprefsPlist] at harg
        · simp [hniPlist] at harg
  · have hany : s.prefsPath.any (fun path => lastComponent path ≠ prefsDefaultConfigPlist) := by
      push Not at hpath
      obtain ⟨path, hs, hne⟩ := hpath
      rw [Option.mem_def.mp hs]
      simpa using hne
    rw [if_pos hany]
    exact iff_of_true (tracked_of_not_modified h) fun hall => absurd hall hpath

end NetState

/-! ## When a `set` command restores -/

/-- What `set interface` leaves is clean if it stores a copy, or has not written through to any
effect. -/
theorem NetState.configure_interface_clean_iff {s : NetState π ν ι}
    (hchanged : s.prefsChanged = false) (c : π) (i : ι) (services : InterfaceServices)
    (args : List String) :
    (s.configure lib c (.interface i) (.interface (some services)) args).Clean c ↔
      lib.StoresOrKeeps services args c i := by
  unfold NetLibrary.StoresOrKeeps Attempt.Clean NetState.configure
  dsimp only
  generalize lib.configurations c (.interface i) = cs
  have hflag := setInterface_prefsChanged_iff services cs.own args cs.ipsec cs.qos
    s.currentProxy false
  have hwritten := setInterface_written services cs.own args cs.ipsec cs.qos s.currentProxy false
  rw [or_iff_not_imp_left, hchanged, ← Bool.not_eq_true, SetCommand.run, hflag]
  simp only [Bool.false_eq_true, false_or]
  refine imp_congr_right fun hstores => ?_
  obtain ⟨hown, hi, hq⟩ := hwritten hstores
  rw [hown, hi, hq]

/-- `set protocol` sets the flag, or leaves the contents as they were. -/
theorem NetState.configure_protocol_clean {s : NetState π ν ι}
    (hchanged : s.prefsChanged = false) (c : π) (p : ProtocolRef) (services : ProtocolServices)
    (args : List String) :
    (s.configure lib c (.protocol p) (.protocol (some services)) args).Clean c := by
  intro hok
  simp only [NetState.configure, hchanged, SetCommand.run] at hok ⊢
  obtain ⟨hown, hipsec, hqos, -⟩ :=
    setProtocol_unchanged_of_not_saved (setProtocol_saved_of_unchanged hok)
  rw [hown, hipsec, hqos]
  exact lib.configured_configurations c (.protocol p)

/-! ## Runs -/

open NetState

/-- **The step.** A command keeps the flag sound if and only if it settles what it edits. -/
theorem netStep_tracked_iff {s : NetState π ν ι} (hpaired : s.Paired) (h : s.Tracked)
    (command : NetCommand π ν ι) :
    (netStep lib s command).Tracked ↔ command.Settles lib s := by
  unfold netStep NetCommand.Settles
  by_cases hfault : s.selection.fault = none
  swap
  · rw [if_pos (Option.isSome_iff_ne_none.mpr hfault)]
    exact iff_of_true h fun hnone => absurd hnone hfault
  rw [if_neg (by simp [hfault]), imp_iff_right hfault]
  -- what does not touch the sessions, and what closes them
  have hkept : ∀ {s' : NetState π ν ι} {P : Document π → Prop}, s'.Tracked →
      (∀ d, P d) → (s'.Tracked ↔ ∀ d ∈ s.prefs, s.prefsChanged = false → P d) :=
    fun h' hP => iff_of_true h' fun d _ _ => hP d
  -- what edits them
  have hedits : ∀ {s' : NetState π ν ι} {P : Document π → Prop}, (s.prefs = none → s'.Tracked) →
      (s.prefsChanged = true → s'.prefsChanged = true) →
      (∀ d, s.prefs = some d → s.prefsChanged = false → ¬ s.Modified → (s'.Tracked ↔ P d)) →
      (s'.Tracked ↔ ∀ d ∈ s.prefs, s.prefsChanged = false → P d) := by
    intro s' P hnone hchanged hiff
    cases hd : s.prefs with
    | none => exact iff_of_true (hnone hd) fun d hd' => (by cases hd')
    | some d =>
      rcases Bool.eq_false_or_eq_true s.prefsChanged with hflag | hflag
      · refine iff_of_true (tracked_of_changed (hchanged hflag)) fun _ _ hfalse => ?_
        rw [hflag] at hfalse
        cases hfalse
      · rw [hiff d hd hflag (h.not_modified hflag)]
        constructor
        · intro hP d' hd' _
          exact Option.some.inj hd' ▸ hP
        · exact fun hP => hP d rfl hflag
  cases command with
  | opens interactive path opened =>
    exact hkept (doNetOpen_tracked h hpaired interactive path opened) fun _ => trivial
  | commit ok =>
    cases hd : s.prefs with
    | none => exact iff_of_true (by simpa [doNetCommit, hd] using h) fun d hd' => (by cases hd')
    | some d =>
      refine (doNetCommit_tracked_iff h hd ok).trans ?_
      exact ⟨fun hni _ _ => hni, fun hni => hni d rfl⟩
  | apply => exact hkept h fun _ => trivial
  | close interactive arg => exact hkept (doNetClose_tracked h interactive arg) fun _ => trivial
  | quit interactive arg => exact hkept (doNetClose_tracked h interactive arg) fun _ => trivial
  | edit e =>
    refine hedits (fun hnone => ?_) (fun hflag => edit_changed hflag e) fun d hd hflag hsaved =>
      edit_tracked_iff hsaved hflag hd e
    simpa [edit, hnone] using h
  | setInterface services args =>
    refine hedits (fun hnone => ?_) (fun hflag => setConfiguration_changed hflag _ _ args)
      fun d hd hflag hsaved => ?_
    · simpa [setConfiguration, hnone] using h
    · rw [setConfiguration_tracked_iff hsaved hd]
      simp [NetCommand.Restores, configure_interface_clean_iff hflag]
  | setProtocol services args =>
    refine hedits (fun hnone => ?_) (fun hflag => setConfiguration_changed hflag _ _ args)
      fun d hd hflag hsaved => ?_
    · simpa [setConfiguration, hnone] using h
    · rw [setConfiguration_tracked_iff hsaved hd]
      simp [NetCommand.Restores, configure_protocol_clean hflag]
  | createInterface created => exact hkept h fun _ => trivial
  | selectInterface found => exact hkept h fun _ => trivial
  | showInterfaces => exact hkept h fun _ => trivial
  | clean created cleaned left =>
    refine hedits (fun hnone => ?_) (fun hflag => ?_) fun d hd hflag hsaved =>
      doNetClean_tracked_iff hsaved hflag hd created cleaned left
    · simpa [doNetClean, hnone] using h
    · cases hd : s.prefs <;> simp [doNetClean, hd, apply, hflag]
  | update id created updated =>
    refine hedits (fun hnone => ?_) (fun hflag => ?_) fun d hd hflag hsaved =>
      doNetUpdate_tracked_iff hsaved hflag hd id created updated
    · simpa [doNetUpdate, hnone] using h
    · simp only [doNetUpdate]
      split
      · exact hflag
      · split_ifs <;> simp [apply, hflag]
  | upgrade arg created upgraded niLeft =>
    refine hedits (fun hnone => ?_) (fun hflag => ?_) fun d hd hflag hsaved =>
      doNetUpgrade_tracked_iff hsaved hflag hd arg created upgraded niLeft
    · simpa [doNetUpgrade, hnone] using h
    · simp only [doNetUpgrade]
      repeat' split
      all_goals simp [apply, hflag]
  | migrate => exact hkept h fun _ => trivial
  | snapshot => exact hkept h fun _ => trivial

/-- Every command keeps the sessions paired. -/
theorem netStep_paired {s : NetState π ν ι} (h : s.Paired) (command : NetCommand π ν ι) :
    (netStep lib s command).Paired := by
  -- most commands leave `ni_prefs` and whether `prefs` is open
  have hsame : ∀ {s' : NetState π ν ι}, (s'.prefs = none → s.prefs = none) →
      s'.niPrefs = s.niPrefs → s'.Paired := fun hprefs hni hnone => hni.trans (h (hprefs hnone))
  have hsome : ∀ {s' : NetState π ν ι}, s'.prefs ≠ none → s'.Paired :=
    fun hne hnone => absurd hnone hne
  unfold netStep
  split_ifs
  · exact h
  cases command with
  | opens interactive path opened =>
    simp only [doNetOpen]
    split_ifs with hprefs
    · exact h
    · cases opened with
      | none => exact fun _ => rfl
      | some c => exact hsome (by simp [prefsOpen])
    · cases opened with
      | none => exact h
      | some c => exact hsome (by simp [prefsOpen])
  | commit ok =>
    cases hd : s.prefs with
    | none => simpa [doNetCommit, hd] using h
    | some d => cases ok <;> exact hsome (by simp [doNetCommit, hd])
  | close interactive arg | quit interactive arg =>
    simp only [doNetClose]
    split_ifs
    · exact h
    · exact fun _ => rfl
  | edit e =>
    cases hd : s.prefs with
    | none => simpa [edit, hd] using h
    | some d => exact hsome (by simp [edit, hd])
  | setInterface services args =>
    refine hsame (fun hnone => ?_) ?_ <;> simp only [setConfiguration] at *
    · split at hnone
      · cases hnone
      · exact hnone
    · split <;> rfl
  | setProtocol services args =>
    refine hsame (fun hnone => ?_) ?_ <;> simp only [setConfiguration] at *
    · split at hnone
      · cases hnone
      · exact hnone
    · split <;> rfl
  | clean created cleaned left =>
    cases hd : s.prefs with
    | none => simpa [doNetClean, hd] using h
    | some d => exact hsome (by simp [doNetClean, hd, apply])
  | update id created updated =>
    cases hd : s.prefs with
    | none => simpa [doNetUpdate, hd] using h
    | some d =>
      simp only [doNetUpdate, hd]
      split_ifs <;> exact hsome (by simp [apply])
  | upgrade arg created upgraded niLeft =>
    cases hd : s.prefs with
    | none => simpa [doNetUpgrade, hd] using h
    | some d =>
      simp only [doNetUpgrade, hd]
      repeat' split
      all_goals exact hsome (by simp [apply, hd])
  | apply | createInterface created | selectInterface found | showInterfaces | migrate
  | snapshot => exact h

/-- **Soundness of the flag.** Along a run, `_prefs_changed` stands for the changes in both
sessions if and only if `commit` is only used when `ni_prefs` has nothing to save, and no command
leaves changes without setting the flag. -/
theorem netRun_flagSound_iff (lib : NetLibrary π ι) (commands : List (NetCommand π ν ι)) :
    FlagSound lib commands ↔ ∀ before command after, commands = before ++ command :: after →
      command.Settles lib (netRun lib before) := by
  have hinitial : (initial : NetState π ν ι).Paired := fun _ => rfl
  have htracked : (initial : NetState π ν ι).Tracked := tracked_of_not_modified <| by
    rw [not_modified_iff]
    exact ⟨fun d hd => (by cases hd), fun n hn => (by cases hn)⟩
  have hrun := Run.forall_prefix_iff_of_inv (δ := netStep lib) (I := NetState.Tracked)
    (J := Paired)
    (C := fun s command => NetCommand.Settles lib s command)
    (fun _ command hpaired => netStep_paired hpaired command)
    (fun _ command hpaired h => netStep_tracked_iff hpaired h command)
    hinitial htracked commands
  have hpaired : ∀ l : List (NetCommand π ν ι), (netRun lib l).Paired := by
    intro l
    induction l using List.reverseRecOn with
    | nil => exact hinitial
    | append_singleton l command ih =>
      rw [netRun, List.foldl_concat]
      exact netStep_paired ih command
  refine Iff.trans ⟨FlagSound.tracked, fun h => ⟨h, ?_, ?_⟩⟩ hrun
  · rintro before ok after rfl - hcleared
    have hafter := h (before ++ [.commit ok]) after (List.append_cons _ _ _)
    rw [netRun, List.foldl_concat] at hafter
    exact hafter.not_modified hcleared
  · rintro before command after rfl hmodified
    have hflag := h before _ rfl hmodified
    have hprefs : (netRun lib before).prefs.isSome := by
      by_contra hnone
      rw [Option.not_isSome_iff_eq_none] at hnone
      refine not_modified_iff.mpr ⟨?_, ?_⟩ hmodified
      · simp [hnone]
      · simp [hpaired before hnone]
    have hcheck : ∀ interactive arg,
        (netRun lib before).commitRequired interactive arg ≠ .unchanged := by
      intro interactive arg
      rw [commitRequired, if_pos hflag]
      split_ifs <;> simp
    cases command <;> simp [NetCommand.check, hprefs, hcheck]

/-- Network preferences with sets only, given by their IDs. -/
def setsLibrary : NetLibrary (List String) Unit where
  sets c := c
  setName _ _ := none
  currentSet c := c.head?
  services _ := []
  setServices _ _ := []
  orderedServices _ _ := []
  serviceName _ _ := none
  bsdName _ _ := none
  interface _ _ := none
  supportedTypes _ := none
  protocols _ _ := []
  configurations _ _ := ⟨∅, ∅, ∅⟩
  configured c _ _ := c
  configured_configurations _ _ := rfl
  caseless := strcasecmp

/-- `commit` after a `clean` that has taken an interface out of `ni_prefs`; and an `update` that
creates a set and does not update it. -/
theorem netRun_not_flagSound :
    ¬ FlagSound setsLibrary [.opens true none (some ["0"]),
      .clean (some ["en0", "en5"]) ⟨true, ["0"]⟩ ["en0"], .commit true] ∧
    ¬ FlagSound (ν := List String) setsLibrary [.opens true none (some []),
      .update "0" ⟨true, ["0"]⟩ ⟨false, ["0"]⟩] := by
  constructor
  · intro h
    have hchanged := h.tracked _ [] (List.append_nil _).symm
      (.inr ⟨⟨["en0", "en5"], ["en0"]⟩, rfl, fun heq => by cases heq⟩)
    cases hchanged
  · intro h
    have hchanged := h.tracked _ [] (List.append_nil _).symm
      (.inl ⟨⟨[], ["0"]⟩, rfl, fun heq => by cases heq⟩)
    cases hchanged

end ConfigdExtra
