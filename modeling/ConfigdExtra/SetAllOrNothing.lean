import ConfigdExtra.InterfaceReflects
import ConfigdExtra.ProtocolOptions

/-!
# A rejected option of a `set` command

A `set` command that rejects an option should store nothing. For a protocol that is so. For an
interface a rejected option can be passed over (in a list of its own, or among several
choices), and an option before it may have been written through already.

* `setProtocol_unchanged` — a protocol is left as it was;
* `Asked.Contained` — when what the arguments ask for is without consequence;
* `setCommand_allOrNothing_iff` — the commands store nothing exactly then.
-/

namespace ConfigdExtra

open DeferredEdits

variable {o i : CFConfiguration} {l : CFConfiguration → CFConfiguration}

/-! ## The commands -/

/-- The `set` commands, with the interface or the protocol that is selected. -/
inductive SetCommand
  | interface (selected : Option InterfaceServices)
  | protocol (selected : Option ProtocolServices)

/-- Run a command on the configuration of what is selected. -/
def SetCommand.run (command : SetCommand) (configuration : CFConfiguration) (args : List String)
    (w : SetWorld) : Finished :=
  match command with
  | .interface selected => setInterface selected configuration args w
  | .protocol selected => setProtocol selected configuration args w

/-- An option or a value of the command was rejected. -/
def Finished.Rejected (f : Finished) : Prop :=
  ∃ r ∈ f.reports, r.kind = .rejected

/-- The configurations and the flag are the ones from before the command. -/
structure Finished.Unchanged (f : Finished) (configuration ipsec qos : CFConfiguration)
    (changed : Bool) : Prop where
  configuration : f.session.result = configuration
  ipsec : f.world.ipsec.result = ipsec
  qos : f.world.qos.result = qos
  prefsChanged : f.world.prefsChanged = changed

/-- What the arguments ask for is without consequence: what is written through leaves the
configurations as they were, and no copy is stored, as an option is rejected before, or the copy
is the configuration that was found, or it is not taken. -/
structure Asked.Contained (svc : InterfaceServices) (configuration ipsec qos : CFConfiguration)
    (a : Asked) : Prop where
  own_written : writtenThrough configuration a.own = configuration
  ipsec_written : a.writtenIPSec ipsec = ipsec
  qos_written : a.writtenQoS qos = qos
  not_stores : ¬ a.Stores svc configuration ipsec qos

/-! ## What is stored at the end -/

variable {ipsec qos : CFConfiguration} {changed : Bool}
  {setter : CFConfiguration → Option StoreError} {noKey : String}

/-- The flag is set when one of the copies is stored. -/
theorem finish_prefsChanged {r : Bool × SetState o i l} (h : Tracked ipsec qos changed r.1 r.2) :
    (finish setter noKey r).world.prefsChanged =
      (changed || (finish setter noKey r).world.ipsec.saved ||
        (finish setter noKey r).world.qos.saved || (finish setter noKey r).session.saved) := by
  simp only [finish, h.prefsChanged]

/-- A command leaves everything as it was exactly when it leaves its configurations so. -/
theorem finish_unchanged_iff {r : Bool × SetState o i l} (h : Tracked ipsec qos changed r.1 r.2) :
    (finish setter noKey r).Unchanged o ipsec qos changed ↔
      (finish setter noKey r).session.result = o ∧
        (finish setter noKey r).world.ipsec.result = ipsec ∧
        (finish setter noKey r).world.qos.result = qos := by
  constructor
  · exact fun hsame => ⟨hsame.configuration, hsame.ipsec, hsame.qos⟩
  · rintro ⟨hown, hi, hq⟩
    refine ⟨hown, hi, hq, ?_⟩
    have hown' : (finish setter noKey r).session.saved = false :=
      ((finish setter noKey r).session.unchanged_iff.1 hown).2
    have hi' : (finish setter noKey r).world.ipsec.saved = false :=
      ((Session.result_eq_iff h.ipsec_origin).1 hi).2
    have hq' : (finish setter noKey r).world.qos.saved = false :=
      ((Session.result_eq_iff h.qos_origin).1 hq).2
    rw [finish_prefsChanged h, hown', hi', hq']
    simp

/-- A command that failed before it read its options has changed nothing. -/
theorem nothing_unchanged (configuration : CFConfiguration) (proxy : Option ProxyKeys)
    (text : String) :
    (Finished.nothing configuration (.start ipsec qos proxy changed) text).Unchanged configuration
      ipsec qos changed :=
  ⟨rfl, rfl, rfl, rfl⟩

/-! ## Interfaces -/

/-- A command that is refused at once stores nothing. -/
theorem Asked.refused_not_stores (svc : InterfaceServices)
    (configuration ipsec qos : CFConfiguration) :
    ¬ Asked.refused.Stores svc configuration ipsec qos := by
  rintro (h | ⟨r, hr, -⟩ | ⟨r, hr, -⟩)
  · cases h.accepted
  · cases hr
  · cases hr

theorem setInterface_prefsChanged (svc : InterfaceServices) (configuration : CFConfiguration)
    {args : List String} (hargs : args ≠ []) (ipsec qos : CFConfiguration)
    (proxy : Option ProxyKeys) (changed : Bool) :
    (setInterface (some svc) configuration args
        (.start ipsec qos proxy changed)).world.prefsChanged =
      (changed ||
        (setInterface (some svc) configuration args
          (.start ipsec qos proxy changed)).world.ipsec.saved ||
        (setInterface (some svc) configuration args
          (.start ipsec qos proxy changed)).world.qos.saved ||
        (setInterface (some svc) configuration args
          (.start ipsec qos proxy changed)).session.saved) := by
  simp only [setInterface, if_neg hargs]
  exact finish_prefsChanged (setInterfaceOptions_tracked svc args _ proxy)

/-- The flag is set when what the arguments ask for has a copy stored. -/
theorem setInterface_prefsChanged_iff (svc : InterfaceServices) (configuration : CFConfiguration)
    (args : List String) (ipsec qos : CFConfiguration) (proxy : Option ProxyKeys)
    (changed : Bool) :
    (setInterface (some svc) configuration args
        (.start ipsec qos proxy changed)).world.prefsChanged = true ↔
      changed = true ∨
        (asked svc configuration ipsec qos args).Stores svc configuration ipsec qos := by
  by_cases hargs : args = []
  · have hstores := Asked.refused_not_stores svc configuration ipsec qos
    simp [setInterface, asked, hargs, Finished.nothing, SetWorld.start, hstores]
  · obtain ⟨hown, hi, hq⟩ := setInterface_does svc configuration hargs ipsec qos proxy changed
    rw [setInterface_prefsChanged svc configuration hargs, hown, hi, hq]
    simp only [Bool.or_eq_true, Asked.saved_session_iff, Asked.ipsecSession, Asked.qosSession,
      OptionsRead.saved_getD_iff, Asked.Stores]
    rw [or_comm, or_assoc, or_left_comm]

/-- Where no copy is stored, the configurations are as the options that write through leave
them. -/
theorem setInterface_written (svc : InterfaceServices) (configuration : CFConfiguration)
    (args : List String) (ipsec qos : CFConfiguration) (proxy : Option ProxyKeys)
    (changed : Bool)
    (h : ¬ (asked svc configuration ipsec qos args).Stores svc configuration ipsec qos) :
    let a := asked svc configuration ipsec qos args
    let f := setInterface (some svc) configuration args (.start ipsec qos proxy changed)
    f.session.result = writtenThrough configuration a.own ∧
      f.world.ipsec.result = a.writtenIPSec ipsec ∧ f.world.qos.result = a.writtenQoS qos := by
  by_cases hargs : args = []
  · simp only [setInterface, asked, hargs, if_true]
    exact ⟨rfl, rfl, rfl⟩
  · obtain ⟨hown, hi, hq⟩ := setInterface_does svc configuration hargs ipsec qos proxy changed
    obtain ⟨hown', hi', hq'⟩ : _ ∧ _ ∧ _ := by
      simpa only [Asked.Stores, not_or] using h
    dsimp only
    rw [hown, hi, hq]
    rw [← Asked.saved_session_iff] at hown'
    rw [← OptionsRead.saved_getD_iff] at hi' hq'
    exact ⟨(Session.result_of_not_saved hown').trans (Asked.stored_session ..),
      (Session.result_of_not_saved hi').trans (OptionsRead.stored_getD ..),
      (Session.result_of_not_saved hq').trans (OptionsRead.stored_getD ..)⟩

/-- A command leaves everything as it was exactly when what its arguments ask for is without
consequence. -/
theorem setInterface_unchanged_iff (svc : InterfaceServices) (configuration : CFConfiguration)
    (args : List String) (ipsec qos : CFConfiguration) (proxy : Option ProxyKeys)
    (changed : Bool) :
    (setInterface (some svc) configuration args (.start ipsec qos proxy changed)).Unchanged
        configuration ipsec qos changed ↔
      (asked svc configuration ipsec qos args).Contained svc configuration ipsec qos := by
  have hflag := setInterface_prefsChanged_iff svc configuration args ipsec qos proxy changed
  have hwritten := setInterface_written svc configuration args ipsec qos proxy changed
  constructor
  · intro hsame
    have hstores : ¬ (asked svc configuration ipsec qos args).Stores svc configuration ipsec
        qos := by
      by_cases hargs : args = []
      · rw [asked, if_pos hargs]
        exact Asked.refused_not_stores svc configuration ipsec qos
      · obtain ⟨hown, hi, hq⟩ :=
          setInterface_does svc configuration hargs ipsec qos proxy changed
        -- what is left as it was found has not been stored
        have hown' := (Session.result_eq_iff (by rw [hown]; rfl)).1 hsame.configuration
        have hi' := (Session.result_eq_iff (by rw [hi]; exact OptionsRead.origin_getD ..)).1
          hsame.ipsec
        have hq' := (Session.result_eq_iff (by rw [hq]; exact OptionsRead.origin_getD ..)).1
          hsame.qos
        rw [hown] at hown'
        rw [hi] at hi'
        rw [hq] at hq'
        rintro (h | h | h)
        · simp [(Asked.saved_session_iff svc configuration _).2 h] at hown'
        · simp [Asked.ipsecSession, (OptionsRead.saved_getD_iff ..).2 h] at hi'
        · simp [Asked.qosSession, (OptionsRead.saved_getD_iff ..).2 h] at hq'
    obtain ⟨hown, hi, hq⟩ := hwritten hstores
    exact ⟨hown.symm.trans hsame.configuration, hi.symm.trans hsame.ipsec,
      hq.symm.trans hsame.qos, hstores⟩
  · rintro ⟨hown, hi, hq, hstores⟩
    obtain ⟨hown', hi', hq'⟩ := hwritten hstores
    refine ⟨hown'.trans hown, hi'.trans hi, hq'.trans hq, ?_⟩
    rw [Bool.eq_iff_iff, hflag]
    exact or_iff_left hstores

/-! ## The handlers of protocols -/

/-- The handler only edits the copy: nothing is written through, and what it prints ends the
command. -/
structure Handled.Edits (d : Draft o i l) (w : SetWorld) (h : Handled o i l) : Prop
    extends Handled.Plain w h where
  stored : h.draft.stored = d.stored
  last : ∀ r ∈ h.reports, r.ends = true

/-- A handler that does so on any arguments. -/
def OptionHandler.Edits (h : OptionHandler o i l) : Prop :=
  ∀ args d w, Handled.Edits d w (h args d w)

/-- A handler that leaves the stored configuration alone, whatever it takes. -/
theorem Handled.uses_edits {n : Nat} {d d' : Draft o i l} {w : SetWorld}
    (h : d'.stored = d.stored) : Handled.Edits d w (Handled.uses n d' w) :=
  { Handled.uses_plain n d' w with
    stored := h
    last := by simp [Handled.uses] }

@[simp] theorem Handled.uses_put_edits (n : Nat) (d : Draft o i l) (w : SetWorld)
    (e : Edit PropertyKey CFValue) : Handled.Edits d w (Handled.uses n (d.put e) w) :=
  Handled.uses_edits rfl

@[simp] theorem Handled.refuses_edits (d : Draft o i l) (w : SetWorld) (text : String) :
    Handled.Edits d w (Handled.refuses d w text) :=
  { Handled.refuses_plain d w text with
    stored := rfl
    last := by simp [Handled.refuses, Report.refused] }

/-- Selecting a proxy changes none of the configurations. -/
theorem Handled.Edits.of_proxy {d : Draft o i l} {w : SetWorld} {h : Handled o i l}
    (proxy : Option ProxyKeys) (hedits : Handled.Edits d { w with currentProxy := proxy } h) :
    Handled.Edits d w h :=
  { ipsec := hedits.ipsec
    qos := hedits.qos
    prefsChanged := hedits.prefsChanged
    ends := hedits.ends
    stored := hedits.stored
    last := hedits.last }

/-- Several edits in a row. -/
theorem foldl_put_stored {α : Type} (f : Draft o i l → α → Draft o i l)
    (hf : ∀ d a, (f d a).stored = d.stored) (as : List α) (d : Draft o i l) :
    (as.foldl f d).stored = d.stored := by
  induction as generalizing d with
  | nil => rfl
  | cons a as ih => rw [List.foldl_cons, ih, hf]

/-- The handlers below put their edits into the draft. What is stored is only written in the end. -/
theorem doCleanString_edits (clean : String → Option String) (missing invalid : String)
    (key : PropertyKey) :
    OptionHandler.Edits (doCleanString clean missing invalid key : OptionHandler o i l) := by
  intro args d w
  cases args with
  | nil => simp [doCleanString]
  | cons arg rest =>
    simp only [doCleanString]
    split_ifs
    · simp
    · split <;> simp

theorem doStringList_edits (parse : String → Option String) (missing invalid : String)
    (key : PropertyKey) :
    OptionHandler.Edits (doStringList parse missing invalid key : OptionHandler o i l) := by
  intro args d w
  cases args with
  | nil => simp [doStringList]
  | cons arg rest =>
    simp only [doStringList]
    generalize (if arg = "" then some [] else (separated arg).mapM parse) = values
    rcases values with - | - | - <;> simp

theorem doConfigMethod_edits (methods : List Selection) (allowed : List (Nat × PropertyKey))
    (key : PropertyKey) :
    OptionHandler.Edits (doConfigMethod methods allowed key : OptionHandler o i l) := by
  intro args d w
  simp only [doConfigMethod]
  split
  · simp
  · refine Handled.uses_edits (foldl_put_stored _ (fun d a => ?_) allowed d)
    split_ifs <;> rfl

theorem doAddresses_edits (copyAddress : String → Option String) (key : PropertyKey)
    (useArray : Bool) :
    OptionHandler.Edits (doAddresses copyAddress key useArray : OptionHandler o i l) := by
  intro args d w
  cases args with
  | nil => simp [doAddresses]
  | cons arg rest =>
    by_cases harg : arg = ""
    · simp [doAddresses, harg]
    · simp only [doAddresses, if_neg harg]
      split <;> simp

theorem doIPv6PrefixLength_edits (key : PropertyKey) :
    OptionHandler.Edits (doIPv6PrefixLength key : OptionHandler o i l) := by
  intro args d w
  cases args with
  | nil => simp [doIPv6PrefixLength]
  | cons arg rest =>
    simp only [doIPv6PrefixLength]
    split_ifs
    · simp
    · split <;> simp

theorem doProxySelect_edits (proxy : ProxyKeys) :
    OptionHandler.Edits (doProxySelect proxy : OptionHandler o i l) := by
  intro args d w
  cases args with
  | nil => simp [doProxySelect]
  | cons arg rest =>
    refine Handled.Edits.of_proxy (some proxy) ?_
    simp only [doProxySelect]
    split
    · exact Handled.uses_edits rfl
    · simp

theorem doProxyEnable_edits (enabled : Bool) :
    OptionHandler.Edits (doProxyEnable enabled : OptionHandler o i l) := by
  intro args d w
  simp only [doProxyEnable]
  split
  · simp
  · split
    · simp
    · split_ifs
      · simp
      · exact Handled.uses_edits
          (foldl_put_stored (fun d key => d.put ⟨key, none⟩) (fun _ _ => rfl) _ d)

theorem doProxyModifier_edits (what : String) (keyOf : ProxyKeys → Option PropertyKey)
    (invalid : ProxyKeys → String) (value : ProxyKeys → String → Option CFValue) :
    OptionHandler.Edits (doProxyModifier what keyOf invalid value : OptionHandler o i l) := by
  intro args d w
  simp only [doProxyModifier]
  split
  · simp
  · split
    · simp
    · split_ifs
      · simp
      · split
        · simp
        · split_ifs
          · simp
          · split <;> simp

theorem doProxyFTPPassive_edits :
    OptionHandler.Edits (doProxyFTPPassive : OptionHandler o i l) := by
  intro args d w
  simp only [doProxyFTPPassive]
  split
  · simp
  · split_ifs
    · exact Handled.uses_edits rfl
    · simp

/-! ## The tables of protocols -/

/-- None of the options has several choices, and all the handlers only edit the copy. -/
def EditTable (options : List (OptionRow o i l)) : Prop :=
  ∀ row ∈ options, (∀ key choices, row.type ≠ .isChooseMultiple key choices) ∧
    ∀ h ∈ row.handler, OptionHandler.Edits h

section Tables

variable (svc : ProtocolServices)

/-- So do the tables of the protocols. -/
theorem dnsOptions_edits : EditTable (dnsOptions svc : List (OptionRow o i l)) := by
  have hdomain : ∀ key, OptionHandler.Edits (doDNSDomain key : OptionHandler o i l) :=
    fun key => doCleanString_edits _ _ _ key
  have hdomains : ∀ key, OptionHandler.Edits (doDNSDomainArray key : OptionHandler o i l) :=
    fun key => doStringList_edits _ _ _ key
  have haddresses : ∀ key,
      OptionHandler.Edits (doDNSServerAddresses svc key : OptionHandler o i l) :=
    fun key => doStringList_edits _ _ _ key
  simp [EditTable, dnsOptions, hdomain, hdomains, haddresses]

theorem ipv4Options_edits : EditTable (ipv4Options svc : List (OptionRow o i l)) := by
  have hmethod : ∀ key, OptionHandler.Edits (doIPv4ConfigMethod key : OptionHandler o i l) :=
    fun key => doConfigMethod_edits _ _ key
  have haddresses : ∀ key useArray,
      OptionHandler.Edits (doIPv4Addresses svc key useArray : OptionHandler o i l) :=
    fun key useArray => doAddresses_edits _ key useArray
  simp [EditTable, ipv4Options, hmethod, haddresses]

theorem ipv6Options_edits : EditTable (ipv6Options svc : List (OptionRow o i l)) := by
  have hmethod : ∀ key, OptionHandler.Edits (doIPv6ConfigMethod key : OptionHandler o i l) :=
    fun key => doConfigMethod_edits _ _ key
  have haddresses : ∀ key useArray,
      OptionHandler.Edits (doIPv6Addresses svc key useArray : OptionHandler o i l) :=
    fun key useArray => doAddresses_edits _ key useArray
  simp [EditTable, ipv6Options, hmethod, haddresses, doIPv6PrefixLength_edits]

theorem proxyOptions_edits : EditTable (proxyOptions : List (OptionRow o i l)) := by
  have hhost : OptionHandler.Edits (doProxyHost : OptionHandler o i l) :=
    doProxyModifier_edits _ _ _ _
  have hport : OptionHandler.Edits (doProxyPort : OptionHandler o i l) :=
    doProxyModifier_edits _ _ _ _
  have hurl : OptionHandler.Edits (doProxyURL : OptionHandler o i l) :=
    doProxyModifier_edits _ _ _ _
  simp [EditTable, proxyOptions, hhost, hport, hurl, doProxySelect_edits, doProxyEnable_edits,
    doProxyFTPPassive_edits]

theorem smbOptions_edits : EditTable (smbOptions svc : List (OptionRow o i l)) := by
  have hname : ∀ key, OptionHandler.Edits (doSMBName key : OptionHandler o i l) :=
    fun key => doCleanString_edits _ _ _ key
  have hworkgroup : ∀ key, OptionHandler.Edits (doSMBWorkgroup key : OptionHandler o i l) :=
    fun key => doCleanString_edits _ _ _ key
  have haddresses : ∀ key,
      OptionHandler.Edits (doSMBWINSAddresses svc key : OptionHandler o i l) :=
    fun key => doStringList_edits _ _ _ key
  simp [EditTable, smbOptions, hname, hworkgroup, haddresses]

end Tables

/-! ## A command for a protocol -/

/-- Nothing has been written through, and every line printed ends the command. -/
def EditsOnly (_ : Bool) (s : SetState o i l) : Prop :=
  s.draft.stored = o ∧ ∀ r ∈ s.reports, r.ends = true

/-- An option without several choices edits the copy and prints nothing unless it fails. -/
theorem OptionRow.switch_edits {row : OptionRow o i l}
    (hrow : ∀ key choices, row.type ≠ .isChooseMultiple key choices) {args args' : List String}
    {d d' : Draft o i l} {rs : List Report} (h : row.switch args d = .goesOn args' d' rs) :
    d'.stored = d.stored ∧ rs = [] := by
  have hvalue : ∀ {missing : String} {take : String → Taken},
      (∀ arg e rs, take arg = .ok (e, rs) → rs = []) →
      switchValue missing take args d = .goesOn args' d' rs → d'.stored = d.stored ∧ rs = [] := by
    intro missing take htake hrun
    cases args with
    | nil => simp [switchValue] at hrun
    | cons arg rest =>
      unfold switchValue at hrun
      dsimp only at hrun
      cases htaken : take arg with
      | error text => simp [htaken] at hrun
      | ok taken =>
        obtain ⟨e, rs'⟩ := taken
        simp only [htaken, Switched.goesOn.injEq] at hrun
        obtain ⟨-, rfl, rfl⟩ := hrun
        exact ⟨rfl, htake arg e _ htaken⟩
  unfold OptionRow.switch at h
  cases htype : row.type with
  | isOther =>
    simp only [htype, Switched.goesOn.injEq] at h
    obtain ⟨-, rfl, rfl⟩ := h
    exact ⟨rfl, rfl⟩
  | isHelp => simp [htype] at h
  | isChooseMultiple key choices => exact absurd htype (hrow key choices)
  | isChooseOne key choices =>
    rw [htype] at h
    exact hvalue (fun _ _ _ => takeChoice_reports) h
  | isBool key | isBoolean key =>
    rw [htype] at h
    exact hvalue (fun _ _ _ => takeSwitch_reports) h
  | isNumber key | isString key | isStringArray key =>
    rw [htype] at h
    exact hvalue (fun _ _ _ => takeUnlessEmpty_reports) h

/-- A table whose handlers only edit is run by a loop that only edits. -/
theorem EditTable.loopInvariant {options : List (OptionRow o i l)} (h : EditTable options) :
    LoopInvariant options EditsOnly where
  stop := by
    rintro s r ⟨hstored, hends⟩ hr
    refine ⟨hstored, fun x hx => ?_⟩
    rcases List.mem_append.1 hx with hx | hx
    · exact hends x hx
    · rwa [List.mem_singleton.1 hx]
  edit := by
    rintro row hrow s name args args' d rs - ⟨hstored, hends⟩ hrun
    obtain ⟨hd, rfl⟩ := row.switch_edits (h row hrow).1 hrun
    exact ⟨hd.trans hstored, by simpa using hends⟩

theorem EditTable.keeps {options : List (OptionRow o i l)} (h : EditTable options) :
    TableKeeps options EditsOnly := by
  rintro row hrow f hf s ⟨hstored, hends⟩
  have hedits := (h row hrow).2 f hf s.args s.draft s.world
  refine ⟨hedits.stored.trans hstored, fun r hr => ?_⟩
  rcases List.mem_append.1 hr with hr | hr
  · exact hends r hr
  · exact hedits.last r hr

theorem EditTable.plain {options : List (OptionRow o i l)} (h : EditTable options) :
    PlainTable options :=
  fun row hrow f hf args d w => ((h row hrow).2 f hf args d w).toPlain

/-- What the options of a protocol leave. -/
structure ProtocolEdited (w : SetWorld) (r : Bool × SetState o i l) : Prop where
  world : WorldKept w r.1 r.2
  edits : EditsOnly r.1 r.2

/-- After the options, the stored configuration is as it was before. -/
theorem EditTable.edited {options : List (OptionRow o i l)} (h : EditTable options)
    (args : List String) {d : Draft o i l} (hd : d.stored = o) (w : SetWorld) :
    ProtocolEdited w (processOptions options args d w) where
  world := h.plain.world args d w
  edits := processOptions_invariant h.loopInvariant h.keeps ⟨hd, by simp⟩

/-- A rejected configuration method ends the command as a rejected option does. -/
theorem ProtocolEdited.refuse {w : SetWorld} {s : SetState o i l}
    (h : ProtocolEdited w (true, s)) (text : String) : ProtocolEdited w (s.refuse text) where
  world := by
    obtain ⟨hi, hq, hp, -⟩ := h.world
    exact ⟨hi, hq, hp, by simp [SetState.refuse, Report.refused]⟩
  edits := by
    refine ⟨h.edits.1, fun r hr => ?_⟩
    rcases List.mem_append.1 hr with hr | hr
    · exact h.edits.2 r hr
    · rw [List.mem_singleton.1 hr]
      rfl

/-- The check after the options either writes everything or nothing. -/
theorem setProtocolChecked_edited {options : List (OptionRow o i l)} (h : EditTable options)
    (refused : CFConfiguration → Option String) (args : List String) {d : Draft o i l}
    (hd : d.stored = o) (w : SetWorld) :
    ProtocolEdited w (setProtocolChecked options refused args d w) := by
  have hlist := h.edited args hd w
  unfold setProtocolChecked
  generalize processOptions options args d w = r at hlist ⊢
  obtain ⟨ok, s⟩ := r
  cases ok with
  | false => exact hlist
  | true =>
    dsimp only
    rw [if_pos rfl]
    split
    · exact hlist.refuse _
    · exact hlist

/-- So does `set protocol`, for each of the protocols. -/
theorem setProtocolOptions_edited (svc : ProtocolServices) (args : List String)
    {d : Draft o i l} (hd : d.stored = o) (w : SetWorld) :
    ProtocolEdited w (setProtocolOptions svc args d w) := by
  unfold setProtocolOptions
  cases svc.protocolType with
  | dns => exact (dnsOptions_edits svc).edited args hd w
  | ipv4 => exact setProtocolChecked_edited (ipv4Options_edits svc) _ args hd w
  | ipv6 => exact setProtocolChecked_edited (ipv6Options_edits svc) _ args hd w
  | proxies => exact proxyOptions_edits.edited args hd w
  | smb => exact (smbOptions_edits svc).edited args hd w
  | other =>
    have hstart : ProtocolEdited w (true, (⟨args, d, w, []⟩ : SetState o i l)) :=
      ⟨⟨rfl, rfl, rfl, by simp⟩, hd, by simp⟩
    exact hstart.refuse _

/-- A command for a protocol has not come to the configurations of the interface. -/
theorem WorldKept.tracked {proxy : Option ProxyKeys} {b : Bool} {s : SetState o i l}
    (h : WorldKept (.start ipsec qos proxy changed) b s) : Tracked ipsec qos changed b s := by
  obtain ⟨hi, hq, hp, hends⟩ := h
  have hi' : s.world.ipsec = .idle ipsec := hi
  have hq' : s.world.qos = .idle qos := hq
  exact
    { ends := hends
      ipsec_origin := by rw [hi']; rfl
      qos_origin := by rw [hq']; rfl
      prefsChanged := by rw [hp, hi', hq']; simp [SetWorld.start]
      untouched := fun _ _ => ⟨hi', hq'⟩
      settled := fun _ => ⟨by rw [hi']; exact .inl rfl, by rw [hq']; exact .inl rfl⟩ }

/-- What is printed when the copy is not taken is not about an option. -/
theorem finish_rejected {r : Bool × SetState o i l} (h : (finish setter noKey r).Rejected) :
    ∃ x ∈ r.2.reports, x.kind = .rejected := by
  obtain ⟨x, hx, hkind⟩ := h
  rcases List.mem_append.1 hx with hx | hx
  · exact ⟨x, hx, hkind⟩
  · split_ifs at hx
    · obtain ⟨e, -, rfl⟩ := Option.map_eq_some_iff.1 (Option.mem_toList.1 hx)
      simp at hkind
    · simp at hx

/-- What a command for a protocol leaves: its copy is stored, or everything is as it was. -/
theorem setProtocol_unchanged_of_not_saved {svc : ProtocolServices}
    {configuration : CFConfiguration} {args : List String} {proxy : Option ProxyKeys}
    (h : (setProtocol (some svc) configuration args
      (.start ipsec qos proxy changed)).session.saved = false) :
    (setProtocol (some svc) configuration args (.start ipsec qos proxy changed)).Unchanged
      configuration ipsec qos changed := by
  by_cases hargs : args = []
  · simp only [setProtocol, hargs, if_true]
    exact nothing_unchanged configuration proxy _
  · simp only [setProtocol, hargs, if_false] at h ⊢
    let start : Draft configuration (editCopy configuration) id := .start
    have hedited := setProtocolOptions_edited svc args (d := start) rfl
      (.start ipsec qos proxy changed)
    refine (finish_unchanged_iff hedited.world.tracked).2 ⟨?_, ?_, ?_⟩
    · rw [Session.result, if_neg (by rw [h]; decide)]
      exact hedited.edits.1
    · exact congrArg Session.result hedited.world.1
    · exact congrArg Session.result hedited.world.2.1

/-- The flag is set when the copy of a protocol is stored. -/
theorem setProtocol_saved_of_unchanged {svc : ProtocolServices}
    {configuration : CFConfiguration} {args : List String} {proxy : Option ProxyKeys}
    (h : (setProtocol (some svc) configuration args
      (.start ipsec qos proxy changed)).world.prefsChanged = false) :
    (setProtocol (some svc) configuration args
      (.start ipsec qos proxy changed)).session.saved = false := by
  by_cases hargs : args = []
  · simp only [setProtocol, hargs, if_true]
    rfl
  · simp only [setProtocol, hargs, if_false] at h ⊢
    let start : Draft configuration (editCopy configuration) id := .start
    have hedited := setProtocolOptions_edited svc args (d := start) rfl
      (.start ipsec qos proxy changed)
    rw [finish_prefsChanged hedited.world.tracked, Bool.or_eq_false_iff] at h
    exact h.2

/-- A `set protocol` with a rejected option stores nothing. -/
theorem setProtocol_unchanged (selected : Option ProtocolServices)
    (configuration : CFConfiguration) (args : List String) (ipsec qos : CFConfiguration)
    (proxy : Option ProxyKeys) (changed : Bool)
    (h : (setProtocol selected configuration args (.start ipsec qos proxy changed)).Rejected) :
    (setProtocol selected configuration args (.start ipsec qos proxy changed)).Unchanged
      configuration ipsec qos changed := by
  cases selected with
  | none => exact nothing_unchanged configuration proxy _
  | some svc =>
    refine setProtocol_unchanged_of_not_saved ?_
    by_cases hargs : args = []
    · simp only [setProtocol, hargs, if_true]
      rfl
    · simp only [setProtocol, hargs, if_false] at h ⊢
      let start : Draft configuration (editCopy configuration) id := .start
      have hedited := setProtocolOptions_edited svc args (d := start) rfl
        (.start ipsec qos proxy changed)
      obtain ⟨x, hx, -⟩ := finish_rejected h
      -- all that a handler of a protocol prints ends the command
      have hends := hedited.world.2.2.2.2 ⟨x, hx, hedited.edits.2 x hx⟩
      rw [← Bool.not_eq_true, Session.saved_iff]
      exact fun hsaved => absurd (hends.symm.trans hsaved.1) Bool.false_ne_true

/-! ## Both commands -/

/-- A `set` command that rejects an option stores nothing exactly when what its arguments ask
for is without consequence; for a protocol that is always so. -/
theorem setCommand_allOrNothing_iff (command : SetCommand) (configuration : CFConfiguration)
    (args : List String) (ipsec qos : CFConfiguration) (proxy : Option ProxyKeys)
    (changed : Bool)
    (hrejected : (command.run configuration args (.start ipsec qos proxy changed)).Rejected) :
    (command.run configuration args (.start ipsec qos proxy changed)).Unchanged configuration
        ipsec qos changed ↔
      (match command with
        | .interface selected => ∀ svc ∈ selected,
          (asked svc configuration ipsec qos args).Contained svc configuration ipsec qos
        | .protocol _ => True) := by
  cases command with
  | interface selected =>
    cases selected with
    | none => exact iff_of_true (nothing_unchanged configuration proxy _) (fun _ h => nomatch h)
    | some svc =>
      refine (setInterface_unchanged_iff svc configuration args ipsec qos proxy changed).trans ?_
      simp
  | protocol selected =>
    exact iff_of_true (setProtocol_unchanged selected configuration args ipsec qos proxy changed
      hrejected) trivial

/-- A bad value of the MTU ends the command, and nothing is stored. -/
theorem setCommand_allOrNothing_iff_bad_mtu :
    (SetCommand.run (.interface (some ethernetServices)) ∅ ["media", "autoselect", "mtu", "x"]
        (.start ∅ ∅ none false)).Unchanged ∅ ∅ ∅ false ↔
      ∀ svc ∈ some ethernetServices,
        (asked svc ∅ ∅ ∅ ["media", "autoselect", "mtu", "x"]).Contained svc ∅ ∅ ∅ :=
  setCommand_allOrNothing_iff (.interface (some ethernetServices)) ∅
    ["media", "autoselect", "mtu", "x"] ∅ ∅ none false
    ⟨.refused "invalid value\n", by decide, rfl⟩

/-- `set interface mtu 1400 qos enabled maybe`: the value of `enabled` is rejected, and the MTU
is stored all the same. -/
theorem setCommand_stores_after_rejection :
    (SetCommand.run (.interface (some ethernetServices)) ∅
      ["mtu", "1400", "qos", "enabled", "maybe"] (.start ∅ ∅ none false)).Rejected ∧
    ¬ (SetCommand.run (.interface (some ethernetServices)) ∅
      ["mtu", "1400", "qos", "enabled", "maybe"] (.start ∅ ∅ none false)).Unchanged ∅ ∅ ∅
        false := by
  refine ⟨⟨(Report.refused "invalid value\n").passOver, by decide, rfl⟩, fun h => ?_⟩
  exact absurd h.prefsChanged (by decide)

end ConfigdExtra
