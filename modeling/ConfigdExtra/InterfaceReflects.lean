import ConfigdExtra.OptionReading

/-!
# What `set interface` keeps of its options

A command edits the configuration of the interface and, through `qos` and `IPSec`, one of the
other two. The configuration of the interface is lost in part when a capability or a password
of the keychain is written through after a plain option: the copy is loaded anew, and the plain
option is gone.

* `Tracked` — what the loop keeps about the other configurations and about the reports;
* `Asked.Reflected` — the configurations have what the arguments of the command ask for,
  `Asked.Kept` — none of it is lost on the way;
* `setInterface_reflects_iff` — after a command whose options were all accepted the first is
  so exactly when the second is.
-/

namespace ConfigdExtra

open DeferredEdits

variable {o i : CFConfiguration} {l : CFConfiguration → CFConfiguration}

/-! ## Handlers that leave the other configurations alone -/

/-- The handler changes neither of the other configurations nor the flag, and it fails exactly
when it prints a line with which the command ends. -/
structure Handled.Plain (w : SetWorld) (h : Handled o i l) : Prop where
  ipsec : h.world.ipsec = w.ipsec
  qos : h.world.qos = w.qos
  prefsChanged : h.world.prefsChanged = w.prefsChanged
  ends : h.nArgs.isSome = false ↔ ∃ r ∈ h.reports, r.ends = true

/-- A handler that does so on any arguments. -/
def OptionHandler.Plain (h : OptionHandler o i l) : Prop :=
  ∀ args d w, Handled.Plain w (h args d w)

/-- All the handlers of the table do. -/
def PlainTable (options : List (OptionRow o i l)) : Prop :=
  ∀ row ∈ options, ∀ h ∈ row.handler, OptionHandler.Plain h

@[simp] theorem Handled.uses_plain (n : Nat) (d : Draft o i l) (w : SetWorld) :
    Handled.Plain w (Handled.uses n d w) :=
  ⟨rfl, rfl, rfl, by simp [Handled.uses]⟩

@[simp] theorem Handled.refuses_plain (d : Draft o i l) (w : SetWorld) (text : String) :
    Handled.Plain w (Handled.refuses d w text) :=
  ⟨rfl, rfl, rfl, by simp [Handled.refuses, Report.refused]⟩

/-- Reports that are passed over do not end the command. -/
theorem Report.passOver_ends (rs : List Report) :
    ∀ r ∈ rs.map Report.passOver, r.ends = false := by
  intro r hr
  obtain ⟨r', -, rfl⟩ := List.mem_map.1 hr
  rfl

/-- The handlers below only put edits into the draft. -/
theorem doRank_plain (svc : InterfaceServices) (description : Option String) :
    OptionHandler.Plain (doRank svc description : OptionHandler o i l) := by
  intro args d w
  cases args with
  | nil => simp [doRank]
  | cons arg rest =>
    simp only [doRank]
    split
    · simp
    · split_ifs
      · exact ⟨rfl, rfl, rfl, by simp⟩
      · simp
      · simp
      · exact ⟨rfl, rfl, rfl, by simp [Handled.uses]⟩

theorem doCapability_plain (svc : InterfaceServices) (key : PropertyKey)
    (description : Option String) :
    OptionHandler.Plain (doCapability svc key description : OptionHandler o i l) := by
  intro args d w
  cases args with
  | nil => simp [doCapability]
  | cons arg rest =>
    simp only [doCapability]
    split_ifs
    · split <;> simp
    · split <;> simp
    · split <;> simp
    · simp

theorem doPassword_plain (svc : InterfaceServices) (p : PasswordOption) (key : PropertyKey) :
    OptionHandler.Plain (doPassword svc p key : OptionHandler o i l) := by
  intro args d w
  cases args with
  | nil => simp [doPassword]
  | cons arg rest =>
    simp only [doPassword]
    split
    · split_ifs <;> simp
    · split_ifs
      · split <;> simp
      · split <;> simp
      · simp
      · simp

theorem doPasswordType_plain (resetKey : PropertyKey) (types : List (String × String))
    (missing invalid : String) (key : PropertyKey) :
    OptionHandler.Plain
      (doPasswordType resetKey types missing invalid key : OptionHandler o i l) := by
  intro args d w
  cases args with
  | nil => simp [doPasswordType]
  | cons arg rest =>
    simp only [doPasswordType]
    split_ifs
    · simp
    · split <;> simp

theorem doStringList_plain (parse : String → Option String) (missing invalid : String)
    (key : PropertyKey) :
    OptionHandler.Plain (doStringList parse missing invalid key : OptionHandler o i l) := by
  intro args d w
  cases args with
  | nil => simp [doStringList]
  | cons arg rest =>
    simp only [doStringList]
    generalize (if arg = "" then some [] else (separated arg).mapM parse) = values
    rcases values with - | - | - <;> simp

/-! ## A list of plain options -/

/-- The other configurations and the flag are the ones they were. -/
def WorldKept (w : SetWorld) (b : Bool) (s : SetState o i l) : Prop :=
  s.world.ipsec = w.ipsec ∧ s.world.qos = w.qos ∧ s.world.prefsChanged = w.prefsChanged ∧
    (b = false ↔ ∃ r ∈ s.reports, r.ends = true)

/-- A report that does not end the command among them changes nothing about whether one of the
reports does. -/
theorem exists_ends_append {reports rs : List Report} (h : ∀ r ∈ rs, r.ends = false) :
    (∃ r ∈ reports ++ rs, r.ends = true) ↔ ∃ r ∈ reports, r.ends = true := by
  constructor
  · rintro ⟨r, hr, hends⟩
    rcases List.mem_append.1 hr with hr | hr
    · exact ⟨r, hr, hends⟩
    · simp [h r hr] at hends
  · rintro ⟨r, hr, hends⟩
    exact ⟨r, List.mem_append_left _ hr, hends⟩

/-- A loop that goes on has printed no line that ends the command. -/
theorem not_ends_of_true {reports : List Report}
    (h : true = false ↔ ∃ r ∈ reports, r.ends = true) : ¬ ∃ r ∈ reports, r.ends = true :=
  fun hr => Bool.noConfusion (h.2 hr)

/-- After the lines of a handler one of the reports ends the command exactly when one of the
lines does. -/
theorem exists_ends_after {reports rs : List Report}
    (h : ¬ ∃ r ∈ reports, r.ends = true) :
    (∃ r ∈ reports ++ rs, r.ends = true) ↔ ∃ r ∈ rs, r.ends = true := by
  constructor
  · rintro ⟨r, hr, hends⟩
    rcases List.mem_append.1 hr with hr | hr
    · exact absurd ⟨r, hr, hends⟩ h
    · exact ⟨r, hr, hends⟩
  · rintro ⟨r, hr, hends⟩
    exact ⟨r, List.mem_append_right _ hr, hends⟩

/-- A loop over plain options leaves the other configurations alone. -/
theorem worldKept_loopInvariant (options : List (OptionRow o i l)) (w : SetWorld) :
    LoopInvariant options (WorldKept w) := by
  refine .of_regular ?_ ?_
  · rintro s r ⟨hi, hq, hp, hends⟩ hr
    exact ⟨hi, hq, hp, by simpa using Or.inr hr⟩
  · rintro s args d rs ⟨hi, hq, hp, hends⟩ - hrs
    exact ⟨hi, hq, hp, by rw [exists_ends_append hrs]; exact hends⟩

theorem OptionHandler.Plain.keeps_world {h : OptionHandler o i l} (hplain : h.Plain)
    (w : SetWorld) : h.Keeps (WorldKept w) := by
  rintro s ⟨hi, hq, hp, hends⟩
  have ph := hplain s.args s.draft s.world
  refine ⟨ph.ipsec.trans hi, ph.qos.trans hq, ph.prefsChanged.trans hp, ?_⟩
  rw [SetState.after, exists_ends_after (not_ends_of_true hends)]
  exact ph.ends

/-- A list of plain options changes only the copy. -/
theorem PlainTable.world {options : List (OptionRow o i l)} (h : PlainTable options)
    (args : List String) (d : Draft o i l) (w : SetWorld) :
    WorldKept w (processOptions options args d w).1 (processOptions options args d w).2 :=
  processOptions_invariant (worldKept_loopInvariant options w)
    (fun row hrow f hf => (h row hrow f hf).keeps_world w) ⟨rfl, rfl, rfl, by simp⟩

theorem qosOptions_plain : PlainTable (qosOptions : List (OptionRow o i l)) := by
  simp [PlainTable, qosOptions]

theorem ipsecOnDemandOptions_plain :
    PlainTable (ipsecOnDemandOptions : List (OptionRow o i l)) := by
  have hdomains : ∀ key, OptionHandler.Plain (doOnDemandDomains key : OptionHandler o i l) :=
    fun key => doStringList_plain _ _ _ key
  simp [PlainTable, ipsecOnDemandOptions, hdomains]

theorem l2tpIPSecOptions_plain (svc : InterfaceServices) :
    PlainTable (l2tpIPSecOptions svc : List (OptionRow o i l)) := by
  have hsecret : ∀ key, OptionHandler.Plain (doIPSecSharedSecret svc key : OptionHandler o i l) :=
    fun key => doPassword_plain svc _ key
  have htype : ∀ key, OptionHandler.Plain (doIPSecSharedSecretType key : OptionHandler o i l) :=
    fun key => doPasswordType_plain _ _ _ _ key
  simp [PlainTable, l2tpIPSecOptions, hsecret, htype]

/-- The domains of `OnDemandMatch` are edits of the same copy, and a domain that is rejected
among them does not end the command. -/
theorem doIPSecOnDemandMatch_plain :
    OptionHandler.Plain (doIPSecOnDemandMatch : OptionHandler o i l) := by
  intro args d w
  cases args with
  | nil => simp [doIPSecOnDemandMatch]
  | cons arg rest =>
    have hw := ipsecOnDemandOptions_plain.world (arg :: rest) d w
    refine ⟨hw.1, hw.2.1, hw.2.2.1, ?_⟩
    simp only [doIPSecOnDemandMatch, Option.isSome_some, Bool.true_eq_false, false_iff]
    rintro ⟨r, hr, hends⟩
    simp [Report.passOver_ends _ r hr] at hends

/-! ## The options with a configuration of their own -/

/-- Nothing was asked of the configuration, or what was asked was accepted and, if need be,
stored. -/
def Settled (s : Session PropertyKey CFValue) : Prop :=
  s.draft.log = [] ∨
    (s.accepted = true ∧ (s.draft.pending ≠ s.origin → s.stores = true))

/-- What the loop of a command keeps, for a command that found the other configurations as
`ipsec` and `qos` and the flag as `changed`: as long as it goes on with arguments left it has
not come to them. -/
structure Tracked (ipsec qos : CFConfiguration) (changed : Bool) (b : Bool)
    (s : SetState o i l) : Prop where
  ends : b = false ↔ ∃ r ∈ s.reports, r.ends = true
  ipsec_origin : s.world.ipsec.origin = ipsec
  qos_origin : s.world.qos.origin = qos
  prefsChanged : s.world.prefsChanged = (changed || s.world.ipsec.saved || s.world.qos.saved)
  untouched : b = true → s.args ≠ [] → s.world.ipsec = .idle ipsec ∧ s.world.qos = .idle qos
  settled : s.reports = [] → Settled s.world.ipsec ∧ Settled s.world.qos

variable {ipsec qos : CFConfiguration} {changed : Bool}

/-- A failure that is reported ends the command. -/
theorem Tracked.stop {s : SetState o i l} {r : Report} (h : Tracked ipsec qos changed true s)
    (hr : r.ends = true) :
    Tracked ipsec qos changed false { s with reports := s.reports ++ [r] } where
  ends := by simpa using Or.inr hr
  ipsec_origin := h.ipsec_origin
  qos_origin := h.qos_origin
  prefsChanged := h.prefsChanged
  untouched := fun hb => by simp at hb
  settled := fun hnil => by simp at hnil

/-- Using up arguments and editing the copy changes nothing else. -/
theorem Tracked.edit {s : SetState o i l} (h : Tracked ipsec qos changed true s)
    {args : List String} (d : Draft o i l) (rs : List Report) (hargs : args <:+ s.args)
    (hrs : ∀ r ∈ rs, r.ends = false) :
    Tracked ipsec qos changed true (⟨args, d, s.world, s.reports ++ rs⟩ : SetState o i l) where
  ends := by rw [exists_ends_append hrs]; exact h.ends
  ipsec_origin := h.ipsec_origin
  qos_origin := h.qos_origin
  prefsChanged := h.prefsChanged
  untouched := fun hb hne => h.untouched hb fun hnil => hne (List.suffix_nil.1 (hnil ▸ hargs))
  settled := fun hnil => h.settled (List.append_eq_nil_iff.1 hnil).1

theorem tracked_loopInvariant (options : List (OptionRow o i l)) :
    LoopInvariant options (Tracked ipsec qos changed) :=
  .of_regular (fun _ _ h hr => h.stop hr) (fun _ _ d rs h hargs hrs => h.edit d rs hargs hrs)

theorem Tracked.after_plain {s : SetState o i l} {h : Handled o i l}
    (hs : Tracked ipsec qos changed true s) (ph : Handled.Plain s.world h) :
    Tracked ipsec qos changed h.nArgs.isSome (s.after h) where
  ends := by
    rw [SetState.after, exists_ends_after (not_ends_of_true hs.ends)]
    exact ph.ends
  ipsec_origin := by rw [SetState.after, ph.ipsec, hs.ipsec_origin]
  qos_origin := by rw [SetState.after, ph.qos, hs.qos_origin]
  prefsChanged := by
    simp only [SetState.after, ph.prefsChanged, ph.ipsec, ph.qos, hs.prefsChanged]
  untouched := by
    intro _ hne
    have hargs : s.args ≠ [] := by
      rintro hnil
      simp [SetState.after, hnil] at hne
    simpa only [SetState.after, ph.ipsec, ph.qos] using hs.untouched rfl hargs
  settled := by
    intro hnil
    simpa only [SetState.after, ph.ipsec, ph.qos] using
      hs.settled (List.append_eq_nil_iff.1 hnil).1

/-- What is tracked is not touched by plain handlers. -/
theorem OptionHandler.Plain.keeps_tracked {h : OptionHandler o i l} (hplain : h.Plain) :
    h.Keeps (Tracked ipsec qos changed) :=
  fun s hs => hs.after_plain (hplain s.args s.draft s.world)

/-- A copy that was edited to the end without a word is settled. -/
theorem finish_settled {setter : CFConfiguration → Option StoreError} {noKey : String}
    {r : Bool × SetState o i l} (hends : r.1 = false ↔ ∃ x ∈ r.2.reports, x.ends = true)
    (h : (finish setter noKey r).reports = []) :
    (finish setter noKey r).session.accepted = true ∧
      ((finish setter noKey r).session.draft.pending ≠ (finish setter noKey r).session.origin →
        (finish setter noKey r).session.stores = true) := by
  obtain ⟨hreports, hstore⟩ := List.append_eq_nil_iff.1 h
  have haccepted : r.1 = true := by
    rw [← Bool.not_eq_false, hends, hreports]
    simp
  refine ⟨haccepted, fun hne => ?_⟩
  have hne' : r.2.draft.pending ≠ o := hne
  simp only [haccepted, hne', ne_eq, not_false_eq_true, decide_true, Bool.and_self, if_true,
    Option.toList_eq_nil_iff, Option.map_eq_none_iff] at hstore
  simp [finish, hstore]

/-- What a handler with a list of its own prints does not end the command. -/
theorem nested_ends {reports : List Report} (h : true = false ↔ ∃ r ∈ reports, r.ends = true)
    (rs : List Report) :
    true = false ↔ ∃ r ∈ reports ++ rs.map Report.passOver, r.ends = true := by
  rw [exists_ends_append (Report.passOver_ends rs)]
  exact h

/-- The reports of a list that was accepted without a word. -/
theorem reports_nil_of_append {reports rs : List Report}
    (h : reports ++ rs.map Report.passOver = []) : reports = [] ∧ rs = [] := by
  obtain ⟨hreports, hrs⟩ := List.append_eq_nil_iff.1 h
  exact ⟨hreports, List.map_eq_nil_iff.1 hrs⟩

/-- The handler of QoS marking writes its own configuration, and says so in the flag. -/
theorem doQoSMarking_keeps (svc : InterfaceServices) :
    (doQoSMarking svc : OptionHandler o i l).Keeps (Tracked ipsec qos changed) := by
  rintro ⟨args, d, w, reports⟩ hs
  cases args with
  | nil => exact hs.after_plain (by simp [doQoSMarking])
  | cons arg rest =>
    by_cases hname : svc.bsdName.isNone
    · exact hs.after_plain (by simp [doQoSMarking, hname])
    · obtain ⟨hi, hq⟩ := hs.untouched rfl (List.cons_ne_nil arg rest)
      have hchanged := hs.prefsChanged
      dsimp only at hi hq hchanged
      have hlist := (qosOptions_plain (o := w.qos.result)).world (arg :: rest)
        (.start : Draft w.qos.result (editCopy w.qos.result) id) w
      simp only [doQoSMarking, hname, SetState.after]
      refine
        { ends := nested_ends hs.ends _
          ipsec_origin := by simp [finish, hlist.1, hi, Session.idle]
          qos_origin := by simp [finish, hq]
          prefsChanged := by simp [finish, hlist.1, hlist.2.2.1, hchanged, hi, hq]
          untouched := fun _ hne => by simp at hne
          settled := ?_ }
      intro hnil
      obtain ⟨hreports, hrs⟩ := reports_nil_of_append hnil
      exact ⟨by simpa [finish, hlist.1] using (hs.settled hreports).1,
        .inr (finish_settled hlist.2.2.2 hrs)⟩

/-- The handler of IPSec writes its own configuration, and says so in the flag. -/
theorem doPPPIPSec_keeps (svc : InterfaceServices) :
    (doPPPIPSec svc : OptionHandler o i l).Keeps (Tracked ipsec qos changed) := by
  rintro ⟨args, d, w, reports⟩ hs
  cases args with
  | nil => exact hs.after_plain (by simp [doPPPIPSec])
  | cons arg rest =>
    by_cases hchild : svc.childType = some kSCNetworkInterfaceTypeL2TP
    · obtain ⟨hi, hq⟩ := hs.untouched rfl (List.cons_ne_nil arg rest)
      have hchanged := hs.prefsChanged
      dsimp only at hi hq hchanged
      have hlist := (l2tpIPSecOptions_plain svc (o := w.ipsec.result)).world (arg :: rest)
        (.start : Draft w.ipsec.result (editCopy w.ipsec.result) fun _ => d.stored) w
      simp only [doPPPIPSec, hchild, SetState.after]
      refine
        { ends := nested_ends hs.ends _
          ipsec_origin := by simp [finish, hi]
          qos_origin := by simp [finish, hlist.2.1, hq, Session.idle]
          prefsChanged := by simp [finish, hlist.2.1, hlist.2.2.1, hchanged, hi, hq]
          untouched := fun _ hne => by simp at hne
          settled := ?_ }
      intro hnil
      obtain ⟨hreports, hrs⟩ := reports_nil_of_append hnil
      exact ⟨.inr (finish_settled hlist.2.2.2 hrs),
        by simpa [finish, hlist.2.1] using (hs.settled hreports).2⟩
    · exact hs.after_plain (by simp [doPPPIPSec, hchild])

/-! ## The tables -/

section Tables

variable (svc : InterfaceServices)

theorem PlainTable.keeps_tracked {options : List (OptionRow o i l)} (h : PlainTable options) :
    TableKeeps options (Tracked ipsec qos changed) :=
  fun row hrow f hf => (h row hrow f hf).keeps_tracked

theorem bondOptions_plain : PlainTable (bondOptions : List (OptionRow o i l)) := by
  simp [PlainTable, bondOptions]

theorem bridgeOptions_plain : PlainTable (bridgeOptions : List (OptionRow o i l)) := by
  simp [PlainTable, bridgeOptions]

theorem firewireOptions_plain : PlainTable (firewireOptions : List (OptionRow o i l)) := by
  simp [PlainTable, firewireOptions]

theorem modemOptions_plain : PlainTable (modemOptions : List (OptionRow o i l)) := by
  simp [PlainTable, modemOptions]

theorem ipsecOptions_plain : PlainTable (ipsecOptions svc : List (OptionRow o i l)) := by
  have hsecret : ∀ key, OptionHandler.Plain (doIPSecSharedSecret svc key : OptionHandler o i l) :=
    fun key => doPassword_plain svc _ key
  have htype : ∀ key, OptionHandler.Plain (doIPSecSharedSecretType key : OptionHandler o i l) :=
    fun key => doPasswordType_plain _ _ _ _ key
  have hxauth : ∀ key, OptionHandler.Plain (doIPSecXAuthPassword svc key : OptionHandler o i l) :=
    fun key => doPassword_plain svc _ key
  have hxtype : ∀ key,
      OptionHandler.Plain (doIPSecXAuthPasswordType key : OptionHandler o i l) :=
    fun key => doPasswordType_plain _ _ _ _ key
  simp [PlainTable, ipsecOptions, hsecret, htype, hxauth, hxtype, doIPSecOnDemandMatch_plain]

theorem vpnOptions_plain : PlainTable (vpnOptions svc : List (OptionRow o i l)) := by
  have hpassword : ∀ key, OptionHandler.Plain (doVPNAuthPW svc key : OptionHandler o i l) :=
    fun key => doPassword_plain svc _ key
  have htype : ∀ key, OptionHandler.Plain (doVPNAuthPWType key : OptionHandler o i l) :=
    fun key => doPasswordType_plain _ _ _ _ key
  simp [PlainTable, vpnOptions, hpassword, htype]

/-- The tables with a handler that is not plain have one each. -/
theorem airportOptions_keeps :
    TableKeeps (airportOptions svc : List (OptionRow o i l)) (Tracked ipsec qos changed) := by
  have hrank := (doRank_plain svc none : OptionHandler.Plain (o := o) (i := i) (l := l) _)
  simp [TableKeeps, airportOptions, hrank.keeps_tracked, doQoSMarking_keeps]

theorem ethernetOptions_keeps :
    TableKeeps (ethernetOptions svc : List (OptionRow o i l)) (Tracked ipsec qos changed) := by
  have hrank := (doRank_plain svc none : OptionHandler.Plain (o := o) (i := i) (l := l) _)
  have hcapability : ∀ key,
      OptionHandler.Plain (doCapability svc key none : OptionHandler o i l) :=
    fun key => doCapability_plain svc key none
  simp [TableKeeps, ethernetOptions, hrank.keeps_tracked, (hcapability _).keeps_tracked,
    doQoSMarking_keeps]

theorem pppOptions_keeps :
    TableKeeps (pppOptions svc : List (OptionRow o i l)) (Tracked ipsec qos changed) := by
  have hpassword : ∀ key, OptionHandler.Plain (doPPPAuthPW svc key : OptionHandler o i l) :=
    fun key => doPassword_plain svc _ key
  have htype : ∀ key, OptionHandler.Plain (doPPPAuthPWType key : OptionHandler o i l) :=
    fun key => doPasswordType_plain _ _ _ _ key
  simp [TableKeeps, pppOptions, (hpassword _).keeps_tracked, (htype _).keeps_tracked,
    doPPPIPSec_keeps]

end Tables

/-! ## The command -/

/-- At the start nothing has been written. -/
theorem tracked_start (args : List String) (d : Draft o i l) (proxy : Option ProxyKeys) :
    Tracked ipsec qos changed true ⟨args, d, .start ipsec qos proxy changed, []⟩ where
  ends := by simp
  ipsec_origin := rfl
  qos_origin := rfl
  prefsChanged := by simp [SetWorld.start]
  untouched := fun _ _ => ⟨rfl, rfl⟩
  settled := fun _ => ⟨.inl rfl, .inl rfl⟩

/-- Neither does a refusal write anything. -/
theorem Tracked.refuse {s : SetState o i l} (h : Tracked ipsec qos changed true s)
    (text : String) :
    Tracked ipsec qos changed (s.refuse text).1 (s.refuse text).2 :=
  h.stop rfl

theorem setInterfaceMedia_tracked (svc : InterfaceServices) {options : List (OptionRow o i l)}
    (hoptions : TableKeeps options (Tracked ipsec qos changed)) (args : List String)
    (d : Draft o i l) (proxy : Option ProxyKeys) :
    Tracked ipsec qos changed
      (setInterfaceMedia svc options args d (.start ipsec qos proxy changed)).1
      (setInterfaceMedia svc options args d (.start ipsec qos proxy changed)).2 := by
  have hstart : Tracked ipsec qos changed true ⟨args, d, .start ipsec qos proxy changed, []⟩ :=
    tracked_start args d proxy
  have hlist := processOptions_invariant (tracked_loopInvariant _) hoptions hstart
  unfold setInterfaceMedia
  by_cases hname : svc.bsdName.isNone = true
  · rw [if_pos hname]
    exact hstart.refuse _
  · rw [if_neg hname]
    dsimp only
    cases hok : (processOptions options args d (.start ipsec qos proxy changed)).1 with
    | false =>
      rw [hok] at hlist
      simpa [hok] using hlist
    | true =>
      rw [hok] at hlist
      rw [if_pos rfl]
      split
      · exact hlist.refuse _
      · next draft _ =>
        have hedit := hlist.edit draft [] (List.suffix_refl _) (by simp)
        simpa using hedit

/-- Whatever the type of the interface, its options leave the other configurations and the
reports as `Tracked` says. -/
theorem setInterfaceOptions_tracked (svc : InterfaceServices) (args : List String)
    (d : Draft o i l) (proxy : Option ProxyKeys) :
    Tracked ipsec qos changed
      (setInterfaceOptions svc args d (.start ipsec qos proxy changed)).1
      (setInterfaceOptions svc args d (.start ipsec qos proxy changed)).2 := by
  have hlist : ∀ {options : List (OptionRow o i l)},
      TableKeeps options (Tracked ipsec qos changed) →
      Tracked ipsec qos changed
        (processOptions options args d (.start ipsec qos proxy changed)).1
        (processOptions options args d (.start ipsec qos proxy changed)).2 :=
    fun hoptions => processOptions_invariant (tracked_loopInvariant _) hoptions
      (tracked_start args d proxy)
  have hmedia : ∀ {options : List (OptionRow o i l)},
      TableKeeps options (Tracked ipsec qos changed) →
      Tracked ipsec qos changed
        (setInterfaceMedia svc options args d (.start ipsec qos proxy changed)).1
        (setInterfaceMedia svc options args d (.start ipsec qos proxy changed)).2 :=
    fun hoptions => setInterfaceMedia_tracked svc hoptions args d proxy
  unfold setInterfaceOptions
  split_ifs
  · exact hmedia (ethernetOptions_keeps svc)
  · exact hmedia firewireOptions_plain.keeps_tracked
  · exact hlist (ipsecOptions_plain svc).keeps_tracked
  · exact hlist modemOptions_plain.keeps_tracked
  · exact hmedia (airportOptions_keeps svc)
  · exact hlist (pppOptions_keeps svc)
  · exact hmedia bondOptions_plain.keeps_tracked
  · exact hmedia bridgeOptions_plain.keeps_tracked
  · exact (tracked_start args d proxy).refuse _
  · exact hlist (vpnOptions_plain svc).keeps_tracked
  · exact (tracked_start args d proxy).refuse _

/-- A command that prints nothing has settled every configuration it is about. -/
theorem setInterface_settled {svc : InterfaceServices} {configuration : CFConfiguration}
    {args : List String} {proxy : Option ProxyKeys} {f : Finished}
    (hf : setInterface (some svc) configuration args (.start ipsec qos proxy changed) = f)
    (h : f.reports = []) :
    args ≠ [] ∧ Settled f.session ∧ Settled f.world.ipsec ∧ Settled f.world.qos := by
  subst hf
  by_cases hargs : args = []
  · simp [setInterface, Finished.nothing, hargs] at h
  · simp only [setInterface, hargs, if_false] at h ⊢
    let start : Draft configuration (editCopy configuration) id := .start
    have htracked : Tracked ipsec qos changed _ _ :=
      setInterfaceOptions_tracked svc args start proxy
    obtain ⟨hi, hq⟩ := htracked.settled (List.append_eq_nil_iff.1 h).1
    exact ⟨hargs, .inr (finish_settled htracked.ends h), hi, hq⟩

/-- A settled configuration has what a log asks for exactly when nothing of it is lost. -/
theorem Settled.reflects_iff {s : Session PropertyKey CFValue} (h : Settled s) {log : History}
    {further : List (Edit PropertyKey CFValue)}
    (hdraft : s.draft = (Draft.ofLog log).putAll further) :
    Reflects log s.result ↔ Survives s.origin s.initial s.reload log further := by
  rcases h with hlog | ⟨haccepted, hstores⟩
  · obtain ⟨rfl, rfl⟩ : log = [] ∧ further = [] := by
      rw [hdraft] at hlog
      exact Draft.log_putAll_eq_nil hlog
    exact iff_of_true (fun _ _ h => nomatch h) (fun _ _ h => nomatch h)
  · exact s.reflects_iff hdraft haccepted hstores

/-- The configurations that a command leaves have, at every key, the last value that its
arguments ask for. -/
structure Asked.Reflected (a : Asked) (f : Finished) : Prop where
  own : Reflects a.own f.session.result
  ipsec : ∀ r ∈ a.ipsec, Reflects r.log f.world.ipsec.result
  qos : ∀ r ∈ a.qos, Reflects r.log f.world.qos.result

/-- Nothing that the arguments ask for is lost on the way: what was asked for before the last
option that is written through, and not again after it, is what was loaded then; and a copy
that ends as the configuration that was found, so that it is not stored, leaves what was asked
for. -/
structure Asked.Kept (a : Asked) (configuration ipsec qos : CFConfiguration) : Prop where
  own : DeferredEdits.Survives configuration (editCopy configuration) id a.own a.media
  ipsec : ∀ r ∈ a.ipsec,
    DeferredEdits.Survives ipsec (editCopy ipsec) (a.reloadIPSec configuration) r.log []
  qos : ∀ r ∈ a.qos, DeferredEdits.Survives qos (editCopy qos) id r.log []

/-- After a `set interface` whose options were all accepted, the configurations that are left
reflect every option, the last one winning, exactly when nothing that the options ask for is
lost on the way. -/
theorem setInterface_reflects_iff (svc : InterfaceServices) (configuration : CFConfiguration)
    (args : List String) (ipsec qos : CFConfiguration) (proxy : Option ProxyKeys)
    (changed : Bool)
    (haccepted : (setInterface (some svc) configuration args
      (.start ipsec qos proxy changed)).reports = []) :
    (asked svc configuration ipsec qos args).Reflected
        (setInterface (some svc) configuration args (.start ipsec qos proxy changed)) ↔
      (asked svc configuration ipsec qos args).Kept configuration ipsec qos := by
  obtain ⟨hargs, hown, hi, hq⟩ := setInterface_settled rfl haccepted
  obtain ⟨hsession, hipsec, hqos⟩ :=
    setInterface_does svc configuration hargs ipsec qos proxy changed
  generalize setInterface (some svc) configuration args (.start ipsec qos proxy changed) = f
    at hown hi hq hsession hipsec hqos ⊢
  generalize asked svc configuration ipsec qos args = a at hsession hipsec hqos ⊢
  have hown' : Reflects a.own f.session.result ↔
      Survives configuration (editCopy configuration) id a.own a.media := by
    rw [hsession] at hown ⊢
    exact hown.reflects_iff rfl
  have hi' : ∀ r ∈ a.ipsec, (Reflects r.log f.world.ipsec.result ↔
      Survives ipsec (editCopy ipsec) (a.reloadIPSec configuration) r.log []) := by
    intro r hr
    rw [hipsec, Asked.ipsecSession, hr] at hi ⊢
    exact hi.reflects_iff rfl
  have hq' : ∀ r ∈ a.qos,
      (Reflects r.log f.world.qos.result ↔ Survives qos (editCopy qos) id r.log []) := by
    intro r hr
    rw [hqos, Asked.qosSession, hr] at hq ⊢
    exact hq.reflects_iff rfl
  constructor
  · rintro ⟨ho, hi, hq⟩
    exact ⟨hown'.mp ho, fun r hr => (hi' r hr).mp (hi r hr), fun r hr => (hq' r hr).mp (hq r hr)⟩
  · rintro ⟨ho, hi, hq⟩
    exact ⟨hown'.mpr ho, fun r hr => (hi' r hr).mpr (hi r hr),
      fun r hr => (hq' r hr).mpr (hq r hr)⟩

/-- An Ethernet interface that takes every capability and stores what it is given. -/
def ethernetServices : InterfaceServices where
  interfaceType := kSCNetworkInterfaceTypeEthernet
  bsdName := some "en0"
  childType := none
  mtuRange := some (1280, 1500)
  copyMediaOptions := true
  mediaAvailable := true
  mediaSubTypes := some [.string "autoselect"]
  mediaSubTypeOptions := fun _ => some [.strings []]
  active := true
  setPrimaryRank := fun _ => true
  setCapability := fun _ _ _ => none
  setPassword := fun _ _ _ => none
  removePassword := fun _ _ => none
  setConfiguration := fun _ => none
  setQoSMarkingPolicy := fun _ => none
  setExtendedConfiguration := fun _ => none
  keyString := fun _ => ""
  describe := fun _ => ""

/-- With the capability first both options are stored. -/
theorem setInterface_reflects_iff_mtu_last :
    (asked ethernetServices ∅ ∅ ∅ ["lro", "on", "mtu", "1400"]).Reflected
      (setInterface (some ethernetServices) ∅ ["lro", "on", "mtu", "1400"]
        (.start ∅ ∅ none false)) ↔
    (asked ethernetServices ∅ ∅ ∅ ["lro", "on", "mtu", "1400"]).Kept ∅ ∅ ∅ :=
  setInterface_reflects_iff ethernetServices ∅ ["lro", "on", "mtu", "1400"] ∅ ∅ none false
    (by decide)

/-- `set interface mtu 1400 lro on` is accepted, and the MTU is not stored. -/
theorem setInterface_loses_mtu :
    (setInterface (some ethernetServices) ∅ ["mtu", "1400", "lro", "on"]
      (.start ∅ ∅ none false)).reports = [] ∧
    ¬ (asked ethernetServices ∅ ∅ ∅ ["mtu", "1400", "lro", "on"]).Reflected
      (setInterface (some ethernetServices) ∅ ["mtu", "1400", "lro", "on"]
        (.start ∅ ∅ none false)) := by
  refine ⟨by decide, fun h => ?_⟩
  have hmtu := h.own .kSCPropNetEthernetMTU (some (.number 1400)) (by decide)
  exact absurd hmtu (by decide)

end ConfigdExtra
