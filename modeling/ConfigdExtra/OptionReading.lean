import ConfigdExtra.OptionRequests

/-!
# The options of `set interface` do what they ask for

`_process_options` walks the arguments with handlers that edit the copy, write through and print
messages. Its loop takes a list of options as `readOptions` reads it, edit for edit.

* `TakenAs`, `OptionHandler.Reads` — an option, or a handler, does what its option asks for;
* `optionLoop_reads` — the loop over a table whose options do;
* `setInterfaceOptions_asked` — the options of a command, whatever the type of the interface.
-/

namespace ConfigdExtra

open DeferredEdits

variable {o i : CFConfiguration} {l : CFConfiguration → CFConfiguration}

/-! ## Options that edit a key -/

/-- An option is taken with the edit that it asks for, or rejected. -/
def TakenAs : Taken → Option History → Prop
  | .ok (e, _), some actions => actions = [.defer e]
  | .error _, none => True
  | _, _ => False

/-- A switch asks for its value, if the word is one of those for on and off. -/
theorem takeSwitch_asks (key : PropertyKey) (off on : CFValue) (arg : String) :
    TakenAs (takeSwitch key off on arg)
      ((askedSwitch off on arg).map fun value => [.defer ⟨key, value⟩]) := by
  unfold takeSwitch askedSwitch
  split_ifs <;> simp [TakenAs]

/-- An empty argument asks for the key to be removed. -/
theorem takeUnlessEmpty_asks (key : PropertyKey) (value : String → Option CFValue)
    (arg : String) :
    TakenAs (takeUnlessEmpty key value arg)
      (if arg = "" then some [.defer ⟨key, none⟩]
        else (value arg).map fun v => [.defer ⟨key, some v⟩]) := by
  unfold takeUnlessEmpty
  split_ifs
  · rfl
  · cases value arg with
    | none => trivial
    | some v => rfl

/-- One of several words asks for the value that it stands for. -/
theorem takeChoice_asks (key : PropertyKey) (choices : List Selection)
    (description arg : String) :
    TakenAs (takeChoice key choices description arg)
      ((availableChoice choices arg).map fun c => [.defer ⟨key, c.key.map .string⟩]) := by
  unfold takeChoice availableChoice
  cases findSelection arg choices with
  | none => trivial
  | some c =>
    rw [Option.filter_some]
    by_cases hflags : c.flags &&& selectionNotAvailable = 0
    · simp [hflags, TakenAs]
    · simp [hflags, TakenAs]

/-- Several choices are had if each of them can be. -/
theorem chooseMultiple_eq_ok_iff (description : String) (choices : List Selection)
    (words : List String) (keys : List String) :
    chooseMultiple description choices words = .ok keys ↔
      ∃ chosen, words.mapM (availableChoice choices) = some chosen ∧
        chosen.filterMap Selection.key = keys := by
  induction words generalizing keys with
  | nil => simp [chooseMultiple]
  | cons word words ih =>
    rw [chooseMultiple, List.mapM_cons, availableChoice]
    cases findSelection word choices with
    | none => simp
    | some c =>
      rw [Option.filter_some]
      by_cases hflags : c.flags &&& selectionNotAvailable = 0
      · cases hrest : chooseMultiple description choices words with
        | error text =>
          have hnone : words.mapM (availableChoice choices) = none := by
            rw [Option.eq_none_iff_forall_ne_some]
            intro chosen hchosen
            have hok := (ih _).mpr ⟨chosen, hchosen, rfl⟩
            rw [hrest] at hok
            cases hok
          simp [hflags, Except.map, hnone]
        | ok rest =>
          obtain ⟨chosen, hchosen, hkeys⟩ := (ih rest).mp hrest
          simp only [hflags, hchosen, ← hkeys, Except.map]
          cases hkey : c.key <;> simp [hkey]
      · simp [hflags]

/-- Several words ask for the values of those that are known. -/
theorem takeChoices_asks (key : PropertyKey) (choices : List Selection)
    (description arg : String) :
    TakenAs (takeChoices key choices description arg)
      (some [.defer ⟨key, askedChoices choices arg⟩]) := by
  unfold takeChoices askedChoices
  by_cases harg : arg = ""
  · rw [if_pos harg, if_pos harg]
    rfl
  rw [if_neg harg, if_neg harg]
  cases hchosen : (separated arg).mapM (availableChoice choices) with
  | none =>
    cases hrun : chooseMultiple description choices (separated arg) with
    | error text => rfl
    | ok keys =>
      obtain ⟨chosen, h, -⟩ := (chooseMultiple_eq_ok_iff _ _ _ _).mp hrun
      rw [hchosen] at h
      cases h
  | some chosen =>
    rw [(chooseMultiple_eq_ok_iff _ _ _ _).mpr ⟨chosen, hchosen, rfl⟩]
    cases hkeys : chosen.filterMap Selection.key with
    | nil => simp [TakenAs, hkeys]
    | cons k keys => simp [TakenAs, hkeys]

/-- An option with a value does what it asks for. -/
structure SwitchAsks (row : OptionRow o i l) (d : Draft o i l) : Prop where
  missing : ∃ r, row.switch [] d = .fails r
  value : ∀ arg rest,
    match row.type.asks arg with
    | none => ∃ r, row.switch (arg :: rest) d = .fails r
    | some actions => ∃ d' rs, row.switch (arg :: rest) d = .goesOn rest d' rs ∧
        d'.log = actions ++ d.log

/-- What is left to say of a row is what its type makes of an argument. -/
theorem switchAsks_of_taken {row : OptionRow o i l} {d : Draft o i l} {missing : String}
    {take : String → Taken} (hswitch : ∀ args, row.switch args d = switchValue missing take args d)
    (htake : ∀ arg, TakenAs (take arg) (row.type.asks arg)) : SwitchAsks row d where
  missing := ⟨_, hswitch []⟩
  value := by
    intro arg rest
    have htaken := htake arg
    rw [hswitch, switchValue]
    cases htake' : take arg with
    | error text =>
      cases hasks : row.type.asks arg with
      | none => exact ⟨_, rfl⟩
      | some actions =>
        rw [htake', hasks] at htaken
        cases htaken
    | ok taken =>
      cases hasks : row.type.asks arg with
      | none =>
        rw [htake', hasks] at htaken
        cases htaken
      | some actions =>
        rw [htake', hasks] at htaken
        exact ⟨_, _, rfl, by rw [htaken]; rfl⟩

/-- Every type of option that has a value does. -/
theorem OptionRow.switch_asks (row : OptionRow o i l) (d : Draft o i l)
    (hother : row.type ≠ .isOther) (hhelp : row.type ≠ .isHelp) : SwitchAsks row d := by
  obtain ⟨option, description, type, handler⟩ := row
  cases type with
  | isOther => exact absurd rfl hother
  | isHelp => exact absurd rfl hhelp
  | isChooseOne key choices =>
    exact switchAsks_of_taken (fun _ => rfl) fun arg => takeChoice_asks key choices _ arg
  | isChooseMultiple key choices =>
    exact switchAsks_of_taken (fun _ => rfl) fun arg => takeChoices_asks key choices _ arg
  | isBool key =>
    exact switchAsks_of_taken (fun _ => rfl) fun arg => takeSwitch_asks key _ _ arg
  | isBoolean key =>
    exact switchAsks_of_taken (fun _ => rfl) fun arg => takeSwitch_asks key _ _ arg
  | isNumber key =>
    refine switchAsks_of_taken (fun _ => rfl) fun arg => ?_
    have htaken := takeUnlessEmpty_asks key (fun arg => (copyNumber arg).map .number) arg
    simpa only [OptionType.asks, Option.map_map, Function.comp_def] using htaken
  | isString key =>
    refine switchAsks_of_taken (fun _ => rfl) fun arg => ?_
    have htaken := takeUnlessEmpty_asks key (fun arg => some (.string arg)) arg
    by_cases harg : arg = "" <;> simpa [OptionType.asks, harg] using htaken
  | isStringArray key =>
    refine switchAsks_of_taken (fun _ => rfl) fun arg => ?_
    have htaken := takeUnlessEmpty_asks key (fun arg => some (.strings (separated arg))) arg
    by_cases harg : arg = "" <;> simpa [OptionType.asks, harg] using htaken

/-! ## Options with a handler -/

/-- What a handler has left: the edits asked for so far, and the other configurations. -/
structure Handled.Leaves (h : Handled o i l) (w : SetWorld) (n : Option Nat) (log : History) :
    Prop where
  nArgs : h.nArgs = n
  log : h.draft.log = log
  ipsec : h.world.ipsec = w.ipsec
  qos : h.world.qos = w.qos

/-- A handler uses one argument and does what its option asks for, or fails. -/
structure OptionHandler.Asks (svc : InterfaceServices) (m : Meaning) (h : OptionHandler o i l) :
    Prop where
  missing : ∀ d w, (h [] d w).Leaves w none d.log
  value : ∀ arg rest d w,
    match m.asks svc (fun log => (replay o i l log).2) d.log arg with
    | none => (h (arg :: rest) d w).Leaves w none d.log
    | some actions => (h (arg :: rest) d w).Leaves w (some 1) (actions ++ d.log)

/-- The handlers, one after the other: what each asks for, and that it asks nothing without an
argument. -/
theorem doCapability_asks (svc : InterfaceServices) (key : PropertyKey)
    (description : Option String) :
    OptionHandler.Asks svc (.capability key)
      (doCapability svc key description : OptionHandler o i l) where
  missing _ _ := ⟨rfl, rfl, rfl, rfl⟩
  value arg rest d w := by
    have hset : ∀ value, askedSwitch (.number 0) (.number 1) arg = some value →
        doCapability svc key description (arg :: rest) d w =
          (svc.setCapability key value d.log).elim (.uses 1 (d.writeThrough [⟨key, value⟩]) w)
            fun error =>
              .refuses d w (svc.keyString key ++ " not updated: " ++ error ++ "\n") := by
      intro value hvalue
      by_cases harg : arg = ""
      · subst harg
        obtain rfl := Option.some.inj hvalue
        rw [doCapability, if_pos rfl]
        dsimp only
        cases svc.setCapability key none d.log <;> rfl
      · rw [askedSwitch] at hvalue
        rw [doCapability, if_neg harg]
        split_ifs at hvalue ⊢ <;> cases hvalue
        · dsimp only
          cases svc.setCapability key (some (.number 0)) d.log <;> rfl
        · dsimp only
          cases svc.setCapability key (some (.number 1)) d.log <;> rfl
    cases hvalue : askedSwitch (.number 0) (.number 1) arg with
    | none =>
      rw [Meaning.asks, hvalue]
      have harg : arg ≠ "" := by
        rintro rfl
        cases hvalue
      rw [askedSwitch] at hvalue
      rw [doCapability, if_neg harg]
      split_ifs at hvalue ⊢
      exact ⟨rfl, rfl, rfl, rfl⟩
    | some value =>
      rw [hset value hvalue, Meaning.asks, hvalue]
      cases hcall : svc.setCapability key value d.log with
      | none => simpa [hcall] using ⟨rfl, rfl, rfl, rfl⟩
      | some error => simpa [hcall] using ⟨rfl, rfl, rfl, rfl⟩

/-- The password is set in the keychain or in the configuration, as its type says. -/
theorem doPassword_asks (svc : InterfaceServices) {p : PasswordOption}
    {encryptionKey : PropertyKey} {type : PasswordType}
    (hp : p.encryptionKey = encryptionKey ∧ p.type = type ∧ p.keychain = "Keychain")
    (key : PropertyKey) :
    OptionHandler.Asks svc (.password encryptionKey type key)
      (doPassword svc p key : OptionHandler o i l) where
  missing _ _ := ⟨rfl, rfl, rfl, rfl⟩
  value arg rest d w := by
    obtain ⟨rfl, rfl, hkeychain⟩ := hp
    rw [Meaning.asks, doPassword, d.pending_eq, hkeychain]
    cases (replay o i l d.log).2.lookup p.encryptionKey with
    | none => by_cases harg : arg = "" <;> simpa [harg] using ⟨rfl, rfl, rfl, rfl⟩
    | some encryption =>
      dsimp only
      by_cases hkept : encryption = .string "Keychain"
      · rw [if_pos hkept, if_pos hkept]
        cases (if arg = "" then svc.removePassword p.type d.log
          else svc.setPassword p.type arg d.log) with
        | none => exact ⟨rfl, rfl, rfl, rfl⟩
        | some es => exact ⟨rfl, rfl, rfl, rfl⟩
      · rw [if_neg hkept, if_neg hkept]
        exact ⟨rfl, rfl, rfl, rfl⟩

/-- A new type removes the password that was there, as does no type. -/
theorem doPasswordType_asks (svc : InterfaceServices) (resetKey : PropertyKey)
    (types : List (String × String)) (missing invalid : String) (key : PropertyKey) :
    OptionHandler.Asks svc (.passwordType resetKey types key)
      (doPasswordType resetKey types missing invalid key : OptionHandler o i l) where
  missing _ _ := ⟨rfl, rfl, rfl, rfl⟩
  value arg rest d w := by
    rw [Meaning.asks, doPasswordType]
    by_cases harg : arg = ""
    · rw [if_pos harg, if_pos harg]
      exact ⟨rfl, rfl, rfl, rfl⟩
    · rw [if_neg harg, if_neg harg]
      cases types.find? fun type => strcasecmp arg type.1 with
      | none => exact ⟨rfl, rfl, rfl, rfl⟩
      | some type => exact ⟨rfl, rfl, rfl, rfl⟩

theorem doOnDemandDomains_asks (svc : InterfaceServices) (key : PropertyKey) :
    OptionHandler.Asks svc (.domains key) (doOnDemandDomains key : OptionHandler o i l) where
  missing _ _ := ⟨rfl, rfl, rfl, rfl⟩
  value arg rest d w := by
    rw [Meaning.asks, doOnDemandDomains, doStringList]
    cases (if arg = "" then some [] else (separated arg).mapM cleanupDomainName) with
    | none => exact ⟨rfl, rfl, rfl, rfl⟩
    | some domains => cases domains <;> exact ⟨rfl, rfl, rfl, rfl⟩

/-- A rank is asked for the interface by its BSD name, so it needs one. -/
theorem doRank_asks (svc : InterfaceServices) (hname : svc.bsdName ≠ none)
    (description : Option String) :
    OptionHandler.Asks svc .rank (doRank svc description : OptionHandler o i l) where
  missing _ _ := ⟨rfl, rfl, rfl, rfl⟩
  value arg rest d w := by
    rw [Meaning.asks, doRank]
    cases rankOfArg arg with
    | none => exact ⟨rfl, rfl, rfl, rfl⟩
    | some rank =>
      dsimp only
      rw [if_neg (by simpa using hname), Option.bind_some]
      cases svc.active <;> cases hcall : svc.setPrimaryRank rank <;>
        simpa [hcall] using ⟨rfl, rfl, rfl, rfl⟩

/-! ## The loop -/

/-- The handlers of the options that take up the rest of the arguments. -/
def listHandler (svc : InterfaceServices) : OptionList → OptionHandler o i l
  | .qos => doQoSMarking svc
  | .ipsec => doPPPIPSec svc
  | .onDemand => doIPSecOnDemandMatch

/-- They do so, or fail. -/
theorem listHandler_nArgs (svc : InterfaceServices) (kind : OptionList) (args : List String)
    (d : Draft o i l) (w : SetWorld) :
    (listHandler svc kind args d w).nArgs = none ∨
      (listHandler svc kind args d w).nArgs = some args.length := by
  cases args with
  | nil => cases kind <;> exact Or.inl rfl
  | cons arg rest =>
    cases kind with
    | onDemand => exact Or.inr rfl
    | qos =>
      simp only [listHandler, doQoSMarking]
      split_ifs
      · exact Or.inl rfl
      · exact Or.inr rfl
    | ipsec =>
      simp only [listHandler, doPPPIPSec]
      split_ifs
      · exact Or.inl rfl
      · exact Or.inr rfl

/-- A row of a table is about what its option means. -/
inductive RowAsks (svc : InterfaceServices) (row : OptionRow o i l) : Meaning → Prop
  | help (htype : row.type = .isHelp) : RowAsks svc row .help
  | plain (hother : row.type ≠ .isOther) (hhelp : row.type ≠ .isHelp) (hnone : row.handler = none) :
      RowAsks svc row (.plain row.type)
  | handled (m : Meaning) (h : OptionHandler o i l) (htype : row.type = .isOther)
      (hhandler : row.handler = some h) (hlist : ∀ kind, m ≠ .list kind)
      (hasks : OptionHandler.Asks svc m h) : RowAsks svc row m
  | list (kind : OptionList) (htype : row.type = .isOther)
      (hhandler : row.handler = some (listHandler svc kind)) : RowAsks svc row (.list kind)

/-- The rows of a table are about what its options mean. -/
def TableAsks (svc : InterfaceServices) (options : List (OptionRow o i l))
    (meaning : String → Option Meaning) : Prop :=
  ∀ name,
    match findOption name options with
    | none => meaning name = none
    | some row => ∃ m, meaning name = some m ∧ RowAsks svc row m

/-- What the loop has left: the edits asked for so far, and the other configurations. -/
structure SetState.Leaves (s : SetState o i l) (w : SetWorld) (log : History) : Prop where
  log : s.draft.log = log
  ipsec : s.world.ipsec = w.ipsec
  qos : s.world.qos = w.qos

/-- The loop does what a list of options asks for; at an option that takes up the rest it comes to
the handler of that option. -/
def LoopAsks (svc : InterfaceServices) (w : SetWorld) (r : OptionsRead)
    (out : Bool × SetState o i l) : Prop :=
  match r.list with
  | none => out.1 = !r.stops ∧ out.2.Leaves w r.log
  | some (kind, args) => ∃ s : SetState o i l, s.args = args ∧ s.Leaves w r.log ∧
      out = ((listHandler svc kind args s.draft s.world).nArgs.isSome,
        s.after (listHandler svc kind args s.draft s.world))

/-- A turn that fails ends the loop. -/
theorem optionLoop_of_false {options : List (OptionRow o i l)} {s : SetState o i l} (fuel : Nat)
    (hs : s.args ≠ []) (hpass : (optionPass options s).1 = false) :
    optionLoop options (fuel + 1) s = optionPass options s := by
  rw [optionLoop, if_neg hs]
  simp [hpass]

/-- A pass that succeeds leaves the rest to the loop. -/
theorem optionLoop_of_true {options : List (OptionRow o i l)} {s : SetState o i l} (fuel : Nat)
    (hs : s.args ≠ []) (hpass : (optionPass options s).1 = true) :
    optionLoop options (fuel + 1) s = optionLoop options fuel (optionPass options s).2 := by
  rw [optionLoop, if_neg hs]
  simp [hpass]

/-- What one turn makes of an option with a value. -/
def PassAsks (w : SetWorld) (log : History) (rest : List String) :
    Option History → Bool × SetState o i l → Prop
  | none, out => out.1 = false ∧ out.2.Leaves w log
  | some actions, out => out.1 = true ∧ out.2.args = rest ∧ out.2.Leaves w (actions ++ log)

/-- An option that edits a key. -/
theorem optionPass_plain {options : List (OptionRow o i l)} {row : OptionRow o i l}
    {name : String} (hfind : findOption name options = some row) (hother : row.type ≠ .isOther)
    (hhelp : row.type ≠ .isHelp) (hnone : row.handler = none) (d : Draft o i l) (w : SetWorld)
    (reports : List Report) :
    PassAsks w d.log [] none (optionPass options ⟨[name], d, w, reports⟩) ∧
      ∀ arg rest, PassAsks w d.log rest (row.type.asks arg)
        (optionPass options ⟨name :: arg :: rest, d, w, reports⟩) := by
  obtain ⟨⟨r, hmissing⟩, hvalue⟩ := row.switch_asks d hother hhelp
  constructor
  · simp only [optionPass, hfind, hmissing]
    exact ⟨rfl, rfl, rfl, rfl⟩
  · intro arg rest
    have hvalue := hvalue arg rest
    cases hasks : row.type.asks arg with
    | none =>
      rw [hasks] at hvalue
      obtain ⟨r, hr⟩ := hvalue
      simp only [optionPass, hfind, hr]
      exact ⟨rfl, rfl, rfl, rfl⟩
    | some actions =>
      rw [hasks] at hvalue
      obtain ⟨d', rs, hr, hlog⟩ := hvalue
      simp only [optionPass, hfind, hr, OptionRow.handle, hnone]
      exact ⟨rfl, rfl, hlog, rfl, rfl⟩

/-- An option with a handler goes to the handler. -/
theorem optionPass_other {options : List (OptionRow o i l)} {row : OptionRow o i l}
    {name : String} (hfind : findOption name options = some row) (htype : row.type = .isOther)
    {h : OptionHandler o i l} (hhandler : row.handler = some h) (args : List String)
    (d : Draft o i l) (w : SetWorld) (reports : List Report) :
    optionPass options ⟨name :: args, d, w, reports⟩ =
      ((h args d w).nArgs.isSome, SetState.after ⟨args, d, w, reports⟩ (h args d w)) := by
  simp only [optionPass, hfind, OptionRow.switch, htype, OptionRow.handle, hhandler,
    SetState.after, List.append_nil]

/-- A pass over an option that has a handler, in terms of what the option asks for. -/
theorem optionPass_handled {options : List (OptionRow o i l)} {row : OptionRow o i l}
    {name : String} {svc : InterfaceServices} {m : Meaning} {h : OptionHandler o i l}
    (hfind : findOption name options = some row) (htype : row.type = .isOther)
    (hhandler : row.handler = some h) (hasks : OptionHandler.Asks svc m h) (d : Draft o i l)
    (w : SetWorld) (reports : List Report) :
    PassAsks w d.log [] none (optionPass options ⟨[name], d, w, reports⟩) ∧
      ∀ arg rest, PassAsks w d.log rest
        (m.asks svc (fun log => (replay o i l log).2) d.log arg)
        (optionPass options ⟨name :: arg :: rest, d, w, reports⟩) := by
  constructor
  · have hleaves := hasks.missing d w
    rw [optionPass_other hfind htype hhandler]
    exact ⟨by rw [hleaves.nArgs]; rfl, hleaves.log, hleaves.ipsec, hleaves.qos⟩
  · intro arg rest
    have hleaves := hasks.value arg rest d w
    rw [optionPass_other hfind htype hhandler]
    cases hm : m.asks svc (fun log => (replay o i l log).2) d.log arg with
    | none =>
      rw [hm] at hleaves
      exact ⟨by rw [hleaves.nArgs]; rfl, hleaves.log, hleaves.ipsec, hleaves.qos⟩
    | some actions =>
      rw [hm] at hleaves
      refine ⟨by rw [hleaves.nArgs]; rfl, ?_, hleaves.log, hleaves.ipsec, hleaves.qos⟩
      rw [SetState.after, hleaves.nArgs]
      rfl

section OptionsRead

variable {meaning : String → Option Meaning} {asks : History → String → Meaning → Option History}
  {name : String} {log : History}

/-- An unknown option ends the reading. -/
theorem readOptions_unknown (h : meaning name = none) (args : List String) :
    readOptions meaning asks (name :: args) log = ⟨log, true, none⟩ := by
  rw [readOptions.eq_def]
  simp only [h]

/-- So does an option without a value. -/
theorem readOptions_missing {m : Meaning} (h : meaning name = some m) :
    readOptions meaning asks [name] log = ⟨log, true, none⟩ := by
  rw [readOptions.eq_def]
  simp only [h]

/-- An option with a value that it takes asks for something, and the reading goes on. -/
theorem readOptions_value {m : Meaning} (h : meaning name = some m) (hlist : ∀ kind, m ≠ .list kind)
    (arg : String) (rest : List String) :
    readOptions meaning asks (name :: arg :: rest) log =
      match asks log arg m with
      | none => ⟨log, true, none⟩
      | some actions => readOptions meaning asks rest (actions ++ log) := by
  cases m with
  | list kind => exact absurd rfl (hlist kind)
  | _ =>
    rw [readOptions.eq_def]
    cases hasks : asks log arg _ <;> simp only [h, hasks]

/-- An option that starts a list gives everything behind it to the list. -/
theorem readOptions_list {kind : OptionList} (h : meaning name = some (.list kind)) (arg : String)
    (rest : List String) :
    readOptions meaning asks (name :: arg :: rest) log =
      ⟨log, false, some (kind, arg :: rest)⟩ := by
  rw [readOptions.eq_def]
  simp only [h]

end OptionsRead

/-- What the rest of the list asks for is asked after a turn. -/
theorem LoopAsks.of_leaves {svc : InterfaceServices} {w w' : SetWorld} {r : OptionsRead}
    {out : Bool × SetState o i l} (hi : w'.ipsec = w.ipsec) (hq : w'.qos = w.qos)
    (h : LoopAsks svc w' r out) : LoopAsks svc w r out := by
  unfold LoopAsks at h ⊢
  split at h
  · obtain ⟨hout, hlog, hipsec, hqos⟩ := h
    exact ⟨hout, hlog, hipsec.trans hi, hqos.trans hq⟩
  · obtain ⟨s, hargs, ⟨hlog, hipsec, hqos⟩, hout⟩ := h
    exact ⟨s, hargs, ⟨hlog, hipsec.trans hi, hqos.trans hq⟩, hout⟩

theorem Meaning.help_ne_list (kind : OptionList) : Meaning.help ≠ .list kind := by
  intro h
  cases h

theorem Meaning.plain_ne_list (type : OptionType) (kind : OptionList) :
    Meaning.plain type ≠ .list kind := by
  intro h
  cases h

/-- **The loop** does what its list of options asks for, by induction on the arguments. -/
theorem optionLoop_asks {svc : InterfaceServices} {options : List (OptionRow o i l)}
    {meaning : String → Option Meaning} (htable : TableAsks svc options meaning) :
    ∀ (fuel : Nat) (s : SetState o i l), s.args.length ≤ fuel →
      LoopAsks svc s.world
        (readOptions meaning (Meaning.asks svc fun log => (replay o i l log).2) s.args
          s.draft.log) (optionLoop options fuel s) := by
  intro fuel
  induction fuel with
  | zero =>
    rintro ⟨args, d, w, reports⟩ hfuel
    obtain rfl := List.length_eq_zero_iff.mp (Nat.le_zero.mp hfuel)
    exact ⟨rfl, rfl, rfl, rfl⟩
  | succ fuel ih =>
    rintro ⟨args, d, w, reports⟩ hfuel
    cases args with
    | nil =>
      rw [optionLoop_nil (fuel + 1) rfl]
      exact ⟨rfl, rfl, rfl, rfl⟩
    | cons name args =>
      -- an option that fails, and an option with a value
      have hfails : ∀ {out : Bool × SetState o i l},
          PassAsks w d.log [] none out → optionPass options ⟨name :: args, d, w, reports⟩ = out →
          LoopAsks svc w ⟨d.log, true, none⟩
            (optionLoop options (fuel + 1) ⟨name :: args, d, w, reports⟩) := by
        rintro out ⟨hfalse, hleaves⟩ rfl
        rw [optionLoop_of_false fuel (List.cons_ne_nil _ _) hfalse]
        exact ⟨hfalse, hleaves⟩
      have hgoes : ∀ {actions : History} {rest : List String}, rest.length ≤ fuel →
          PassAsks w d.log rest (some actions) (optionPass options ⟨name :: args, d, w, reports⟩) →
          LoopAsks svc w
            (readOptions meaning (Meaning.asks svc fun log => (replay o i l log).2) rest
              (actions ++ d.log))
            (optionLoop options (fuel + 1) ⟨name :: args, d, w, reports⟩) := by
        rintro actions rest hrest ⟨htrue, hargs, hleaves⟩
        rw [optionLoop_of_true fuel (List.cons_ne_nil _ _) htrue]
        have hloop := ih (optionPass options ⟨name :: args, d, w, reports⟩).2 (by rwa [hargs])
        rw [hargs, hleaves.log] at hloop
        exact hloop.of_leaves hleaves.ipsec hleaves.qos
      have hvalue : ∀ {m : Meaning}, meaning name = some m → (∀ kind, m ≠ .list kind) →
          PassAsks w d.log [] none (optionPass options ⟨[name], d, w, reports⟩) ∧
            (∀ arg rest, PassAsks w d.log rest
              (m.asks svc (fun log => (replay o i l log).2) d.log arg)
              (optionPass options ⟨name :: arg :: rest, d, w, reports⟩)) →
          LoopAsks svc w
            (readOptions meaning (Meaning.asks svc fun log => (replay o i l log).2) (name :: args)
              d.log)
            (optionLoop options (fuel + 1) ⟨name :: args, d, w, reports⟩) := by
        rintro m hm hlist ⟨hmissing, hpass⟩
        cases args with
        | nil =>
          rw [readOptions_missing hm]
          exact hfails hmissing rfl
        | cons arg rest =>
          rw [readOptions_value hm hlist]
          have hpass := hpass arg rest
          cases hasks : m.asks svc (fun log => (replay o i l log).2) d.log arg with
          | none =>
            rw [hasks] at hpass
            exact hfails hpass rfl
          | some actions =>
            rw [hasks] at hpass
            refine hgoes ?_ hpass
            simp only [List.length_cons] at hfuel
            omega
      have hname := htable name
      cases hfind : findOption name options with
      | none =>
        rw [hfind] at hname
        dsimp only
        rw [readOptions_unknown hname]
        refine hfails ⟨?_, ?_⟩ rfl
        · simp only [optionPass, hfind]
        · simp only [optionPass, hfind]
          exact ⟨rfl, rfl, rfl⟩
      | some row =>
        rw [hfind] at hname
        obtain ⟨m, hm, hrow⟩ := hname
        cases hrow with
        | help htype =>
          have hpass : PassAsks w d.log [] none
              (optionPass options ⟨name :: args, d, w, reports⟩) := by
            simp only [optionPass, hfind, OptionRow.switch, htype]
            exact ⟨rfl, rfl, rfl, rfl⟩
          cases args with
          | nil =>
            rw [readOptions_missing hm]
            exact hfails hpass rfl
          | cons arg rest =>
            rw [readOptions_value hm Meaning.help_ne_list]
            exact hfails hpass rfl
        | plain hother hhelp hnone =>
          exact hvalue hm (Meaning.plain_ne_list row.type)
            (optionPass_plain hfind hother hhelp hnone d w reports)
        | handled m h htype hhandler hlist hasks =>
          exact hvalue hm hlist (optionPass_handled hfind htype hhandler hasks d w reports)
        | list kind htype hhandler =>
          have hpass := optionPass_other hfind htype hhandler args d w reports
          cases args with
          | nil =>
            rw [readOptions_missing hm]
            refine hfails ⟨?_, ?_⟩ hpass
            · cases kind <;> rfl
            · cases kind <;> exact ⟨rfl, rfl, rfl⟩
          | cons arg rest =>
            rw [readOptions_list hm]
            refine ⟨⟨arg :: rest, d, w, reports⟩, rfl, ⟨rfl, rfl, rfl⟩, ?_⟩
            obtain hn | hn := listHandler_nArgs svc kind (arg :: rest) d w
            · rw [optionLoop_of_false fuel (List.cons_ne_nil _ _) (by rw [hpass, hn]; rfl), hpass]
            · rw [optionLoop_of_true fuel (List.cons_ne_nil _ _) (by rw [hpass, hn]; rfl), hpass,
                optionLoop_nil fuel (by simp [SetState.after, hn]), hn]
              rfl

/-! ## The tables -/

/-- A table is about what its options mean if the rows that edit a key have no handler, and the
others have the one of their meaning. -/
theorem tableAsks_of {svc : InterfaceServices} {options : List (OptionRow o i l)}
    {entries : List (String × OptionType)} {handled : List (String × Meaning)}
    (hentries : options.map OptionRow.entry = entries)
    (hplain : ∀ row ∈ options, row.type ≠ .isOther → row.handler = none)
    (hother : ∀ row ∈ options, row.type = .isOther →
      ∃ m, handled.lookup row.option = some m ∧ RowAsks svc row m) :
    TableAsks svc options (meaningIn entries handled) := by
  intro name
  have hfind : entries.find? (fun e => strcasecmp name e.1) =
      (findOption name options).map OptionRow.entry := by
    rw [← hentries, List.find?_map]
    rfl
  cases hrow : findOption name options with
  | none => simp [meaningIn, hfind, hrow]
  | some row =>
    have hmem : row ∈ options := List.mem_of_find?_eq_some hrow
    rw [hrow, Option.map_some, OptionRow.entry] at hfind
    dsimp only
    rw [meaningIn, hfind, Option.map_some]
    dsimp only
    by_cases htype : row.type = .isOther
    · obtain ⟨m, hm, hasks⟩ := hother row hmem htype
      rw [htype, hm]
      exact ⟨m, rfl, hasks⟩
    · by_cases hhelp : row.type = .isHelp
      · rw [hhelp]
        exact ⟨.help, rfl, .help hhelp⟩
      · refine ⟨.plain row.type, ?_, .plain htype hhelp (hplain row hmem htype)⟩
        split
        · next h => exact absurd h htype
        · next h => exact absurd h hhelp
        · rfl

section Tables

variable (svc : InterfaceServices)

/-- The rows that several tables have. -/
theorem rowAsks_capability (name : String) (key : PropertyKey) :
    RowAsks svc (⟨name, none, .isOther, some (doCapability svc key none)⟩ : OptionRow o i l)
      (.capability key) :=
  .handled _ _ rfl rfl (fun _ h => nomatch h) (doCapability_asks svc key none)

theorem rowAsks_rank (hname : svc.bsdName ≠ none) (name : String) :
    RowAsks svc (⟨name, none, .isOther, some (doRank svc none)⟩ : OptionRow o i l) .rank :=
  .handled _ _ rfl rfl (fun _ h => nomatch h) (doRank_asks svc hname none)

theorem rowAsks_domains (name : String) (key : PropertyKey) :
    RowAsks svc (⟨name, some "domain", .isOther, some (doOnDemandDomains key)⟩ : OptionRow o i l)
      (.domains key) :=
  .handled _ _ rfl rfl (fun _ h => nomatch h) (doOnDemandDomains_asks svc key)

theorem rowAsks_sharedSecret (name : String) (key : PropertyKey) :
    RowAsks svc (⟨name, none, .isOther, some (doIPSecSharedSecret svc key)⟩ : OptionRow o i l)
      (.password .kSCPropNetIPSecSharedSecretEncryption .ipsecSharedSecret key) :=
  .handled _ _ rfl rfl (fun _ h => nomatch h) (doPassword_asks svc (by exact ⟨rfl, rfl, rfl⟩) key)

theorem rowAsks_sharedSecretType (name : String) (key : PropertyKey) :
    RowAsks svc (⟨name, none, .isOther, some (doIPSecSharedSecretType key)⟩ : OptionRow o i l)
      (.passwordType .kSCPropNetIPSecSharedSecret [("keychain", "Keychain")] key) :=
  .handled _ _ rfl rfl (fun _ h => nomatch h) (doPasswordType_asks svc _ _ _ _ key)

/-- The tables, one after the other: what the reading says of an option is what its row does. -/
theorem qosOptions_asks : TableAsks svc (qosOptions : List (OptionRow o i l)) qosMeaning :=
  tableAsks_of rfl (by simp [qosOptions]) (by simp [qosOptions])

theorem bondOptions_asks : TableAsks svc (bondOptions : List (OptionRow o i l)) bondMeaning :=
  tableAsks_of rfl (by simp [bondOptions]) (by simp [bondOptions])

theorem bridgeOptions_asks :
    TableAsks svc (bridgeOptions : List (OptionRow o i l)) bridgeMeaning :=
  tableAsks_of rfl (by simp [bridgeOptions]) (by simp [bridgeOptions])

theorem firewireOptions_asks :
    TableAsks svc (firewireOptions : List (OptionRow o i l)) firewireMeaning :=
  tableAsks_of rfl (by simp [firewireOptions]) (by simp [firewireOptions])

theorem modemOptions_asks : TableAsks svc (modemOptions : List (OptionRow o i l)) modemMeaning :=
  tableAsks_of rfl (by simp [modemOptions]) (by simp [modemOptions])

theorem onDemandOptions_asks :
    TableAsks svc (ipsecOnDemandOptions : List (OptionRow o i l)) onDemandMeaning :=
  tableAsks_of rfl (by simp [ipsecOnDemandOptions])
    (by simp [ipsecOnDemandOptions, List.lookup, rowAsks_domains])

theorem airportOptions_asks (hname : svc.bsdName ≠ none) :
    TableAsks svc (airportOptions svc : List (OptionRow o i l)) (airportMeaning svc) := by
  have hqos : RowAsks svc (⟨"qos", none, .isOther, some (doQoSMarking svc)⟩ : OptionRow o i l)
      (.list .qos) := .list .qos rfl rfl
  exact tableAsks_of rfl (by simp [airportOptions])
    (by simp [airportOptions, List.lookup, rowAsks_rank svc hname, hqos])

theorem ethernetOptions_asks (hname : svc.bsdName ≠ none) :
    TableAsks svc (ethernetOptions svc : List (OptionRow o i l)) (ethernetMeaning svc) := by
  have hqos : RowAsks svc (⟨"qos", none, .isOther, some (doQoSMarking svc)⟩ : OptionRow o i l)
      (.list .qos) := .list .qos rfl rfl
  exact tableAsks_of rfl (by simp [ethernetOptions])
    (by simp [ethernetOptions, List.lookup, rowAsks_rank svc hname, rowAsks_capability, hqos])

theorem l2tpIPSecOptions_asks :
    TableAsks svc (l2tpIPSecOptions svc : List (OptionRow o i l)) (l2tpIPSecMeaning svc) :=
  tableAsks_of rfl (by simp [l2tpIPSecOptions])
    (by simp [l2tpIPSecOptions, sharedSecretMeanings, List.lookup, rowAsks_sharedSecret,
      rowAsks_sharedSecretType])

theorem ipsecOptions_asks :
    TableAsks svc (ipsecOptions svc : List (OptionRow o i l)) (ipsecMeaning svc) := by
  have hxauth : ∀ name key,
      RowAsks svc (⟨name, none, .isOther, some (doIPSecXAuthPassword svc key)⟩ : OptionRow o i l)
        (.password .kSCPropNetIPSecXAuthPasswordEncryption .ipsecXAuth key) := fun _ key =>
    .handled _ _ rfl rfl (fun _ h => nomatch h) (doPassword_asks svc (by exact ⟨rfl, rfl, rfl⟩) key)
  have hxtype : ∀ name key,
      RowAsks svc (⟨name, none, .isOther, some (doIPSecXAuthPasswordType key)⟩ : OptionRow o i l)
        (.passwordType .kSCPropNetIPSecXAuthPassword [("keychain", "Keychain")] key) :=
    fun _ key => .handled _ _ rfl rfl (fun _ h => nomatch h) (doPasswordType_asks svc _ _ _ _ key)
  have hlist : RowAsks svc
      (⟨"OnDemandMatch", none, .isOther, some doIPSecOnDemandMatch⟩ : OptionRow o i l)
      (.list .onDemand) := .list .onDemand rfl rfl
  exact tableAsks_of rfl (by simp [ipsecOptions])
    (by simp [ipsecOptions, sharedSecretMeanings, List.lookup, rowAsks_sharedSecret,
      rowAsks_sharedSecretType, hxauth, hxtype, hlist])

theorem pppOptions_asks :
    TableAsks svc (pppOptions svc : List (OptionRow o i l)) (pppMeaning svc) := by
  have hpassword : ∀ name key,
      RowAsks svc (⟨name, some "password", .isOther, some (doPPPAuthPW svc key)⟩ : OptionRow o i l)
        (.password .kSCPropNetPPPAuthPasswordEncryption .ppp key) := fun _ key =>
    .handled _ _ rfl rfl (fun _ h => nomatch h) (doPassword_asks svc (by exact ⟨rfl, rfl, rfl⟩) key)
  have htype : ∀ name key,
      RowAsks svc (⟨name, some "type", .isOther, some (doPPPAuthPWType key)⟩ : OptionRow o i l)
        (.passwordType .kSCPropNetPPPAuthPassword [("keychain", "Keychain")] key) :=
    fun _ key => .handled _ _ rfl rfl (fun _ h => nomatch h) (doPasswordType_asks svc _ _ _ _ key)
  have hlist : RowAsks svc (⟨"IPSec", none, .isOther, some (doPPPIPSec svc)⟩ : OptionRow o i l)
      (.list .ipsec) := .list .ipsec rfl rfl
  exact tableAsks_of rfl (by simp [pppOptions])
    (by simp [pppOptions, List.lookup, hpassword, htype, hlist])

theorem vpnOptions_asks :
    TableAsks svc (vpnOptions svc : List (OptionRow o i l)) (vpnMeaning svc) := by
  have hpassword : ∀ name key,
      RowAsks svc (⟨name, some "password", .isOther, some (doVPNAuthPW svc key)⟩ : OptionRow o i l)
        (.password .kSCPropNetVPNAuthPasswordEncryption .vpn key) := fun _ key =>
    .handled _ _ rfl rfl (fun _ h => nomatch h) (doPassword_asks svc (by exact ⟨rfl, rfl, rfl⟩) key)
  have htype : ∀ name key,
      RowAsks svc (⟨name, some "type", .isOther, some (doVPNAuthPWType key)⟩ : OptionRow o i l)
        (.passwordType .kSCPropNetVPNAuthPassword
          [("keychain", "Keychain"), ("prompt", "Prompt")] key) :=
    fun _ key => .handled _ _ rfl rfl (fun _ h => nomatch h) (doPasswordType_asks svc _ _ _ _ key)
  exact tableAsks_of rfl (by simp [vpnOptions])
    (by simp [vpnOptions, List.lookup, hpassword, htype])

end Tables

/-! ## Lists that take up the rest -/

theorem readOptions_list_ne_nil {meaning : String → Option Meaning}
    {asks : History → String → Meaning → Option History} {args rest : List String}
    {log : History} {kind : OptionList}
    (h : (readOptions meaning asks args log).list = some (kind, rest)) : rest ≠ [] := by
  fun_induction readOptions meaning asks args log with
  | case1 | case2 | case3 | case5 => cases h
  | case4 name log kind args hargs hm =>
    obtain ⟨-, rfl⟩ := Prod.mk.inj (Option.some.inj h)
    exact hargs
  | case6 name log m arg rest hlist hm actions hasks ih => exact ih h

/-- A table without such lists reads to the end. -/
theorem readOptions_flat {entries : List (String × OptionType)}
    {handled : List (String × Meaning)} (hflat : ∀ e ∈ handled, ∀ kind, e.2 ≠ .list kind)
    (asks : History → String → Meaning → Option History) (args : List String) (log : History) :
    (readOptions (meaningIn entries handled) asks args log).list = none := by
  have hmeaning : ∀ name kind, meaningIn entries handled name ≠ some (.list kind) := by
    intro name kind h
    obtain ⟨e, -, he⟩ := Option.map_eq_some_iff.mp h
    split at he
    · cases hlookup : handled.lookup e.1 with
      | none => rw [hlookup] at he; cases he
      | some m =>
        rw [hlookup] at he
        obtain ⟨before, after, rfl, -⟩ := List.lookup_eq_some_iff.mp hlookup
        exact hflat _ (List.mem_append_right _ List.mem_cons_self) kind he
    · cases he
    · cases he
  fun_induction readOptions (meaningIn entries handled) asks args log with
  | case1 | case2 | case3 | case5 => rfl
  | case4 name log kind args hargs hm => exact absurd hm (hmeaning name kind)
  | case6 name log m arg rest hlist hm actions hasks ih => exact ih

/-- The loop over a table without such lists. -/
theorem processOptions_flat {svc : InterfaceServices} {options : List (OptionRow o i l)}
    {entries : List (String × OptionType)} {handled : List (String × Meaning)}
    (htable : TableAsks svc options (meaningIn entries handled))
    (hflat : ∀ e ∈ handled, ∀ kind, e.2 ≠ .list kind) (args : List String) (d : Draft o i l)
    (w : SetWorld) :
    let r := readOptions (meaningIn entries handled)
      (Meaning.asks svc fun log => (replay o i l log).2) args d.log
    (processOptions options args d w).1 = !r.stops ∧
      (processOptions options args d w).2.Leaves w r.log := by
  have hloop := optionLoop_asks htable args.length ⟨args, d, w, []⟩ le_rfl
  rw [LoopAsks, readOptions_flat hflat] at hloop
  exact hloop

/-- The domains of `OnDemandMatch` are edits of the same copy. -/
theorem doIPSecOnDemandMatch_asks (svc : InterfaceServices) {args : List String}
    (hargs : args ≠ []) (d : Draft o i l) (w : SetWorld) :
    (doIPSecOnDemandMatch args d w).nArgs = some args.length ∧
      (doIPSecOnDemandMatch args d w).Leaves w (some args.length)
        (readOptions onDemandMeaning (Meaning.asks svc fun log => (replay o i l log).2) args
          d.log).log := by
  obtain ⟨arg, rest, rfl⟩ := List.exists_cons_of_ne_nil hargs
  obtain ⟨-, hleaves⟩ := processOptions_flat (onDemandOptions_asks (o := o) (i := i) (l := l) svc)
    (by simp) (arg :: rest) d w
  exact ⟨rfl, rfl, hleaves.log, hleaves.ipsec, hleaves.qos⟩

/-- What `finish` makes of a list of options. -/
theorem finish_session {setter : CFConfiguration → Option StoreError} (noKey : String)
    {out : Bool × SetState o i l} {stops : Bool} {log : History} (hout : out.1 = !stops)
    (hlog : out.2.draft.log = log) :
    (finish setter noKey out).session =
      ⟨o, i, l, .ofLog log, !stops, (setter (replay o i l log).2).isNone⟩ := by
  obtain ⟨accepted, s⟩ := out
  obtain rfl : accepted = !stops := hout
  subst hlog
  rw [finish]
  dsimp only
  rw [← s.draft.eq_ofLog, ← s.draft.pending_eq]

/-- The list of `qos` edits a copy of the QoS marking policy. -/
theorem doQoSMarking_asks (svc : InterfaceServices) (hname : svc.bsdName ≠ none)
    {args : List String} (hargs : args ≠ []) (d : Draft o i l) {w : SetWorld}
    {qos : CFConfiguration} (hqos : w.qos = .idle qos) :
    (doQoSMarking svc args d w).nArgs.isSome = true ∧ (doQoSMarking svc args d w).draft = d ∧
      (doQoSMarking svc args d w).world.ipsec = w.ipsec ∧
      (doQoSMarking svc args d w).world.qos =
        (readOptions qosMeaning (Meaning.asks svc (copyAfter qos id)) args []).session qos id
          svc.setQoSMarkingPolicy := by
  obtain ⟨arg, rest, rfl⟩ := List.exists_cons_of_ne_nil hargs
  have hfound : w.qos.result = qos := by rw [hqos, Session.result_idle]
  rw [doQoSMarking, if_neg (by simpa using hname), hfound]
  obtain ⟨hout, hleaves⟩ := processOptions_flat
    (qosOptions_asks (o := qos) (i := editCopy qos) (l := id) svc) (by simp) (arg :: rest)
    .start w
  refine ⟨rfl, rfl, hleaves.ipsec, ?_⟩
  dsimp only
  rw [finish_session _ hout hleaves.log]
  rfl

/-- The list of `IPSec` edits a copy of the extended configuration. -/
theorem doPPPIPSec_asks (svc : InterfaceServices)
    (hchild : svc.childType = some kSCNetworkInterfaceTypeL2TP) {args : List String}
    (hargs : args ≠ []) (d : Draft o i l) {w : SetWorld} {ipsec : CFConfiguration}
    (hipsec : w.ipsec = .idle ipsec) :
    (doPPPIPSec svc args d w).nArgs.isSome = true ∧ (doPPPIPSec svc args d w).draft = d ∧
      (doPPPIPSec svc args d w).world.qos = w.qos ∧
      (doPPPIPSec svc args d w).world.ipsec =
        (readOptions (l2tpIPSecMeaning svc)
          (Meaning.asks svc (copyAfter ipsec fun _ => d.stored)) args []).session ipsec
          (fun _ => d.stored) svc.setExtendedConfiguration := by
  obtain ⟨arg, rest, rfl⟩ := List.exists_cons_of_ne_nil hargs
  have hfound : w.ipsec.result = ipsec := by rw [hipsec, Session.result_idle]
  rw [doPPPIPSec, if_neg (not_not.mpr hchild), hfound]
  obtain ⟨hout, hleaves⟩ := processOptions_flat
    (l2tpIPSecOptions_asks (o := ipsec) (i := editCopy ipsec) (l := fun _ => d.stored) svc)
    (by simp [sharedSecretMeanings]) (arg :: rest) .start w
  refine ⟨rfl, rfl, hleaves.qos, ?_⟩
  dsimp only
  rw [finish_session _ hout hleaves.log]
  rfl

/-! ## The command -/

section Command

variable {configuration ipsec qos : CFConfiguration}

/-- A command has done what it was asked. -/
structure Asked.Done (svc : InterfaceServices) (ipsec qos : CFConfiguration) (a : Asked)
    (out : Bool × SetState configuration (editCopy configuration) id) : Prop where
  accepted : out.1 = !a.stops
  draft : out.2.draft = (Draft.ofLog a.own).putAll a.media
  ipsec : out.2.world.ipsec = a.ipsecSession configuration svc ipsec
  qos : out.2.world.qos = a.qosSession svc qos

/-- The loop over the options of a command. -/
theorem LoopAsks.done {svc : InterfaceServices} {w : SetWorld} (hi : w.ipsec = .idle ipsec)
    (hq : w.qos = .idle qos) {r : OptionsRead}
    (hrest : ∀ kind rest, r.list = some (kind, rest) → rest ≠ [])
    {out : Bool × SetState configuration (editCopy configuration) id}
    (h : LoopAsks svc w r out) :
    (r.asked svc configuration ipsec qos).Done svc ipsec qos out := by
  unfold LoopAsks at h
  cases hlist : r.list with
  | none =>
    rw [hlist] at h
    obtain ⟨hout, hlog, hipsec, hqos⟩ := h
    rw [OptionsRead.asked, hlist]
    exact ⟨hout, by rw [out.2.draft.eq_ofLog, hlog]; rfl, hipsec.trans hi, hqos.trans hq⟩
  | some entry =>
    -- the handler of a list gets all that is left
    obtain ⟨kind, rest⟩ := entry
    have hne := hrest kind rest hlist
    rw [hlist] at h
    obtain ⟨s, -, ⟨hlog, hipsec, hqos⟩, rfl⟩ := h
    have hi' := hipsec.trans hi
    have hq' := hqos.trans hq
    rw [OptionsRead.asked, hlist]
    cases kind with
    | onDemand =>
      obtain ⟨-, hleaves⟩ := doIPSecOnDemandMatch_asks svc hne s.draft s.world
      rw [hlog] at hleaves
      refine ⟨?_, ?_, hleaves.ipsec.trans hi', hleaves.qos.trans hq'⟩
      · exact congrArg Option.isSome hleaves.nArgs
      · exact (Draft.eq_ofLog _).trans (congrArg Draft.ofLog hleaves.log)
    | qos =>
      dsimp only
      -- it refuses where there is no BSD name,
      by_cases hname : svc.bsdName = none
      · rw [if_pos (by rw [hname]; rfl)]
        obtain ⟨arg, args, rfl⟩ := List.exists_cons_of_ne_nil hne
        have hrefuses : doQoSMarking svc (arg :: args) s.draft s.world =
            .refuses s.draft s.world "no BSD interface\n" := by
          rw [doQoSMarking, if_pos (by rw [hname]; rfl)]
        rw [listHandler, hrefuses]
        exact ⟨rfl, (Draft.eq_ofLog _).trans (congrArg Draft.ofLog hlog), hi', hq'⟩
      · rw [if_neg (by simpa using hname)]
        obtain ⟨hok, hdraft, hworld, hsession⟩ := doQoSMarking_asks svc hname hne s.draft hq'
        exact ⟨hok, hdraft.trans ((Draft.eq_ofLog _).trans (congrArg Draft.ofLog hlog)),
          hworld.trans hi', hsession⟩
    | ipsec =>
      dsimp only
      -- and this one where the layer below is not L2TP
      by_cases hchild : svc.childType = some kSCNetworkInterfaceTypeL2TP
      · rw [if_pos hchild]
        obtain ⟨hok, hdraft, hworld, hsession⟩ := doPPPIPSec_asks svc hchild hne s.draft hi'
        rw [Draft.stored_eq, hlog] at hsession
        exact ⟨hok, hdraft.trans ((Draft.eq_ofLog _).trans (congrArg Draft.ofLog hlog)),
          hsession, hworld.trans hq'⟩
      · rw [if_neg hchild]
        obtain ⟨arg, args, rfl⟩ := List.exists_cons_of_ne_nil hne
        have hrefuses : doPPPIPSec svc (arg :: args) s.draft s.world =
            .refuses s.draft s.world "this interfaces configuration cannot be changed\n" := by
          rw [doPPPIPSec, if_pos hchild]
        rw [listHandler, hrefuses]
        exact ⟨rfl, (Draft.eq_ofLog _).trans (congrArg Draft.ofLog hlog), hi', hq'⟩

/-- What is checked of the media. -/
theorem validateMediaOptions_eq (svc : InterfaceServices)
    (d : Draft configuration (editCopy configuration) id) :
    (mediaValid svc d.pending = false ∧ ∃ text, validateMediaOptions svc d = .error text) ∨
      (mediaValid svc d.pending = true ∧
        validateMediaOptions svc d = .ok (d.putAll (mediaDefault d.pending))) := by
  unfold validateMediaOptions mediaValid mediaDefault
  cases hmtu : mtuRefused svc d.pending with
  | some text => exact Or.inl ⟨rfl, _, rfl⟩
  | none =>
    dsimp only
    cases hsubtype : d.pending.lookup .kSCPropNetEthernetMediaSubType with
    | none =>
      cases hoptions : d.pending.lookup .kSCPropNetEthernetMediaOptions with
      | none => exact Or.inr ⟨rfl, rfl⟩
      | some options => exact Or.inl ⟨rfl, _, rfl⟩
    | some subtype =>
      dsimp only
      by_cases hcopy : svc.copyMediaOptions = true
      swap
      · exact Or.inl ⟨by simp [hcopy], _, if_pos (by simpa using hcopy)⟩
      by_cases havailable : svc.mediaAvailable = true
      swap
      · refine Or.inl ⟨by simp [havailable], "", ?_⟩
        rw [if_neg (by simpa using hcopy), if_pos (by simpa using havailable)]
      rw [if_neg (by simpa using hcopy), if_neg (by simpa using havailable)]
      by_cases hmem : subtype ∈ svc.mediaSubTypes.getD []
      swap
      · exact Or.inl ⟨by simp [hmem], _, if_pos hmem⟩
      by_cases hconfig : (d.pending.lookup .kSCPropNetEthernetMediaOptions).getD (.strings []) ∈
          (svc.mediaSubTypeOptions subtype).getD []
      swap
      · refine Or.inl ⟨by simp [hconfig], ?_⟩
        rw [if_neg (not_not.mpr hmem), if_pos hconfig]
        exact ⟨_, rfl⟩
      refine Or.inr ⟨by simp [hcopy, havailable, hmem, hconfig], ?_⟩
      rw [if_neg (not_not.mpr hmem), if_neg (not_not.mpr hconfig)]
      cases hoptions : d.pending.lookup .kSCPropNetEthernetMediaOptions with
      | none => rfl
      | some options => rfl

/-- A command that is refused has asked for nothing. -/
theorem Asked.Done.refuse {svc : InterfaceServices} (args : List String) {w : SetWorld}
    (hi : w.ipsec = .idle ipsec) (hq : w.qos = .idle qos) (text : String) :
    Asked.refused.Done svc ipsec qos
      (SetState.refuse (⟨args, .start, w, []⟩ :
        SetState configuration (editCopy configuration) id) text) :=
  ⟨rfl, rfl, hi, hq⟩

theorem OptionsRead.asked_media (svc : InterfaceServices) (configuration ipsec qos : CFConfiguration)
    (r : OptionsRead) : (r.asked svc configuration ipsec qos).media = [] := by
  unfold OptionsRead.asked
  split <;> first | rfl | (split_ifs <;> rfl)

/-- The options of a table. -/
theorem processOptions_done {svc : InterfaceServices}
    {options : List (OptionRow configuration (editCopy configuration) id)}
    {meaning : String → Option Meaning} (htable : TableAsks svc options meaning)
    (args : List String) {w : SetWorld} (hi : w.ipsec = .idle ipsec) (hq : w.qos = .idle qos) :
    ((readOptions meaning (Meaning.asks svc (copyAfter configuration id)) args []).asked svc
        configuration ipsec qos).Done svc ipsec qos (processOptions options args .start w) :=
  LoopAsks.done hi hq (fun _ _ h => readOptions_list_ne_nil h)
    (optionLoop_asks htable args.length ⟨args, .start, w, []⟩ le_rfl)

/-- The media are checked when the options were accepted. -/
theorem Asked.Done.checkMedia {svc : InterfaceServices} (hname : svc.bsdName ≠ none)
    {options : List (OptionRow configuration (editCopy configuration) id)} {args : List String}
    {w : SetWorld} {a : Asked} (hmedia : a.media = [])
    (h : a.Done svc ipsec qos (processOptions options args .start w)) :
    (a.checkMedia svc configuration).Done svc ipsec qos
      (setInterfaceMedia svc options args .start w) := by
  rw [setInterfaceMedia, if_neg (by simpa using hname)]
  dsimp only
  generalize processOptions options args .start w = out at h ⊢
  have hpending : out.2.draft.pending = copyAfter configuration id a.own := by
    rw [h.draft, hmedia]
    rfl
  rw [Asked.checkMedia, ← hpending, h.accepted]
  cases hstops : a.stops with
  | true =>
    rw [if_pos rfl, if_neg (by decide)]
    exact h
  | false =>
    have hgo : (!false) = true := rfl
    rw [if_neg Bool.false_ne_true, if_pos hgo]
    obtain ⟨hvalid, text, hrun⟩ | ⟨hvalid, hrun⟩ := validateMediaOptions_eq svc out.2.draft
    · rw [hvalid, hrun, if_neg Bool.false_ne_true]
      exact ⟨rfl, h.draft, h.ipsec, h.qos⟩
    · rw [hvalid, hrun, if_pos rfl]
      refine ⟨rfl, ?_, h.ipsec, h.qos⟩
      show out.2.draft.putAll _ = _
      rw [h.draft, hmedia]
      rfl

/-- The options of an interface with media. -/
theorem askedOf_media {svc : InterfaceServices}
    {options : List (OptionRow configuration (editCopy configuration) id)}
    {meaning : String → Option Meaning}
    (htable : svc.bsdName ≠ none → TableAsks svc options meaning) (args : List String)
    {w : SetWorld} (hi : w.ipsec = .idle ipsec) (hq : w.qos = .idle qos) :
    (askedOf svc configuration ipsec qos args (some (true, meaning))).Done svc ipsec qos
      (setInterfaceMedia svc options args .start w) := by
  rw [askedOf]
  by_cases hname : svc.bsdName = none
  · have hnone : (true && svc.bsdName.isNone) = true := by rw [hname]; rfl
    rw [if_pos hnone, setInterfaceMedia, if_pos (by rw [hname]; rfl)]
    exact .refuse args hi hq _
  · have hsome : ¬ (true && svc.bsdName.isNone) = true := by simpa using hname
    rw [if_neg hsome]
    exact (processOptions_done (htable hname) args hi hq).checkMedia hname
      (OptionsRead.asked_media svc _ _ _ _)

/-- The options of an interface without media. -/
theorem askedOf_plain {svc : InterfaceServices}
    {options : List (OptionRow configuration (editCopy configuration) id)}
    {meaning : String → Option Meaning} (htable : TableAsks svc options meaning)
    (args : List String) {w : SetWorld} (hi : w.ipsec = .idle ipsec) (hq : w.qos = .idle qos) :
    (askedOf svc configuration ipsec qos args (some (false, meaning))).Done svc ipsec qos
      (processOptions options args .start w) :=
  processOptions_done htable args hi hq

/-- The type of the interface decides on the options. -/
theorem askedOf_ite {svc : InterfaceServices} {args : List String} {type : Prop} [Decidable type]
    {meanings meanings' : Option (Bool × (String → Option Meaning))}
    {out out' : Bool × SetState configuration (editCopy configuration) id}
    (h : (askedOf svc configuration ipsec qos args meanings).Done svc ipsec qos out)
    (h' : (askedOf svc configuration ipsec qos args meanings').Done svc ipsec qos out') :
    (askedOf svc configuration ipsec qos args (if type then meanings else meanings')).Done svc
      ipsec qos (if type then out else out') := by
  split
  · exact h
  · exact h'

/-- Whatever the type of the interface, the options of a command do what they ask for. -/
theorem setInterfaceOptions_done (svc : InterfaceServices) {args : List String}
    (hargs : args ≠ []) {w : SetWorld} (hi : w.ipsec = .idle ipsec) (hq : w.qos = .idle qos) :
    (asked svc configuration ipsec qos args).Done svc ipsec qos
      (setInterfaceOptions svc args (.start : Draft configuration (editCopy configuration) id)
        w) := by
  rw [asked, if_neg hargs, interfaceMeaning, setInterfaceOptions]
  refine askedOf_ite (askedOf_media (ethernetOptions_asks svc) args hi hq) ?_
  refine askedOf_ite (askedOf_media (fun _ => firewireOptions_asks svc) args hi hq) ?_
  refine askedOf_ite (askedOf_plain (ipsecOptions_asks svc) args hi hq) ?_
  refine askedOf_ite (askedOf_plain (modemOptions_asks svc) args hi hq) ?_
  refine askedOf_ite (askedOf_media (airportOptions_asks svc) args hi hq) ?_
  refine askedOf_ite (askedOf_plain (pppOptions_asks svc) args hi hq) ?_
  refine askedOf_ite (askedOf_media (fun _ => bondOptions_asks svc) args hi hq) ?_
  refine askedOf_ite (askedOf_media (fun _ => bridgeOptions_asks svc) args hi hq) ?_
  refine askedOf_ite (Asked.Done.refuse args hi hq _) ?_
  exact askedOf_ite (askedOf_plain (vpnOptions_asks svc) args hi hq)
    (Asked.Done.refuse args hi hq _)

/-- A command has edited the three configurations as it was asked. -/
structure Finished.Does (svc : InterfaceServices) (configuration ipsec qos : CFConfiguration)
    (a : Asked) (f : Finished) : Prop where
  session : f.session = a.session configuration svc
  ipsec : f.world.ipsec = a.ipsecSession configuration svc ipsec
  qos : f.world.qos = a.qosSession svc qos

/-- `set interface` does what its arguments ask for. -/
theorem setInterface_does (svc : InterfaceServices) (configuration : CFConfiguration)
    {args : List String} (hargs : args ≠ []) (ipsec qos : CFConfiguration)
    (proxy : Option ProxyKeys) (changed : Bool) :
    (setInterface (some svc) configuration args (.start ipsec qos proxy changed)).Does svc
      configuration ipsec qos (asked svc configuration ipsec qos args) := by
  have h : (asked svc configuration ipsec qos args).Done svc ipsec qos
      (setInterfaceOptions svc args (.start : Draft configuration (editCopy configuration) id)
        (.start ipsec qos proxy changed)) := setInterfaceOptions_done svc hargs rfl rfl
  simp only [setInterface, if_neg hargs]
  refine ⟨?_, h.ipsec, h.qos⟩
  rw [finish, Asked.session, Asked.copy]
  dsimp only
  rw [h.accepted, h.draft, Draft.pending_putAll]
  rfl

end Command

/-! ## What is stored -/

theorem Asked.saved_session_iff (svc : InterfaceServices) (configuration : CFConfiguration)
    (a : Asked) :
    (a.session configuration svc).saved = true ↔
      CopyStored configuration (a.copy configuration) a.stops svc.setConfiguration := by
  rw [Session.saved_iff, Asked.session, Draft.pending_putAll]
  simp only [Bool.not_eq_true', Option.isNone_iff_eq_none]
  exact ⟨fun ⟨ha, hd, ht⟩ => ⟨ha, hd, ht⟩, fun ⟨ha, hd, ht⟩ => ⟨ha, hd, ht⟩⟩

theorem OptionsRead.saved_session_iff (found : CFConfiguration)
    (reload : CFConfiguration → CFConfiguration) (setter : CFConfiguration → Option StoreError)
    (r : OptionsRead) :
    (r.session found reload setter).saved = true ↔ r.Stored found reload setter := by
  rw [Session.saved_iff, OptionsRead.session]
  simp only [Bool.not_eq_true', Option.isNone_iff_eq_none]
  exact ⟨fun ⟨ha, hd, ht⟩ => ⟨ha, hd, ht⟩, fun ⟨ha, hd, ht⟩ => ⟨ha, hd, ht⟩⟩

/-- A configuration with a list of options, or nothing, of its own. -/
theorem OptionsRead.saved_getD_iff (found : CFConfiguration)
    (reload : CFConfiguration → CFConfiguration) (setter : CFConfiguration → Option StoreError)
    (list : Option OptionsRead) :
    ((list.map (OptionsRead.session found reload setter)).getD (.idle found)).saved = true ↔
      ∃ r ∈ list, r.Stored found reload setter := by
  cases list with
  | none => simp
  | some r => simpa using r.saved_session_iff found reload setter

theorem OptionsRead.stored_getD (found : CFConfiguration)
    (reload : CFConfiguration → CFConfiguration) (setter : CFConfiguration → Option StoreError)
    (list : Option OptionsRead) :
    ((list.map (OptionsRead.session found reload setter)).getD (.idle found)).draft.stored =
      writtenThrough found ((list.map OptionsRead.log).getD []) := by
  cases list with
  | none => rfl
  | some r => exact Draft.stored_eq (.ofLog r.log)

theorem OptionsRead.origin_getD (found : CFConfiguration)
    (reload : CFConfiguration → CFConfiguration) (setter : CFConfiguration → Option StoreError)
    (list : Option OptionsRead) :
    ((list.map (OptionsRead.session found reload setter)).getD (.idle found)).origin = found := by
  cases list <;> rfl

theorem Asked.stored_session (svc : InterfaceServices) (configuration : CFConfiguration)
    (a : Asked) :
    (a.session configuration svc).draft.stored = writtenThrough configuration a.own := by
  rw [Asked.session, Draft.stored_putAll, Draft.stored_eq]
  rfl

/-- A configuration whose copy is not stored is as the options that write through leave it. -/
theorem Session.result_of_not_saved {s : Session PropertyKey CFValue}
    (h : ¬ s.saved = true) : s.result = s.draft.stored := by
  rw [Session.result, if_neg h]

end ConfigdExtra
