import ConfigdExtra.NetSession
import ConfigdExtra.OptionChecks
import ConfigdExtra.ProtocolConsistency

/-!
# The selected proxy

`currentProxy` is kept from one command to the next, and the modifiers of a proxy read it.

* `ProxyReaction`, `NetState.proxyReaction` — what `set protocol` for proxies does in a state.
* `SelfContained` — it does so whatever was run before.
* `modifierReached` — a modifier comes before any proxy is selected.
* `optionLoop_agree` — otherwise the proxy selected before is not read.
* `selfContained_iff` — this is all that a command depends on.
-/

namespace ConfigdExtra

open DeferredEdits

variable {o i : CFConfiguration} {l : CFConfiguration → CFConfiguration}

/-! ## Reactions -/

/-- What a command does: whether it is accepted, the configuration that it leaves, and what it
prints. -/
structure ProxyReaction where
  accepted : Bool
  configuration : CFConfiguration
  reports : List Report

/-- `set_protocol_proxies` for a configuration -/
def proxyReaction (c : CFConfiguration) (args : List String) (w : SetWorld) : ProxyReaction :=
  let r := processOptions proxyOptions args (.start : Draft c (editCopy c) id) w
  ⟨r.1, if r.1 then r.2.draft.pending else c, r.2.reports⟩

section

variable {π ν ι : Type} (lib : NetLibrary π ι)

/-- The configurations of the selected protocol. -/
def NetState.protocolConfigurations (s : NetState π ν ι) : Option Configurations := do
  let d ← s.prefs
  let p ← s.selection.netProtocol
  return lib.configurations d.current (.protocol p)

/-- `set protocol` works on the configurations of the selected protocol. -/
theorem protocolConfigurations_eq {s : NetState π ν ι} {c : π} {p : ProtocolRef}
    (hprefs : s.prefs = some (.read c)) (hprotocol : s.selection.netProtocol = some p) :
    s.protocolConfigurations lib = some (lib.configurations c (.protocol p)) := by
  simp [NetState.protocolConfigurations, hprefs, hprotocol, FlaggedEdits.Document.read]

/-- What `set protocol` does in a state, where proxies are selected. -/
def NetState.proxyReaction (s : NetState π ν ι) (args : List String) : Option ProxyReaction :=
  (s.protocolConfigurations lib).map fun cs =>
    ConfigdExtra.proxyReaction cs.own args
      (.start cs.ipsec cs.qos s.currentProxy s.prefsChanged)

end

/-- A command does the same after any two runs that lead to a configuration. -/
def SelfContained (args : List String) (c : CFConfiguration) : Prop :=
  ∀ (π ν ι : Type) (lib : NetLibrary π ι) (before before' : List (NetCommand π ν ι)),
    ((netRun lib before).protocolConfigurations lib).map Configurations.own = some c →
    ((netRun lib before').protocolConfigurations lib).map Configurations.own = some c →
      (netRun lib before).proxyReaction lib args = (netRun lib before').proxyReaction lib args

/-! ## The kinds of options -/

/-- What an option of proxies is about. -/
inductive ProxyOptionKind where
  /-- a list of strings -/
  | list
  /-- a switch -/
  | switch
  /-- a proxy is selected -/
  | selector
  /-- the selected proxy is modified -/
  | modifier
  /-- the same, behind a switch -/
  | passive
  | help
  deriving DecidableEq

/-- The names of `proxyOptions`, with what they are about. -/
def proxyOptionKinds : List (String × ProxyOptionKind) :=
  [("ExceptionsList", .list), ("ExcludeSimpleHostnames", .switch), ("FTP", .selector),
    ("Gopher", .selector), ("HTTP", .selector), ("HTTPS", .selector), ("RTSP", .selector),
    ("SOCKS", .selector), ("TransportConverter", .selector), ("ProxyAutoConfig", .selector),
    (".pac", .selector), ("ProxyAutoDiscovery", .selector), ("WPAD", .selector),
    ("disable", .modifier), ("enable", .modifier), ("proxy", .modifier), ("host", .modifier),
    ("proxies", .modifier), ("hosts", .modifier), ("port", .modifier), ("url", .modifier),
    ("FTPPassive", .passive), ("passive", .passive), ("?", .help)]

/-- What an argument is about, as an option. -/
def proxyOptionKind (name : String) : Option ProxyOptionKind :=
  (proxyOptionKinds.find? fun e => strcasecmp name e.1).map Prod.snd

/-- A value of a switch. -/
def isSwitchValue (arg : String) : Bool := isDisable arg || isEnable arg || arg == ""

/-- A modifier is reached, and no proxy is selected in front of it. -/
def modifierReached : List String → Bool
  | [] => false
  | [name] => proxyOptionKind name = some .modifier
  | name :: value :: rest =>
    match proxyOptionKind name with
    | some .list => modifierReached rest
    | some .switch => isSwitchValue value && modifierReached rest
    | some .modifier => true
    | some .passive => isSwitchValue value
    | _ => false

/-- What is printed where no proxy is selected. -/
def proxyNotSpecified : String := "proxy not specified\n"

/-- A handler of a modifier refuses if no proxy is selected, and only then says so. -/
structure ModifiesProxy (h : OptionHandler o i l) : Prop where
  refuses : ∀ args d w, w.currentProxy = none → h args d w = .refuses d w proxyNotSpecified
  reports : ∀ args d w, ∀ q ∈ proxyTable, w.currentProxy = some q →
    ∀ r ∈ (h args d w).reports, r.text ≠ proxyNotSpecified
  world : ∀ args d w, (h args d w).world = w
  /-- nothing else of the world is read -/
  agrees : ∀ args d w w', w.currentProxy = w'.currentProxy →
    h args d w' = { h args d w with world := w' }

/-- An entry of the table is about a kind of options. -/
inductive OptionRow.IsKind (row : OptionRow o i l) : ProxyOptionKind → Prop where
  | list {key : PropertyKey} (htype : row.type = .isStringArray key)
      (hdescription : row.description = some "exceptions") (hhandler : row.handler = none) :
      IsKind row .list
  | switch {key : PropertyKey} (htype : row.type = .isBoolean key)
      (hdescription : row.description = none) (hhandler : row.handler = none) : IsKind row .switch
  | selector {proxy : ProxyKeys} (htype : row.type = .isOther) (hproxy : proxy ∈ proxyTable)
      (hhandler : row.handler = some (doProxySelect proxy)) : IsKind row .selector
  | modifier {h : OptionHandler o i l} (htype : row.type = .isOther) (hmodifies : ModifiesProxy h)
      (hhandler : row.handler = some h) : IsKind row .modifier
  | passive {key : PropertyKey} {h : OptionHandler o i l} (htype : row.type = .isBoolean key)
      (hdescription : row.description = none) (hmodifies : ModifiesProxy h)
      (hhandler : row.handler = some h) : IsKind row .passive
  | help (htype : row.type = .isHelp) : IsKind row .help

/-! ## The handlers -/

/-- The messages about a proxy. -/
def proxyMessages (q : ProxyKeys) : List String :=
  [q.proxy ++ " proxy option[s] not specified\n",
    q.proxy ++ " proxy cannot be " ++ "enabled" ++ "\n",
    q.proxy ++ " proxy cannot be " ++ "disabled" ++ "\n",
    q.proxy ++ " proxy " ++ "host" ++ " cannot be specified\n",
    q.proxy ++ " proxy " ++ "port" ++ " cannot be specified\n",
    q.proxy ++ " proxy " ++ "URL" ++ " cannot be specified\n", q.proxy ++ " proxy not enabled\n",
    q.proxy ++ " proxy " ++ "host" ++ " not specified\n",
    q.proxy ++ " proxy " ++ "port" ++ " not specified\n",
    q.proxy ++ " proxy " ++ "URL" ++ " not specified\n",
    "invalid " ++ q.proxy ++ " proxy port number\n", "",
    "passive can only be enable for FTP proxy\n"]

/-- The message that no proxy is selected is none of those that name one. -/
theorem ne_of_mem_proxyMessages {q : ProxyKeys} (hq : q ∈ proxyTable) {text : String}
    (htext : text ∈ proxyMessages q) : text ≠ proxyNotSpecified := by
  have hall : ∀ q ∈ proxyTable, ∀ text ∈ proxyMessages q, text ≠ proxyNotSpecified := by
    decide +kernel
  exact hall q hq text htext

/-- The handlers that change the selected proxy refuse where there is none. -/
theorem doProxyEnable_modifies (enabled : Bool) :
    ModifiesProxy (doProxyEnable enabled : OptionHandler o i l) where
  refuses args d w h := by simp [doProxyEnable, h, proxyNotSpecified]
  reports args d w q hq h r hr := by
    simp only [doProxyEnable, h] at hr
    cases henable : q.keyEnable with
    | none =>
      simp only [henable, Handled.refuses, List.mem_singleton] at hr
      subst hr
      refine ne_of_mem_proxyMessages hq ?_
      cases enabled <;> simp [Report.refused, proxyMessages]
    | some key =>
      simp only [henable, Handled.uses] at hr
      split at hr <;> cases hr
  world args d w := by
    simp only [doProxyEnable]
    split
    · rfl
    · split
      · rfl
      · split <;> rfl
  agrees args d w w' h := by
    simp only [doProxyEnable, h]
    split
    · rfl
    · split
      · rfl
      · split <;> rfl

theorem doProxyModifier_modifies {what : String} {keyOf : ProxyKeys → Option PropertyKey}
    {invalid : ProxyKeys → String} {value : ProxyKeys → String → Option CFValue}
    (hwhat : ∀ q, q.proxy ++ " proxy " ++ what ++ " cannot be specified\n" ∈ proxyMessages q ∧
      q.proxy ++ " proxy " ++ what ++ " not specified\n" ∈ proxyMessages q)
    (hinvalid : ∀ q, invalid q ∈ proxyMessages q) :
    ModifiesProxy (doProxyModifier what keyOf invalid value : OptionHandler o i l) where
  refuses args d w h := by simp [doProxyModifier, h, proxyNotSpecified]
  reports args d w q hq h r hr := by
    have hrefused : ∀ text ∈ proxyMessages q, r ∈ [Report.refused text] →
        r.text ≠ proxyNotSpecified := by
      rintro text htext hr
      rw [List.mem_singleton.mp hr]
      exact ne_of_mem_proxyMessages hq htext
    simp only [doProxyModifier, h] at hr
    split at hr
    · exact hrefused _ (hwhat q).1 hr
    · split at hr
      · exact hrefused _ (by simp [proxyMessages]) hr
      · split at hr
        · exact hrefused _ (hwhat q).2 hr
        · split at hr
          · cases hr
          · split at hr
            · cases hr
            · exact hrefused _ (hinvalid q) hr
  world args d w := by
    simp only [doProxyModifier]
    split
    · rfl
    · split
      · rfl
      · split
        · rfl
        · split
          · rfl
          · split
            · rfl
            · split <;> rfl
  agrees args d w w' h := by
    simp only [doProxyModifier, h]
    split
    · rfl
    · split
      · rfl
      · split
        · rfl
        · split
          · rfl
          · split
            · rfl
            · split <;> rfl

theorem doProxyFTPPassive_modifies : ModifiesProxy (doProxyFTPPassive : OptionHandler o i l) where
  refuses args d w h := by simp [doProxyFTPPassive, h, proxyNotSpecified]
  reports args d w q hq h r hr := by
    simp only [doProxyFTPPassive, h] at hr
    split at hr
    · cases hr
    · rw [List.mem_singleton.mp hr]
      exact ne_of_mem_proxyMessages hq (by simp [Report.refused, proxyMessages])
  world args d w := by
    simp only [doProxyFTPPassive]
    split
    · rfl
    · split <;> rfl
  agrees args d w w' h := by
    simp only [doProxyFTPPassive, h]
    split
    · rfl
    · split <;> rfl

/-- The entries of the table are about what their names are. -/
theorem proxyOptions_kinds :
    List.Forall₂ (fun (row : OptionRow o i l) (e : String × ProxyOptionKind) =>
      row.option = e.1 ∧ row.IsKind e.2) proxyOptions proxyOptionKinds := by
  have hselect : ∀ proxy ∈ proxyTable, ∀ name : String,
      OptionRow.IsKind ⟨name, none, .isOther, some (doProxySelect proxy : OptionHandler o i l)⟩
        .selector := fun proxy hproxy name => .selector rfl hproxy rfl
  simp only [proxyTable, List.forall_mem_cons] at hselect
  have hmodify : ∀ {name : String} {h : OptionHandler o i l}, ModifiesProxy h →
      OptionRow.IsKind ⟨name, none, .isOther, some h⟩ .modifier := fun h => .modifier rfl h rfl
  have hhost : ModifiesProxy (doProxyHost : OptionHandler o i l) :=
    doProxyModifier_modifies (fun q => by simp [proxyMessages]) fun q => by simp [proxyMessages]
  have hport : ModifiesProxy (doProxyPort : OptionHandler o i l) :=
    doProxyModifier_modifies (fun q => by simp [proxyMessages]) fun q => by simp [proxyMessages]
  have hurl : ModifiesProxy (doProxyURL : OptionHandler o i l) :=
    doProxyModifier_modifies (fun q => by simp [proxyMessages]) fun q => by simp [proxyMessages]
  have hpassive : ∀ {name : String} {key : PropertyKey}, OptionRow.IsKind
      ⟨name, none, .isBoolean key, some (doProxyFTPPassive : OptionHandler o i l)⟩ .passive :=
    .passive rfl rfl doProxyFTPPassive_modifies rfl
  have hlist : ∀ {name : String} {key : PropertyKey}, OptionRow.IsKind
      (⟨name, some "exceptions", .isStringArray key, none⟩ : OptionRow o i l) .list :=
    .list rfl rfl rfl
  have hswitch : ∀ {name : String} {key : PropertyKey}, OptionRow.IsKind
      (⟨name, none, .isBoolean key, none⟩ : OptionRow o i l) .switch :=
    .switch rfl rfl rfl
  have hhelp : ∀ {name : String}, OptionRow.IsKind
      (⟨name, none, .isHelp, none⟩ : OptionRow o i l) .help := .help rfl
  simp only [proxyOptions, proxyOptionKinds, List.forall₂_cons, List.Forall₂.nil, and_true,
    hselect, hmodify, doProxyEnable_modifies, hhost, hport, hurl, hpassive, hlist, hswitch,
    hhelp]

/-- Every option of the table has one of the kinds. -/
theorem findOption_kind (name : String) :
    (findOption name (proxyOptions : List (OptionRow o i l)) = none ∧
      proxyOptionKind name = none) ∨
    ∃ (row : OptionRow o i l) (kind : ProxyOptionKind), findOption name proxyOptions = some row ∧
      proxyOptionKind name = some kind ∧ row.IsKind kind := by
  obtain ⟨hrow, hkind⟩ | ⟨row, e, hrow, hkind, -, hrel⟩ :=
    find?_forall₂ (q := fun e => strcasecmp name e.1)
      (fun (row : OptionRow o i l) e h => congrArg (strcasecmp name) h.1) proxyOptions_kinds
  · exact .inl ⟨hrow, by rw [proxyOptionKind, hkind]; rfl⟩
  · exact .inr ⟨row, e.2, hrow, by rw [proxyOptionKind, hkind]; rfl, hrel⟩

/-! ## One turn -/

theorem switch_stringArray {row : OptionRow o i l} {key : PropertyKey}
    (htype : row.type = .isStringArray key) (hdescription : row.description = some "exceptions")
    (args : List String) (d : Draft o i l) :
    (args = [] ∧ row.switch args d = .fails (.refused "exceptions(s) not specified\n")) ∨
      ∃ value rest d', args = value :: rest ∧ row.switch args d = .goesOn rest d' [] := by
  cases args with
  | nil => exact .inl ⟨rfl, by simp [OptionRow.switch, htype, hdescription, switchValue]⟩
  | cons value rest =>
    by_cases hvalue : value = ""
    · exact .inr ⟨value, rest, _, rfl, by
        simp [OptionRow.switch, htype, switchValue, takeUnlessEmpty, hvalue]; rfl⟩
    · exact .inr ⟨value, rest, _, rfl, by
        simp [OptionRow.switch, htype, switchValue, takeUnlessEmpty, hvalue]; rfl⟩

theorem switch_boolean {row : OptionRow o i l} {key : PropertyKey}
    (htype : row.type = .isBoolean key) (hdescription : row.description = none)
    (args : List String) (d : Draft o i l) :
    (args = [] ∧ row.switch args d = .fails (.refused "enable/disable not specified\n")) ∨
      ∃ value rest, args = value :: rest ∧
        ((isSwitchValue value = false ∧
          row.switch args d = .fails (.refused "invalid value\n")) ∨
        ∃ d', isSwitchValue value = true ∧ row.switch args d = .goesOn rest d' []) := by
  cases args with
  | nil => exact .inl ⟨rfl, by simp [OptionRow.switch, htype, hdescription, switchValue]⟩
  | cons value rest =>
    refine .inr ⟨value, rest, rfl, ?_⟩
    simp only [OptionRow.switch, htype, switchValue, takeSwitch, isSwitchValue]
    cases isDisable value with
    | true => exact .inr ⟨_, rfl, rfl⟩
    | false =>
      cases isEnable value with
      | true => exact .inr ⟨_, rfl, rfl⟩
      | false =>
        by_cases hvalue : value = ""
        · exact .inr ⟨_, by simp [hvalue], by simp [hvalue]; rfl⟩
        · exact .inl ⟨by simp [hvalue], by simp [hvalue]⟩

/-- How a turn of the loop goes for an option and the arguments behind it, in any world and behind
any reports. -/
inductive ProxyTurn (name : String) (args : List String) :
    (SetWorld → List Report → Bool × SetState o i l) → Prop where
  /-- the command ends -/
  | stop (args' : List String) (d : Draft o i l) (r : Report) (hr : r.text ≠ proxyNotSpecified)
      (hread : modifierReached (name :: args) = false) :
      ProxyTurn name args fun w rs => (false, ⟨args', d, w, rs ++ [r]⟩)
  /-- a proxy is selected, and the command may end -/
  | select (proxy : ProxyKeys) (hproxy : proxy ∈ proxyTable) (d : Draft o i l)
      (report : Option Report) (hreport : ∀ r ∈ report, r.text ≠ proxyNotSpecified)
      (hread : modifierReached (name :: args) = false) :
      ProxyTurn name args fun w rs =>
        (report.isNone, ⟨args, d, { w with currentProxy := some proxy }, rs ++ report.toList⟩)
  /-- the copy is edited -/
  | edit (value : String) (rest : List String) (d : Draft o i l) (hargs : args = value :: rest)
      (hread : modifierReached (name :: args) = modifierReached rest) :
      ProxyTurn name args fun w rs => (true, ⟨rest, d, w, rs⟩)
  /-- the selected proxy is modified -/
  | modify (h : OptionHandler o i l) (hmodifies : ModifiesProxy h) (args' : List String)
      (d : Draft o i l) (hread : modifierReached (name :: args) = true) :
      ProxyTurn name args fun w rs =>
        ((h args' d w).nArgs.isSome, ⟨args'.drop ((h args' d w).nArgs.getD 0), (h args' d w).draft,
          (h args' d w).world, rs ++ (h args' d w).reports⟩)

/-- Whether a modifier is reached is decided word by word. -/
theorem modifierReached_of_kind {name : String} {kind : ProxyOptionKind}
    (hkind : proxyOptionKind name = some kind) (args : List String) :
    modifierReached (name :: args) =
      match kind, args with
      | .modifier, _ => true
      | .list, _ :: rest => modifierReached rest
      | .switch, value :: rest => isSwitchValue value && modifierReached rest
      | .passive, value :: _ => isSwitchValue value
      | _, _ => false := by
  cases args <;> cases kind <;> simp [modifierReached, hkind]

/-- A pass depends on the selected proxy only where it comes to a modifier. -/
theorem optionPass_proxyTurn (name : String) (args : List String) (d : Draft o i l) :
    ProxyTurn name args fun w rs => optionPass proxyOptions ⟨name :: args, d, w, rs⟩ := by
  obtain ⟨hfind, hkind⟩ | ⟨row, kind, hfind, hkind, hrow⟩ :=
    findOption_kind (o := o) (i := i) (l := l) name
  · -- args) = false := by :: an option that is not in the table stops the loop
    have hread : modifierReached (name :: args) = false := by
      cases args <;> simp [modifierReached, hkind]
    simp only [optionPass, hfind]
    exact .stop _ d _ (by decide) hread
  -- one case for each kind of option
  have hread := modifierReached_of_kind hkind args
  cases hrow with
  | list htype hdescription hhandler =>
    obtain ⟨rfl, hswitch⟩ | ⟨value, rest, d', rfl, hswitch⟩ :=
      switch_stringArray htype hdescription args d
    · simp only [optionPass, hfind, hswitch]
      exact .stop _ d _ (by decide) hread
    · simp only [optionPass, hfind, hswitch, OptionRow.handle, hhandler, Handled.uses,
        Option.isSome_some, Option.getD_some, List.drop_zero, List.append_nil]
      exact .edit value rest d' rfl hread
  | switch htype hdescription hhandler =>
    obtain ⟨rfl, hswitch⟩ | ⟨value, rest, rfl, ⟨hvalue, hswitch⟩ | ⟨d', hvalue, hswitch⟩⟩ :=
      switch_boolean htype hdescription args d
    · simp only [optionPass, hfind, hswitch]
      exact .stop _ d _ (by decide) hread
    · simp only [optionPass, hfind, hswitch]
      exact .stop _ d _ (by decide) (hread.trans (by simp [hvalue]))
    · simp only [optionPass, hfind, hswitch, OptionRow.handle, hhandler, Handled.uses,
        Option.isSome_some, Option.getD_some, List.drop_zero, List.append_nil]
      exact .edit value rest d' rfl (hread.trans (by simp [hvalue]))
  | @selector proxy htype hproxy hhandler =>
    have hswitch : row.switch args d = .goesOn args d [] := by simp [OptionRow.switch, htype]
    simp only [optionPass, hfind, hswitch, OptionRow.handle, hhandler, List.append_nil]
    cases args with
    | nil => exact .stop _ d _ (by decide) hread
    | cons arg rest =>
      simp only [doProxySelect]
      split
      · exact .select proxy hproxy d none (by simp) hread
      · refine .select proxy hproxy d (some (.refused _)) ?_ hread
        rintro r hr
        obtain rfl := Option.some.inj hr
        exact ne_of_mem_proxyMessages hproxy (by simp [Report.refused, proxyMessages])
  | @modifier h htype hmodifies hhandler =>
    have hswitch : row.switch args d = .goesOn args d [] := by simp [OptionRow.switch, htype]
    simp only [optionPass, hfind, hswitch, OptionRow.handle, hhandler, List.append_nil]
    exact .modify h hmodifies args d hread
  | @passive key h htype hdescription hmodifies hhandler =>
    obtain ⟨rfl, hswitch⟩ | ⟨value, rest, rfl, ⟨hvalue, hswitch⟩ | ⟨d', hvalue, hswitch⟩⟩ :=
      switch_boolean htype hdescription args d
    · simp only [optionPass, hfind, hswitch]
      exact .stop _ d _ (by decide) hread
    · simp only [optionPass, hfind, hswitch]
      exact .stop _ d _ (by decide) (hread.trans (by simp [hvalue]))
    · simp only [optionPass, hfind, hswitch, OptionRow.handle, hhandler, List.append_nil]
      exact .modify h hmodifies rest d' (hread.trans (by simp [hvalue]))
  | help htype =>
    have hswitch : row.switch args d = .fails ⟨.help, true, ""⟩ := by
      simp [OptionRow.switch, htype]
    simp only [optionPass, hfind, hswitch]
    exact .stop _ d _ (by decide) hread

/-! ## Runs of the loop -/

/-- The loop, one option at a time. -/
theorem optionLoop_cons (options : List (OptionRow o i l)) (fuel : ℕ) (name : String)
    (args : List String) (d : Draft o i l) (w : SetWorld) (rs : List Report) :
    optionLoop options (fuel + 1) ⟨name :: args, d, w, rs⟩ =
      if (optionPass options ⟨name :: args, d, w, rs⟩).1 then
        optionLoop options fuel (optionPass options ⟨name :: args, d, w, rs⟩).2
      else optionPass options ⟨name :: args, d, w, rs⟩ := by
  rw [optionLoop, if_neg (List.cons_ne_nil name args)]

/-- The same is accepted, edited and printed. -/
def SameEffect (x y : Bool × SetState o i l) : Prop :=
  x.1 = y.1 ∧ x.2.draft = y.2.draft ∧ x.2.reports = y.2.reports

/-- The proxy that was selected before is not read unless a modifier is reached. -/
theorem optionLoop_agree (fuel : ℕ) (args : List String) (d : Draft o i l) (rs : List Report)
    (w w' : SetWorld) (h : w.currentProxy = w'.currentProxy ∨ modifierReached args = false) :
    SameEffect (optionLoop proxyOptions fuel ⟨args, d, w, rs⟩)
      (optionLoop proxyOptions fuel ⟨args, d, w', rs⟩) := by
  induction fuel generalizing args d rs w w' with
  | zero => exact ⟨rfl, rfl, rfl⟩
  | succ fuel ih =>
    cases args with
    | nil =>
      rw [optionLoop_nil _ rfl, optionLoop_nil _ rfl]
      exact ⟨rfl, rfl, rfl⟩
    | cons name args =>
      have hturn := optionPass_proxyTurn (o := o) (i := i) (l := l) name args d
      rw [optionLoop_cons, optionLoop_cons]
      generalize hpass : (fun w rs => optionPass proxyOptions (⟨name :: args, d, w, rs⟩ :
        SetState o i l)) = f at hturn
      have hw : optionPass proxyOptions ⟨name :: args, d, w, rs⟩ = f w rs := by rw [← hpass]
      have hw' : optionPass proxyOptions ⟨name :: args, d, w', rs⟩ = f w' rs := by rw [← hpass]
      rw [hw, hw']
      cases hturn with
      | stop args' d' r hr hread => exact ⟨rfl, rfl, rfl⟩
      | select proxy hproxy d' report hreport hread =>
        cases report with
        | none => exact ih args d' _ _ _ (.inl rfl)
        | some r => exact ⟨rfl, rfl, rfl⟩
      | edit value rest d' hargs hread => exact ih rest d' rs w w' (hread ▸ h)
      | modify f hmodifies args' d' hread =>
        have hsame : w.currentProxy = w'.currentProxy := by
          rcases h with h | h
          · exact h
          · rw [hread] at h
            cases h
        simp only [hmodifies.agrees args' d' w w' hsame]
        split
        · refine ih _ _ _ _ _ (.inl ?_)
          rw [hmodifies.world]
          exact hsame
        · exact ⟨rfl, rfl, rfl⟩

/-- Without a selected proxy a modifier is refused. -/
theorem optionLoop_refused (fuel : ℕ) (args : List String) (d : Draft o i l) (rs : List Report)
    (w : SetWorld) (hfuel : args.length ≤ fuel) (hread : modifierReached args = true)
    (hnone : w.currentProxy = none) :
    .refused proxyNotSpecified ∈ (optionLoop proxyOptions fuel ⟨args, d, w, rs⟩).2.reports := by
  induction fuel generalizing args d rs with
  | zero =>
    obtain rfl := List.length_eq_zero_iff.mp (Nat.le_zero.mp hfuel)
    cases hread
  | succ fuel ih =>
    cases args with
    | nil => cases hread
    | cons name args =>
      have hturn := optionPass_proxyTurn (o := o) (i := i) (l := l) name args d
      rw [optionLoop_cons]
      generalize hpass : (fun w rs => optionPass proxyOptions (⟨name :: args, d, w, rs⟩ :
        SetState o i l)) = f at hturn
      have hw : optionPass proxyOptions ⟨name :: args, d, w, rs⟩ = f w rs := by rw [← hpass]
      rw [hw]
      cases hturn with
      | stop args' d' r hr hread' =>
        rw [hread] at hread'
        cases hread'
      | select proxy hproxy d' report hreport hread' =>
        rw [hread] at hread'
        cases hread'
      | edit value rest d' hargs hread' =>
        refine ih rest d' rs ?_ (hread' ▸ hread)
        simp only [hargs, List.length_cons] at hfuel
        omega
      | modify f hmodifies args' d' hread' =>
        simp [hmodifies.refuses args' d' w hnone, Handled.refuses]

/-- With a selected proxy it is never said that there is none. -/
theorem optionLoop_specified (fuel : ℕ) (args : List String) (d : Draft o i l) (rs : List Report)
    (w : SetWorld) (hselected : ∃ q ∈ proxyTable, w.currentProxy = some q)
    (hrs : ∀ r ∈ rs, r.text ≠ proxyNotSpecified) :
    ∀ r ∈ (optionLoop proxyOptions fuel ⟨args, d, w, rs⟩).2.reports,
      r.text ≠ proxyNotSpecified := by
  induction fuel generalizing args d rs w with
  | zero => exact hrs
  | succ fuel ih =>
    cases args with
    | nil => rwa [optionLoop_nil _ rfl]
    | cons name args =>
      have hturn := optionPass_proxyTurn (o := o) (i := i) (l := l) name args d
      rw [optionLoop_cons]
      generalize hpass : (fun w rs => optionPass proxyOptions (⟨name :: args, d, w, rs⟩ :
        SetState o i l)) = f at hturn
      have hw : optionPass proxyOptions ⟨name :: args, d, w, rs⟩ = f w rs := by rw [← hpass]
      rw [hw]
      cases hturn with
      | stop args' d' r hr hread' =>
        exact List.forall_mem_append.mpr ⟨hrs, List.forall_mem_singleton.mpr hr⟩
      | select proxy hproxy d' report hreport hread' =>
        have hreports : ∀ r ∈ rs ++ report.toList, r.text ≠ proxyNotSpecified :=
          List.forall_mem_append.mpr ⟨hrs, fun r hr => hreport r (by simpa using hr)⟩
        cases report with
        | none => exact ih args d' _ _ ⟨proxy, hproxy, rfl⟩ hreports
        | some r => exact hreports
      | edit value rest d' hargs hread' => exact ih rest d' rs w hselected hrs
      | modify f hmodifies args' d' hread' =>
        obtain ⟨q, hq, hcurrent⟩ := hselected
        have hreports : ∀ r ∈ rs ++ (f args' d' w).reports, r.text ≠ proxyNotSpecified :=
          List.forall_mem_append.mpr ⟨hrs, hmodifies.reports args' d' w q hq hcurrent⟩
        dsimp only
        split
        · exact ih _ _ _ _ ⟨q, hq, by rw [hmodifies.world, hcurrent]⟩ hreports
        · exact hreports

/-! ## Commands -/

/-- Two states in which the same proxy is selected react in the same way, as do any two where no
modifier is reached. -/
theorem proxyReaction_congr {args : List String} (c : CFConfiguration) {w w' : SetWorld}
    (h : w.currentProxy = w'.currentProxy ∨ modifierReached args = false) :
    proxyReaction c args w = proxyReaction c args w' := by
  obtain ⟨haccepted, hdraft, hreports⟩ := optionLoop_agree args.length args
    (.start : Draft c (editCopy c) id) [] w w' h
  unfold proxyReaction processOptions
  generalize optionLoop proxyOptions args.length ⟨args, .start, w, []⟩ = x at *
  generalize optionLoop proxyOptions args.length ⟨args, .start, w', []⟩ = y at *
  obtain ⟨ok, s⟩ := x
  obtain ⟨ok', s'⟩ := y
  obtain rfl : ok = ok' := haccepted
  simp only at hdraft hreports
  simp only [hdraft, hreports]

/-- Where a modifier is reached, it matters whether a proxy is selected. -/
theorem proxyReaction_ne {args : List String} (hread : modifierReached args = true)
    (c : CFConfiguration) {w w' : SetWorld} (hnone : w.currentProxy = none)
    (hselected : ∃ q ∈ proxyTable, w'.currentProxy = some q) :
    proxyReaction c args w ≠ proxyReaction c args w' := by
  intro h
  have hrefused : .refused proxyNotSpecified ∈ (proxyReaction c args w).reports :=
    optionLoop_refused args.length args .start [] w le_rfl hread hnone
  rw [h] at hrefused
  exact optionLoop_specified args.length args .start [] w' hselected (by simp) _ hrefused rfl

/-- One service, with proxies; the contents are their configuration. -/
def proxyLibrary : NetLibrary CFConfiguration Unit where
  sets _ := ["0"]
  setName _ _ := none
  currentSet _ := some "0"
  services _ := ["a"]
  setServices _ _ := ["a"]
  orderedServices _ _ := ["a"]
  serviceName _ _ := none
  bsdName _ _ := none
  interface _ _ := none
  supportedTypes _ := some ["Proxies"]
  protocols _ _ := ["Proxies"]
  configurations c _ := ⟨c, ∅, ∅⟩
  configured _ _ cs := cs.own
  configured_configurations _ _ := rfl
  caseless := strcasecmp

/-- The proxies are selected, with a configuration. -/
def selectProxies (c : CFConfiguration) : List (NetCommand CFConfiguration Unit Unit) :=
  [.opens true none (some c), .edit (.selectService "a" true),
    .edit (.selectProtocol "Proxies" true)]

/-- A proxy is selected by a command that is rejected. -/
def selectFTP : NetCommand CFConfiguration Unit Unit :=
  .setProtocol ⟨.proxies, fun _ => none, fun _ => none, fun _ => none⟩ ["FTP", "FTP"]

/-- The protocol that is selected. -/
def selectedProxies : ProtocolRef := ⟨⟨0, "a"⟩, "Proxies"⟩

theorem netRun_selectProxies (c : CFConfiguration) :
    (netRun proxyLibrary (selectProxies c)).prefs = some (.read c) ∧
      (netRun proxyLibrary (selectProxies c)).selection.netProtocol = some selectedProxies ∧
      (netRun proxyLibrary (selectProxies c)).selection.fault = none ∧
      (netRun proxyLibrary (selectProxies c)).currentProxy = none := by
  have hproxies : strcasecmp "Proxies" "Proxies" = true := by decide +kernel
  simp [netRun, selectProxies, netStep, NetState.initial, NetState.doNetOpen, NetState.prefsOpen,
    NetState.edit, NetSelection.empty, scriptOf, selectService, selectProtocol,
    NetSelection.findService, NetSelection.findProtocol, NetSelection.listServices,
    NetSelection.listProtocols, NetSelection.newServices, findIn, proxyLibrary, hproxies,
    FlaggedEdits.Document.read, selectedProxies]

/-- The selection of a proxy without another option is rejected, but it stays selected. -/
theorem processOptions_FTP (d : Draft o i l) (w : SetWorld) :
    processOptions proxyOptions ["FTP", "FTP"] d w =
      (false, ⟨["FTP"], d, { w with currentProxy := some proxyKeysFTP },
        [.refused "FTP proxy option[s] not specified\n"]⟩) := by
  have hfind : findOption "FTP" (proxyOptions : List (OptionRow o i l)) =
      some ⟨"FTP", none, .isOther, some (doProxySelect proxyKeysFTP)⟩ := by
    have hexceptions : strcasecmp "FTP" "ExceptionsList" = false := by decide +kernel
    have hexclude : strcasecmp "FTP" "ExcludeSimpleHostnames" = false := by decide +kernel
    have hFTP : strcasecmp "FTP" "FTP" = true := by decide +kernel
    simp [findOption, proxyOptions, hexceptions, hexclude, hFTP]
  have hnext : (proxyOptionNames.find? fun name => strcasecmp "FTP" name.1) =
      some ("FTP", true) := by
    decide +kernel
  simp [processOptions, optionLoop_cons, optionPass, hfind, OptionRow.switch, OptionRow.handle,
    doProxySelect, hnext, Handled.refuses, proxyKeysFTP]

theorem netRun_selectFTP (c : CFConfiguration) :
    (netRun proxyLibrary (selectProxies c ++ [selectFTP])).prefs = some (.read c) ∧
      (netRun proxyLibrary (selectProxies c ++ [selectFTP])).selection.netProtocol =
        some selectedProxies ∧
      (netRun proxyLibrary (selectProxies c ++ [selectFTP])).currentProxy =
        some proxyKeysFTP := by
  obtain ⟨hprefs, hprotocol, hfault, -⟩ := netRun_selectProxies c
  have hstep : netRun proxyLibrary (selectProxies c ++ [selectFTP]) =
      netStep proxyLibrary (netRun proxyLibrary (selectProxies c)) selectFTP := by
    rw [netRun, List.foldl_append]
    rfl
  rw [hstep]
  generalize netRun proxyLibrary (selectProxies c) = s at hprefs hprotocol hfault ⊢
  simp [netStep, hfault, selectFTP, NetState.setConfiguration, hprefs, hprotocol, SetCommand.run,
    setProtocol, setProtocolOptions, processOptions_FTP, finish, proxyLibrary, Session.result,
    Session.saved, FlaggedEdits.Document.read, FlaggedEdits.Document.leave, Draft.start,
    SetWorld.start]

/-- A command depends on its arguments and the configuration alone unless a modifier is reached. -/
theorem selfContained_iff (args : List String) (c : CFConfiguration) :
    SelfContained args c ↔ modifierReached args = false := by
  constructor
  · intro h
    by_contra hread
    have hread : modifierReached args = true := by simpa using hread
    obtain ⟨hprefs, hprotocol, -, hnone⟩ := netRun_selectProxies c
    obtain ⟨hprefs', hprotocol', hFTP⟩ := netRun_selectFTP c
    have hcs := protocolConfigurations_eq proxyLibrary hprefs hprotocol
    have hcs' := protocolConfigurations_eq proxyLibrary hprefs' hprotocol'
    have hsame := h CFConfiguration Unit Unit proxyLibrary (selectProxies c)
      (selectProxies c ++ [selectFTP]) (by rw [hcs]; rfl) (by rw [hcs']; rfl)
    simp only [NetState.proxyReaction, hcs, hcs', Option.map_some, Option.some.injEq] at hsame
    exact proxyReaction_ne hread c hnone ⟨proxyKeysFTP, by decide +kernel, hFTP⟩ hsame
  · intro hread π ν ι lib before before' hbefore hbefore'
    obtain ⟨cs, hcs, hc⟩ := Option.map_eq_some_iff.mp hbefore
    obtain ⟨cs', hcs', hc'⟩ := Option.map_eq_some_iff.mp hbefore'
    simp only [NetState.proxyReaction, hcs, hcs', Option.map_some, hc, hc']
    exact congrArg some (proxyReaction_congr c (.inr hread))

/-- `set protocol enable` is rejected at the start, and accepted after a command for the FTP proxy
that was rejected. -/
theorem not_selfContained : ¬ SelfContained ["enable"] ∅ := by
  intro h
  obtain ⟨hprefs, hprotocol, -, hnone⟩ := netRun_selectProxies ∅
  obtain ⟨hprefs', hprotocol', hFTP⟩ := netRun_selectFTP ∅
  have hcs := protocolConfigurations_eq proxyLibrary hprefs hprotocol
  have hcs' := protocolConfigurations_eq proxyLibrary hprefs' hprotocol'
  have hsame := h CFConfiguration Unit Unit proxyLibrary (selectProxies ∅)
    (selectProxies ∅ ++ [selectFTP]) (by rw [hcs]; rfl) (by rw [hcs']; rfl)
  simp only [NetState.proxyReaction, hcs, hcs', Option.map_some, Option.some.injEq, hnone, hFTP]
    at hsame
  -- nothing else of the worlds is read
  have hworld : ∀ ipsec qos proxy changed,
      proxyReaction ∅ ["enable"] (.start ipsec qos proxy changed) =
        proxyReaction ∅ ["enable"] (.start ∅ ∅ proxy false) :=
    fun _ _ _ _ => proxyReaction_congr ∅ (.inl rfl)
  have hrejected : (proxyReaction ∅ ["enable"] (.start ∅ ∅ none false)).accepted = false := by
    decide +kernel
  have haccepted : (proxyReaction ∅ ["enable"]
      (.start ∅ ∅ (some proxyKeysFTP) false)).accepted = true := by
    decide +kernel
  change proxyReaction ∅ ["enable"] _ = proxyReaction ∅ ["enable"] _ at hsame
  rw [hworld, hworld _ _ (some proxyKeysFTP)] at hsame
  rw [← hsame, hrejected] at haccepted
  cases haccepted

end ConfigdExtra
