import ConfigdExtra.DeferredEdits

/-!
# The option engine of `scutil --net`

`set interface` and `set protocol` edit a copy of a configuration. Each of them has a table of
options, and `_process_options` walks the arguments with it:

* `PropertyKey`, `CFValue` and `CFConfiguration` are the dictionaries that are edited;
* `OptionRow` is an entry of a table, with the handler an entry may have;
* `optionPass` is one turn of the loop of `_process_options`, `processOptions` the loop;
* `processOptions_invariant` is the rule for it: what one turn keeps, the loop keeps.

What the command prints is kept as a list of reports, so that a rejected option can be told
from an accepted one. Strings are those of a UTF-8 command line, and letters are folded as in
the C locale.
-/

namespace ConfigdExtra

open DeferredEdits

/-! ## Configurations -/

/-- The keys of the configurations; the ones of the schema carry their names there. -/
inductive PropertyKey
  | kSCResvInactive
  | kSCPropNetQoSMarkingEnabled
  | kSCPropNetQoSMarkingAppleAudioVideoCalls
  | kSCPropNetQoSMarkingWhitelistedAppIdentifiers
  | kSCPropNetEthernetMTU
  | kSCPropNetEthernetMediaSubType
  | kSCPropNetEthernetMediaOptions
  | kSCPropNetEthernetCapabilityAV
  | kSCPropNetEthernetCapabilityLRO
  | kSCPropNetEthernetCapabilityRXCSUM
  | kSCPropNetEthernetCapabilityTSO
  | kSCPropNetEthernetCapabilityTXCSUM
  | kSCPropNetIPSecSharedSecretEncryption
  | kSCPropNetIPSecSharedSecret
  | kSCPropNetIPSecXAuthPasswordEncryption
  | kSCPropNetIPSecXAuthPassword
  | kSCPropNetIPSecOnDemandMatchDomainsAlways
  | kSCPropNetIPSecOnDemandMatchDomainsOnRetry
  | kSCPropNetIPSecOnDemandMatchDomainsNever
  | kSCPropNetIPSecAuthenticationMethod
  | kSCPropNetIPSecLocalIdentifier
  | kSCPropNetIPSecLocalIdentifierType
  | kSCPropNetIPSecRemoteAddress
  | kSCPropNetIPSecXAuthEnabled
  | kSCPropNetIPSecXAuthName
  | kSCPropNetIPSecOnDemandEnabled
  | kSCPropNetModemConnectionPersonality
  | kSCPropNetModemDeviceModel
  | kSCPropNetModemDeviceVendor
  | kSCPropNetModemConnectionScript
  | kSCPropNetModemDialMode
  | kSCPropNetModemHoldEnabled
  | kSCPropNetModemHoldCallWaitingAudibleAlert
  | kSCPropNetModemHoldDisconnectOnAnswer
  | kSCPropNetModemDataCompression
  | kSCPropNetModemErrorCorrection
  | kSCPropNetModemHoldReminder
  | kSCPropNetModemHoldReminderTime
  | kSCPropNetModemPulseDial
  | kSCPropNetModemSpeaker
  | kSCPropNetPPPAuthPasswordEncryption
  | kSCPropNetPPPAuthPassword
  | kSCPropNetPPPACSPEnabled
  | kSCPropNetPPPConnectTime
  | kSCPropNetPPPDialOnDemand
  | kSCPropNetPPPDisconnectOnFastUserSwitch
  | kSCPropNetPPPDisconnectOnIdle
  | kSCPropNetPPPDisconnectOnIdleTimer
  | kSCPropNetPPPDisconnectOnLogout
  | kSCPropNetPPPDisconnectOnSleep
  | kSCPropNetPPPDisconnectTime
  | kSCPropNetPPPIdleReminder
  | kSCPropNetPPPIdleReminderTimer
  | kSCPropNetPPPLogfile
  | kSCPropNetPPPPlugins
  | kSCPropNetPPPRetryConnectTime
  | kSCPropNetPPPSessionTimer
  | kSCPropNetPPPUseSessionTimer
  | kSCPropNetPPPVerboseLogging
  | kSCPropNetPPPAuthEAPPlugins
  | kSCPropNetPPPAuthName
  | kSCPropNetPPPAuthPrompt
  | kSCPropNetPPPAuthProtocol
  | kSCPropNetPPPCommRemoteAddress
  | kSCPropNetPPPCommAlternateRemoteAddress
  | kSCPropNetPPPCommConnectDelay
  | kSCPropNetPPPCommDisplayTerminalWindow
  | kSCPropNetPPPCommRedialCount
  | kSCPropNetPPPCommRedialEnabled
  | kSCPropNetPPPCommRedialInterval
  | kSCPropNetPPPCommTerminalScript
  | kSCPropNetPPPCommUseTerminalScript
  | kSCPropNetPPPCCPEnabled
  | kSCPropNetPPPCCPMPPE40Enabled
  | kSCPropNetPPPCCPMPPE128Enabled
  | kSCPropNetPPPIPCPCompressionVJ
  | kSCPropNetPPPIPCPUsePeerDNS
  | kSCPropNetPPPLCPEchoEnabled
  | kSCPropNetPPPLCPEchoFailure
  | kSCPropNetPPPLCPEchoInterval
  | kSCPropNetPPPLCPCompressionACField
  | kSCPropNetPPPLCPCompressionPField
  | kSCPropNetPPPLCPMRU
  | kSCPropNetPPPLCPMTU
  | kSCPropNetPPPLCPReceiveACCM
  | kSCPropNetPPPLCPTransmitACCM
  | kSCPropNetVPNAuthPasswordEncryption
  | kSCPropNetVPNAuthPassword
  | kSCPropNetVPNAuthName
  | kSCPropNetVPNAuthenticationMethod
  | kSCPropNetVPNConnectTime
  | kSCPropNetVPNDisconnectOnFastUserSwitch
  | kSCPropNetVPNDisconnectOnIdle
  | kSCPropNetVPNDisconnectOnIdleTimer
  | kSCPropNetVPNDisconnectOnLogout
  | kSCPropNetVPNDisconnectOnSleep
  | kSCPropNetVPNLogfile
  | kSCPropNetVPNMTU
  | kSCPropNetVPNRemoteAddress
  | kSCPropNetVPNVerboseLogging
  | kSCPropNetDNSDomainName
  | kSCPropNetDNSSearchDomains
  | kSCPropNetDNSServerAddresses
  | kSCPropNetDNSSupplementalMatchDomains
  | kSCPropNetIPv4Addresses
  | kSCPropNetIPv4SubnetMasks
  | kSCPropNetIPv4Router
  | kSCPropNetIPv4DHCPClientID
  | kSCPropNetIPv4ConfigMethod
  | kSCPropNetIPv6Addresses
  | kSCPropNetIPv6PrefixLength
  | kSCPropNetIPv6Router
  | kSCPropNetIPv6ConfigMethod
  | kSCPropNetIPv6EnableCGA
  | kSCPropNetProxiesFTPEnable
  | kSCPropNetProxiesFTPProxy
  | kSCPropNetProxiesFTPPort
  | kSCPropNetProxiesGopherEnable
  | kSCPropNetProxiesGopherProxy
  | kSCPropNetProxiesGopherPort
  | kSCPropNetProxiesHTTPEnable
  | kSCPropNetProxiesHTTPProxy
  | kSCPropNetProxiesHTTPPort
  | kSCPropNetProxiesHTTPSEnable
  | kSCPropNetProxiesHTTPSProxy
  | kSCPropNetProxiesHTTPSPort
  | kSCPropNetProxiesRTSPEnable
  | kSCPropNetProxiesRTSPProxy
  | kSCPropNetProxiesRTSPPort
  | kSCPropNetProxiesSOCKSEnable
  | kSCPropNetProxiesSOCKSProxy
  | kSCPropNetProxiesSOCKSPort
  | kSCPropNetProxiesTransportConverterEnable
  | kSCPropNetProxiesTransportConverterProxy
  | kSCPropNetProxiesTransportConverterPort
  | kSCPropNetProxiesProxyAutoConfigEnable
  | kSCPropNetProxiesProxyAutoConfigURLString
  | kSCPropNetProxiesProxyAutoDiscoveryEnable
  | kSCPropNetProxiesExceptionsList
  | kSCPropNetProxiesExcludeSimpleHostnames
  | kSCPropNetProxiesFTPPassive
  | kSCPropNetSMBNetBIOSName
  | kSCPropNetSMBNetBIOSNodeType
  | kSCPropNetSMBWorkgroup
  | kSCPropNetSMBWINSAddresses
  | other (name : String)
deriving DecidableEq

/-- The property list values found in a configuration. -/
inductive CFValue
  | boolean (b : Bool)
  | number (n : Int)
  | string (s : String)
  | strings (l : List String)
  | numbers (l : List Int)
  | data (units : List Nat)
  | other (description : String)
deriving DecidableEq

/-- A configuration; one with no entries reads back as `NULL`, so it also stands for that. -/
abbrev CFConfiguration := Record PropertyKey CFValue

/-- The copy that is edited starts without `kSCResvInactive`. -/
def editCopy (c : CFConfiguration) : CFConfiguration :=
  c.erase .kSCResvInactive

/-! ## Strings -/

/-- `strcasecmp(a, b) == 0` -/
def strcasecmp (a b : String) : Bool :=
  a.toList.map Char.toLower == b.toList.map Char.toLower

/-- `isspace` in the C locale -/
def isSpace (c : Char) : Bool :=
  c == ' ' || (9 ≤ c.toNat && c.toNat ≤ 13)

/-- The value of a string of digits. -/
def digitsValue (ds : List Char) : Nat :=
  ds.foldl (fun n c => 10 * n + (c.toNat - '0'.toNat)) 0

/-- A number is read as an `intmax_t`, which saturates, and kept as an `int`. -/
def toCInt (n : Int) : Int :=
  Int.bmod (max (-2 ^ 63) (min (2 ^ 63 - 1) n)) (2 ^ 32)

/-- The digits `%d` reads, with their sign. -/
def scanDigits (negative : Bool) (cs : List Char) : Option Int :=
  let ds := cs.takeWhile Char.isDigit
  if ds.isEmpty then none
  else some (toCInt (if negative then -(digitsValue ds : Int) else digitsValue ds))

/-- `_copy_number`: `sscanf` with `%d`, which leaves alone what follows the digits. -/
def copyNumber (arg : String) : Option Int :=
  match arg.toList.dropWhile isSpace with
  | '-' :: cs => scanDigits true cs
  | '+' :: cs => scanDigits false cs
  | cs => scanDigits false cs

/-- `CFStringCreateArrayBySeparatingStrings` with a comma -/
def separated (arg : String) : List String :=
  (arg.toList.splitOn ',').map String.ofList

/-! ## Tables of options -/

/-- `selections` -/
structure Selection where
  selection : String
  key : Option String
  flags : Nat := 0

/-- `selectionNotAvailable` -/
def selectionNotAvailable : Nat := 1

/-- `_find_selection` -/
def findSelection (choice : String) (choices : List Selection) : Option Selection :=
  choices.find? fun c => strcasecmp choice c.selection

/-- `optionType`, with the key and the choices of an entry of that type. What an `isHelp` entry
prints is left out. -/
inductive OptionType
  | isOther
  | isHelp
  | isChooseOne (key : PropertyKey) (choices : List Selection)
  | isChooseMultiple (key : PropertyKey) (choices : List Selection)
  | isBool (key : PropertyKey)
  | isBoolean (key : PropertyKey)
  | isNumber (key : PropertyKey)
  | isString (key : PropertyKey)
  | isStringArray (key : PropertyKey)

/-- What a line printed by a command is about. -/
inductive ReportKind
  | rejected
  | help
  | notStored
deriving DecidableEq

/-- A line printed by a command, and whether the command ends there with nothing more done. A
handler that fails without a word has an empty text. -/
structure Report where
  kind : ReportKind
  ends : Bool
  text : String
deriving DecidableEq

/-- An option or a value is rejected, and the command ends. -/
def Report.refused (text : String) : Report := ⟨.rejected, true, text⟩

/-- A nested list of options has failed, and the command goes on. -/
def Report.passOver (r : Report) : Report := { r with ends := false }

/-- `proxyKeys` -/
structure ProxyKeys where
  proxy : String
  keyEnable : Option PropertyKey
  keyProxy : Option PropertyKey
  keyPort : Option PropertyKey
  keyURL : Option PropertyKey
  multipleProxies : Bool
deriving DecidableEq

/-- `SCNetworkServicePrimaryRank` -/
inductive PrimaryRank
  | default
  | first
  | last
  | never
  | scoped
deriving DecidableEq

/-- What a `set` command can change besides the configuration it is about. -/
structure SetWorld where
  /-- the extended configuration of a PPP interface over L2TP -/
  ipsec : Session PropertyKey CFValue
  /-- the QoS marking policy -/
  qos : Session PropertyKey CFValue
  /-- the rank given to the active interface -/
  rank : Option PrimaryRank
  /-- `currentProxy` -/
  currentProxy : Option ProxyKeys
  /-- `_prefs_changed` -/
  prefsChanged : Bool

/-- Before a command nothing has been asked of the other configurations. -/
def SetWorld.start (ipsec qos : CFConfiguration) (currentProxy : Option ProxyKeys)
    (prefsChanged : Bool) : SetWorld :=
  ⟨.idle ipsec, .idle qos, none, currentProxy, prefsChanged⟩

variable {o i : CFConfiguration} {l : CFConfiguration → CFConfiguration}

/-- The variables of the loop of `_process_options`: the arguments that are left, the copy
that is edited, and what else there is to change. -/
structure SetState (o i : CFConfiguration) (l : CFConfiguration → CFConfiguration) where
  args : List String
  draft : Draft o i l
  world : SetWorld
  reports : List Report

/-- What a handler makes of the arguments after its option: how many of them it has used, or
`none` for `-1`. -/
structure Handled (o i : CFConfiguration) (l : CFConfiguration → CFConfiguration) where
  nArgs : Option Nat
  draft : Draft o i l
  world : SetWorld
  reports : List Report

/-- `optionHandler`, applied to the key and the information of its entry -/
abbrev OptionHandler (o i : CFConfiguration) (l : CFConfiguration → CFConfiguration) :=
  List String → Draft o i l → SetWorld → Handled o i l

/-- `options` -/
structure OptionRow (o i : CFConfiguration) (l : CFConfiguration → CFConfiguration) where
  option : String
  description : Option String
  type : OptionType
  handler : Option (OptionHandler o i l) := none

namespace Handled

/-- The handler returns `n`. -/
def uses (n : Nat) (d : Draft o i l) (w : SetWorld) : Handled o i l := ⟨some n, d, w, []⟩

/-- The handler prints a message and returns `-1`. -/
def refuses (d : Draft o i l) (w : SetWorld) (text : String) : Handled o i l :=
  ⟨none, d, w, [.refused text]⟩

end Handled

/-- `_find_option` -/
def findOption (name : String) (options : List (OptionRow o i l)) : Option (OptionRow o i l) :=
  options.find? fun row => strcasecmp name row.option

/-! ## The loop -/

/-- The words for "off" and for "on". -/
def isDisable (arg : String) : Bool :=
  strcasecmp arg "disable" || strcasecmp arg "no" || strcasecmp arg "off" || strcasecmp arg "0"

def isEnable (arg : String) : Bool :=
  strcasecmp arg "enable" || strcasecmp arg "yes" || strcasecmp arg "on" || strcasecmp arg "1"

/-- The choices of a list separated by commas, up to the first one that cannot be had: their
keys, or the message. -/
def chooseMultiple (description : String) (choices : List Selection) :
    List String → Except String (List String)
  | [] => .ok []
  | choice :: rest =>
    match findSelection choice choices with
    | none => .error ("invalid " ++ description ++ "\n")
    | some c =>
      if c.flags &&& selectionNotAvailable ≠ 0 then
        .error ("cannot select " ++ description ++ "\n")
      else
        (chooseMultiple description choices rest).map fun keys => c.key.toList ++ keys

/-- How an option with a value is taken: the edit its value stands for, with what is printed
although the command goes on, or the message with which the command ends. -/
abbrev Taken := Except String (Edit PropertyKey CFValue × List Report)

/-- The edit for a value of an `isBool` or an `isBoolean` entry. -/
def takeSwitch (key : PropertyKey) (off on : CFValue) (arg : String) : Taken :=
  if isDisable arg then .ok (⟨key, some off⟩, [])
  else if isEnable arg then .ok (⟨key, some on⟩, [])
  else if arg = "" then .ok (⟨key, none⟩, [])
  else .error "invalid value\n"

/-- The edit for a value that is removed by an empty argument. -/
def takeUnlessEmpty (key : PropertyKey) (value : String → Option CFValue) (arg : String) :
    Taken :=
  if arg = "" then .ok (⟨key, none⟩, [])
  else match value arg with
    | some v => .ok (⟨key, some v⟩, [])
    | none => .error "invalid value\n"

/-- `isChooseOne` -/
def takeChoice (key : PropertyKey) (choices : List Selection) (description arg : String) :
    Taken :=
  match findSelection arg choices with
  | none => .error ("invalid " ++ description ++ "\n")
  | some c =>
    if c.flags &&& selectionNotAvailable ≠ 0 then
      .error ("cannot select " ++ description ++ "\n")
    else .ok (⟨key, c.key.map .string⟩, [])

/-- `isChooseMultiple`: after a choice that cannot be had nothing is chosen, the key is removed
and the command goes on. -/
def takeChoices (key : PropertyKey) (choices : List Selection) (description arg : String) :
    Taken :=
  if arg = "" then .ok (⟨key, none⟩, [])
  else match chooseMultiple description choices (separated arg) with
    | .ok [] => .ok (⟨key, none⟩, [])
    | .ok chosen => .ok (⟨key, some (.strings chosen)⟩, [])
    | .error text => .ok (⟨key, none⟩, [(Report.refused text).passOver])

/-- What the `switch` of `_process_options` makes of the arguments after the option. -/
inductive Switched (o i : CFConfiguration) (l : CFConfiguration → CFConfiguration)
  | fails (r : Report)
  | goesOn (args : List String) (draft : Draft o i l) (reports : List Report)

/-- An option that needs a value: the message without one, the edit with one. -/
def switchValue (missing : String) (take : String → Taken) (args : List String)
    (d : Draft o i l) : Switched o i l :=
  match args with
  | [] => .fails (.refused missing)
  | arg :: rest =>
    match take arg with
    | .error text => .fails (.refused text)
    | .ok (e, reports) => .goesOn rest (d.put e) reports

/-- The `switch` of `_process_options`. -/
def OptionRow.switch (row : OptionRow o i l) (args : List String) (d : Draft o i l) :
    Switched o i l :=
  match row.type with
  | .isOther => .goesOn args d []
  | .isHelp => .fails ⟨.help, true, ""⟩
  | .isChooseOne key choices =>
    switchValue (row.description.getD "selection" ++ " not specified\n")
      (takeChoice key choices (row.description.getD "selection")) args d
  | .isChooseMultiple key choices =>
    switchValue (row.description.getD "selection" ++ "(s) not specified\n")
      (takeChoices key choices (row.description.getD "selection")) args d
  | .isBool key =>
    switchValue (row.description.getD "enable/disable" ++ " not specified\n")
      (takeSwitch key (.boolean false) (.boolean true)) args d
  | .isBoolean key =>
    switchValue (row.description.getD "enable/disable" ++ " not specified\n")
      (takeSwitch key (.number 0) (.number 1)) args d
  | .isNumber key =>
    switchValue (row.description.getD "value" ++ " not specified\n")
      (takeUnlessEmpty key fun arg => (copyNumber arg).map .number) args d
  | .isString key =>
    switchValue (row.description.getD "value" ++ " not specified\n")
      (takeUnlessEmpty key fun arg => some (.string arg)) args d
  | .isStringArray key =>
    switchValue (row.description.getD "value" ++ "(s) not specified\n")
      (takeUnlessEmpty key fun arg => some (.strings (separated arg))) args d

/-- The handler of an entry, if it has one, on the arguments the `switch` has left. -/
def OptionRow.handle (row : OptionRow o i l) (args : List String) (d : Draft o i l)
    (w : SetWorld) : Handled o i l :=
  match row.handler with
  | none => .uses 0 d w
  | some h => h args d w

/-- One turn of the loop of `_process_options`, and whether the loop goes on. -/
def optionPass (options : List (OptionRow o i l)) (s : SetState o i l) :
    Bool × SetState o i l :=
  match s.args with
  | [] => (true, s)
  | name :: args =>
    match findOption name options with
    | none => (false, { s with reports := s.reports ++ [.refused "set what?\n"] })
    | some row =>
      match row.switch args s.draft with
      | .fails r => (false, { s with reports := s.reports ++ [r] })
      | .goesOn args' draft reports =>
        let h := row.handle args' draft s.world
        (h.nArgs.isSome,
          { args := args'.drop (h.nArgs.getD 0)
            draft := h.draft
            world := h.world
            reports := s.reports ++ reports ++ h.reports })

/-- The loop of `_process_options`, for at most `fuel` turns, with the value it returns. -/
def optionLoop (options : List (OptionRow o i l)) :
    Nat → SetState o i l → Bool × SetState o i l
  | 0, s => (true, s)
  | fuel + 1, s =>
    if s.args = [] then (true, s)
    else
      let pass := optionPass options s
      if pass.1 then optionLoop options fuel pass.2 else pass

theorem optionLoop_nil {options : List (OptionRow o i l)} {s : SetState o i l} (fuel : Nat)
    (hs : s.args = []) : optionLoop options fuel s = (true, s) := by
  cases fuel with
  | zero => rfl
  | succ fuel => rw [optionLoop, if_pos hs]

/-- `_process_options`. Every turn uses up an argument, so there are at most as many turns as
arguments. -/
def processOptions (options : List (OptionRow o i l)) (args : List String) (d : Draft o i l)
    (w : SetWorld) : Bool × SetState o i l :=
  optionLoop options args.length ⟨args, d, w, []⟩

/-! ## What one turn does -/

theorem takeSwitch_reports {key : PropertyKey} {off on : CFValue} {arg : String}
    {e : Edit PropertyKey CFValue} {rs : List Report}
    (h : takeSwitch key off on arg = .ok (e, rs)) : rs = [] := by
  unfold takeSwitch at h
  split_ifs at h <;> simp_all

theorem takeUnlessEmpty_reports {key : PropertyKey} {value : String → Option CFValue}
    {arg : String} {e : Edit PropertyKey CFValue} {rs : List Report}
    (h : takeUnlessEmpty key value arg = .ok (e, rs)) : rs = [] := by
  unfold takeUnlessEmpty at h
  split_ifs at h
  · simp_all
  · split at h <;> simp_all

theorem takeChoice_reports {key : PropertyKey} {choices : List Selection}
    {description arg : String} {e : Edit PropertyKey CFValue} {rs : List Report}
    (h : takeChoice key choices description arg = .ok (e, rs)) : rs = [] := by
  unfold takeChoice at h
  split at h
  · simp at h
  · split_ifs at h
    simp_all

theorem takeChoices_reports {key : PropertyKey} {choices : List Selection}
    {description arg : String} {e : Edit PropertyKey CFValue} {rs : List Report}
    (h : takeChoices key choices description arg = .ok (e, rs)) :
    ∀ r ∈ rs, r.ends = false := by
  unfold takeChoices at h
  split_ifs at h
  · simp_all
  · split at h
    · simp_all
    · simp_all
    · simp only [Except.ok.injEq, Prod.mk.injEq] at h
      simp [← h.2, Report.passOver]

/-- What the `switch` prints when it fails ends the command; otherwise it has used up some of
the arguments, and what it prints does not. -/
def Switched.Regular (args : List String) : Switched o i l → Prop
  | .fails r => r.ends = true
  | .goesOn args' _ reports => args' <:+ args ∧ ∀ r ∈ reports, r.ends = false

theorem switchValue_regular {missing : String} {take : String → Taken}
    (htake : ∀ arg e rs, take arg = .ok (e, rs) → ∀ r ∈ rs, r.ends = false)
    (args : List String) (d : Draft o i l) : (switchValue missing take args d).Regular args := by
  cases args with
  | nil => rfl
  | cons arg rest =>
    unfold switchValue
    dsimp only
    cases h : take arg with
    | error text => rfl
    | ok taken =>
      obtain ⟨e, rs⟩ := taken
      exact ⟨List.suffix_cons arg rest, htake arg e rs h⟩

theorem OptionRow.switch_regular (row : OptionRow o i l) (args : List String)
    (d : Draft o i l) : (row.switch args d).Regular args := by
  have none_of_nil : ∀ {rs : List Report}, rs = [] → ∀ r ∈ rs, r.ends = false := by
    rintro rs rfl r hr
    simp at hr
  unfold OptionRow.switch
  cases row.type with
  | isOther => exact ⟨List.suffix_refl args, none_of_nil rfl⟩
  | isHelp => rfl
  | isChooseOne key choices =>
    exact switchValue_regular (fun _ _ _ h => none_of_nil (takeChoice_reports h)) args d
  | isChooseMultiple key choices =>
    exact switchValue_regular (fun _ _ _ h => takeChoices_reports h) args d
  | isBool key | isBoolean key =>
    exact switchValue_regular (fun _ _ _ h => none_of_nil (takeSwitch_reports h)) args d
  | isNumber key | isString key | isStringArray key =>
    exact switchValue_regular (fun _ _ _ h => none_of_nil (takeUnlessEmpty_reports h)) args d

/-! ## The rule for the loop -/

/-- The state after a handler has run. -/
def SetState.after (s : SetState o i l) (h : Handled o i l) : SetState o i l where
  args := s.args.drop (h.nArgs.getD 0)
  draft := h.draft
  world := h.world
  reports := s.reports ++ h.reports

/-- What can be said between two turns of the loop over a table: a failure may be reported, and
the `switch` may use up arguments and edit the copy. -/
structure LoopInvariant (options : List (OptionRow o i l)) (I : Bool → SetState o i l → Prop) :
    Prop where
  stop : ∀ s r, I true s → r.ends = true → I false { s with reports := s.reports ++ [r] }
  edit : ∀ row ∈ options, ∀ s name args args' d rs, s.args = name :: args → I true s →
    row.switch args s.draft = .goesOn args' d rs →
      I true ⟨args', d, s.world, s.reports ++ rs⟩

/-- It is enough to know that arguments are used up and that what is printed does not end the
command. -/
theorem LoopInvariant.of_regular {options : List (OptionRow o i l)}
    {I : Bool → SetState o i l → Prop}
    (stop : ∀ s r, I true s → r.ends = true → I false { s with reports := s.reports ++ [r] })
    (edit : ∀ s args d rs, I true s → args <:+ s.args → (∀ r ∈ rs, r.ends = false) →
      I true ⟨args, d, s.world, s.reports ++ rs⟩) : LoopInvariant options I where
  stop := stop
  edit := by
    intro row _ s name args args' d rs hs h hrun
    have hswitch := row.switch_regular args s.draft
    simp only [hrun, Switched.Regular] at hswitch
    exact edit s args' d rs h (hs ▸ hswitch.1.trans (List.suffix_cons name args)) hswitch.2

/-- A handler keeps what is said between two turns. -/
def OptionHandler.Keeps (h : OptionHandler o i l) (I : Bool → SetState o i l → Prop) : Prop :=
  ∀ s : SetState o i l, I true s →
    I (h s.args s.draft s.world).nArgs.isSome (s.after (h s.args s.draft s.world))

/-- All the handlers of a table keep it. -/
def TableKeeps (options : List (OptionRow o i l)) (I : Bool → SetState o i l → Prop) : Prop :=
  ∀ row ∈ options, ∀ h ∈ row.handler, OptionHandler.Keeps h I

theorem optionPass_invariant {options : List (OptionRow o i l)}
    {I : Bool → SetState o i l → Prop} (hI : LoopInvariant options I)
    (hrows : TableKeeps options I)
    {s : SetState o i l} (h : I true s) :
    I (optionPass options s).1 (optionPass options s).2 := by
  obtain ⟨args, d, w, reports⟩ := s
  cases args with
  | nil => exact h
  | cons name args =>
    cases hfind : findOption name options with
    | none =>
      simp only [optionPass, hfind]
      exact hI.stop _ _ h rfl
    | some row =>
      have hmem : row ∈ options := List.mem_of_find?_eq_some hfind
      cases hrun : row.switch args d with
      | fails r =>
        have hswitch := row.switch_regular args d
        simp only [hrun, Switched.Regular] at hswitch
        simp only [optionPass, hfind, hrun]
        exact hI.stop _ _ h hswitch
      | goesOn args' d' rs =>
        have hedit : I true ⟨args', d', w, reports ++ rs⟩ :=
          hI.edit row hmem _ name args args' d' rs rfl h hrun
        simp only [optionPass, hfind, hrun, OptionRow.handle]
        cases hh : row.handler with
        | none => simpa [Handled.uses] using hedit
        | some f => exact hrows row hmem f hh _ hedit

theorem optionLoop_invariant {options : List (OptionRow o i l)}
    {I : Bool → SetState o i l → Prop} (hI : LoopInvariant options I)
    (hrows : TableKeeps options I)
    (fuel : Nat) (s : SetState o i l) (h : I true s) :
    I (optionLoop options fuel s).1 (optionLoop options fuel s).2 := by
  induction fuel generalizing s with
  | zero => exact h
  | succ fuel ih =>
    have hpass := optionPass_invariant hI hrows h
    unfold optionLoop
    split
    · exact h
    · cases hb : (optionPass options s).1 with
      | false => simpa [hb] using hpass
      | true =>
        rw [hb] at hpass
        simpa [hb] using ih _ hpass

/-- What is said of the arguments before the command, and kept by the handlers of the table,
is said of what `_process_options` leaves. -/
theorem processOptions_invariant {options : List (OptionRow o i l)}
    {I : Bool → SetState o i l → Prop} (hI : LoopInvariant options I)
    (hrows : TableKeeps options I)
    {args : List String} {d : Draft o i l} {w : SetWorld} (h : I true ⟨args, d, w, []⟩) :
    I (processOptions options args d w).1 (processOptions options args d w).2 :=
  optionLoop_invariant hI hrows _ _ h

/-- Every turn uses up the name of an option. -/
theorem optionPass_args_lt (options : List (OptionRow o i l)) {s : SetState o i l}
    (hs : s.args ≠ []) (hpass : (optionPass options s).1 = true) :
    (optionPass options s).2.args.length < s.args.length := by
  obtain ⟨args, d, w, reports⟩ := s
  cases args with
  | nil => exact absurd rfl hs
  | cons name args =>
    cases hfind : findOption name options with
    | none => simp [optionPass, hfind] at hpass
    | some row =>
      have hswitch := row.switch_regular args d
      cases hrun : row.switch args d with
      | fails r => simp [optionPass, hfind, hrun] at hpass
      | goesOn args' d' rs =>
        simp only [hrun, Switched.Regular] at hswitch
        have hle := hswitch.1.length_le
        simp only [optionPass, hfind, hrun, List.length_drop, List.length_cons]
        omega

/-- The loop is never cut short: if it does not fail, it ends with no argument left. -/
theorem processOptions_args {options : List (OptionRow o i l)} {args : List String}
    {d : Draft o i l} {w : SetWorld} (h : (processOptions options args d w).1 = true) :
    (processOptions options args d w).2.args = [] := by
  suffices hloop : ∀ fuel (s : SetState o i l), s.args.length ≤ fuel →
      (optionLoop options fuel s).1 = true → (optionLoop options fuel s).2.args = [] from
    hloop args.length ⟨args, d, w, []⟩ le_rfl h
  intro fuel
  induction fuel with
  | zero =>
    intro s hs _
    exact List.length_eq_zero_iff.1 (Nat.le_zero.1 hs)
  | succ fuel ih =>
    intro s hs hrun
    unfold optionLoop at hrun ⊢
    split at hrun
    · next hnil => simp [hnil]
    · next hne =>
      rw [if_neg hne]
      cases hb : (optionPass options s).1 with
      | false => simp [hb] at hrun
      | true =>
        have hlt := optionPass_args_lt options hne hb
        simp only [hb, if_true] at hrun ⊢
        exact ih _ (by omega) hrun

end ConfigdExtra
