import ConfigdExtra.InterfaceOptions

/-!
# What the arguments of `set interface` ask for

The arguments of `set interface` are pairs of an option and its value; the options `qos`, `IPSec`
and `OnDemandMatch` have a list of options for a value, which takes up the rest. Here they are
read as that, without the loop, the copies and the messages of the command.

* `Meaning` — what an option is about, `Meaning.asks` — the edits it asks for with its value;
* `readOptions` — the edits of a list of options, up to the first one that is rejected;
* `Asked`, `asked` — what a command asks of each configuration.

The answers of the framework to the calls that write through are those of `InterfaceServices`.
-/

namespace ConfigdExtra

open DeferredEdits

/-! ## Values -/

/-- The value of a switch: on, off, or none to remove the key. -/
def askedSwitch (off on : CFValue) (arg : String) : Option (Option CFValue) :=
  if isDisable arg then some (some off)
  else if isEnable arg then some (some on)
  else if arg = "" then some none
  else none

/-- A word of a list of choices that can be had. -/
def availableChoice (choices : List Selection) (word : String) : Option Selection :=
  (findSelection word choices).filter fun c => c.flags &&& selectionNotAvailable = 0

/-- The value of several choices. If one of them cannot be had, none is chosen. -/
def askedChoices (choices : List Selection) (arg : String) : Option CFValue :=
  if arg = "" then none
  else
    match (separated arg).mapM (availableChoice choices) with
    | none => none
    | some chosen =>
      match chosen.filterMap Selection.key with
      | [] => none
      | keys => some (.strings keys)

/-- What an option that edits a key asks for; `none` if its value is rejected. -/
def OptionType.asks (arg : String) : OptionType → Option History
  | .isOther | .isHelp => none
  | .isChooseOne key choices =>
    (availableChoice choices arg).map fun c => [.defer ⟨key, c.key.map .string⟩]
  | .isChooseMultiple key choices => some [.defer ⟨key, askedChoices choices arg⟩]
  | .isBool key =>
    (askedSwitch (.boolean false) (.boolean true) arg).map fun value => [.defer ⟨key, value⟩]
  | .isBoolean key =>
    (askedSwitch (.number 0) (.number 1) arg).map fun value => [.defer ⟨key, value⟩]
  | .isNumber key =>
    if arg = "" then some [.defer ⟨key, none⟩]
    else (copyNumber arg).map fun n => [.defer ⟨key, some (.number n)⟩]
  | .isString key => some [.defer ⟨key, if arg = "" then none else some (.string arg)⟩]
  | .isStringArray key =>
    some [.defer ⟨key, if arg = "" then none else some (.strings (separated arg))⟩]

/-! ## Options -/

/-- The options whose value is a list of options. -/
inductive OptionList
  | qos
  | ipsec
  | onDemand
deriving DecidableEq

/-- What an option is about. -/
inductive Meaning
  /-- the help -/
  | help
  /-- a key of the configuration -/
  | plain (type : OptionType)
  /-- a capability, which is set at once -/
  | capability (key : PropertyKey)
  /-- a password, which goes to the keychain at once if the copy says that it is kept there -/
  | password (encryptionKey : PropertyKey) (type : PasswordType) (key : PropertyKey)
  /-- the way a password is kept; the password is reset -/
  | passwordType (resetKey : PropertyKey) (types : List (String × String)) (key : PropertyKey)
  /-- a list of domains -/
  | domains (key : PropertyKey)
  /-- the rank of the interface, which is in none of the configurations -/
  | rank
  /-- a list of options -/
  | list (kind : OptionList)

/-- What an option with its value asks for, newest first, after what was asked for before; `none`
if it is rejected, or the framework does not take it. -/
def Meaning.asks (svc : InterfaceServices) (copy : History → CFConfiguration) (log : History)
    (arg : String) : Meaning → Option History
  | .help | .list _ => none
  | .plain type => type.asks arg
  | .capability key =>
    (askedSwitch (.number 0) (.number 1) arg).bind fun value =>
      if (svc.setCapability key value log).isNone then some [.through [⟨key, value⟩]] else none
  | .password encryptionKey type key =>
    match (copy log).lookup encryptionKey with
    | none => some [.defer ⟨key, if arg = "" then none else some (inlinePassword arg)⟩]
    | some encryption =>
      if encryption = .string "Keychain" then
        (if arg = "" then svc.removePassword type log else svc.setPassword type arg log).map
          fun es => [.through es]
      else none
  | .passwordType resetKey types key =>
    if arg = "" then some [.defer ⟨resetKey, none⟩, .defer ⟨key, none⟩]
    else
      (types.find? fun type => strcasecmp arg type.1).map fun type =>
        [.defer ⟨resetKey, none⟩, .defer ⟨key, some (.string type.2)⟩]
  | .domains key =>
    (if arg = "" then some [] else (separated arg).mapM cleanupDomainName).map fun domains =>
      [.defer ⟨key, if domains = [] then none else some (.strings domains)⟩]
  | .rank =>
    (rankOfArg arg).bind fun rank =>
      if svc.active && svc.setPrimaryRank rank then some [] else none

/-! ## Lists of options -/

/-- A list of options: what it asks for, newest first, whether it stops at an option that is
rejected, and the option that takes up the rest, if there is one. -/
structure OptionsRead where
  log : History
  stops : Bool
  list : Option (OptionList × List String)

/-- Read a list of options pair by pair, after what was asked for before. -/
def readOptions (meaning : String → Option Meaning)
    (asks : History → String → Meaning → Option History) : List String → History → OptionsRead
  | [], log => ⟨log, false, none⟩
  | name :: args, log =>
    match meaning name, args with
    | none, _ | some _, [] => ⟨log, true, none⟩
    | some (.list kind), args => ⟨log, false, some (kind, args)⟩
    | some m, arg :: rest =>
      match asks log arg m with
      | none => ⟨log, true, none⟩
      | some actions => readOptions meaning asks rest (actions ++ log)

/-- The name and the type of an option of a table. -/
def OptionRow.entry {o i : CFConfiguration} {l : CFConfiguration → CFConfiguration}
    (row : OptionRow o i l) : String × OptionType :=
  (row.option, row.type)

/-- What an option of a table means: the key it edits, unless it is handled in its own way. -/
def meaningIn (entries : List (String × OptionType)) (handled : List (String × Meaning))
    (name : String) : Option Meaning :=
  (entries.find? fun e => strcasecmp name e.1).map fun e =>
    match e.2 with
    | .isOther => (handled.lookup e.1).getD .help
    | .isHelp => .help
    | type => .plain type

section Tables

variable (svc : InterfaceServices)

/-- The entries of a table are the same whatever is edited. -/
abbrev entriesOf (rows : List (OptionRow ∅ ∅ id)) : List (String × OptionType) :=
  rows.map OptionRow.entry

/-- `qosOptions` -/
def qosMeaning : String → Option Meaning := meaningIn (entriesOf qosOptions) []

/-- `bondOptions` -/
def bondMeaning : String → Option Meaning := meaningIn (entriesOf bondOptions) []

/-- `bridgeOptions` -/
def bridgeMeaning : String → Option Meaning := meaningIn (entriesOf bridgeOptions) []

/-- `firewireOptions` -/
def firewireMeaning : String → Option Meaning := meaningIn (entriesOf firewireOptions) []

/-- `modemOptions` -/
def modemMeaning : String → Option Meaning := meaningIn (entriesOf modemOptions) []

/-- `airportOptions` -/
def airportMeaning : String → Option Meaning :=
  meaningIn (entriesOf (airportOptions svc)) [("rank", .rank), ("qos", .list .qos)]

/-- `ethernetOptions` -/
def ethernetMeaning : String → Option Meaning :=
  meaningIn (entriesOf (ethernetOptions svc))
    [("av", .capability .kSCPropNetEthernetCapabilityAV),
      ("lro", .capability .kSCPropNetEthernetCapabilityLRO),
      ("rxcsum", .capability .kSCPropNetEthernetCapabilityRXCSUM),
      ("tso", .capability .kSCPropNetEthernetCapabilityTSO),
      ("txcsum", .capability .kSCPropNetEthernetCapabilityTXCSUM),
      ("rank", .rank), ("qos", .list .qos)]

/-- `ipsecOnDemandOptions` -/
def onDemandMeaning : String → Option Meaning :=
  meaningIn (entriesOf ipsecOnDemandOptions)
    [("OnDemandMatchDomainsAlways", .domains .kSCPropNetIPSecOnDemandMatchDomainsAlways),
      ("always", .domains .kSCPropNetIPSecOnDemandMatchDomainsAlways),
      ("OnDemandMatchDomainsOnRetry", .domains .kSCPropNetIPSecOnDemandMatchDomainsOnRetry),
      ("retry", .domains .kSCPropNetIPSecOnDemandMatchDomainsOnRetry),
      ("OnDemandMatchDomainsNever", .domains .kSCPropNetIPSecOnDemandMatchDomainsNever),
      ("never", .domains .kSCPropNetIPSecOnDemandMatchDomainsNever)]

/-- The shared secret of IPSec. -/
def sharedSecretMeanings : List (String × Meaning) :=
  [("SharedSecret", .password .kSCPropNetIPSecSharedSecretEncryption .ipsecSharedSecret
      .kSCPropNetIPSecSharedSecret),
    ("SharedSecretEncryption", .passwordType .kSCPropNetIPSecSharedSecret
      [("keychain", "Keychain")] .kSCPropNetIPSecSharedSecretEncryption)]

/-- `ipsecOptions` -/
def ipsecMeaning : String → Option Meaning :=
  meaningIn (entriesOf (ipsecOptions svc)) (sharedSecretMeanings ++
    [("XAuthPassword", .password .kSCPropNetIPSecXAuthPasswordEncryption .ipsecXAuth
        .kSCPropNetIPSecXAuthPassword),
      ("XAuthPasswordEncryption", .passwordType .kSCPropNetIPSecXAuthPassword
        [("keychain", "Keychain")] .kSCPropNetIPSecXAuthPasswordEncryption),
      ("OnDemandMatch", .list .onDemand)])

/-- `l2tp_ipsecOptions` -/
def l2tpIPSecMeaning : String → Option Meaning :=
  meaningIn (entriesOf (l2tpIPSecOptions svc)) sharedSecretMeanings

/-- `pppOptions` -/
def pppMeaning : String → Option Meaning :=
  let password := Meaning.password .kSCPropNetPPPAuthPasswordEncryption .ppp
    .kSCPropNetPPPAuthPassword
  meaningIn (entriesOf (pppOptions svc))
    [("AuthPassword", password), ("Password", password),
      ("AuthPasswordEncryption", .passwordType .kSCPropNetPPPAuthPassword
        [("keychain", "Keychain")] .kSCPropNetPPPAuthPasswordEncryption),
      ("IPSec", .list .ipsec)]

/-- `vpnOptions` -/
def vpnMeaning : String → Option Meaning :=
  let password := Meaning.password .kSCPropNetVPNAuthPasswordEncryption .vpn
    .kSCPropNetVPNAuthPassword
  meaningIn (entriesOf (vpnOptions svc))
    [("AuthPassword", password), ("Password", password),
      ("AuthPasswordEncryption", .passwordType .kSCPropNetVPNAuthPassword
        [("keychain", "Keychain"), ("prompt", "Prompt")] .kSCPropNetVPNAuthPasswordEncryption)]

end Tables

/-! ## The command -/

/-- The configuration that is edited after what was asked of it. -/
def copyAfter (found : CFConfiguration) (reload : CFConfiguration → CFConfiguration)
    (log : History) : CFConfiguration :=
  (replay found (editCopy found) reload log).2

/-- The configuration as the options that write through leave it. -/
def writtenThrough (found : CFConfiguration) (log : History) : CFConfiguration :=
  found.putAll (throughEdits log)

/-- The editing of a configuration by a list of options of its own. -/
def OptionsRead.session (found : CFConfiguration) (reload : CFConfiguration → CFConfiguration)
    (setter : CFConfiguration → Option StoreError) (r : OptionsRead) : Session PropertyKey CFValue :=
  ⟨found, editCopy found, reload, .ofLog r.log, !r.stops,
    (setter (copyAfter found reload r.log)).isNone⟩

/-- What a command asks for. -/
structure Asked where
  /-- of the configuration of the interface -/
  own : History
  /-- the options of a media type that was given without options -/
  media : List (Edit PropertyKey CFValue)
  /-- of the extended configuration, by the list of `IPSec` -/
  ipsec : Option OptionsRead
  /-- of the QoS marking policy, by the list of `qos` -/
  qos : Option OptionsRead
  /-- an option is rejected, and the command ends there -/
  stops : Bool

/-- A command that is rejected before its options are read. -/
def Asked.refused : Asked := ⟨[], [], none, none, true⟩

/-- What is asked for with the list that takes up the rest of the command. -/
def OptionsRead.asked (svc : InterfaceServices) (configuration ipsec qos : CFConfiguration)
    (r : OptionsRead) : Asked :=
  match r.list with
  | none => ⟨r.log, [], none, none, r.stops⟩
  | some (.onDemand, args) =>
    ⟨(readOptions onDemandMeaning (Meaning.asks svc (copyAfter configuration id)) args r.log).log,
      [], none, none, false⟩
  | some (.qos, args) =>
    if svc.bsdName.isNone then ⟨r.log, [], none, none, true⟩
    else
      ⟨r.log, [], none,
        some (readOptions qosMeaning (Meaning.asks svc (copyAfter qos id)) args []), false⟩
  | some (.ipsec, args) =>
    -- the copy of the extended configuration is loaded from the configuration of the interface
    let reload := fun _ => writtenThrough configuration r.log
    if svc.childType = some kSCNetworkInterfaceTypeL2TP then
      ⟨r.log, [], some (readOptions (l2tpIPSecMeaning svc)
        (Meaning.asks svc (copyAfter ipsec reload)) args []), none, false⟩
    else ⟨r.log, [], none, none, true⟩

/-- The media type and its options can be had together. -/
def mediaValid (svc : InterfaceServices) (c : CFConfiguration) : Bool :=
  (mtuRefused svc c).isNone &&
    match c.lookup .kSCPropNetEthernetMediaSubType with
    | none => (c.lookup .kSCPropNetEthernetMediaOptions).isNone
    | some subtype =>
      svc.copyMediaOptions && svc.mediaAvailable && decide (subtype ∈ svc.mediaSubTypes.getD []) &&
        decide ((c.lookup .kSCPropNetEthernetMediaOptions).getD (.strings []) ∈
          (svc.mediaSubTypeOptions subtype).getD [])

/-- A media type without options has none. -/
def mediaDefault (c : CFConfiguration) : List (Edit PropertyKey CFValue) :=
  if (c.lookup .kSCPropNetEthernetMediaSubType).isSome ∧
      c.lookup .kSCPropNetEthernetMediaOptions = none then
    [⟨.kSCPropNetEthernetMediaOptions, some (.strings [])⟩]
  else []

/-- The media of a command are looked at when its options have been read. -/
def Asked.checkMedia (svc : InterfaceServices) (configuration : CFConfiguration) (a : Asked) :
    Asked :=
  let copy := copyAfter configuration id a.own
  if a.stops then a
  else if mediaValid svc copy then { a with media := mediaDefault copy }
  else { a with stops := true }

/-- The options of a type of interface, and whether it has media. -/
def interfaceMeaning (svc : InterfaceServices) : Option (Bool × (String → Option Meaning)) :=
  if svc.interfaceType = kSCNetworkInterfaceTypeEthernet then some (true, ethernetMeaning svc)
  else if svc.interfaceType = kSCNetworkInterfaceTypeFireWire then some (true, firewireMeaning)
  else if svc.interfaceType = kSCNetworkInterfaceTypeIPSec then some (false, ipsecMeaning svc)
  else if svc.interfaceType = kSCNetworkInterfaceTypeModem then some (false, modemMeaning)
  else if svc.interfaceType = kSCNetworkInterfaceTypeIEEE80211 then some (true, airportMeaning svc)
  else if svc.interfaceType = kSCNetworkInterfaceTypePPP then some (false, pppMeaning svc)
  else if svc.interfaceType = kSCNetworkInterfaceTypeBond then some (true, bondMeaning)
  else if svc.interfaceType = kSCNetworkInterfaceTypeBridge then some (true, bridgeMeaning)
  else if svc.interfaceType = kSCNetworkInterfaceTypeVLAN then none
  else if svc.interfaceType = kSCNetworkInterfaceTypeVPN then some (false, vpnMeaning svc)
  else none

/-- What the options ask for, if the interface has any. -/
def askedOf (svc : InterfaceServices) (configuration ipsec qos : CFConfiguration)
    (args : List String) : Option (Bool × (String → Option Meaning)) → Asked
  | none => .refused
  | some (hasMedia, meaning) =>
    if hasMedia && svc.bsdName.isNone then .refused
    else
      let a := (readOptions meaning (Meaning.asks svc (copyAfter configuration id)) args
        []).asked svc configuration ipsec qos
      if hasMedia then a.checkMedia svc configuration else a

/-- What a command with these arguments asks for. -/
def asked (svc : InterfaceServices) (configuration ipsec qos : CFConfiguration)
    (args : List String) : Asked :=
  if args = [] then .refused
  else askedOf svc configuration ipsec qos args (interfaceMeaning svc)

namespace Asked

variable (a : Asked) (configuration : CFConfiguration)

/-- The copy of the configuration of the interface at the end. -/
def copy : CFConfiguration := (copyAfter configuration id a.own).putAll a.media

/-- What the copy of the extended configuration is loaded from. -/
def reloadIPSec : CFConfiguration → CFConfiguration :=
  fun _ => writtenThrough configuration a.own

/-- The editing of the configuration of the interface. -/
def session (svc : InterfaceServices) : Session PropertyKey CFValue :=
  ⟨configuration, editCopy configuration, id, (Draft.ofLog a.own).putAll a.media, !a.stops,
    (svc.setConfiguration (a.copy configuration)).isNone⟩

/-- The editing of the extended configuration. -/
def ipsecSession (svc : InterfaceServices) (ipsec : CFConfiguration) :
    Session PropertyKey CFValue :=
  (a.ipsec.map (OptionsRead.session ipsec (a.reloadIPSec configuration)
    svc.setExtendedConfiguration)).getD (.idle ipsec)

/-- The editing of the QoS marking policy. -/
def qosSession (svc : InterfaceServices) (qos : CFConfiguration) : Session PropertyKey CFValue :=
  (a.qos.map (OptionsRead.session qos id svc.setQoSMarkingPolicy)).getD (.idle qos)

/-- The extended configuration as the options that write through leave it. -/
def writtenIPSec (ipsec : CFConfiguration) : CFConfiguration :=
  writtenThrough ipsec ((a.ipsec.map OptionsRead.log).getD [])

/-- The QoS marking policy as the options that write through leave it. -/
def writtenQoS (qos : CFConfiguration) : CFConfiguration :=
  writtenThrough qos ((a.qos.map OptionsRead.log).getD [])

end Asked

/-- A copy is stored at the end: its options were accepted, it is not the configuration that was
found, and the framework takes it. -/
structure CopyStored (found copy : CFConfiguration) (stops : Bool)
    (setter : CFConfiguration → Option StoreError) : Prop where
  accepted : stops = false
  differs : copy ≠ found
  taken : setter copy = none

/-- The copy that a list of options has for itself is stored. -/
def OptionsRead.Stored (found : CFConfiguration) (reload : CFConfiguration → CFConfiguration)
    (setter : CFConfiguration → Option StoreError) (r : OptionsRead) : Prop :=
  CopyStored found (copyAfter found reload r.log) r.stops setter

/-- A command stores one of its copies. -/
def Asked.Stores (svc : InterfaceServices) (configuration ipsec qos : CFConfiguration)
    (a : Asked) : Prop :=
  CopyStored configuration (a.copy configuration) a.stops svc.setConfiguration ∨
    (∃ r ∈ a.ipsec, r.Stored ipsec (a.reloadIPSec configuration) svc.setExtendedConfiguration) ∨
    ∃ r ∈ a.qos, r.Stored qos id svc.setQoSMarkingPolicy

end ConfigdExtra
