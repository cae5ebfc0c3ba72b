import ConfigdExtra.NetworkInterface
import ConfigdExtra.ScutilOptions
import ConfigdExtra.Utf16

/-!
# `set interface`

The options of `set interface` and their handlers. Most options edit the copy of the
configuration that `set_interface` stores at the end. A capability and a password kept in the
keychain go to the interface at once, and `updateInterfaceConfiguration` loads the copy anew.
The options `qos` and `IPSec` have configurations of their own, with a list of options that
takes up the rest of the command.

* `InterfaceServices` — the selected interface, and what the framework answers about it;
* the handlers and the tables of options, under the names of `net_interface.c`;
* `setInterface` — the command.
-/

namespace ConfigdExtra

open DeferredEdits

/-! ## The selected interface -/

/-- `SCNetworkInterfacePasswordType`, as far as it is used here -/
inductive PasswordType
  | ppp
  | ipsecSharedSecret
  | ipsecXAuth
  | vpn
deriving DecidableEq

/-- Why the framework has not stored a configuration. -/
inductive StoreError
  | noKey
  | other (text : String)
deriving DecidableEq

/-- What has been done to a configuration so far, newest first. -/
abbrev History := List (Action PropertyKey CFValue)

/-- The selected interface and the answers of the framework about it. The answers to the calls
that write through may depend on all that the command has done before. -/
structure InterfaceServices where
  /-- `SCNetworkInterfaceGetInterfaceType` -/
  interfaceType : String
  /-- `SCNetworkInterfaceGetBSDName` -/
  bsdName : Option String
  /-- the type of `SCNetworkInterfaceGetInterface` -/
  childType : Option String
  /-- `SCNetworkInterfaceCopyMTU`: the least and the greatest MTU -/
  mtuRange : Option (Int × Int)
  /-- `SCNetworkInterfaceCopyMediaOptions` succeeds -/
  copyMediaOptions : Bool
  /-- and there are some -/
  mediaAvailable : Bool
  /-- `SCNetworkInterfaceCopyMediaSubTypes` -/
  mediaSubTypes : Option (List CFValue)
  /-- `SCNetworkInterfaceCopyMediaSubTypeOptions` -/
  mediaSubTypeOptions : CFValue → Option (List CFValue)
  /-- `_SCNetworkInterfaceCopyActive` finds the interface -/
  active : Bool
  /-- `SCNetworkInterfaceSetPrimaryRank` -/
  setPrimaryRank : PrimaryRank → Bool
  /-- `SCNetworkInterfaceSetCapability`, which sets or removes the entry of the capability in
  the configuration: the error, if it fails -/
  setCapability : PropertyKey → Option CFValue → History → Option String
  /-- `SCNetworkInterfaceSetPassword`: the entries it changes in the configuration the password
  belongs to, if it succeeds -/
  setPassword : PasswordType → String → History → Option (List (Edit PropertyKey CFValue))
  /-- `SCNetworkInterfaceRemovePassword` -/
  removePassword : PasswordType → History → Option (List (Edit PropertyKey CFValue))
  /-- `SCNetworkInterfaceSetConfiguration`: the error, if it fails -/
  setConfiguration : CFConfiguration → Option StoreError
  /-- `SCNetworkInterfaceSetQoSMarkingPolicy` -/
  setQoSMarkingPolicy : CFConfiguration → Option StoreError
  /-- `SCNetworkInterfaceSetExtendedConfiguration` for `kSCEntNetIPSec` -/
  setExtendedConfiguration : CFConfiguration → Option StoreError
  /-- the string of a key -/
  keyString : PropertyKey → String
  /-- `%@` of a value -/
  describe : CFValue → String

variable {o i : CFConfiguration} {l : CFConfiguration → CFConfiguration}

/-! ## Storing a configuration -/

/-- `SCErrorString`, but for `kSCStatusNoKey` the message of the command. -/
def StoreError.text (noKey : String) : StoreError → String
  | .noKey => noKey
  | .other text => text ++ "\n"

/-- A copy that was edited to the end: it is stored if the options were accepted and it differs
from the configuration as it was found. -/
structure Finished where
  session : Session PropertyKey CFValue
  world : SetWorld
  reports : List Report

/-- What `set_interface`, `__doQoSMarking` and `__doPPPIPSec` do once `_process_options` has
returned. -/
def finish (setter : CFConfiguration → Option StoreError) (noKey : String)
    (r : Bool × SetState o i l) : Finished :=
  let s : Session PropertyKey CFValue :=
    ⟨o, i, l, r.2.draft, r.1, (setter r.2.draft.pending).isNone⟩
  { session := s
    world := { r.2.world with prefsChanged := r.2.world.prefsChanged || s.saved }
    reports := r.2.reports ++
      if r.1 && decide (r.2.draft.pending ≠ o) then
        ((setter r.2.draft.pending).map fun e => ⟨.notStored, false, e.text noKey⟩).toList
      else [] }

/-! ## Ranks and quality of service -/

/-- The words for the ranks. -/
def rankOfArg (arg : String) : Option PrimaryRank :=
  if arg = "" then some .default
  else if strcasecmp arg "First" then some .first
  else if strcasecmp arg "Last" then some .last
  else if strcasecmp arg "Never" then some .never
  else if strcasecmp arg "Scoped" then some .scoped
  else none

/-- `__doRank`. Without a BSD name it returns `FALSE`, so that the rank is read as the next
option. -/
def doRank (svc : InterfaceServices) (description : Option String) : OptionHandler o i l
  | [], d, w => .refuses d w (description.getD "rank" ++ " not specified\n")
  | arg :: _, d, w =>
    match rankOfArg arg with
    | none => .refuses d w "invalid rank\n"
    | some rank =>
      if svc.bsdName.isNone then
        ⟨some 0, d, w, [⟨.rejected, false, "no BSD interface\n"⟩]⟩
      else if !svc.active then .refuses d w "No active interface\n"
      else if !svc.setPrimaryRank rank then
        .refuses d w "could not update per-interface rank\n"
      else .uses 1 d { w with rank := some rank }

/-- `qosOptions` -/
def qosOptions : List (OptionRow o i l) := [
  ⟨"enabled", none, .isBool .kSCPropNetQoSMarkingEnabled, none⟩,
  ⟨"apple-av", none, .isBool .kSCPropNetQoSMarkingAppleAudioVideoCalls, none⟩,
  ⟨"bundle-ids", none, .isStringArray .kSCPropNetQoSMarkingWhitelistedAppIdentifiers, none⟩,
  ⟨"?", none, .isHelp, none⟩]

/-- `__doQoSMarking`. It returns `argc` whether its options were accepted or not. -/
def doQoSMarking (svc : InterfaceServices) : OptionHandler o i l
  | [], d, w => .refuses d w "set what?\n"
  | arg :: rest, d, w =>
    if svc.bsdName.isNone then .refuses d w "no BSD interface\n"
    else
      let policy := w.qos.result
      let start : Draft policy (editCopy policy) id := .start
      let f := finish svc.setQoSMarkingPolicy "could not update per-interface QoS marking policy\n"
        (processOptions qosOptions (arg :: rest) start w)
      { nArgs := some (arg :: rest).length
        draft := d
        world := { f.world with qos := f.session }
        reports := f.reports.map Report.passOver }

/-! ## Bonds, bridges, AirPort and Ethernet -/

/-- `bondOptions` -/
def bondOptions : List (OptionRow o i l) := [
  ⟨"mtu", none, .isNumber .kSCPropNetEthernetMTU, none⟩,
  ⟨"?", none, .isHelp, none⟩]

/-- `bridgeOptions` -/
def bridgeOptions : List (OptionRow o i l) := [
  ⟨"mtu", none, .isNumber .kSCPropNetEthernetMTU, none⟩,
  ⟨"?", none, .isHelp, none⟩]

/-- `airportOptions` -/
def airportOptions (svc : InterfaceServices) : List (OptionRow o i l) := [
  ⟨"mtu", none, .isNumber .kSCPropNetEthernetMTU, none⟩,
  ⟨"media", none, .isString .kSCPropNetEthernetMediaSubType, none⟩,
  ⟨"mediaopt", none, .isStringArray .kSCPropNetEthernetMediaOptions, none⟩,
  ⟨"rank", none, .isOther, some (doRank svc none)⟩,
  ⟨"qos", none, .isOther, some (doQoSMarking svc)⟩,
  ⟨"?", none, .isHelp, none⟩]

/-- `__doCapability` -/
def doCapability (svc : InterfaceServices) (key : PropertyKey) (description : Option String) :
    OptionHandler o i l
  | [], d, w => .refuses d w (description.getD "enable/disable" ++ " not specified\n")
  | arg :: _, d, w =>
    let set (value : Option CFValue) : Handled o i l :=
      match svc.setCapability key value d.log with
      | none => .uses 1 (d.writeThrough [⟨key, value⟩]) w
      | some error => .refuses d w (svc.keyString key ++ " not updated: " ++ error ++ "\n")
    if arg = "" then set none
    else if isDisable arg then set (some (.number 0))
    else if isEnable arg then set (some (.number 1))
    else .refuses d w "invalid value\n"

/-- `ethernetOptions` -/
def ethernetOptions (svc : InterfaceServices) : List (OptionRow o i l) := [
  ⟨"mtu", none, .isNumber .kSCPropNetEthernetMTU, none⟩,
  ⟨"media", none, .isString .kSCPropNetEthernetMediaSubType, none⟩,
  ⟨"mediaopt", none, .isStringArray .kSCPropNetEthernetMediaOptions, none⟩,
  ⟨"av", none, .isOther, some (doCapability svc .kSCPropNetEthernetCapabilityAV none)⟩,
  ⟨"lro", none, .isOther, some (doCapability svc .kSCPropNetEthernetCapabilityLRO none)⟩,
  ⟨"rxcsum", none, .isOther, some (doCapability svc .kSCPropNetEthernetCapabilityRXCSUM none)⟩,
  ⟨"tso", none, .isOther, some (doCapability svc .kSCPropNetEthernetCapabilityTSO none)⟩,
  ⟨"txcsum", none, .isOther, some (doCapability svc .kSCPropNetEthernetCapabilityTXCSUM none)⟩,
  ⟨"rank", none, .isOther, some (doRank svc none)⟩,
  ⟨"qos", none, .isOther, some (doQoSMarking svc)⟩,
  ⟨"?", none, .isHelp, none⟩]

/-! ## Passwords -/

/-- A password that is kept in the configuration. -/
def inlinePassword (arg : String) : CFValue :=
  .data (arg.toList.flatMap utf16Units)

/-- What the handlers of passwords differ in: the key with the way the password is kept, the
value of it for the keychain, the type of the password, and the messages. -/
structure PasswordOption where
  encryptionKey : PropertyKey
  keychain : String
  type : PasswordType
  missing : String
  unsupported : String
  unsupportedRemove : String

/-- The handlers of passwords. A password in the keychain is written through. -/
def doPassword (svc : InterfaceServices) (p : PasswordOption) (key : PropertyKey) :
    OptionHandler o i l
  | [], d, w => .refuses d w p.missing
  | arg :: _, d, w =>
    match d.pending.lookup p.encryptionKey with
    | none =>
      if arg = "" then .uses 1 (d.put ⟨key, none⟩) w
      else .uses 1 (d.put ⟨key, some (inlinePassword arg)⟩) w
    | some encryption =>
      if encryption = .string p.keychain then
        match if arg = "" then svc.removePassword p.type d.log
          else svc.setPassword p.type arg d.log with
        | some es => .uses 1 (d.writeThrough es) w
        | none => .refuses d w ""
      else
        .refuses d w ((if arg = "" then p.unsupportedRemove else p.unsupported) ++
          " type \"" ++ svc.describe encryption ++ "\" not supported\n")

/-- The handlers of the way a password is kept: the words for it, the password that is reset,
and the messages. -/
def doPasswordType (resetKey : PropertyKey) (types : List (String × String))
    (missing invalid : String) (key : PropertyKey) : OptionHandler o i l
  | [], d, w => .refuses d w missing
  | arg :: _, d, w =>
    if arg = "" then .uses 1 ((d.put ⟨key, none⟩).put ⟨resetKey, none⟩) w
    else
      match types.find? fun type => strcasecmp arg type.1 with
      | some type => .uses 1 ((d.put ⟨key, some (.string type.2)⟩).put ⟨resetKey, none⟩) w
      | none => .refuses d w invalid

/-! ## IPSec -/

/-- `__doIPSecSharedSecret` -/
def doIPSecSharedSecret (svc : InterfaceServices) (key : PropertyKey) : OptionHandler o i l :=
  doPassword svc
    { encryptionKey := .kSCPropNetIPSecSharedSecretEncryption
      keychain := "Keychain"
      type := .ipsecSharedSecret
      missing := "IPSec shared secret not specified\n"
      unsupported := "IPSec shared secret"
      unsupportedRemove := "IPSec shared secret" } key

/-- `__doIPSecSharedSecretType` -/
def doIPSecSharedSecretType (key : PropertyKey) : OptionHandler o i l :=
  doPasswordType .kSCPropNetIPSecSharedSecret [("keychain", "Keychain")]
    "IPSec shared secret type mode not specified\n" "invalid shared secret type\n" key

/-- `__doIPSecXAuthPassword` -/
def doIPSecXAuthPassword (svc : InterfaceServices) (key : PropertyKey) : OptionHandler o i l :=
  doPassword svc
    { encryptionKey := .kSCPropNetIPSecXAuthPasswordEncryption
      keychain := "Keychain"
      type := .ipsecXAuth
      missing := "IPSec XAuth password not specified\n"
      unsupported := "IPSec XAuthPassword"
      unsupportedRemove := "IPSec XAuthPassword" } key

/-- `__doIPSecXAuthPasswordType` -/
def doIPSecXAuthPasswordType (key : PropertyKey) : OptionHandler o i l :=
  doPasswordType .kSCPropNetIPSecXAuthPassword [("keychain", "Keychain")]
    "IPSec XAuth password type mode not specified\n" "invalid XAuth password type\n" key

/-- The characters `CFStringTrimWhitespace` trims. -/
def isWhitespaceAndNewline (c : Char) : Bool :=
  (9 ≤ c.toNat && c.toNat ≤ 13) || c.toNat == 0x20 || c.toNat == 0x85 || c.toNat == 0xA0 ||
    c.toNat == 0x1680 || (0x2000 ≤ c.toNat && c.toNat ≤ 0x200B) || c.toNat == 0x2028 ||
    c.toNat == 0x2029 || c.toNat == 0x202F || c.toNat == 0x205F || c.toNat == 0x3000

/-- A string without the characters of a kind at its ends. -/
def trim (p : Char → Bool) (cs : List Char) : List Char :=
  (cs.dropWhile p).rdropWhile p

/-- `__cleanupDomainName` -/
def cleanupDomainName (domain : String) : Option String :=
  let name := trim (· == '.') (trim isWhitespaceAndNewline domain.toList)
  if name.isEmpty then none else some (String.ofList name)

/-- The handlers of lists of strings: each of them is parsed, and one that is not valid ends the
command. -/
def doStringList (parse : String → Option String) (missing invalid : String)
    (key : PropertyKey) : OptionHandler o i l
  | [], d, w => .refuses d w missing
  | arg :: _, d, w =>
    match if arg = "" then some [] else (separated arg).mapM parse with
    | none => .refuses d w invalid
    | some [] => .uses 1 (d.put ⟨key, none⟩) w
    | some values => .uses 1 (d.put ⟨key, some (.strings values)⟩) w

/-- `__doOnDemandDomains` -/
def doOnDemandDomains (key : PropertyKey) : OptionHandler o i l :=
  doStringList cleanupDomainName "OnDemand domain name(s) not specified\n"
    "invalid OnDemand domain name\n" key

/-- `ipsecOnDemandOptions` -/
def ipsecOnDemandOptions : List (OptionRow o i l) := [
  ⟨"OnDemandMatchDomainsAlways", some "domain", .isOther,
    some (doOnDemandDomains .kSCPropNetIPSecOnDemandMatchDomainsAlways)⟩,
  ⟨"always", some "domain", .isOther,
    some (doOnDemandDomains .kSCPropNetIPSecOnDemandMatchDomainsAlways)⟩,
  ⟨"OnDemandMatchDomainsOnRetry", some "domain", .isOther,
    some (doOnDemandDomains .kSCPropNetIPSecOnDemandMatchDomainsOnRetry)⟩,
  ⟨"retry", some "domain", .isOther,
    some (doOnDemandDomains .kSCPropNetIPSecOnDemandMatchDomainsOnRetry)⟩,
  ⟨"OnDemandMatchDomainsNever", some "domain", .isOther,
    some (doOnDemandDomains .kSCPropNetIPSecOnDemandMatchDomainsNever)⟩,
  ⟨"never", some "domain", .isOther,
    some (doOnDemandDomains .kSCPropNetIPSecOnDemandMatchDomainsNever)⟩,
  ⟨"?", none, .isHelp, none⟩]

/-- `__doIPSecOnDemandMatch`. Its options edit the same copy; it returns `argc` whether they
were accepted or not. -/
def doIPSecOnDemandMatch : OptionHandler o i l
  | [], d, w => .refuses d w "set what?\n"
  | arg :: rest, d, w =>
    let r := processOptions ipsecOnDemandOptions (arg :: rest) d w
    { nArgs := some (arg :: rest).length
      draft := r.2.draft
      world := r.2.world
      reports := r.2.reports.map Report.passOver }

/-- `ipsecAuthenticationMethodSelections` -/
def ipsecAuthenticationMethodSelections : List Selection := [
  ⟨"SharedSecret", some "SharedSecret", 0⟩,
  ⟨"Certificate", some "Certificate", 0⟩,
  ⟨"Hybrid", some "Hybrid", 0⟩]

/-- `ipsecLocalIdentifierTypeSelections` -/
def ipsecLocalIdentifierTypeSelections : List Selection := [
  ⟨"KeyID", some "KeyID", 0⟩]

/-- `ipsecOptions` -/
def ipsecOptions (svc : InterfaceServices) : List (OptionRow o i l) := [
  ⟨"AuthenticationMethod", none,
    .isChooseOne .kSCPropNetIPSecAuthenticationMethod ipsecAuthenticationMethodSelections,
    none⟩,
  ⟨"LocalIdentifier", none, .isString .kSCPropNetIPSecLocalIdentifier, none⟩,
  ⟨"group", none, .isString .kSCPropNetIPSecLocalIdentifier, none⟩,
  ⟨"LocalIdentifierType", none,
    .isChooseOne .kSCPropNetIPSecLocalIdentifierType ipsecLocalIdentifierTypeSelections,
    none⟩,
  ⟨"RemoteAddress", none, .isString .kSCPropNetIPSecRemoteAddress, none⟩,
  ⟨"SharedSecret", none, .isOther, some (doIPSecSharedSecret svc .kSCPropNetIPSecSharedSecret)⟩,
  ⟨"SharedSecretEncryption", none, .isOther,
    some (doIPSecSharedSecretType .kSCPropNetIPSecSharedSecretEncryption)⟩,
  ⟨"XAuthEnabled", none, .isBoolean .kSCPropNetIPSecXAuthEnabled, none⟩,
  ⟨"XAuthName", none, .isString .kSCPropNetIPSecXAuthName, none⟩,
  ⟨"XAuthPassword", none, .isOther,
    some (doIPSecXAuthPassword svc .kSCPropNetIPSecXAuthPassword)⟩,
  ⟨"XAuthPasswordEncryption", none, .isOther,
    some (doIPSecXAuthPasswordType .kSCPropNetIPSecXAuthPasswordEncryption)⟩,
  ⟨"OnDemandEnabled", none, .isBoolean .kSCPropNetIPSecOnDemandEnabled, none⟩,
  ⟨"OnDemandMatch", none, .isOther, some doIPSecOnDemandMatch⟩,
  ⟨"?", none, .isHelp, none⟩]

/-! ## FireWire and modems -/

/-- `firewireOptions` -/
def firewireOptions : List (OptionRow o i l) := [
  ⟨"mtu", none, .isNumber .kSCPropNetEthernetMTU, none⟩,
  ⟨"media", none, .isString .kSCPropNetEthernetMediaSubType, none⟩,
  ⟨"mediaopt", none, .isStringArray .kSCPropNetEthernetMediaOptions, none⟩,
  ⟨"?", none, .isHelp, none⟩]

/-- `modemDialSelections` -/
def modemDialSelections : List Selection := [
  ⟨"ignore", some "IgnoreDialTone", 0⟩,
  ⟨"manual", some "Manual", 0⟩,
  ⟨"wait", some "WaitForDialTone", 0⟩]

/-- `modemOptions` -/
def modemOptions : List (OptionRow o i l) := [
  ⟨"ConnectionPersonality", some "NULL", .isString .kSCPropNetModemConnectionPersonality, none⟩,
  ⟨"DeviceModel", some "model", .isString .kSCPropNetModemDeviceModel, none⟩,
  ⟨"DeviceVendor", some "vendor", .isString .kSCPropNetModemDeviceVendor, none⟩,
  ⟨"ConnectionScript", some "script", .isString .kSCPropNetModemConnectionScript, none⟩,
  ⟨"DialMode", some "mode", .isChooseOne .kSCPropNetModemDialMode modemDialSelections, none⟩,
  ⟨"CallWaiting", none, .isBoolean .kSCPropNetModemHoldEnabled, none⟩,
  ⟨"CallWaitingAlert", none, .isBoolean .kSCPropNetModemHoldCallWaitingAudibleAlert, none⟩,
  ⟨"CallWaitingDisconnectOnAnswer", none,
    .isBoolean .kSCPropNetModemHoldDisconnectOnAnswer, none⟩,
  ⟨"DataCompression", none, .isBoolean .kSCPropNetModemDataCompression, none⟩,
  ⟨"ErrorCorrection", none, .isBoolean .kSCPropNetModemErrorCorrection, none⟩,
  ⟨"HoldReminder", none, .isBoolean .kSCPropNetModemHoldReminder, none⟩,
  ⟨"HoldReminderTime", some "time", .isNumber .kSCPropNetModemHoldReminderTime, none⟩,
  ⟨"PulseDial", none, .isBoolean .kSCPropNetModemPulseDial, none⟩,
  ⟨"Speaker", none, .isBoolean .kSCPropNetModemSpeaker, none⟩,
  ⟨"?", none, .isHelp, none⟩]

/-! ## PPP -/

/-- `__doPPPAuthPW` -/
def doPPPAuthPW (svc : InterfaceServices) (key : PropertyKey) : OptionHandler o i l :=
  doPassword svc
    { encryptionKey := .kSCPropNetPPPAuthPasswordEncryption
      keychain := "Keychain"
      type := .ppp
      missing := "PPP password not specified\n"
      unsupported := "PPP password"
      unsupportedRemove := "PPP password" } key

/-- `__doPPPAuthPWType` -/
def doPPPAuthPWType (key : PropertyKey) : OptionHandler o i l :=
  doPasswordType .kSCPropNetPPPAuthPassword [("keychain", "Keychain")]
    "PPP password type mode not specified\n" "invalid password type\n" key

/-- `l2tp_ipsecOptions` -/
def l2tpIPSecOptions (svc : InterfaceServices) : List (OptionRow o i l) := [
  ⟨"SharedSecret", none, .isOther, some (doIPSecSharedSecret svc .kSCPropNetIPSecSharedSecret)⟩,
  ⟨"SharedSecretEncryption", none, .isOther,
    some (doIPSecSharedSecretType .kSCPropNetIPSecSharedSecretEncryption)⟩,
  ⟨"?", none, .isHelp, none⟩]

/-- `__doPPPIPSec`. Its options edit a copy of the extended configuration, but
`updateInterfaceConfiguration` loads that copy from the configuration of the interface. It
returns `argc` whether they were accepted or not. -/
def doPPPIPSec (svc : InterfaceServices) : OptionHandler o i l
  | [], d, w => .refuses d w "set what?\n"
  | arg :: rest, d, w =>
    if svc.childType ≠ some kSCNetworkInterfaceTypeL2TP then
      .refuses d w "this interfaces configuration cannot be changed\n"
    else
      let configuration := w.ipsec.result
      let start : Draft configuration (editCopy configuration) (fun _ => d.stored) := .start
      let f := finish svc.setExtendedConfiguration
        "could not update per-service interface configuration\n"
        (processOptions (l2tpIPSecOptions svc) (arg :: rest) start w)
      { nArgs := some (arg :: rest).length
        draft := d
        world := { f.world with ipsec := f.session }
        reports := f.reports.map Report.passOver }

/-- `authPromptSelections` -/
def authPromptSelections : List Selection := [
  ⟨"before", some "Before", 0⟩,
  ⟨"after", some "After", 0⟩]

/-- `authProtocolSelections` -/
def authProtocolSelections : List Selection := [
  ⟨"CHAP", some "CHAP", 0⟩,
  ⟨"EAP", some "EAP", 0⟩,
  ⟨"MSCHAP1", some "MSCHAP1", 0⟩,
  ⟨"MSCHAP2", some "MSCHAP2", 0⟩,
  ⟨"PAP", some "PAP", 0⟩]

/-- `pppOptions` -/
def pppOptions (svc : InterfaceServices) : List (OptionRow o i l) := [
  ⟨"ACSP", none, .isBoolean .kSCPropNetPPPACSPEnabled, none⟩,
  ⟨"ConnectTime", some "?time", .isNumber .kSCPropNetPPPConnectTime, none⟩,
  ⟨"DialOnDemand", none, .isBoolean .kSCPropNetPPPDialOnDemand, none⟩,
  ⟨"DisconnectOnFastUserSwitch", none, .isBoolean .kSCPropNetPPPDisconnectOnFastUserSwitch, none⟩,
  ⟨"DisconnectOnIdle", none, .isBoolean .kSCPropNetPPPDisconnectOnIdle, none⟩,
  ⟨"DisconnectOnIdleTimer", some "timeout", .isNumber .kSCPropNetPPPDisconnectOnIdleTimer, none⟩,
  ⟨"DisconnectOnLogout", none, .isBoolean .kSCPropNetPPPDisconnectOnLogout, none⟩,
  ⟨"DisconnectOnSleep", none, .isBoolean .kSCPropNetPPPDisconnectOnSleep, none⟩,
  ⟨"DisconnectTime", some "?time", .isNumber .kSCPropNetPPPDisconnectTime, none⟩,
  ⟨"IdleReminder", none, .isBoolean .kSCPropNetPPPIdleReminder, none⟩,
  ⟨"IdleReminderTimer", some "time", .isNumber .kSCPropNetPPPIdleReminderTimer, none⟩,
  ⟨"Logfile", some "path", .isString .kSCPropNetPPPLogfile, none⟩,
  ⟨"Plugins", some "plugin", .isStringArray .kSCPropNetPPPPlugins, none⟩,
  ⟨"RetryConnectTime", some "time", .isNumber .kSCPropNetPPPRetryConnectTime, none⟩,
  ⟨"SessionTimer", some "time", .isNumber .kSCPropNetPPPSessionTimer, none⟩,
  ⟨"UseSessionTimer", none, .isBoolean .kSCPropNetPPPUseSessionTimer, none⟩,
  ⟨"VerboseLogging", none, .isBoolean .kSCPropNetPPPVerboseLogging, none⟩,
  ⟨"AuthEAPPlugins", some "plugin", .isStringArray .kSCPropNetPPPAuthEAPPlugins, none⟩,
  ⟨"AuthName", some "account", .isString .kSCPropNetPPPAuthName, none⟩,
  ⟨"Account", some "account", .isString .kSCPropNetPPPAuthName, none⟩,
  ⟨"AuthPassword", some "password", .isOther, some (doPPPAuthPW svc .kSCPropNetPPPAuthPassword)⟩,
  ⟨"Password", some "password", .isOther, some (doPPPAuthPW svc .kSCPropNetPPPAuthPassword)⟩,
  ⟨"AuthPasswordEncryption", some "type", .isOther,
    some (doPPPAuthPWType .kSCPropNetPPPAuthPasswordEncryption)⟩,
  ⟨"AuthPrompt", some "before/after", .isChooseOne .kSCPropNetPPPAuthPrompt authPromptSelections,
    none⟩,
  ⟨"AuthProtocol", some "protocol",
    .isChooseMultiple .kSCPropNetPPPAuthProtocol authProtocolSelections,
    none⟩,
  ⟨"CommRemoteAddress", some "phone#", .isString .kSCPropNetPPPCommRemoteAddress, none⟩,
  ⟨"Number", some "phone#", .isString .kSCPropNetPPPCommRemoteAddress, none⟩,
  ⟨"CommAlternateRemoteAddress", some "phone#",
    .isString .kSCPropNetPPPCommAlternateRemoteAddress,
    none⟩,
  ⟨"CommConnectDelay", some "time", .isNumber .kSCPropNetPPPCommConnectDelay, none⟩,
  ⟨"CommDisplayTerminalWindow", none, .isBoolean .kSCPropNetPPPCommDisplayTerminalWindow, none⟩,
  ⟨"CommRedialCount", some "retry count", .isNumber .kSCPropNetPPPCommRedialCount, none⟩,
  ⟨"CommRedialEnabled", none, .isBoolean .kSCPropNetPPPCommRedialEnabled, none⟩,
  ⟨"CommRedialInterval", some "retry delay", .isNumber .kSCPropNetPPPCommRedialInterval, none⟩,
  ⟨"CommTerminalScript", some "script", .isString .kSCPropNetPPPCommTerminalScript, none⟩,
  ⟨"CommUseTerminalScript", none, .isBoolean .kSCPropNetPPPCommUseTerminalScript, none⟩,
  ⟨"CCPEnabled", none, .isBoolean .kSCPropNetPPPCCPEnabled, none⟩,
  ⟨"CCPMPPE40Enabled", none, .isBoolean .kSCPropNetPPPCCPMPPE40Enabled, none⟩,
  ⟨"CCPMPPE128Enabled", none, .isBoolean .kSCPropNetPPPCCPMPPE128Enabled, none⟩,
  ⟨"IPCPCompressionVJ", none, .isBoolean .kSCPropNetPPPIPCPCompressionVJ, none⟩,
  ⟨"IPCPUsePeerDNS", none, .isBoolean .kSCPropNetPPPIPCPUsePeerDNS, none⟩,
  ⟨"LCPEchoEnabled", none, .isBoolean .kSCPropNetPPPLCPEchoEnabled, none⟩,
  ⟨"LCPEchoFailure", none, .isNumber .kSCPropNetPPPLCPEchoFailure, none⟩,
  ⟨"LCPEchoInterval", none, .isNumber .kSCPropNetPPPLCPEchoInterval, none⟩,
  ⟨"LCPCompressionACField", none, .isBoolean .kSCPropNetPPPLCPCompressionACField, none⟩,
  ⟨"LCPCompressionPField", none, .isBoolean .kSCPropNetPPPLCPCompressionPField, none⟩,
  ⟨"LCPMRU", none, .isNumber .kSCPropNetPPPLCPMRU, none⟩,
  ⟨"LCPMTU", none, .isNumber .kSCPropNetPPPLCPMTU, none⟩,
  ⟨"LCPReceiveACCM", none, .isNumber .kSCPropNetPPPLCPReceiveACCM, none⟩,
  ⟨"LCPTransmitACCM", none, .isNumber .kSCPropNetPPPLCPTransmitACCM, none⟩,
  ⟨"IPSec", none, .isOther, some (doPPPIPSec svc)⟩,
  ⟨"?", none, .isHelp, none⟩]

/-! ## VPN -/

/-- `__doVPNAuthPW` -/
def doVPNAuthPW (svc : InterfaceServices) (key : PropertyKey) : OptionHandler o i l :=
  doPassword svc
    { encryptionKey := .kSCPropNetVPNAuthPasswordEncryption
      keychain := "Keychain"
      type := .vpn
      missing := "VPN password not specified\n"
      unsupported := "VPN password"
      unsupportedRemove := "PPP password" } key

/-- `__doVPNAuthPWType` -/
def doVPNAuthPWType (key : PropertyKey) : OptionHandler o i l :=
  doPasswordType .kSCPropNetVPNAuthPassword [("keychain", "Keychain"), ("prompt", "Prompt")]
    "VPN password type mode not specified\n" "invalid password type\n" key

/-- `vpnAuthenticationMethodSelections` -/
def vpnAuthenticationMethodSelections : List Selection := [
  ⟨"Password", some "Password", 0⟩,
  ⟨"Certificate", some "Certificate", 0⟩]

/-- `vpnOptions` -/
def vpnOptions (svc : InterfaceServices) : List (OptionRow o i l) := [
  ⟨"AuthName", some "account", .isString .kSCPropNetVPNAuthName, none⟩,
  ⟨"Account", some "account", .isString .kSCPropNetVPNAuthName, none⟩,
  ⟨"AuthPassword", some "password", .isOther, some (doVPNAuthPW svc .kSCPropNetVPNAuthPassword)⟩,
  ⟨"Password", some "password", .isOther, some (doVPNAuthPW svc .kSCPropNetVPNAuthPassword)⟩,
  ⟨"AuthPasswordEncryption", some "type", .isOther,
    some (doVPNAuthPWType .kSCPropNetVPNAuthPasswordEncryption)⟩,
  ⟨"AuthenticationMethod", none,
    .isChooseOne .kSCPropNetVPNAuthenticationMethod vpnAuthenticationMethodSelections,
    none⟩,
  ⟨"ConnectTime", some "?time", .isNumber .kSCPropNetVPNConnectTime, none⟩,
  ⟨"DisconnectOnFastUserSwitch", none, .isBoolean .kSCPropNetVPNDisconnectOnFastUserSwitch, none⟩,
  ⟨"DisconnectOnIdle", none, .isBoolean .kSCPropNetVPNDisconnectOnIdle, none⟩,
  ⟨"DisconnectOnIdleTimer", some "timeout", .isNumber .kSCPropNetVPNDisconnectOnIdleTimer, none⟩,
  ⟨"DisconnectOnLogout", none, .isBoolean .kSCPropNetVPNDisconnectOnLogout, none⟩,
  ⟨"DisconnectOnSleep", none, .isBoolean .kSCPropNetVPNDisconnectOnSleep, none⟩,
  ⟨"Logfile", some "path", .isString .kSCPropNetVPNLogfile, none⟩,
  ⟨"MTU", none, .isNumber .kSCPropNetVPNMTU, none⟩,
  ⟨"RemoteAddress", some "server", .isString .kSCPropNetVPNRemoteAddress, none⟩,
  ⟨"Server", some "server", .isString .kSCPropNetVPNRemoteAddress, none⟩,
  ⟨"VerboseLogging", none, .isBoolean .kSCPropNetVPNVerboseLogging, none⟩,
  ⟨"?", none, .isHelp, none⟩]

/-! ## The command -/

/-- The MTU of a configuration is one the interface can have. -/
def mtuRefused (svc : InterfaceServices) (c : CFConfiguration) : Option String :=
  match c.lookup .kSCPropNetEthernetMTU with
  | some (.number mtu) =>
    match svc.mtuRange with
    | none => some "cannot set MTU\n"
    | some (least, greatest) =>
      if mtu < -2 ^ 31 ∨ 2 ^ 31 ≤ mtu ∨ mtu < least ∨ greatest < mtu then
        some "mtu out of range\n"
      else none
  | _ => none

/-- `validateMediaOptions`: the message with which it fails, if it does, and the copy. -/
def validateMediaOptions (svc : InterfaceServices) (d : Draft o i l) :
    Except String (Draft o i l) :=
  match mtuRefused svc d.pending with
  | some text => .error text
  | none =>
    let options := d.pending.lookup .kSCPropNetEthernetMediaOptions
    let configOptions := options.getD (.strings [])
    match d.pending.lookup .kSCPropNetEthernetMediaSubType with
    | none =>
      if options.isSome then .error "media type and options must both be specified\n" else .ok d
    | some subtype =>
      if !svc.copyMediaOptions then .error "media type / options not available\n"
      else if !svc.mediaAvailable then .error ""
      else if subtype ∉ svc.mediaSubTypes.getD [] then .error "media type not valid\n"
      else if configOptions ∉ (svc.mediaSubTypeOptions subtype).getD [] then
        .error ("media options not valid for \"" ++ svc.describe subtype ++ "\"\n")
      else if options.isNone then
        .ok (d.put ⟨.kSCPropNetEthernetMediaOptions, some configOptions⟩)
      else .ok d

/-- The command ends with a message. -/
def SetState.refuse (s : SetState o i l) (text : String) : Bool × SetState o i l :=
  (false, { s with reports := s.reports ++ [.refused text] })

/-- What the commands for interfaces with media do with their options. -/
def setInterfaceMedia (svc : InterfaceServices) (options : List (OptionRow o i l))
    (args : List String) (d : Draft o i l) (w : SetWorld) : Bool × SetState o i l :=
  if svc.bsdName.isNone then SetState.refuse ⟨args, d, w, []⟩ "no BSD interface\n"
  else
    let r := processOptions options args d w
    if r.1 then
      match validateMediaOptions svc r.2.draft with
      | .error text => r.2.refuse text
      | .ok draft => (true, { r.2 with draft := draft })
    else r

/-- `set_interface_ethernet`, `set_interface_firewire` and the others, by the type of the
interface. -/
def setInterfaceOptions (svc : InterfaceServices) (args : List String) (d : Draft o i l)
    (w : SetWorld) : Bool × SetState o i l :=
  if svc.interfaceType = kSCNetworkInterfaceTypeEthernet then
    setInterfaceMedia svc (ethernetOptions svc) args d w
  else if svc.interfaceType = kSCNetworkInterfaceTypeFireWire then
    setInterfaceMedia svc firewireOptions args d w
  else if svc.interfaceType = kSCNetworkInterfaceTypeIPSec then
    processOptions (ipsecOptions svc) args d w
  else if svc.interfaceType = kSCNetworkInterfaceTypeModem then
    processOptions modemOptions args d w
  else if svc.interfaceType = kSCNetworkInterfaceTypeIEEE80211 then
    setInterfaceMedia svc (airportOptions svc) args d w
  else if svc.interfaceType = kSCNetworkInterfaceTypePPP then
    processOptions (pppOptions svc) args d w
  else if svc.interfaceType = kSCNetworkInterfaceTypeBond then
    setInterfaceMedia svc bondOptions args d w
  else if svc.interfaceType = kSCNetworkInterfaceTypeBridge then
    setInterfaceMedia svc bridgeOptions args d w
  else if svc.interfaceType = kSCNetworkInterfaceTypeVLAN then
    SetState.refuse ⟨args, d, w, []⟩ "vlan interface management not yet supported\n"
  else if svc.interfaceType = kSCNetworkInterfaceTypeVPN then
    processOptions (vpnOptions svc) args d w
  else SetState.refuse ⟨args, d, w, []⟩ "this interfaces configuration cannot be changed\n"

/-- A command that has failed before it read a configuration. -/
def Finished.nothing (configuration : CFConfiguration) (w : SetWorld) (text : String) :
    Finished :=
  ⟨.idle configuration, w, [.refused text]⟩

/-- `set_interface` for the selected interface, if there is one, whose configuration is
`configuration`. -/
def setInterface (selected : Option InterfaceServices) (configuration : CFConfiguration)
    (args : List String) (w : SetWorld) : Finished :=
  match selected with
  | none => .nothing configuration w "interface not selected\n"
  | some svc =>
    if args = [] then .nothing configuration w "set what?\n"
    else
      let start : Draft configuration (editCopy configuration) id := .start
      finish svc.setConfiguration "could not update per-service interface configuration\n"
        (setInterfaceOptions svc args start w)

end ConfigdExtra
