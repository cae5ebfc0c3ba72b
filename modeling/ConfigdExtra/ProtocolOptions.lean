import ConfigdExtra.InterfaceOptions

/-!
# `set protocol`

The options of `set protocol` and their handlers. They only edit the copy of the configuration
that `set_protocol` stores at the end.

* `ProtocolServices` — the selected protocol, and the parsers of addresses;
* the handlers and the tables of options, under the names of `net_protocol.c`;
* `setProtocol` — the command.
-/

namespace ConfigdExtra

open DeferredEdits

/-- `SCNetworkProtocolGetProtocolType` -/
inductive ProtocolType
  | dns
  | ipv4
  | ipv6
  | proxies
  | smb
  | other
deriving DecidableEq

/-- The selected protocol and what the framework answers about it. -/
structure ProtocolServices where
  protocolType : ProtocolType
  /-- `__copyIPv4Address` -/
  copyIPv4Address : String → Option String
  /-- `__copyIPv6Address` -/
  copyIPv6Address : String → Option String
  /-- `SCNetworkProtocolSetConfiguration`: the error, if it fails -/
  setConfiguration : CFConfiguration → Option StoreError

variable {o i : CFConfiguration} {l : CFConfiguration → CFConfiguration}

/-! ## DNS -/

/-- The handlers of a single string, which is cleaned up first. -/
def doCleanString (clean : String → Option String) (missing invalid : String)
    (key : PropertyKey) : OptionHandler o i l
  | [], d, w => .refuses d w missing
  | arg :: _, d, w =>
    if arg = "" then .uses 1 (d.put ⟨key, none⟩) w
    else
      match clean arg with
      | some value => .uses 1 (d.put ⟨key, some (.string value)⟩) w
      | none => .refuses d w invalid

/-- `__doDNSDomain` -/
def doDNSDomain (key : PropertyKey) : OptionHandler o i l :=
  doCleanString cleanupDomainName "DNS domain name not specified\n" "invalid DNS domain name\n" key

/-- `__doDNSDomainArray` -/
def doDNSDomainArray (key : PropertyKey) : OptionHandler o i l :=
  doStringList cleanupDomainName "DNS search domain name(s) not specified\n"
    "invalid DNS search domain name\n" key

/-- `_SC_cfstring_to_cstring` with a buffer of 32 bytes -/
def fitsAddressBuffer (s : String) : Bool :=
  s.utf8ByteSize < 32

/-- `__doDNSServerAddresses` -/
def doDNSServerAddresses (svc : ProtocolServices) (key : PropertyKey) : OptionHandler o i l :=
  doStringList
    (fun s => if fitsAddressBuffer s then (svc.copyIPv4Address s).or (svc.copyIPv6Address s)
      else none)
    "DNS name server address(es) not specified\n" "invalid DNS name server address\n" key

/-- `dnsOptions` -/
def dnsOptions (svc : ProtocolServices) : List (OptionRow o i l) := [
  ⟨"DomainName", some "domain", .isOther, some (doDNSDomain .kSCPropNetDNSDomainName)⟩,
  ⟨"domain", some "domain", .isOther, some (doDNSDomain .kSCPropNetDNSDomainName)⟩,
  ⟨"SearchDomains", some "search", .isOther, some (doDNSDomainArray .kSCPropNetDNSSearchDomains)⟩,
  ⟨"search", some "search", .isOther, some (doDNSDomainArray .kSCPropNetDNSSearchDomains)⟩,
  ⟨"ServerAddresses", some "address", .isOther,
    some (doDNSServerAddresses svc .kSCPropNetDNSServerAddresses)⟩,
  ⟨"nameserver", some "address", .isOther,
    some (doDNSServerAddresses svc .kSCPropNetDNSServerAddresses)⟩,
  ⟨"nameservers", some "address", .isOther,
    some (doDNSServerAddresses svc .kSCPropNetDNSServerAddresses)⟩,
  ⟨"SupplementalMatchDomains", some "domain", .isOther,
    some (doDNSDomainArray .kSCPropNetDNSSupplementalMatchDomains)⟩,
  ⟨"?", none, .isHelp, none⟩]

/-! ## IPv4 -/

/-- `allowIPv4Address`, `allowIPv4Netmask`, `allowIPv4Router` and `allowIPv4DHCPClientID` -/
def allowIPv4Address : Nat := 1 <<< 1
def allowIPv4Netmask : Nat := 1 <<< 2
def allowIPv4Router : Nat := 1 <<< 3
def allowIPv4DHCPClientID : Nat := 1 <<< 4

/-- `ipv4ConfigMethods` -/
def ipv4ConfigMethods : List Selection := [
  ⟨"BOOTP", some "BOOTP", 0⟩,
  ⟨"DHCP", some "DHCP", allowIPv4DHCPClientID⟩,
  ⟨"INFORM", some "INFORM", allowIPv4Address⟩,
  ⟨"LinkLocal", some "LinkLocal", 0⟩,
  ⟨"Manual", some "Manual", allowIPv4Address ||| allowIPv4Netmask ||| allowIPv4Router⟩,
  ⟨"PPP", some "PPP", allowIPv4Address ||| selectionNotAvailable⟩]

/-- The entry of the configuration method, once it is in the copy. -/
def configMethod (methods : List Selection) (c : CFConfiguration) (key : PropertyKey) :
    Option Selection :=
  match c.lookup key with
  | some (.string method) => findSelection method methods
  | _ => none

/-- The handlers of a configuration method remove what it does not allow. -/
def doConfigMethod (methods : List Selection) (allowed : List (Nat × PropertyKey))
    (key : PropertyKey) : OptionHandler o i l := fun _ d w =>
  match configMethod methods d.pending key with
  | none => .refuses d w "unknown configuration method\n"
  | some method =>
    .uses 0 (allowed.foldl (fun d a =>
      if method.flags &&& a.1 = 0 then d.put ⟨a.2, none⟩ else d) d) w

/-- `__doIPv4ConfigMethod` -/
def doIPv4ConfigMethod (key : PropertyKey) : OptionHandler o i l :=
  doConfigMethod ipv4ConfigMethods
    [(allowIPv4Address, .kSCPropNetIPv4Addresses), (allowIPv4Netmask, .kSCPropNetIPv4SubnetMasks),
      (allowIPv4Router, .kSCPropNetIPv4Router),
      (allowIPv4DHCPClientID, .kSCPropNetIPv4DHCPClientID)] key

/-- The handlers of an address. Without an argument they read past the arguments; here they
fail. -/
def doAddresses (copyAddress : String → Option String) (key : PropertyKey) (useArray : Bool) :
    OptionHandler o i l
  | [], d, w => .refuses d w ""
  | arg :: _, d, w =>
    if arg = "" then .uses 1 (d.put ⟨key, none⟩) w
    else
      match copyAddress arg with
      | none => .refuses d w ""
      | some address =>
        .uses 1 (d.put ⟨key, some (if useArray then .strings [address] else .string address)⟩) w

/-- `__doIPv4Addresses` -/
def doIPv4Addresses (svc : ProtocolServices) (key : PropertyKey) (useArray : Bool) :
    OptionHandler o i l :=
  doAddresses svc.copyIPv4Address key useArray

/-- `ipv4Options` -/
def ipv4Options (svc : ProtocolServices) : List (OptionRow o i l) := [
  ⟨"ConfigMethod", some "configuration method",
    .isChooseOne .kSCPropNetIPv4ConfigMethod ipv4ConfigMethods,
    some (doIPv4ConfigMethod .kSCPropNetIPv4ConfigMethod)⟩,
  ⟨"config", some "configuration method",
    .isChooseOne .kSCPropNetIPv4ConfigMethod ipv4ConfigMethods,
    some (doIPv4ConfigMethod .kSCPropNetIPv4ConfigMethod)⟩,
  ⟨"Addresses", some "address", .isOther,
    some (doIPv4Addresses svc .kSCPropNetIPv4Addresses true)⟩,
  ⟨"address", some "address", .isOther,
    some (doIPv4Addresses svc .kSCPropNetIPv4Addresses true)⟩,
  ⟨"SubnetMasks", some "netmask", .isOther,
    some (doIPv4Addresses svc .kSCPropNetIPv4SubnetMasks true)⟩,
  ⟨"netmask", some "netmask", .isOther,
    some (doIPv4Addresses svc .kSCPropNetIPv4SubnetMasks true)⟩,
  ⟨"Router", some "address", .isOther, some (doIPv4Addresses svc .kSCPropNetIPv4Router false)⟩,
  ⟨"DHCPClientID", some "client ID", .isString .kSCPropNetIPv4DHCPClientID, none⟩,
  ⟨"?", none, .isHelp, none⟩]

/-! ## IPv6 -/

/-- `allowIPv6Address`, `allowIPv6PrefixLength` and `allowIPv6Router` -/
def allowIPv6Address : Nat := 1 <<< 1
def allowIPv6PrefixLength : Nat := 1 <<< 2
def allowIPv6Router : Nat := 1 <<< 3

/-- `ipv6ConfigMethods` -/
def ipv6ConfigMethods : List Selection := [
  ⟨"Automatic", some "Automatic", 0⟩,
  ⟨"Manual", some "Manual", allowIPv6Address ||| allowIPv6PrefixLength ||| allowIPv6Router⟩,
  ⟨"RouterAdvertisement", some "RouterAdvertisement", allowIPv6Address⟩,
  ⟨"6to4", some "6to4", 0⟩]

/-- `__doIPv6ConfigMethod` -/
def doIPv6ConfigMethod (key : PropertyKey) : OptionHandler o i l :=
  doConfigMethod ipv6ConfigMethods
    [(allowIPv6Address, .kSCPropNetIPv6Addresses),
      (allowIPv6PrefixLength, .kSCPropNetIPv6PrefixLength),
      (allowIPv6Router, .kSCPropNetIPv6Router)] key

/-- `__doIPv6Addresses` -/
def doIPv6Addresses (svc : ProtocolServices) (key : PropertyKey) (useArray : Bool) :
    OptionHandler o i l :=
  doAddresses svc.copyIPv6Address key useArray

/-- The digits `strtol` reads, if nothing follows them. -/
def wholeDigits (negative : Bool) (cs : List Char) : Option Int :=
  if cs.all Char.isDigit then scanDigits negative cs else none

/-- `strtol` of a whole string, kept as an `int` -/
def strtolInt (arg : String) : Option Int :=
  match arg.toList.dropWhile isSpace with
  | '-' :: cs => wholeDigits true cs
  | '+' :: cs => wholeDigits false cs
  | cs => wholeDigits false cs

/-- `__doIPv6PrefixLength`. Without an argument it reads past the arguments; here it fails. -/
def doIPv6PrefixLength (key : PropertyKey) : OptionHandler o i l
  | [], d, w => .refuses d w ""
  | arg :: _, d, w =>
    if arg = "" then .uses 1 (d.put ⟨key, none⟩) w
    else
      match (strtolInt arg).filter fun n => 0 < n && n ≤ 128 with
      | some n => .uses 1 (d.put ⟨key, some (.numbers [n])⟩) w
      | none =>
        .refuses d w ("Invalid prefix length '" ++ arg ++ "' (valid range 1..128)\n")

/-- `ipv6Options` -/
def ipv6Options (svc : ProtocolServices) : List (OptionRow o i l) := [
  ⟨"ConfigMethod", some "configuration method",
    .isChooseOne .kSCPropNetIPv6ConfigMethod ipv6ConfigMethods,
    some (doIPv6ConfigMethod .kSCPropNetIPv6ConfigMethod)⟩,
  ⟨"config", some "configuration method",
    .isChooseOne .kSCPropNetIPv6ConfigMethod ipv6ConfigMethods,
    some (doIPv6ConfigMethod .kSCPropNetIPv6ConfigMethod)⟩,
  ⟨"Addresses", some "address", .isOther,
    some (doIPv6Addresses svc .kSCPropNetIPv6Addresses true)⟩,
  ⟨"address", some "address", .isOther,
    some (doIPv6Addresses svc .kSCPropNetIPv6Addresses true)⟩,
  ⟨"EnableCGA", none, .isBoolean .kSCPropNetIPv6EnableCGA, none⟩,
  ⟨"PrefixLength", some "prefix length", .isOther,
    some (doIPv6PrefixLength .kSCPropNetIPv6PrefixLength)⟩,
  ⟨"Router", some "address", .isOther, some (doIPv6Addresses svc .kSCPropNetIPv6Router false)⟩,
  ⟨"?", none, .isHelp, none⟩]

/-! ## Proxies -/

/-- `proxyKeys_FTP` -/
def proxyKeysFTP : ProxyKeys :=
  ⟨"FTP", some .kSCPropNetProxiesFTPEnable, some .kSCPropNetProxiesFTPProxy,
    some .kSCPropNetProxiesFTPPort, none, false⟩

/-- `proxyKeys_Gopher` -/
def proxyKeysGopher : ProxyKeys :=
  ⟨"Gopher", some .kSCPropNetProxiesGopherEnable, some .kSCPropNetProxiesGopherProxy,
    some .kSCPropNetProxiesGopherPort, none, false⟩

/-- `proxyKeys_HTTP` -/
def proxyKeysHTTP : ProxyKeys :=
  ⟨"HTTP", some .kSCPropNetProxiesHTTPEnable, some .kSCPropNetProxiesHTTPProxy,
    some .kSCPropNetProxiesHTTPPort, none, false⟩

/-- `proxyKeys_HTTPS` -/
def proxyKeysHTTPS : ProxyKeys :=
  ⟨"HTTPS", some .kSCPropNetProxiesHTTPSEnable, some .kSCPropNetProxiesHTTPSProxy,
    some .kSCPropNetProxiesHTTPSPort, none, false⟩

/-- `proxyKeys_RTSP` -/
def proxyKeysRTSP : ProxyKeys :=
  ⟨"RTSP", some .kSCPropNetProxiesRTSPEnable, some .kSCPropNetProxiesRTSPProxy,
    some .kSCPropNetProxiesRTSPPort, none, false⟩

/-- `proxyKeys_SOCKS` -/
def proxyKeysSOCKS : ProxyKeys :=
  ⟨"SOCKS", some .kSCPropNetProxiesSOCKSEnable, some .kSCPropNetProxiesSOCKSProxy,
    some .kSCPropNetProxiesSOCKSPort, none, false⟩

/-- `proxyKeys_TransportConverter` -/
def proxyKeysTransportConverter : ProxyKeys :=
  ⟨"TransportConverter", some .kSCPropNetProxiesTransportConverterEnable,
    some .kSCPropNetProxiesTransportConverterProxy,
    some .kSCPropNetProxiesTransportConverterPort, none, true⟩

/-- `proxyKeys_PAC` -/
def proxyKeysPAC : ProxyKeys :=
  ⟨".pac", some .kSCPropNetProxiesProxyAutoConfigEnable, none, none,
    some .kSCPropNetProxiesProxyAutoConfigURLString, false⟩

/-- `proxyKeys_WPAD` -/
def proxyKeysWPAD : ProxyKeys :=
  ⟨"WPAD", some .kSCPropNetProxiesProxyAutoDiscoveryEnable, none, none, none, false⟩

/-- The names of `proxyOptions` in their order, and which of them select a proxy. -/
def proxyOptionNames : List (String × Bool) :=
  [("ExceptionsList", false), ("ExcludeSimpleHostnames", false), ("FTP", true), ("Gopher", true),
    ("HTTP", true), ("HTTPS", true), ("RTSP", true), ("SOCKS", true),
    ("TransportConverter", true), ("ProxyAutoConfig", true), (".pac", true),
    ("ProxyAutoDiscovery", true), ("WPAD", true), ("disable", false), ("enable", false),
    ("proxy", false), ("host", false), ("proxies", false), ("hosts", false), ("port", false),
    ("url", false), ("FTPPassive", false), ("passive", false), ("?", false)]

/-- `__doProxySelect`. The proxy stays selected after the command. -/
def doProxySelect (proxy : ProxyKeys) : OptionHandler o i l
  | [], d, w => .refuses d w "proxy option[s] not specified\n"
  | arg :: _, d, w =>
    let w' := { w with currentProxy := some proxy }
    match proxyOptionNames.find? fun name => strcasecmp arg name.1 with
    | some (_, false) => .uses 0 d w'
    | _ => .refuses d w' (proxy.proxy ++ " proxy option[s] not specified\n")

/-- `__doProxyEnable` -/
def doProxyEnable (enabled : Bool) : OptionHandler o i l := fun _ d w =>
  match w.currentProxy with
  | none => .refuses d w "proxy not specified\n"
  | some proxy =>
    match proxy.keyEnable with
    | none =>
      .refuses d w (proxy.proxy ++ " proxy cannot be " ++
        (if enabled then "enabled" else "disabled") ++ "\n")
    | some keyEnable =>
      if enabled then .uses 0 (d.put ⟨keyEnable, some (.number 1)⟩) w
      else
        .uses 0 ((keyEnable :: (proxy.keyProxy.toList ++ proxy.keyPort.toList ++
          proxy.keyURL.toList)).foldl (fun d key => d.put ⟨key, none⟩) d) w

/-- `__proxy_enabled` -/
def proxyEnabled (c : CFConfiguration) (enableKey : Option PropertyKey) : Bool :=
  match enableKey with
  | none => true
  | some key =>
    match c.lookup key with
    | some (.number n) => (-2 ^ 31 ≤ n && n < 2 ^ 31) && n ≠ 0
    | _ => false

/-- The modifiers of a proxy: what they are about, the key, and the value of an argument. -/
def doProxyModifier (what : String) (keyOf : ProxyKeys → Option PropertyKey)
    (invalid : ProxyKeys → String) (value : ProxyKeys → String → Option CFValue) :
    OptionHandler o i l := fun args d w =>
  match w.currentProxy with
  | none => .refuses d w "proxy not specified\n"
  | some proxy =>
    match keyOf proxy with
    | none => .refuses d w (proxy.proxy ++ " proxy " ++ what ++ " cannot be specified\n")
    | some key =>
      if !proxyEnabled d.pending proxy.keyEnable then
        .refuses d w (proxy.proxy ++ " proxy not enabled\n")
      else
        match args with
        | [] => .refuses d w (proxy.proxy ++ " proxy " ++ what ++ " not specified\n")
        | arg :: _ =>
          if arg = "" then .uses 1 (d.put ⟨key, none⟩) w
          else
            match value proxy arg with
            | some v => .uses 1 (d.put ⟨key, some v⟩) w
            | none => .refuses d w (invalid proxy)

/-- `__doProxyHost` -/
def doProxyHost : OptionHandler o i l :=
  doProxyModifier "host" ProxyKeys.keyProxy (fun _ => "") fun proxy arg =>
    some (if proxy.multipleProxies then .strings (separated arg) else .string arg)

/-- `__doProxyPort` -/
def doProxyPort : OptionHandler o i l :=
  doProxyModifier "port" ProxyKeys.keyPort
    (fun proxy => "invalid " ++ proxy.proxy ++ " proxy port number\n") fun _ arg =>
      ((copyNumber arg).filter fun port => 0 ≤ port && port ≤ 65535).map .number

/-- `__doProxyURL` -/
def doProxyURL : OptionHandler o i l :=
  doProxyModifier "URL" ProxyKeys.keyURL (fun _ => "") fun _ arg => some (.string arg)

/-- `__doProxyFTPPassive` -/
def doProxyFTPPassive : OptionHandler o i l := fun _ d w =>
  match w.currentProxy with
  | none => .refuses d w "proxy not specified\n"
  | some proxy =>
    if proxy = proxyKeysFTP then .uses 0 d w
    else .refuses d w "passive can only be enable for FTP proxy\n"

/-- `proxyOptions` -/
def proxyOptions : List (OptionRow o i l) := [
  ⟨"ExceptionsList", some "exceptions", .isStringArray .kSCPropNetProxiesExceptionsList, none⟩,
  ⟨"ExcludeSimpleHostnames", none, .isBoolean .kSCPropNetProxiesExcludeSimpleHostnames, none⟩,
  ⟨"FTP", none, .isOther, some (doProxySelect proxyKeysFTP)⟩,
  ⟨"Gopher", none, .isOther, some (doProxySelect proxyKeysGopher)⟩,
  ⟨"HTTP", none, .isOther, some (doProxySelect proxyKeysHTTP)⟩,
  ⟨"HTTPS", none, .isOther, some (doProxySelect proxyKeysHTTPS)⟩,
  ⟨"RTSP", none, .isOther, some (doProxySelect proxyKeysRTSP)⟩,
  ⟨"SOCKS", none, .isOther, some (doProxySelect proxyKeysSOCKS)⟩,
  ⟨"TransportConverter", none, .isOther,
    some (doProxySelect proxyKeysTransportConverter)⟩,
  ⟨"ProxyAutoConfig", none, .isOther, some (doProxySelect proxyKeysPAC)⟩,
  ⟨".pac", none, .isOther, some (doProxySelect proxyKeysPAC)⟩,
  ⟨"ProxyAutoDiscovery", none, .isOther, some (doProxySelect proxyKeysWPAD)⟩,
  ⟨"WPAD", none, .isOther, some (doProxySelect proxyKeysWPAD)⟩,
  ⟨"disable", none, .isOther, some (doProxyEnable false)⟩,
  ⟨"enable", none, .isOther, some (doProxyEnable true)⟩,
  ⟨"proxy", none, .isOther, some doProxyHost⟩,
  ⟨"host", none, .isOther, some doProxyHost⟩,
  ⟨"proxies", none, .isOther, some doProxyHost⟩,
  ⟨"hosts", none, .isOther, some doProxyHost⟩,
  ⟨"port", none, .isOther, some doProxyPort⟩,
  ⟨"url", none, .isOther, some doProxyURL⟩,
  ⟨"FTPPassive", none, .isBoolean .kSCPropNetProxiesFTPPassive,
    some doProxyFTPPassive⟩,
  ⟨"passive", none, .isBoolean .kSCPropNetProxiesFTPPassive,
    some doProxyFTPPassive⟩,
  ⟨"?", none, .isHelp, none⟩]

/-- The names of the table are the ones a selector looks the next option up with. -/
theorem proxyOptions_names :
    (proxyOptions : List (OptionRow o i l)).map OptionRow.option =
      proxyOptionNames.map Prod.fst := rfl

/-! ## SMB -/

/-- `__cleanupName` -/
def cleanupName (name : String) : Option String :=
  let name' := trim isWhitespaceAndNewline name.toList
  if name'.isEmpty then none else some (String.ofList name')

/-- `__doSMBName` -/
def doSMBName (key : PropertyKey) : OptionHandler o i l :=
  doCleanString cleanupName "NetBIOS name not specified\n" "invalid NetBIOS name\n" key

/-- `__doSMBWorkgroup` -/
def doSMBWorkgroup (key : PropertyKey) : OptionHandler o i l :=
  doCleanString cleanupName "Workgroup not specified\n" "invalid Workgroup\n" key

/-- `__doSMBWINSAddresses` -/
def doSMBWINSAddresses (svc : ProtocolServices) (key : PropertyKey) : OptionHandler o i l :=
  doStringList (fun s => if fitsAddressBuffer s then svc.copyIPv4Address s else none)
    "WINS address(es) not specified\n" "invalid WINS address\n" key

/-- `smbNodeTypes` -/
def smbNodeTypes : List Selection := [
  ⟨"Broadcast", some "Broadcast", 0⟩,
  ⟨"Peer", some "Peer", 0⟩,
  ⟨"Mixed", some "Mixed", 0⟩,
  ⟨"Hybrid", some "Hybrid", 0⟩]

/-- `smbOptions` -/
def smbOptions (svc : ProtocolServices) : List (OptionRow o i l) := [
  ⟨"NetBIOSName", some "name", .isOther, some (doSMBName .kSCPropNetSMBNetBIOSName)⟩,
  ⟨"name", some "name", .isOther, some (doSMBName .kSCPropNetSMBNetBIOSName)⟩,
  ⟨"NetBIOSNodeType", some "type", .isChooseOne .kSCPropNetSMBNetBIOSNodeType smbNodeTypes, none⟩,
  ⟨"type", some "type", .isChooseOne .kSCPropNetSMBNetBIOSNodeType smbNodeTypes, none⟩,
  ⟨"Workgroup", some "workgroup", .isOther, some (doSMBWorkgroup .kSCPropNetSMBWorkgroup)⟩,
  ⟨"WINSAddresses", some "wins", .isOther,
    some (doSMBWINSAddresses svc .kSCPropNetSMBWINSAddresses)⟩,
  ⟨"wins", some "wins", .isOther, some (doSMBWINSAddresses svc .kSCPropNetSMBWINSAddresses)⟩,
  ⟨"?", none, .isHelp, none⟩]

/-! ## The command -/

/-- A property that needs a configuration method to allow it, and the message without it. -/
structure MethodCheck where
  flag : Nat
  key : PropertyKey
  message : String

/-- The checks of a configuration against its method: the first message, if one fails. A
configuration without a method is not looked up; here it has an unknown one. -/
def methodRefused (methods : List Selection) (methodKey : PropertyKey) (checks : List MethodCheck)
    (c : CFConfiguration) : Option String :=
  match configMethod methods c methodKey with
  | none => some "unknown configuration method\n"
  | some method =>
    (checks.find? fun check =>
      (method.flags &&& check.flag = 0) && (c.lookup check.key).isSome).map fun check =>
        check.message ++ " not allowed with " ++ method.selection ++ " configuration\n"

/-- What `set_protocol_ipv4` and `set_protocol_ipv6` do with their options. -/
def setProtocolChecked (options : List (OptionRow o i l))
    (refused : CFConfiguration → Option String) (args : List String) (d : Draft o i l)
    (w : SetWorld) : Bool × SetState o i l :=
  let r := processOptions options args d w
  if r.1 then
    match refused r.2.draft.pending with
    | some text => r.2.refuse text
    | none => r
  else r

/-- `set_protocol_ipv4` -/
def setProtocolIPv4 (svc : ProtocolServices) (args : List String) (d : Draft o i l)
    (w : SetWorld) : Bool × SetState o i l :=
  setProtocolChecked (ipv4Options svc)
    (methodRefused ipv4ConfigMethods .kSCPropNetIPv4ConfigMethod
      [⟨allowIPv4Address, .kSCPropNetIPv4Addresses, "IP address"⟩,
        ⟨allowIPv4Netmask, .kSCPropNetIPv4SubnetMasks, "Subnet mask"⟩,
        ⟨allowIPv4Router, .kSCPropNetIPv4Router, "Default route"⟩,
        ⟨allowIPv4DHCPClientID, .kSCPropNetIPv4DHCPClientID, "DHCP client ID"⟩]) args d w

/-- `set_protocol_ipv6` -/
def setProtocolIPv6 (svc : ProtocolServices) (args : List String) (d : Draft o i l)
    (w : SetWorld) : Bool × SetState o i l :=
  setProtocolChecked (ipv6Options svc)
    (methodRefused ipv6ConfigMethods .kSCPropNetIPv6ConfigMethod
      [⟨allowIPv6Address, .kSCPropNetIPv6Addresses, "IP address"⟩,
        ⟨allowIPv6PrefixLength, .kSCPropNetIPv6PrefixLength, "Prefix length"⟩,
        ⟨allowIPv6Router, .kSCPropNetIPv6Router, "Router"⟩]) args d w

/-- `set_protocol_dns` and the others, by the type of the protocol -/
def setProtocolOptions (svc : ProtocolServices) (args : List String) (d : Draft o i l)
    (w : SetWorld) : Bool × SetState o i l :=
  match svc.protocolType with
  | .dns => processOptions (dnsOptions svc) args d w
  | .ipv4 => setProtocolIPv4 svc args d w
  | .ipv6 => setProtocolIPv6 svc args d w
  | .proxies => processOptions proxyOptions args d w
  | .smb => processOptions (smbOptions svc) args d w
  | .other =>
    SetState.refuse ⟨args, d, w, []⟩ "this protocols configuration cannot be changed\n"

/-- `set_protocol` for the selected protocol, if there is one, whose configuration is
`configuration`. -/
def setProtocol (selected : Option ProtocolServices) (configuration : CFConfiguration)
    (args : List String) (w : SetWorld) : Finished :=
  match selected with
  | none => .nothing configuration w "protocol not selected\n"
  | some svc =>
    if args = [] then .nothing configuration w "set what?\n"
    else
      let start : Draft configuration (editCopy configuration) id := .start
      finish svc.setConfiguration "No such key\n" (setProtocolOptions svc args start w)

end ConfigdExtra
