import ConfigdExtra.NetProgram
import ConfigdExtra.CommandLine
import ConfigdExtra.OptionChecks

/-!
# The commands of `scutil --net`, and their dispatch

The handlers of `net.c`, `net_interface.c`, `net_protocol.c`, `net_service.c` and `net_set.c`, with
the arguments they read and the variables they use. What they print is left out.

* `NetWorld` — what the options of the selected objects are, and how long a listing is.
* `findSet`, `createSet`, `setService`, … — the handlers, under the names of the source.
* `netKeys`, `doNetCreate`, … — the second table, and how it is used.
* `commandsNet`, `NetCommandFunc.run` — the first table.
-/

namespace ConfigdExtra.NetDispatch

open DeferredEdits NetProgram

/-- What the branches of a handler depend on besides the variables and the framework. -/
structure NetWorld where
  /-- the lines of a listing -/
  listed : ℕ
  /-- the selected interface -/
  interface : InterfaceServices
  interfaceConfiguration : CFConfiguration
  /-- the selected protocol -/
  protocol : ProtocolServices
  protocolConfiguration : CFConfiguration
  /-- what the options may change -/
  world : SetWorld

/-- `set_interface` starts with these arguments. -/
def NetWorld.interfaceStart (w : NetWorld) (argv : List String) :
    SetState w.interfaceConfiguration (editCopy w.interfaceConfiguration) id :=
  ⟨argv, .start, w.world, []⟩

/-- `set_protocol` starts with these arguments. -/
def NetWorld.protocolStart (w : NetWorld) (argv : List String) :
    SetState w.protocolConfiguration (editCopy w.protocolConfiguration) id :=
  ⟨argv, .start, w.world, []⟩

variable (w : NetWorld)

/-! ## Interfaces -/

/-- The end of `_find_interface`: a match is looked for in a list. -/
def findInterfaceIn (argv : List String) : NetProgram Bool := do
  let _ ← argument argv 0
  request .listMatches

/-- `$bond` and `$bridge` in `_find_interface`: whether there is a match, and `nArgs`. -/
def findMember (type : String) (argv : List String) : NetProgram (Bool × ℕ) := do
  if ← isNull .netInterface then return (false, 1)
  else
    use .netInterface
    if ← request (.interfaceIsOfType type) then
      if argv.length < 2 then return (false, 1)
      else
        use .netInterface
        if ← request .interfaceGetMembers then return (← findInterfaceIn argv.tail, 2)
        else return (false, 2)
    else return (false, 1)

/-- `_find_interface`: whether it finds one, and `nArgs`. -/
def findInterface (argv : List String) : NetProgram (Bool × ℕ) := do
  if argv.length < 1 then return (false, 0)
  else
    let name ← argument argv 0
    if strcasecmp name "$child" then
      if ← isNull .netInterface then return (false, 1)
      else
        use .netInterface
        return (← request .interfaceGetInterface, 1)
    else if strcasecmp name "$service" then
      if ← isNull .netService then return (false, 1)
      else
        use .netService
        return (← request .serviceGetInterface, 1)
    else if strcasecmp name "$bond" then findMember kSCNetworkInterfaceTypeBond argv
    else if strcasecmp name "$bridge" then findMember kSCNetworkInterfaceTypeBridge argv
    else if strcasecmp name "$vlan" then
      if ← isNull .netInterface then return (false, 1)
      else
        use .netInterface
        if ← request (.interfaceIsOfType kSCNetworkInterfaceTypeVLAN) then
          use .netInterface
          return (← request .interfaceGetPhysicalInterface, 1)
        else return (false, 1)
    else if ← isNull .interfaces then
      if ← request .interfaceCopyAll then
        assign .interfaces
        return (← findInterfaceIn argv, 1)
      else return (false, 1)
    else return (← findInterfaceIn argv, 1)

/-- The end of `create_interface`, once there is an interface to create one over. -/
def createInterfaceOver : NetProgram Unit := do
  if ← request .interfaceCreateWithInterface then
    if ← isNull .newInterfaces then assign .newInterfaces
    select .netInterface
    use .netInterface

/-- `create_interface` -/
def createInterface (argv : List String) : NetProgram Unit := do
  if argv.length < 1 then return
  else
    let interfaceType ← argument argv 0
    if interfaceType ∈ [kSCNetworkInterfaceTypeBond, kSCNetworkInterfaceTypeBridge,
        kSCNetworkInterfaceTypeVLAN] then return
    else if argv.tail.length < 1 then
      if ← isNull .netInterface then return else createInterfaceOver
    else
      let r ← findInterface argv.tail
      if r.1 then createInterfaceOver

/-- `select_interface` -/
def selectInterface (argv : List String) : NetProgram Unit := do
  let r ← findInterface argv
  if r.1 then select .netInterface

/-- `show_interface` -/
def showInterface (argv : List String) : NetProgram Unit := do
  if argv.length ≥ 1 then
    let _ ← findInterface argv
  else
    let _ ← isNull .netInterface

/-- `show_interfaces` -/
def showInterfaces (_ : List String) : NetProgram Unit := do
  release .interfaces
  if ← request .interfaceCopyAll then
    assign .interfaces
    mark .netInterface w.listed
  else clear .interfaces

/-! ## Options -/

/-- All arguments are read, as by a handler that looks at `argc`. -/
def readEach (argv : List String) : NetProgram Unit :=
  (List.range argv.length).forM fun n => do let _ ← argument argv n

/-- Does the `switch` of `_process_options` take a value for an entry of this type? -/
def takesValue : OptionType → Bool
  | .isOther | .isHelp => false
  | _ => true

/-- The value of an option is read by the `switch`, which looks at `argc`. -/
def readValue (type : OptionType) (argv : List String) : NetProgram Unit := do
  if takesValue type ∧ ¬ argv.length < 1 then
    let _ ← argument argv 0

/-- What the handler of an option reads and uses. -/
def readHandler {o i : CFConfiguration} {l : CFConfiguration → CFConfiguration}
    (unchecked : String → Bool) (used : Option NetVar) (row : OptionRow o i l)
    (argv : List String) : NetProgram Unit := do
  if row.handler.isSome then
    if unchecked row.option then
      let _ ← argument argv 0
    else readEach argv
    match used with
    | none => pure ()
    | some v => use v

/-- What `_process_options` reads, for at most as many turns. `unchecked` tells the options whose
handlers read an argument before they look at `argc`, and `used` the object handlers use. -/
def optionReads {o i : CFConfiguration} {l : CFConfiguration → CFConfiguration}
    (options : List (OptionRow o i l)) (unchecked : String → Bool) (used : Option NetVar) :
    ℕ → SetState o i l → NetProgram Unit
  | 0, _ => pure ()
  | turns + 1, s =>
    match s.args with
    | [] => pure ()
    | name :: argv => do
      let name ← argument (name :: argv) 0
      match findOption name options with
      | none => pure ()
      | some row =>
        readValue row.type argv
        match row.switch argv s.draft with
        | .fails _ => pure ()
        | .goesOn argv' _ _ =>
          readHandler unchecked used row argv'
          let pass := optionPass options s
          if pass.1 then optionReads options unchecked used turns pass.2

/-- The table of `set_interface_ethernet` and the others, if they come to process options. -/
def interfaceOptions {o i : CFConfiguration} {l : CFConfiguration → CFConfiguration}
    (svc : InterfaceServices) : Option (List (OptionRow o i l)) :=
  let media (options : List (OptionRow o i l)) := if svc.bsdName.isNone then none else some options
  if svc.interfaceType = kSCNetworkInterfaceTypeEthernet then media (ethernetOptions svc)
  else if svc.interfaceType = kSCNetworkInterfaceTypeFireWire then media firewireOptions
  else if svc.interfaceType = kSCNetworkInterfaceTypeIPSec then some (ipsecOptions svc)
  else if svc.interfaceType = kSCNetworkInterfaceTypeModem then some modemOptions
  else if svc.interfaceType = kSCNetworkInterfaceTypeIEEE80211 then media (airportOptions svc)
  else if svc.interfaceType = kSCNetworkInterfaceTypePPP then some (pppOptions svc)
  else if svc.interfaceType = kSCNetworkInterfaceTypeBond then media bondOptions
  else if svc.interfaceType = kSCNetworkInterfaceTypeBridge then media bridgeOptions
  else if svc.interfaceType = kSCNetworkInterfaceTypeVPN then some (vpnOptions svc)
  else none

/-- What `set_interface_ethernet` and the others read. -/
def interfaceReads (argv : List String) : NetProgram Unit :=
  match interfaceOptions w.interface with
  | none => pure ()
  | some options =>
    optionReads options (fun _ => false) (some .netInterface) argv.length (w.interfaceStart argv)

/-- `set_interface` -/
def setInterface (argv : List String) : NetProgram Unit := do
  if ← isNull .netInterface then return
  else if argv.length < 1 then return
  else
    use .netInterface
    use .netInterface
    interfaceReads w argv
    let start := w.interfaceStart argv
    let r := setInterfaceOptions w.interface argv start.draft start.world
    if r.1 ∧ r.2.draft.pending ≠ w.interfaceConfiguration then use .netInterface

/-! ## Protocols -/

/-- `_find_protocol` -/
def findProtocol : NetProgram Bool := do
  if ← isNull .protocols then
    if ← isNull .netService then return false
    else
      use .netService
      if ← request .serviceCopyProtocols then
        assign .protocols
        request .listMatches
      else return false
  else request .listMatches

/-- `create_protocol` -/
def createProtocol (argv : List String) : NetProgram Unit := do
  if argv.length < 1 then return
  else
    let protocolType ← argument argv 0
    if protocolType = "" then return
    else if ← isNull .netService then return
    else
      use .netService
      use .netService
      if ← request .serviceAddProtocolType then
        drop .protocols
        release .netProtocol
        use .netService
        if ← request .serviceCopyProtocol then assign .netProtocol else clear .netProtocol

/-- `disable_protocol` and `enable_protocol` -/
def setProtocolEnabled (argv : List String) : NetProgram Unit := do
  if ← target .netProtocol findProtocol (argv.length > 0) argv then
    let _ ← request .protocolSetEnabled

/-- `disable_protocol` -/
def disableProtocol := setProtocolEnabled

/-- `enable_protocol` -/
def enableProtocol := setProtocolEnabled

/-- `remove_protocol` -/
def removeProtocol (argv : List String) : NetProgram Unit := do
  if ← target .netProtocol findProtocol (argv.length > 0) argv then
    use .netService
    if ← request .serviceRemoveProtocolType then
      if ← isNull .netProtocol then pure ()
      else
        use .netProtocol
        if ← request .equal then drop .netProtocol
      drop .protocols

/-- `select_protocol` -/
def selectProtocol (argv : List String) : NetProgram Unit := do
  let _ ← argument argv 0
  if ← findProtocol then select .netProtocol

/-- The table of `set_protocol_dns` and the others. -/
def protocolOptions {o i : CFConfiguration} {l : CFConfiguration → CFConfiguration}
    (svc : ProtocolServices) : Option (List (OptionRow o i l)) :=
  match svc.protocolType with
  | .dns => some (dnsOptions svc)
  | .ipv4 => some (ipv4Options svc)
  | .ipv6 => some (ipv6Options svc)
  | .proxies => some proxyOptions
  | .smb => some (smbOptions svc)
  | .other => none

/-- The options of a protocol whose handlers do not look at `argc`. -/
def uncheckedOptions (svc : ProtocolServices) : List String :=
  let unchecked (rows : List (CheckedRow ∅ (editCopy ∅) id)) : List String :=
    readsBeyond rows .start (.start ∅ ∅ none false)
  match svc.protocolType with
  | .dns => unchecked ((dnsOptions svc).zip (dnsHandlers (fun _ => true) svc))
  | .ipv4 => unchecked ((ipv4Options svc).zip (ipv4Handlers svc))
  | .ipv6 => unchecked ((ipv6Options svc).zip (ipv6Handlers svc))
  | .proxies => unchecked (proxyOptions.zip (proxyHandlers fun _ => true))
  | .smb => unchecked ((smbOptions svc).zip (smbHandlers (fun _ => true) svc))
  | .other => []

/-- They are those with the handlers `__doIPv4Addresses`, `__doIPv6Addresses` and
`__doIPv6PrefixLength`. -/
theorem uncheckedOptions_eq (svc : ProtocolServices) :
    uncheckedOptions svc =
      match svc.protocolType with
      | .ipv4 => ["Addresses", "address", "SubnetMasks", "netmask", "Router"]
      | .ipv6 => ["Addresses", "address", "PrefixLength", "Router"]
      | _ => [] := by
  unfold uncheckedOptions
  cases svc.protocolType <;> rfl

/-- What `set_protocol_dns` and the others read. -/
def protocolReads (argv : List String) : NetProgram Unit :=
  match protocolOptions w.protocol with
  | none => pure ()
  | some options =>
    optionReads options (fun option => option ∈ uncheckedOptions w.protocol) none
      argv.length (w.protocolStart argv)

/-- `set_protocol` -/
def setProtocol (argv : List String) : NetProgram Unit := do
  if ← isNull .netProtocol then return
  else if argv.length < 1 then return
  else
    use .netProtocol
    use .netProtocol
    protocolReads w argv
    let start := w.protocolStart argv
    let r := setProtocolOptions w.protocol argv start.draft start.world
    if r.1 ∧ r.2.draft.pending ≠ w.protocolConfiguration then use .netProtocol

/-- `show_protocol` -/
def showProtocol (argv : List String) : NetProgram Unit := do
  let _ ← target .netProtocol findProtocol (argv.length > 0) argv

/-- `show_protocols` -/
def showProtocols (_ : List String) : NetProgram Unit := do
  if ← isNull .prefs then return
  else if ← isNull .netService then return
  else
    release .protocols
    use .netService
    if ← request .serviceCopyProtocols then
      assign .protocols
      mark .netProtocol w.listed
    else clear .protocols

/-! ## Services -/

/-- `_find_service` -/
def findService : NetProgram Bool := do
  if ← isNull .services then
    if ← isNull .netSet then return false
    else
      use .netSet
      if ← request .setCopyServices then
        assign .services
        request .listMatches
      else return false
  else request .listMatches

/-- In `create_service`, the new service is named and added to the set. -/
def nameAndAddService (argv : List String) : NetProgram Bool := do
  let named ←
    if argv.length > 0 then do
      let serviceName ← argument argv 0
      if serviceName = "" then pure true else request .serviceSetName
    else pure true
  if named then
    if ← request .serviceEstablishDefaultConfiguration then
      use .netSet
      request .setAddService
    else return false
  else return false

/-- The end of `create_service`, once there is an interface. -/
def createServiceOver (argv : List String) : NetProgram Unit := do
  if ← request .interfaceGetSupportedProtocolTypes then
    if ← request .serviceCreate then
      if ← nameAndAddService argv then
        select .netService
        use .netSet
        release .netInterface
        use .netService
        if ← request .serviceGetInterface then assign .netInterface else clear .netInterface
        drop .protocols
        drop .netProtocol
        drop .services

/-- `create_service` -/
def createService (argv : List String) : NetProgram Unit := do
  if ← isNull .prefs then return
  else if ← isNull .netSet then return
  else if argv.length < 1 then
    if ← isNull .netInterface then return else createServiceOver argv
  else
    let r ← findInterface argv
    if r.1 then createServiceOver (argv.drop r.2)

/-- `disable_service` and `enable_service` -/
def setServiceEnabled (argv : List String) : NetProgram Unit := do
  if ← target .netService findService (argv.length = 1) argv then
    let _ ← request .serviceSetEnabled

/-- `disable_service` -/
def disableService := setServiceEnabled

/-- `enable_service` -/
def enableService := setServiceEnabled

/-- `remove_service` -/
def removeService (argv : List String) : NetProgram Unit := do
  if ← target .netService findService (argv.length = 1) argv then
    if ← request .serviceRemove then
      if ← isNull .netService then pure ()
      else
        use .netService
        if ← request .equal then
          drop .netService
          drop .protocols
          drop .netProtocol
          drop .netInterface
      drop .services

/-- `select_service` -/
def selectService (argv : List String) : NetProgram Unit := do
  let _ ← argument argv 0
  if ← findService then
    select .netService
    if ← request .serviceGetInterface then select .netInterface else drop .netInterface
    drop .protocols
    drop .netProtocol

/-- The number `order` is set to, where it is in range: read by `strtol`. -/
def orderOfArg (arg : String) : Option Int :=
  (strtolInt arg).filter fun n => 0 < n

/-- The loop of `set_service` -/
def setServiceLoop : List String → NetProgram Unit
  | [] => pure ()
  | command :: argv => do
    let command ← argument (command :: argv) 0
    if command = "name" then
      match argv with
      | [] => return
      | name :: argv =>
        let _ ← argument (name :: argv) 0
        use .netService
        if ← request .serviceSetName then setServiceLoop argv
    else if command = "order" then
      -- the services are counted before the set is looked at
      use .netSet
      let _ ← request .setCopyServices
      match argv with
      | [] => return
      | order :: argv =>
        if ← isNull .netSet then return
        else
          let str ← argument (order :: argv) 0
          match orderOfArg str with
          | none => return
          | some _ =>
            if ← request .withinServices then
              use .netService
              use .netSet
              use .netSet
              if ← request .setSetServiceOrder then setServiceLoop argv
    else if command = "rank" then
      match argv with
      | [] => return
      | rank :: argv =>
        let rank ← argument (rank :: argv) 0
        match argv with
        | [] =>
          if rankOfArg rank = some .default ∨ rankOfArg rank = some .never then
            use .netService
            let _ ← request .serviceSetPrimaryRank
        | _ :: argv =>
          match rankOfArg rank with
          | none => return
          | some _ =>
            -- the rank is that of the active service, and the next argument goes unread
            use .netService
            if ← request .serviceSetPrimaryRank then setServiceLoop argv
    else if command = "id" then
      match argv with
      | [] => return
      | id :: argv =>
        let id ← argument (id :: argv) 0
        if id = "" then return
        else
          use .netService
          if ← request .serviceSetServiceID then setServiceLoop argv
    else setServiceLoop argv

/-- `set_service` -/
def setService (argv : List String) : NetProgram Unit := do
  if ← isNull .netService then return
  else if argv.length < 1 then return
  else setServiceLoop argv

/-- `show_service` -/
def showService (argv : List String) : NetProgram Unit := do
  let _ ← target .netService findService (argv.length = 1) argv

/-- `show_services` -/
def showServices (argv : List String) : NetProgram Unit := do
  if ← isNull .prefs then return
  else if argv.length = 1 then
    release .services
    if ← request .serviceCopyAll then
      assign .services
      mark .netService w.listed
    else clear .services
  else if ← isNull .netSet then return
  else
    release .services
    use .netSet
    if ← request .setCopyServices then
      assign .services
      use .netSet
      mark .netService w.listed
    else clear .services

/-! ## Sets -/

/-- `_find_set` -/
def findSet : NetProgram Bool := do
  if ← isNull .sets then
    if ← isNull .prefs then return false
    else if ← request .setCopyAll then
      assign .sets
      request .listMatches
    else return false
  else request .listMatches

/-- What is below the set is no longer selected. -/
def dropBelow : NetProgram Unit := do
  drop .netService
  drop .netProtocol
  drop .netInterface

/-- `create_set` -/
def createSet (argv : List String) : NetProgram Unit := do
  if ← isNull .prefs then return
  else if ← request .setCreate then
    let named ←
      if argv.length > 0 then do
        let setName ← argument argv 0
        if setName = "" then pure true else request .setSetName
      else pure true
    if named then
      select .netSet
      dropBelow
      drop .sets

/-- `remove_set` -/
def removeSet (argv : List String) : NetProgram Unit := do
  if ← target .netSet findSet (argv.length = 1) argv then
    if ← request .setRemove then
      use .netSet
      if ← request .equal then dropBelow
      drop .sets

/-- `select_set` -/
def selectSet (argv : List String) : NetProgram Unit := do
  let _ ← argument argv 0
  if ← findSet then
    select .netSet
    dropBelow

/-- In `set_set`, the sets are listed again, and the set is looked up. -/
def refreshSets : NetProgram Unit := do
  if ← isNull .sets then pure ()
  else
    use .netSet
    clear .netSet
    clear .sets
    if ← findSet then assign .netSet

/-- The loop of `set_set` -/
def setSetLoop : List String → NetProgram Unit
  | [] => pure ()
  | command :: argv => do
    let command ← argument (command :: argv) 0
    if command = "name" then
      match argv with
      | [] => return
      | name :: argv =>
        let _ ← argument (name :: argv) 0
        use .netSet
        if ← request .setSetName then
          refreshSets
          if ← isNull .netSet then return else setSetLoop argv
    else if command = "current" then
      use .netSet
      if ← request .setSetCurrent then
        if ← isNull .netSet then return else setSetLoop argv
    else if command = "id" then
      match argv with
      | [] => return
      | id :: argv =>
        let id ← argument (id :: argv) 0
        if id = "" then return
        else
          use .netSet
          if ← request .setSetSetID then
            refreshSets
            if ← isNull .netSet then return else setSetLoop argv
    else if ← isNull .netSet then return
    else setSetLoop argv

/-- `set_set` -/
def setSet (argv : List String) : NetProgram Unit := do
  if ← isNull .netSet then return
  else if argv.length < 1 then return
  else setSetLoop argv

/-- `show_set` -/
def showSet (argv : List String) : NetProgram Unit := do
  if ← target .netSet findSet (argv.length = 1) argv then
    if ← request .setCopyServices then mark .netService w.listed

/-- `show_sets` -/
def showSets (_ : List String) : NetProgram Unit := do
  if ← isNull .prefs then return
  else if ← isNull .sets then
    if ← request .setCopyAll then
      assign .sets
      mark .netSet w.listed
  else mark .netSet w.listed

/-! ## The table of keys -/

/-- An entry of `net_keys` -/
structure NetKey where
  key : String
  create : Option (List String → NetProgram Unit)
  disable : Option (List String → NetProgram Unit)
  enable : Option (List String → NetProgram Unit)
  select : Option (List String → NetProgram Unit)
  set : Option (List String → NetProgram Unit)
  «show» : Option (List String → NetProgram Unit)
  remove : Option (List String → NetProgram Unit)

/-- `net_keys` -/
def netKeys : List NetKey := [
  ⟨"interfaces", none, none, none, none, none, some (showInterfaces w), none⟩,
  ⟨"interface", some createInterface, none, none, some selectInterface, some (setInterface w),
    some showInterface, none⟩,
  ⟨"services", none, none, none, none, none, some (showServices w), none⟩,
  ⟨"service", some createService, some disableService, some enableService, some selectService,
    some setService, some showService, some removeService⟩,
  ⟨"protocols", none, none, none, none, none, some (showProtocols w), none⟩,
  ⟨"protocol", some createProtocol, some disableProtocol, some enableProtocol,
    some selectProtocol, some (setProtocol w), some showProtocol, some removeProtocol⟩,
  ⟨"sets", none, none, none, none, none, some (showSets w), none⟩,
  ⟨"set", some createSet, none, none, some selectSet, some setSet, some (showSet w),
    some removeSet⟩]

/-- `findNetKey` -/
def findNetKey (key : String) : Option NetKey :=
  (netKeys w).find? fun k => k.key = key

/-- `do_net_create` and the others that look for a handler in the entry before they call it. -/
def doNetChecked (handlerOf : NetKey → Option (List String → NetProgram Unit))
    (argv : List String) : NetProgram Unit := do
  let key ← argument argv 0
  match findNetKey w key with
  | none => return
  | some k =>
    if (handlerOf k).isNone then return
    else handler (handlerOf k) argv.tail

/-- `do_net_set` and `do_net_show`, which call the handler of the entry. -/
def doNetUnchecked (handlerOf : NetKey → Option (List String → NetProgram Unit))
    (argv : List String) : NetProgram Unit := do
  let key ← argument argv 0
  match findNetKey w key with
  | none => return
  | some k => handler (handlerOf k) argv.tail

/-- `do_net_create` -/
def doNetCreate := doNetChecked w NetKey.create

/-- `do_net_disable` -/
def doNetDisable := doNetChecked w NetKey.disable

/-- `do_net_enable` -/
def doNetEnable := doNetChecked w NetKey.enable

/-- `do_net_remove` -/
def doNetRemove := doNetChecked w NetKey.remove

/-- `do_net_select` -/
def doNetSelect := doNetChecked w NetKey.select

/-- `do_net_set` -/
def doNetSet := doNetUnchecked w NetKey.set

/-- `do_net_show` -/
def doNetShow := doNetUnchecked w NetKey.show

/-! ## The other commands -/

/-- `do_net_migrate_perform` -/
def doNetMigratePerform (argv : List String) : NetProgram Unit := do
  let _ ← argument argv 0
  let _ ← argument argv 1
  if argv.length = 3 then
    let _ ← argument argv 2
  let _ ← request .migration

/-- `do_net_migrate_validate` -/
def doNetMigrateValidate (argv : List String) : NetProgram Unit := do
  let _ ← argument argv 0
  let _ ← argument argv 1
  let _ ← request .migration

/-- `do_net_migrate` -/
def doNetMigrate (argv : List String) : NetProgram Unit := do
  let key ← argument argv 0
  if key = "perform" then doNetMigratePerform argv.tail
  else if key = "validate" then doNetMigrateValidate argv.tail

/-- `_prefs_commitRequired` -/
def prefsCommitRequired (argv : List String) : NetProgram Bool := do
  if ← request .prefsChanged then
    if ← request .inputIsTerminal then
      if argv.length < 1 then return true
      else
        let abandon ← argument argv 0
        return abandon ≠ "!"
    else return false
  else return false

/-- `_net_close` -/
def netClose : NetProgram Unit := do
  drop .netInterface
  drop .netService
  drop .netProtocol
  drop .netSet
  drop .interfaces
  drop .services
  drop .protocols
  drop .sets
  drop .newInterfaces

/-- The end of `do_net_open`: the current set is selected. -/
def openPrefs (argv : List String) : NetProgram Unit := do
  if argv.length > 0 then
    let _ ← argument argv 0
  if ← request .prefsOpen then
    assign .prefs
    if ← request .setCopyCurrent then
      assign .netSet
      use .netSet
    else clear .netSet

/-- `do_net_open` -/
def doNetOpen (argv : List String) : NetProgram Unit := do
  if ← isNull .prefs then openPrefs argv
  else if ← prefsCommitRequired argv then return
  else
    netClose
    drop .prefs
    openPrefs argv

/-- `do_net_close` and `do_net_quit` -/
def doNetClose (argv : List String) : NetProgram Unit := do
  if ← prefsCommitRequired argv then return
  else
    netClose
    drop .prefs

/-- `do_net_quit` -/
def doNetQuit := doNetClose

/-- `do_net_commit` -/
def doNetCommit (_ : List String) : NetProgram Unit := do
  let _ ← request .commitChanges

/-- `do_net_apply` -/
def doNetApply (_ : List String) : NetProgram Unit := do
  let _ ← request .applyChanges

/-- `do_net_clean` -/
def doNetClean (_ : List String) : NetProgram Unit := do
  if ← isNull .prefs then return
  else
    let _ ← request .configurationClean

/-- `do_net_update` -/
def doNetUpdate (_ : List String) : NetProgram Unit := do
  if ← isNull .prefs then return
  else
    let found ←
      if ← isNull .netSet then do
        if ← request .setCopyCurrent then pure true
        else if ← request .setCreateDefault then
          select .netSet
          drop .sets
          pure true
        else pure false
      else
        use .netSet
        pure true
    if found then
      let _ ← request .setEstablishDefaultConfiguration

/-- `do_net_upgrade` -/
def doNetUpgrade (argv : List String) : NetProgram Unit := do
  if ← isNull .prefs then return
  else if ← request .upgradable then
    if argv.length > 0 then
      let name ← argument argv 0
      if name ∈ ["preferences.plist", "NetworkInterfaces.plist"] then
        let _ ← request .configurationUpgrade
    else
      let _ ← request .configurationUpgrade

/-- `do_net_snapshot` -/
def doNetSnapshot (_ : List String) : NetProgram Unit := do
  let _ ← isNull .prefs

/-- `do_help` -/
def doHelp (_ : List String) : NetProgram Unit := pure ()

/-- `do_readFile`; the lines of the file are commands of their own. -/
def doReadFile (argv : List String) : NetProgram Unit := do
  let _ ← argument argv 0

/-! ## The table of commands -/

/-- The handlers of `commands_net` -/
inductive NetCommandFunc
  | doHelp
  | doReadFile
  | doNetQuit
  | doNetOpen
  | doNetCommit
  | doNetApply
  | doNetClose
  | doNetCreate
  | doNetDisable
  | doNetEnable
  | doNetRemove
  | doNetSelect
  | doNetSet
  | doNetShow
  | doNetMigrate
  | doNetClean
  | doNetUpdate
  | doNetUpgrade
  | doNetSnapshot
deriving DecidableEq, Repr

/-- `commands_net` -/
def commandsNet : List (CommandInfo NetCommandFunc) := [
  ⟨"help", 0, 0, .doHelp, 0⟩,
  ⟨"f.read", 1, 1, .doReadFile, 0⟩,
  ⟨"quit", 0, 1, .doNetQuit, 0⟩,
  ⟨"q", 0, 1, .doNetQuit, -1⟩,
  ⟨"exit", 0, 1, .doNetQuit, -1⟩,
  ⟨"open", 0, 1, .doNetOpen, 1⟩,
  ⟨"commit", 0, 0, .doNetCommit, 0⟩,
  ⟨"apply", 0, 0, .doNetApply, 0⟩,
  ⟨"close", 0, 1, .doNetClose, 1⟩,
  ⟨"create", 1, 3, .doNetCreate, 0⟩,
  ⟨"disable", 1, 2, .doNetDisable, 0⟩,
  ⟨"enable", 1, 2, .doNetEnable, 0⟩,
  ⟨"remove", 1, 2, .doNetRemove, 0⟩,
  ⟨"select", 2, 3, .doNetSelect, 0⟩,
  ⟨"set", 2, 101, .doNetSet, 0⟩,
  ⟨"show", 1, 2, .doNetShow, 0⟩,
  ⟨"migrate", 2, 5, .doNetMigrate, 0⟩,
  ⟨"clean", 0, 0, .doNetClean, 0⟩,
  ⟨"update", 0, 0, .doNetUpdate, 0⟩,
  ⟨"upgrade", 0, 1, .doNetUpgrade, 0⟩,
  ⟨"snapshot", 0, 0, .doNetSnapshot, 2⟩]

/-- The handler called for a command -/
def NetCommandFunc.run : NetCommandFunc → List String → NetProgram Unit
  | .doHelp => NetDispatch.doHelp
  | .doReadFile => NetDispatch.doReadFile
  | .doNetQuit => NetDispatch.doNetQuit
  | .doNetOpen => NetDispatch.doNetOpen
  | .doNetCommit => NetDispatch.doNetCommit
  | .doNetApply => NetDispatch.doNetApply
  | .doNetClose => NetDispatch.doNetClose
  | .doNetCreate => NetDispatch.doNetCreate w
  | .doNetDisable => NetDispatch.doNetDisable w
  | .doNetEnable => NetDispatch.doNetEnable w
  | .doNetRemove => NetDispatch.doNetRemove w
  | .doNetSelect => NetDispatch.doNetSelect w
  | .doNetSet => NetDispatch.doNetSet w
  | .doNetShow => NetDispatch.doNetShow w
  | .doNetMigrate => NetDispatch.doNetMigrate
  | .doNetClean => NetDispatch.doNetClean
  | .doNetUpdate => NetDispatch.doNetUpdate
  | .doNetUpgrade => NetDispatch.doNetUpgrade
  | .doNetSnapshot => NetDispatch.doNetSnapshot

end ConfigdExtra.NetDispatch
