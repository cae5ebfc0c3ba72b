import ConfigdExtra.Attempts
import ConfigdExtra.InterfaceConfiguration

/-!
# Migrating a service

`__SCNetworkServiceMigrateNew` makes a service of other preferences anew in the target ones: over
the interface that its entity describes once the devices are renamed, with the default
configuration, in the sets that correspond to its own. The protocols and the configurations of the
interface are then copied.

* `SourceService` — the service, with what is read of it.
* `TargetContents`, `MigrationLibrary` — the target preferences, and the operations of the
  framework on them, each with what it does.
* `configurationWrites` — the configurations that `copyInterfaceConfiguration` sets.
* `migrateNew` — the function.
-/

namespace ConfigdExtra

/-! ## Where a layer has its configuration -/

/-- `kSCEntNetEAPOL` -/
def kSCEntNetEAPOL : String := "EAPOL"

/-- `kSCEntNetIPSec` -/
def kSCEntNetIPSec : String := "IPSec"

/-- `kVPNProtocolPayloadInfo` -/
def kVPNProtocolPayloadInfo : String := "com.apple.payload"

/-- `kSCValNetPPPAuthProtocolEAP` -/
def kSCValNetPPPAuthProtocolEAP : String := "EAP"

/-- `kSCEntNetLoginWindowEAPOL` -/
def kSCEntNetLoginWindowEAPOL : String := "EAPOL.LoginWindow"

/-- The interface and those below it. -/
def SCNetworkInterface.layers : SCNetworkInterface → List SCNetworkInterface
  | .mk info bond bridge vlan none => [.mk info bond bridge vlan none]
  | .mk info bond bridge vlan (some child) =>
    .mk info bond bridge vlan (some child) :: child.layers

/-- Where the configuration of a layer is: with the interface in the sets of the service, or with
the service. -/
inductive ConfigurationPlace
  | interface (device : Option String) (entity : String)
  | service (entity : String)
deriving DecidableEq

/-- The entity of a configuration of a layer: the default one if there is no extended type. -/
def configurationEntity (layer : SCNetworkInterface) (extendedType : Option String) :
    Option String :=
  extendedType.or (hardwareOf layer.info.interfaceType)

/-- `copyConfigurationPaths`, of a service in a set -/
def configurationPlace (layer : SCNetworkInterface) (extendedType : Option String) :
    Option ConfigurationPlace :=
  (configurationEntity layer extendedType).map fun entity =>
    if layer.info.interfaceType ∈ perInterfaceConfig then
      .interface layer.info.entityDevice entity
    else .service entity

/-- PPP over L2TP -/
def isPPPOverL2TP (layer : SCNetworkInterface) : Bool :=
  layer.info.interfaceType = kSCNetworkInterfaceTypePPP ∧
    layer.interface.map (·.info.interfaceType) = some kSCNetworkInterfaceTypeL2TP

/-- `__SCNetworkInterfaceIsValidExtendedConfigurationType`, with `requirePerInterface` -/
def isValidExtendedConfigurationType (layer : SCNetworkInterface) (extendedType : String) : Bool :=
  match hardwareOf layer.info.interfaceType with
  | none => false
  | some defaultType =>
    let isL2TP := decide (extendedType = kSCEntNetIPSec) && isPPPOverL2TP layer
    if extendedType = defaultType then false
    else if findConfiguration layer.info.interfaceType = none then false
    else if layer.info.interfaceType ∉ perInterfaceConfig ∧ isL2TP = false then false
    else if (findConfiguration extendedType).isSome ∧ isL2TP = false then false
    else true

/-! ## The source -/

/-- A protocol of a service. -/
structure ServiceProtocol (D : Type) where
  protocolType : String
  configuration : Option D
  enabled : Bool

/-- A service, with what is read of it. -/
structure SourceService (D : Type) where
  /-- `isA_SCNetworkService`, and its preferences are there -/
  hasPrefs : Bool
  /-- `servicePrivate->interface` is there -/
  loaded : Bool
  serviceID : String
  /-- `SCNetworkServiceGetInterface` -/
  interface : Option SCNetworkInterface
  /-- `SCNetworkServiceGetEnabled` -/
  enabled : Bool
  /-- `SCNetworkServiceCopyProtocols`: each type once -/
  protocols : List (ServiceProtocol D)
  nodup : (protocols.map ServiceProtocol.protocolType).Nodup
  /-- the configurations of the interface -/
  stored : ConfigurationPlace → Option D

/-- What a function that gets a configuration returns, and whether `SCError()` is then
`kSCStatusOK`. -/
structure Reading (D : Type) where
  value : Option D
  statusOK : Bool

section

variable {D : Type} (source : SourceService D)

/-- `SCNetworkInterfaceGetConfiguration`, or `SCNetworkInterfaceGetExtendedConfiguration` for an
extended type -/
def SourceService.read (layer : SCNetworkInterface) : Option String → Reading D
  | none =>
    match configurationPlace layer none with
    -- a layer without a default type has `kSCStatusInvalidArgument`
    | none => ⟨none, false⟩
    | some place =>
      -- an AirPort interface may have the configuration of its service
      ⟨(source.stored place).or
        (if configurationEntity layer none = some kSCEntNetAirPort then
          source.stored (.service kSCEntNetAirPort) else none), true⟩
  | some extendedType =>
    if isValidExtendedConfigurationType layer extendedType then
      ⟨(configurationPlace layer (some extendedType)).bind source.stored, true⟩
    else ⟨none, false⟩

/-- A configuration to be set. -/
structure ConfigurationWrite (D : Type) where
  /-- the layer it is read from -/
  old : SCNetworkInterface
  /-- the layer that it is set for -/
  new : SCNetworkInterface
  extendedType : Option String
  value : Option D

/-- The configurations that are copied for a layer. -/
def copiedTypes (layer : SCNetworkInterface) : List (Option String) :=
  none :: (if isPPPOverL2TP layer then [some kSCEntNetIPSec] else []) ++
    [some kSCEntNetEAPOL, some kVPNProtocolPayloadInfo, some kSCValNetPPPAuthProtocolEAP,
      some kSCEntNetLoginWindowEAPOL, some kSCNetworkInterfaceTypeIPSec]

/-- The configurations of a layer that are set: those that could be read. -/
def layerWrites (old new : SCNetworkInterface) : List (ConfigurationWrite D) :=
  (copiedTypes old).filterMap fun extendedType =>
    let reading := source.read old extendedType
    if reading.value.isSome || reading.statusOK then
      some ⟨old, new, extendedType, reading.value⟩
    else none

/-- `copyInterfaceConfiguration`: what is set, as far as the layers match -/
def configurationWrites : List SCNetworkInterface → List SCNetworkInterface →
    List (ConfigurationWrite D)
  | old :: olds, new :: news => layerWrites source old new ++ configurationWrites olds news
  | _, _ => []

end

/-! ## The entity of the interface -/

/-- `CFStringFindAndReplace`, after `skip` characters that were already replaced -/
def replaceFrom (find replacement : List Char) : ℕ → List Char → List Char
  | _, [] => []
  | skip + 1, _ :: cs => replaceFrom find replacement skip cs
  | 0, c :: cs =>
    if find ≠ [] ∧ find.isPrefixOf (c :: cs) then
      replacement ++ replaceFrom find replacement (find.length - 1) cs
    else c :: replaceFrom find replacement 0 cs

/-- `CFStringFindAndReplace` -/
def findAndReplace (s find replacement : String) : String :=
  String.ofList (replaceFrom find.toList replacement.toList 0 s.toList)

/-- The entity with the device name replaced according to the mapping, also where it is part of
the name of the interface. -/
def mapEntity (bsdNameMapping : Option (String → Option String)) (entity : InterfaceEntity) :
    InterfaceEntity :=
  match bsdNameMapping, entity.deviceName with
  | some mapping, some deviceName =>
    match mapping deviceName with
    | some targetDeviceName =>
      { entity with
        deviceName := some targetDeviceName
        userDefinedName := entity.userDefinedName.map fun name =>
          findAndReplace name deviceName targetDeviceName }
    | none => entity
  | _, _ => entity

/-! ## The target -/

/-- A service of the target. -/
structure TargetService (D : Type) where
  serviceID : String
  enabled : Bool
  interface : SCNetworkInterface
  /-- its protocols, by their types: the configuration, and whether it is enabled -/
  protocols : String → Option (Option D × Bool)

/-- The target preferences, with services `σ` and sets `δ`. -/
structure TargetContents (σ δ D : Type) where
  /-- the services that there are -/
  services : Set σ
  service : σ → TargetService D
  /-- the services of a set -/
  members : δ → Set σ
  /-- the configurations of the interface of a service -/
  configuration : σ → ConfigurationPlace → Option D

/-- Only a service may have changed. -/
structure OnlyChanges {σ δ D : Type} (s : σ) (before after : TargetContents σ δ D) : Prop where
  services : after.services = before.services
  members : after.members = before.members
  service : ∀ t ≠ s, after.service t = before.service t
  configuration : ∀ t ≠ s, after.configuration t = before.configuration t

/-- What `SCNetworkServiceCopyProtocol` returns: a protocol, or `NULL` with `kSCStatusNoKey` or
another error. -/
inductive CopiedProtocol
  | copied
  | noKey
  | failed
deriving DecidableEq

/-- The operations on preferences `π` and what is documented about them. Each may succeed or fail
as it likes, but for two: a service that is there can be removed, and it can be given an ID that no
other service has. -/
structure MigrationLibrary (π σ δ D : Type) where
  contents : π → TargetContents σ δ D
  /-- the types of the protocols that a service over the interface has by default -/
  defaultProtocols : SCNetworkInterface → Set String
  /-- `SCNetworkServiceCopy` -/
  copy : π → String → Option σ
  /-- `SCNetworkServiceCreate` -/
  create : π → Option SCNetworkInterface → Option σ × π
  /-- `SCNetworkServiceSetEnabled` -/
  setEnabled : π → σ → Bool → Bool × π
  /-- `SCNetworkServiceEstablishDefaultConfiguration` -/
  establish : π → σ → Bool × π
  /-- `_SCNetworkServiceSetServiceID` -/
  setServiceID : π → σ → String → Bool × π
  /-- `SCNetworkSetAddService` -/
  addService : π → δ → σ → Bool × π
  /-- `SCNetworkServiceRemove` -/
  remove : π → σ → Bool × π
  /-- `SCNetworkServiceCopyProtocol` -/
  copyProtocol : π → σ → String → CopiedProtocol
  /-- `SCNetworkServiceAddProtocolType` -/
  addProtocolType : π → σ → String → Bool × π
  /-- `SCNetworkProtocolSetConfiguration` -/
  setProtocolConfiguration : π → σ → String → Option D → Bool × π
  /-- `SCNetworkProtocolSetEnabled` -/
  setProtocolEnabled : π → σ → String → Bool → Bool × π
  /-- `SCNetworkInterfaceSetConfiguration`, or `SCNetworkInterfaceSetExtendedConfiguration` for
  an extended type, on a layer of the interface of a service -/
  setConfiguration : π → σ → SCNetworkInterface → Option String → Option D → Bool × π
  /-- a service that is there is found -/
  copy_none : ∀ p id, copy p id = none →
    ∀ t ∈ (contents p).services, ((contents p).service t).serviceID ≠ id
  /-- a service is created, with no protocols and in no set, that was not there -/
  create_some : ∀ p i s, (create p i).1 = some s →
    s ∉ (contents p).services ∧
    (contents (create p i).2).services = insert s (contents p).services ∧
    (∀ t ≠ s, (contents (create p i).2).service t = (contents p).service t) ∧
    (∀ t ≠ s, (contents (create p i).2).configuration t = (contents p).configuration t) ∧
    (contents (create p i).2).members = (contents p).members ∧
    (∀ g, s ∉ (contents p).members g) ∧
    some ((contents (create p i).2).service s).interface = i ∧
    ∀ type, ((contents (create p i).2).service s).protocols type = none
  /-- or none is -/
  create_none : ∀ p i, (create p i).1 = none → contents (create p i).2 = contents p
  setEnabled_only : ∀ p s b, OnlyChanges s (contents p) (contents (setEnabled p s b).2)
  setEnabled_true : ∀ p s b, (setEnabled p s b).1 = true →
    (contents (setEnabled p s b).2).service s = { (contents p).service s with enabled := b }
  /-- the default protocols are added -/
  establish_only : ∀ p s, OnlyChanges s (contents p) (contents (establish p s).2)
  establish_true : ∀ p s, (establish p s).1 = true →
    (contents (establish p s).2).service s =
      { (contents p).service s with
        protocols := ((contents (establish p s).2).service s).protocols } ∧
    ∀ type, (((contents (establish p s).2).service s).protocols type).isSome ↔
      (((contents p).service s).protocols type).isSome ∨
        type ∈ defaultProtocols ((contents p).service s).interface
  /-- a service can be given an ID that no other service has -/
  setServiceID_only : ∀ p s id, OnlyChanges s (contents p) (contents (setServiceID p s id).2)
  setServiceID_new : ∀ p s id,
    (∀ t ∈ (contents p).services, t ≠ s → ((contents p).service t).serviceID ≠ id) →
    (contents (setServiceID p s id).2).service s =
      { (contents p).service s with serviceID := id }
  /-- a service is added to a set, which may be given the configurations of its interface -/
  addService_services : ∀ p g s,
    (contents (addService p g s).2).services = (contents p).services ∧
    (contents (addService p g s).2).service = (contents p).service ∧
    ∀ h ≠ g, (contents (addService p g s).2).members h = (contents p).members h
  addService_true : ∀ p g s, (addService p g s).1 = true →
    (contents (addService p g s).2).members g = insert s ((contents p).members g)
  addService_false : ∀ p g s, (addService p g s).1 = false →
    contents (addService p g s).2 = contents p
  /-- a service that is removed is no longer there, nor in any set -/
  remove_spec : ∀ p s, s ∈ (contents p).services →
    (contents (remove p s).2).services = (contents p).services \ {s} ∧
    (∀ g, (contents (remove p s).2).members g = (contents p).members g \ {s}) ∧
    (∀ t ≠ s, (contents (remove p s).2).service t = (contents p).service t) ∧
    ∀ t ≠ s, (contents (remove p s).2).configuration t = (contents p).configuration t
  /-- a protocol is copied if the service has it -/
  copyProtocol_copied : ∀ p s type, copyProtocol p s type = .copied →
    (((contents p).service s).protocols type).isSome
  copyProtocol_noKey : ∀ p s type, copyProtocol p s type = .noKey →
    ((contents p).service s).protocols type = none
  /-- a type can be added once -/
  addProtocolType_only : ∀ p s type,
    OnlyChanges s (contents p) (contents (addProtocolType p s type).2)
  addProtocolType_service : ∀ p s type,
    (contents (addProtocolType p s type).2).service s =
      { (contents p).service s with
        protocols := ((contents (addProtocolType p s type).2).service s).protocols } ∧
    ∀ type' ≠ type, ((contents (addProtocolType p s type).2).service s).protocols type' =
      ((contents p).service s).protocols type'
  /-- a protocol is given a configuration, or enabled or disabled -/
  setProtocolConfiguration_only : ∀ p s type d,
    OnlyChanges s (contents p) (contents (setProtocolConfiguration p s type d).2)
  setProtocolConfiguration_service : ∀ p s type d,
    (contents (setProtocolConfiguration p s type d).2).service s =
      { (contents p).service s with
        protocols := fun type' =>
          if type' = type ∧ (setProtocolConfiguration p s type d).1 = true then
            (((contents p).service s).protocols type).map fun protocol => (d, protocol.2)
          else ((contents p).service s).protocols type' }
  setProtocolEnabled_only : ∀ p s type b,
    OnlyChanges s (contents p) (contents (setProtocolEnabled p s type b).2)
  setProtocolEnabled_service : ∀ p s type b,
    (contents (setProtocolEnabled p s type b).2).service s =
      { (contents p).service s with
        protocols := fun type' =>
          if type' = type ∧ (setProtocolEnabled p s type b).1 = true then
            (((contents p).service s).protocols type).map fun protocol => (protocol.1, b)
          else ((contents p).service s).protocols type' }
  /-- a configuration is stored at its place; a write that fails may have been made in part -/
  setConfiguration_only : ∀ p s layer extendedType d,
    (contents (setConfiguration p s layer extendedType d).2).services = (contents p).services ∧
    (contents (setConfiguration p s layer extendedType d).2).service = (contents p).service ∧
    (contents (setConfiguration p s layer extendedType d).2).members = (contents p).members
  setConfiguration_stored : ∀ p s layer extendedType d place,
    (contents (setConfiguration p s layer extendedType d).2).configuration s place =
      (contents p).configuration s place ∨
    some place = configurationPlace layer extendedType ∧
      (contents (setConfiguration p s layer extendedType d).2).configuration s place = d
  setConfiguration_true : ∀ p s layer extendedType d,
    (setConfiguration p s layer extendedType d).1 = true →
    ∀ place ∈ configurationPlace layer extendedType,
      (contents (setConfiguration p s layer extendedType d).2).configuration s place = d

section

variable {π σ δ γ D : Type} (lib : MigrationLibrary π σ δ D)

/-! ## The function -/

/-- `__SCNetworkServiceAddProtocolToService`, and whether all of its calls have succeeded, which it
does not return -/
def addProtocolToService (service : σ) (prefs : π) (protocol : ServiceProtocol D) : Bool × π :=
  let set (prefs : π) : Bool × π :=
    let r := lib.setProtocolConfiguration prefs service protocol.protocolType protocol.configuration
    let r' := lib.setProtocolEnabled r.2 service protocol.protocolType protocol.enabled
    (r.1 && r'.1, r'.2)
  match lib.copyProtocol prefs service protocol.protocolType with
  | .copied => set prefs
  | .failed => (false, prefs)
  | .noKey =>
    match lib.addProtocolType prefs service protocol.protocolType with
    | (false, prefs) => (false, prefs)
    | (true, prefs) =>
      match lib.copyProtocol prefs service protocol.protocolType with
      | .copied => set prefs
      | _ => (false, prefs)

/-- What a migration returns and leaves, and the failures it has gone on from. -/
structure Migration (π δ D : Type) where
  success : Bool
  prefs : π
  failedSets : List δ
  failedProtocols : List (ServiceProtocol D)
  failedWrites : List (ConfigurationWrite D)

/-- `goto done` -/
def Migration.stop (prefs : π) : Migration π δ D := ⟨false, prefs, [], [], []⟩

/-- From the loop over the sets on. -/
def fillService (source : SourceService D) (interface : SCNetworkInterface) (assigned : List δ)
    (newService : σ) (prefs : π) : Migration π δ D :=
  let sets := tryEach (fun prefs set => lib.addService prefs set newService) prefs assigned
  if sets.done = [] then
    -- service not added to any sets
    .stop (lib.remove sets.state newService).2
  else
    let protocols := tryEach (addProtocolToService lib newService) sets.state source.protocols
    let writes := tryEach
      (fun prefs (w : ConfigurationWrite D) =>
        lib.setConfiguration prefs newService w.new w.extendedType w.value)
      protocols.state
      (configurationWrites source interface.layers
        ((lib.contents protocols.state).service newService).interface.layers)
    ⟨true, writes.state, sets.failed, protocols.failed, writes.failed⟩

/-- From the creation of the service on. -/
def setUpNewService (source : SourceService D) (interface : SCNetworkInterface) (assigned : List δ)
    (newService : σ) (prefs : π) : Migration π δ D :=
  match lib.setEnabled prefs newService source.enabled with
  | (false, prefs) => .stop (lib.remove prefs newService).2
  | (true, prefs) =>
    match lib.establish prefs newService with
    | (false, prefs) => .stop (lib.remove prefs newService).2
    | (true, prefs) =>
      fillService lib source interface assigned newService
        (lib.setServiceID prefs newService source.serviceID).2

variable (sys : SystemInterfaces) (localizedDisplayName : SCNetworkInterface → String)
  (bsdNameMapping : Option (String → Option String))

/-- The interface that the entity describes once the devices are renamed. -/
def mappedInterface (interface : SCNetworkInterface) : Option SCNetworkInterface :=
  createWithEntity sys .external
    (mapEntity bsdNameMapping (copyInterfaceEntity localizedDisplayName interface))

/-- `__SCNetworkServiceMigrateNew`, where `setList` is what `serviceSetMapping`, if there is one,
has for the service -/
def migrateNew (source : SourceService D) (setMapping : Option (γ → Option δ))
    (setList : Option (List γ)) (prefs : π) : Migration π δ D :=
  if source.hasPrefs && source.loaded then
    match lib.copy prefs source.serviceID with
    -- cannot add service if it already exists
    | some _ => .stop prefs
    | none =>
      match source.interface with
      | none => .stop prefs
      | some interface =>
        match setMapping, setList with
        | some setMapping, some setList =>
          match lib.create prefs
            (mappedInterface sys localizedDisplayName bsdNameMapping interface) with
          | (none, prefs) => .stop prefs
          | (some newService, prefs) =>
            setUpNewService lib source interface (setList.filterMap setMapping) newService prefs
        -- no mapping
        | _, _ => .stop prefs
  else .stop prefs

end

end ConfigdExtra
