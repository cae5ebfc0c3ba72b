import ConfigdExtra.FlaggedEdits
import ConfigdExtra.SetAllOrNothing

/-!
# A session of `scutil --net`

The commands of `scutil --net` work on two preferences sessions, on one flag for unsaved changes,
and on what is selected and listed.

* `NetLibrary` — what the framework reads from the contents of a preferences session.
* `NetSelection` — `net_set`, `net_service` and the others, and the lists kept from the last
  search or listing.
* `findSet`, `findService`, `findProtocol` — how an argument selects an object.
* `NetCall`, `scriptOf` — the commands that edit `prefs`, as the calls they make.
* `netStep`, `netRun` — all commands, with how the calls they make turn out.
-/

namespace ConfigdExtra

open FlaggedEdits

/-! ## Objects -/

/-- A service object. Its ID can be changed in place, which all that hold the object see. -/
structure ServiceRef where
  /-- which object it is -/
  object : Nat
  /-- `SCNetworkServiceGetServiceID` -/
  id : String
deriving DecidableEq, Repr

/-- A protocol of a service object -/
structure ProtocolRef where
  service : ServiceRef
  /-- `SCNetworkProtocolGetProtocolType` -/
  type : String
deriving DecidableEq, Repr

/-- `services`, and whether `show services all` has filled it. -/
structure ServiceList where
  all : Bool
  refs : List ServiceRef
deriving DecidableEq, Repr

/-- The calls after which `scutil` does not survive. -/
inductive NetFault
  /-- `CFEqual` with `NULL` -/
  | comparedNull
  /-- `CFArrayGetCount` of `NULL` -/
  | countedNull
deriving DecidableEq, Repr

/-- What is selected and listed. Sets are given by their IDs. -/
structure NetSelection (ι : Type) where
  /-- `net_set` -/
  netSet : Option String
  /-- `net_service` -/
  netService : Option ServiceRef
  /-- `net_protocol` -/
  netProtocol : Option ProtocolRef
  /-- `net_interface` -/
  netInterface : Option ι
  /-- `sets` -/
  sets : Option (List String)
  /-- `services` -/
  services : Option ServiceList
  /-- `protocols` -/
  protocols : Option (List ProtocolRef)
  /-- the service objects so far -/
  objects : Nat
  /-- how `scutil` has ended, if it has -/
  fault : Option NetFault

/-- The configurations that a `set` command edits. -/
structure Configurations where
  own : CFConfiguration
  ipsec : CFConfiguration
  qos : CFConfiguration

/-- What a `set` command edits. -/
inductive SetTarget (ι : Type)
  | interface (i : ι)
  | protocol (p : ProtocolRef)

/-- What the framework reads from the contents `π` of the network preferences. -/
structure NetLibrary (π ι : Type) where
  /-- `SCNetworkSetCopyAll`, in the order of `_SCNetworkSetCompare` -/
  sets : π → List String
  /-- `SCNetworkSetGetName` -/
  setName : π → String → Option String
  /-- `SCNetworkSetCopyCurrent` -/
  currentSet : π → Option String
  /-- `SCNetworkServiceCopyAll` -/
  services : π → List String
  /-- `SCNetworkSetCopyServices` -/
  setServices : π → String → List String
  /-- the same in the order of `SCNetworkSetGetServiceOrder` -/
  orderedServices : π → String → List String
  /-- `SCNetworkServiceGetName` -/
  serviceName : π → String → Option String
  /-- the BSD name of the interface of a service, or of the one below -/
  bsdName : π → String → Option String
  /-- `SCNetworkServiceGetInterface` -/
  interface : π → String → Option ι
  /-- `SCNetworkInterfaceGetSupportedProtocolTypes` -/
  supportedTypes : ι → Option (List String)
  /-- `SCNetworkServiceCopyProtocols`, in the order of `_SCNetworkProtocolCompare` -/
  protocols : π → String → List String
  /-- the configurations of an interface or a protocol -/
  configurations : π → SetTarget ι → Configurations
  /-- the contents with these configurations -/
  configured : π → SetTarget ι → Configurations → π
  /-- with the configurations that it has, it stays as it is -/
  configured_configurations : ∀ c target, configured c target (configurations c target) = c
  /-- `CFStringCompare` with `kCFCompareCaseInsensitive` -/
  caseless : String → String → Bool

/-! ## Searching -/

/-- The number `strtol` reads, if it reads all of a string and the number is not negative. -/
def indexOfArg (arg : String) : Option Nat :=
  let digits := match arg.toList.dropWhile isSpace with
    | '+' :: cs => cs
    | cs => cs
  if digits ≠ [] ∧ digits.all Char.isDigit ∧ digitsValue digits < 2 ^ 63 then
    some (digitsValue digits)
  else none

/-- Select by index, from 1 on. -/
def findIndex {α : Type} (allowIndex : Bool) (arg : String) (l : List α) : Option α :=
  if allowIndex then
    match indexOfArg arg with
    | some (val + 1) => l[val]?
    | _ => none
  else none

/-- Select by names, one kind after the other: by the first that any object has, if only one
has it. -/
def findNamed {α : Type} : List (α → Bool) → List α → Option (Option α)
  | [], _ => none
  | named :: rest, l =>
    match l.filter named with
    | [] => findNamed rest l
    | [a] => some (some a)
    | _ => some none

/-- Select by the identifier, else by the names, else by the index. -/
def findIn {α : Type} (identified : α → Bool) (names : List (α → Bool)) (allowIndex : Bool)
    (arg : String) (l : List α) : Option α :=
  match l.find? identified with
  | some a => some a
  | none =>
    match findNamed names l with
    | some found => found
    | none => findIndex allowIndex arg l

theorem findIndex_mem {α : Type} {allowIndex : Bool} {arg : String} {l : List α} {a : α}
    (h : findIndex allowIndex arg l = some a) : a ∈ l := by
  unfold findIndex at h
  split_ifs at h
  split at h
  · exact List.mem_of_getElem? h
  · cases h

theorem findNamed_mem {α : Type} {names : List (α → Bool)} {l : List α} {a : α}
    (h : findNamed names l = some (some a)) : a ∈ l := by
  induction names with
  | nil => cases h
  | cons named rest ih =>
    rw [findNamed] at h
    split at h
    · exact ih h
    next hfilter =>
      obtain rfl := Option.some.inj (Option.some.inj h)
      exact (List.mem_filter.mp (hfilter ▸ List.mem_singleton_self _)).1
    · cases h

/-- What is found is in the list. -/
theorem findIn_mem {α : Type} {identified : α → Bool} {names : List (α → Bool)}
    {allowIndex : Bool} {arg : String} {l : List α} {a : α}
    (h : findIn identified names allowIndex arg l = some a) : a ∈ l := by
  unfold findIn at h
  split at h
  next hfind =>
    obtain rfl := Option.some.inj h
    exact List.mem_of_find?_eq_some hfind
  · split at h
    next hnamed => exact findNamed_mem (h ▸ hnamed)
    · exact findIndex_mem h

namespace NetSelection

variable {π ι : Type}

/-- Nothing is selected or listed. -/
def empty (objects : Nat) : NetSelection ι where
  netSet := none
  netService := none
  netProtocol := none
  netInterface := none
  sets := none
  services := none
  protocols := none
  objects := objects
  fault := none

/-- New objects for these services. -/
def newServices (first : Nat) (ids : List String) : List ServiceRef :=
  (ids.zipIdx first).map fun p => ⟨p.2, p.1⟩

/-- `services` is filled. -/
def listServices (sel : NetSelection ι) (all : Bool) (ids : List String) : NetSelection ι :=
  { sel with
    services := some ⟨all, newServices sel.objects ids⟩
    objects := sel.objects + ids.length }

/-- `protocols` is filled, for a service. -/
def listProtocols (sel : NetSelection ι) (service : ServiceRef) (types : List String) :
    NetSelection ι :=
  { sel with protocols := some (types.map fun type => ⟨service, type⟩) }

/-- `_find_set`; the sets can be copied if `copied` holds. -/
def findSet (sel : NetSelection ι) (lib : NetLibrary π ι) (c : π) (copied : Bool) (arg : String) :
    Option String × NetSelection ι :=
  let find (allowIndex : Bool) (l : List String) :=
    findIn (fun id => id == arg)
      [fun id => lib.setName c id == some arg,
       fun id => (lib.setName c id).any (lib.caseless arg)] allowIndex arg l
  match sel.sets with
  | some l => (find true l, sel)
  | none =>
    if copied then (find false (lib.sets c), { sel with sets := some (lib.sets c) })
    else (none, sel)

/-- `_find_service` -/
def findService (sel : NetSelection ι) (lib : NetLibrary π ι) (c : π) (copied : Bool)
    (arg : String) : Option ServiceRef × NetSelection ι :=
  let find (allowIndex : Bool) (l : List ServiceRef) :=
    findIn (fun r => r.id == arg)
      [fun r => lib.serviceName c r.id == some arg,
       fun r => (lib.serviceName c r.id).any (lib.caseless arg),
       fun r => (lib.bsdName c r.id).any (lib.caseless arg)] allowIndex arg l
  match sel.services with
  | some l => (find true l.refs, sel)
  | none =>
    match sel.netSet with
    | none => (none, sel)
    | some set =>
      if copied then
        let ids := lib.setServices c set
        (find false (newServices sel.objects ids), sel.listServices false ids)
      else (none, sel)

/-- `_find_protocol` -/
def findProtocol (sel : NetSelection ι) (lib : NetLibrary π ι) (c : π) (copied : Bool)
    (arg : String) : Option ProtocolRef × NetSelection ι :=
  let find (allowIndex : Bool) (l : List ProtocolRef) :=
    findIn (fun p => lib.caseless arg p.type) [] allowIndex arg l
  match sel.protocols with
  | some l => (find true l, sel)
  | none =>
    match sel.netService with
    | none => (none, sel)
    | some service =>
      if copied then
        let types := lib.protocols c service.id
        (find false (types.map fun type => ⟨service, type⟩), sel.listProtocols service types)
      else (none, sel)

/-- The set that is meant: the one of the argument, or the selected one. -/
def targetSet (sel : NetSelection ι) (lib : NetLibrary π ι) (c : π) (copied : Bool) :
    Option String → Option String × NetSelection ι
  | some arg => sel.findSet lib c copied arg
  | none => (sel.netSet, sel)

/-- The service that is meant -/
def targetService (sel : NetSelection ι) (lib : NetLibrary π ι) (c : π) (copied : Bool) :
    Option String → Option ServiceRef × NetSelection ι
  | some arg => sel.findService lib c copied arg
  | none => (sel.netService, sel)

/-- The protocol that is meant -/
def targetProtocol (sel : NetSelection ι) (lib : NetLibrary π ι) (c : π) (copied : Bool) :
    Option String → Option ProtocolRef × NetSelection ι
  | some arg => sel.findProtocol lib c copied arg
  | none => (sel.netProtocol, sel)

/-- No service is selected, and nothing below. -/
def deselectService (sel : NetSelection ι) : NetSelection ι :=
  { sel with netService := none, netProtocol := none, netInterface := none }

/-- The ID of a service object is changed. -/
def renameService (sel : NetSelection ι) (object : Nat) (id : String) : NetSelection ι :=
  let rename (r : ServiceRef) : ServiceRef := if r.object = object then ⟨object, id⟩ else r
  { sel with
    netService := sel.netService.map rename
    netProtocol := sel.netProtocol.map fun p => { p with service := rename p.service }
    services := sel.services.map fun l => { l with refs := l.refs.map rename }
    protocols := sel.protocols.map fun l => l.map fun p => { p with service := rename p.service } }

/-- In `set_set`, `sets` is copied again, and the set is looked up by its ID. -/
def refreshSets (sel : NetSelection ι) (lib : NetLibrary π ι) (c : π) (copied : Bool)
    (id : String) : NetSelection ι :=
  if sel.sets.isSome then
    let found := { sel with netSet := none, sets := none }.findSet lib c copied id
    { found.2 with netSet := found.1 }
  else sel

end NetSelection

/-! ## Commands that edit `prefs` -/

/-- The calls of the framework that edit `prefs`, for the sets, services and protocols with the
given IDs and types. -/
inductive NetCall
  /-- `SCNetworkSetCreate`, and `SCNetworkSetSetName` if there is a name; if this fails,
  `SCNetworkSetRemove` -/
  | setCreate (id : String)
  /-- `SCNetworkSetRemove` -/
  | setRemove (set : String)
  /-- `SCNetworkSetSetName` -/
  | setSetName (set : String)
  /-- `SCNetworkSetSetCurrent` -/
  | setSetCurrent (set : String)
  /-- `_SCNetworkSetSetSetID` -/
  | setSetSetID (set id : String)
  /-- `SCNetworkServiceCreate`, `SCNetworkServiceSetName` if there is a name,
  `SCNetworkServiceEstablishDefaultConfiguration` and `SCNetworkSetAddService`; if one of the
  last three fails, `SCNetworkServiceRemove` -/
  | serviceCreate (set id : String)
  /-- `SCNetworkServiceSetEnabled` -/
  | serviceSetEnabled (service : String) (enabled : Bool)
  /-- `SCNetworkServiceRemove` -/
  | serviceRemove (service : String)
  /-- `SCNetworkServiceSetName` -/
  | serviceSetName (service : String)
  /-- `SCNetworkSetSetServiceOrder` -/
  | setSetServiceOrder (set service : String) (index : Nat)
  /-- `SCNetworkServiceSetPrimaryRank` -/
  | serviceSetPrimaryRank (service : String) (rank : PrimaryRank)
  /-- `_SCNetworkServiceSetServiceID` -/
  | serviceSetServiceID (service id : String)
  /-- `SCNetworkServiceAddProtocolType` -/
  | serviceAddProtocolType (service type : String)
  /-- `SCNetworkProtocolSetEnabled` -/
  | protocolSetEnabled (service type : String) (enabled : Bool)
  /-- `SCNetworkServiceRemoveProtocolType`, for `net_service` -/
  | serviceRemoveProtocolType (service : Option String) (type : String)

/-- The calls of a command -/
abbrev NetScript (π ι : Type) : Type := Script NetCall π (NetSelection ι)

/-- The commands that only make calls on `prefs`, and set the flag after each that succeeds. A
call is given by how it turns out, an object that is copied by whether it can be. The arguments
of the two loops are numbered from the last on. -/
inductive NetEdit (π ι : Type)
  | createSet (name : Option String) (id : String) (created named removed : Attempt π)
  | removeSet (arg : Option String) (copied : Bool) (removed : Attempt π)
  | selectSet (arg : String) (copied : Bool)
  | setSet (args : List String) (calls : ℕ → Attempt π) (copied : ℕ → Bool)
  | showSet (arg : Option String) (copied : Bool)
  | showSets (copied : Bool)
  | createService (interface : Option (Option ι)) (name : Option String) (id : String)
      (created named established added removed : Attempt π)
  | setServiceEnabled (enabled : Bool) (arg : Option String) (copied : Bool) (call : Attempt π)
  | removeService (arg : Option String) (copied : Bool) (removed : Attempt π)
  | selectService (arg : String) (copied : Bool)
  | setService (args : List String) (calls : ℕ → Attempt π)
  | showService (arg : Option String) (copied : Bool)
  | showServices (all : Bool) (copied : Bool)
  | createProtocol (type : String) (added : Attempt π) (copied : Bool)
  | setProtocolEnabled (enabled : Bool) (arg : Option String) (copied : Bool) (call : Attempt π)
  | removeProtocol (arg : Option String) (copied : Bool) (removed : Attempt π)
  | selectProtocol (arg : String) (copied : Bool)
  | showProtocol (arg : Option String) (copied : Bool)
  | showProtocols (copied : Bool)

section

variable {π ι : Type} (lib : NetLibrary π ι) (c : π) (sel : NetSelection ι)

/-- Is there an argument that is not empty? -/
def givenName (name : Option String) : Bool := name.any fun s => s ≠ ""

/-- `create_set` -/
def createSet (name : Option String) (id : String) (created named removed : Attempt π) :
    NetScript π ι :=
  let a := if givenName name then created.andThen named removed else created
  .call sel (.setCreate id) a <|
    .done { sel.deselectService with netSet := some id, sets := none }

/-- `remove_set` -/
def removeSet (arg : Option String) (copied : Bool) (removed : Attempt π) :
    NetScript π ι :=
  match sel.targetSet lib c copied arg with
  | (none, sel) => .done sel
  | (some set, sel) =>
    .call sel (.setRemove set) removed <| .done <|
      match sel.netSet with
      | none => { sel with fault := some .comparedNull }
      | some selected =>
        if set = selected then { sel.deselectService with sets := none }
        else { sel with sets := none }

/-- `select_set` -/
def selectSet (arg : String) (copied : Bool) : NetScript π ι :=
  match sel.findSet lib c copied arg with
  | (none, sel) => .done sel
  | (some set, sel) => .done { sel.deselectService with netSet := some set }

/-- The loop of `set_set` -/
def setSetLoop (calls : ℕ → Attempt π) (copied : ℕ → Bool) :
    List String → NetSelection ι → NetScript π ι
  | [], sel => .done sel
  | command :: args, sel =>
    match sel.netSet with
    | none => .done sel
    | some set =>
      let a := calls args.length
      if command = "name" then
        match args with
        | [] => .done sel
        | _ :: rest =>
          .call sel (.setSetName set) a <| setSetLoop calls copied rest
            (sel.refreshSets lib a.left (copied args.length) set)
      else if command = "current" then
        .call sel (.setSetCurrent set) a <| setSetLoop calls copied args sel
      else if command = "id" then
        match args with
        | [] => .done sel
        | newID :: rest =>
          if newID = "" then .done sel
          else
            .call sel (.setSetSetID set newID) a <| setSetLoop calls copied rest
              ({ sel with netSet := some newID }.refreshSets lib a.left (copied args.length) newID)
      else setSetLoop calls copied args sel

/-- `show_set`, as far as it lists -/
def showSet (arg : Option String) (copied : Bool) : NetScript π ι :=
  .done (sel.targetSet lib c copied arg).2

/-- `show_sets` -/
def showSets (copied : Bool) : NetScript π ι :=
  .done <|
    if sel.sets.isSome then sel
    else if copied then { sel with sets := some (lib.sets c) } else sel

/-- `create_service`; `interface` is what `_find_interface` has found for the argument, if there
is one. -/
def createService (interface : Option (Option ι)) (name : Option String) (id : String)
    (created named established added removed : Attempt π) : NetScript π ι :=
  match sel.netSet with
  | none => .done sel
  | some set =>
    match interface.getD sel.netInterface with
    | none => .done sel
    | some i =>
      if (lib.supportedTypes i).isNone then .done sel
      else
        let a := if givenName name then created.andThen named removed else created
        let a := (a.andThen established removed).andThen added removed
        .call sel (.serviceCreate set id) a <| .done
          { sel with
            netService := some ⟨sel.objects, id⟩
            netInterface := lib.interface a.left id
            protocols := none
            netProtocol := none
            services := none
            objects := sel.objects + 1 }

/-- `enable_service` and `disable_service` -/
def setServiceEnabled (enabled : Bool) (arg : Option String) (copied : Bool) (call : Attempt π) :
    NetScript π ι :=
  match sel.targetService lib c copied arg with
  | (none, sel) => .done sel
  | (some service, sel) => .call sel (.serviceSetEnabled service.id enabled) call (.done sel)

/-- `remove_service` -/
def removeService (arg : Option String) (copied : Bool) (removed : Attempt π) :
    NetScript π ι :=
  match sel.targetService lib c copied arg with
  | (none, sel) => .done sel
  | (some service, sel) =>
    .call sel (.serviceRemove service.id) removed <| .done <|
      if sel.netService.any fun selected => service.id = selected.id then
        { sel.deselectService with protocols := none, services := none }
      else { sel with services := none }

/-- `select_service` -/
def selectService (arg : String) (copied : Bool) : NetScript π ι :=
  match sel.findService lib c copied arg with
  | (none, sel) => .done sel
  | (some service, sel) =>
    .done
      { sel with
        netService := some service
        netInterface := lib.interface c service.id
        protocols := none
        netProtocol := none }

/-- The words for the primary rank; three of them only for an active service. -/
def serviceRankOfArg (active : Bool) (arg : String) : Option PrimaryRank :=
  if arg = "" then some .default
  else if strcasecmp arg "Never" then some .never
  else if active && strcasecmp arg "First" then some .first
  else if active && strcasecmp arg "Last" then some .last
  else if active && strcasecmp arg "Scoped" then some .scoped
  else none

/-- The loop of `set_service`. The rank of an active service is not stored in `prefs`. -/
def setServiceLoop (calls : ℕ → Attempt π) :
    List String → π → NetSelection ι → NetScript π ι
  | [], _, sel => .done sel
  | command :: args, c, sel =>
    match sel.netService with
    | none => .done sel
    | some service =>
      let a := calls args.length
      if command = "name" then
        match args with
        | [] => .done sel
        | _ :: rest =>
          .call sel (.serviceSetName service.id) a <| setServiceLoop calls rest a.left sel
      else if command = "order" then
        match sel.netSet with
        | none => .done { sel with fault := some .countedNull }
        | some set =>
          match args with
          | [] => .done sel
          | index :: rest =>
            match indexOfArg index with
            | none => .done sel
            | some newIndex =>
              if 0 < newIndex ∧ newIndex ≤ (lib.setServices c set).length then
                .call sel (.setSetServiceOrder set service.id newIndex) a <|
                  setServiceLoop calls rest a.left sel
              else .done sel
      else if command = "rank" then
        match args with
        | [] => .done sel
        | [rank] =>
          match serviceRankOfArg false rank with
          | none => .done sel
          | some rank =>
            .call sel (.serviceSetPrimaryRank service.id rank) a <|
              setServiceLoop calls [] a.left sel
        | rank :: _ :: rest =>
          if (serviceRankOfArg true rank).isNone then .done sel
          else if a.ok then setServiceLoop calls rest c sel
          else .done sel
      else if command = "id" then
        match args with
        | [] => .done sel
        | id :: rest =>
          if id = "" then .done sel
          else
            .call sel (.serviceSetServiceID service.id id) a <|
              setServiceLoop calls rest a.left (sel.renameService service.object id)
      else setServiceLoop calls args c sel

/-- `show_service`, as far as it lists -/
def showService (arg : Option String) (copied : Bool) : NetScript π ι :=
  .done (sel.targetService lib c copied arg).2

/-- `show_services` -/
def showServices (all : Bool) (copied : Bool) : NetScript π ι :=
  .done <|
    if all then
      if copied then sel.listServices true (lib.services c) else { sel with services := none }
    else
      match sel.netSet with
      | none => sel
      | some set =>
        if copied then sel.listServices false (lib.orderedServices c set)
        else { sel with services := none }

/-- `create_protocol` -/
def createProtocol (type : String) (added : Attempt π) (copied : Bool) :
    NetScript π ι :=
  match sel.netService with
  | none => .done sel
  | some service =>
    if type = "" then .done sel
    else
      let supported := ((lib.interface c service.id).bind lib.supportedTypes).getD []
      let protocolType := (supported.find? (lib.caseless type)).getD type
      .call sel (.serviceAddProtocolType service.id protocolType) added <| .done
        { sel with
          protocols := none
          netProtocol := if copied then some ⟨service, protocolType⟩ else none }

/-- `enable_protocol` and `disable_protocol` -/
def setProtocolEnabled (enabled : Bool) (arg : Option String) (copied : Bool) (call : Attempt π) :
    NetScript π ι :=
  match sel.targetProtocol lib c copied arg with
  | (none, sel) => .done sel
  | (some protocol, sel) =>
    .call sel (.protocolSetEnabled protocol.service.id protocol.type enabled) call (.done sel)

/-- `remove_protocol`: the type is removed from the selected service. -/
def removeProtocol (arg : Option String) (copied : Bool) (removed : Attempt π) :
    NetScript π ι :=
  match sel.targetProtocol lib c copied arg with
  | (none, sel) => .done sel
  | (some protocol, sel) =>
    let service := sel.netService.map ServiceRef.id
    .call sel (.serviceRemoveProtocolType service protocol.type) removed <| .done
      { sel with
        netProtocol :=
          if sel.netProtocol.any fun selected =>
            protocol.service.id = selected.service.id ∧ protocol.type = selected.type then none
          else sel.netProtocol
        protocols := none }

/-- `select_protocol` -/
def selectProtocol (arg : String) (copied : Bool) : NetScript π ι :=
  match sel.findProtocol lib c copied arg with
  | (none, sel) => .done sel
  | (some protocol, sel) => .done { sel with netProtocol := some protocol }

/-- `show_protocol`, as far as it lists -/
def showProtocol (arg : Option String) (copied : Bool) : NetScript π ι :=
  .done (sel.targetProtocol lib c copied arg).2

/-- `show_protocols` -/
def showProtocols (copied : Bool) : NetScript π ι :=
  .done <|
    match sel.netService with
    | none => sel
    | some service =>
      if copied then sel.listProtocols service (lib.protocols c service.id)
      else { sel with protocols := none }

/-- The calls of a command, on the contents `c`. -/
def scriptOf : NetEdit π ι → NetScript π ι
  | .createSet name id created named removed => createSet sel name id created named removed
  | .removeSet arg copied removed => removeSet lib c sel arg copied removed
  | .selectSet arg copied => selectSet lib c sel arg copied
  | .setSet args calls copied => setSetLoop lib calls copied args sel
  | .showSet arg copied => showSet lib c sel arg copied
  | .showSets copied => showSets lib c sel copied
  | .createService interface name id created named established added removed =>
    createService lib sel interface name id created named established added removed
  | .setServiceEnabled enabled arg copied call =>
    setServiceEnabled lib c sel enabled arg copied call
  | .removeService arg copied removed => removeService lib c sel arg copied removed
  | .selectService arg copied => selectService lib c sel arg copied
  | .setService args calls => setServiceLoop lib calls args c sel
  | .showService arg copied => showService lib c sel arg copied
  | .showServices all copied => showServices lib c sel all copied
  | .createProtocol type added copied => createProtocol lib c sel type added copied
  | .setProtocolEnabled enabled arg copied call =>
    setProtocolEnabled lib c sel enabled arg copied call
  | .removeProtocol arg copied removed => removeProtocol lib c sel arg copied removed
  | .selectProtocol arg copied => selectProtocol lib c sel arg copied
  | .showProtocol arg copied => showProtocol lib c sel arg copied
  | .showProtocols copied => showProtocols lib c sel copied

end

/-! ## The session -/

/-- The globals of `scutil --net`. -/
structure NetState (π ν ι : Type) where
  /-- `prefs` -/
  prefs : Option (Document π)
  /-- `prefsPath` -/
  prefsPath : Option String
  /-- `ni_prefs` -/
  niPrefs : Option (Document ν)
  /-- `_prefs_changed` -/
  prefsChanged : Bool
  /-- `currentProxy`, which is kept from one command to the next -/
  currentProxy : Option ProxyKeys
  /-- what is selected and listed -/
  selection : NetSelection ι

/-- What `_prefs_commitRequired` finds: no changes, changes that are kept, which is said, or
changes that are given up, which is said too. -/
inductive CommitCheck
  | unchanged
  | required
  | abandoned
deriving DecidableEq, Repr

/-- `PREFS_DEFAULT_CONFIG_PLIST` -/
def prefsDefaultConfigPlist : String := "preferences.plist"

/-- `INTERFACES_DEFAULT_CONFIG_PLIST` -/
def interfacesDefaultConfigPlist : String := "NetworkInterfaces.plist"

/-- What follows the last slash of a path. -/
def lastComponent (path : String) : String :=
  String.ofList ((path.toList.splitOn '/').getLastD [])

namespace NetState

variable {π ν ι : Type}

/-- At the start. -/
def initial : NetState π ν ι where
  prefs := none
  prefsPath := none
  niPrefs := none
  prefsChanged := false
  currentProxy := none
  selection := .empty 0

/-- `_prefs_commitRequired`; `interactive` if the commands come from a terminal. -/
def commitRequired (s : NetState π ν ι) (interactive : Bool) (arg : Option String) : CommitCheck :=
  if s.prefsChanged then
    if interactive ∧ arg ≠ some "!" then .required else .abandoned
  else .unchanged

/-- `_net_close` -/
def netClose (s : NetState π ν ι) : NetState π ν ι :=
  { s with selection := .empty s.selection.objects }

/-- `_prefs_close` -/
def prefsClose (s : NetState π ν ι) : NetState π ν ι :=
  { s with
    prefsPath := none
    prefs := none
    prefsChanged := if s.prefs.isSome then false else s.prefsChanged
    niPrefs := none }

/-- `_prefs_open`, with the contents that are read if it succeeds, and the selection of the
current set -/
def prefsOpen (lib : NetLibrary π ι) (s : NetState π ν ι) (path : Option String)
    (opened : Option π) : NetState π ν ι :=
  match opened with
  | none => { s with prefsPath := none }
  | some c =>
    { s with
      prefs := some (.read c)
      prefsPath := path
      prefsChanged := false
      selection := { s.selection with netSet := lib.currentSet c } }

/-- `do_net_open` -/
def doNetOpen (lib : NetLibrary π ι) (s : NetState π ν ι) (interactive : Bool)
    (path : Option String) (opened : Option π) : NetState π ν ι :=
  if s.prefs.isSome then
    if s.commitRequired interactive path = .required then s
    else s.netClose.prefsClose.prefsOpen lib path opened
  else s.prefsOpen lib path opened

/-- `do_net_close` -/
def doNetClose (s : NetState π ν ι) (interactive : Bool) (arg : Option String) :
    NetState π ν ι :=
  if s.commitRequired interactive arg = .required then s else s.netClose.prefsClose

/-- `do_net_commit` -/
def doNetCommit (s : NetState π ν ι) (ok : Bool) : NetState π ν ι :=
  match s.prefs with
  | none => s
  | some d => if ok then { s with prefs := some d.save, prefsChanged := false } else s

/-- What a call leaves of `prefs`, and the flag, which is set if the call succeeds. -/
def apply (s : NetState π ν ι) (d : Document π) (a : Attempt π) : NetState π ν ι :=
  { s with prefs := some (d.leave a.left), prefsChanged := s.prefsChanged || a.ok }

/-- `SCPreferencesCreateCompanion`, unless there is a companion. -/
def companion (s : NetState π ν ι) (created : Option ν) : Option (Document ν) :=
  s.niPrefs.orElse fun _ => created.map .read

/-- `do_net_clean`: `__SCNetworkConfigurationClean` edits both sessions. -/
def doNetClean (s : NetState π ν ι) (created : Option ν) (cleaned : Attempt π) (left : ν) :
    NetState π ν ι :=
  match s.prefs with
  | none => s
  | some d => { s.apply d cleaned with niPrefs := (s.companion created).map fun n => n.leave left }

/-- `do_net_update`. A set that is created for want of a current one is selected, and the flag is
set only if the set is updated. -/
def doNetUpdate (lib : NetLibrary π ι) (s : NetState π ν ι) (id : String)
    (created updated : Attempt π) : NetState π ν ι :=
  match s.prefs with
  | none => s
  | some d =>
    if s.selection.netSet.isSome ∨ (lib.currentSet d.current).isSome then s.apply d updated
    else if created.ok then
      { s.apply d updated with
        selection := { s.selection with netSet := some id, sets := none } }
    else { s with prefs := some (d.leave created.left) }

/-- `do_net_upgrade`, with `__SCNetworkConfigurationUpgrade` for `prefs`, for `ni_prefs`, which it
commits then, or for both -/
def doNetUpgrade (s : NetState π ν ι) (arg : Option String) (created : Option ν)
    (upgraded : Attempt π) (niLeft : Option (Document ν)) : NetState π ν ι :=
  match s.prefs with
  | none => s
  | some d =>
    if s.prefsPath.any fun path => lastComponent path ≠ prefsDefaultConfigPlist then s
    else
      match arg with
      | some plist =>
        if plist = prefsDefaultConfigPlist then s.apply d upgraded
        else if plist = interfacesDefaultConfigPlist then
          { s with niPrefs := niLeft.orElse fun _ => s.companion created }
        else s
      | none => { s.apply d upgraded with niPrefs := niLeft.orElse fun _ => s.niPrefs }

/-- Run the calls of a command. -/
def edit (lib : NetLibrary π ι) (s : NetState π ν ι) (e : NetEdit π ι) : NetState π ν ι :=
  match s.prefs with
  | none => s
  | some d =>
    let r := (scriptOf lib d.current s.selection e).run ⟨d, s.prefsChanged⟩
    { s with prefs := some r.1.document, prefsChanged := r.1.changed, selection := r.2 }

/-- `set_interface` and `set_protocol`, on the configurations of what is selected -/
def setConfiguration (lib : NetLibrary π ι) (s : NetState π ν ι) (target : Option (SetTarget ι))
    (command : SetCommand) (args : List String) : NetState π ν ι :=
  match s.prefs, target with
  | some d, some target =>
    let cs := lib.configurations d.current target
    let f := command.run cs.own args (.start cs.ipsec cs.qos s.currentProxy s.prefsChanged)
    { s with
      prefs := some <| d.leave <|
        lib.configured d.current target ⟨f.session.result, f.world.ipsec.result, f.world.qos.result⟩
      prefsChanged := f.world.prefsChanged
      currentProxy := f.world.currentProxy }
  | _, _ => s

end NetState

/-- The commands of `scutil --net`, with how their calls turn out. -/
inductive NetCommand (π ν ι : Type)
  | opens (interactive : Bool) (path : Option String) (opened : Option π)
  | commit (ok : Bool)
  | apply
  | close (interactive : Bool) (arg : Option String)
  | quit (interactive : Bool) (arg : Option String)
  | edit (e : NetEdit π ι)
  | setInterface (services : InterfaceServices) (args : List String)
  | setProtocol (services : ProtocolServices) (args : List String)
  | createInterface (created : Option ι)
  | selectInterface (found : Option ι)
  | showInterfaces
  | clean (companion : Option ν) (cleaned : Attempt π) (left : ν)
  | update (id : String) (created updated : Attempt π)
  | upgrade (arg : Option String) (companion : Option ν) (upgraded : Attempt π)
      (niLeft : Option (Document ν))
  | migrate
  | snapshot

section

variable {π ν ι : Type} (lib : NetLibrary π ι)

/-- One command. After a fault there is nothing left to run. -/
def netStep (s : NetState π ν ι) (command : NetCommand π ν ι) : NetState π ν ι :=
  if s.selection.fault.isSome then s
  else
    match command with
    | .opens interactive path opened => s.doNetOpen lib interactive path opened
    | .commit ok => s.doNetCommit ok
    | .close interactive arg => s.doNetClose interactive arg
    | .quit interactive arg => s.doNetClose interactive arg
    | .edit e => s.edit lib e
    | .setInterface services args =>
      s.setConfiguration lib (s.selection.netInterface.map .interface)
        (.interface (some services)) args
    | .setProtocol services args =>
      s.setConfiguration lib (s.selection.netProtocol.map .protocol)
        (.protocol (some services)) args
    | .createInterface i | .selectInterface i =>
      { s with
        selection := { s.selection with netInterface := i.orElse fun _ => s.selection.netInterface } }
    | .clean created cleaned left => s.doNetClean created cleaned left
    | .update id created updated => s.doNetUpdate lib id created updated
    | .upgrade arg created upgraded niLeft => s.doNetUpgrade arg created upgraded niLeft
    | .apply | .showInterfaces | .migrate | .snapshot => s

/-- The state after a run from the start. -/
def netRun (commands : List (NetCommand π ν ι)) : NetState π ν ι :=
  commands.foldl (netStep lib) .initial

end

end ConfigdExtra
