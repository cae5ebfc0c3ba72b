import ConfigdExtra.InterfaceCache

/-!
# What an interface is made of

The interface of an entity by itself: what it is made of, which of that is in the registry under
a BSD name, and whose it is.

* `createdParts` — what `createInterface` makes, without memory.
* `createdParts_content` — the interface is that of `createWithEntity`.
-/

namespace ConfigdExtra

open ObjectPool

variable {π : Type}

/-! ## Parts -/

/-- A part of an interface -/
structure InterfacePart (π : Type) where
  /-- what it is -/
  content : SCNetworkInterface
  /-- the BSD name under which it is found in the registry, and its place there -/
  slot : Option (String × ℕ)
  /-- whose it is -/
  owner : InterfaceOwner π

/-- An interface, and its members or what is below it. -/
structure InterfaceParts (π : Type) where
  /-- the interface -/
  interface : InterfacePart π
  /-- the others -/
  others : List (InterfacePart π)

/-- A virtual interface in the preferences -/
structure VirtualParts (π : Type) where
  /-- what it is -/
  content : SCNetworkInterface
  /-- its members -/
  members : List (InterfacePart π)
  /-- the preferences -/
  prefs : π

/-- An interface that nobody else has -/
def freshParts (content : Option SCNetworkInterface) : Option (InterfaceParts π) :=
  content.map fun i => ⟨⟨i, none, unowned⟩, []⟩

/-- The virtual interface if there is one, or else a new one -/
def orVirtualParts (sys : SystemInterfaces) (search : Search) (entity : InterfaceEntity) :
    Option (VirtualParts π) → Option (InterfaceParts π)
  | some virtual =>
    some ⟨⟨hideVirtual search entity virtual.content, none, ⟨some virtual.prefs, none⟩⟩,
      virtual.members⟩
  | none => freshParts (baseInterface sys search entity)

/-- The interface before it is layered -/
def foundParts (sys : SystemInterfaces) (search : Search) (entity : InterfaceEntity)
    (virtual : Option (VirtualParts π)) : Option (InterfaceParts π) :=
  match cachedDevice search entity with
  | some ifDevice =>
    match findByBSDName sys search.keepHidden ifDevice with
    | none => freshParts (baseInterface sys search entity)
    | some values =>
      match matchingIndex entity values with
      | some k => values[k]?.map fun i => ⟨⟨i, some (ifDevice, k), unowned⟩, []⟩
      | none => orVirtualParts sys search entity virtual
  | none =>
    if search.useSystemInterfaces then freshParts (baseInterface sys search entity)
    else orVirtualParts sys search entity virtual

namespace InterfaceWorld

variable (w : InterfaceWorld π)

/-- A member of a virtual interface -/
def memberPart : VirtualMember → Option (InterfacePart π)
  | .stored i => some ⟨i, none, unowned⟩
  | .device bsdName =>
    (foundParts w.registry .system (memberEntity bsdName) none).map InterfaceParts.interface

/-- A virtual interface -/
def shapeParts (p : π) (shape : VirtualShape) : VirtualParts π :=
  let members := shape.members.filterMap w.memberPart
  ⟨shape.make (members.map InterfacePart.content), members, p⟩

/-- The first virtual interface of a name -/
def kindsParts (p : π) (ifDevice : String) (kinds : List (List VirtualShape)) :
    Option (VirtualParts π) :=
  kinds.findSome? fun shapes =>
    (shapes.map (w.shapeParts p)).find? fun v => v.content.info.entityDevice = some ifDevice

/-- The virtual interface of an entity -/
def virtualParts (caller : InterfaceCaller π) (entity : InterfaceEntity) :
    Option (VirtualParts π) :=
  match virtualKinds w caller entity, entity.deviceName with
  | some (p, kinds), some ifDevice => w.kindsParts p ifDevice kinds
  | _, _ => none

end InterfaceWorld

namespace Creation

variable (w : InterfaceWorld π) (c : Creation π)

/-- The interface before it is layered -/
def found : Option (InterfaceParts π) :=
  foundParts w.system (c.caller.search w) c.entity (w.virtualParts c.caller c.entity)

/-- A part that a service is set for is that service's. -/
def owned (part : InterfacePart π) : InterfacePart π :=
  { part with owner := c.caller.owner?.getD part.owner }

/-- The interface as it is returned -/
def createdParts : Option (InterfaceParts π) :=
  (c.found w).bind fun found =>
    let ifType := c.entity.type.getD "Ethernet"
    let below := c.owned found.interface
    if ifType = "PPP" ∨ ifType = "VPN" then
      (layerInterface ifType found.interface.content).map fun parent =>
        ⟨⟨parent, none, below.owner⟩, below :: found.others.map c.owned⟩
    else some ⟨below, found.others.map c.owned⟩

/-- The interfaces of the registry that it is made of -/
def slots : List (String × ℕ) :=
  match c.found w with
  | none => []
  | some found => (found.interface :: found.others).filterMap InterfacePart.slot

end Creation

/-! ## Contents -/

theorem zipIdx_filter_fst {passes : SCNetworkInterface → Bool} (l : List SCNetworkInterface) :
    (l.zipIdx.filter fun x => passes x.1).map Prod.fst = l.filter passes := by
  have hmap := List.filter_map (f := Prod.fst) (p := passes) (l := l.zipIdx)
  rw [List.zipIdx_map_fst] at hmap
  exact hmap.symm

/-- The only interface that passes is at its index. -/
theorem onlyOne_eq_onlyIndex (passes : SCNetworkInterface → Bool) (l : List SCNetworkInterface) :
    onlyOne passes l = (onlyIndex passes l).bind (l[·]?) := by
  rw [onlyOne, onlyIndex, ← zipIdx_filter_fst]
  cases hfilter : l.zipIdx.filter fun x => passes x.1 with
  | nil => rfl
  | cons x rest =>
    cases rest with
    | nil =>
      obtain ⟨i, k⟩ := x
      have hmem : (i, k) ∈ l.zipIdx := by
        apply List.mem_of_mem_filter (p := fun x => passes x.1)
        rw [hfilter]
        exact List.mem_singleton_self _
      exact (List.mem_zipIdx_iff_getElem?.mp hmem).symm
    | cons y rest => rfl

theorem onlyIndex_lt {passes : SCNetworkInterface → Bool} {l : List SCNetworkInterface} {k : ℕ}
    (h : onlyIndex passes l = some k) : k < l.length := by
  rw [onlyIndex] at h
  split at h
  next i k' hfilter =>
    cases h
    have hmem : (i, k) ∈ l.zipIdx := by
      apply List.mem_of_mem_filter (p := fun x => passes x.1)
      rw [hfilter]
      exact List.mem_singleton_self _
    exact (List.getElem?_eq_some_iff.mp (List.mem_zipIdx_iff_getElem?.mp hmem)).1
  next => cases h

theorem chosenIndex_lt {entity : InterfaceEntity} {l : List SCNetworkInterface} {k : ℕ}
    (h : chosenIndex entity l = some k) : k < l.length := by
  rw [chosenIndex] at h
  split at h
  · exact onlyIndex_lt h
  · split at h
    · exact onlyIndex_lt h
    · cases h

theorem matchingIndex_lt {entity : InterfaceEntity} {l : List SCNetworkInterface} {k : ℕ}
    (h : matchingIndex entity l = some k) : k < l.length := by
  match l with
  | [] => cases h
  | [i] =>
    rw [matchingIndex] at h
    split_ifs at h
    cases h
    exact Nat.one_pos
  | first :: second :: l =>
    rw [matchingIndex] at h
    cases h
    cases hchosen : chosenIndex entity (first :: second :: l) with
    | none => exact Nat.succ_pos _
    | some k => exact chosenIndex_lt hchosen

/-- What is singled out is at its index. -/
theorem chooseMatching_eq (entity : InterfaceEntity) (first : SCNetworkInterface)
    (l : List SCNetworkInterface) :
    chooseMatching entity first l = ((chosenIndex entity l).bind (l[·]?)).getD first := by
  rw [chooseMatching, chosenIndex]
  cases entity.deviceUnique with
  | some unique => simp only [onlyOne_eq_onlyIndex]
  | none =>
    cases entity.userDefinedName with
    | some ifName => simp only [onlyOne_eq_onlyIndex]
    | none => rfl

/-- The interface that is selected is at its index, or virtual. -/
theorem selectMatching_eq (sys : SystemInterfaces) (search : Search) (entity : InterfaceEntity)
    (ifType ifDevice : String) (l : List SCNetworkInterface) :
    selectMatching sys search entity ifType ifDevice l =
      match matchingIndex entity l with
      | some k => l[k]?
      | none => findVirtual sys search entity ifType ifDevice := by
  match l with
  | [] => rfl
  | [i] =>
    rw [selectMatching, matchingIndex]
    split_ifs <;> rfl
  | first :: second :: l =>
    rw [selectMatching, matchingIndex, chooseMatching_eq]
    cases hchosen : chosenIndex entity (first :: second :: l) with
    | none => rfl
    | some k =>
      have hk := chosenIndex_lt hchosen
      simp only [Option.bind_some, Option.getD_some, List.getElem?_eq_getElem hk]

/-- The interface of a device that is looked up by BSD name -/
theorem baseInterface_cached {search : Search} {entity : InterfaceEntity} {ifDevice : String}
    (sys : SystemInterfaces) (h : cachedDevice search entity = some ifDevice)
    {values : List SCNetworkInterface}
    (hvalues : findByBSDName sys search.keepHidden ifDevice = some values)
    {i : SCNetworkInterface}
    (hi : selectMatching sys search entity (entity.type.getD "Ethernet") ifDevice values = some i) :
    baseInterface sys search entity = some i := by
  rw [cachedDevice] at h
  split_ifs at h with htype
  obtain ⟨device, hdevice, h⟩ := Option.bind_eq_some_iff.mp h
  split_ifs at h with hsystem
  cases h
  have hfits : fitsBSDName ifDevice = true := by
    by_contra hfits
    rw [findByBSDName, if_neg hfits] at hvalues
    cases hvalues
  rw [findByBSDName, if_pos hfits] at hvalues
  have hsub : ¬ ((entity.type.getD "Ethernet" = "PPP" ∨ entity.type.getD "Ethernet" = "VPN") ∧
      entity.subType = none) := by
    rintro ⟨hppp, hsub⟩
    obtain htype | htype | ⟨-, htype⟩ := htype
    · rw [htype] at hppp
      simp at hppp
    · rw [htype] at hppp
      simp at hppp
    · rw [hsub] at htype
      cases htype
  have hlookup : lookupEntity sys search entity (entity.type.getD "Ethernet") entity.subType =
      .go (some values) none := by
    simp only [lookupEntity, if_pos htype, hdevice, if_neg hsystem.1, if_pos hsystem.2,
      if_pos hfits, hvalues]
  simp only [baseInterface, if_neg hsub, hlookup, hdevice, Option.getD_some, hi, hsystem.2]

/-- What a virtual interface has to be -/
structure FitsVirtual (sys : SystemInterfaces) (search : Search) (entity : InterfaceEntity)
    (content : SCNetworkInterface) : Prop where
  /-- where no interface of the system matches -/
  matching : ∀ ifDevice, cachedDevice search entity = some ifDevice →
    findVirtual sys search entity (entity.type.getD "Ethernet") ifDevice = some content
  /-- where the interfaces of the system are not consulted -/
  absent : search.useSystemInterfaces = false →
    baseInterface sys search entity =
      some (content.hideConfiguration (isHidden entity.hiddenConfiguration))

@[simp] theorem freshParts_content (content : Option SCNetworkInterface) :
    (freshParts content : Option (InterfaceParts π)).map (·.interface.content) = content := by
  cases content <;> rfl

theorem useSystemInterfaces_of_cachedDevice {search : Search} {entity : InterfaceEntity}
    {ifDevice : String} (h : cachedDevice search entity = some ifDevice) :
    search.useSystemInterfaces = true := by
  rw [cachedDevice] at h
  split_ifs at h
  obtain ⟨device, -, h⟩ := Option.bind_eq_some_iff.mp h
  split_ifs at h with hsystem
  exact hsystem.2

/-- What is found is what `createWithEntity` finds, before it is layered. -/
theorem foundParts_content (sys : SystemInterfaces) (search : Search) (entity : InterfaceEntity)
    (virtual : Option (VirtualParts π))
    (hvirtual : ∀ v, virtual = some v → FitsVirtual sys search entity v.content) :
    (foundParts sys search entity virtual).map (·.interface.content) =
      baseInterface sys search entity := by
  rw [foundParts]
  cases hcached : cachedDevice search entity with
  | some ifDevice =>
    have hsystem := useSystemInterfaces_of_cachedDevice hcached
    dsimp only
    cases hvalues : findByBSDName sys search.keepHidden ifDevice with
    | none => exact freshParts_content _
    | some values =>
      have hselect := selectMatching_eq sys search entity (entity.type.getD "Ethernet") ifDevice
        values
      dsimp only
      cases hindex : matchingIndex entity values with
      | some k =>
        have hk := matchingIndex_lt hindex
        rw [hindex] at hselect
        dsimp only at hselect ⊢
        rw [List.getElem?_eq_getElem hk] at hselect ⊢
        rw [baseInterface_cached sys hcached hvalues hselect]
        rfl
      | none =>
        rw [hindex] at hselect
        cases virtual with
        | none => exact freshParts_content _
        | some v =>
          have hfound := (hvirtual v rfl).matching ifDevice hcached
          rw [baseInterface_cached sys hcached hvalues (hselect.trans hfound)]
          simp [orVirtualParts, hideVirtual, hsystem]
  | none =>
    dsimp only
    cases hsystem : search.useSystemInterfaces with
    | true => exact freshParts_content _
    | false =>
      cases virtual with
      | none => exact freshParts_content _
      | some v =>
        rw [(hvirtual v rfl).absent hsystem]
        simp [orVirtualParts, hideVirtual, hsystem]

/-! ## Virtual interfaces -/

namespace InterfaceWorld

variable (w : InterfaceWorld π)

theorem memberPart_content (member : VirtualMember) :
    (w.memberPart member).map InterfacePart.content = w.memberContent member := by
  cases member with
  | stored i => rfl
  | device bsdName =>
    have hfound := foundParts_content (π := π) w.registry .system (memberEntity bsdName) none
      (fun v hv => by cases hv)
    have hlayer : ∀ i, layerInterface ((memberEntity bsdName).type.getD "Ethernet") i = some i :=
      fun i => rfl
    rw [memberPart, memberContent, createWithEntity_eq_layer, funext hlayer, Option.bind_fun_some,
      ← hfound, Option.map_map]
    rfl

theorem shapeParts_content (p : π) (shape : VirtualShape) :
    (w.shapeParts p shape).content = w.shapeContent shape := by
  simp only [shapeParts, shapeContent, List.map_filterMap]
  congr 2
  funext member
  exact w.memberPart_content member

theorem kindsParts_content (p : π) (ifDevice : String) (kinds : List (List VirtualShape)) :
    (w.kindsParts p ifDevice kinds).map VirtualParts.content =
      kinds.findSome? fun shapes => findInterface (shapes.map w.shapeContent) ifDevice := by
  rw [kindsParts, List.map_findSome?]
  congr 1
  funext shapes
  have hshapes : shapes.map w.shapeContent =
      (shapes.map (w.shapeParts p)).map VirtualParts.content := by
    rw [List.map_map]
    exact List.map_congr_left fun shape _ => (w.shapeParts_content p shape).symm
  rw [Function.comp_apply, findInterface, hshapes, List.find?_map (f := VirtualParts.content)]
  rfl

/-- The preferences of the service, or else the default ones, by themselves -/
theorem search_virtualPrefs (caller : InterfaceCaller π)
    (h : (caller.search w).useSystemInterfaces) :
    (caller.search w).virtualPrefs.or w.system.defaultPrefs =
      (caller.prefs?.or w.defaultPrefs).map w.virtualPrefs := by
  cases caller with
  | null => rfl
  | external => cases h
  | system => rfl
  | service prefs serviceID => cases prefs <;> rfl

/-- A virtual interface that is found where no interface of the system matches -/
theorem virtualParts_matching {caller : InterfaceCaller π} {entity : InterfaceEntity}
    {v : VirtualParts π} (hv : w.virtualParts caller entity = some v) {ifDevice : String}
    (hcached : cachedDevice (caller.search w) entity = some ifDevice) :
    findVirtual w.system (caller.search w) entity (entity.type.getD "Ethernet") ifDevice =
      some v.content := by
  have hsystem := useSystemInterfaces_of_cachedDevice hcached
  have hdevice : entity.deviceName = some ifDevice := by
    rw [cachedDevice] at hcached
    split_ifs at hcached
    obtain ⟨device, hdevice, hcached⟩ := Option.bind_eq_some_iff.mp hcached
    split_ifs at hcached
    cases hcached
    exact hdevice
  rw [virtualParts, hdevice] at hv
  cases hkinds : virtualKinds w caller entity with
  | none => simp [hkinds] at hv
  | some found =>
    obtain ⟨p, kinds⟩ := found
    simp only [hkinds] at hv
    have hcontent := w.kindsParts_content p ifDevice kinds
    rw [hv] at hcontent
    have htype : ¬ entity.type.getD "Ethernet" ≠ "Ethernet" := by
      intro htype
      rw [virtualKinds, if_pos htype] at hkinds
      cases hkinds
    rw [virtualKinds, if_neg htype, if_pos hsystem] at hkinds
    have hname : ¬ entity.userDefinedName = some "Bluetooth PAN" := by
      intro hname
      rw [if_pos hname] at hkinds
      cases hkinds
    rw [if_neg hname] at hkinds
    obtain ⟨p', hp', heq⟩ := Option.map_eq_some_iff.mp hkinds
    obtain ⟨rfl, rfl⟩ := Prod.ext_iff.mp heq
    rw [findVirtual, if_neg htype, if_neg hname, w.search_virtualPrefs caller hsystem, hp']
    refine Eq.trans ?_ hcontent.symm
    cases entity.noBond <;> cases entity.noBridge <;> cases entity.noVLAN <;>
      simp [virtualPrefs, List.findSome?, Option.or] <;> grind

/-- A virtual interface that is found where the interfaces of the system are not consulted -/
theorem virtualParts_absent {caller : InterfaceCaller π} {entity : InterfaceEntity}
    {v : VirtualParts π} (hv : w.virtualParts caller entity = some v)
    (hsystem : (caller.search w).useSystemInterfaces = false) :
    baseInterface w.system (caller.search w) entity =
      some (v.content.hideConfiguration (isHidden entity.hiddenConfiguration)) := by
  rw [virtualParts] at hv
  cases hkinds : virtualKinds w caller entity with
  | none => simp [hkinds] at hv
  | some found =>
    obtain ⟨p, kinds⟩ := found
    cases hdevice : entity.deviceName with
    | none => simp [hdevice] at hv
    | some ifDevice =>
      simp only [hkinds, hdevice] at hv
      have hcontent := w.kindsParts_content p ifDevice kinds
      rw [hv] at hcontent
      -- virtual interfaces are looked for under Ethernet only
      have htype : ¬ entity.type.getD "Ethernet" ≠ "Ethernet" := by
        intro htype
        rw [virtualKinds, if_pos htype] at hkinds
        cases hkinds
      rw [virtualKinds, if_neg htype, if_neg (by simp [hsystem])] at hkinds
      obtain ⟨p', hp', heq⟩ := Option.map_eq_some_iff.mp hkinds
      obtain ⟨rfl, rfl⟩ := Prod.ext_iff.mp heq
      have hethernet : entity.type.getD "Ethernet" = "Ethernet" := not_not.mp htype
      have hprefs : (caller.search w).virtualPrefs = some (w.virtualPrefs p') := by
        cases caller with
        | service prefs serviceID =>
          cases hp'
          rfl
        | _ => cases hp'
      have habsent : createAbsent w.system (caller.search w) entity "Ethernet" entity.subType =
          some v.content := by
        have hvirtual : ((findInterface (w.virtualPrefs p').bridges ifDevice).or
            (findInterface (w.virtualPrefs p').bonds ifDevice)).or
              (findInterface (w.virtualPrefs p').vlans ifDevice) = some v.content := by
          refine Eq.trans ?_ hcontent.symm
          simp [virtualPrefs, List.findSome?, Option.or]
          grind
        simp only [createAbsent, hsystem, hprefs, hdevice, Option.bind_some, hvirtual,
          Bool.false_eq_true, if_false, if_true]
      have hlookup : ∃ found, lookupEntity w.system (caller.search w) entity "Ethernet"
          entity.subType = .done found ∨
          lookupEntity w.system (caller.search w) entity "Ethernet" entity.subType =
            .go none found := by
        simp only [lookupEntity, true_or, if_true, hdevice, hsystem, Bool.false_eq_true, if_false]
        split_ifs
        · exact ⟨_, Or.inl rfl⟩
        · exact ⟨_, Or.inr rfl⟩
      obtain ⟨found, hlookup | hlookup⟩ := hlookup <;>
        cases found <;>
        simp [baseInterface, hethernet, hlookup, hsystem, habsent]

theorem virtualParts_fits {caller : InterfaceCaller π} {entity : InterfaceEntity}
    {v : VirtualParts π} (hv : w.virtualParts caller entity = some v) :
    FitsVirtual w.system (caller.search w) entity v.content where
  matching := fun _ hcached => w.virtualParts_matching hv hcached
  absent := fun hsystem => w.virtualParts_absent hv hsystem

end InterfaceWorld

/-! ## The interface as it is returned -/

/-- What is created is what `createWithEntity` creates. -/
theorem createdParts_content (w : InterfaceWorld π) (c : Creation π) :
    (c.createdParts w).map (·.interface.content) =
      createWithEntity w.system (c.caller.search w) c.entity := by
  have hfound := foundParts_content w.system (c.caller.search w) c.entity
    (w.virtualParts c.caller c.entity) (fun v hv => w.virtualParts_fits hv)
  rw [createWithEntity_eq_layer, ← hfound, Creation.createdParts, Creation.found]
  cases foundParts w.system (c.caller.search w) c.entity (w.virtualParts c.caller c.entity) with
  | none => rfl
  | some found =>
    simp only [Option.bind_some, Option.map_some]
    split_ifs with hlayered
    · rw [Option.map_map]
      exact congrFun Option.map_id_fun' _
    · have hplain : layerInterface (c.entity.type.getD "Ethernet") found.interface.content =
          some found.interface.content := by
        rw [layerInterface, if_neg fun h => hlayered (Or.inl h),
          if_neg fun h => hlayered (Or.inr h)]
      rw [hplain]
      rfl

end ConfigdExtra
