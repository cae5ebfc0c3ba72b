import ConfigdExtra.InterfaceStorage
import ConfigdExtra.MigrationLayers

/-!
# What a migration leaves

* `MigratesService` — the new service is what the default service over the mapped interface
  becomes with what could be copied.
* `Unchanged` — the target is as before.
* `addProtocolToService_step`, `addToSets_spec`, `addProtocols_spec`, `setConfigurations_spec` — the
  loops.
* `migrateNew_migrates` — a migration.
* `plainLibrary` — preferences with such operations.
-/

namespace ConfigdExtra

variable {π σ δ γ D : Type}

/-! ## Results -/

/-- The services, the sets and the configurations are as before. -/
structure Unchanged (before after : TargetContents σ δ D) : Prop where
  services : after.services = before.services
  members : after.members = before.members
  service : ∀ t ∈ before.services, after.service t = before.service t
  configuration : ∀ t ∈ before.services, after.configuration t = before.configuration t

/-- A migration that goes through: there is one new service, with the ID and the enabled state of
the source, over the mapped interface. It has the protocols of the source and the default ones,
and is in assigned sets only. What could not be copied is among the failures. -/
structure MigratesService (lib : MigrationLibrary π σ δ D) (source : SourceService D)
    (interface : SCNetworkInterface) (mapped : Option SCNetworkInterface) (assigned : List δ)
    (prefs : π) (m : Migration π δ D) (s : σ) : Prop where
  new : s ∉ (lib.contents prefs).services
  services : (lib.contents m.prefs).services = insert s (lib.contents prefs).services
  others : ∀ t ≠ s, (lib.contents m.prefs).service t = (lib.contents prefs).service t
  serviceID : ((lib.contents m.prefs).service s).serviceID = source.serviceID
  enabled : ((lib.contents m.prefs).service s).enabled = source.enabled
  overMapped : mapped = some ((lib.contents m.prefs).service s).interface
  types : ∀ type, (((lib.contents m.prefs).service s).protocols type).isSome →
    type ∈ lib.defaultProtocols ((lib.contents m.prefs).service s).interface ∨
      ∃ q ∈ source.protocols, q.protocolType = type
  defaults : ∀ type ∈ lib.defaultProtocols ((lib.contents m.prefs).service s).interface,
    (((lib.contents m.prefs).service s).protocols type).isSome
  protocols : ∀ q ∈ source.protocols, q ∈ m.failedProtocols ∨
    ((lib.contents m.prefs).service s).protocols q.protocolType = some (q.configuration, q.enabled)
  layers : LayersMatch interface.layers ((lib.contents m.prefs).service s).interface.layers →
    ∀ w ∈ configurationWrites source interface.layers
      ((lib.contents m.prefs).service s).interface.layers,
      w ∈ m.failedWrites ∨ ∀ place ∈ configurationPlace w.new w.extendedType,
        (lib.contents m.prefs).configuration s place = w.value
  onlyAssigned : ∀ g, s ∈ (lib.contents m.prefs).members g → g ∈ assigned
  members : ∀ g ∈ assigned, g ∈ m.failedSets ∨ s ∈ (lib.contents m.prefs).members g
  inSet : ∃ g, s ∈ (lib.contents m.prefs).members g
  otherMembers : ∀ g, ∀ t ≠ s,
    t ∈ (lib.contents m.prefs).members g ↔ t ∈ (lib.contents prefs).members g

/-- The target sets that the mapping assigns to the sets of the source service. -/
def assignedSets (setMapping : Option (γ → Option δ)) (setList : Option (List γ)) : List δ :=
  match setMapping, setList with
  | some setMapping, some setList => setList.filterMap setMapping
  | _, _ => []

/-- A migration returns `TRUE` with such a service, and `FALSE` with nothing changed. -/
structure Migrates (lib : MigrationLibrary π σ δ D) (source : SourceService D)
    (mapped : SCNetworkInterface → Option SCNetworkInterface) (assigned : List δ) (prefs : π)
    (m : Migration π δ D) : Prop where
  migrates : m.success = true → ∃ interface ∈ source.interface, ∃ s,
    MigratesService lib source interface (mapped interface) assigned prefs m s
  unchanged : m.success = false → Unchanged (lib.contents prefs) (lib.contents m.prefs)

/-! ## Steps on the target -/

section

variable {s : σ} {before after last : TargetContents σ δ D}

theorem OnlyChanges.refl (s : σ) (c : TargetContents σ δ D) : OnlyChanges s c c :=
  ⟨rfl, rfl, fun _ _ => rfl, fun _ _ => rfl⟩

/-- Calls that are all about one service are about it together. -/
theorem OnlyChanges.trans (h : OnlyChanges s before after) (h' : OnlyChanges s after last) :
    OnlyChanges s before last where
  services := h'.services.trans h.services
  members := h'.members.trans h.members
  service t ht := (h'.service t ht).trans (h.service t ht)
  configuration t ht := (h'.configuration t ht).trans (h.configuration t ht)

/-- A service has been added, and is in no set. -/
structure Added (s : σ) (before after : TargetContents σ δ D) : Prop where
  new : s ∉ before.services
  noMember : ∀ g, s ∉ before.members g
  services : after.services = insert s before.services
  members : after.members = before.members
  service : ∀ t ≠ s, after.service t = before.service t
  configuration : ∀ t ≠ s, after.configuration t = before.configuration t

theorem Added.only (h : Added s before after) (h' : OnlyChanges s after last) :
    Added s before last where
  new := h.new
  noMember := h.noMember
  services := h'.services.trans h.services
  members := h'.members.trans h.members
  service t ht := (h'.service t ht).trans (h.service t ht)
  configuration t ht := (h'.configuration t ht).trans (h.configuration t ht)

variable {lib : MigrationLibrary π σ δ D} {p : π}

/-- **Cleaning up**: with the added service removed, all is as before. -/
theorem Added.removed (h : Added s before (lib.contents p)) :
    Unchanged before (lib.contents (lib.remove p s).2) := by
  have hs : s ∈ (lib.contents p).services := by
    rw [h.services]
    exact Set.mem_insert s _
  obtain ⟨hservices, hmembers, hservice, hconfiguration⟩ := lib.remove_spec p s hs
  have hne : ∀ t ∈ before.services, t ≠ s := by
    rintro t ht rfl
    exact h.new ht
  constructor
  · rw [hservices, h.services, Set.insert_sdiff_self_of_notMem h.new]
  · funext g
    rw [hmembers, h.members, Set.sdiff_singleton_eq_self (h.noMember g)]
  · exact fun t ht => (hservice t (hne t ht)).trans (h.service t (hne t ht))
  · exact fun t ht => (hconfiguration t (hne t ht)).trans (h.configuration t (hne t ht))

/-- A step has changed at most one protocol of a service. -/
structure ProtocolStep (s : σ) (type : String) (before after : TargetContents σ δ D) : Prop where
  only : OnlyChanges s before after
  service : after.service s =
    { before.service s with protocols := (after.service s).protocols }
  others : ∀ type' ≠ type,
    (after.service s).protocols type' = (before.service s).protocols type'
  kept : ((before.service s).protocols type).isSome → ((after.service s).protocols type).isSome

/-- Several calls for one protocol of the service. -/
theorem ProtocolStep.trans {type : String} (h : ProtocolStep s type before after)
    (h' : ProtocolStep s type after last) : ProtocolStep s type before last where
  only := h.only.trans h'.only
  service := by
    rw [h'.service, h.service]
  others type' hne := (h'.others type' hne).trans (h.others type' hne)
  kept := h'.kept ∘ h.kept

/-- The calls for a protocol touch that protocol only. Setting its configuration keeps its flag. -/
theorem setProtocolConfiguration_step (p : π) (s : σ) (type : String) (d : Option D) :
    ProtocolStep s type (lib.contents p)
      (lib.contents (lib.setProtocolConfiguration p s type d).2) := by
  have hservice := lib.setProtocolConfiguration_service p s type d
  refine ⟨lib.setProtocolConfiguration_only p s type d, ?_, ?_, ?_⟩
  · rw [hservice]
  · intro type' hne
    rw [hservice]
    exact if_neg fun h => hne h.1
  · intro hsome
    rw [hservice]
    dsimp only
    split_ifs <;> simp [hsome]

/-- Setting its flag keeps its configuration. -/
theorem setProtocolEnabled_step (p : π) (s : σ) (type : String) (b : Bool) :
    ProtocolStep s type (lib.contents p) (lib.contents (lib.setProtocolEnabled p s type b).2) := by
  have hservice := lib.setProtocolEnabled_service p s type b
  refine ⟨lib.setProtocolEnabled_only p s type b, ?_, ?_, ?_⟩
  · rw [hservice]
  · intro type' hne
    rw [hservice]
    exact if_neg fun h => hne h.1
  · intro hsome
    rw [hservice]
    dsimp only
    split_ifs <;> simp [hsome]

/-- A protocol that is added was not there. -/
theorem addProtocolType_step {type : String}
    (hnone : ((lib.contents p).service s).protocols type = none) :
    ProtocolStep s type (lib.contents p) (lib.contents (lib.addProtocolType p s type).2) where
  only := lib.addProtocolType_only p s type
  service := (lib.addProtocolType_service p s type).1
  others := (lib.addProtocolType_service p s type).2
  kept h := by simp [hnone] at h

/-- A protocol that is there is given its configuration and state. -/
theorem setProtocol_done {q : ServiceProtocol D}
    (hthere : (((lib.contents p).service s).protocols q.protocolType).isSome)
    {r r' : Bool × π}
    (hr : r = lib.setProtocolConfiguration p s q.protocolType q.configuration)
    (hr' : r' = lib.setProtocolEnabled r.2 s q.protocolType q.enabled)
    (hok : (r.1 && r'.1) = true) :
    ((lib.contents r'.2).service s).protocols q.protocolType =
      some (q.configuration, q.enabled) := by
  obtain ⟨hok, hok'⟩ := (Bool.and_eq_true_iff).mp hok
  obtain ⟨protocol, hprotocol⟩ := Option.isSome_iff_exists.mp hthere
  have hservice := lib.setProtocolConfiguration_service p s q.protocolType q.configuration
  have hservice' := lib.setProtocolEnabled_service r.2 s q.protocolType q.enabled
  rw [← hr] at hservice
  rw [← hr'] at hservice'
  rw [hservice', hservice]
  simp [hok, hok', hprotocol]

/-- **One protocol**: it is as in the source if all calls have succeeded. -/
theorem addProtocolToService_step (q : ServiceProtocol D) :
    ProtocolStep s q.protocolType (lib.contents p)
        (lib.contents (addProtocolToService lib s p q).2) ∧
      ((addProtocolToService lib s p q).1 = true →
        ((lib.contents (addProtocolToService lib s p q).2).service s).protocols q.protocolType =
          some (q.configuration, q.enabled)) := by
  have hset : ∀ p, ProtocolStep s q.protocolType (lib.contents p)
      (lib.contents (lib.setProtocolEnabled
        (lib.setProtocolConfiguration p s q.protocolType q.configuration).2 s q.protocolType
        q.enabled).2) := fun p =>
    (setProtocolConfiguration_step p s _ _).trans (setProtocolEnabled_step _ s _ _)
  have hrefl : ProtocolStep s q.protocolType (lib.contents p) (lib.contents p) :=
    ⟨.refl s _, rfl, fun _ _ => rfl, id⟩
  rw [addProtocolToService]
  cases hcopy : lib.copyProtocol p s q.protocolType with
  | copied =>
    exact ⟨hset p, setProtocol_done (lib.copyProtocol_copied p s _ hcopy) rfl rfl⟩
  | failed => exact ⟨hrefl, fun h => by cases h⟩
  | noKey =>
    have hadd := addProtocolType_step (lib.copyProtocol_noKey p s _ hcopy)
    rcases hadded : lib.addProtocolType p s q.protocolType with ⟨_ | _, p'⟩
    · rw [hadded] at hadd
      exact ⟨hadd, fun h => by cases h⟩
    · rw [hadded] at hadd
      cases hcopy' : lib.copyProtocol p' s q.protocolType with
      | copied =>
        simp only [hcopy']
        exact ⟨hadd.trans (hset p'),
          setProtocol_done (lib.copyProtocol_copied p' s _ hcopy') rfl rfl⟩
      | noKey =>
        simp only [hcopy']
        exact ⟨hadd, fun h => by cases h⟩
      | failed =>
        simp only [hcopy']
        exact ⟨hadd, fun h => by cases h⟩

end

/-! ## A migration -/

section

variable {lib : MigrationLibrary π σ δ D} {source : SourceService D}
  {interface n : SCNetworkInterface} {assigned : List δ} {s : σ} {p : π}
  {before : TargetContents σ δ D}

/-- The new service before it is added to sets: it has the ID and the state of the source, and the
default protocols. -/
structure NewService (lib : MigrationLibrary π σ δ D) (source : SourceService D)
    (n : SCNetworkInterface) (s : σ) (before after : TargetContents σ δ D) : Prop
    extends Added s before after where
  serviceID : (after.service s).serviceID = source.serviceID
  enabled : (after.service s).enabled = source.enabled
  interface : (after.service s).interface = n
  protocols : ∀ type, ((after.service s).protocols type).isSome ↔ type ∈ lib.defaultProtocols n

/-- A set gains the service, if the call succeeds, and nothing else. -/
theorem addService_members (p : π) (g : δ) (s : σ) (h : δ) (t : σ) :
    t ∈ (lib.contents (lib.addService p g s).2).members h ↔
      t ∈ (lib.contents p).members h ∨ t = s ∧ h = g ∧ (lib.addService p g s).1 = true := by
  by_cases hg : h = g
  · subst hg
    cases hok : (lib.addService p h s).1 with
    | false => simp [lib.addService_false p h s hok]
    | true => simp [lib.addService_true p h s hok, or_comm]
  · simp [(lib.addService_services p g s).2.2 h hg, hg]

/-- What the loop over the sets keeps: nothing but the membership of the new service changes. -/
structure InSets (s : σ) (assigned : List δ) (before after : TargetContents σ δ D) : Prop where
  services : after.services = before.services
  service : after.service = before.service
  kept : ∀ g t, t ∈ before.members g → t ∈ after.members g
  added : ∀ g t, t ∈ after.members g → t ∈ before.members g ∨ t = s ∧ g ∈ assigned

/-- The loop over the sets, one set. -/
theorem InSets.step {g : δ} (hg : g ∈ assigned) (h : InSets s assigned before (lib.contents p)) :
    InSets s assigned before (lib.contents (lib.addService p g s).2) := by
  obtain ⟨hservices, hservice, -⟩ := lib.addService_services p g s
  constructor
  · exact hservices.trans h.services
  · exact hservice.trans h.service
  · exact fun h' t ht => (addService_members p g s h' t).mpr (.inl (h.kept h' t ht))
  · intro h' t ht
    obtain ht | ⟨rfl, rfl, -⟩ := (addService_members p g s h' t).mp ht
    · exact h.added h' t ht
    · exact .inr ⟨rfl, hg⟩

/-- **The sets**: the new service is in assigned sets only, and in each that took it. -/
theorem addToSets_spec (lib : MigrationLibrary π σ δ D) (s : σ) (assigned : List δ) (p : π) :
    let sets := tryEach (fun p g => lib.addService p g s) p assigned
    InSets s assigned (lib.contents p) (lib.contents sets.state) ∧
      (∀ g ∈ sets.done, s ∈ (lib.contents sets.state).members g) ∧
      (sets.done = [] → lib.contents sets.state = lib.contents p) := by
  intro sets
  have hrefl : InSets s assigned (lib.contents p) (lib.contents p) :=
    ⟨rfl, rfl, fun _ _ => id, fun _ _ => .inl⟩
  have hstep : ∀ q, ∀ g ∈ assigned, InSets s assigned (lib.contents p) (lib.contents q) →
      InSets s assigned (lib.contents p) (lib.contents (lib.addService q g s).2) :=
    fun _ _ hg h => h.step hg
  refine ⟨tryEach_keeps _ hstep hrefl, ?_, ?_⟩
  · refine tryEach_done _ (fun g p => s ∈ (lib.contents p).members g) hstep ?_ ?_ hrefl
    · exact fun q g _ _ hok => (addService_members q g s g s).mpr (.inr ⟨rfl, rfl, hok⟩)
    · refine List.pairwise_of_forall fun g g' q _ hg => ?_
      exact (addService_members q g' s g s).mpr (.inl hg)
  · intro hnil
    refine tryEach_keeps_of_done_nil (fun q => lib.contents q = lib.contents p) ?_ hnil rfl
    intro q g _ hq hfailed
    exact (lib.addService_false q g s hfailed).trans hq

/-- What the loop over the protocols keeps. -/
structure InProtocols (source : SourceService D) (s : σ) (before after : TargetContents σ δ D) :
    Prop where
  only : OnlyChanges s before after
  service : after.service s =
    { before.service s with protocols := (after.service s).protocols }
  types : ∀ type, ((after.service s).protocols type).isSome →
    ((before.service s).protocols type).isSome ∨ ∃ q ∈ source.protocols, q.protocolType = type
  kept : ∀ type, ((before.service s).protocols type).isSome →
    ((after.service s).protocols type).isSome

/-- The loop over the protocols, one protocol. -/
theorem InProtocols.step {q : ServiceProtocol D} (hq : q ∈ source.protocols)
    (h : InProtocols source s before (lib.contents p)) :
    InProtocols source s before (lib.contents (addProtocolToService lib s p q).2) := by
  have hstep := (@addProtocolToService_step _ _ _ _ s lib p q).1
  constructor
  · exact h.only.trans hstep.only
  · rw [hstep.service, h.service]
  · intro type htype
    by_cases heq : type = q.protocolType
    · exact .inr ⟨q, hq, heq.symm⟩
    · rw [hstep.others type heq] at htype
      exact h.types type htype
  · intro type htype
    have hkept := h.kept type htype
    by_cases heq : type = q.protocolType
    · subst heq
      exact hstep.kept hkept
    · rwa [hstep.others type heq]

/-- **The protocols**: those that could be copied are as in the source. -/
theorem addProtocols_spec (lib : MigrationLibrary π σ δ D) (source : SourceService D) (s : σ)
    (p : π) :
    let protocols := tryEach (addProtocolToService lib s) p source.protocols
    InProtocols source s (lib.contents p) (lib.contents protocols.state) ∧
      ∀ q ∈ protocols.done, ((lib.contents protocols.state).service s).protocols q.protocolType =
        some (q.configuration, q.enabled) := by
  intro protocols
  have hrefl : InProtocols source s (lib.contents p) (lib.contents p) :=
    ⟨.refl s _, rfl, fun _ => .inl, fun _ => id⟩
  have hstep : ∀ p', ∀ q ∈ source.protocols,
      InProtocols source s (lib.contents p) (lib.contents p') →
      InProtocols source s (lib.contents p)
        (lib.contents (addProtocolToService lib s p' q).2) :=
    fun _ _ hq h => h.step hq
  refine ⟨tryEach_keeps _ hstep hrefl, ?_⟩
  refine tryEach_done _ (fun q p => ((lib.contents p).service s).protocols q.protocolType =
    some (q.configuration, q.enabled)) hstep ?_ ?_ hrefl
  · exact fun p' q _ _ hok => (addProtocolToService_step q).2 hok
  · -- each type occurs once
    refine (List.pairwise_map.mp source.nodup).imp fun {q q'} hne p' _ hq => ?_
    rw [(addProtocolToService_step q').1.others q.protocolType hne]
    exact hq

/-- **The configurations**: those that could be set are as in the source. -/
theorem setConfigurations_spec (lib : MigrationLibrary π σ δ D) {s : σ} {p : π}
    {ws : List (ConfigurationWrite D)}
    (hagree : ∀ w ∈ ws, ∀ w' ∈ ws, ∀ place, configurationPlace w.new w.extendedType = some place →
      configurationPlace w'.new w'.extendedType = some place → w.value = w'.value) :
    let writes := tryEach (fun p (w : ConfigurationWrite D) =>
      lib.setConfiguration p s w.new w.extendedType w.value) p ws
    ∀ w ∈ writes.done, ∀ place ∈ configurationPlace w.new w.extendedType,
      (lib.contents writes.state).configuration s place = w.value := by
  intro writes
  refine tryEach_done (fun _ => True) (fun (w : ConfigurationWrite D) p =>
    ∀ place ∈ configurationPlace w.new w.extendedType,
      (lib.contents p).configuration s place = w.value) (fun _ _ _ _ => trivial) ?_ ?_ trivial
  · exact fun p w _ _ hok => lib.setConfiguration_true p s w.new w.extendedType w.value hok
  · refine List.pairwise_of_forall_mem_list ?_
    intro w hw w' hw' p _ hdone place hplace
    obtain hkept | ⟨hplace', hset⟩ :=
      lib.setConfiguration_stored p s w'.new w'.extendedType w'.value place
    · exact hkept.trans (hdone place hplace)
    · -- the later one sets the same there
      exact hset.trans (hagree w' hw' w hw place hplace'.symm hplace)

/-- Writing configurations adds no services and changes no set. -/
theorem setConfigurations_keeps (lib : MigrationLibrary π σ δ D) (s : σ) (p : π)
    (ws : List (ConfigurationWrite D)) :
    let writes := tryEach (fun p (w : ConfigurationWrite D) =>
      lib.setConfiguration p s w.new w.extendedType w.value) p ws
    (lib.contents writes.state).services = (lib.contents p).services ∧
      (lib.contents writes.state).service = (lib.contents p).service ∧
      (lib.contents writes.state).members = (lib.contents p).members := by
  intro writes
  refine tryEach_keeps (fun p' =>
    (lib.contents p').services = (lib.contents p).services ∧
      (lib.contents p').service = (lib.contents p).service ∧
      (lib.contents p').members = (lib.contents p).members) ?_ ⟨rfl, rfl, rfl⟩
  intro p' w _ h
  obtain ⟨hservices, hservice, hmembers⟩ :=
    lib.setConfiguration_only p' s w.new w.extendedType w.value
  exact ⟨hservices.trans h.1, hservice.trans h.2.1, hmembers.trans h.2.2⟩

/-- The three loops together. -/
theorem migratesService_of_loops {prefs : π} (hlowest : OnlyLowest n)
    (h : NewService lib source n s (lib.contents prefs) (lib.contents p))
    {sets : Attempted π δ} (hsets : sets = tryEach (fun p g => lib.addService p g s) p assigned)
    (hdone : sets.done ≠ [])
    {protocols : Attempted π (ServiceProtocol D)}
    (hprotocols : protocols = tryEach (addProtocolToService lib s) sets.state source.protocols)
    {writes : Attempted π (ConfigurationWrite D)}
    (hwrites : writes = tryEach (fun p w => lib.setConfiguration p s w.new w.extendedType w.value)
      protocols.state (configurationWrites source interface.layers
        ((lib.contents protocols.state).service s).interface.layers)) :
    MigratesService lib source interface (some n) assigned prefs
      ⟨true, writes.state, sets.failed, protocols.failed, writes.failed⟩ s := by
  obtain ⟨hin, hadded, -⟩ := addToSets_spec lib s assigned p
  obtain ⟨hcopies, hcopied⟩ := addProtocols_spec lib source s sets.state
  have hkeeps := setConfigurations_keeps lib s protocols.state (configurationWrites source
    interface.layers ((lib.contents protocols.state).service s).interface.layers)
  have htriedSets := mem_done_or_failed (fun p g => lib.addService p g s) p assigned
  have htriedProtocols :=
    mem_done_or_failed (addProtocolToService lib s) sets.state source.protocols
  simp only [← hsets] at hin hadded htriedSets
  simp only [← hprotocols] at hcopies hcopied htriedProtocols
  simp only [← hwrites] at hkeeps
  obtain ⟨hservices, hservice, hmembers⟩ := hkeeps
  -- the new service in the end
  have hs : (lib.contents writes.state).service s =
      { (lib.contents p).service s with
        protocols := ((lib.contents protocols.state).service s).protocols } := by
    rw [hservice, hcopies.service, hin.service]
  have hmem : (lib.contents writes.state).members = (lib.contents sets.state).members :=
    hmembers.trans hcopies.only.members
  have hinterface : ((lib.contents protocols.state).service s).interface = n := by
    rw [hcopies.service, hin.service]
    exact h.interface
  have hprotocol : ∀ type, (((lib.contents sets.state).service s).protocols type).isSome ↔
      type ∈ lib.defaultProtocols n := fun type => by
    rw [hin.service]
    exact h.protocols type
  constructor
  case new => exact h.new
  case services =>
    exact hservices.trans (hcopies.only.services.trans (hin.services.trans h.services))
  case others =>
    intro t ht
    show (lib.contents writes.state).service t = _
    rw [hservice, hcopies.only.service t ht, hin.service]
    exact h.service t ht
  case serviceID =>
    show ((lib.contents writes.state).service s).serviceID = _
    rw [hs]
    exact h.serviceID
  case enabled =>
    show ((lib.contents writes.state).service s).enabled = _
    rw [hs]
    exact h.enabled
  case overMapped =>
    show _ = some ((lib.contents writes.state).service s).interface
    rw [hs]
    exact congrArg some h.interface.symm
  case types =>
    show ∀ type, (((lib.contents writes.state).service s).protocols type).isSome →
      type ∈ lib.defaultProtocols ((lib.contents writes.state).service s).interface ∨ _
    rw [hs]
    intro type htype
    rw [h.interface, ← hprotocol]
    exact hcopies.types type htype
  case defaults =>
    show ∀ type ∈ lib.defaultProtocols ((lib.contents writes.state).service s).interface,
      (((lib.contents writes.state).service s).protocols type).isSome
    rw [hs]
    intro type htype
    rw [h.interface, ← hprotocol] at htype
    exact hcopies.kept type htype
  case protocols =>
    intro q hq
    show q ∈ protocols.failed ∨ ((lib.contents writes.state).service s).protocols _ = _
    rw [hservice]
    exact (htriedProtocols q hq).symm.imp id (hcopied q)
  case layers =>
    show LayersMatch _ ((lib.contents writes.state).service s).interface.layers → ∀ w ∈
      configurationWrites source _ ((lib.contents writes.state).service s).interface.layers, _
    rw [hservice, hinterface]
    intro hmatch w hw
    rw [hinterface] at hwrites
    have htried := mem_done_or_failed
      (fun p w => lib.setConfiguration p s w.new w.extendedType w.value) protocols.state _ w hw
    have hset := @setConfigurations_spec _ _ _ _ lib s protocols.state
      (configurationWrites source interface.layers n.layers)
      fun w hw w' hw' _ => writes_agree hlowest hmatch hw hw'
    simp only [← hwrites] at htried hset
    exact htried.symm.imp id (hset w)
  case onlyAssigned =>
    show ∀ g, s ∈ (lib.contents writes.state).members g → g ∈ assigned
    rw [hmem]
    intro g hg
    obtain hg | ⟨-, hg⟩ := hin.added g s hg
    · rw [h.members] at hg
      exact absurd hg (h.noMember g)
    · exact hg
  case members =>
    intro g hg
    show g ∈ sets.failed ∨ s ∈ (lib.contents writes.state).members g
    rw [hmem]
    exact (htriedSets g hg).symm.imp id (hadded g)
  case inSet =>
    show ∃ g, s ∈ (lib.contents writes.state).members g
    obtain ⟨g, hg⟩ := List.exists_mem_of_ne_nil _ hdone
    rw [hmem]
    exact ⟨g, hadded g hg⟩
  case otherMembers =>
    intro g t ht
    show t ∈ (lib.contents writes.state).members g ↔ _
    rw [hmem, ← h.members]
    refine ⟨fun hg => ?_, hin.kept g t⟩
    exact (hin.added g t hg).resolve_right fun hts => ht hts.1

/-- A migration that has stopped has to leave everything as it was. -/
theorem Migrates.stop {mapped : SCNetworkInterface → Option SCNetworkInterface} {prefs : π}
    (h : Unchanged (lib.contents prefs) (lib.contents p)) :
    Migrates lib source mapped assigned prefs (.stop p) where
  migrates hfalse := by cases hfalse
  unchanged _ := h

/-- **From the sets on**: the new service is filled, or removed if no set took it. -/
theorem fillService_migrates {mapped : SCNetworkInterface → Option SCNetworkInterface} {prefs : π}
    (hinterface : source.interface = some interface) (hmapped : mapped interface = some n)
    (hlowest : OnlyLowest n)
    (h : NewService lib source n s (lib.contents prefs) (lib.contents p)) :
    Migrates lib source mapped assigned prefs
      (fillService lib source interface assigned s p) := by
  unfold fillService
  dsimp only
  split_ifs with hdone
  · -- not in any set
    have hadded := h.toAdded
    rw [← (addToSets_spec lib s assigned p).2.2 hdone] at hadded
    exact .stop hadded.removed
  · refine ⟨fun _ => ⟨interface, hinterface, s, ?_⟩, fun hfalse => (by cases hfalse)⟩
    rw [hmapped]
    exact migratesService_of_loops hlowest h rfl hdone rfl rfl

/-- **From the creation of the service on**. -/
theorem setUpNewService_migrates {mapped : SCNetworkInterface → Option SCNetworkInterface}
    {prefs : π} (hinterface : source.interface = some interface)
    (hmapped : mapped interface = some n) (hlowest : OnlyLowest n)
    (hadded : Added s (lib.contents prefs) (lib.contents p))
    (hover : ((lib.contents p).service s).interface = n)
    (hnone : ∀ type, ((lib.contents p).service s).protocols type = none)
    (hid : ∀ t ∈ (lib.contents prefs).services,
      ((lib.contents prefs).service t).serviceID ≠ source.serviceID) :
    Migrates lib source mapped assigned prefs
      (setUpNewService lib source interface assigned s p) := by
  unfold setUpNewService
  have hadded' := hadded.only (lib.setEnabled_only p s source.enabled)
  have henabled := lib.setEnabled_true p s source.enabled
  generalize lib.setEnabled p s source.enabled = set at hadded' henabled ⊢
  obtain ⟨_ | _, p'⟩ := set
  · exact .stop hadded'.removed
  have hadded'' := hadded'.only (lib.establish_only p' s)
  have hestablish := lib.establish_true p' s
  dsimp only
  generalize lib.establish p' s = established at hadded'' hestablish ⊢
  obtain ⟨_ | _, p''⟩ := established
  · exact .stop hadded''.removed
  obtain ⟨hservice, hprotocols⟩ := hestablish rfl
  refine fillService_migrates hinterface hmapped hlowest ?_
  -- no other service has the ID
  have hnew := lib.setServiceID_new p'' s source.serviceID fun t ht hts => by
    rw [hadded''.services] at ht
    rw [hadded''.service t hts]
    exact hid t (ht.resolve_left hts)
  replace henabled := henabled rfl
  dsimp only at hservice hprotocols henabled
  refine
    { toAdded := hadded''.only (lib.setServiceID_only p'' s _)
      serviceID := ?_
      enabled := ?_
      interface := ?_
      protocols := ?_ }
  · rw [hnew]
  · rw [hnew, hservice, henabled]
  · rw [hnew, hservice, henabled]
    exact hover
  · intro type
    rw [hnew]
    show (((lib.contents p'').service s).protocols type).isSome ↔ _
    rw [hprotocols, henabled]
    simp [hnone, hover]

/-- **A migration**: one new service as described, or nothing has changed. -/
theorem migrateNew_migrates (lib : MigrationLibrary π σ δ D) (sys : SystemInterfaces)
    (localizedDisplayName : SCNetworkInterface → String)
    (bsdNameMapping : Option (String → Option String)) (source : SourceService D)
    (setMapping : Option (γ → Option δ)) (setList : Option (List γ)) (prefs : π) :
    Migrates lib source (mappedInterface sys localizedDisplayName bsdNameMapping)
      (assignedSets setMapping setList) prefs
      (migrateNew lib sys localizedDisplayName bsdNameMapping source setMapping setList prefs) := by
  have hrefl : Unchanged (lib.contents prefs) (lib.contents prefs) :=
    ⟨rfl, rfl, fun _ _ => rfl, fun _ _ => rfl⟩
  unfold migrateNew
  split_ifs
  swap
  · exact .stop hrefl
  cases hcopy : lib.copy prefs source.serviceID with
  | some t => exact .stop hrefl
  | none =>
    cases hinterface : source.interface with
    | none => exact .stop hrefl
    | some interface =>
      dsimp only
      split
      case h_2 => exact .stop hrefl
      case h_1 mapping list =>
        rcases hcreate : lib.create prefs
          (mappedInterface sys localizedDisplayName bsdNameMapping interface) with ⟨_ | s, p⟩
        · have hsame := lib.create_none prefs _ (congrArg Prod.fst hcreate)
          rw [hcreate] at hsame
          exact .stop (hsame ▸ hrefl)
        · obtain ⟨hnew, hservices, hservice, hconfiguration, hmembers, hnone, hover, hprotocols⟩ :=
            lib.create_some prefs _ s (congrArg Prod.fst hcreate)
          rw [hcreate] at hservices hservice hconfiguration hmembers hover hprotocols
          exact setUpNewService_migrates hinterface hover.symm
            (onlyLowest_createWithEntity hover.symm)
            ⟨hnew, hnone, hservices, hmembers, hservice, hconfiguration⟩ rfl hprotocols
            (lib.copy_none prefs source.serviceID hcopy)

end

/-! ## Preferences with such operations -/

/-- A service, with the sets that it is in and the configurations of its interface. -/
structure PlainService extends TargetService ℕ where
  sets : Finset ℕ
  configuration : ConfigurationPlace → Option ℕ

/-- Numbered services. -/
structure PlainPrefs where
  services : List ℕ
  entry : ℕ → PlainService

namespace PlainPrefs

/-- Changes one service. -/
def update (p : PlainPrefs) (s : ℕ) (f : PlainService → PlainService) : PlainPrefs :=
  { p with entry := fun t => if t = s then f (p.entry t) else p.entry t }

/-- What there is. -/
def contents (p : PlainPrefs) : TargetContents ℕ ℕ ℕ where
  services := {s | s ∈ p.services}
  service s := (p.entry s).toTargetService
  members g := {s | s ∈ p.services ∧ g ∈ (p.entry s).sets}
  configuration s := (p.entry s).configuration

/-- A new entry for one service changes nothing of the others. -/
theorem onlyChanges_update (p : PlainPrefs) (s : ℕ) {f : PlainService → PlainService}
    (hf : ∀ e, (f e).sets = e.sets) : OnlyChanges s p.contents (p.update s f).contents where
  services := rfl
  members := by
    funext g
    ext t
    show t ∈ p.services ∧ g ∈ (if t = s then f (p.entry t) else p.entry t).sets ↔
      t ∈ p.services ∧ g ∈ (p.entry t).sets
    split_ifs
    · rw [hf]
    · rfl
  service t ht := congrArg PlainService.toTargetService (if_neg ht)
  configuration t ht := congrArg PlainService.configuration (if_neg ht)

@[simp] theorem service_update (p : PlainPrefs) (s : ℕ) (f : PlainService → PlainService) :
    (p.update s f).contents.service s = (f (p.entry s)).toTargetService :=
  congrArg PlainService.toTargetService (if_pos rfl)

/-- A number that no service has. -/
def fresh (p : PlainPrefs) : ℕ := p.services.sum + 1

/-- A new service gets an identifier that is not in use. -/
theorem fresh_not_mem (p : PlainPrefs) : p.fresh ∉ p.services := by
  intro hmem
  have hle := List.le_sum_of_mem hmem
  rw [fresh] at hle
  omega

/-- Adds a service. -/
def add (p : PlainPrefs) (e : PlainService) : PlainPrefs where
  services := p.fresh :: p.services
  entry t := if t = p.fresh then e else p.entry t

/-- It is in no set at first. -/
theorem members_add (p : PlainPrefs) {e : PlainService} (he : e.sets = ∅) :
    (p.add e).contents.members = p.contents.members := by
  funext g
  ext t
  show t ∈ p.fresh :: p.services ∧ g ∈ (if t = p.fresh then e else p.entry t).sets ↔
    t ∈ p.services ∧ g ∈ (p.entry t).sets
  split_ifs with ht
  · subst ht
    simp [he, p.fresh_not_mem]
  · simp [ht]

end PlainPrefs

/-- Stores a configuration of a layer. -/
def storeAt (layer : SCNetworkInterface) (extendedType : Option String) (d : Option ℕ)
    (e : PlainService) : PlainService :=
  { e with
    configuration := fun place =>
      if some place = configurationPlace layer extendedType then d else e.configuration place }

/-- Every operation that can succeed does, but that some sets take no service; every service has
the same default protocols. -/
def plainLibrary (defaults : List String) (refuses : ℕ → Bool) :
    MigrationLibrary PlainPrefs ℕ ℕ ℕ where
  contents := PlainPrefs.contents
  defaultProtocols _ := {type | type ∈ defaults}
  copy p id := p.services.find? fun s => (p.entry s).serviceID = id
  create p
    | none => (none, p)
    | some i =>
      (some p.fresh,
        p.add { serviceID := "", enabled := true, interface := i, protocols := fun _ => none,
                sets := ∅, configuration := fun _ => none })
  setEnabled p s b := (true, p.update s fun e => { e with enabled := b })
  establish p s :=
    (true, p.update s fun e =>
      { e with
        protocols := fun type =>
          (e.protocols type).or (if type ∈ defaults then some (none, true) else none) })
  setServiceID p s id := (true, p.update s fun e => { e with serviceID := id })
  addService p g s :=
    if s ∈ p.services ∧ refuses g = false then
      (true, p.update s fun e => { e with sets := insert g e.sets })
    else (false, p)
  remove p s := (true, { p with services := p.services.filter (· ≠ s) })
  copyProtocol p s type := if ((p.entry s).protocols type).isSome then .copied else .noKey
  addProtocolType p s type :=
    (true, p.update s fun e =>
      { e with
        protocols := fun type' => if type' = type then some (none, true) else e.protocols type' })
  setProtocolConfiguration p s type d :=
    (true, p.update s fun e =>
      { e with
        protocols := fun type' =>
          if type' = type then (e.protocols type).map fun protocol => (d, protocol.2)
          else e.protocols type' })
  setProtocolEnabled p s type b :=
    (true, p.update s fun e =>
      { e with
        protocols := fun type' =>
          if type' = type then (e.protocols type).map fun protocol => (protocol.1, b)
          else e.protocols type' })
  setConfiguration p s layer extendedType d :=
    (true, p.update s (storeAt layer extendedType d))
  copy_none p id h t ht := by
    have hne := List.find?_eq_none.mp h t ht
    exact fun heq => hne (decide_eq_true heq)
  create_some p i s h := by
    cases i with
    | none => cases h
    | some i =>
      obtain rfl : p.fresh = s := Option.some.inj h
      refine ⟨p.fresh_not_mem, Set.ext fun t => List.mem_cons, fun t ht => ?_, fun t ht => ?_,
        p.members_add rfl, fun g hg => p.fresh_not_mem hg.1, ?_, fun type => ?_⟩
      · exact congrArg PlainService.toTargetService (if_neg ht)
      · exact congrArg PlainService.configuration (if_neg ht)
      · exact congrArg (fun e : PlainService => some e.interface) (if_pos rfl)
      · exact congrArg (fun e : PlainService => e.protocols type) (if_pos rfl)
  create_none p i h := by
    cases i with
    | none => rfl
    | some i => cases h
  setEnabled_only p s b := p.onlyChanges_update s fun _ => rfl
  setEnabled_true p s b _ := p.service_update s _
  establish_only p s := p.onlyChanges_update s fun _ => rfl
  establish_true p s _ := by
    dsimp only
    rw [p.service_update]
    refine ⟨rfl, fun type => ?_⟩
    show (((p.entry s).protocols type).or (if type ∈ defaults then _ else none)).isSome ↔
      ((p.entry s).protocols type).isSome ∨ type ∈ defaults
    cases (p.entry s).protocols type <;> simp
  setServiceID_only p s id := p.onlyChanges_update s fun _ => rfl
  setServiceID_new p s id _ := p.service_update s _
  addService_services p g s := by
    split_ifs with h
    · refine ⟨rfl, ?_, fun g' hg' => ?_⟩
      · funext t
        exact apply_ite PlainService.toTargetService _ _ _ |>.trans (ite_self _)
      · ext t
        show t ∈ p.services ∧ g' ∈ (if t = s then _ else p.entry t).sets ↔
          t ∈ p.services ∧ g' ∈ (p.entry t).sets
        split_ifs <;> simp [hg']
    · exact ⟨rfl, rfl, fun _ _ => rfl⟩
  addService_true p g s h := by
    split_ifs at h ⊢ with hok
    ext t
    show t ∈ p.services ∧ g ∈ (if t = s then _ else p.entry t).sets ↔
      t = s ∨ t ∈ p.services ∧ g ∈ (p.entry t).sets
    split_ifs with ht
    · simp [ht, hok.1]
    · simp [ht]
  addService_false p g s h := by
    split_ifs at h ⊢
    rfl
  remove_spec p s hs := by
    refine ⟨Set.ext fun t => ?_, fun g => Set.ext fun t => ?_, fun _ _ => rfl, fun _ _ => rfl⟩
    · show t ∈ p.services.filter (· ≠ s) ↔ t ∈ p.services ∧ t ∉ ({s} : Set ℕ)
      simp
    · show t ∈ p.services.filter (· ≠ s) ∧ g ∈ (p.entry t).sets ↔
        (t ∈ p.services ∧ g ∈ (p.entry t).sets) ∧ t ∉ ({s} : Set ℕ)
      simp
      tauto
  copyProtocol_copied p s type h := by
    split_ifs at h with hsome
    exact hsome
  copyProtocol_noKey p s type h := by
    split_ifs at h with hsome
    exact Option.not_isSome_iff_eq_none.mp hsome
  addProtocolType_only p s type := p.onlyChanges_update s fun _ => rfl
  addProtocolType_service p s type := by
    dsimp only
    rw [p.service_update]
    exact ⟨rfl, fun type' hne => if_neg hne⟩
  setProtocolConfiguration_only p s type d := p.onlyChanges_update s fun _ => rfl
  setProtocolConfiguration_service p s type d := by
    dsimp only
    rw [p.service_update]
    simp only [and_true]
    rfl
  setProtocolEnabled_only p s type b := p.onlyChanges_update s fun _ => rfl
  setProtocolEnabled_service p s type b := by
    dsimp only
    rw [p.service_update]
    simp only [and_true]
    rfl
  setConfiguration_only p s layer extendedType d := by
    have honly := @PlainPrefs.onlyChanges_update p s (storeAt layer extendedType d) fun _ => rfl
    refine ⟨rfl, ?_, honly.members⟩
    funext t
    exact (apply_ite PlainService.toTargetService _ _ _).trans (ite_self _)
  setConfiguration_stored p s layer extendedType d place := by
    have hconfiguration : (p.update s (storeAt layer extendedType d)).contents.configuration s =
        (storeAt layer extendedType d (p.entry s)).configuration :=
      congrArg PlainService.configuration (if_pos rfl)
    dsimp only
    rw [hconfiguration]
    by_cases hplace : some place = configurationPlace layer extendedType
    · exact .inr ⟨hplace, if_pos hplace⟩
    · exact .inl (if_neg hplace)
  setConfiguration_true p s layer extendedType d _ place hplace := by
    have hconfiguration : (p.update s (storeAt layer extendedType d)).contents.configuration s =
        (storeAt layer extendedType d (p.entry s)).configuration :=
      congrArg PlainService.configuration (if_pos rfl)
    dsimp only
    rw [hconfiguration]
    exact if_pos hplace.symm

/-- An Ethernet service without protocols. -/
def ethernetService : SourceService ℕ where
  hasPrefs := true
  loaded := true
  serviceID := "S"
  interface := some (.mk { InterfaceInfo.new kSCNetworkInterfaceTypeEthernet with
    entityType := some "Ethernet", entityDevice := some "en0" } none none none none)
  enabled := true
  protocols := []
  nodup := List.nodup_nil
  stored _ := none

/-- Its migration to empty preferences, where each set is its own counterpart. -/
def migrateEthernet (defaults : List String) (refuses : ℕ → Bool) (setList : List ℕ) :
    Migration PlainPrefs ℕ ℕ :=
  migrateNew (plainLibrary defaults refuses) emptySystem (fun _ => "Ethernet") none ethernetService
    (some some) (some setList)
    ⟨[], fun _ => ⟨⟨"", false, kSCNetworkInterfaceIPv4, fun _ => none⟩, ∅, fun _ => none⟩⟩

/-- An Ethernet service goes into one set. -/
theorem migrateNew_migrates_ethernet :
    let prefs : PlainPrefs :=
      ⟨[], fun _ => ⟨⟨"", false, kSCNetworkInterfaceIPv4, fun _ => none⟩, ∅, fun _ => none⟩⟩
    Migrates (plainLibrary ["IPv4"] fun _ => false) ethernetService
      (mappedInterface emptySystem (fun _ => "Ethernet") none) (assignedSets (some some) (some [0]))
      prefs (migrateEthernet ["IPv4"] (fun _ => false) [0]) :=
  migrateNew_migrates (plainLibrary ["IPv4"] fun _ => false) emptySystem (fun _ => "Ethernet") none
    ethernetService (some some) (some [0]) _

-- a default protocol that the source does not have stays
example : (((migrateEthernet ["IPv4"] (fun _ => false) [0]).prefs.contents.service 1).protocols
    "IPv4") = some (none, true) := rfl

-- one set is enough
example : (migrateEthernet [] (fun g => g = 1) [0, 1]).success = true := by decide

end ConfigdExtra
