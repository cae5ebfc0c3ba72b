import Mathlib

/-!
# A service for an interface

`__SCNetworkServiceCreate` creates a service for an interface, names it, gives it its default
configuration and adds it to the current set. When a step fails, the service is removed again.

* `ServiceLibrary` — the operations of the framework, each with what it does to the services.
* `serviceCreate` — the function.
* `ResultMatchesEffect` — it returns `TRUE` just for a service that is in the current set, and else
  leaves none behind.
* `serviceCreate_matches_iff` — this fails where there is no current set, which is found last.
-/

namespace ConfigdExtra

/-! ## The operations -/

/-- The operations on preferences `π` with interfaces `ι`, services `σ` and sets `γ`, and what is
documented about them. Each may succeed or fail as it likes. -/
structure ServiceLibrary (π ι σ γ : Type) where
  /-- the services that there are -/
  services : π → Set σ
  /-- `SCNetworkServiceGetInterface` -/
  interfaceOf : π → σ → Option ι
  /-- the services of a set -/
  setServices : π → γ → Set σ
  /-- `SCNetworkSetCopyCurrent` -/
  copyCurrent : π → Option γ
  /-- `__SCNetworkInterfaceGetUserDefinedName` -/
  userDefinedName : ι → Option String
  /-- `SCNetworkServiceCreate` -/
  create : π → ι → Option σ × π
  /-- `SCNetworkServiceSetName` -/
  setName : π → σ → String → Bool × π
  /-- `SCNetworkServiceEstablishDefaultConfiguration` -/
  establish : π → σ → Bool × π
  /-- `SCNetworkSetAddService` -/
  addService : π → γ → σ → Bool × π
  /-- `SCNetworkServiceRemove` -/
  remove : π → σ → π
  /-- a service is created that was not there -/
  create_new : ∀ p i s, (create p i).1 = some s → s ∉ services p
  services_create : ∀ p i s, (create p i).1 = some s →
    services (create p i).2 = insert s (services p)
  interfaceOf_create : ∀ p i s, (create p i).1 = some s → interfaceOf (create p i).2 s = some i
  /-- or none is -/
  services_create_none : ∀ p i, (create p i).1 = none → services (create p i).2 = services p
  copyCurrent_create : ∀ p i, copyCurrent (create p i).2 = copyCurrent p
  /-- the name and the configuration of a service are all that is changed by setting them -/
  services_setName : ∀ p s name, services (setName p s name).2 = services p
  interfaceOf_setName : ∀ p s name, interfaceOf (setName p s name).2 s = interfaceOf p s
  copyCurrent_setName : ∀ p s name, copyCurrent (setName p s name).2 = copyCurrent p
  services_establish : ∀ p s, services (establish p s).2 = services p
  interfaceOf_establish : ∀ p s, interfaceOf (establish p s).2 s = interfaceOf p s
  copyCurrent_establish : ∀ p s, copyCurrent (establish p s).2 = copyCurrent p
  /-- a service that is added is in the set -/
  mem_addService : ∀ p g s, (addService p g s).1 = true → s ∈ setServices (addService p g s).2 g
  services_addService : ∀ p g s, services (addService p g s).2 = services p
  interfaceOf_addService : ∀ p g s, interfaceOf (addService p g s).2 s = interfaceOf p s
  copyCurrent_addService : ∀ p g s, copyCurrent (addService p g s).2 = copyCurrent p
  /-- a service that is removed is no longer there -/
  services_remove : ∀ p s, services (remove p s) = services p \ {s}

section

variable {π ι σ γ : Type} (lib : ServiceLibrary π ι σ γ)

/-! ## The function -/

/-- What `__SCNetworkServiceCreate` does with the service that it has created. -/
def setUpService (prefs : π) (service : σ) (name : String) : Bool × π :=
  match lib.setName prefs service name with
  | (false, prefs) => (false, lib.remove prefs service)
  | (true, prefs) =>
    match lib.establish prefs service with
    | (false, prefs) => (false, lib.remove prefs service)
    | (ok, prefs) =>
      match lib.copyCurrent prefs with
      -- `ok` is what the last step has left there
      | none => (ok, lib.remove prefs service)
      | some currentSet =>
        match lib.addService prefs currentSet service with
        | (false, prefs) => (false, lib.remove prefs service)
        | (true, prefs) => (true, prefs)

/-- The name that a service is given. -/
def serviceName (userDefinedName : Option String) (interface : ι) : Option String :=
  match userDefinedName with
  | none => lib.userDefinedName interface
  | some name => some name

/-- `__SCNetworkServiceCreate`: the result, and the preferences that it leaves -/
def serviceCreate (prefs : π) (interface : Option ι) (userDefinedName : Option String) :
    Bool × π :=
  match interface with
  | none => (false, prefs)
  | some interface =>
    match serviceName lib userDefinedName interface with
    | none => (false, prefs)
    | some name =>
      match lib.create prefs interface with
      | (none, prefs) => (false, prefs)
      | (some service, prefs) => setUpService lib prefs service name

/-! ## Its effect -/

/-- A new service for an interface is in the current set. -/
def IsAdded (before after : π) (i : ι) : Prop :=
  ∃ s, s ∉ lib.services before ∧ s ∈ lib.services after ∧ lib.interfaceOf after s = some i ∧
    ∃ currentSet, lib.copyCurrent after = some currentSet ∧ s ∈ lib.setServices after currentSet

/-- The function returns `TRUE` just if there is such a service, and `FALSE` with no service
that was not there. -/
structure ResultMatchesEffect (prefs : π) (interface : Option ι)
    (userDefinedName : Option String) : Prop where
  result_iff : (serviceCreate lib prefs interface userDefinedName).1 = true ↔
    ∃ i ∈ interface, IsAdded lib prefs (serviceCreate lib prefs interface userDefinedName).2 i
  none_left : (serviceCreate lib prefs interface userDefinedName).1 = false →
    lib.services (serviceCreate lib prefs interface userDefinedName).2 ⊆ lib.services prefs

/-- A service can be named and given its default configuration. -/
def Establishes (prefs : π) (service : σ) (name : String) : Prop :=
  (lib.setName prefs service name).1 = true ∧
    (lib.establish (lib.setName prefs service name).2 service).1 = true

/-- A service is there with all but a set to add it to. -/
def LacksSet (prefs : π) (interface : Option ι) (userDefinedName : Option String) : Prop :=
  ∃ i ∈ interface, ∃ name ∈ serviceName lib userDefinedName i, ∃ s ∈ (lib.create prefs i).1,
    Establishes lib (lib.create prefs i).2 s name ∧ lib.copyCurrent prefs = none

/-- How the set-up of a service goes. -/
inductive SetUp (before : π) (s : σ) (name : String) : Bool × π → Prop where
  | failed (after : π) (hremoved : lib.services after = lib.services before \ {s})
      (hset : Establishes lib before s name → lib.copyCurrent before ≠ none) :
      SetUp before s name (false, after)
  | lacksSet (after : π) (hremoved : lib.services after = lib.services before \ {s})
      (hestablishes : Establishes lib before s name) (hset : lib.copyCurrent before = none) :
      SetUp before s name (true, after)
  | added (after : π) (currentSet : γ) (hkept : lib.services after = lib.services before)
      (hinterface : lib.interfaceOf after s = lib.interfaceOf before s)
      (hset : lib.copyCurrent before = some currentSet)
      (hset' : lib.copyCurrent after = some currentSet)
      (hadded : s ∈ lib.setServices after currentSet) :
      SetUp before s name (true, after)

theorem setUpService_setUp (before : π) (s : σ) (name : String) :
    SetUp lib before s name (setUpService lib before s name) := by
  have hservices := lib.services_setName before s name
  have hinterface := lib.interfaceOf_setName before s name
  have hcurrent := lib.copyCurrent_setName before s name
  rcases hname : lib.setName before s name with ⟨_ | _, p⟩
  · rw [hname] at hservices
    rw [show setUpService lib before s name = (false, lib.remove p s) by
      simp [setUpService, hname]]
    exact .failed _ (by rw [lib.services_remove, hservices]) (by simp [Establishes, hname])
  rw [hname] at hservices hinterface hcurrent
  have hservices' := lib.services_establish p s
  have hinterface' := lib.interfaceOf_establish p s
  have hcurrent' := lib.copyCurrent_establish p s
  rcases hestablish : lib.establish p s with ⟨_ | _, p'⟩
  · rw [hestablish] at hservices'
    rw [show setUpService lib before s name = (false, lib.remove p' s) by
      simp [setUpService, hname, hestablish]]
    exact .failed _ (by rw [lib.services_remove, hservices', hservices])
      (by simp [Establishes, hname, hestablish])
  rw [hestablish] at hservices' hinterface' hcurrent'
  simp only at hservices hservices' hinterface hinterface' hcurrent hcurrent' ⊢
  have hbefore : lib.copyCurrent before = lib.copyCurrent p' := by rw [hcurrent', hcurrent]
  cases hset : lib.copyCurrent p' with
  | none =>
    rw [show setUpService lib before s name = (true, lib.remove p' s) by
      simp [setUpService, hname, hestablish, hset]]
    exact .lacksSet _ (by rw [lib.services_remove, hservices', hservices])
      (by simp [Establishes, hname, hestablish]) (hbefore.trans hset)
  | some currentSet =>
    have hservices'' := lib.services_addService p' currentSet s
    have hinterface'' := lib.interfaceOf_addService p' currentSet s
    have hcurrent'' := lib.copyCurrent_addService p' currentSet s
    have hmem := lib.mem_addService p' currentSet s
    rcases hadd : lib.addService p' currentSet s with ⟨_ | _, p''⟩
    · rw [hadd] at hservices''
      rw [show setUpService lib before s name = (false, lib.remove p'' s) by
        simp [setUpService, hname, hestablish, hset, hadd]]
      exact .failed _ (by rw [lib.services_remove, hservices'', hservices', hservices])
        fun _ => by simp [hbefore, hset]
    · rw [hadd] at hservices'' hinterface'' hcurrent'' hmem
      rw [show setUpService lib before s name = (true, p'') by
        simp [setUpService, hname, hestablish, hset, hadd]]
      exact .added p'' currentSet (by rw [hservices'', hservices', hservices])
        (by rw [hinterface'', hinterface', hinterface]) (hbefore.trans hset)
        (hcurrent''.trans hset) (hmem rfl)

/-- No service is new if there are no more services than before. -/
theorem not_isAdded {before after : π} (h : lib.services after = lib.services before) (i : ι) :
    ¬ IsAdded lib before after i := by
  rintro ⟨s, hs, hs', -⟩
  exact hs (h ▸ hs')

variable {lib} {prefs : π} {interface : Option ι} {userDefinedName : Option String}

theorem ResultMatchesEffect.of_failed {after : π}
    (h : serviceCreate lib prefs interface userDefinedName = (false, after))
    (hsame : lib.services after = lib.services prefs) :
    ResultMatchesEffect lib prefs interface userDefinedName where
  result_iff := by
    rw [h]
    refine iff_of_false Bool.false_ne_true ?_
    rintro ⟨i, -, hadded⟩
    exact not_isAdded lib hsame i hadded
  none_left _ := by rw [h, hsame]

theorem ResultMatchesEffect.of_added {after : π} {i : ι} (hi : i ∈ interface)
    (h : serviceCreate lib prefs interface userDefinedName = (true, after))
    (hadded : IsAdded lib prefs after i) :
    ResultMatchesEffect lib prefs interface userDefinedName where
  result_iff := by
    rw [h]
    exact iff_of_true rfl ⟨i, hi, hadded⟩
  none_left hfalse := by simp [h] at hfalse

theorem not_resultMatchesEffect {after : π}
    (h : serviceCreate lib prefs interface userDefinedName = (true, after))
    (hsame : lib.services after = lib.services prefs) :
    ¬ ResultMatchesEffect lib prefs interface userDefinedName := by
  intro hmatches
  obtain ⟨i, -, hadded⟩ := hmatches.result_iff.mp (by rw [h])
  rw [h] at hadded
  exact not_isAdded lib hsame i hadded

variable (lib prefs interface userDefinedName)

/-- The result is right unless a service lacks just the set. -/
theorem serviceCreate_matches_iff :
    ResultMatchesEffect lib prefs interface userDefinedName ↔
      ¬ LacksSet lib prefs interface userDefinedName := by
  obtain _ | i := interface
  · exact iff_of_true (.of_failed rfl rfl) (by simp [LacksSet])
  cases hname : serviceName lib userDefinedName i with
  | none =>
    exact iff_of_true (.of_failed (by simp [serviceCreate, hname]) rfl) (by simp [LacksSet, hname])
  | some name =>
    rcases hcreate : lib.create prefs i with ⟨_ | s, p⟩
    · have hsame := lib.services_create_none prefs i (by rw [hcreate])
      rw [hcreate] at hsame
      exact iff_of_true (.of_failed (by simp [serviceCreate, hname, hcreate]) hsame)
        (by simp [LacksSet, hname, hcreate])
    have hs : (lib.create prefs i).1 = some s := by rw [hcreate]
    have hnew := lib.create_new prefs i s hs
    have hservices := lib.services_create prefs i s hs
    have hinterface := lib.interfaceOf_create prefs i s hs
    have hcurrent := lib.copyCurrent_create prefs i
    rw [hcreate] at hservices hinterface hcurrent
    simp only at hservices hinterface hcurrent
    have hresult : serviceCreate lib prefs (some i) userDefinedName =
        setUpService lib p s name := by
      simp [serviceCreate, hname, hcreate]
    have hlacks : LacksSet lib prefs (some i) userDefinedName ↔
        Establishes lib p s name ∧ lib.copyCurrent p = none := by
      simp [LacksSet, hname, hcreate, hcurrent]
    -- what was created is removed
    have hremoved : lib.services p \ {s} = lib.services prefs := by
      rw [hservices, Set.insert_sdiff_self_of_notMem hnew]
    rw [hlacks]
    have hsetUp := setUpService_setUp lib p s name
    rw [← hresult] at hsetUp
    cases hr : serviceCreate lib prefs (some i) userDefinedName with | mk ok after
    rw [hr] at hsetUp
    cases hsetUp with
    | failed _ hafter hset =>
      exact iff_of_true (.of_failed hr (hafter.trans hremoved)) fun h => hset h.1 h.2
    | lacksSet _ hafter hestablishes hset =>
      exact iff_of_false (not_resultMatchesEffect hr (hafter.trans hremoved))
        fun h => h ⟨hestablishes, hset⟩
    | added _ currentSet hkept hafter hset hset' hadded =>
      refine iff_of_true (.of_added rfl hr ⟨s, hnew, ?_, hafter.trans hinterface, currentSet, hset',
        hadded⟩) fun h => by simp [hset] at h
      rw [hkept, hservices]
      exact Set.mem_insert s _

end

/-- Numbered services over one interface, and at most one set; every operation that can succeed
does. -/
def numberedServices : ServiceLibrary (Finset ℕ × Option (Finset ℕ)) Unit ℕ Unit where
  services p := p.1
  interfaceOf _ _ := some ()
  setServices p _ := p.2.getD ∅
  copyCurrent p := p.2.map fun _ => ()
  userDefinedName _ := some "Ethernet"
  create p _ := (some (p.1.sup id + 1), insert (p.1.sup id + 1) p.1, p.2)
  setName p _ _ := (true, p)
  establish p _ := (true, p)
  addService p _ s := (p.2.isSome, p.1, p.2.map (insert s))
  remove p s := (p.1.erase s, p.2.map fun members => members.erase s)
  create_new p _ s hs hmem := by
    obtain rfl : p.1.sup id + 1 = s := Option.some.inj hs
    have hle : p.1.sup id + 1 ≤ p.1.sup id := Finset.le_sup (f := id) hmem
    omega
  services_create p _ s hs := by
    obtain rfl : p.1.sup id + 1 = s := Option.some.inj hs
    exact Finset.coe_insert _ _
  interfaceOf_create _ _ _ _ := rfl
  services_create_none _ _ h := nomatch h
  copyCurrent_create _ _ := rfl
  services_setName _ _ _ := rfl
  interfaceOf_setName _ _ _ := rfl
  copyCurrent_setName _ _ _ := rfl
  services_establish _ _ := rfl
  interfaceOf_establish _ _ := rfl
  copyCurrent_establish _ _ := rfl
  mem_addService p _ s h := by
    obtain ⟨members, hmembers⟩ := Option.isSome_iff_exists.mp h
    simp [hmembers]
  services_addService _ _ _ := rfl
  interfaceOf_addService _ _ _ := rfl
  copyCurrent_addService p _ _ := by simp
  services_remove p s := Finset.coe_erase s p.1

/-- Without a set the service is removed, and `TRUE` is returned. -/
theorem not_serviceCreate_matches :
    ¬ ResultMatchesEffect numberedServices (∅, none) (some ()) none := by
  have h : serviceCreate numberedServices (∅, none) (some ()) none = (true, ∅, none) := rfl
  exact not_resultMatchesEffect h rfl

end ConfigdExtra
