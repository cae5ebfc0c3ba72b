import Mathlib.Data.List.Basic
import Mathlib.Order.Basic
import Mathlib.Order.Lattice

/-!
# Renaming a service in its sets

A set names its services twice: in its service order, and by links to them. When a service gets
another ID, `replaceServiceID` goes through the sets and replaces the ID in both places.

* `SetsLibrary` — the service order and the links of sets, and the functions that write them.
* `replaceServiceID`, `replaceInSets` — the function, and its application to all sets.
* `SetView.rename`, `view_replaceInSets` — what it does to what can be seen of the sets.
* `RenamesIntact` — the sets are kept intact, whether or not the writes succeed.
* `renamesIntact_iff` — they are if and only if no link is removed whose replacement then fails.
-/

namespace ConfigdExtra.ServiceRename

variable {π γ κ l : Type}

/-! ## Sets -/

/-- The service order and the links of sets `γ` in preferences `π`, where `κ` are the service IDs
and `l` the paths that links lead to. -/
structure SetsLibrary (π γ κ l : Type) where
  /-- `SCNetworkSetGetServiceOrder`, if it is an array -/
  serviceOrder : π → γ → Option (List κ)
  /-- `SCPreferencesPathGetLink` at `SCPreferencesPathKeyCreateSetNetworkServiceEntity` -/
  link : π → γ → κ → Option l
  /-- `SCPreferencesPathKeyCreateNetworkServiceEntity` -/
  servicePath : κ → l
  /-- what `SCNetworkSetSetServiceOrder` leaves when it succeeds -/
  setServiceOrder : π → γ → List κ → π
  /-- what `SCPreferencesPathRemoveValue` leaves when it succeeds -/
  removeLink : π → γ → κ → π
  /-- what `SCPreferencesPathSetLink` leaves when it succeeds -/
  setLink : π → γ → κ → l → π

/-- What can be seen of a set. -/
@[ext] structure SetView (κ l : Type) where
  /-- its service order -/
  order : Option (List κ)
  /-- its links, by the ID of the service -/
  link : κ → Option l

section

variable (lib : SetsLibrary π γ κ l)

/-- What can be seen of a set in the preferences. -/
def SetsLibrary.view (prefs : π) (set : γ) : SetView κ l :=
  ⟨lib.serviceOrder prefs set, lib.link prefs set⟩

variable [DecidableEq γ] [DecidableEq κ]

/-- Each function writes what it is for, and nothing else of any set. -/
structure SetsLibrary.WritesOne : Prop where
  setServiceOrder : ∀ prefs set order, lib.view (lib.setServiceOrder prefs set order) =
    Function.update (lib.view prefs) set { lib.view prefs set with order := some order }
  removeLink : ∀ prefs set id, lib.view (lib.removeLink prefs set id) =
    Function.update (lib.view prefs) set
      { lib.view prefs set with link := Function.update (lib.link prefs set) id none }
  setLink : ∀ prefs set id path, lib.view (lib.setLink prefs set id path) =
    Function.update (lib.view prefs) set
      { lib.view prefs set with link := Function.update (lib.link prefs set) id (some path) }

end

/-! ## The function -/

/-- `serviceContext` -/
structure ServiceContext (κ : Type) where
  oldServiceID : κ
  newServiceID : κ

/-- Which of the writes to a set succeed. One that fails leaves the preferences as they are. -/
structure WriteOutcomes where
  /-- `SCNetworkSetSetServiceOrder` -/
  order : Bool
  /-- `SCPreferencesPathRemoveValue` -/
  remove : Bool
  /-- `SCPreferencesPathSetLink` -/
  create : Bool
  deriving DecidableEq

section

variable [DecidableEq κ] (lib : SetsLibrary π γ κ l) (context : ServiceContext κ)

/-- The loop over the mutable copy of the service order. -/
def replaceInOrder (serviceOrder : List κ) : List κ :=
  (List.range serviceOrder.length).foldl (fun newServiceOrder i =>
    if newServiceOrder[i]? = some context.oldServiceID then
      newServiceOrder.set i context.newServiceID
    else newServiceOrder) serviceOrder

/-- The first half of `replaceServiceID`: the service order -/
def updateServiceOrder (ok : WriteOutcomes) (prefs : π) (set : γ) : π :=
  match lib.serviceOrder prefs set with
  | none => prefs
  | some serviceOrder =>
    if context.oldServiceID ∈ serviceOrder then
      if ok.order then lib.setServiceOrder prefs set (replaceInOrder context serviceOrder)
      else prefs
    else prefs

/-- The second half: the link -/
def updateLink (ok : WriteOutcomes) (prefs : π) (set : γ) : π :=
  match lib.link prefs set context.oldServiceID with
  | none => prefs
  | some _ =>
    let prefs := if ok.remove then lib.removeLink prefs set context.oldServiceID else prefs
    if ok.create then
      lib.setLink prefs set context.newServiceID (lib.servicePath context.newServiceID)
    else prefs

/-- `replaceServiceID` -/
def replaceServiceID (ok : WriteOutcomes) (prefs : π) (set : γ) : π :=
  updateLink lib context ok (updateServiceOrder lib context ok prefs set) set

/-- `CFArrayApplyFunction(sets, …, replaceServiceID, &context)` -/
def replaceInSets (ok : γ → WriteOutcomes) (sets : List γ) (prefs : π) : π :=
  sets.foldl (fun prefs set => replaceServiceID lib context (ok set) prefs set) prefs

/-! ## What is asked of it -/

/-- The new ID does not occur in a set. -/
structure SetView.Fresh (v : SetView κ l) : Prop where
  order : ∀ serviceOrder ∈ v.order, context.newServiceID ∉ serviceOrder
  link : v.link context.newServiceID = none

/-- A service order with the new ID in each place of the old one. -/
def renamedOrder (serviceOrder : List κ) : List κ :=
  serviceOrder.map fun id => if id = context.oldServiceID then context.newServiceID else id

/-- In a set that was `v` and is `v'`, the service is renamed and all else is unchanged. -/
structure RenamedIn (v v' : SetView κ l) : Prop where
  /-- in place, in the service order -/
  order : v'.order = v.order.map (renamedOrder context)
  /-- a link to the new ID, if there was one to the old one -/
  link_new : v'.link context.newServiceID =
    (v.link context.oldServiceID).map fun _ => lib.servicePath context.newServiceID
  /-- no link to the old ID -/
  link_old : v'.link context.oldServiceID = none
  /-- the other links -/
  link_other : ∀ id, id ≠ context.oldServiceID → id ≠ context.newServiceID → v'.link id = v.link id

/-- The set links to the service under one of the two IDs. -/
def SetView.Links (v : SetView κ l) : Prop :=
  (v.link context.oldServiceID).isSome ∨ (v.link context.newServiceID).isSome

/-- Renaming keeps the sets intact. -/
structure RenamesIntact (ok : γ → WriteOutcomes) (sets : List γ) (prefs : π) : Prop where
  /-- if all writes succeed, the service is renamed in all sets -/
  succeeding : (∀ set ∈ sets, ok set = ⟨true, true, true⟩) → ∀ set ∈ sets,
    RenamedIn lib context (lib.view prefs set)
      (lib.view (replaceInSets lib context ok sets prefs) set)
  /-- no other sets are touched -/
  elsewhere : ∀ set ∉ sets,
    lib.view (replaceInSets lib context ok sets prefs) set = lib.view prefs set
  /-- if the new link cannot be created, the set still links to the service -/
  failing : ∀ set ∈ sets, (ok set).create = false →
    (lib.link prefs set context.oldServiceID).isSome →
      (lib.view (replaceInSets lib context ok sets prefs) set).Links context

end

/-! ## What it does -/

/-- The loop replaces in place. -/
theorem replaceInOrder_eq [DecidableEq κ] (context : ServiceContext κ) (serviceOrder : List κ) :
    replaceInOrder context serviceOrder = renamedOrder context serviceOrder := by
  have hprefix : ∀ n ≤ serviceOrder.length,
      (List.range n).foldl (fun newServiceOrder i =>
        if newServiceOrder[i]? = some context.oldServiceID then
          newServiceOrder.set i context.newServiceID
        else newServiceOrder) serviceOrder =
      renamedOrder context (serviceOrder.take n) ++ serviceOrder.drop n := by
    intro n hn
    induction n with
    | zero => rfl
    | succ n ih =>
      have hlt : n < serviceOrder.length := hn
      have hlen : (renamedOrder context (serviceOrder.take n)).length = n := by
        rw [renamedOrder, List.length_map, List.length_take, min_eq_left hlt.le]
      rw [List.range_succ, List.foldl_concat, ih hlt.le, List.drop_eq_getElem_cons hlt,
        List.take_succ_eq_append_getElem hlt]
      have hget : (renamedOrder context (serviceOrder.take n) ++
          serviceOrder[n] :: serviceOrder.drop (n + 1))[n]? = some serviceOrder[n] := by
        rw [List.getElem?_append_right hlen.le, hlen, Nat.sub_self]
        rfl
      have hnext : renamedOrder context (serviceOrder.take n ++ [serviceOrder[n]]) =
          renamedOrder context (serviceOrder.take n) ++
            [if serviceOrder[n] = context.oldServiceID then context.newServiceID
              else serviceOrder[n]] := List.map_append
      rw [hget, hnext, List.append_assoc, List.singleton_append]
      by_cases hold : serviceOrder[n] = context.oldServiceID
      · rw [if_pos (congrArg some hold), if_pos hold, List.set_append_right _ _ hlen.le, hlen,
          Nat.sub_self]
        rfl
      · rw [if_neg fun h => hold (Option.some.inj h), if_neg hold]
  have hall := hprefix serviceOrder.length le_rfl
  rw [List.take_length, List.drop_length, List.append_nil] at hall
  exact hall

section

variable [DecidableEq κ] (lib : SetsLibrary π γ κ l) (context : ServiceContext κ)

/-- A set after `replaceServiceID`. -/
def SetView.rename (ok : WriteOutcomes) (v : SetView κ l) : SetView κ l where
  order := if ok.order then v.order.map (renamedOrder context) else v.order
  link :=
    if (v.link context.oldServiceID).isSome then
      let removed := if ok.remove then Function.update v.link context.oldServiceID none else v.link
      if ok.create then
        Function.update removed context.newServiceID (some (lib.servicePath context.newServiceID))
      else removed
    else v.link

variable {lib context}

/-- A service order without the old ID is left as it is. -/
theorem renamedOrder_of_notMem {serviceOrder : List κ}
    (h : context.oldServiceID ∉ serviceOrder) :
    renamedOrder context serviceOrder = serviceOrder := by
  rw [renamedOrder, List.map_congr_left (g := id) fun id hid => ?_, List.map_id]
  rw [if_neg, id_eq]
  rintro rfl
  exact h hid

/-- Nothing of the old ID is left in a service order. -/
theorem renamedOrder_renamedOrder (serviceOrder : List κ) :
    renamedOrder context (renamedOrder context serviceOrder) =
      renamedOrder context serviceOrder := by
  rw [renamedOrder, renamedOrder, List.map_map]
  refine List.map_congr_left fun id _ => ?_
  by_cases hid : id = context.oldServiceID
  · simp [hid]
  · simp [hid]

/-! ### One set -/

section

variable [DecidableEq γ] (hlib : lib.WritesOne) (ok : WriteOutcomes) (prefs : π) (set : γ)

include hlib

theorem view_updateServiceOrder : lib.view (updateServiceOrder lib context ok prefs set) =
    Function.update (lib.view prefs) set { lib.view prefs set with
      order := if ok.order then (lib.serviceOrder prefs set).map (renamedOrder context)
        else lib.serviceOrder prefs set } := by
  have hsame : Function.update (lib.view prefs) set
      { lib.view prefs set with order := lib.serviceOrder prefs set } = lib.view prefs :=
    Function.update_eq_self set (lib.view prefs)
  unfold updateServiceOrder
  cases horder : lib.serviceOrder prefs set with
  | none =>
    rw [horder] at hsame
    simpa using hsame.symm
  | some serviceOrder =>
    rw [horder] at hsame
    simp only [Option.map_some]
    by_cases hmem : context.oldServiceID ∈ serviceOrder
    · rw [if_pos hmem]
      by_cases hok : ok.order = true
      · rw [if_pos hok, if_pos hok, hlib.setServiceOrder, replaceInOrder_eq]
      · rw [if_neg hok, if_neg hok, hsame]
    · rw [if_neg hmem, renamedOrder_of_notMem hmem, ite_self, hsame]

theorem view_updateLink : lib.view (updateLink lib context ok prefs set) =
    Function.update (lib.view prefs) set { lib.view prefs set with
      link := (SetView.rename lib context ok (lib.view prefs set)).link } := by
  have hsame : Function.update (lib.view prefs) set
      { lib.view prefs set with link := lib.link prefs set } = lib.view prefs :=
    Function.update_eq_self set (lib.view prefs)
  unfold updateLink
  cases hlink : lib.link prefs set context.oldServiceID with
  | none =>
    have hrename : (SetView.rename lib context ok (lib.view prefs set)).link =
        lib.link prefs set := if_neg (by simp [SetsLibrary.view, hlink])
    rw [hrename, hsame]
  | some path =>
    have hrename : (SetView.rename lib context ok (lib.view prefs set)).link =
        let removed := if ok.remove then
          Function.update (lib.link prefs set) context.oldServiceID none else lib.link prefs set
        if ok.create then Function.update removed context.newServiceID
          (some (lib.servicePath context.newServiceID)) else removed :=
      if_pos (by simp [SetsLibrary.view, hlink])
    rw [hrename]
    simp only
    have hremoved : lib.view (if ok.remove then
          lib.removeLink prefs set context.oldServiceID else prefs) =
        Function.update (lib.view prefs) set { lib.view prefs set with
          link := if ok.remove then
            Function.update (lib.link prefs set) context.oldServiceID none
            else lib.link prefs set } := by
      by_cases hok : ok.remove = true
      · rw [if_pos hok, if_pos hok, hlib.removeLink]
      · rw [if_neg hok, if_neg hok, hsame]
    generalize (if ok.remove then lib.removeLink prefs set context.oldServiceID else prefs) =
      prefs' at hremoved
    by_cases hok : ok.create = true
    · have hlink' : lib.link prefs' set = (lib.view prefs' set).link := rfl
      rw [if_pos hok, if_pos hok, hlib.setLink, hlink', hremoved, Function.update_idem,
        Function.update_self]
    · rw [if_neg hok, if_neg hok, hremoved]

/-- **What `replaceServiceID` does** to what can be seen of the sets. -/
theorem view_replaceServiceID : lib.view (replaceServiceID lib context ok prefs set) =
    Function.update (lib.view prefs) set
      (SetView.rename lib context ok (lib.view prefs set)) := by
  rw [replaceServiceID, view_updateLink hlib, view_updateServiceOrder hlib, Function.update_idem,
    Function.update_self]
  rfl

end

/-! ### All sets -/

/-- The links of a set without a link to the old ID. -/
theorem SetView.rename_link_of_none {v : SetView κ l} (ok : WriteOutcomes)
    (h : v.link context.oldServiceID = none) : (rename lib context ok v).link = v.link :=
  if_neg (by simp [h])

/-- The links of a set with one. -/
theorem SetView.rename_link_of_isSome {v : SetView κ l} (ok : WriteOutcomes)
    (h : (v.link context.oldServiceID).isSome) : (rename lib context ok v).link =
      let removed := if ok.remove then Function.update v.link context.oldServiceID none else v.link
      if ok.create then
        Function.update removed context.newServiceID (some (lib.servicePath context.newServiceID))
      else removed := if_pos h

/-- A link to the old ID is there only when it could not be removed. -/
theorem SetView.rename_link_old {v : SetView κ l} (ok : WriteOutcomes)
    (h : (v.link context.oldServiceID).isSome)
    (hne : context.oldServiceID ≠ context.newServiceID) :
    (rename lib context ok v).link context.oldServiceID =
      if ok.remove then none else v.link context.oldServiceID := by
  rw [rename_link_of_isSome ok h]
  cases ok.create with
  | false => cases ok.remove <;> simp
  | true => cases ok.remove <;> simp [Function.update_of_ne hne]

/-- A link to the new ID is there only when it could be created. -/
theorem SetView.rename_link_new {v : SetView κ l} (ok : WriteOutcomes)
    (h : (v.link context.oldServiceID).isSome)
    (hne : context.oldServiceID ≠ context.newServiceID) :
    (rename lib context ok v).link context.newServiceID =
      if ok.create then some (lib.servicePath context.newServiceID)
      else v.link context.newServiceID := by
  rw [rename_link_of_isSome ok h]
  cases ok.create with
  | false => cases ok.remove <;> simp [Function.update_of_ne hne.symm]
  | true => simp

omit [DecidableEq κ] in
/-- Where the new ID does not occur, a set with a link to the old one is to be changed. -/
theorem SetView.Fresh.ne {v : SetView κ l} (hfresh : v.Fresh context)
    (h : (v.link context.oldServiceID).isSome) : context.oldServiceID ≠ context.newServiceID := by
  intro hsame
  rw [hsame, hfresh.link] at h
  cases h

/-- Applying `replaceServiceID` to a set a second time does nothing. -/
theorem SetView.Fresh.rename_rename {v : SetView κ l} (hfresh : v.Fresh context)
    (ok : WriteOutcomes) :
    rename lib context ok (rename lib context ok v) = rename lib context ok v := by
  refine SetView.ext ?_ ?_
  · have horder : v.order.map (renamedOrder context) =
        (v.order.map (renamedOrder context)).map (renamedOrder context) := by
      rw [Option.map_map]
      exact congrFun (congrArg _ (funext fun o => (renamedOrder_renamedOrder o).symm)) _
    cases hok : ok.order with
    | false => simp only [rename, hok, Bool.false_eq_true, if_false]
    | true => simp only [rename, hok, if_true, ← horder]
  · by_cases h : (v.link context.oldServiceID).isSome
    · have hne := hfresh.ne h
      have hold : (rename lib context ok v).link context.oldServiceID = _ :=
        rename_link_old ok h hne
      cases hremove : ok.remove with
      | true =>
        rw [hremove, if_pos rfl] at hold
        exact rename_link_of_none ok hold
      | false =>
        rw [hremove, if_neg Bool.false_ne_true] at hold
        rw [rename_link_of_isSome ok (hold ▸ h), rename_link_of_isSome ok h]
        simp only [hremove, Bool.false_eq_true, if_false]
        cases ok.create with
        | false => rfl
        | true => simp
    · have hnone := Option.not_isSome_iff_eq_none.mp h
      exact rename_link_of_none ok (by rw [rename_link_of_none ok hnone, hnone])

/-- **What the sets look like in the end.** Each has been treated once. -/
theorem view_replaceInSets [DecidableEq γ] (hlib : lib.WritesOne) (ok : γ → WriteOutcomes)
    (sets : List γ) (prefs : π)
    (htwice : ∀ set ∈ sets, (lib.view prefs set).rename lib context (ok set) =
      ((lib.view prefs set).rename lib context (ok set)).rename lib context (ok set)) (set : γ) :
    lib.view (replaceInSets lib context ok sets prefs) set =
      if set ∈ sets then (lib.view prefs set).rename lib context (ok set)
      else lib.view prefs set := by
  induction sets generalizing prefs with
  | nil => rfl
  | cons first sets ih =>
    have hstep : lib.view (replaceServiceID lib context (ok first) prefs first) = _ :=
      view_replaceServiceID hlib (ok first) prefs first
    have hfirst := htwice first List.mem_cons_self
    rw [replaceInSets, List.foldl_cons, ← replaceInSets, ih, hstep]
    · by_cases heq : set = first
      · subst heq
        rw [Function.update_self, ← hfirst, ite_self, if_pos List.mem_cons_self]
      · simp only [Function.update_of_ne heq, List.mem_cons, heq, false_or]
    · intro other hother
      rw [hstep]
      by_cases heq : other = first
      · subst heq
        rw [Function.update_self, ← hfirst]
        exact hfirst
      · rw [Function.update_of_ne heq]
        exact htwice other (List.mem_cons_of_mem _ hother)

/-- When all writes succeed, a set has its service renamed. -/
theorem SetView.Fresh.renamedIn {v : SetView κ l} (hfresh : v.Fresh context) :
    RenamedIn lib context v (rename lib context ⟨true, true, true⟩ v) := by
  by_cases h : (v.link context.oldServiceID).isSome
  · have hne := hfresh.ne h
    obtain ⟨path, hpath⟩ := Option.isSome_iff_exists.mp h
    refine ⟨rfl, ?_, ?_, fun id hold hnew => ?_⟩
    · rw [rename_link_new _ h hne, hpath]
      rfl
    · rw [rename_link_old _ h hne]
      rfl
    · rw [rename_link_of_isSome _ h]
      simp [Function.update_of_ne hold, Function.update_of_ne hnew]
  · have hnone := Option.not_isSome_iff_eq_none.mp h
    have hlink : (rename lib context ⟨true, true, true⟩ v).link = v.link :=
      rename_link_of_none ⟨true, true, true⟩ hnone
    refine ⟨rfl, ?_, ?_, fun id _ _ => ?_⟩
    · rw [hlink, hfresh.link, hnone]
      rfl
    · rw [hlink, hnone]
    · rw [hlink]

/-- A set whose new link could not be created is still linked to the service if and only if the old
link could not be removed. -/
theorem SetView.Fresh.links_rename_iff {v : SetView κ l} (hfresh : v.Fresh context)
    {ok : WriteOutcomes} (h : (v.link context.oldServiceID).isSome) (hcreate : ok.create = false) :
    (rename lib context ok v).Links context ↔ ok.remove = false := by
  have hne := hfresh.ne h
  rw [Links, rename_link_old ok h hne, rename_link_new ok h hne, hcreate, hfresh.link]
  cases ok.remove with
  | false => simp [h]
  | true => simp

end

/-- **Renaming a service.** In sets where the new ID does not occur, the sets are kept intact if and
only if in no set with a link to the service the old link is removed and the new one then cannot be
created. -/
theorem renamesIntact_iff {π γ κ l : Type} [DecidableEq γ] [DecidableEq κ]
    (lib : SetsLibrary π γ κ l) (hlib : lib.WritesOne) (context : ServiceContext κ)
    (ok : γ → WriteOutcomes) (sets : List γ) (prefs : π)
    (hfresh : ∀ set ∈ sets, (lib.view prefs set).Fresh context) :
    RenamesIntact lib context ok sets prefs ↔
      ∀ set ∈ sets, (lib.link prefs set context.oldServiceID).isSome →
        (ok set).create = false → (ok set).remove = false := by
  have hview := view_replaceInSets hlib ok sets prefs
    fun set hset => ((hfresh set hset).rename_rename (ok set)).symm
  have hlinks : ∀ set ∈ sets, (lib.link prefs set context.oldServiceID).isSome →
      (ok set).create = false →
      ((lib.view (replaceInSets lib context ok sets prefs) set).Links context ↔
        (ok set).remove = false) := by
    intro set hset hlink hcreate
    rw [hview, if_pos hset]
    exact (hfresh set hset).links_rename_iff hlink hcreate
  constructor
  · intro h set hset hlink hcreate
    exact (hlinks set hset hlink hcreate).mp (h.failing set hset hcreate hlink)
  · intro h
    refine ⟨fun hok set hset => ?_, fun set hset => ?_, fun set hset hcreate hlink => ?_⟩
    · rw [hview, if_pos hset, hok set hset]
      exact (hfresh set hset).renamedIn
    · rw [hview, if_neg hset]
    · exact (hlinks set hset hlink hcreate).mpr (h set hset hlink hcreate)

/-! ## Sets in memory -/

/-- Sets whose service order and links are just what was written. -/
def setsInMemory : SetsLibrary (ℕ → SetView String String) ℕ String String where
  serviceOrder prefs set := (prefs set).order
  link prefs set := (prefs set).link
  servicePath id := "/NetworkServices/" ++ id
  setServiceOrder prefs set order :=
    Function.update prefs set { prefs set with order := some order }
  removeLink prefs set id :=
    Function.update prefs set { prefs set with link := Function.update (prefs set).link id none }
  setLink prefs set id path := Function.update prefs set
    { prefs set with link := Function.update (prefs set).link id (some path) }

theorem setsInMemory_writesOne : setsInMemory.WritesOne :=
  ⟨fun _ _ _ => rfl, fun _ _ _ => rfl, fun _ _ _ _ => rfl⟩

/-- Each set has the services `A` and `B`. -/
def setsOfTwo : ℕ → SetView String String := fun _ =>
  ⟨some ["A", "B"], fun id =>
    if id ∈ ["A", "B"] then some ("/NetworkServices/" ++ id) else none⟩

theorem setsOfTwo_fresh (set : ℕ) : (setsOfTwo set).Fresh ⟨"A", "C"⟩ :=
  ⟨by simp [setsOfTwo], by simp [setsOfTwo]⟩

theorem renamesIntact_setsOfTwo : RenamesIntact setsInMemory ⟨"A", "C"⟩
    (fun _ => ⟨true, true, true⟩) [1, 2] setsOfTwo :=
  (renamesIntact_iff setsInMemory setsInMemory_writesOne ⟨"A", "C"⟩ (fun _ => ⟨true, true, true⟩)
    [1, 2] setsOfTwo fun set _ => setsOfTwo_fresh set).mpr fun _ _ _ hcreate => nomatch hcreate

/-- The old link is removed and the new one is not created. -/
theorem setsOfTwo_not_renamesIntact :
    ¬ ∀ (ok : ℕ → WriteOutcomes) (sets : List ℕ) (prefs : ℕ → SetView String String),
      (∀ set ∈ sets, (prefs set).Fresh ⟨"A", "C"⟩) →
        RenamesIntact setsInMemory ⟨"A", "C"⟩ ok sets prefs := by
  intro h
  have hlinks := (h (fun _ => ⟨true, true, false⟩) [1] setsOfTwo
    fun set _ => setsOfTwo_fresh set).failing 1 (by decide) rfl (by decide)
  revert hlinks
  simp [SetView.Links, SetsLibrary.view, replaceInSets, replaceServiceID, updateLink,
    updateServiceOrder, setsInMemory, setsOfTwo]

end ConfigdExtra.ServiceRename
