import ConfigdExtra.NumericOptions
import Mathlib.Data.List.InsertIdx

/-!
# The order of services

`set service order` moves a service to another place in the service order of the selected set.

* `strtol` — the number at the front of a string.
* `ServiceSet`, `setServiceOrder` — the command.
* `AcceptedOrder`, `setServiceOrder_accepted`, `setServiceOrder_rejected` — what it does with its
  argument.
* `setServiceOrder_moves` — the service is moved, and the others stay as they were.
-/

namespace ConfigdExtra

/-! ## Numbers -/

/-- The integers that are a `long`. -/
def FitsLong (n : ℤ) : Prop := -2 ^ 63 ≤ n ∧ n < 2 ^ 63

instance (n : ℤ) : Decidable (FitsLong n) := inferInstanceAs (Decidable (_ ∧ _))

/-- What `strtol` gives. -/
structure StrtolResult where
  /-- the number -/
  value : ℤ
  /-- what `end` points to -/
  rest : List Char
  /-- is `errno` set? -/
  erange : Bool
  deriving DecidableEq, Repr

/-- `strtol(str, &end, 10)` -/
def strtol (str : String) : StrtolResult :=
  let text := readNumber str
  if text.digits = [] then ⟨0, str.toList, false⟩
  else ⟨max (-2 ^ 63) (min text.value (2 ^ 63 - 1)), text.rest, !decide (FitsLong text.value)⟩

/-! ## The command -/

section

variable {V : Type} [DecidableEq V]

/-- What the command looks at. -/
structure ServiceSet (V : Type) where
  /-- `SCNetworkSetCopyServices` -/
  services : List V
  /-- `SCNetworkSetGetServiceOrder` -/
  order : Option (List V)
  /-- `_prefs_changed` -/
  changed : Bool

/-- The order with the service at another place: `CFArrayGetFirstIndexOfValue` and
`CFArrayRemoveValueAtIndex`, then `CFArrayInsertValueAtIndex` or `CFArrayAppendValue`. -/
def reorder (order : List V) (serviceID : V) (newIndex : ℕ) : List V :=
  let newOrder := order.erase serviceID
  if newIndex ≤ newOrder.length then newOrder.insertIdx (newIndex - 1) serviceID
  else newOrder ++ [serviceID]

/-- `set service order`, with what it prints. `SCNetworkSetSetServiceOrder` stores the order, or
fails with an error. -/
def setServiceOrder (setSetServiceOrder : Except String Unit) (serviceID : V) (s : ServiceSet V) :
    List String → ServiceSet V × String
  | [] => (s, "order not specified\n")
  | str :: _ =>
    let result := strtol str
    if str ≠ "" ∧ result.rest = [] ∧ result.erange = false then
      if 0 < result.value ∧ result.value ≤ s.services.length then
        match setSetServiceOrder with
        | .error message => (s, message ++ "\n")
        | .ok () =>
          ({ s with
              order := some (reorder (s.order.getD []) serviceID result.value.toNat)
              changed := true }, "")
      else (s, "set order to what?\n")
    else (s, "set what?\n")

/-- The argument is accepted as the place `n`: it is a number, and one of the places of the
services. -/
structure AcceptedOrder (s : ServiceSet V) (arg : String) (n : ℕ) : Prop where
  /-- there is a number -/
  digits : (readNumber arg).digits ≠ []
  /-- nothing behind it -/
  rest : (readNumber arg).rest = []
  /-- the number -/
  value : (readNumber arg).value = n
  /-- it is a `long` -/
  fits : FitsLong n
  /-- it is the place of a service -/
  range : 1 ≤ n ∧ n ≤ s.services.length

/-- The order with the service at place `n`, or last. -/
def moved (order : List V) (serviceID : V) (n : ℕ) : List V :=
  let others := order.filter fun id => id ≠ serviceID
  others.insertIdx (min (n - 1) others.length) serviceID

/-! ## What it does -/

theorem strtol_of_fits {arg : String} (hdigits : (readNumber arg).digits ≠ [])
    (hfits : FitsLong (readNumber arg).value) :
    strtol arg = ⟨(readNumber arg).value, (readNumber arg).rest, false⟩ := by
  rw [strtol, if_neg hdigits, decide_eq_true hfits]
  obtain ⟨hlo, hhi⟩ := hfits
  rw [min_eq_left (Int.le_sub_one_of_lt hhi), max_eq_right hlo]
  rfl

omit [DecidableEq V] in
/-- What the command reads of an accepted argument. -/
theorem AcceptedOrder.strtol_eq {s : ServiceSet V} {arg : String} {n : ℕ}
    (h : AcceptedOrder s arg n) : strtol arg = ⟨n, [], false⟩ := by
  have hfits : FitsLong (readNumber arg).value := h.value ▸ h.fits
  rw [strtol_of_fits h.digits hfits, h.value, h.rest]

theorem ne_empty_of_digits {arg : String} (h : (readNumber arg).digits ≠ []) : arg ≠ "" := by
  rintro rfl
  exact h rfl

omit [DecidableEq V] in
/-- What the command accepts. -/
theorem acceptedOrder_of_strtol {s : ServiceSet V} {arg : String} (hne : arg ≠ "")
    (hrest : (strtol arg).rest = []) (herange : (strtol arg).erange = false)
    (hpos : 0 < (strtol arg).value) (hle : (strtol arg).value ≤ s.services.length) :
    AcceptedOrder s arg (strtol arg).value.toNat := by
  have hdigits : (readNumber arg).digits ≠ [] := by
    intro hnil
    rw [strtol, if_pos hnil] at hrest
    exact hne (String.toList_eq_nil_iff.mp hrest)
  have hfits : FitsLong (readNumber arg).value := by
    rw [strtol, if_neg hdigits] at herange
    simpa using herange
  rw [strtol_of_fits hdigits hfits] at hrest hpos hle ⊢
  have hcast : (((readNumber arg).value.toNat : ℕ) : ℤ) = (readNumber arg).value :=
    Int.toNat_of_nonneg hpos.le
  refine ⟨hdigits, hrest, hcast.symm, hcast ▸ hfits, ?_⟩
  change 0 < (readNumber arg).value at hpos
  change (readNumber arg).value ≤ s.services.length at hle
  change 1 ≤ (readNumber arg).value.toNat ∧ (readNumber arg).value.toNat ≤ s.services.length
  omega

/-- An accepted argument moves the service. -/
theorem setServiceOrder_accepted {s : ServiceSet V} {serviceID : V} {arg : String}
    {args : List String} {n : ℕ} (h : AcceptedOrder s arg n) :
    (setServiceOrder (.ok ()) serviceID s (arg :: args)).1 =
      { s with order := some (reorder (s.order.getD []) serviceID n), changed := true } := by
  have hpos : (0 : ℤ) < n ∧ (n : ℤ) ≤ s.services.length := by
    obtain ⟨hlo, hhi⟩ := h.range
    omega
  simp only [setServiceOrder, h.strtol_eq]
  rw [if_pos ⟨ne_empty_of_digits h.digits, trivial, trivial⟩, if_pos hpos]
  rfl

/-- An argument that is not accepted leaves everything as it is. -/
theorem setServiceOrder_rejected {s : ServiceSet V} {serviceID : V} {arg : String}
    {args : List String} {setSetServiceOrder : Except String Unit}
    (h : ∀ n, ¬ AcceptedOrder s arg n) :
    (setServiceOrder setSetServiceOrder serviceID s (arg :: args)).1 = s := by
  simp only [setServiceOrder]
  split
  · rename_i htext
    split
    · rename_i hrange
      exact absurd (acceptedOrder_of_strtol htext.1 htext.2.1 htext.2.2 hrange.1 hrange.2) (h _)
    · rfl
  · rfl

/-! ## Orders -/

theorem filter_ne_insertIdx (l : List V) (i : ℕ) (x : V) :
    (l.insertIdx i x).filter (fun y => y ≠ x) = l.filter fun y => y ≠ x := by
  induction l generalizing i with
  | nil => cases i <;> simp
  | cons y l ih =>
    cases i with
    | zero => simp
    | succ i => simp only [List.insertIdx_succ_cons, List.filter_cons, ih]

/-- The command moves the service to its place, or to the end. -/
theorem reorder_eq_moved {order : List V} (hnodup : order.Nodup) (serviceID : V) {n : ℕ}
    (hn : 1 ≤ n) : reorder order serviceID n = moved order serviceID n := by
  have hothers : order.erase serviceID = order.filter fun id => id ≠ serviceID := by
    rw [hnodup.erase_eq_filter]
    refine List.filter_congr fun id _ => ?_
    by_cases hid : id = serviceID <;> simp [hid]
  rw [reorder, moved, hothers]
  generalize order.filter (fun id => id ≠ serviceID) = others
  split
  · rename_i hle
    rw [min_eq_left (by omega)]
  · rename_i hlt
    rw [min_eq_right (by omega), List.insertIdx_length_self]

/-- The others stay in their order. -/
theorem filter_ne_moved (order : List V) (serviceID : V) (n : ℕ) :
    (moved order serviceID n).filter (fun id => id ≠ serviceID) =
      order.filter fun id => id ≠ serviceID := by
  rw [moved, filter_ne_insertIdx, List.filter_filter]
  simp

theorem nodup_moved {order : List V} (hnodup : order.Nodup) (serviceID : V) (n : ℕ) :
    (moved order serviceID n).Nodup := by
  rw [moved, (List.perm_insertIdx serviceID _ (Nat.min_le_right _ _)).nodup_iff, List.nodup_cons]
  exact ⟨by simp, hnodup.filter _⟩

end

/-- **The service order.** When the order of a set has no duplicates, an accepted argument moves the
service to its place or to the end, all others stay in their order, and there are still no
duplicates. An argument that is not accepted leaves the order as it is. -/
theorem setServiceOrder_moves {V : Type} [DecidableEq V] (s : ServiceSet V) (serviceID : V)
    (arg : String) (args : List String) (hnodup : ∀ order, s.order = some order → order.Nodup) :
    (∀ n, AcceptedOrder s arg n → ∃ order,
      (setServiceOrder (.ok ()) serviceID s (arg :: args)).1.order = some order ∧
        order = moved (s.order.getD []) serviceID n ∧ order.Nodup ∧
        order.filter (fun id => id ≠ serviceID) =
          (s.order.getD []).filter fun id => id ≠ serviceID) ∧
    ((∀ n, ¬ AcceptedOrder s arg n) → ∀ setSetServiceOrder,
      (setServiceOrder setSetServiceOrder serviceID s (arg :: args)).1 = s) := by
  have hnodup' : (s.order.getD []).Nodup := by
    cases horder : s.order with
    | none => exact List.nodup_nil
    | some order => exact hnodup order horder
  refine ⟨fun n hn => ⟨moved (s.order.getD []) serviceID n, ?_, rfl, nodup_moved hnodup' _ _,
    filter_ne_moved _ _ _⟩, fun h _ => setServiceOrder_rejected h⟩
  rw [setServiceOrder_accepted hn, reorder_eq_moved hnodup' _ hn.range.1]

/-- A service that is not in the order, and an order with an identifier that stands for no service
of the set. -/
theorem setServiceOrder_moves_stale :
    ∃ order, (setServiceOrder (.ok ()) "B" ⟨["A", "B"], some ["gone", "A"], false⟩ ["2"]).1.order =
      some order ∧ order = moved ["gone", "A"] "B" 2 ∧ order.Nodup ∧
      order.filter (fun id => id ≠ "B") = ["gone", "A"].filter fun id => id ≠ "B" :=
  (setServiceOrder_moves ⟨["A", "B"], some ["gone", "A"], false⟩ "B" "2" [] (by decide)).1 2
    ⟨by decide, by decide, by decide, by decide, by decide⟩

end ConfigdExtra
