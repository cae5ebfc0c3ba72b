import Mathlib

/-!
# Property list objects

Objects whose kind is only known at run time, and what goes wrong when one is used as something
that it is not.

* `PropertyList`, `PropertyKind`, `isA` — the objects, their kinds, and the check of a kind.
* `Fault`, `Checked` — the ways to misuse an object, and computations that may.
* `Returns` — a computation does not misuse anything, and what it returns.
-/

namespace ConfigdExtra

/-! ## Objects -/

/-- `CFPropertyListRef` -/
inductive PropertyList
  | string (s : String)
  | integer (n : ℤ)
  /-- a floating-point number; `none` is an infinity or not a number -/
  | real (value : Option ℚ)
  | boolean (b : Bool)
  /-- the seconds since the reference date -/
  | date (time : Option ℚ)
  | data (bytes : List UInt8)
  | array (values : List PropertyList)
  | dictionary (entries : List (String × PropertyList))

/-- `CFGetTypeID` of an object -/
inductive PropertyKind
  | string
  | number
  | boolean
  | date
  | data
  | array
  | dictionary
deriving DecidableEq, Repr

namespace PropertyList

/-- The kind of an object. -/
def kind : PropertyList → PropertyKind
  | string _ => .string
  | integer _ => .number
  | real _ => .number
  | boolean _ => .boolean
  | date _ => .date
  | data _ => .data
  | array _ => .array
  | dictionary _ => .dictionary

/-- The string that an object is, if any. -/
def string? : PropertyList → Option String
  | string s => some s
  | _ => none

/-- The Boolean that an object is, if any. -/
def boolean? : PropertyList → Option Bool
  | boolean b => some b
  | _ => none

/-- The entries of an object, if it is a dictionary. -/
def entries? : PropertyList → Option (List (String × PropertyList))
  | dictionary entries => some entries
  | _ => none

/-- `CFNumberGetValue(…, kCFNumberIntType, …)`: the value of a number, or `none` if it is out of
range, or if something is lost. -/
def intValue? : PropertyList → Option ℤ
  | integer n => if -(2 ^ 31) ≤ n ∧ n < 2 ^ 31 then some n else none
  | real (some q) => if q.den = 1 ∧ -(2 ^ 31) ≤ q.num ∧ q.num < 2 ^ 31 then some q.num else none
  | _ => none

end PropertyList

/-- `isA_CFString` and so on: an object if it is of the kind, or else `NULL` -/
def isA (kind : PropertyKind) (value : Option PropertyList) : Option PropertyList :=
  value.filter fun v => v.kind = kind

/-- A value that is missing or of a kind. -/
def OfKind (kind : PropertyKind) (value : Option PropertyList) : Prop :=
  ∀ v ∈ value, v.kind = kind

instance (kind : PropertyKind) (value : Option PropertyList) : Decidable (OfKind kind value) :=
  inferInstanceAs (Decidable (∀ v ∈ value, v.kind = kind))

@[simp] theorem ofKind_none (kind : PropertyKind) : OfKind kind none := nofun

@[simp] theorem ofKind_some {kind : PropertyKind} {v : PropertyList} :
    OfKind kind (some v) ↔ v.kind = kind := by
  simp [OfKind]

theorem ofKind_isA (kind : PropertyKind) (value : Option PropertyList) :
    OfKind kind (isA kind value) := by
  intro v hv
  simpa using (Option.filter_eq_some_iff.mp hv).2

/-- What passes the check for strings is a string. -/
theorem isA_string (value : Option PropertyList) :
    isA .string value = (value.bind PropertyList.string?).map .string := by
  obtain _ | v := value
  · rfl
  · cases v <;> rfl

/-- A missing value or a string. -/
theorem ofKind_string {value : Option PropertyList} :
    OfKind .string value ↔ value = (value.bind PropertyList.string?).map .string := by
  obtain _ | v := value
  · simp
  · cases v <;> simp [PropertyList.kind, PropertyList.string?]

/-! ## Misuse -/

/-- What an operation finds in the place of what it needs. -/
inductive Fault
  /-- an object that is not a string -/
  | notString
  /-- no string -/
  | nullString
  /-- no interface -/
  | nullInterface
  /-- a number that was not converted -/
  | notConverted
deriving DecidableEq, Repr

/-- A computation that stops where it misuses an object. -/
abbrev Checked : Type → Type := Except Fault

/-- The argument of an operation on strings. -/
def stringOf : Option PropertyList → Checked String
  | none => .error .nullString
  | some (.string s) => .ok s
  | some _ => .error .notString

/-- `(value != NULL) ? CFStringCreateCopy(NULL, value) : NULL` -/
def copyString : Option PropertyList → Checked (Option String)
  | none => .ok none
  | some v => some <$> stringOf (some v)

/-! ## What a computation returns -/

section

variable {ε α β : Type}

/-- A computation comes to its end, with such a result. -/
def Returns (m : Except ε α) (P : α → Prop) : Prop := ∃ a, m = .ok a ∧ P a

variable {P Q : α → Prop}

@[simp] theorem returns_ok {a : α} : Returns (.ok a : Except ε α) P ↔ P a := by
  simp [Returns]

@[simp] theorem returns_pure {a : α} : Returns (pure a : Except ε α) P ↔ P a := returns_ok

@[simp] theorem not_returns_error {e : ε} : ¬ Returns (.error e) P := by
  simp [Returns]

@[simp] theorem returns_bind {m : Except ε α} {f : α → Except ε β} {P : β → Prop} :
    Returns (m >>= f) P ↔ Returns m fun a => Returns (f a) P := by
  cases m with
  | error e => simp [Returns, bind, Except.bind]
  | ok a => simp [Returns, bind, Except.bind]

@[simp] theorem returns_map {m : Except ε α} {f : α → β} {P : β → Prop} :
    Returns (f <$> m) P ↔ Returns m fun a => P (f a) := by
  cases m <;> simp [Returns, Functor.map, Except.map]

theorem Returns.mono {m : Except ε α} (h : Returns m P) (hPQ : ∀ a, P a → Q a) : Returns m Q := by
  obtain ⟨a, ha, hP⟩ := h
  exact ⟨a, ha, hPQ a hP⟩

/-- Only strings can be operated on. -/
@[simp] theorem returns_stringOf {P : String → Prop} {value : Option PropertyList} :
    Returns (stringOf value) P ↔ ∃ s, value = some (.string s) ∧ P s := by
  obtain _ | v := value
  · simp [stringOf]
  · cases v <;> simp [stringOf]

/-- Only strings can be copied, and `NULL`. -/
@[simp] theorem returns_copyString {P : Option String → Prop} {value : Option PropertyList} :
    Returns (copyString value) P ↔
      OfKind .string value ∧ P (value.bind PropertyList.string?) := by
  obtain _ | v := value
  · simp [copyString]
  · cases v <;> simp [copyString, PropertyList.kind, PropertyList.string?]

end

end ConfigdExtra
