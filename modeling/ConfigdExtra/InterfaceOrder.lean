import ConfigdExtra.SortedTies
import Mathlib

/-!
# The order of interfaces

Interfaces are sorted by several criteria, one after the other.

* `strtoq`, `splitPath`, `comparePaths` — paths, by their components.
* `networkInterfaceCompare` — all criteria.
* `IsTotalPreorder` — what sorting asks of a comparison.
* `Sortable` — the sets of interfaces for which the comparison is one, by their fields.
* `networkInterfaceCompare_iff` — no others.
-/

namespace ConfigdExtra

open Std (TransCmp OrientedCmp OrientedOrd ReflCmp)
open SortedTies

/-! ## Numbers -/

/-- `isspace` -/
def isCSpace (c : Char) : Bool :=
  c = ' ' ∨ c = '\t' ∨ c = '\n' ∨ c.toNat = 11 ∨ c.toNat = 12 ∨ c = '\r'

/-- The value of a hexadecimal digit -/
def hexDigit? (c : Char) : Option Nat :=
  if '0' ≤ c ∧ c ≤ '9' then some (c.toNat - '0'.toNat)
  else if 'a' ≤ c ∧ c ≤ 'f' then some (c.toNat - 'a'.toNat + 10)
  else if 'A' ≤ c ∧ c ≤ 'F' then some (c.toNat - 'A'.toNat + 10)
  else none

/-- The minus sign, and what is behind the sign. -/
def splitSign : List Char → Bool × List Char
  | '-' :: str => (true, str)
  | '+' :: str => (false, str)
  | str => (false, str)

/-- What is behind `0x`, if a digit is. -/
def dropHexPrefix : List Char → List Char
  | '0' :: x :: d :: str =>
    if (x = 'x' ∨ x = 'X') ∧ (hexDigit? d).isSome then d :: str else '0' :: x :: d :: str
  | str => str

/-- `strtoq(str, &end, 16)`, if the string is not empty, the number ends where it ends and `errno`
is not set. -/
def strtoq (str : List Char) : Option Int :=
  let (negative, str) := splitSign (str.dropWhile isCSpace)
  let str := dropHexPrefix str
  match str.mapM hexDigit? with
  | none => none
  | some [] => none
  | some digits =>
    let n : Int := digits.foldl (fun n d => 16 * n + d) 0
    let q := if negative then -n else n
    if -2 ^ 63 ≤ q ∧ q < 2 ^ 63 then some q else none

/-- The value of a component, if it is a number. -/
def number? (e : String) : Option Int := strtoq (e.toList.takeWhile fun c => c ≠ Char.ofNat 0)

/-! ## Paths -/

/-- `split_path`, which turns every `@` into `/` and splits the path at `/`. -/
def splitPath (path : String) : List String :=
  ((path.toList.map fun c => if c = '@' then '/' else c).splitOn '/').map String.ofList

/-- `CFStringCompare` without options -/
def cfStringCompare (s1 s2 : String) : Ordering := compare s1 s2

/-- Two components are compared. -/
def compareElement (e1 e2 : String) : Ordering :=
  match number? e1 with
  | some q1 =>
    match number? e2 with
    | some q2 => if q1 = q2 then .eq else if q1 < q2 then .lt else .gt
    | none => cfStringCompare e1 e2
  | none => cfStringCompare e1 e2

/-- The loop over the components that both have -/
def compareElements : List String → List String → Ordering
  | e1 :: elements1, e2 :: elements2 =>
    match compareElement e1 e2 with
    | .eq => compareElements elements1 elements2
    | res => res
  | _, _ => .eq

/-- The components of two paths are compared, and then their numbers. -/
def compareComponents (elements1 elements2 : List String) : Ordering :=
  let n1 := elements1.length
  let n2 := elements2.length
  match compareElements elements1 elements2 with
  | .eq => if n1 < n2 then .lt else if n1 < n2 then .gt else .eq
  | res => res

/-- Two paths are compared. -/
def comparePaths (path1 path2 : String) : Ordering :=
  compareComponents (splitPath path1) (splitPath path2)

/-! ## Interfaces -/

/-- What the order of an interface depends on. -/
structure SortedInterface where
  sortOrder : Nat
  builtin : Bool
  location : Option String
  path : Option String
  entityDevice : Option String
  entityDeviceUnique : Option String

/-- Locations are compared. -/
def compareLocations : Option String → Option String → Ordering
  | some l1, some l2 => cfStringCompare l1 l2
  | some _, none => .lt
  | none, some _ => .gt
  | none, none => .eq

/-- `_SCNetworkInterfaceCompare` -/
def networkInterfaceCompare (dev1 dev2 : SortedInterface) : Ordering :=
  -- sort by interface type
  if dev1.sortOrder ≠ dev2.sortOrder then
    if dev1.sortOrder < dev2.sortOrder then .lt else .gt
  -- built-in interfaces sort first
  else if dev1.builtin ≠ dev2.builtin then
    if dev1.builtin then .lt else .gt
  else
    -- and then, sort built-in interfaces by "location"
    let res := if dev1.builtin then compareLocations dev1.location dev2.location else .eq
    if res ≠ .eq then res
    else
      -- and, then sort by IOPathMatch
      let res := compareIfBoth comparePaths dev1.path dev2.path
      if res ≠ .eq then res
      else
        -- and, then sort by BSD interface name
        let res := compareIfBoth cfStringCompare dev1.entityDevice dev2.entityDevice
        if res ≠ .eq then res
        -- and lastly, sort by BSD interface unique identifier
        else compareIfBoth cfStringCompare dev1.entityDeviceUnique dev2.entityDeviceUnique

/-! ## What sorting asks -/

/-- The comparison is a total preorder on a set of interfaces, so that the sorted list of some of
them is determined up to ties. -/
structure IsTotalPreorder (S : Set SortedInterface) : Prop where
  antisymm : ∀ a ∈ S, ∀ b ∈ S,
    (networkInterfaceCompare a b = .lt ↔ networkInterfaceCompare b a = .gt)
  trans : ∀ a ∈ S, ∀ b ∈ S, ∀ c ∈ S, networkInterfaceCompare a b ≠ .gt →
    networkInterfaceCompare b c ≠ .gt → networkInterfaceCompare a c ≠ .gt
  sorted : ∀ l l' : List SortedInterface, (∀ a ∈ l, a ∈ S) → l.Perm l' →
    (l.Pairwise fun a b => networkInterfaceCompare a b ≠ .gt) →
    (l'.Pairwise fun a b => networkInterfaceCompare a b ≠ .gt) →
    List.Forall₂ (fun a b => networkInterfaceCompare a b = .eq) l l'

/-- Components that count as equal -/
def Tied (e1 e2 : String) : Prop := compareElement e1 e2 = .eq

/-- The components of a path are the first of another one. -/
def ProperPrefix (p q : List String) : Prop :=
  ∃ l e q', q = l ++ e :: q' ∧ List.Forall₂ Tied p l

/-- A path is before another one: the first components that are not equal are ordered. -/
def Before (p q : List String) : Prop :=
  ∃ l l' x y p' q', p = l ++ x :: p' ∧ q = l' ++ y :: q' ∧ List.Forall₂ Tied l l' ∧
    compareElement x y = .lt

/-- Where three paths differ first, a text is between two numbers. -/
def Between (p q r : List String) : Prop :=
  ∃ l₁ l₂ l₃ x t y p' q' r', p = l₁ ++ x :: p' ∧ q = l₂ ++ t :: q' ∧ r = l₃ ++ y :: r' ∧
    List.Forall₂ Tied l₁ l₂ ∧ List.Forall₂ Tied l₂ l₃ ∧
    (number? x).isSome ∧ number? t = none ∧ (number? y).isSome ∧
    cfStringCompare x t = .lt ∧ cfStringCompare t y = .lt

/-- Where the first path differs from the second, it is before it, or it ends. -/
def BeforeOrPrefix (p q : List String) : Prop := Before p q ∨ ProperPrefix p q

/-- A location that counts -/
def SortedInterface.sortedLocation (i : SortedInterface) : Option String :=
  if i.builtin then i.location else none

/-- Interfaces of the same kind, which are in order by the rest. -/
def SameKind (a b : SortedInterface) : Prop :=
  a.sortOrder = b.sortOrder ∧ a.builtin = b.builtin ∧ a.sortedLocation = b.sortedLocation

/-- Both have a path, and the first is before the second, or ends in it. -/
def PathBefore (a b : SortedInterface) : Prop :=
  ∃ p ∈ a.path, ∃ q ∈ b.path, BeforeOrPrefix (splitPath p) (splitPath q)

/-- Both have a BSD name, and the first is before the second. -/
def DeviceBefore (a b : SortedInterface) : Prop :=
  ∃ d ∈ a.entityDevice, ∃ e ∈ b.entityDevice, d < e

/-- Both have a unique identifier, and the first is before the second. -/
def UniqueBefore (a b : SortedInterface) : Prop :=
  ∃ u ∈ a.entityDeviceUnique, ∃ v ∈ b.entityDeviceUnique, u < v

/-- Before by the BSD names, or by the unique identifiers where these do not tell. -/
def NamesBefore (a b : SortedInterface) : Prop :=
  DeviceBefore a b ∨ ¬ DeviceBefore b a ∧ UniqueBefore a b

/-- An order does not tell any of three interfaces from another. -/
def NoneBefore (before : SortedInterface → SortedInterface → Prop) (a b c : SortedInterface) :
    Prop :=
  ∀ x ∈ [a, b, c], ∀ y ∈ [a, b, c], ¬ before x y

/-- The interfaces of a set can be sorted. In each case, the interfaces are of the same kind. -/
structure Sortable (S : Set SortedInterface) : Prop where
  /-- if a path is the beginning of another one, the names are in this order, too -/
  begins : ∀ a ∈ S, ∀ b ∈ S, SameKind a b → ∀ p ∈ a.path, ∀ q ∈ b.path,
    ProperPrefix (splitPath p) (splitPath q) → NamesBefore a b
  /-- if a text is between two numbers, the two are in this order: by the rest of the paths, or by
  the names where the paths are equal -/
  between : ∀ a ∈ S, ∀ b ∈ S, ∀ c ∈ S, SameKind a b → SameKind b c →
    ∀ p ∈ a.path, ∀ q ∈ b.path, ∀ r ∈ c.path, Between (splitPath p) (splitPath q) (splitPath r) →
      BeforeOrPrefix (splitPath p) (splitPath r) ∨
        List.Forall₂ Tied (splitPath p) (splitPath r) ∧ NamesBefore a c
  /-- an interface without a path is not between two others the other way round by the names -/
  withoutPath : ∀ a ∈ S, ∀ b ∈ S, ∀ c ∈ S, SameKind a b → SameKind b c → PathBefore a c →
    b.path = none → NamesBefore a b ∨ NamesBefore b c
  /-- where the paths do not tell, one without a BSD name is not between two others the other way
  round by the unique identifiers -/
  withoutDevice : ∀ a ∈ S, ∀ b ∈ S, ∀ c ∈ S, SameKind a b → SameKind b c →
    NoneBefore PathBefore a b c → DeviceBefore a c → b.entityDevice = none →
      UniqueBefore a b ∨ UniqueBefore b c
  /-- where the paths and the BSD names do not tell, and two unique identifiers differ, the third
  interface has one -/
  withoutUnique : ∀ a ∈ S, ∀ b ∈ S, ∀ c ∈ S, SameKind a b → SameKind b c →
    NoneBefore PathBefore a b c → NoneBefore DeviceBefore a b c → UniqueBefore a c →
      b.entityDeviceUnique ≠ none

/-! ## Components -/

instance : TransCmp cfStringCompare :=
  inferInstanceAs (TransCmp (compare : String → String → Ordering))

/-- Strings compare as equal only if they are. -/
theorem cfStringCompare_eq {s1 s2 : String} : cfStringCompare s1 s2 = .eq ↔ s1 = s2 :=
  compare_eq_iff_eq

/-- Two elements that are numbers compare as numbers. -/
theorem compareElement_number {x y : String} {q1 q2 : Int} (hx : number? x = some q1)
    (hy : number? y = some q2) : compareElement x y = compare q1 q2 := by
  simp only [compareElement, hx, hy]
  split_ifs with heq hlt
  · exact (compare_eq_iff_eq.mpr heq).symm
  · exact (compare_lt_iff_lt.mpr hlt).symm
  · exact (compare_gt_iff_gt.mpr (by omega)).symm

/-- One that is not a number makes both compare as text. -/
theorem compareElement_text {x y : String} (h : number? x = none ∨ number? y = none) :
    compareElement x y = cfStringCompare x y := by
  simp only [compareElement]
  split
  next q1 hx =>
    split
    next q2 hy =>
      rw [hx, hy] at h
      simp at h
    · rfl
  · rfl

/-- The order of two elements does not depend on which is asked first. -/
theorem compareElement_swap (x y : String) : compareElement x y = (compareElement y x).swap := by
  cases hx : number? x with
  | none =>
    rw [compareElement_text (.inl hx), compareElement_text (.inr hx)]
    exact OrientedCmp.eq_swap
  | some q1 =>
    cases hy : number? y with
    | none =>
      rw [compareElement_text (.inr hy), compareElement_text (.inl hy)]
      exact OrientedCmp.eq_swap
    | some q2 =>
      rw [compareElement_number hx hy, compareElement_number hy hx]
      exact OrientedOrd.eq_swap

/-- Elements are tied as numbers, `1` with `01`, or else by being the same text. -/
theorem tied_iff {x y : String} : Tied x y ↔
    (∃ q, number? x = some q ∧ number? y = some q) ∨ (number? x = none ∧ x = y) := by
  rw [Tied]
  cases hx : number? x with
  | none =>
    rw [compareElement_text (.inl hx), cfStringCompare_eq]
    simp
  | some q1 =>
    cases hy : number? y with
    | none =>
      rw [compareElement_text (.inr hy), cfStringCompare_eq]
      constructor
      · rintro rfl
        rw [hx] at hy
        cases hy
      · simp
    | some q2 =>
      rw [compareElement_number hx hy, compare_eq_iff_eq]
      simp [eq_comm]

theorem Tied.refl (x : String) : Tied x x := by
  rw [tied_iff]
  cases number? x with
  | none => exact .inr ⟨rfl, rfl⟩
  | some q => exact .inl ⟨q, rfl, rfl⟩

theorem Tied.symm {x y : String} (h : Tied x y) : Tied y x := by
  rw [Tied, compareElement_swap, h]
  rfl

theorem Tied.trans {x y z : String} (hxy : Tied x y) (hyz : Tied y z) : Tied x z := by
  rw [tied_iff] at hxy hyz ⊢
  rcases hxy with ⟨q, hx, hy⟩ | ⟨hx, rfl⟩
  · rcases hyz with ⟨q', hy', hz⟩ | ⟨hy', -⟩
    · obtain rfl := Option.some.inj (hy.symm.trans hy')
      exact .inl ⟨q, hx, hz⟩
    · rw [hy] at hy'
      cases hy'
  · exact hyz

/-! ## Lists of components -/

variable {p q r : List String} {x y z : String}

/-- A tie is passed over. -/
theorem compareElements_tied (h : Tied x y) :
    compareElements (x :: p) (y :: q) = compareElements p q := by
  have hxy : compareElement x y = .eq := h
  simp only [compareElements, hxy]

/-- The first elements that are not tied decide. -/
theorem compareElements_not_tied (h : ¬ Tied x y) :
    compareElements (x :: p) (y :: q) = compareElement x y := by
  simp only [compareElements]
  split
  next hxy => exact absurd hxy h
  · rfl

theorem compareElements_swap (p q : List String) :
    compareElements p q = (compareElements q p).swap := by
  induction p generalizing q with
  | nil => cases q <;> rfl
  | cons x p ih =>
    cases q with
    | nil => rfl
    | cons y q =>
      by_cases h : Tied x y
      · rw [compareElements_tied h, compareElements_tied h.symm, ih]
      · rw [compareElements_not_tied h, compareElements_not_tied fun h' => h h'.symm,
          compareElement_swap]

/-- One list comes before another at the first elements that are not tied. -/
theorem compareElements_eq_lt : compareElements p q = .lt ↔ Before p q := by
  induction p generalizing q with
  | nil =>
    refine ⟨nofun, ?_⟩
    rintro ⟨l, l', x, y, p', q', hp, -⟩
    cases l <;> cases hp
  | cons x p ih =>
    cases q with
    | nil =>
      refine ⟨nofun, ?_⟩
      rintro ⟨l, l', x, y, p', q', -, hq, -⟩
      cases l' <;> cases hq
    | cons y q =>
      by_cases h : Tied x y
      · rw [compareElements_tied h, ih]
        constructor
        · rintro ⟨l, l', a, b, p', q', rfl, rfl, htied, hlt⟩
          exact ⟨x :: l, y :: l', a, b, p', q', rfl, rfl, .cons h htied, hlt⟩
        · rintro ⟨l, l', a, b, p', q', hp, hq, htied, hlt⟩
          cases htied with
          | nil =>
            obtain ⟨rfl, rfl⟩ := List.cons.inj hp
            obtain ⟨rfl, rfl⟩ := List.cons.inj hq
            rw [show compareElement x y = .eq from h] at hlt
            cases hlt
          | cons hab htied =>
            obtain ⟨-, rfl⟩ := List.cons.inj hp
            obtain ⟨-, rfl⟩ := List.cons.inj hq
            exact ⟨_, _, a, b, p', q', rfl, rfl, htied, hlt⟩
      · rw [compareElements_not_tied h]
        constructor
        · exact fun hlt => ⟨[], [], x, y, p, q, rfl, rfl, .nil, hlt⟩
        · rintro ⟨l, l', a, b, p', q', hp, hq, htied, hlt⟩
          cases htied with
          | nil =>
            obtain ⟨rfl, rfl⟩ := List.cons.inj hp
            obtain ⟨rfl, rfl⟩ := List.cons.inj hq
            exact hlt
          | cons hab htied =>
            obtain ⟨rfl, -⟩ := List.cons.inj hp
            obtain ⟨rfl, -⟩ := List.cons.inj hq
            exact absurd hab h

theorem ProperPrefix.cons (h : Tied x y) (hpq : ProperPrefix p q) :
    ProperPrefix (x :: p) (y :: q) := by
  obtain ⟨l, e, q', rfl, htied⟩ := hpq
  exact ⟨y :: l, e, q', rfl, .cons h htied⟩

theorem Between.cons (hxy : Tied x y) (hyz : Tied y z) (h : Between p q r) :
    Between (x :: p) (y :: q) (z :: r) := by
  obtain ⟨l₁, l₂, l₃, a, t, b, p', q', r', rfl, rfl, rfl, h₁, h₂, h⟩ := h
  exact ⟨x :: l₁, y :: l₂, z :: l₃, a, t, b, p', q', r', rfl, rfl, rfl, .cons hxy h₁, .cons hyz h₂,
    h⟩

/-- One path is a proper prefix if it ends first. -/
theorem properPrefix_of_eq (h : compareElements p q = .eq) (hlt : p.length < q.length) :
    ProperPrefix p q := by
  induction p generalizing q with
  | nil =>
    cases q with
    | nil => cases hlt
    | cons y q => exact ⟨[], y, q, rfl, .nil⟩
  | cons x p ih =>
    cases q with
    | nil => cases hlt
    | cons y q =>
      have htied : Tied x y := by
        by_contra hnot
        rw [compareElements_not_tied hnot] at h
        exact hnot h
      rw [compareElements_tied htied] at h
      exact (ih h (Nat.lt_of_succ_lt_succ hlt)).cons htied

theorem compareElements_of_forall₂ (h : List.Forall₂ Tied p q) : compareElements p q = .eq := by
  induction h with
  | nil => rfl
  | cons htied _ ih => rwa [compareElements_tied htied]

/-- The comparison stops with the shorter list, and does not see that the other goes on. -/
theorem compareElements_of_properPrefix (h : ProperPrefix p q) :
    compareElements p q = .eq ∧ p.length < q.length := by
  obtain ⟨l, e, q', rfl, htied⟩ := h
  constructor
  · induction htied with
    | nil => rfl
    | cons hxy _ ih => rwa [List.cons_append, compareElements_tied hxy]
  · rw [List.length_append, List.length_cons, htied.length_eq]
    omega

/-- Lists of one length that compare as equal are tied throughout. -/
theorem forall₂_of_compareElements (h : compareElements p q = .eq) (hlen : p.length = q.length) :
    List.Forall₂ Tied p q := by
  induction p generalizing q with
  | nil =>
    obtain rfl := List.length_eq_zero_iff.mp hlen.symm
    exact .nil
  | cons x p ih =>
    cases q with
    | nil => cases hlen
    | cons y q =>
      have htied : Tied x y := by
        by_contra hnot
        rw [compareElements_not_tied hnot] at h
        exact hnot h
      rw [compareElements_tied htied] at h
      exact .cons htied (ih h (Nat.succ.inj hlen))

/-- The text is behind one of the numbers and before the other. -/
theorem before_of_between (h : Between p q r) : Before p q ∧ Before q r := by
  obtain ⟨l₁, l₂, l₃, x, t, y, p', q', r', rfl, rfl, rfl, h₁, h₂, -, ht, -, hxt, hty⟩ := h
  rw [← compareElement_text (.inr ht)] at hxt
  rw [← compareElement_text (.inl ht)] at hty
  exact ⟨⟨l₁, l₂, x, t, p', q', rfl, rfl, h₁, hxt⟩, ⟨l₂, l₃, t, y, q', r', rfl, rfl, h₂, hty⟩⟩

/-! ## Transitivity of paths -/

/-- A comparison that does not find `gt` and is not a tie finds `lt`. -/
theorem lt_of_ne_gt {o : Ordering} (hgt : o ≠ .gt) (heq : o ≠ .eq) : o = .lt := by
  cases o with
  | lt => rfl
  | eq => exact absurd rfl heq
  | gt => exact absurd rfl hgt

/-- If two of the components are texts or all are numbers, they are in order. -/
theorem compareElement_trans (hxy : compareElement x y ≠ .gt) (hyz : compareElement y z ≠ .gt)
    (hnot : ¬ (Tied x y ∧ Tied y z))
    (hkinds : ((number? x).isSome ∧ (number? y).isSome ∧ (number? z).isSome) ∨
      (number? x = none ∧ number? y = none) ∨ (number? x = none ∧ number? z = none) ∨
      (number? y = none ∧ number? z = none)) : compareElement x z = .lt := by
  rcases hkinds with ⟨hx, hy, hz⟩ | htexts
  · obtain ⟨q1, hx⟩ := Option.isSome_iff_exists.mp hx
    obtain ⟨q2, hy⟩ := Option.isSome_iff_exists.mp hy
    obtain ⟨q3, hz⟩ := Option.isSome_iff_exists.mp hz
    rw [Tied, Tied, compareElement_number hx hy, compareElement_number hy hz, compare_eq_iff_eq,
      compare_eq_iff_eq] at hnot
    rw [compareElement_number hx hy, compare_le_iff_le] at hxy
    rw [compareElement_number hy hz, compare_le_iff_le] at hyz
    rw [compareElement_number hx hz, compare_lt_iff_lt]
    omega
  · have hxy' : compareElement x y = cfStringCompare x y := compareElement_text (by tauto)
    have hyz' : compareElement y z = cfStringCompare y z := compareElement_text (by tauto)
    have hxz' : compareElement x z = cfStringCompare x z := compareElement_text (by tauto)
    rw [Tied, Tied, hxy', hyz', cfStringCompare_eq, cfStringCompare_eq] at hnot
    have hxyLE := Ordering.ne_gt_iff_isLE.mp (hxy' ▸ hxy)
    have hyzLE := Ordering.ne_gt_iff_isLE.mp (hyz' ▸ hyz)
    rw [hxz']
    refine lt_of_ne_gt (Ordering.ne_gt_iff_isLE.mpr (TransCmp.isLE_trans hxyLE hyzLE)) fun heq => ?_
    obtain rfl := cfStringCompare_eq.mp heq
    have hboth := cfStringCompare_eq.mp (OrientedCmp.isLE_antisymm hxyLE hyzLE)
    exact hnot ⟨hboth, hboth.symm⟩

/-- A number and a text are never equal. -/
theorem not_tied_of_text (hx : (number? x).isSome) (hy : number? y = none) :
    ¬ Tied x y ∧ ¬ Tied y x := by
  have hnot : ¬ Tied y x := fun h => by
    rcases tied_iff.mp h with ⟨q, hq, -⟩ | ⟨-, rfl⟩
    · rw [hy] at hq
      cases hq
    · rw [hy] at hx
      cases hx
  exact ⟨fun h => hnot h.symm, hnot⟩

/-- A text between two numbers, where the paths begin. -/
theorem Between.heads (hx : (number? x).isSome) (hy : number? y = none) (hz : (number? z).isSome)
    (hxy : compareElement x y = .lt) (hyz : compareElement y z = .lt) :
    Between (x :: p) (y :: q) (z :: r) := by
  rw [compareElement_text (.inr hy)] at hxy
  rw [compareElement_text (.inl hy)] at hyz
  exact ⟨[], [], [], x, y, z, p, q, r, rfl, rfl, rfl, .nil, .nil, hx, hy, hz, hxy, hyz⟩

theorem compareElement_ne_gt (h : compareElements (x :: p) (y :: q) ≠ .gt) :
    compareElement x y ≠ .gt := by
  intro hgt
  have hnot : ¬ Tied x y := fun htied => by
    rw [Tied, hgt] at htied
    cases htied
  rw [compareElements_not_tied hnot] at h
  exact h hgt

/-- The first elements decide, if they are not tied. -/
theorem compareElements_of_lt (h : compareElement x y = .lt) :
    compareElements (x :: p) (y :: q) = .lt := by
  have hnot : ¬ Tied x y := fun htied => by
    rw [Tied, h] at htied
    cases htied
  rw [compareElements_not_tied hnot, h]

theorem compareElement_lt_of_gt (h : compareElement x y = .gt) : compareElement y x = .lt := by
  rw [compareElement_swap, h]
  rfl

/-- **Where three paths differ first**, they are in order if no text is between two numbers. -/
theorem compareElements_trans_heads (htied : ¬ (Tied x y ∧ Tied y z))
    (hpqr : ¬ Between (x :: p) (y :: q) (z :: r)) (hqrp : ¬ Between (y :: q) (z :: r) (x :: p))
    (hrpq : ¬ Between (z :: r) (x :: p) (y :: q))
    (hpq : compareElements (x :: p) (y :: q) ≠ .gt)
    (hqr : compareElements (y :: q) (z :: r) ≠ .gt) :
    compareElements (x :: p) (z :: r) = .lt := by
  have hxy := compareElement_ne_gt hpq
  have hyz := compareElement_ne_gt hqr
  have hsome : ∀ {e : String} {n : Int}, number? e = some n → (number? e).isSome :=
    fun h => Option.isSome_of_eq_some h
  cases hx : number? x with
  | none =>
    cases hy : number? y with
    | none =>
      exact compareElements_of_lt (compareElement_trans hxy hyz htied (.inr (.inl ⟨hx, hy⟩)))
    | some qy =>
      cases hz : number? z with
      | none =>
        exact compareElements_of_lt
          (compareElement_trans hxy hyz htied (.inr (.inr (.inl ⟨hx, hz⟩))))
      | some qz =>
        have hnot := (not_tied_of_text (hsome hz) hx).2
        refine compareElements_of_lt (lt_of_ne_gt (fun hgt => ?_) hnot)
        have hlt := lt_of_ne_gt hxy (not_tied_of_text (hsome hy) hx).2
        exact hrpq (.heads (hsome hz) hx (hsome hy) (compareElement_lt_of_gt hgt) hlt)
  | some qx =>
    cases hy : number? y with
    | none =>
      cases hz : number? z with
      | none =>
        exact compareElements_of_lt
          (compareElement_trans hxy hyz htied (.inr (.inr (.inr ⟨hy, hz⟩))))
      | some qz =>
        have hlt₁ := lt_of_ne_gt hxy (not_tied_of_text (hsome hx) hy).1
        have hlt₂ := lt_of_ne_gt hyz (not_tied_of_text (hsome hz) hy).2
        exact absurd (Between.heads (hsome hx) hy (hsome hz) hlt₁ hlt₂) hpqr
    | some qy =>
      cases hz : number? z with
      | some qz =>
        exact compareElements_of_lt
          (compareElement_trans hxy hyz htied (.inl ⟨hsome hx, hsome hy, hsome hz⟩))
      | none =>
        have hnot := (not_tied_of_text (hsome hx) hz).1
        refine compareElements_of_lt (lt_of_ne_gt (fun hgt => ?_) hnot)
        have hlt := lt_of_ne_gt hyz (not_tied_of_text (hsome hy) hz).1
        exact hqrp (.heads (hsome hy) hz (hsome hx) hlt (compareElement_lt_of_gt hgt))

/-! ## Whole paths -/

/-- The components of two paths are compared, and then their numbers, in both directions. -/
def compareWhole (p q : List String) : Ordering :=
  (compareElements p q).then (compare p.length q.length)

theorem compareWhole_swap (p q : List String) : compareWhole p q = (compareWhole q p).swap := by
  rw [compareWhole, compareWhole, compareElements_swap, Ordering.swap_then,
    ← OrientedOrd.eq_swap]

/-- With the lengths compared as well, a list comes after those that it extends. -/
theorem compareWhole_eq_lt : compareWhole p q = .lt ↔ BeforeOrPrefix p q := by
  rw [compareWhole, Ordering.then_eq_lt, compareElements_eq_lt, compare_lt_iff_lt, BeforeOrPrefix]
  refine or_congr_right ⟨fun h => properPrefix_of_eq h.1 h.2, compareElements_of_properPrefix⟩

/-- With the lengths compared as well, only tied lists compare as equal. -/
theorem compareWhole_eq_eq : compareWhole p q = .eq ↔ List.Forall₂ Tied p q := by
  rw [compareWhole, Ordering.then_eq_eq, compare_eq_iff_eq]
  exact ⟨fun h => forall₂_of_compareElements h.1 h.2,
    fun h => ⟨compareElements_of_forall₂ h, h.length_eq⟩⟩

theorem compareWhole_cons (h : Tied x y) :
    compareWhole (x :: p) (y :: q) = compareWhole p q := by
  rw [compareWhole, compareWhole, compareElements_tied h, List.length_cons, List.length_cons,
    Nat.compare_eq_ite_lt, Nat.compare_eq_ite_lt]
  simp only [Nat.add_lt_add_iff_right]

theorem compareElements_ne_gt (h : compareWhole p q ≠ .gt) : compareElements p q ≠ .gt := by
  intro hgt
  rw [compareWhole, hgt] at h
  exact h rfl

/-- The code finds a longer path equal to its beginning, and is right everywhere else. -/
theorem compareComponents_eq (h : ¬ ProperPrefix q p) :
    compareComponents p q = compareWhole p q := by
  simp only [compareComponents, compareWhole]
  split
  next heq =>
    have hle : p.length ≤ q.length := Nat.not_lt.mp fun hlt =>
      h (properPrefix_of_eq (by rw [compareElements_swap, heq]; rfl) hlt)
    rw [heq, Ordering.eq_then]
    rcases hle.lt_or_eq with hlt | heq
    · rw [if_pos hlt, compare_lt_iff_lt.mpr hlt]
    · rw [if_neg heq.not_lt, if_neg heq.not_lt, compare_eq_iff_eq.mpr heq]
  next hne =>
    cases hpq : compareElements p q with
    | eq => exact absurd hpq hne
    | lt => rfl
    | gt => rfl

/-- This is where paths lose their order: one that extends another does not compare as greater,
since the second test is the first one again. -/
theorem compareComponents_of_properPrefix (h : ProperPrefix q p) :
    compareComponents p q = .eq := by
  obtain ⟨heq, hlt⟩ := compareElements_of_properPrefix h
  have heq' : compareElements p q = .eq := by
    rw [compareElements_swap, heq]
    rfl
  simp only [compareComponents, heq']
  rw [if_neg (Nat.not_lt_of_lt hlt), if_neg (Nat.not_lt_of_lt hlt)]

/-- Only nothing is not behind nothing. -/
theorem eq_nil_of_compareWhole (h : compareWhole p [] ≠ .gt) : p = [] := by
  cases p with
  | nil => rfl
  | cons x p => exact absurd rfl h

/-- **Three paths in a circle**: where they differ first, a text is between two numbers. -/
theorem between_of_cyclic (h : Cyclic compareWhole p q r) :
    Between p q r ∨ Between q r p ∨ Between r p q := by
  induction p generalizing q r with
  | nil =>
    -- if one has ended, all have
    obtain rfl := eq_nil_of_compareWhole h.2.2.1
    obtain rfl := eq_nil_of_compareWhole h.2.1
    exact absurd ⟨rfl, rfl, rfl⟩ h.2.2.2
  | cons x p ih =>
    cases r with
    | nil =>
      obtain rfl := eq_nil_of_compareWhole h.2.1
      exact absurd (eq_nil_of_compareWhole h.1) (by simp)
    | cons z r =>
      cases q with
      | nil => exact absurd (eq_nil_of_compareWhole h.1) (by simp)
      | cons y q =>
        by_cases htied : Tied x y ∧ Tied y z
        · obtain ⟨hxy, hyz⟩ := htied
          have hzx := (hxy.trans hyz).symm
          have htail : Cyclic compareWhole p q r := by
            simpa only [Cyclic, compareWhole_cons hxy, compareWhole_cons hyz,
              compareWhole_cons hzx] using h
          exact (ih htail).imp (Between.cons hxy hyz)
            (Or.imp (Between.cons hyz hzx) (Between.cons hzx hxy))
        · by_contra hnot
          simp only [not_or] at hnot
          have hlt := compareElements_trans_heads htied hnot.1 hnot.2.1 hnot.2.2
            (compareElements_ne_gt h.1) (compareElements_ne_gt h.2.1)
          refine compareElements_ne_gt h.2.2.1 ?_
          rw [compareElements_swap, hlt]
          rfl

/-! ## Criteria -/

/-- **The criteria** are compared one after the other. -/
theorem networkInterfaceCompare_eq (a b : SortedInterface) :
    networkInterfaceCompare a b =
      (compare a.sortOrder b.sortOrder).then
        ((compare (!a.builtin) (!b.builtin)).then
          ((compareLocations a.sortedLocation b.sortedLocation).then
            ((compareIfBoth comparePaths a.path b.path).then
              ((compareIfBoth cfStringCompare a.entityDevice b.entityDevice).then
                (compareIfBoth cfStringCompare a.entityDeviceUnique b.entityDeviceUnique))))) := by
  have hthen : ∀ o o' : Ordering, (if o ≠ .eq then o else o') = o.then o' := by
    intro o o'
    cases o <;> rfl
  simp only [networkInterfaceCompare]
  by_cases hsort : a.sortOrder = b.sortOrder
  · rw [if_neg (not_not.mpr hsort), compare_eq_iff_eq.mpr hsort, Ordering.eq_then]
    by_cases hbuiltin : a.builtin = b.builtin
    · have hlocation : (if a.builtin then compareLocations a.location b.location else .eq) =
          compareLocations a.sortedLocation b.sortedLocation := by
        rw [SortedInterface.sortedLocation, SortedInterface.sortedLocation, ← hbuiltin]
        cases a.builtin <;> rfl
      rw [if_neg (not_not.mpr hbuiltin), hlocation, hthen, hthen, hthen, hbuiltin,
        compare_eq_iff_eq.mpr rfl, Ordering.eq_then]
    · rw [if_pos hbuiltin]
      cases ha : a.builtin <;> cases hb : b.builtin
      · exact absurd (ha.trans hb.symm) hbuiltin
      · rfl
      · rfl
      · exact absurd (ha.trans hb.symm) hbuiltin
  · rw [if_pos hsort]
    split_ifs with hlt
    · rw [compare_lt_iff_lt.mpr hlt]
      rfl
    · rw [compare_gt_iff_gt.mpr (by omega)]
      rfl

/-- No location is behind all locations. -/
theorem compareLocations_eq (l1 l2 : Option String) :
    compareLocations l1 l2 =
      (compare l1.isNone l2.isNone).then (cfStringCompare (l1.getD "") (l2.getD "")) := by
  have hself : cfStringCompare "" "" = .eq := cfStringCompare_eq.mpr rfl
  cases l1 <;> cases l2
  · simp [compareLocations, hself]
  · rfl
  · rfl
  · simp [compareLocations]

/-- The locations are in order, those that there are before those that are missing. -/
theorem transCmp_locations : TransCmp compareLocations := by
  have hnone : TransCmp fun l1 l2 : Option String => compare l1.isNone l2.isNone :=
    SortedTies.transCmp_comap (inferInstance : TransCmp (compare : Bool → Bool → Ordering))
      Option.isNone
  have hsome : TransCmp fun l1 l2 : Option String => cfStringCompare (l1.getD "") (l2.getD "") :=
    SortedTies.transCmp_comap inferInstance fun l : Option String => l.getD ""
  have hlex : compareLocations = compareLex (fun l1 l2 : Option String =>
      compare l1.isNone l2.isNone) fun l1 l2 => cfStringCompare (l1.getD "") (l2.getD "") :=
    funext fun l1 => funext fun l2 => compareLocations_eq l1 l2
  rw [hlex]
  infer_instance

/-- The type order, built-in or not, and the location are compared. -/
def compareKinds (a b : SortedInterface) : Ordering :=
  (compare a.sortOrder b.sortOrder).then
    ((compare (!a.builtin) (!b.builtin)).then
      (compareLocations a.sortedLocation b.sortedLocation))

/-- The unique identifiers are compared. -/
def compareUnique (a b : SortedInterface) : Ordering :=
  compareIfBoth cfStringCompare a.entityDeviceUnique b.entityDeviceUnique

/-- The BSD names and the unique identifiers are compared. -/
def compareNames (a b : SortedInterface) : Ordering :=
  (compareIfBoth cfStringCompare a.entityDevice b.entityDevice).then (compareUnique a b)

/-- Two paths are compared, in both directions. -/
def comparePathsWhole (path1 path2 : String) : Ordering :=
  compareWhole (splitPath path1) (splitPath path2)

/-- The criteria within a kind, with the paths in both directions. -/
def compareRest (a b : SortedInterface) : Ordering :=
  (compareIfBoth comparePathsWhole a.path b.path).then (compareNames a b)

instance : TransCmp compareKinds := by
  have hsort : TransCmp fun a b : SortedInterface => compare a.sortOrder b.sortOrder :=
    transCmp_comap (inferInstance : TransCmp (compare : Nat → Nat → Ordering))
      SortedInterface.sortOrder
  have hbuiltin : TransCmp fun a b : SortedInterface => compare (!a.builtin) (!b.builtin) :=
    transCmp_comap (inferInstance : TransCmp (compare : Bool → Bool → Ordering))
      fun a : SortedInterface => !a.builtin
  have hlocation : TransCmp fun a b : SortedInterface =>
      compareLocations a.sortedLocation b.sortedLocation :=
    transCmp_comap transCmp_locations SortedInterface.sortedLocation
  have hlex : compareKinds = compareLex (fun a b => compare a.sortOrder b.sortOrder)
      (compareLex (fun a b => compare (!a.builtin) (!b.builtin))
        fun a b => compareLocations a.sortedLocation b.sortedLocation) := rfl
  rw [hlex]
  infer_instance

/-- Two interfaces are at one location only if it is the same. -/
theorem compareLocations_eq_eq {l1 l2 : Option String} :
    compareLocations l1 l2 = .eq ↔ l1 = l2 := by
  cases l1 <;> cases l2 <;> simp [compareLocations, cfStringCompare_eq]

/-- What is compared first is equal for interfaces of one kind only. -/
theorem compareKinds_eq_eq {a b : SortedInterface} : compareKinds a b = .eq ↔ SameKind a b := by
  rw [compareKinds, Ordering.then_eq_eq, Ordering.then_eq_eq, compare_eq_iff_eq,
    compare_eq_iff_eq, compareLocations_eq_eq, SameKind, Bool.not_inj_iff]

theorem cfStringCompare_swap (s1 s2 : String) :
    cfStringCompare s1 s2 = (cfStringCompare s2 s1).swap := OrientedCmp.eq_swap

theorem comparePathsWhole_swap (path1 path2 : String) :
    comparePathsWhole path1 path2 = (comparePathsWhole path2 path1).swap :=
  compareWhole_swap _ _

theorem compareNames_swap (a b : SortedInterface) :
    compareNames a b = (compareNames b a).swap := by
  rw [compareNames, compareNames, compareUnique, compareUnique, Ordering.swap_then,
    ← compareIfBoth_swap cfStringCompare_swap, ← compareIfBoth_swap cfStringCompare_swap]

theorem compareRest_swap (a b : SortedInterface) : compareRest a b = (compareRest b a).swap := by
  rw [compareRest, compareRest, Ordering.swap_then, ← compareIfBoth_swap comparePathsWhole_swap,
    ← compareNames_swap]

/-! What the fields say. -/

variable {a b c : SortedInterface}

/-- The order by device, as a comparison of values that may be missing. -/
theorem deviceBefore_iff :
    DeviceBefore a b ↔ ValueBefore cfStringCompare a.entityDevice b.entityDevice := by
  simp only [DeviceBefore, ValueBefore, cfStringCompare, compare_lt_iff_lt]

/-- The order by unique name, likewise. -/
theorem uniqueBefore_iff :
    UniqueBefore a b ↔ ValueBefore cfStringCompare a.entityDeviceUnique b.entityDeviceUnique := by
  simp only [UniqueBefore, ValueBefore, cfStringCompare, compare_lt_iff_lt]

/-- The order by path, likewise. -/
theorem pathBefore_iff : PathBefore a b ↔ ValueBefore comparePathsWhole a.path b.path := by
  simp only [PathBefore, ValueBefore, comparePathsWhole, compareWhole_eq_lt]

/-- The names decide as they are said to. -/
theorem compareNames_eq_lt : compareNames a b = .lt ↔ NamesBefore a b := by
  rw [compareNames, compareUnique, Ordering.then_eq_lt, compareIfBoth_eq_lt, compareIfBoth_eq_lt,
    compareIfBoth_eq_eq cfStringCompare_swap, NamesBefore, deviceBefore_iff, deviceBefore_iff,
    uniqueBefore_iff]
  tauto

theorem compareNames_ne_gt : compareNames a b ≠ .gt ↔ ¬ NamesBefore b a := by
  rw [← compareNames_eq_lt, compareNames_swap, not_iff_not]
  cases compareNames b a <;> simp [Ordering.swap]

theorem compareUnique_ne_gt : compareUnique a b ≠ .gt ↔ ¬ UniqueBefore b a := by
  rw [compareUnique, Ne, compareIfBoth_eq_gt cfStringCompare_swap, uniqueBefore_iff]

/-! ## The condition -/

/-- The criteria, by what comes before the paths and what comes behind them. -/
theorem networkInterfaceCompare_then (a b : SortedInterface) :
    networkInterfaceCompare a b = (compareKinds a b).then
      ((compareIfBoth comparePaths a.path b.path).then (compareNames a b)) := by
  rw [networkInterfaceCompare_eq, compareKinds, compareNames, compareUnique, Ordering.then_assoc,
    Ordering.then_assoc]

/-- The code's order of two paths within a kind, where the names agree with the beginnings. -/
theorem networkInterfaceCompare_rest
    (hbegins : SameKind a b → ∀ p ∈ a.path, ∀ q ∈ b.path,
      ProperPrefix (splitPath q) (splitPath p) → NamesBefore b a) :
    networkInterfaceCompare a b = (compareKinds a b).then (compareRest a b) := by
  rw [networkInterfaceCompare_then]
  by_cases hkind : compareKinds a b = .eq
  · rw [hkind, Ordering.eq_then, Ordering.eq_then, compareRest]
    have hnames := hbegins (compareKinds_eq_eq.mp hkind)
    cases hp : a.path with
    | none => rfl
    | some p =>
      cases hq : b.path with
      | none => rfl
      | some q =>
        simp only [compareIfBoth, comparePaths, comparePathsWhole]
        by_cases hproper : ProperPrefix (splitPath q) (splitPath p)
        · -- the names tell what the paths do not
          have hgt : compareNames a b = .gt := by
            rw [compareNames_swap, compareNames_eq_lt.mpr (hnames p hp q hq hproper)]
            rfl
          have hwhole : compareWhole (splitPath p) (splitPath q) = .gt := by
            rw [compareWhole_swap, compareWhole_eq_lt.mpr (.inr hproper)]
            rfl
          rw [compareComponents_of_properPrefix hproper, hwhole, hgt]
          rfl
        · rw [compareComponents_eq hproper]
  · cases hkind' : compareKinds a b with
    | eq => exact absurd hkind' hkind
    | lt => rfl
    | gt => rfl

/-- **Circles within a kind**, by the fields. -/
theorem cyclic_rest_iff :
    Cyclic compareRest a b c ↔
      CyclicValues comparePathsWhole SortedInterface.path compareNames a b c ∨
      SomeBypassed comparePathsWhole SortedInterface.path compareNames a b c ∨
      NoneBefore PathBefore a b c ∧ Cyclic compareNames a b c := by
  have hrest : Cyclic compareRest a b c ↔ Cyclic (fun a b : SortedInterface =>
      (compareIfBoth comparePathsWhole a.path b.path).then (compareNames a b)) a b c := Iff.rfl
  have hsilent : Silent comparePathsWhole SortedInterface.path a b c ↔
      NoneBefore PathBefore a b c := by
    simp only [Silent, NoneBefore, pathBefore_iff]
  rw [hrest, cyclic_ifBoth_iff, ← silent_iff comparePathsWhole_swap, hsilent]
  tauto

/-- **Circles by the names**: one that goes by an interface without a BSD name, or, where the BSD
names do not tell, by one without a unique identifier. -/
theorem cyclic_names_iff :
    Cyclic compareNames a b c ↔
      SomeBypassed cfStringCompare SortedInterface.entityDevice compareUnique a b c ∨
      NoneBefore DeviceBefore a b c ∧
        SomeBypassed cfStringCompare SortedInterface.entityDeviceUnique (fun _ _ => .eq) a b c := by
  have hnames : Cyclic compareNames a b c ↔ Cyclic (fun a b : SortedInterface =>
      (compareIfBoth cfStringCompare a.entityDevice b.entityDevice).then
        (compareUnique a b)) a b c := Iff.rfl
  have hunique : Cyclic compareUnique a b c ↔ Cyclic (fun a b : SortedInterface =>
      (compareIfBoth cfStringCompare a.entityDeviceUnique b.entityDeviceUnique).then
        .eq) a b c := by
    simp only [Ordering.then_eq]
    exact Iff.rfl
  have hsilent : Silent cfStringCompare SortedInterface.entityDevice a b c ↔
      NoneBefore DeviceBefore a b c := by
    simp only [Silent, NoneBefore, deviceBefore_iff]
  have hnone : ¬ Cyclic (fun _ _ : SortedInterface => Ordering.eq) a b c :=
    fun h => h.2.2.2 ⟨rfl, rfl, rfl⟩
  rw [hnames, cyclic_ifBoth_iff, ← silent_iff cfStringCompare_swap, hsilent, hunique,
    cyclic_ifBoth_iff, iff_false_intro hnone]
  simp only [not_cyclicValues, and_false, false_or]
  exact or_comm

theorem SameKind.symm (h : SameKind a b) : SameKind b a := ⟨h.1.symm, h.2.1.symm, h.2.2.symm⟩

theorem SameKind.trans (hab : SameKind a b) (hbc : SameKind b c) : SameKind a c :=
  ⟨hab.1.trans hbc.1, hab.2.1.trans hbc.2.1, hab.2.2.trans hbc.2.2⟩

/-- The same of other interfaces among the three. -/
theorem NoneBefore.of_mem {before : SortedInterface → SortedInterface → Prop}
    {x y z : SortedInterface} (h : NoneBefore before a b c) (hx : x ∈ [a, b, c])
    (hy : y ∈ [a, b, c]) (hz : z ∈ [a, b, c]) : NoneBefore before x y z := by
  have hmem : ∀ w ∈ [x, y, z], w ∈ [a, b, c] := by
    simp only [List.forall_mem_cons, List.not_mem_nil, false_imp_iff, implies_true, and_true]
    exact ⟨hx, hy, hz⟩
  exact fun v hv w hw => h v (hmem v hv) w (hmem w hw)

/-- Two paths in a circle are not ordered, and neither are the names where the paths are equal. -/
theorem not_ordered_of_cyclic {p r : List String} (hrp : compareWhole r p ≠ .gt)
    (hca : compareWhole r p = .eq → compareNames c a ≠ .gt) :
    ¬ (BeforeOrPrefix p r ∨ List.Forall₂ Tied p r ∧ NamesBefore a c) := by
  rintro (hbefore | ⟨htied, hnames⟩)
  · rw [compareWhole_swap, compareWhole_eq_lt.mpr hbefore] at hrp
    exact hrp rfl
  · have heq : compareWhole r p = .eq := by
      rw [compareWhole_swap, compareWhole_eq_eq.mpr htied]
      rfl
    exact compareNames_ne_gt.mp (hca heq) hnames

/-- A text between two numbers that are not in this order makes a circle. -/
theorem cyclicValues_of_between {p q r : String} (hp : p ∈ a.path) (hq : q ∈ b.path)
    (hr : r ∈ c.path) (hbetween : Between (splitPath p) (splitPath q) (splitPath r))
    (hnot : ¬ (BeforeOrPrefix (splitPath p) (splitPath r) ∨
      List.Forall₂ Tied (splitPath p) (splitPath r) ∧ NamesBefore a c)) :
    CyclicValues comparePathsWhole SortedInterface.path compareNames a b c := by
  obtain ⟨hpq, hqr⟩ := before_of_between hbetween
  have hpq' : comparePathsWhole p q = .lt := compareWhole_eq_lt.mpr (.inl hpq)
  have hqr' : comparePathsWhole q r = .lt := compareWhole_eq_lt.mpr (.inl hqr)
  rw [not_or, not_and] at hnot
  refine ⟨p, hp, q, hq, r, hr, ⟨?_, ?_, fun hgt => hnot.1 ?_, ?_⟩, ?_, ?_, fun heq => ?_⟩
  · rw [hpq']
    exact nofun
  · rw [hqr']
    exact nofun
  · rw [comparePathsWhole, compareWhole_swap] at hgt
    rw [← compareWhole_eq_lt]
    cases hpr : compareWhole (splitPath p) (splitPath r) with
    | lt => rfl
    | eq => simp [hpr, Ordering.swap] at hgt
    | gt => simp [hpr, Ordering.swap] at hgt
  · rintro ⟨heq, -⟩
    rw [hpq'] at heq
    cases heq
  · rw [hpq']
    exact nofun
  · rw [hqr']
    exact nofun
  · rw [compareNames_ne_gt]
    refine hnot.2 (compareWhole_eq_eq.mp ?_)
    rw [comparePathsWhole, compareWhole_swap] at heq
    cases hpr : compareWhole (splitPath p) (splitPath r) with
    | eq => rfl
    | lt => simp [hpr, Ordering.swap] at heq
    | gt => simp [hpr, Ordering.swap] at heq

/-- How an interface without a path comes between two that have one. -/
theorem bypassed_path_iff :
    Bypassed comparePathsWhole SortedInterface.path compareNames a b c ↔
      PathBefore a c ∧ b.path = none ∧ ¬ NamesBefore b c ∧ ¬ NamesBefore a b := by
  rw [Bypassed, ← pathBefore_iff, compareNames_ne_gt, compareNames_ne_gt]

/-- How one without a device comes between two that have one. -/
theorem bypassed_device_iff :
    Bypassed cfStringCompare SortedInterface.entityDevice compareUnique a b c ↔
      DeviceBefore a c ∧ b.entityDevice = none ∧ ¬ UniqueBefore b c ∧ ¬ UniqueBefore a b := by
  rw [Bypassed, ← deviceBefore_iff, compareUnique_ne_gt, compareUnique_ne_gt]

/-- How one without a unique name comes between two that have one. Behind these names nothing is
compared, so every such interface does. -/
theorem bypassed_unique_iff :
    Bypassed cfStringCompare SortedInterface.entityDeviceUnique (fun _ _ => .eq) a b c ↔
      UniqueBefore a c ∧ b.entityDeviceUnique = none := by
  simp [Bypassed, uniqueBefore_iff]

variable {S : Set SortedInterface}

/-- Three interfaces of the set that are of the same kind. -/
structure Trio (S : Set SortedInterface) (a b c : SortedInterface) : Prop where
  mem : ∀ x ∈ [a, b, c], x ∈ S
  sameKind : ∀ x ∈ [a, b, c], ∀ y ∈ [a, b, c], SameKind x y

/-- It is enough that the first two are of one kind, and the last two. -/
theorem trio_of_mem (ha : a ∈ S) (hb : b ∈ S) (hc : c ∈ S) (hab : SameKind a b)
    (hbc : SameKind b c) : Trio S a b c := by
  have hac := hab.trans hbc
  refine ⟨?_, ?_⟩
  · simp only [List.forall_mem_cons, List.not_mem_nil, false_imp_iff, implies_true, and_true]
    exact ⟨ha, hb, hc⟩
  · simp only [List.forall_mem_cons, List.not_mem_nil, false_imp_iff, implies_true, and_true]
    exact ⟨⟨hab.trans hab.symm, hab, hac⟩, ⟨hab.symm, hbc.trans hbc.symm, hbc⟩,
      ⟨hac.symm, hbc.symm, hac.symm.trans hac⟩⟩

namespace Sortable

/-- The paths of interfaces that can be sorted are in no circle. -/
theorem not_cyclicValues (h : Sortable S) (habc : Trio S a b c) :
    ¬ CyclicValues comparePathsWhole SortedInterface.path compareNames a b c := by
  rintro ⟨p, hp, q, hq, r, hr, hcyclic, hpq, hqr, hrp⟩
  have ha : a ∈ [a, b, c] := by simp
  have hb : b ∈ [a, b, c] := by simp
  have hc : c ∈ [a, b, c] := by simp
  obtain ⟨hmem, hkind⟩ := habc
  obtain hbetween | hbetween | hbetween := between_of_cyclic hcyclic
  · exact not_ordered_of_cyclic hcyclic.2.2.1 hrp (h.between a (hmem a ha) b (hmem b hb) c
      (hmem c hc) (hkind a ha b hb) (hkind b hb c hc) p hp q hq r hr hbetween)
  · exact not_ordered_of_cyclic hcyclic.1 hpq (h.between b (hmem b hb) c (hmem c hc) a
      (hmem a ha) (hkind b hb c hc) (hkind c hc a ha) q hq r hr p hp hbetween)
  · exact not_ordered_of_cyclic hcyclic.2.1 hqr (h.between c (hmem c hc) a (hmem a ha) b
      (hmem b hb) (hkind c hc a ha) (hkind a ha b hb) r hr p hp q hq hbetween)

/-- **Interfaces that can be sorted are in no circle.** -/
theorem not_cyclic_rest (h : Sortable S) (habc : Trio S a b c) : ¬ Cyclic compareRest a b c := by
  have hvalues := h.not_cyclicValues habc
  obtain ⟨hmem, hkind⟩ := habc
  rw [cyclic_rest_iff, cyclic_names_iff]
  rintro (hcyclic | hpath | ⟨hpaths, hdevice | ⟨hdevices, hunique⟩⟩)
  · exact hvalues hcyclic
  · refine not_someBypassed (fun x hx y hy z hz hxyz => ?_) hpath
    obtain ⟨hbefore, hnone, hyz, hxy⟩ := bypassed_path_iff.mp hxyz
    exact (h.withoutPath x (hmem x hx) y (hmem y hy) z (hmem z hz) (hkind x hx y hy)
      (hkind y hy z hz) hbefore hnone).elim hxy hyz
  · refine not_someBypassed (fun x hx y hy z hz hxyz => ?_) hdevice
    obtain ⟨hbefore, hnone, hyz, hxy⟩ := bypassed_device_iff.mp hxyz
    exact (h.withoutDevice x (hmem x hx) y (hmem y hy) z (hmem z hz) (hkind x hx y hy)
      (hkind y hy z hz) (hpaths.of_mem hx hy hz) hbefore hnone).elim hxy hyz
  · refine not_someBypassed (fun x hx y hy z hz hxyz => ?_) hunique
    obtain ⟨hbefore, hnone⟩ := bypassed_unique_iff.mp hxyz
    exact h.withoutUnique x (hmem x hx) y (hmem y hy) z (hmem z hz) (hkind x hx y hy)
      (hkind y hy z hz) (hpaths.of_mem hx hy hz) (hdevices.of_mem hx hy hz) hbefore hnone

/-- **Interfaces that can be sorted are compared by a total preorder.** -/
theorem transCmp (h : Sortable S) : TransCmp fun a b : S => networkInterfaceCompare a.1 b.1 := by
  have hrest (a b : S) : networkInterfaceCompare a.1 b.1 =
      (compareKinds a.1 b.1).then (compareRest a.1 b.1) :=
    networkInterfaceCompare_rest fun hkind p hp q hq hproper =>
      h.begins b.1 b.2 a.1 a.2 hkind.symm q hq p hp hproper
  simp only [hrest]
  rw [transCmp_iff_not_cyclic]
  · intro a b c hcyclic
    have hkinds : TransCmp fun a b : S => compareKinds a.1 b.1 :=
      transCmp_comap inferInstance Subtype.val
    obtain ⟨⟨hab, hbc, -⟩, hcyclic⟩ := cyclic_transCmp_then_iff.mp hcyclic
    rw [compareKinds_eq_eq] at hab hbc
    exact h.not_cyclic_rest (trio_of_mem a.2 b.2 c.2 hab hbc) hcyclic
  · intro a b
    have hkinds : compareKinds a.1 b.1 = (compareKinds b.1 a.1).swap := OrientedCmp.eq_swap
    rw [Ordering.swap_then, ← compareRest_swap, ← hkinds]

end Sortable

/-- A path that begins another one is before it, so the other one has to be behind it by the names,
where the code finds the two paths equal. -/
theorem namesBefore_of_properPrefix
    (hswap : networkInterfaceCompare a b = (networkInterfaceCompare b a).swap)
    (hkind : SameKind a b) {p q : String} (hp : p ∈ a.path) (hq : q ∈ b.path)
    (hproper : ProperPrefix (splitPath p) (splitPath q)) : NamesBefore a b := by
  have hnot : ¬ ProperPrefix (splitPath q) (splitPath p) := fun h =>
    absurd (compareElements_of_properPrefix h).2
      (Nat.not_lt_of_lt (compareElements_of_properPrefix hproper).2)
  have hpq : comparePaths p q = .lt := by
    rw [comparePaths, compareComponents_eq hnot]
    exact compareWhole_eq_lt.mpr (.inr hproper)
  have hqp : comparePaths q p = .eq := compareComponents_of_properPrefix hproper
  rw [networkInterfaceCompare_then, networkInterfaceCompare_then, compareKinds_eq_eq.mpr hkind,
    compareKinds_eq_eq.mpr hkind.symm, Ordering.eq_then, Ordering.eq_then, Option.mem_def.mp hp,
    Option.mem_def.mp hq, compareIfBoth, compareIfBoth, hpq, hqp, Ordering.eq_then,
    ← compareNames_swap] at hswap
  exact compareNames_eq_lt.mp hswap.symm

/-- **A total preorder asks for the conditions.** -/
theorem sortable_of_transCmp (h : TransCmp fun a b : S => networkInterfaceCompare a.1 b.1) :
    Sortable S := by
  have hbegins : ∀ a ∈ S, ∀ b ∈ S, SameKind a b → ∀ p ∈ a.path, ∀ q ∈ b.path,
      ProperPrefix (splitPath p) (splitPath q) → NamesBefore a b :=
    fun a ha b hb hkind p hp q hq hproper => namesBefore_of_properPrefix
      (h.eq_swap (a := ⟨a, ha⟩) (b := ⟨b, hb⟩)) hkind hp hq hproper
  have hcircle : ∀ {a b c : SortedInterface}, a ∈ S → b ∈ S → c ∈ S → SameKind a b →
      SameKind b c → ¬ Cyclic compareRest a b c := by
    intro a b c ha hb hc hab hbc hcyclic
    have hrest {x y : SortedInterface} (hx : x ∈ S) (hy : y ∈ S) (hxy : SameKind x y) :
        networkInterfaceCompare x y = compareRest x y := by
      rw [networkInterfaceCompare_rest fun hkind p hp q hq hproper =>
        hbegins y hy x hx hkind.symm q hq p hp hproper, compareKinds_eq_eq.mpr hxy,
        Ordering.eq_then]
    have hac := hab.trans hbc
    have hnot : ¬ Cyclic (fun a b : S => networkInterfaceCompare a.1 b.1) ⟨a, ha⟩ ⟨b, hb⟩ ⟨c, hc⟩ :=
      not_cyclic _ _ _
    refine hnot ?_
    simpa only [Cyclic, hrest ha hb hab, hrest hb hc hbc, hrest hc ha hac.symm] using hcyclic
  refine ⟨hbegins, ?_, ?_, ?_, ?_⟩
  · intro a ha b hb c hc hab hbc p hp q hq r hr hbetween
    by_contra hnot
    exact hcircle ha hb hc hab hbc
      (cyclic_rest_iff.mpr (.inl (cyclicValues_of_between hp hq hr hbetween hnot)))
  · intro a ha b hb c hc hab hbc hbefore hnone
    by_contra hnot
    rw [not_or] at hnot
    refine hcircle hc hb ha hbc.symm hab.symm (cyclic_rest_iff.mpr (.inr (.inl (.inl ?_))))
    exact bypassed_path_iff.mpr ⟨hbefore, hnone, hnot.2, hnot.1⟩
  · intro a ha b hb c hc hab hbc hpaths hbefore hnone
    by_contra hnot
    rw [not_or] at hnot
    refine hcircle hc hb ha hbc.symm hab.symm (cyclic_rest_iff.mpr (.inr (.inr ⟨?_, ?_⟩)))
    · exact hpaths.of_mem (by simp) (by simp) (by simp)
    · exact cyclic_names_iff.mpr
        (.inl (.inl (bypassed_device_iff.mpr ⟨hbefore, hnone, hnot.2, hnot.1⟩)))
  · intro a ha b hb c hc hab hbc hpaths hdevices hbefore hnone
    refine hcircle hc hb ha hbc.symm hab.symm (cyclic_rest_iff.mpr (.inr (.inr ⟨?_, ?_⟩)))
    · exact hpaths.of_mem (by simp) (by simp) (by simp)
    · exact cyclic_names_iff.mpr (.inr ⟨hdevices.of_mem (by simp) (by simp) (by simp),
        .inl (bypassed_unique_iff.mpr ⟨hbefore, hnone⟩)⟩)

/-- Sorting asks for nothing else. -/
theorem isTotalPreorder_of_transCmp {S : Set SortedInterface}
    (h : TransCmp fun a b : S => networkInterfaceCompare a.1 b.1) : IsTotalPreorder S := by
  refine ⟨?_, ?_, ?_⟩
  · intro a ha b hb
    have hswap := h.eq_swap (a := ⟨a, ha⟩) (b := ⟨b, hb⟩)
    simp only at hswap
    rw [hswap]
    cases networkInterfaceCompare b a <;> simp [Ordering.swap]
  · intro a ha b hb c hc hab hbc
    have hle := h.isLE_trans (a := ⟨a, ha⟩) (b := ⟨b, hb⟩) (c := ⟨c, hc⟩)
    exact Ordering.ne_gt_iff_isLE.mpr
      (hle (Ordering.ne_gt_iff_isLE.mp hab) (Ordering.ne_gt_iff_isLE.mp hbc))
  · intro l l' hl hperm hsorted hsorted'
    obtain ⟨m, rfl⟩ : ∃ m : List S, m.map Subtype.val = l := ⟨l.attach.map fun a =>
      ⟨a.1, hl a.1 a.2⟩, by rw [List.map_map]; exact List.attach_map_subtype_val l⟩
    have hl' : ∀ a ∈ l', a ∈ S := fun a ha => hl a (hperm.mem_iff.mpr ha)
    obtain ⟨m', rfl⟩ : ∃ m' : List S, m'.map Subtype.val = l' := ⟨l'.attach.map fun a =>
      ⟨a.1, hl' a.1 a.2⟩, by rw [List.map_map]; exact List.attach_map_subtype_val l'⟩
    rw [List.pairwise_map] at hsorted hsorted'
    rw [List.forall₂_map_left_iff, List.forall₂_map_right_iff]
    refine SortedTies.forall₂_eq_of_perm ((List.map_perm_map_iff Subtype.val_injective).mp hperm)
      ?_ ?_
    · exact hsorted.imp fun hab => Ordering.ne_gt_iff_isLE.mp hab
    · exact hsorted'.imp fun hab => Ordering.ne_gt_iff_isLE.mp hab

/-- A comparison that orders the interfaces is one that may be sorted with. -/
theorem IsTotalPreorder.transCmp (h : IsTotalPreorder S) :
    TransCmp fun a b : S => networkInterfaceCompare a.1 b.1 where
  eq_swap {a b} := by
    have hab := h.antisymm a.1 a.2 b.1 b.2
    have hba := h.antisymm b.1 b.2 a.1 a.2
    cases hcmp : networkInterfaceCompare a.1 b.1 <;>
      cases hcmp' : networkInterfaceCompare b.1 a.1 <;> simp_all [Ordering.swap]
  isLE_trans {a b c} hab hbc :=
    Ordering.ne_gt_iff_isLE.mp (h.trans a.1 a.2 b.1 b.2 c.1 c.2 (Ordering.ne_gt_iff_isLE.mpr hab)
      (Ordering.ne_gt_iff_isLE.mpr hbc))

/-- **A set of interfaces can be sorted** exactly if its interfaces satisfy the conditions. -/
theorem networkInterfaceCompare_iff (S : Set SortedInterface) : IsTotalPreorder S ↔ Sortable S :=
  ⟨fun h => sortable_of_transCmp h.transCmp, fun h => isTotalPreorder_of_transCmp h.transCmp⟩

/-- An interface that is not built-in -/
def external (path entityDevice entityDeviceUnique : Option String) : SortedInterface :=
  ⟨0, false, none, path, entityDevice, entityDeviceUnique⟩

/-- A path and one that begins with it: the longer one is not behind the shorter one. -/
theorem not_isTotalPreorder : ¬ IsTotalPreorder Set.univ := by
  intro h
  have hgt := (h.antisymm (external (some "a") none none) (Set.mem_univ _)
    (external (some "a/b") none none) (Set.mem_univ _)).mp (by decide +kernel)
  revert hgt
  decide +kernel

end ConfigdExtra
