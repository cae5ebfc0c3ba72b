import ConfigdExtra.NetworkInterface
import ConfigdExtra.ServiceOrder

/-!
# Interfaces by number

`show interfaces` prints the interfaces with numbers, `1`, `1.1`, `1.2`, `2`, …, one for each layer,
and `select interface` takes a number for an interface when nothing has it as its name.

* `InterfaceLookup`, `InterfaceContext` — what the commands look at.
* `findInterface`, `selectInterface` — `_find_interface` and `select_interface`.
* `showInterfaces`, `InterfaceRow` — `show_interfaces`.
* `NamesNoInterface`, `WrittenAsShown`, `IndexAgrees` — when the numbers of both agree.
* `indexAgrees_iff` — they do for a text that is written as the numbers are shown.

How many arguments `_find_interface` uses up is in `NetDispatch`.
-/

namespace ConfigdExtra.InterfaceIndex

/-! ## Looking for an interface -/

/-- The getters, and what the system is asked for. -/
structure InterfaceLookup where
  /-- `SCNetworkInterfaceGetLocalizedDisplayName` -/
  getLocalizedDisplayName : SCNetworkInterface → Option String
  /-- `SCNetworkInterfaceGetBSDName` -/
  getBSDName : SCNetworkInterface → Option String
  /-- `_SCNetworkInterfaceGetIOPath` -/
  getIOPath : SCNetworkInterface → Option String
  /-- `SCNetworkInterfaceGetInterfaceType` -/
  getInterfaceType : SCNetworkInterface → String
  /-- `_SCNetworkInterfaceCreateWithBSDName`, without virtual interfaces -/
  createWithBSDName : String → Option SCNetworkInterface
  /-- `SCBondInterfaceGetMemberInterfaces` -/
  bondMembers : SCNetworkInterface → Option (List SCNetworkInterface)
  /-- `SCBridgeInterfaceGetMemberInterfaces` -/
  bridgeMembers : SCNetworkInterface → Option (List SCNetworkInterface)
  /-- `SCVLANInterfaceGetPhysicalInterface` -/
  physicalInterface : SCNetworkInterface → Option SCNetworkInterface
  /-- `_copy_interfaces`, or the error -/
  copyInterfaces : Except String (List SCNetworkInterface)

/-- The variables of the commands. -/
structure InterfaceContext where
  /-- `net_interface` -/
  netInterface : Option SCNetworkInterface
  /-- `net_service`, by what `SCNetworkServiceGetInterface` gives for it -/
  netService : Option (Option SCNetworkInterface)
  /-- `interfaces` -/
  interfaces : Option (List SCNetworkInterface)

variable (look : InterfaceLookup)

/-- One of the loops over the interfaces: the one that matches, if there is one, and an error if
there are several. -/
def matchLoop (matching : SCNetworkInterface → Option SCNetworkInterface) :
    Option SCNetworkInterface → List SCNetworkInterface →
      Except String (Option SCNetworkInterface)
  | selected, [] => .ok selected
  | selected, i :: myInterfaces =>
    match matching i, selected with
    | none, _ => matchLoop matching selected myInterfaces
    | some interface, none => matchLoop matching (some interface) myInterfaces
    | some _, some _ => .error "multiple interfaces match\n"

/-- By its display name. -/
def matchesDisplayName (selectName : String) (i : SCNetworkInterface) : Option SCNetworkInterface :=
  if look.getLocalizedDisplayName i = some selectName then some i else none

/-- The first layer with a BSD name, and the name. -/
def layerWithBSDName : SCNetworkInterface → Option (SCNetworkInterface × String)
  | .mk info bond bridge vlan none =>
    (look.getBSDName (.mk info bond bridge vlan none)).map (⟨.mk info bond bridge vlan none, ·⟩)
  | .mk info bond bridge vlan (some below) =>
    match look.getBSDName (.mk info bond bridge vlan (some below)) with
    | some bsdName => some (.mk info bond bridge vlan (some below), bsdName)
    | none => layerWithBSDName below

/-- By its BSD name. -/
def matchesBSDName (selectName : String) (i : SCNetworkInterface) : Option SCNetworkInterface :=
  match layerWithBSDName look i with
  | some (interface, bsdName) => if bsdName = selectName then some interface else none
  | none => none

/-- By its type. -/
def matchesType (selectName : String) (i : SCNetworkInterface) : Option SCNetworkInterface :=
  if look.getInterfaceType i = selectName then some i else none

/-- A hidden interface that exists, by its BSD name. -/
def hiddenInterface (selectName : String) : Option SCNetworkInterface :=
  (look.createWithBSDName selectName).filter fun i => (look.getIOPath i).isSome

/-- So many layers down. -/
def layerBelow : ℕ → SCNetworkInterface → Option SCNetworkInterface
  | 0, selected => some selected
  | val + 1, selected =>
    match selected.interface with
    | none => none
    | some below => layerBelow val below

/-- The number of the layer: what is behind the number of the interface. -/
def childByIndex (rest : List Char) (selected : SCNetworkInterface) : Option SCNetworkInterface :=
  match rest with
  | '.' :: tail =>
    let child := strtol (String.ofList tail)
    if tail ≠ [] ∧ child.rest = [] ∧ child.erange = false then
      layerBelow child.value.toNat selected
    else some selected
  | _ => some selected

/-- By its number, and the number of the layer. -/
def byIndex (myInterfaces : List SCNetworkInterface) (str : String) : Option SCNetworkInterface :=
  let top := strtol str
  if str ≠ "" ∧ (top.rest = [] ∨ top.rest.head? = some '.') ∧ top.erange = false then
    if 0 < top.value ∧ top.value ≤ myInterfaces.length then
      myInterfaces[top.value.toNat - 1]?.bind (childByIndex top.rest)
    else none
  else none

/-- The end of `_find_interface`: a match is looked for in a list. -/
def findInterfaceIn (allowIndex : Bool) (myInterfaces : List SCNetworkInterface)
    (selectName : String) : Except String SCNetworkInterface :=
  match matchLoop (matchesDisplayName look selectName) none myInterfaces with
  | .error message => .error message
  | .ok (some selected) => .ok selected
  | .ok none =>
    match matchLoop (matchesBSDName look selectName) none myInterfaces with
    | .error message => .error message
    | .ok (some selected) => .ok selected
    | .ok none =>
      match hiddenInterface look selectName with
      | some selected => .ok selected
      | none =>
        match matchLoop (matchesType look selectName) none myInterfaces with
        | .error message => .error message
        | .ok (some selected) => .ok selected
        | .ok none =>
          match (if allowIndex then byIndex myInterfaces selectName else none) with
          | some selected => .ok selected
          | none => .error "no match\n"

/-- `$bond` and `$bridge`: the members of the selected interface. -/
def findMember (type notType : String)
    (members : SCNetworkInterface → Option (List SCNetworkInterface)) (c : InterfaceContext)
    (argv : List String) : Except String SCNetworkInterface :=
  match c.netInterface with
  | none => .error "interface not selected\n"
  | some netInterface =>
    if look.getInterfaceType netInterface ≠ type then .error notType
    else
      match argv with
      | [] => .error "no member interface specified\n"
      | selectName :: _ =>
        match members netInterface with
        | none => .error "no member interfaces\n"
        | some myInterfaces => findInterfaceIn look false myInterfaces selectName

/-- `$vlan` -/
def findPhysical (c : InterfaceContext) : Except String SCNetworkInterface :=
  match c.netInterface with
  | none => .error "interface not selected\n"
  | some netInterface =>
    if look.getInterfaceType netInterface ≠ kSCNetworkInterfaceTypeVLAN then
      .error "interface not VLAN\n"
    else
      match look.physicalInterface netInterface with
      | none => .error "no physical interface\n"
      | some selected => .ok selected

/-- `_find_interface`, with what it prints when it finds none. -/
def findInterface (c : InterfaceContext) :
    List String → Except String SCNetworkInterface × InterfaceContext
  | [] => (.error "no interface specified\n", c)
  | name :: argv =>
    if strcasecmp name "$child" then
      match c.netInterface with
      | none => (.error "interface not selected\n", c)
      | some netInterface =>
        match netInterface.interface with
        | none => (.error "no child interface\n", c)
        | some selected => (.ok selected, c)
    else if strcasecmp name "$service" then
      match c.netService with
      | none => (.error "service not selected\n", c)
      | some none => (.error "no interface for service\n", c)
      | some (some selected) => (.ok selected, c)
    else if strcasecmp name "$bond" then
      (findMember look kSCNetworkInterfaceTypeBond "interface not Bond\n" look.bondMembers c
        argv, c)
    else if strcasecmp name "$bridge" then
      (findMember look kSCNetworkInterfaceTypeBridge "interface not Bridge\n" look.bridgeMembers c
        argv, c)
    else if strcasecmp name "$vlan" then (findPhysical look c, c)
    else
      match c.interfaces with
      | some myInterfaces => (findInterfaceIn look true myInterfaces name, c)
      | none =>
        -- the numbers have not been shown
        match look.copyInterfaces with
        | .error message => (.error message, c)
        | .ok myInterfaces =>
          (findInterfaceIn look false myInterfaces name, { c with interfaces := some myInterfaces })

/-- The name that an interface is shown with. -/
def interfaceName (i : SCNetworkInterface) : String :=
  match look.getLocalizedDisplayName i with
  | some name => name
  | none => (look.getBSDName i).getD (look.getInterfaceType i)

/-- `select_interface`, with what it prints. -/
def selectInterface (c : InterfaceContext) (argv : List String) : InterfaceContext × String :=
  match findInterface look c argv with
  | (.error message, c') => (c', message)
  | (.ok interface, c') =>
    ({ c' with netInterface := some interface },
      "interface \"" ++ interfaceName look interface ++ "\" selected\n")

/-! ## Showing the interfaces -/

/-- What `show_interfaces` prints a row for. -/
structure InterfaceRow where
  /-- `i + 1` -/
  number : ℕ
  /-- `childIndex` -/
  childIndex : ℕ
  /-- the interface -/
  interface : SCNetworkInterface

namespace InterfaceRow

/-- The number that is printed. -/
def label (r : InterfaceRow) : String :=
  if r.childIndex = 0 then toString r.number
  else toString r.number ++ "." ++ toString r.childIndex

/-- The row, with the first number at least two wide. -/
def text (r : InterfaceRow) (netInterface : Option SCNetworkInterface) : String :=
  let isSelected := if netInterface.any r.interface.equal then ">" else " "
  let pad := if r.number < 10 then " " else ""
  isSelected ++ pad ++ r.label ++ ": " ++ interfaceName look r.interface ++ "\n"

end InterfaceRow

/-- The `do` loop, over an interface and the layers below. -/
def layerRows (number : ℕ) : ℕ → SCNetworkInterface → List InterfaceRow
  | childIndex, .mk info bond bridge vlan none =>
    [⟨number, childIndex, .mk info bond bridge vlan none⟩]
  | childIndex, .mk info bond bridge vlan (some below) =>
    ⟨number, childIndex, .mk info bond bridge vlan (some below)⟩ ::
      layerRows number (childIndex + 1) below

/-- The `for` loop. -/
def interfaceRows : ℕ → List SCNetworkInterface → List InterfaceRow
  | _, [] => []
  | i, interface :: interfaces => layerRows (i + 1) 0 interface ++ interfaceRows (i + 1) interfaces

/-- `show_interfaces`: the rows, and what it prints. -/
def showInterfaces (c : InterfaceContext) : InterfaceContext × List InterfaceRow × String :=
  match look.copyInterfaces with
  | .error message => ({ c with interfaces := none }, [], message)
  | .ok interfaces =>
    let rows := interfaceRows 0 interfaces
    ({ c with interfaces := some interfaces }, rows,
      String.join (rows.map fun r => r.text look c.netInterface))

/-! ## When the numbers agree -/

/-- The interfaces that are shown, no more and no more layers than a `CFIndex` counts. -/
structure ShownInterfaces where
  /-- the interfaces -/
  interfaces : List SCNetworkInterface
  /-- how many -/
  count_lt : interfaces.length < 2 ^ 63
  /-- how many layers -/
  childIndex_lt : ∀ r ∈ interfaceRows 0 interfaces, r.childIndex < 2 ^ 63

/-- The text is not the name of an interface, and no word for one. -/
structure NamesNoInterface (interfaces : List SCNetworkInterface) (text : String) : Prop where
  /-- `$child` and so on -/
  word : ∀ w ∈ ["$child", "$service", "$bond", "$bridge", "$vlan"], strcasecmp text w = false
  /-- display names -/
  displayName : ∀ i ∈ interfaces, look.getLocalizedDisplayName i ≠ some text
  /-- BSD names -/
  bsdName : ∀ i ∈ interfaces, ∀ layer, layerWithBSDName look i ≠ some (layer, text)
  /-- BSD names of hidden interfaces -/
  hidden : hiddenInterface look text = none
  /-- types -/
  type : ∀ i ∈ interfaces, look.getInterfaceType i ≠ text

/-- What the text selects is what is shown with it. -/
structure IndexAgrees (c : InterfaceContext) (text : String) : Prop where
  /-- a number that is shown -/
  shown : ∀ r ∈ (showInterfaces look c).2.1, r.label = text →
    selectInterface look (showInterfaces look c).1 [text] =
      ({ (showInterfaces look c).1 with netInterface := some r.interface },
        "interface \"" ++ interfaceName look r.interface ++ "\" selected\n")
  /-- any other text -/
  notShown : (∀ r ∈ (showInterfaces look c).2.1, r.label ≠ text) →
    selectInterface look (showInterfaces look c).1 [text] =
      ((showInterfaces look c).1, "no match\n")

/-- There is a number at the front of the text. -/
structure StartsWith (text : String) (n : ℤ) (rest : List Char) : Prop where
  /-- there are digits -/
  digits : (readNumber text).digits ≠ []
  /-- the number -/
  value : (readNumber text).value = n
  /-- what is behind it -/
  rest : (readNumber text).rest = rest

/-- If the text starts with the number of an interface and ends there or with a point, then it is
written as such numbers are shown: no white space, sign or leading zeros, and behind the point there
is the number of a layer, from one on. -/
structure WrittenAsShown (interfaces : List SCNetworkInterface) (text : String) : Prop where
  /-- without a point -/
  top : ∀ n : ℕ, 1 ≤ n → n ≤ interfaces.length → StartsWith text n [] → text = toString n
  /-- with a point -/
  below : ∀ (n : ℕ) (tail : List Char), 1 ≤ n → n ≤ interfaces.length →
    StartsWith text n ('.' :: tail) →
      ∃ k : ℕ, 1 ≤ k ∧ FitsLong k ∧ StartsWith (String.ofList tail) k [] ∧
        ∀ i layer, interfaces[n - 1]? = some i → layerBelow k i = some layer →
          text = toString n ++ "." ++ toString k

/-! ## Numbers that are written -/

theorem forall_isDigit_toString_nat (n : ℕ) : ∀ c ∈ (toString n).toList, c.isDigit = true := by
  intro c hc
  rw [Nat.toString_eq_repr, Nat.toList_repr] at hc
  exact Nat.isDigit_of_mem_toDigits (by decide) (by decide) hc

theorem toString_toList_ne_nil (n : ℕ) : (toString n).toList ≠ [] := by
  rw [Nat.toString_eq_repr, Nat.toList_repr]
  exact Nat.toDigits_ne_nil

/-- A number that is printed is read back. -/
theorem digitsValue_toString (n : ℕ) : digitsValue (toString n).toList = n := by
  rw [Nat.toString_eq_repr, Nat.toList_repr]
  exact Nat.ofDigitChars_ten_toDigits

theorem isSpace_of_isDigit {c : Char} (hc : c.isDigit = true) : isSpace c = false := by
  have hlo : 48 ≤ c.toNat := (Char.isDigit_iff_toNat.mp hc).1
  have hne : c ≠ ' ' := by
    rintro rfl
    exact absurd hc (by decide)
  simp only [isSpace, Bool.or_eq_false_iff, beq_eq_false_iff_ne, Bool.and_eq_false_iff,
    decide_eq_false_iff_not]
  exact ⟨hne, Or.inr (by omega)⟩

/-- A number that is written reads back, with what follows it. -/
theorem startsWith_toString (n : ℕ) {rest : List Char}
    (hrest : ∀ c ∈ rest.head?, c.isDigit = false) :
    StartsWith (String.ofList ((toString n).toList ++ rest)) n rest := by
  obtain ⟨c, ds, hds⟩ := List.exists_cons_of_ne_nil (toString_toList_ne_nil n)
  have hdigits := forall_isDigit_toString_nat n
  have hc : c.isDigit = true := hdigits c (hds ▸ List.mem_cons_self)
  have hspace : ((toString n).toList ++ rest).dropWhile isSpace = (toString n).toList ++ rest := by
    rw [hds, List.cons_append, List.dropWhile_cons_of_neg]
    simp [isSpace_of_isDigit hc]
  have hsign : readSign ((toString n).toList ++ rest) = (false, (toString n).toList ++ rest) := by
    refine readSign_of_ne (fun r h => ?_) fun r h => ?_ <;>
      · rw [hds, List.cons_append, List.cons.injEq] at h
        rw [h.1] at hc
        exact absurd hc (by decide)
  have htake : rest.takeWhile Char.isDigit = [] := by
    cases rest with
    | nil => rfl
    | cons d rest => exact List.takeWhile_cons_of_neg (by simp [hrest d rfl])
  have hdrop : rest.dropWhile Char.isDigit = rest := by
    cases rest with
    | nil => rfl
    | cons d rest => exact List.dropWhile_cons_of_neg (by simp [hrest d rfl])
  have hall : (readNumber (String.ofList ((toString n).toList ++ rest))).digits =
      (toString n).toList := by
    simp only [readNumber, String.toList_ofList, hspace, hsign]
    rw [List.takeWhile_append_of_pos hdigits, htake, List.append_nil]
  refine ⟨?_, ?_, ?_⟩
  · rw [hall]
    exact toString_toList_ne_nil n
  · rw [NumberText.value, hall]
    simp only [readNumber, String.toList_ofList, hspace, hsign, signedValue, digitsValue_toString]
    rfl
  · simp only [readNumber, String.toList_ofList, hspace, hsign]
    rw [List.dropWhile_append_of_pos hdigits, hdrop]

/-! ## Labels -/

namespace InterfaceRow

/-- What is behind the first number of a label. -/
def labelRest (r : InterfaceRow) : List Char :=
  if r.childIndex = 0 then [] else '.' :: (toString r.childIndex).toList

/-- The label starts with the number of the interface. -/
theorem label_eq (r : InterfaceRow) :
    r.label = String.ofList ((toString r.number).toList ++ r.labelRest) := by
  rw [label, labelRest]
  split_ifs
  · rw [List.append_nil, String.ofList_toList]
  · refine String.toList_injective ?_
    simp

theorem startsWith_label (r : InterfaceRow) : StartsWith r.label r.number r.labelRest := by
  rw [label_eq]
  refine startsWith_toString r.number fun c hc => ?_
  rw [labelRest] at hc
  split_ifs at hc
  · simp at hc
  · simp only [List.head?_cons, Option.mem_some_iff] at hc
    subst hc
    decide

theorem startsWith_childIndex (r : InterfaceRow) :
    StartsWith (toString r.childIndex) r.childIndex [] := by
  have h : StartsWith (String.ofList ((toString r.childIndex).toList ++ [])) r.childIndex [] :=
    startsWith_toString r.childIndex (by simp)
  rwa [List.append_nil, String.ofList_toList] at h

end InterfaceRow

/-! ## Rows -/

/-- The layers are counted from the top. -/
theorem layerBelow_succ (val : ℕ) (i : SCNetworkInterface) :
    layerBelow (val + 1) i = i.interface.bind (layerBelow val) := by
  rw [layerBelow]
  cases i.interface <;> rfl

/-- A row for each layer. -/
theorem mem_layerRows {number childIndex : ℕ} {i : SCNetworkInterface} {r : InterfaceRow} :
    r ∈ layerRows number childIndex i ↔
      ∃ k, r.number = number ∧ r.childIndex = childIndex + k ∧
        layerBelow k i = some r.interface := by
  obtain ⟨rnumber, rchild, rinterface⟩ := r
  cases i with
  | mk info bond bridge vlan interface =>
    cases interface with
    | none =>
      rw [layerRows, List.mem_singleton, InterfaceRow.mk.injEq]
      constructor
      · rintro ⟨rfl, rfl, rfl⟩
        exact ⟨0, rfl, rfl, rfl⟩
      · rintro ⟨k, rfl, hk, hlayer⟩
        cases k with
        | zero => exact ⟨rfl, hk, (Option.some.inj hlayer).symm⟩
        | succ k => simp [layerBelow_succ, SCNetworkInterface.interface] at hlayer
    | some below =>
      rw [layerRows, List.mem_cons, mem_layerRows, InterfaceRow.mk.injEq]
      constructor
      · rintro (⟨rfl, rfl, rfl⟩ | ⟨k, rfl, hk, hlayer⟩)
        · exact ⟨0, rfl, rfl, rfl⟩
        · exact ⟨k + 1, rfl, by simpa [Nat.add_assoc, Nat.add_comm 1 k] using hk, hlayer⟩
      · rintro ⟨k, rfl, hk, hlayer⟩
        cases k with
        | zero => exact Or.inl ⟨rfl, hk, (Option.some.inj hlayer).symm⟩
        | succ k =>
          exact Or.inr ⟨k, rfl, by simpa [Nat.add_assoc, Nat.add_comm 1 k] using hk, hlayer⟩
termination_by structural i

/-- The rows of a list. -/
theorem mem_interfaceRows {n : ℕ} {interfaces : List SCNetworkInterface} {r : InterfaceRow} :
    r ∈ interfaceRows n interfaces ↔
      ∃ j i, interfaces[j]? = some i ∧ r.number = n + j + 1 ∧
        layerBelow r.childIndex i = some r.interface := by
  induction interfaces generalizing n with
  | nil => simp [interfaceRows]
  | cons interface interfaces ih =>
    rw [interfaceRows, List.mem_append, ih, mem_layerRows]
    constructor
    · rintro (⟨k, hnumber, hk, hlayer⟩ | ⟨j, i, hi, hnumber, hlayer⟩)
      · rw [Nat.zero_add] at hk
        exact ⟨0, interface, rfl, by omega, hk ▸ hlayer⟩
      · exact ⟨j + 1, i, hi, by omega, hlayer⟩
    · rintro ⟨j, i, hi, hnumber, hlayer⟩
      cases j with
      | zero =>
        cases hi
        exact Or.inl ⟨r.childIndex, by omega, (Nat.zero_add _).symm, hlayer⟩
      | succ j => exact Or.inr ⟨j, i, hi, by omega, hlayer⟩

/-- The row of a layer of an interface in the list. -/
theorem exists_row {interfaces : List SCNetworkInterface} {n k : ℕ} {i layer : SCNetworkInterface}
    (hn : 1 ≤ n) (hi : interfaces[n - 1]? = some i) (hlayer : layerBelow k i = some layer) :
    (⟨n, k, layer⟩ : InterfaceRow) ∈ interfaceRows 0 interfaces :=
  mem_interfaceRows.mpr ⟨n - 1, i, hi, by simp only; omega, hlayer⟩

/-! ## The number of an interface -/

section

variable {interfaces : List SCNetworkInterface} {text : String} {n : ℕ}

/-- A text that starts with a number is read as it, if it fits a `long`. -/
theorem StartsWith.strtol_eq {n : ℤ} {rest : List Char} (h : StartsWith text n rest)
    (hn : FitsLong n) : strtol text = ⟨n, rest, false⟩ := by
  rw [strtol_of_fits h.digits (h.value ▸ hn), h.value, h.rest]

/-- What `strtol` reads without an error and with something in front of what it leaves. -/
theorem startsWith_of_strtol (hdigits : (readNumber text).digits ≠ [])
    (herange : (strtol text).erange = false) :
    FitsLong (strtol text).value ∧ StartsWith text (strtol text).value (strtol text).rest := by
  have hfits : FitsLong (readNumber text).value := by
    rw [strtol, if_neg hdigits] at herange
    simpa using herange
  rw [strtol_of_fits hdigits hfits]
  exact ⟨hfits, hdigits, rfl, rfl⟩

theorem digits_ne_nil_of_value (h : (strtol text).value ≠ 0) : (readNumber text).digits ≠ [] := by
  intro hnil
  rw [strtol, if_pos hnil] at h
  exact h rfl

/-- The number of an interface that is listed fits. -/
theorem fitsLong_of_le (hcount : interfaces.length < 2 ^ 63) (hn : n ≤ interfaces.length) :
    FitsLong n := by
  rw [FitsLong]
  omega

/-- What is done with the number of an interface. -/
theorem byIndex_eq (hcount : interfaces.length < 2 ^ 63) (hn : 1 ≤ n) (hle : n ≤ interfaces.length)
    {rest : List Char} (h : StartsWith text n rest) (hrest : rest = [] ∨ rest.head? = some '.') :
    byIndex interfaces text = interfaces[n - 1]?.bind (childByIndex rest) := by
  have hpos : (0 : ℤ) < n ∧ (n : ℤ) ≤ interfaces.length := by omega
  simp only [byIndex, h.strtol_eq (fitsLong_of_le hcount hle)]
  rw [if_pos ⟨ne_empty_of_digits h.digits, hrest, trivial⟩, if_pos hpos]
  rfl

/-- A number alone. -/
theorem byIndex_top (hcount : interfaces.length < 2 ^ 63) (hn : 1 ≤ n)
    (hle : n ≤ interfaces.length) (h : StartsWith text n []) :
    byIndex interfaces text = interfaces[n - 1]? := by
  rw [byIndex_eq hcount hn hle h (Or.inl rfl)]
  exact Option.bind_fun_some _

/-- A number with the number of a layer. -/
theorem byIndex_below (hcount : interfaces.length < 2 ^ 63) (hn : 1 ≤ n)
    (hle : n ≤ interfaces.length) {tail : List Char} (h : StartsWith text n ('.' :: tail)) {k : ℤ}
    (hk : FitsLong k) (htail : StartsWith (String.ofList tail) k []) :
    byIndex interfaces text = interfaces[n - 1]?.bind (layerBelow k.toNat) := by
  have hne : tail ≠ [] := by
    rintro rfl
    exact htail.digits rfl
  have hchild : childByIndex ('.' :: tail) = layerBelow k.toNat := by
    funext selected
    simp only [childByIndex, htail.strtol_eq hk]
    rw [if_pos ⟨hne, trivial, trivial⟩]
  rw [byIndex_eq hcount hn hle h (Or.inr rfl), hchild]

/-- A number with something else behind the point. -/
theorem byIndex_malformed (hcount : interfaces.length < 2 ^ 63) (hn : 1 ≤ n)
    (hle : n ≤ interfaces.length) {tail : List Char} (h : StartsWith text n ('.' :: tail))
    (htail : ∀ k, FitsLong k → ¬ StartsWith (String.ofList tail) k []) :
    byIndex interfaces text = interfaces[n - 1]? := by
  have hchild : childByIndex ('.' :: tail) = some := by
    funext selected
    refine if_neg ?_
    rintro ⟨hne, hrest, herange⟩
    have hdigits : (readNumber (String.ofList tail)).digits ≠ [] := by
      intro hnil
      rw [strtol, if_pos hnil] at hrest
      exact hne (by simpa using hrest)
    obtain ⟨hfits, hstarts⟩ := startsWith_of_strtol hdigits herange
    exact htail _ hfits (hrest ▸ hstarts)
  rw [byIndex_eq hcount hn hle h (Or.inr rfl), hchild]
  exact Option.bind_fun_some _

/-- What selects an interface by number starts with a number of the list. -/
theorem startsWith_of_byIndex {i : SCNetworkInterface} (h : byIndex interfaces text = some i) :
    ∃ n : ℕ, 1 ≤ n ∧ n ≤ interfaces.length ∧
      (StartsWith text n [] ∨ ∃ tail, StartsWith text n ('.' :: tail)) := by
  rw [byIndex] at h
  split_ifs at h with htext hrange
  obtain ⟨-, hrest, herange⟩ := htext
  obtain ⟨hpos, hle⟩ := hrange
  obtain ⟨-, hstarts⟩ := startsWith_of_strtol (digits_ne_nil_of_value hpos.ne') herange
  have hcast : (((strtol text).value.toNat : ℕ) : ℤ) = (strtol text).value :=
    Int.toNat_of_nonneg hpos.le
  refine ⟨(strtol text).value.toNat, by omega, by omega, ?_⟩
  rw [hcast]
  rcases hrest with hnil | hpoint
  · exact Or.inl (hnil ▸ hstarts)
  · obtain ⟨tail, htail⟩ : ∃ tail, (strtol text).rest = '.' :: tail := by
      cases hcs : (strtol text).rest with
      | nil => simp [hcs] at hpoint
      | cons c cs =>
        rw [hcs, List.head?_cons, Option.some.injEq] at hpoint
        exact ⟨cs, by rw [hpoint]⟩
    exact Or.inr ⟨tail, htail ▸ hstarts⟩

end

/-! ## Agreement -/

section

variable {look} {text : String} {interfaces : List SCNetworkInterface}

/-- Where nothing matches, the loop finds nothing. -/
theorem matchLoop_eq_none {matching : SCNetworkInterface → Option SCNetworkInterface}
    {myInterfaces : List SCNetworkInterface} (h : ∀ i ∈ myInterfaces, matching i = none) :
    matchLoop matching none myInterfaces = .ok none := by
  induction myInterfaces with
  | nil => rfl
  | cons i myInterfaces ih =>
    rw [List.forall_mem_cons] at h
    simp only [matchLoop, h.1]
    exact ih h.2

/-- A text that is no name is taken for a number. -/
theorem NamesNoInterface.findInterfaceIn_eq (h : NamesNoInterface look interfaces text) :
    findInterfaceIn look true interfaces text =
      match byIndex interfaces text with
      | some selected => .ok selected
      | none => .error "no match\n" := by
  have hdisplay : ∀ i ∈ interfaces, matchesDisplayName look text i = none := fun i hi =>
    if_neg (h.displayName i hi)
  have hbsd : ∀ i ∈ interfaces, matchesBSDName look text i = none := by
    intro i hi
    rw [matchesBSDName]
    cases hlayer : layerWithBSDName look i with
    | none => rfl
    | some found =>
      refine if_neg fun hname => h.bsdName i hi found.1 ?_
      rw [hlayer, ← hname]
  have htype : ∀ i ∈ interfaces, matchesType look text i = none := fun i hi =>
    if_neg (h.type i hi)
  simp only [findInterfaceIn, matchLoop_eq_none hdisplay, matchLoop_eq_none hbsd, h.hidden,
    matchLoop_eq_none htype, if_true]

/-- Once the interfaces have been shown. -/
theorem NamesNoInterface.findInterface_eq (h : NamesNoInterface look interfaces text)
    {c : InterfaceContext} (hc : c.interfaces = some interfaces) :
    findInterface look c [text] =
      (match byIndex interfaces text with
        | some selected => .ok selected
        | none => .error "no match\n", c) := by
  have hword : ∀ w ∈ ["$child", "$service", "$bond", "$bridge", "$vlan"],
      ¬ strcasecmp text w = true := fun w hw => by simp [h.word w hw]
  simp only [List.forall_mem_cons] at hword
  obtain ⟨hchild, hservice, hbond, hbridge, hvlan, -⟩ := hword
  rw [findInterface, if_neg hchild, if_neg hservice, if_neg hbond, if_neg hbridge, if_neg hvlan]
  simp only [hc, h.findInterfaceIn_eq]

/-- The labels are unique: what is in front of the point and behind it is the row. -/
theorem byIndex_label (shown : ShownInterfaces) {r : InterfaceRow}
    (hr : r ∈ interfaceRows 0 shown.interfaces) :
    byIndex shown.interfaces r.label = some r.interface := by
  obtain ⟨j, i, hi, hnumber, hlayer⟩ := mem_interfaceRows.mp hr
  obtain ⟨hj, -⟩ := List.getElem?_eq_some_iff.mp hi
  have hindex : r.number - 1 = j := by omega
  have hstarts := r.startsWith_label
  by_cases hchild : r.childIndex = 0
  · rw [InterfaceRow.labelRest, if_pos hchild] at hstarts
    rw [byIndex_top shown.count_lt (by omega) (by omega) hstarts, hindex, hi, ← hlayer, hchild]
    rfl
  · rw [InterfaceRow.labelRest, if_neg hchild] at hstarts
    have hfits : FitsLong r.childIndex := by
      have := shown.childIndex_lt r hr
      rw [FitsLong]
      omega
    have htail : StartsWith (String.ofList (toString r.childIndex).toList) r.childIndex [] := by
      rw [String.ofList_toList]
      exact r.startsWith_childIndex
    rw [byIndex_below shown.count_lt (by omega) (by omega) hstarts hfits htail, hindex, hi]
    exact hlayer

/-- A text starts with one number. -/
theorem StartsWith.unique {n m : ℤ} {rest rest' : List Char} (h : StartsWith text n rest)
    (h' : StartsWith text m rest') : n = m ∧ rest = rest' :=
  ⟨h.value.symm.trans h'.value, h.rest.symm.trans h'.rest⟩

/-- A row without a point in its label is that of a whole interface. -/
theorem childIndex_eq_zero {r : InterfaceRow} (h : r.labelRest = []) : r.childIndex = 0 := by
  by_contra hne
  rw [InterfaceRow.labelRest, if_neg hne] at h
  exact List.cons_ne_nil _ _ h

/-- What is behind the point in a label. -/
theorem childIndex_of_labelRest {r : InterfaceRow} {tail : List Char}
    (h : r.labelRest = '.' :: tail) :
    1 ≤ r.childIndex ∧ tail = (toString r.childIndex).toList := by
  rw [InterfaceRow.labelRest] at h
  split_ifs at h with hzero
  exact ⟨Nat.one_le_iff_ne_zero.mpr hzero, (List.cons.inj h).2.symm⟩

/-- A text that is written as the numbers are shown, and is none of them, selects nothing. -/
theorem WrittenAsShown.byIndex_eq_none (shown : ShownInterfaces)
    (h : WrittenAsShown shown.interfaces text)
    (hlabel : ∀ r ∈ interfaceRows 0 shown.interfaces, r.label ≠ text) :
    byIndex shown.interfaces text = none := by
  by_contra hsome
  obtain ⟨selected, hselected⟩ := Option.ne_none_iff_exists'.mp hsome
  obtain ⟨n, hn, hle, htop | ⟨tail, hbelow⟩⟩ := startsWith_of_byIndex hselected
  · rw [byIndex_top shown.count_lt hn hle htop] at hselected
    exact hlabel ⟨n, 0, selected⟩ (exists_row hn hselected rfl) (h.top n hn hle htop).symm
  · obtain ⟨k, hk, hfits, htail, hcanonical⟩ := h.below n tail hn hle hbelow
    rw [byIndex_below shown.count_lt hn hle hbelow hfits htail] at hselected
    obtain ⟨i, hi, hlayer⟩ := Option.bind_eq_some_iff.mp hselected
    refine hlabel ⟨n, k, selected⟩ (exists_row hn hi hlayer) ?_
    rw [hcanonical i selected hi hlayer, InterfaceRow.label]
    exact if_neg (Nat.one_le_iff_ne_zero.mp hk)

/-- If nothing but the labels selects something, the text is written as they are. -/
theorem writtenAsShown_of_byIndex (shown : ShownInterfaces)
    (h : (∀ r ∈ interfaceRows 0 shown.interfaces, r.label ≠ text) →
      byIndex shown.interfaces text = none) : WrittenAsShown shown.interfaces text := by
  have hrow : ∀ {selected}, byIndex shown.interfaces text = some selected →
      ∃ r ∈ interfaceRows 0 shown.interfaces, r.label = text := by
    intro selected hselected
    by_contra hno
    rw [h fun r hr hlabel => hno ⟨r, hr, hlabel⟩] at hselected
    cases hselected
  refine ⟨fun n hn hle htop => ?_, fun n tail hn hle hbelow => ?_⟩
  · have hi := List.getElem?_eq_getElem (show n - 1 < shown.interfaces.length by omega)
    obtain ⟨r, -, rfl⟩ := hrow ((byIndex_top shown.count_lt hn hle htop).trans hi)
    obtain ⟨hnumber, hrest⟩ := r.startsWith_label.unique htop
    rw [InterfaceRow.label, if_pos (childIndex_eq_zero hrest), Nat.cast_inj.mp hnumber]
  · have hi := List.getElem?_eq_getElem (show n - 1 < shown.interfaces.length by omega)
    -- a label has the number of a layer behind the point
    have htail : ∀ {selected}, byIndex shown.interfaces text = some selected →
        ∃ k : ℕ, 1 ≤ k ∧ FitsLong k ∧ StartsWith (String.ofList tail) k [] ∧
          text = toString n ++ "." ++ toString k := by
      intro selected hselected
      obtain ⟨r, hr, rfl⟩ := hrow hselected
      obtain ⟨hnumber, hrest⟩ := r.startsWith_label.unique hbelow
      obtain ⟨hpos, htail⟩ := childIndex_of_labelRest hrest
      have hlt := shown.childIndex_lt r hr
      refine ⟨r.childIndex, hpos, by rw [FitsLong]; omega, ?_, ?_⟩
      · rw [htail, String.ofList_toList]
        exact r.startsWith_childIndex
      · rw [InterfaceRow.label, if_neg (Nat.one_le_iff_ne_zero.mp hpos), Nat.cast_inj.mp hnumber]
    by_cases hwhole : ∃ k : ℤ, FitsLong k ∧ StartsWith (String.ofList tail) k []
    · obtain ⟨k, hfits, hk⟩ := hwhole
      have hbyIndex := byIndex_below shown.count_lt hn hle hbelow hfits hk
      rw [hi, Option.bind_some] at hbyIndex
      rcases le_or_gt k 0 with hneg | hpos
      · -- nothing is counted down, and the interface itself is selected
        rw [Int.toNat_of_nonpos hneg] at hbyIndex
        obtain ⟨m, hm, -, hstarts, -⟩ := htail hbyIndex
        have := (hstarts.unique hk).1
        omega
      · have hcast : ((k.toNat : ℕ) : ℤ) = k := Int.toNat_of_nonneg hpos.le
        refine ⟨k.toNat, by omega, hcast.symm ▸ hfits, hcast.symm ▸ hk,
          fun i layer hi' hlayer => ?_⟩
        rw [hi, Option.some.injEq] at hi'
        subst hi'
        obtain ⟨m, -, -, hstarts, htext⟩ := htail (hbyIndex.trans hlayer)
        have hm : m = k.toNat := by
          have := (hstarts.unique hk).1
          omega
        rw [htext, hm]
    · have hmalformed := byIndex_malformed shown.count_lt hn hle hbelow fun k hfits hk =>
        hwhole ⟨k, hfits, hk⟩
      obtain ⟨k, -, hfits, hstarts, -⟩ := htail (hmalformed.trans hi)
      exact absurd ⟨k, hfits, hstarts⟩ hwhole

end

/-- **Interfaces by number.** When a text is not the name of an interface, it selects what is shown
with it, and nothing when nothing is, just if it is written as the numbers are shown. -/
theorem indexAgrees_iff (look : InterfaceLookup) (shown : ShownInterfaces)
    (hshown : look.copyInterfaces = .ok shown.interfaces) (c : InterfaceContext) (text : String)
    (hname : NamesNoInterface look shown.interfaces text) :
    IndexAgrees look c text ↔ WrittenAsShown shown.interfaces text := by
  have hrows : (showInterfaces look c).2.1 = interfaceRows 0 shown.interfaces := by
    rw [showInterfaces, hshown]
  have hfind := hname.findInterface_eq (c := (showInterfaces look c).1) (by
    rw [showInterfaces, hshown])
  constructor
  · rintro ⟨-, hnotShown⟩
    rw [hrows] at hnotShown
    refine writtenAsShown_of_byIndex shown fun hlabel => ?_
    have hselect := congrArg Prod.snd (hnotShown hlabel)
    rw [selectInterface, hfind] at hselect
    cases hindex : byIndex shown.interfaces text with
    | none => rfl
    | some selected =>
      rw [hindex] at hselect
      have hhead := congrArg (fun message : String => message.toList.head?) hselect
      simp at hhead
  · intro hwritten
    refine ⟨fun r hr hlabel => ?_, fun hlabel => ?_⟩
    · rw [hrows] at hr
      rw [selectInterface, hfind, ← hlabel, byIndex_label shown hr]
    · rw [hrows] at hlabel
      rw [selectInterface, hfind, hwritten.byIndex_eq_none shown hlabel]

/-- `en0`, without layers below. -/
def loneInterface : SCNetworkInterface :=
  .mk { InterfaceInfo.new kSCNetworkInterfaceTypeEthernet with entityDevice := some "en0" }
    none none none none

/-- PPP over L2TP over IPv4. -/
def layeredInterface : SCNetworkInterface :=
  .mk (.new "PPP") none none none (some (.mk (.new "L2TP") none none none
    (some (.mk (.new "IPv4") none none none none))))

/-- A system with these interfaces, which have BSD names only. -/
def plainLookup (interfaces : List SCNetworkInterface) : InterfaceLookup where
  getLocalizedDisplayName _ := none
  getBSDName i := i.info.entityDevice
  getIOPath _ := none
  getInterfaceType i := i.info.interfaceType
  createWithBSDName _ := none
  bondMembers _ := none
  bridgeMembers _ := none
  physicalInterface _ := none
  copyInterfaces := .ok interfaces

/-- The list of both interfaces. -/
def twoShown : ShownInterfaces := ⟨[loneInterface, layeredInterface], by decide, by decide⟩

/-- A text that is no name of the two interfaces, and none of the words. -/
theorem plainLookup_namesNoInterface (text : String) (hword : ∀ w ∈ ["$child", "$service", "$bond",
    "$bridge", "$vlan"], strcasecmp text w = false) (hname : "en0" ≠ text)
    (htype : kSCNetworkInterfaceTypeEthernet ≠ text) (hlayer : "PPP" ≠ text) :
    NamesNoInterface (plainLookup twoShown.interfaces) twoShown.interfaces text where
  word := hword
  displayName := fun i _ h => Option.noConfusion rfl (heq_of_eq h)
  bsdName := fun i hi layer hfound => by
    rcases List.mem_pair.mp hi with rfl | rfl
    · exact hname (congrArg Prod.snd (Option.some.inj hfound))
    · cases hfound
  hidden := rfl
  type := fun i hi => by
    rcases List.mem_pair.mp hi with rfl | rfl
    · exact htype
    · exact hlayer

/-- The second layer below the second interface, by its number. -/
theorem indexAgrees_iff_layered :
    IndexAgrees (plainLookup twoShown.interfaces) ⟨none, none, none⟩ "2.2" ↔
      WrittenAsShown twoShown.interfaces "2.2" :=
  indexAgrees_iff (plainLookup twoShown.interfaces) twoShown rfl ⟨none, none, none⟩ "2.2"
    (plainLookup_namesNoInterface "2.2" (by decide) (by decide) (by decide) (by decide))

/-- What is behind the point is no number, and the text selects the interface in front of it. -/
theorem malformedIndex_not_indexAgrees :
    NamesNoInterface (plainLookup twoShown.interfaces) twoShown.interfaces "1.x" ∧
      ¬ IndexAgrees (plainLookup twoShown.interfaces) ⟨none, none, none⟩ "1.x" := by
  refine ⟨plainLookup_namesNoInterface "1.x" (by decide) (by decide) (by decide) (by decide),
    fun h => ?_⟩
  have hselect := congrArg Prod.snd (h.notShown (by decide))
  exact absurd hselect (by decide)

end ConfigdExtra.InterfaceIndex
