import Mathlib.Data.List.Forall2
import ConfigdExtra.NumericOptions

/-!
# Values of `d.add`

`do_dictSetKey` puts an entry into the dictionary `value`. Flags in front of the values say what
they are converted to, and whether they are an array.

* `scanFlags`, `convertValue`, `doDictSetKey` — the function. The characters of an argument are
  its bytes.
* `strtoul16` — `strtoul` with base 16, by which a byte is read from two digits.
* `itemOf` — what an argument should be converted to.
* `SetsKey`, `doDictSetKey_sets_iff` — when the function replaces the entry by what its arguments
  should be converted to, or leaves the dictionary alone.
-/

namespace ConfigdExtra

open DeferredEdits

/-! ## The dictionary -/

/-- A value that an argument is converted to, for strings `κ`. -/
inductive DictItem (κ : Type) where
  | boolean (b : Bool)
  | data (bytes : List UInt8)
  | number (n : ℤ)
  | string (s : κ)
  deriving DecidableEq

/-- A value of a dictionary. -/
inductive DictValue (κ : Type) where
  | item (v : DictItem κ)
  | array (items : List (DictItem κ))
  /-- a value that came from elsewhere -/
  | other (description : String)
  deriving DecidableEq

/-- `value` -/
inductive GlobalValue (κ : Type) [DecidableEq κ] where
  /-- `NULL` -/
  | null
  /-- an object that is not a dictionary -/
  | notDictionary
  | dictionary (d : Record κ (DictValue κ))

/-! ## Flags -/

/-- The flags -/
structure DictFlags where
  doArray : Bool := false
  doBoolean : Bool := false
  doData : Bool := false
  doNumeric : Bool := false
  deriving DecidableEq

/-- The flags in front of the values, and the values. -/
def scanFlags : DictFlags → List String → DictFlags × List String
  | f, [] => (f, [])
  | f, arg :: args =>
    if arg = "*" then scanFlags { f with doArray := true } args
    else if arg = "-" then (f, args)
    else if arg = "?" then scanFlags { f with doBoolean := true } args
    else if arg = "%" then scanFlags { f with doData := true } args
    else if arg = "#" then scanFlags { f with doNumeric := true } args
    else (f, arg :: args)

/-! ## Conversions -/

/-- The value of a hexadecimal digit. -/
def hexValue (c : Char) : Option ℕ :=
  let n := c.toNat
  if '0'.toNat ≤ n ∧ n ≤ '9'.toNat then some (n - '0'.toNat)
  else if 'a'.toNat ≤ n ∧ n ≤ 'f'.toNat then some (n - 'a'.toNat + 10)
  else if 'A'.toNat ≤ n ∧ n ≤ 'F'.toNat then some (n - 'A'.toNat + 10)
  else none

/-- The value of hexadecimal digits. -/
def hexNumber (cs : List Char) : ℕ := cs.foldl (fun n c => 16 * n + (hexValue c).getD 0) 0

/-- The `0x` in front of a hexadecimal number may be left out. -/
def skipHexPrefix : List Char → List Char
  | '0' :: x :: d :: cs =>
    if (x = 'x' ∨ x = 'X') ∧ (hexValue d).isSome then d :: cs else '0' :: x :: d :: cs
  | cs => cs

/-- `strtoul` with base 16: the value, what `*end` points at, and whether `errno` is set. -/
def strtoul16 (str : List Char) : ℕ × List Char × Bool :=
  let s := readSign (str.dropWhile isSpace)
  let cs := skipHexPrefix s.2
  let digits := cs.takeWhile fun c => (hexValue c).isSome
  if digits = [] then (0, str, false)
  else
    let n := hexNumber digits
    (if 2 ^ 64 ≤ n then 2 ^ 64 - 1 else if s.1 then (2 ^ 64 - n) % 2 ^ 64 else n,
      cs.dropWhile fun c => (hexValue c).isSome, decide (2 ^ 64 ≤ n))

/-- The bytes that are read from the characters two by two. -/
def dataBytes : List Char → Option (List UInt8)
  | a :: b :: cs =>
    let r := strtoul16 [a, b]
    if r.2.1 ≠ [] ∨ r.2.2 then none else (dataBytes cs).map (UInt8.ofNat r.1 :: ·)
  | _ => some []

/-- The words for `true` and `false`. -/
def booleanWord (arg : String) : Option Bool :=
  if strcasecmp arg "true" || strcasecmp arg "t" || strcasecmp arg "yes" || strcasecmp arg "y" ||
      arg == "1" then some true
  else if strcasecmp arg "false" || strcasecmp arg "f" || strcasecmp arg "no" ||
      strcasecmp arg "n" || arg == "0" then some false
  else none

section

variable {κ : Type} (cfString : String → Option κ)

/-- `val`, or the message. A string is `NULL` if the argument is not text. -/
def convertValue (f : DictFlags) (arg : String) : Except String (Option (DictItem κ)) :=
  if f.doBoolean then
    match booleanWord arg with
    | some b => .ok (some (.boolean b))
    | none => .error "d.add: invalid data.\n"
  else if f.doData then
    if arg.toList.length % 2 = 1 then .error "d.add: not enough bytes.\n"
    else
      match dataBytes arg.toList with
      | some bytes => .ok (some (.data bytes))
      | none => .error "d.add: invalid data.\n"
  else if f.doNumeric then
    match copyNumber arg with
    | some n => .ok (some (.number n))
    | none => .error "d.add: invalid data.\n"
  else .ok ((cfString arg).map .string)

/-- How `do_dictSetKey` ends when it stores nothing. -/
inductive SetKeyStop where
  /-- it prints a message -/
  | rejected (message : String)
  /-- it hands `NULL` to a function that does not take it -/
  | crashed
  deriving DecidableEq

/-- The values of an array. -/
def convertArray (f : DictFlags) : List String → Except SetKeyStop (List (DictItem κ))
  | [] => .ok []
  | arg :: args =>
    match convertValue cfString f arg with
    | .error message => .error (.rejected message)
    | .ok none => .error .crashed
    | .ok (some v) => (convertArray f args).map (v :: ·)

variable [DecidableEq κ]

/-- `do_dictSetKey`: why nothing is stored, if so, and `value`. -/
def doDictSetKey (value : GlobalValue κ) (key : String) (args : List String) :
    Option SetKeyStop × GlobalValue κ :=
  match value with
  | .null => (some (.rejected "d.add: dictionary must be initialized.\n"), value)
  | .notDictionary => (some (.rejected
      "d.add: data (fetched from configuration server) is not a dictionary.\n"), value)
  | .dictionary d =>
    let f := (scanFlags {} args).1
    let values := (scanFlags {} args).2
    match cfString key with
    | none => (some .crashed, value)
    | some key =>
      if f.doArray ∨ 1 < values.length then
        match convertArray cfString f values with
        | .error stop => (some stop, value)
        | .ok items => (none, .dictionary (d.put ⟨key, some (.array items)⟩))
      else
        match values with
        | [] => (some (.rejected "d.add: no values.\n"), value)
        | arg :: _ =>
          match convertValue cfString f arg with
          | .error message => (some (.rejected message), value)
          | .ok none => (none, .dictionary d)
          | .ok (some v) => (none, .dictionary (d.put ⟨key, some (.item v)⟩))

end

/-! ## Hexadecimal digits -/

/-- The bytes that pairs of hexadecimal digits stand for. -/
def hexBytes : List Char → Option (List UInt8)
  | [] => some []
  | [_] => none
  | a :: b :: cs =>
    match hexValue a, hexValue b with
    | some x, some y => (hexBytes cs).map (UInt8.ofNat (16 * x + y) :: ·)
    | _, _ => none

/-- The characters two by two. -/
def charPairs : List Char → List (Char × Char)
  | a :: b :: cs => (a, b) :: charPairs cs
  | _ => []

/-- Two characters that `strtoul` takes for a byte: a hexadecimal digit behind another one, behind
white space or behind a sign. -/
def IsBytePair (p : Char × Char) : Prop :=
  ((hexValue p.1).isSome ∨ isSpace p.1 ∨ p.1 = '+' ∨ p.1 = '-') ∧ (hexValue p.2).isSome

instance : DecidablePred IsBytePair := fun _ => inferInstanceAs (Decidable (_ ∧ _))

theorem hexValue_lt {c : Char} {v : ℕ} (h : hexValue c = some v) : v < 16 := by
  simp only [hexValue, Char.reduceToNat] at h
  split_ifs at h with hdigit hlower hupper
  · obtain rfl := Option.some.inj h
    omega
  · obtain rfl := Option.some.inj h
    omega
  · obtain rfl := Option.some.inj h
    omega

/-- White space and signs are not digits. -/
theorem hexValue_eq_none {c : Char} (h : isSpace c = true ∨ c = '+' ∨ c = '-') :
    hexValue c = none := by
  rcases h with h | rfl | rfl
  · simp only [isSpace, Bool.or_eq_true, beq_iff_eq, Bool.and_eq_true, decide_eq_true_eq] at h
    rcases h with rfl | ⟨-, hle⟩
    · rfl
    · simp only [hexValue, Char.reduceToNat]
      rw [if_neg (by omega), if_neg (by omega), if_neg (by omega)]
  · rfl
  · rfl

theorem isSpace_of_hexValue {c : Char} {v : ℕ} (h : hexValue c = some v) : isSpace c = false := by
  by_contra hblank
  rw [hexValue_eq_none (.inl (by simpa using hblank))] at h
  exact absurd h (by simp)

/-- A sign would be the first character. -/
theorem readSign_cons {c : Char} (hplus : c ≠ '+') (hminus : c ≠ '-') (cs : List Char) :
    readSign (c :: cs) = (false, c :: cs) :=
  readSign_of_ne (fun _ h => hminus (List.cons.inj h).1) fun _ h => hplus (List.cons.inj h).1

theorem readSign_of_hexValue {c : Char} {v : ℕ} (h : hexValue c = some v) (cs : List Char) :
    readSign (c :: cs) = (false, c :: cs) := by
  refine readSign_cons (fun hc => ?_) (fun hc => ?_) cs
  · rw [hexValue_eq_none (.inr (.inl hc))] at h
    exact absurd h (by simp)
  · rw [hexValue_eq_none (.inr (.inr hc))] at h
    exact absurd h (by simp)

/-- Two digits are read as a byte. -/
theorem strtoul16_digits {a b : Char} {x y : ℕ} (ha : hexValue a = some x)
    (hb : hexValue b = some y) : strtoul16 [a, b] = (16 * x + y, [], false) := by
  have hx := hexValue_lt ha
  have hy := hexValue_lt hb
  simp [strtoul16, isSpace_of_hexValue ha, readSign_of_hexValue ha, skipHexPrefix, ha, hb,
    hexNumber]
  omega

/-- One character behind white space or a sign is a number if and only if it is a digit. -/
theorem strtoul16_one {str : List Char} {negative : Bool} {b : Char}
    (hstr : readSign (str.dropWhile isSpace) = (negative, [b])) (hne : str ≠ []) :
    ((strtoul16 str).2.1 ≠ [] ∨ (strtoul16 str).2.2 = true) ↔ ¬ (hexValue b).isSome := by
  cases hb : hexValue b with
  | none => simp [strtoul16, hstr, skipHexPrefix, hb, hne]
  | some y =>
    have hy := hexValue_lt hb
    simp [strtoul16, hstr, skipHexPrefix, hb, hexNumber]
    omega

/-- Without digits the end is the beginning. -/
theorem strtoul16_none {str : List Char} (hne : str ≠ [])
    (hnone : (skipHexPrefix (readSign (str.dropWhile isSpace)).2).takeWhile
      (fun c => (hexValue c).isSome) = []) :
    (strtoul16 str).2.1 ≠ [] := by
  simp [strtoul16, hnone, hne]

/-- When two characters are not read as a byte. -/
theorem strtoul16_snd_iff (a b : Char) :
    ((strtoul16 [a, b]).2.1 ≠ [] ∨ (strtoul16 [a, b]).2.2 = true) ↔ ¬ IsBytePair (a, b) := by
  have hne : [a, b] ≠ [] := List.cons_ne_nil _ _
  cases ha : hexValue a with
  | some x =>
    cases hb : hexValue b with
    | some y => simp [strtoul16_digits ha hb, IsBytePair, ha, hb]
    | none =>
      simp [strtoul16, isSpace_of_hexValue ha, readSign_of_hexValue ha, skipHexPrefix, ha, hb,
        IsBytePair]
  | none =>
    by_cases hblank : isSpace a = true
    · by_cases hb : ∃ y, hexValue b = some y
      · obtain ⟨y, hb⟩ := hb
        have hstr : readSign ([a, b].dropWhile isSpace) = (false, [b]) := by
          rw [List.dropWhile_cons_of_pos hblank,
            List.dropWhile_cons_of_neg (by simp [isSpace_of_hexValue hb])]
          exact readSign_of_hexValue hb []
        rw [strtoul16_one hstr hne]
        simp [IsBytePair, hblank, hb]
      · have hb' : hexValue b = none := by simpa [Option.eq_none_iff_forall_ne_some] using hb
        refine iff_of_true (.inl (strtoul16_none hne ?_)) (by simp [IsBytePair, hb'])
        rw [List.dropWhile_cons_of_pos hblank]
        by_cases hblank' : isSpace b = true
        · simp [hblank', readSign, skipHexPrefix]
        · rw [List.dropWhile_cons_of_neg hblank']
          by_cases hsign : b = '+' ∨ b = '-'
          · rcases hsign with rfl | rfl <;> rfl
          · rw [not_or] at hsign
            simp [readSign_cons hsign.1 hsign.2, skipHexPrefix, hb']
    · have hdrop : [a, b].dropWhile isSpace = [a, b] := List.dropWhile_cons_of_neg hblank
      by_cases hsign : a = '+' ∨ a = '-'
      · have hstr : ∃ negative, readSign ([a, b].dropWhile isSpace) = (negative, [b]) := by
          rw [hdrop]
          rcases hsign with rfl | rfl
          · exact ⟨false, rfl⟩
          · exact ⟨true, rfl⟩
        obtain ⟨negative, hstr⟩ := hstr
        rw [strtoul16_one hstr hne]
        simp [IsBytePair, hsign]
      · rw [not_or] at hsign
        refine iff_of_true (.inl (strtoul16_none hne ?_)) ?_
        · rw [hdrop, readSign_cons hsign.1 hsign.2]
          simp [skipHexPrefix, ha]
        · simp [IsBytePair, ha, hblank, hsign.1, hsign.2]

/-! ## Reading data -/

/-- The bytes are not read if two of the characters are not. -/
theorem dataBytes_eq_none : ∀ {cs : List Char},
    dataBytes cs = none ↔ ∃ p ∈ charPairs cs, ¬ IsBytePair p
  | [] => by simp [dataBytes, charPairs]
  | [_] => by simp [dataBytes, charPairs]
  | a :: b :: cs => by
    have hrest : dataBytes cs = none ↔ ∃ p ∈ charPairs cs, ¬ IsBytePair p := dataBytes_eq_none
    rw [dataBytes, charPairs]
    simp only [strtoul16_snd_iff, List.mem_cons, exists_eq_or_imp, ← hrest]
    by_cases h : IsBytePair (a, b)
    · simp [h]
    · simp [h]

/-- Hexadecimal digits are read as what they stand for. -/
theorem hexBytes_eq_some : ∀ {cs : List Char} {bytes : List UInt8}, hexBytes cs = some bytes →
    cs.length % 2 = 0 ∧ dataBytes cs = some bytes
  | [], bytes, h => ⟨rfl, h⟩
  | [_], bytes, h => by simp [hexBytes] at h
  | a :: b :: cs, bytes, h => by
    rw [hexBytes] at h
    split at h
    · rename_i x y ha hb
      obtain ⟨bytes', hbytes', rfl⟩ := Option.map_eq_some_iff.mp h
      obtain ⟨hlength, hdata⟩ := hexBytes_eq_some hbytes'
      refine ⟨by simp only [List.length_cons]; omega, ?_⟩
      rw [dataBytes, strtoul16_digits ha hb, hdata]
      simp
    · exact absurd h (by simp)

/-! ## What an argument should be converted to -/

section

variable {κ : Type} (cfString : String → Option κ)

/-- What an argument should be converted to: bytes of two hexadecimal digits each, an integer that
is an `int`, or text. -/
def itemOf (f : DictFlags) (arg : String) : Option (DictItem κ) :=
  if f.doBoolean then (booleanWord arg).map .boolean
  else if f.doData then (hexBytes arg.toList).map .data
  else if f.doNumeric then ((integerValue arg).filter fun n => FitsInt n).map .number
  else (cfString arg).map .string

/-- An argument that is refused: not one of the words, an odd number of characters or two that are
not read as a byte, or no digits where a number is read. -/
def Refused (f : DictFlags) (arg : String) : Prop :=
  if f.doBoolean then booleanWord arg = none
  else if f.doData then arg.toList.length % 2 = 1 ∨ ∃ p ∈ charPairs arg.toList, ¬ IsBytePair p
  else if f.doNumeric then (readNumber arg).digits = []
  else False

variable {cfString} {f : DictFlags} {arg : String}

theorem convertValue_of_itemOf {v : DictItem κ} (h : itemOf cfString f arg = some v) :
    convertValue cfString f arg = .ok (some v) := by
  unfold itemOf at h
  unfold convertValue
  split_ifs at h ⊢ with hboolean hdata hodd hnumeric
  · obtain ⟨b, hb, rfl⟩ := Option.map_eq_some_iff.mp h
    rw [hb]
  · obtain ⟨bytes, hbytes, rfl⟩ := Option.map_eq_some_iff.mp h
    have heven := (hexBytes_eq_some hbytes).1
    omega
  · obtain ⟨bytes, hbytes, rfl⟩ := Option.map_eq_some_iff.mp h
    rw [(hexBytes_eq_some hbytes).2]
  · obtain ⟨n, hn, rfl⟩ := Option.map_eq_some_iff.mp h
    obtain ⟨hn, hfits⟩ := Option.filter_eq_some_iff.mp hn
    obtain ⟨hexact, rfl⟩ := integerValue_eq_some hn (by simpa using hfits)
    rw [copyNumber_eq, if_neg hexact.digits, toCInt_eq_self_iff.mpr hexact.fits]
  · rw [h]

variable (cfString) in
theorem refused_iff : Refused f arg ↔ ∃ message, convertValue cfString f arg = .error message := by
  unfold Refused convertValue
  split_ifs with hboolean hdata hodd hnumeric
  · cases booleanWord arg <;> simp
  · simp [hodd]
  · rw [or_iff_right hodd, ← dataBytes_eq_none]
    cases dataBytes arg.toList <;> simp
  · rw [copyNumber_eq]
    by_cases hdigits : (readNumber arg).digits = []
    · simp [hdigits]
    · simp [hdigits]
  · simp

/-- Only text can be `NULL`. -/
theorem itemOf_of_null (h : convertValue cfString f arg = .ok none) :
    itemOf cfString f arg = none := by
  unfold convertValue at h
  unfold itemOf
  split_ifs at h ⊢ with hboolean hdata hodd hnumeric
  · cases hword : booleanWord arg <;> simp_all
  · cases hbytes : dataBytes arg.toList <;> simp_all
  · cases hn : copyNumber arg <;> simp_all
  · simpa using h

/-- The values of an array. -/
theorem convertArray_eq_ok {args : List String} {items : List (DictItem κ)} :
    convertArray cfString f args = .ok items ↔
      List.Forall₂ (fun arg v => convertValue cfString f arg = .ok (some v)) args items := by
  induction args generalizing items with
  | nil => simp [convertArray, eq_comm]
  | cons arg args ih =>
    rw [convertArray, List.forall₂_cons_left_iff]
    cases convertValue cfString f arg with
    | error message => simp
    | ok v =>
      cases v with
      | none => simp
      | some v =>
        cases hrest : convertArray cfString f args with
        | error stop => simp [Except.map, ← ih, hrest]
        | ok rest => simp [Except.map, ← ih, hrest, eq_comm]

/-- An array is refused if one of its values is, and the others do not crash. -/
theorem convertArray_eq_error {args : List String} {stop : SetKeyStop}
    (h : convertArray cfString f args = .error stop) :
    (∃ arg ∈ args, Refused f arg) ∧ (∃ message, stop = .rejected message) ∨
      stop = .crashed ∧ ∃ arg ∈ args, convertValue cfString f arg = .ok none := by
  induction args with
  | nil => simp [convertArray] at h
  | cons arg args ih =>
    rw [convertArray] at h
    cases hv : convertValue cfString f arg with
    | error message =>
      rw [hv] at h
      cases h
      exact .inl ⟨⟨arg, List.mem_cons_self .., (refused_iff _).mpr ⟨message, hv⟩⟩, message, rfl⟩
    | ok v =>
      rw [hv] at h
      cases v with
      | none =>
        cases h
        exact .inr ⟨rfl, arg, List.mem_cons_self .., hv⟩
      | some v =>
        cases hrest : convertArray cfString f args with
        | ok rest =>
          rw [hrest] at h
          exact absurd h (by simp [Except.map])
        | error stop' =>
          rw [hrest] at h
          cases h
          rcases ih hrest with ⟨⟨arg', harg', hrefused⟩, hstop⟩ | ⟨hstop, arg', harg', hnull⟩
          · exact .inl ⟨⟨arg', List.mem_cons_of_mem _ harg', hrefused⟩, hstop⟩
          · exact .inr ⟨hstop, arg', List.mem_cons_of_mem _ harg', hnull⟩

/-- Arguments that are converted are not refused. -/
theorem not_refused_of_converted {args : List String} {items : List (DictItem κ)}
    (h : List.Forall₂ (fun arg v => convertValue cfString f arg = .ok (some v)) args items) :
    ∀ arg ∈ args, ¬ Refused f arg := by
  refine ((List.forall₂_and_left _ _).mp (h.imp fun arg v hv => ⟨fun hrefused => ?_, hv⟩)).1
  obtain ⟨message, hmessage⟩ := (refused_iff cfString).mp hrefused
  rw [hv] at hmessage
  exact absurd hmessage (by simp)

/-- If they should be converted, it is to what they are. -/
theorem itemOf_of_converted {args : List String} {items : List (DictItem κ)}
    (h : List.Forall₂ (fun arg v => convertValue cfString f arg = .ok (some v)) args items)
    (hitems : ∀ arg ∈ args, (itemOf cfString f arg).isSome) :
    List.Forall₂ (fun arg v => itemOf cfString f arg = some v) args items := by
  refine ((List.forall₂_and_left _ _).mpr ⟨hitems, h⟩).imp fun arg v ⟨hsome, hv⟩ => ?_
  obtain ⟨v', hv'⟩ := Option.isSome_iff_exists.mp hsome
  rw [convertValue_of_itemOf hv'] at hv
  rw [hv', Option.some.inj (Except.ok.inj hv)]

/-- Where text is wanted nothing is refused. -/
theorem not_refused_of_null {arg' : String} (h : convertValue cfString f arg = .ok none) :
    ¬ Refused f arg' := by
  unfold convertValue at h
  unfold Refused
  split_ifs at h ⊢ with hboolean hdata hodd hnumeric
  · cases hword : booleanWord arg <;> simp_all
  · cases hbytes : dataBytes arg.toList <;> simp_all
  · cases hn : copyNumber arg <;> simp_all
  · exact id

end

/-! ## The function -/

section

variable {κ : Type} [DecidableEq κ] (cfString : String → Option κ)

/-- The value stored for converted arguments: an array if one is asked for or there are several,
and the only one otherwise. -/
inductive IsEntry (f : DictFlags) :
    List String → List (DictItem κ) → DictValue κ → Prop where
  | array {values : List String} {items : List (DictItem κ)} : f.doArray ∨ 1 < values.length →
      IsEntry f values items (.array items)
  | single {arg : String} {v : DictItem κ} : ¬ f.doArray → IsEntry f [arg] [v] (.item v)

omit [DecidableEq κ] in
theorem IsEntry.values_ne {f : DictFlags} {values : List String} {items : List (DictItem κ)}
    {v : DictValue κ} (h : IsEntry f values items v) : f.doArray ∨ values ≠ [] := by
  cases h with
  | array harray =>
    refine harray.imp_right fun hlength hnil => ?_
    rw [hnil] at hlength
    exact absurd hlength (by decide)
  | single _ => exact .inr (List.cons_ne_nil _ _)

/-- The function replaces the entry of the key by what the arguments should be converted to, or it
rejects them and leaves the dictionary alone. -/
structure SetsKey (value : GlobalValue κ) (key : String) (args : List String) : Prop where
  /-- when it stores something -/
  accepted : (doDictSetKey cfString value key args).1 = none ↔
    ∃ d k, value = .dictionary d ∧ cfString key = some k ∧
      ((scanFlags {} args).1.doArray ∨ (scanFlags {} args).2 ≠ []) ∧
      ∀ arg ∈ (scanFlags {} args).2, (itemOf cfString (scanFlags {} args).1 arg).isSome
  /-- what it then stores -/
  stored : (doDictSetKey cfString value key args).1 = none → ∃ d k items v,
    value = .dictionary d ∧ cfString key = some k ∧
    List.Forall₂ (fun arg v => itemOf cfString (scanFlags {} args).1 arg = some v)
      (scanFlags {} args).2 items ∧
    IsEntry (scanFlags {} args).1 (scanFlags {} args).2 items v ∧
    (doDictSetKey cfString value key args).2 = .dictionary (d.put ⟨k, some v⟩)
  /-- and otherwise -/
  rejected : ∀ stop, (doDictSetKey cfString value key args).1 = some stop →
    (∃ message, stop = .rejected message) ∧ (doDictSetKey cfString value key args).2 = value

/-- The key is text, and there are no values, or one of them is refused, or all of them are what
they should be. -/
def ArgumentsClear (value : GlobalValue κ) (key : String) (args : List String) : Prop :=
  ∀ d, value = .dictionary d → (cfString key).isSome ∧
    (¬ (scanFlags {} args).1.doArray ∧ (scanFlags {} args).2 = [] ∨
      (∃ arg ∈ (scanFlags {} args).2, Refused (scanFlags {} args).1 arg) ∨
      ∀ arg ∈ (scanFlags {} args).2, (itemOf cfString (scanFlags {} args).1 arg).isSome)

/-- The ways the function goes for a dictionary. -/
inductive SetKeyWay (cfString : String → Option κ) (d : Record κ (DictValue κ)) (k : κ)
    (f : DictFlags) (values : List String) : Option SetKeyStop × GlobalValue κ → Prop where
  /-- everything is converted -/
  | stored {items : List (DictItem κ)} {v : DictValue κ} :
      List.Forall₂ (fun arg v => convertValue cfString f arg = .ok (some v)) values items →
      IsEntry f values items v →
      SetKeyWay cfString d k f values (none, .dictionary (d.put ⟨k, some v⟩))
  /-- there are no values, or one is refused -/
  | rejected {message : String} : (¬ f.doArray ∧ values = [] ∨ ∃ arg ∈ values, Refused f arg) →
      SetKeyWay cfString d k f values (some (.rejected message), .dictionary d)
  /-- one is not text -/
  | null {stop : Option SetKeyStop} : (∃ arg ∈ values, convertValue cfString f arg = .ok none) →
      (∀ message, stop ≠ some (.rejected message)) →
      SetKeyWay cfString d k f values (stop, .dictionary d)

variable {cfString} in
theorem doDictSetKey_way {key : String} {k : κ} (hkey : cfString key = some k)
    (d : Record κ (DictValue κ)) (args : List String) :
    SetKeyWay cfString d k (scanFlags {} args).1 (scanFlags {} args).2
      (doDictSetKey cfString (.dictionary d) key args) := by
  unfold doDictSetKey
  simp only [hkey]
  generalize (scanFlags {} args).1 = f
  generalize (scanFlags {} args).2 = values
  split_ifs with harray
  · cases hconvert : convertArray cfString f values with
    | ok items => exact .stored (convertArray_eq_ok.mp hconvert) (.array harray)
    | error stop =>
      rcases convertArray_eq_error hconvert with ⟨hrefused, message, rfl⟩ | ⟨rfl, hnull⟩
      · exact .rejected (.inr hrefused)
      · exact .null hnull (by simp)
  · rw [not_or] at harray
    cases values with
    | nil => exact .rejected (.inl ⟨harray.1, rfl⟩)
    | cons arg rest =>
      obtain rfl : rest = [] := by
        have hlength := harray.2
        rw [List.length_cons] at hlength
        exact List.length_eq_zero_iff.mp (by omega)
      dsimp only
      cases hconvert : convertValue cfString f arg with
      | error message =>
        exact .rejected (.inr ⟨arg, List.mem_cons_self .., (refused_iff _).mpr ⟨message, hconvert⟩⟩)
      | ok v =>
        cases v with
        | none => exact .null ⟨arg, List.mem_cons_self .., hconvert⟩ (by simp)
        | some v => exact .stored (.cons hconvert .nil) (.single harray.1)

/-- **Values of `d.add`.** The function does what it should if and only if the value is not a
dictionary or its arguments are clear. -/
theorem doDictSetKey_sets_iff (value : GlobalValue κ) (key : String) (args : List String) :
    SetsKey cfString value key args ↔ ArgumentsClear cfString value key args := by
  constructor
  · rintro ⟨haccepted, -, hrejected⟩ d rfl
    cases hkey : cfString key with
    | none =>
      -- a key that is no text crashes, which is no rejection
      have hcrash : (doDictSetKey cfString (.dictionary d) key args).1 = some .crashed := by
        simp [doDictSetKey, hkey]
      obtain ⟨⟨message, hmessage⟩, -⟩ := hrejected _ hcrash
      exact absurd hmessage (by simp)
    | some k =>
      have hway := doDictSetKey_way hkey d args
      refine ⟨rfl, ?_⟩
      generalize hresult : doDictSetKey cfString (.dictionary d) key args = result at hway
      rw [hresult] at haccepted hrejected
      -- stored, rejected with a message, or stopped where a value is `NULL`
      cases hway with
      | stored hconvert hentry =>
        obtain ⟨-, -, -, -, -, hall⟩ := haccepted.mp rfl
        exact .inr (.inr hall)
      | rejected hno => exact hno.imp_right .inl
      | @null stop hnull hstop =>
        cases stop with
        | none =>
          obtain ⟨-, -, -, -, -, hall⟩ := haccepted.mp rfl
          exact .inr (.inr hall)
        | some stop =>
          obtain ⟨⟨message, rfl⟩, -⟩ := hrejected stop rfl
          exact absurd rfl (hstop message)
  · intro h
    cases value with
    | null => constructor <;> simp [doDictSetKey]
    | notDictionary => constructor <;> simp [doDictSetKey]
    | dictionary d =>
      obtain ⟨hkey, hclear⟩ := h d rfl
      obtain ⟨k, hkey⟩ := Option.isSome_iff_exists.mp hkey
      have hway := doDictSetKey_way hkey d args
      generalize hresult : doDictSetKey cfString (.dictionary d) key args = result at hway
      cases hway with
      | stored hconvert hentry =>
        have hvalues := hentry.values_ne
        -- every argument has been converted, so none was refused
        have hitems : ∀ arg ∈ (scanFlags {} args).2,
            (itemOf cfString (scanFlags {} args).1 arg).isSome := by
          rcases hclear with ⟨hno, hnil⟩ | ⟨arg, harg, hrefused⟩ | hall
          · exact absurd hvalues (not_or.mpr ⟨hno, not_not.mpr hnil⟩)
          · exact absurd hrefused (not_refused_of_converted hconvert arg harg)
          · exact hall
        refine ⟨?_, ?_, ?_⟩ <;> rw [hresult]
        · exact iff_of_true rfl ⟨d, k, rfl, hkey, hvalues, hitems⟩
        · exact fun _ => ⟨d, k, _, _, rfl, hkey, itemOf_of_converted hconvert hitems, hentry, rfl⟩
        · exact nofun
      | rejected hno =>
        refine ⟨?_, ?_, ?_⟩ <;> rw [hresult]
        · refine iff_of_false (by simp) ?_
          rintro ⟨-, -, -, -, hvalues, hall⟩
          rcases hno with ⟨hno, hnil⟩ | ⟨arg, harg, hrefused⟩
          · exact absurd hvalues (not_or.mpr ⟨hno, not_not.mpr hnil⟩)
          · obtain ⟨v, hv⟩ := Option.isSome_iff_exists.mp (hall arg harg)
            obtain ⟨message, hmessage⟩ := (refused_iff cfString).mp hrefused
            rw [convertValue_of_itemOf hv] at hmessage
            exact absurd hmessage (by simp)
        · exact nofun
        · rintro stop ⟨⟩
          exact ⟨⟨_, rfl⟩, rfl⟩
      | null hnull _ =>
        obtain ⟨arg, harg, hnull⟩ := hnull
        rcases hclear with ⟨-, hnil⟩ | ⟨arg', -, hrefused⟩ | hall
        · rw [hnil] at harg
          exact absurd harg List.not_mem_nil
        · exact absurd hrefused (not_refused_of_null hnull)
        · have hitem := hall arg harg
          rw [itemOf_of_null hnull] at hitem
          exact absurd hitem (by simp)

end

/-- Arguments that are text. -/
def asText (arg : String) : Option String := some arg

theorem not_doDictSetKey_sets :
    ¬ ∀ (value : GlobalValue String) (key : String) (args : List String),
      SetsKey asText value key args := by
  intro h
  obtain ⟨-, -, -, -, -, hall⟩ := (h (.dictionary ∅) "key" ["%", "-1"]).accepted.mp
    (by decide +kernel)
  have hbytes := hall "-1" (by decide +kernel)
  revert hbytes
  decide +kernel

end ConfigdExtra
