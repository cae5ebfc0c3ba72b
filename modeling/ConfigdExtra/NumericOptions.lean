import ConfigdExtra.ProtocolOptions

/-!
# Numbers in options

An option that is a number is read with `strtol` or with `sscanf`, and kept as an `int`.

* `readNumber` — what both of them find in a string: white space, a sign, digits, and the rest.
* `integerValue` — the integer that a whole string is; `integerValue_eq` relates the two.
* `ExactNumber`, `exactNumber_iff` — an option accepts just the integers in its range, and stores
  them.
* `prefixLength_exact_iff`, `proxyPort_exact_iff`, `number_exact_iff` — when the options do;
  `numericOptions_exact_iff` puts them together.

`strtol` is told from its end pointer that the whole string is a number, but the cast to `int`
wraps. `sscanf` leaves alone what is behind the digits.
-/

namespace ConfigdExtra

open DeferredEdits

/-! ## Reading -/

/-- What is found in a string that is read as a number. -/
structure NumberText where
  /-- white space in front -/
  blanks : List Char
  /-- the sign -/
  negative : Bool
  /-- the digits -/
  digits : List Char
  /-- what is behind them -/
  rest : List Char

/-- A sign, if there is one. -/
def readSign : List Char → Bool × List Char
  | '-' :: cs => (true, cs)
  | '+' :: cs => (false, cs)
  | cs => (false, cs)

/-- The value of digits with a sign. -/
def signedValue (negative : Bool) (digits : List Char) : ℤ :=
  if negative then -(digitsValue digits : ℤ) else digitsValue digits

namespace NumberText

/-- The mathematical value of the digits. -/
def value (t : NumberText) : ℤ := signedValue t.negative t.digits

end NumberText

/-- A string, read as a number. -/
def readNumber (arg : String) : NumberText where
  blanks := arg.toList.takeWhile isSpace
  negative := (readSign (arg.toList.dropWhile isSpace)).1
  digits := (readSign (arg.toList.dropWhile isSpace)).2.takeWhile Char.isDigit
  rest := (readSign (arg.toList.dropWhile isSpace)).2.dropWhile Char.isDigit

/-- The integer that the whole string is, in base ten. -/
def integerValue (arg : String) : Option ℤ :=
  let s := readSign arg.toList
  if s.2 ≠ [] ∧ s.2.all Char.isDigit then some (signedValue s.1 s.2) else none

/-- The integers that are an `int`. -/
def FitsInt (n : ℤ) : Prop := -2 ^ 31 ≤ n ∧ n < 2 ^ 31

instance (n : ℤ) : Decidable (FitsInt n) := inferInstanceAs (Decidable (_ ∧ _))

/-- A number survives the conversion to `int` exactly if it fits. -/
theorem toCInt_eq_self_iff {n : ℤ} : toCInt n = n ↔ FitsInt n := by
  simp only [toCInt, FitsInt, Int.bmod_def]
  norm_num
  omega

/-- `%d` reads the digits in front, if there are any. -/
theorem scanDigits_eq (negative : Bool) (cs : List Char) :
    scanDigits negative cs = if cs.takeWhile Char.isDigit = [] then none
      else some (toCInt (signedValue negative (cs.takeWhile Char.isDigit))) := by
  simp only [scanDigits, List.isEmpty_iff, signedValue]

theorem readSign_of_ne {cs : List Char} (hminus : ∀ rest, cs ≠ '-' :: rest)
    (hplus : ∀ rest, cs ≠ '+' :: rest) : readSign cs = (false, cs) := by
  unfold readSign
  split
  · exact absurd rfl (hminus _)
  · exact absurd rfl (hplus _)
  · rfl

/-- `_copy_number` takes the digits in front, and does not look at what is behind them. -/
theorem copyNumber_eq (arg : String) : copyNumber arg =
    if (readNumber arg).digits = [] then none else some (toCInt (readNumber arg).value) := by
  rw [copyNumber, readNumber, NumberText.value]
  generalize arg.toList.dropWhile isSpace = cs
  split
  · exact scanDigits_eq _ _
  · exact scanDigits_eq _ _
  · rename_i hminus hplus
    rw [readSign_of_ne (fun rest h => hminus rest h) fun rest h => hplus rest h]
    exact scanDigits_eq _ _

/-- The check of the end allows digits only. -/
theorem wholeDigits_eq (negative : Bool) (cs : List Char) : wholeDigits negative cs =
    if cs.takeWhile Char.isDigit = [] ∨ cs.dropWhile Char.isDigit ≠ [] then none
      else some (toCInt (signedValue negative (cs.takeWhile Char.isDigit))) := by
  have hall : (cs.all Char.isDigit = true) ↔ cs.dropWhile Char.isDigit = [] := by
    rw [List.all_eq_true, List.dropWhile_eq_nil_iff]
  rw [wholeDigits, scanDigits_eq]
  split_ifs <;> simp_all

/-- The same for a whole text, with spaces in front and a sign. -/
theorem strtolInt_eq (arg : String) : strtolInt arg =
    if (readNumber arg).digits = [] ∨ (readNumber arg).rest ≠ [] then none
      else some (toCInt (readNumber arg).value) := by
  rw [strtolInt, readNumber, NumberText.value]
  generalize arg.toList.dropWhile isSpace = cs
  split
  · exact wholeDigits_eq _ _
  · exact wholeDigits_eq _ _
  · rename_i hminus hplus
    rw [readSign_of_ne (fun rest h => hminus rest h) fun rest h => hplus rest h]
    exact wholeDigits_eq _ _

theorem not_isDigit_of_isSpace {c : Char} (h : isSpace c = true) : c.isDigit = false := by
  simp only [isSpace, Bool.or_eq_true, beq_iff_eq, Bool.and_eq_true, decide_eq_true_eq] at h
  rcases h with rfl | ⟨-, hle⟩
  · rfl
  · rw [Char.isDigit, Bool.and_eq_false_iff]
    left
    rw [decide_eq_false_iff_not, ge_iff_le, UInt32.le_iff_toNat_le]
    change ¬ 48 ≤ c.toNat
    omega

/-- The whole string is an integer if the digits are all of it but for a sign. -/
theorem integerValue_eq (arg : String) : integerValue arg =
    if (readNumber arg).blanks = [] ∧ (readNumber arg).digits ≠ [] ∧ (readNumber arg).rest = []
      then some (readNumber arg).value else none := by
  rw [integerValue, readNumber, NumberText.value]
  by_cases hblanks : arg.toList.takeWhile isSpace = []
  · have hdrop : arg.toList.dropWhile isSpace = arg.toList := by
      have happend := List.takeWhile_append_dropWhile (p := isSpace) (l := arg.toList)
      rwa [hblanks, List.nil_append] at happend
    rw [hdrop]
    generalize readSign arg.toList = s
    have hall : (s.2.all Char.isDigit = true) ↔ s.2.dropWhile Char.isDigit = [] := by
      rw [List.all_eq_true, List.dropWhile_eq_nil_iff]
    have hwhole : s.2.dropWhile Char.isDigit = [] → s.2.takeWhile Char.isDigit = s.2 := by
      intro h
      have happend := List.takeWhile_append_dropWhile (p := Char.isDigit) (l := s.2)
      rwa [h, List.append_nil] at happend
    simp only [hblanks, true_and, hall]
    by_cases hrest : s.2.dropWhile Char.isDigit = []
    · simp [hrest, hwhole hrest]
    · simp [hrest]
  · -- the first character is neither a sign nor a digit
    obtain ⟨c, cs, hcs⟩ : ∃ c cs, arg.toList = c :: cs := by
      refine List.exists_cons_of_ne_nil fun hnil => hblanks ?_
      rw [hnil, List.takeWhile_nil]
    have hspace : isSpace c = true := by
      by_contra hnot
      rw [hcs, List.takeWhile_cons_of_neg hnot] at hblanks
      exact hblanks rfl
    have hsign : readSign arg.toList = (false, c :: cs) := by
      rw [hcs]
      refine readSign_of_ne (fun rest h => ?_) fun rest h => ?_
      · rw [(List.cons.inj h).1] at hspace
        exact absurd hspace (by decide)
      · rw [(List.cons.inj h).1] at hspace
        exact absurd hspace (by decide)
    simp [hblanks, hsign, not_isDigit_of_isSpace hspace]

/-- Nothing is around the number, and it is an `int`. -/
structure ReadsExactly (t : NumberText) : Prop where
  /-- no white space in front -/
  blanks : t.blanks = []
  /-- there is a number -/
  digits : t.digits ≠ []
  /-- nothing behind it -/
  rest : t.rest = []
  /-- the cast does not change it -/
  fits : FitsInt t.value

theorem integerValue_eq_some {arg : String} {n : ℤ} (h : integerValue arg = some n)
    (hn : FitsInt n) : ReadsExactly (readNumber arg) ∧ (readNumber arg).value = n := by
  rw [integerValue_eq] at h
  split_ifs at h with hwhole
  obtain ⟨hblanks, hdigits, hrest⟩ := hwhole
  obtain rfl := Option.some.inj h
  exact ⟨⟨hblanks, hdigits, hrest, hn⟩, rfl⟩

theorem ReadsExactly.integerValue_eq {arg : String} (h : ReadsExactly (readNumber arg)) :
    integerValue arg = some (readNumber arg).value := by
  rw [ConfigdExtra.integerValue_eq, if_pos ⟨h.blanks, h.digits, h.rest⟩]

/-! ## Options -/

section

variable {o i : CFConfiguration} {l : CFConfiguration → CFConfiguration}

/-- What a handler leaves, if it accepts its argument. -/
def Handled.taken (h : Handled o i l) : Option (Draft o i l) :=
  if h.nArgs.isSome then some h.draft else none

/-- What the `switch` leaves, if it accepts the argument. -/
def Switched.taken : Switched o i l → Option (Draft o i l)
  | .fails _ => none
  | .goesOn _ d _ => some d

/-- An option that is a number accepts an argument if and only if it is empty or an integer in
its range, and stores the integer; an empty argument removes the key. -/
structure ExactNumber (InRange : ℤ → Prop) (value : ℤ → CFValue) (key : PropertyKey)
    (d : Draft o i l) (arg : String) (taken : Option (Draft o i l)) : Prop where
  /-- what is accepted -/
  accepted : taken.isSome ↔ arg = "" ∨ ∃ n, integerValue arg = some n ∧ InRange n
  /-- the empty argument -/
  removed : arg = "" → taken = some (d.put ⟨key, none⟩)
  /-- the number stored -/
  stored : ∀ n, integerValue arg = some n → InRange n → taken = some (d.put ⟨key, some (value n)⟩)

/-- An option that accepts what it can read, when the `int` made of it is in the range, is exact
if and only if then the string is just that number. -/
theorem exactNumber_iff {InRange : ℤ → Prop} [DecidablePred InRange] {value : ℤ → CFValue}
    {key : PropertyKey} {d : Draft o i l} {arg : String} {taken : Option (Draft o i l)}
    (readable : NumberText → Prop) [DecidablePred readable]
    (hrange : ∀ n, InRange n → FitsInt n)
    (hreadable : ∀ t : NumberText, t.digits ≠ [] → t.rest = [] → readable t)
    (hdigits : ∀ t : NumberText, readable t → t.digits ≠ [])
    (htaken : taken = if arg = "" then some (d.put ⟨key, none⟩)
      else if readable (readNumber arg) ∧ InRange (toCInt (readNumber arg).value) then
        some (d.put ⟨key, some (value (toCInt (readNumber arg).value))⟩)
      else none) :
    ExactNumber InRange value key d arg taken ↔
      (readable (readNumber arg) → InRange (toCInt (readNumber arg).value) →
        ReadsExactly (readNumber arg)) := by
  have hempty : arg = "" → ¬ readable (readNumber arg) := by
    rintro rfl h
    exact hdigits _ h rfl
  constructor
  · intro h hread hin
    have harg : arg ≠ "" := fun harg => hempty harg hread
    rw [if_neg harg, if_pos ⟨hread, hin⟩] at htaken
    obtain harg' | ⟨n, hn, hin'⟩ := h.accepted.mp (htaken ▸ rfl)
    · exact absurd harg' harg
    · exact (integerValue_eq_some hn (hrange n hin')).1
  · intro h
    have hinteger : ∀ n, integerValue arg = some n → InRange n →
        taken = some (d.put ⟨key, some (value n)⟩) := by
      intro n hn hin
      obtain ⟨hexact, rfl⟩ := integerValue_eq_some hn (hrange n hin)
      have hread := hreadable _ hexact.digits hexact.rest
      have hcast := toCInt_eq_self_iff.mpr hexact.fits
      rw [htaken, if_neg fun harg => hempty harg hread, hcast, if_pos ⟨hread, hin⟩]
    refine ⟨⟨fun hsome => ?_, ?_⟩, fun harg => by rw [htaken, if_pos harg], hinteger⟩
    · by_cases harg : arg = ""
      · exact .inl harg
      · by_cases hboth : readable (readNumber arg) ∧ InRange (toCInt (readNumber arg).value)
        · have hexact := h hboth.1 hboth.2
          refine .inr ⟨_, hexact.integerValue_eq, ?_⟩
          rw [← toCInt_eq_self_iff.mpr hexact.fits]
          exact hboth.2
        · rw [htaken, if_neg harg, if_neg hboth] at hsome
          exact absurd hsome (by simp)
    · rintro (harg | ⟨n, hn, hin⟩)
      · rw [htaken, if_pos harg]
        rfl
      · rw [hinteger n hn hin]
        rfl

/-- The lengths of a prefix -/
def IsPrefixLength (n : ℤ) : Prop := 1 ≤ n ∧ n ≤ 128

/-- The numbers of ports -/
def IsPort (n : ℤ) : Prop := 0 ≤ n ∧ n ≤ 65535

instance : DecidablePred IsPrefixLength := fun _ => inferInstanceAs (Decidable (_ ∧ _))

instance : DecidablePred IsPort := fun _ => inferInstanceAs (Decidable (_ ∧ _))

theorem IsPrefixLength.fitsInt {n : ℤ} (h : IsPrefixLength n) : FitsInt n := by
  obtain ⟨hlo, hhi⟩ := h
  exact ⟨by omega, by omega⟩

theorem IsPort.fitsInt {n : ℤ} (h : IsPort n) : FitsInt n := by
  obtain ⟨hlo, hhi⟩ := h
  exact ⟨by omega, by omega⟩

/-- What has been converted fits. -/
theorem fitsInt_toCInt (n : ℤ) : FitsInt (toCInt n) := by
  simp only [toCInt, FitsInt, Int.bmod_def]
  norm_num
  omega

theorem filter_ite_none {α : Type} (c : Prop) [Decidable c] (p : α → Bool) (a : α) :
    (if c then none else some a).filter p = if ¬ c ∧ p a then some a else none := by
  by_cases hc : c
  · simp [hc]
  · by_cases hp : p a <;> simp [hc, hp]

/-- The prefix length is read by `strtol`: a whole string of digits whose cast is in the range. -/
theorem prefixLength_exact_iff (key : PropertyKey) (arg : String) (rest : List String)
    (d : Draft o i l) (w : SetWorld) :
    ExactNumber IsPrefixLength (fun n => .numbers [n]) key d arg
        (doIPv6PrefixLength key (arg :: rest) d w).taken ↔
      ((readNumber arg).digits ≠ [] ∧ (readNumber arg).rest = [] →
        IsPrefixLength (toCInt (readNumber arg).value) → ReadsExactly (readNumber arg)) := by
  refine exactNumber_iff (fun t => t.digits ≠ [] ∧ t.rest = []) (fun _ => IsPrefixLength.fitsInt)
    (fun _ hdigits hrest => ⟨hdigits, hrest⟩) (fun _ h => h.1) ?_
  have hcond : ∀ n : ℤ, ¬ ((readNumber arg).digits = [] ∨ (readNumber arg).rest ≠ []) ∧
      (0 < n && n ≤ 128) = true ↔
      ((readNumber arg).digits ≠ [] ∧ (readNumber arg).rest = []) ∧ IsPrefixLength n := by
    intro n
    rw [not_or, not_not, Bool.and_eq_true, decide_eq_true_eq, decide_eq_true_eq]
    exact Iff.rfl
  simp only [doIPv6PrefixLength, strtolInt_eq, filter_ite_none, hcond]
  split_ifs <;> rfl

/-- The port is read by `sscanf`: digits with anything behind them, whose cast is in the range. -/
theorem proxyPort_exact_iff {proxy : ProxyKeys} {key : PropertyKey} (arg : String)
    (rest : List String) {d : Draft o i l} {w : SetWorld} (hproxy : w.currentProxy = some proxy)
    (hkey : proxy.keyPort = some key) (henabled : proxyEnabled d.pending proxy.keyEnable = true) :
    ExactNumber IsPort .number key d arg (doProxyPort (arg :: rest) d w).taken ↔
      ((readNumber arg).digits ≠ [] → IsPort (toCInt (readNumber arg).value) →
        ReadsExactly (readNumber arg)) := by
  refine exactNumber_iff (fun t => t.digits ≠ []) (fun _ => IsPort.fitsInt)
    (fun _ hdigits _ => hdigits) (fun _ h => h) ?_
  have hcond : ∀ n : ℤ, ¬ (readNumber arg).digits = [] ∧ (0 ≤ n && n ≤ 65535) = true ↔
      (readNumber arg).digits ≠ [] ∧ IsPort n := by
    intro n
    rw [Bool.and_eq_true, decide_eq_true_eq, decide_eq_true_eq]
    exact Iff.rfl
  simp only [doProxyPort, doProxyModifier, hproxy, hkey, henabled, copyNumber_eq, filter_ite_none,
    hcond, Bool.not_true, Bool.false_eq_true, if_false]
  split_ifs <;> rfl

/-- So is any other number, whose cast is always an `int`. -/
theorem number_exact_iff {row : OptionRow o i l} {key : PropertyKey} (arg : String)
    (rest : List String) (d : Draft o i l) (htype : row.type = .isNumber key) :
    ExactNumber FitsInt .number key d arg (row.switch (arg :: rest) d).taken ↔
      ((readNumber arg).digits ≠ [] → ReadsExactly (readNumber arg)) := by
  have htaken : (row.switch (arg :: rest) d).taken = if arg = "" then some (d.put ⟨key, none⟩)
      else if (readNumber arg).digits ≠ [] ∧ FitsInt (toCInt (readNumber arg).value) then
        some (d.put ⟨key, some (.number (toCInt (readNumber arg).value))⟩)
      else none := by
    simp only [OptionRow.switch, htype, switchValue, takeUnlessEmpty, copyNumber_eq,
      fitsInt_toCInt, and_true, ne_eq, ite_not]
    by_cases harg : arg = ""
    · simp only [harg, if_true]
      rfl
    · simp only [harg, if_false]
      split_ifs <;> rfl
  rw [exactNumber_iff (fun t => t.digits ≠ []) (fun _ h => h) (fun _ hdigits _ => hdigits)
    (fun _ h => h) htaken]
  exact forall_congr' fun _ => ⟨fun h => h (fitsInt_toCInt _), fun h _ => h⟩

/-- **Numbers are exact**, each kind under its own condition: whatever is taken for a number of its
range is just that number. -/
theorem numericOptions_exact_iff {proxy : ProxyKeys} {portKey numberKey : PropertyKey}
    {row : OptionRow o i l} (prefixKey : PropertyKey) (arg : String) (rest : List String)
    {d : Draft o i l} {w : SetWorld} (hproxy : w.currentProxy = some proxy)
    (hkey : proxy.keyPort = some portKey)
    (henabled : proxyEnabled d.pending proxy.keyEnable = true)
    (htype : row.type = .isNumber numberKey) :
    (ExactNumber IsPrefixLength (fun n => .numbers [n]) prefixKey d arg
        (doIPv6PrefixLength prefixKey (arg :: rest) d w).taken ↔
      ((readNumber arg).digits ≠ [] ∧ (readNumber arg).rest = [] →
        IsPrefixLength (toCInt (readNumber arg).value) → ReadsExactly (readNumber arg))) ∧
    (ExactNumber IsPort .number portKey d arg (doProxyPort (arg :: rest) d w).taken ↔
      ((readNumber arg).digits ≠ [] → IsPort (toCInt (readNumber arg).value) →
        ReadsExactly (readNumber arg))) ∧
    (ExactNumber FitsInt .number numberKey d arg (row.switch (arg :: rest) d).taken ↔
      ((readNumber arg).digits ≠ [] → ReadsExactly (readNumber arg))) :=
  ⟨prefixLength_exact_iff prefixKey arg rest d w, proxyPort_exact_iff arg rest hproxy hkey henabled,
    number_exact_iff arg rest d htype⟩

end

/-- A configuration with the HTTP proxy enabled. -/
def httpEnabled : CFConfiguration :=
  Finmap.singleton .kSCPropNetProxiesHTTPEnable (.number 1)

/-- The entry for the MTU -/
def mtuRow {o i : CFConfiguration} {l : CFConfiguration → CFConfiguration} : OptionRow o i l :=
  ⟨"mtu", none, .isNumber .kSCPropNetEthernetMTU, none⟩

theorem numericOptions_exact_80 :
    ExactNumber FitsInt .number .kSCPropNetEthernetMTU
      (.start : Draft httpEnabled httpEnabled id) "80" (mtuRow.switch ["80"] .start).taken :=
  (numericOptions_exact_iff .kSCPropNetIPv6PrefixLength "80" []
    (w := .start ∅ ∅ (some proxyKeysHTTP) false) rfl rfl (by decide +kernel) rfl).2.2.mpr
    fun _ => ⟨by decide +kernel, by decide +kernel, by decide +kernel, by decide +kernel⟩

theorem not_numericOptions_exact :
    ¬ ∀ (arg : String) (rest : List String),
      ExactNumber IsPrefixLength (fun n => .numbers [n]) .kSCPropNetIPv6PrefixLength
        (.start : Draft httpEnabled httpEnabled id) arg
        (doIPv6PrefixLength .kSCPropNetIPv6PrefixLength (arg :: rest) .start
          (.start ∅ ∅ (some proxyKeysHTTP) false)).taken ∧
      ExactNumber IsPort .number .kSCPropNetProxiesHTTPPort
        (.start : Draft httpEnabled httpEnabled id) arg
        (doProxyPort (arg :: rest) .start (.start ∅ ∅ (some proxyKeysHTTP) false)).taken ∧
      ExactNumber FitsInt .number .kSCPropNetEthernetMTU
        (.start : Draft httpEnabled httpEnabled id) arg
        (mtuRow.switch (arg :: rest) .start).taken := by
  intro h
  obtain ⟨hlength, -, -⟩ := h "4294967297" []
  obtain hempty | ⟨n, hn, hrange⟩ := hlength.accepted.mp (by decide +kernel)
  · revert hempty
    decide +kernel
  · have hvalue : integerValue "4294967297" = some 4294967297 := by decide +kernel
    rw [hvalue, Option.some.injEq] at hn
    rw [← hn] at hrange
    revert hrange
    decide +kernel

end ConfigdExtra
