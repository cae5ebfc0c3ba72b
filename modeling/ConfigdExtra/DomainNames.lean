import ConfigdExtra.StringLists

/-!
# Domain names

The options of domains clean their arguments up: `__cleanupDomainName` trims white space and
then dots. It has two copies, which are the same.

* `EndsFree`, `exists_trim_eq` — what it is for a string to be trimmed, and what trimming leaves.
* `CleansUp` — the domain made of a string is a normal form; `ClearEnds` — there is no white
  space between the dots at an end of the string and what is behind them.
* `domainsCleaned_iff` — the options make normal forms of their argument and of its pieces if and
  only if the ends of these are clear.
-/

namespace ConfigdExtra

open DeferredEdits

/-! ## Trimming -/

/-- A list does not begin and does not end with a character of a kind. -/
structure EndsFree (p : Char → Bool) (cs : List Char) : Prop where
  /-- the first character -/
  head : ∀ c rest, cs = c :: rest → p c = false
  /-- the last character -/
  last : ∀ rest c, cs = rest ++ [c] → p c = false

namespace EndsFree

variable {p q : Char → Bool} {cs : List Char}

theorem nil : EndsFree p [] := ⟨nofun, fun rest c h => by simp at h⟩

/-- Free of two kinds. -/
theorem or_iff : EndsFree (fun c => p c || q c) cs ↔ EndsFree p cs ∧ EndsFree q cs := by
  constructor
  · intro h
    refine ⟨⟨fun c rest hcs => ?_, fun rest c hcs => ?_⟩,
      ⟨fun c rest hcs => ?_, fun rest c hcs => ?_⟩⟩
    · exact (Bool.or_eq_false_iff.mp (h.head c rest hcs)).1
    · exact (Bool.or_eq_false_iff.mp (h.last rest c hcs)).1
    · exact (Bool.or_eq_false_iff.mp (h.head c rest hcs)).2
    · exact (Bool.or_eq_false_iff.mp (h.last rest c hcs)).2
  · rintro ⟨hp, hq⟩
    exact ⟨fun c rest hcs => Bool.or_eq_false_iff.mpr ⟨hp.head c rest hcs, hq.head c rest hcs⟩,
      fun rest c hcs => Bool.or_eq_false_iff.mpr ⟨hp.last rest c hcs, hq.last rest c hcs⟩⟩

/-- There is nothing to trim. -/
theorem trim_eq (h : EndsFree p cs) : trim p cs = cs := by
  have hfront : cs.dropWhile p = cs := by
    cases cs with
    | nil => rfl
    | cons c rest => exact List.dropWhile_cons_of_neg (by simp [h.head c rest rfl])
  rw [trim, hfront, List.rdropWhile_eq_self_iff]
  intro hne
  simp [h.last _ _ (List.dropLast_append_getLast hne).symm]

end EndsFree

section

variable (p : Char → Bool) (cs : List Char)

theorem trim_endsFree : EndsFree p (trim p cs) where
  head c rest h := by
    -- what `rdropWhile` leaves is a prefix, so it begins as what `dropWhile` leaves
    obtain ⟨tail, htail⟩ := List.rdropWhile_prefix p (cs.dropWhile p)
    rw [← trim, h, List.cons_append] at htail
    have hhead := List.head?_dropWhile_not p cs
    rw [← htail] at hhead
    simpa using hhead
  last rest c h := by
    rw [trim] at h
    have hlast := List.rdropWhile_last_not p (cs.dropWhile p) (by simp [h])
    simpa [h] using hlast

/-- What trimming takes away. -/
theorem exists_trim_eq : ∃ before after, cs = before ++ trim p cs ++ after ∧
    (∀ c ∈ before, p c) ∧ ∀ c ∈ after, p c := by
  refine ⟨cs.takeWhile p, (cs.dropWhile p).rtakeWhile p, ?_, fun c => List.mem_takeWhile_imp,
    fun c => List.mem_rtakeWhile_imp⟩
  rw [trim, List.append_assoc, List.rdropWhile_append_rtakeWhile, List.takeWhile_append_dropWhile]

variable {p cs}

theorem trim_eq_nil_iff : trim p cs = [] ↔ ∀ c ∈ cs, p c := by
  rw [trim, List.rdropWhile_eq_nil_iff]
  constructor
  · intro h c hc
    rw [← List.takeWhile_append_dropWhile (p := p) (l := cs), List.mem_append] at hc
    exact hc.elim List.mem_takeWhile_imp (h c)
  · exact fun h c hc => h c ((List.dropWhile_suffix p).subset hc)

/-- The first character that is not of a kind. -/
theorem first_unique {before before' : List Char} {c c' : Char} {rest rest' : List Char}
    (h : before ++ c :: rest = before' ++ c' :: rest') (hbefore : ∀ d ∈ before, p d)
    (hbefore' : ∀ d ∈ before', p d) (hc : p c = false) (hc' : p c' = false) : c = c' := by
  have hdrop := congrArg (List.dropWhile p) h
  rw [List.dropWhile_append_of_pos hbefore, List.dropWhile_append_of_pos hbefore',
    List.dropWhile_cons_of_neg (by simp [hc]), List.dropWhile_cons_of_neg (by simp [hc'])] at hdrop
  exact (List.cons.inj hdrop).1

/-- The last character that is not of a kind. -/
theorem last_unique {after after' : List Char} {c c' : Char} {rest rest' : List Char}
    (h : rest ++ c :: after = rest' ++ c' :: after') (hafter : ∀ d ∈ after, p d)
    (hafter' : ∀ d ∈ after', p d) (hc : p c = false) (hc' : p c' = false) : c = c' := by
  have hreverse := congrArg List.reverse h
  simp only [List.reverse_append, List.reverse_cons, List.append_assoc, List.singleton_append]
    at hreverse
  exact first_unique hreverse (by simpa using hafter) (by simpa using hafter') hc hc'

end

/-! ## Cleaning up -/

/-- A dot -/
def isDot (c : Char) : Bool := c == '.'

/-- A dot or white space -/
def isDotOrBlank (c : Char) : Bool := isDot c || isWhitespaceAndNewline c

/-- The characters of a domain before `__cleanupDomainName` looks whether there are any. -/
def cleanedName (s : String) : List Char := trim isDot (trim isWhitespaceAndNewline s.toList)

theorem cleanupDomainName_eq (s : String) : cleanupDomainName s =
    if (cleanedName s).isEmpty then none else some (String.ofList (cleanedName s)) := rfl

theorem cleanupDomainName_eq_some {s v : String} :
    cleanupDomainName s = some v ↔ cleanedName s ≠ [] ∧ v.toList = cleanedName s := by
  rw [cleanupDomainName_eq]
  split_ifs with h
  · rw [List.isEmpty_iff] at h
    simp [h]
  · rw [List.isEmpty_iff] at h
    rw [Option.some.injEq, and_iff_right h]
    constructor
    · intro hv
      rw [← hv, String.toList_ofList]
    · intro hv
      rw [← hv, String.ofList_toList]

theorem cleanupDomainName_eq_none {s : String} :
    cleanupDomainName s = none ↔ cleanedName s = [] := by
  simp [cleanupDomainName_eq]

/-- The domain made of a string is a normal form. -/
structure CleansUp (s : String) : Prop where
  /-- a string is rejected if and only if it consists of dots and white space -/
  rejected : cleanupDomainName s = none ↔ ∀ c ∈ s.toList, isDotOrBlank c
  /-- the domain neither begins nor ends with a dot or white space -/
  normal : ∀ v ∈ cleanupDomainName s, EndsFree isDotOrBlank v.toList
  /-- there is nothing more to clean up -/
  idem : ∀ v ∈ cleanupDomainName s, cleanupDomainName v = some v

/-- But for the white space at its ends, the string has no white space directly behind the dots
it begins with, nor directly in front of those it ends with. -/
structure ClearEnds (s : String) : Prop where
  /-- behind the dots in front -/
  front : ∀ dots c rest, trim isWhitespaceAndNewline s.toList = dots ++ c :: rest →
    (∀ d ∈ dots, isDot d) → isWhitespaceAndNewline c = false
  /-- in front of the dots behind -/
  back : ∀ rest c dots, trim isWhitespaceAndNewline s.toList = rest ++ c :: dots →
    (∀ d ∈ dots, isDot d) → isWhitespaceAndNewline c = false

theorem isDot_of_isWhitespaceAndNewline {c : Char} (h : isWhitespaceAndNewline c = true) :
    isDot c = false := by
  rw [isDot, beq_eq_false_iff_ne]
  rintro rfl
  exact absurd h (by decide)

/-- The ends are clear if and only if no white space comes to the ends. -/
theorem clearEnds_iff {s : String} :
    ClearEnds s ↔ EndsFree isWhitespaceAndNewline (cleanedName s) := by
  obtain ⟨before, after, hsplit, hbefore, hafter⟩ :=
    exists_trim_eq isDot (trim isWhitespaceAndNewline s.toList)
  have hfree := trim_endsFree isDot (trim isWhitespaceAndNewline s.toList)
  rw [← cleanedName] at hsplit hfree
  constructor
  · intro h
    constructor
    · intro c rest hname
      refine h.front before c (rest ++ after) ?_ hbefore
      rw [hsplit, hname, List.append_assoc, List.cons_append]
    · intro rest c hname
      refine h.back (before ++ rest) c after ?_ hafter
      rw [hsplit, hname]
      simp
  · intro h
    have hne : ∀ c ∈ trim isWhitespaceAndNewline s.toList, isDot c = false →
        cleanedName s ≠ [] := by
      intro c hc hdot hnil
      rw [hsplit, hnil, List.append_nil, List.mem_append] at hc
      have htrue := hc.elim (hbefore c) (hafter c)
      rw [hdot] at htrue
      exact absurd htrue (by decide)
    constructor
    · intro dots c rest hcs hdots
      by_contra hblank
      rw [Bool.not_eq_false] at hblank
      -- a blank is no dot, so the dots end at it, and at the name as well
      have hdot := isDot_of_isWhitespaceAndNewline hblank
      obtain ⟨d, name, hname⟩ := List.exists_cons_of_ne_nil (hne c (by simp [hcs]) hdot)
      have heq : dots ++ c :: rest = before ++ d :: (name ++ after) := by
        rw [← hcs, hsplit, hname]
        simp
      rw [first_unique heq hdots hbefore hdot (hfree.head d name hname),
        h.head d name hname] at hblank
      exact absurd hblank (by decide)
    · intro rest c dots hcs hdots
      by_contra hblank
      rw [Bool.not_eq_false] at hblank
      have hdot := isDot_of_isWhitespaceAndNewline hblank
      have hne' := hne c (by simp [hcs]) hdot
      obtain ⟨name, d, hname⟩ : ∃ name d, cleanedName s = name ++ [d] :=
        ⟨_, _, (List.dropLast_append_getLast hne').symm⟩
      have heq : rest ++ c :: dots = (before ++ name) ++ d :: after := by
        rw [← hcs, hsplit, hname]
        simp
      rw [last_unique heq hdots hafter hdot (hfree.last name d hname),
        h.last name d hname] at hblank
      exact absurd hblank (by decide)

/-- What cleaning up takes away is dots and white space. -/
theorem cleanedName_eq_nil {s : String} (h : ∀ c ∈ s.toList, isDotOrBlank c)
    (hfree : EndsFree isDotOrBlank (cleanedName s)) : cleanedName s = [] := by
  obtain ⟨before, after, hsplit, -, -⟩ := exists_trim_eq isWhitespaceAndNewline s.toList
  obtain ⟨before', after', hsplit', -, -⟩ :=
    exists_trim_eq isDot (trim isWhitespaceAndNewline s.toList)
  rw [← cleanedName] at hsplit'
  by_contra hne
  obtain ⟨c, rest, hname⟩ := List.exists_cons_of_ne_nil hne
  have hmem : c ∈ s.toList := by
    rw [hsplit, hsplit', hname]
    simp
  have htrue := h c hmem
  rw [hfree.head c rest hname] at htrue
  exact absurd htrue (by decide)

theorem forall_isDotOrBlank {s : String} (h : cleanedName s = []) :
    ∀ c ∈ s.toList, isDotOrBlank c := by
  obtain ⟨before, after, hsplit, hbefore, hafter⟩ :=
    exists_trim_eq isWhitespaceAndNewline s.toList
  have hdots := trim_eq_nil_iff.mp h
  intro c hc
  rw [hsplit, List.mem_append, List.mem_append] at hc
  rw [isDotOrBlank, Bool.or_eq_true]
  rcases hc with (hc | hc) | hc
  · exact .inr (hbefore c hc)
  · exact .inl (hdots c hc)
  · exact .inr (hafter c hc)

/-- **Cleaning up** makes a normal form of a string if and only if its ends are clear. -/
theorem cleansUp_iff (s : String) : CleansUp s ↔ ClearEnds s := by
  have hdots : EndsFree isDot (cleanedName s) := trim_endsFree isDot _
  rw [clearEnds_iff]
  constructor
  · intro h
    by_cases hnil : cleanedName s = []
    · rw [hnil]
      exact .nil
    · have hsome : cleanupDomainName s = some (String.ofList (cleanedName s)) :=
        cleanupDomainName_eq_some.mpr ⟨hnil, String.toList_ofList⟩
      have hfree := h.normal _ hsome
      rw [String.toList_ofList] at hfree
      exact (EndsFree.or_iff.mp hfree).2
  · intro hblanks
    have hfree : EndsFree isDotOrBlank (cleanedName s) := EndsFree.or_iff.mpr ⟨hdots, hblanks⟩
    refine ⟨⟨fun h => ?_, fun h => ?_⟩, fun v hv => ?_, fun v hv => ?_⟩
    · exact forall_isDotOrBlank (cleanupDomainName_eq_none.mp h)
    · exact cleanupDomainName_eq_none.mpr (cleanedName_eq_nil h hfree)
    · rw [(cleanupDomainName_eq_some.mp hv).2]
      exact hfree
    · obtain ⟨hne, hv⟩ := cleanupDomainName_eq_some.mp hv
      have hagain : cleanedName v = cleanedName s := by
        rw [cleanedName, hv, hblanks.trim_eq, hdots.trim_eq]
      exact cleanupDomainName_eq_some.mpr ⟨hagain ▸ hne, hv.trans hagain.symm⟩

/-! ## The options -/

section

variable {o i : CFConfiguration} {l : CFConfiguration → CFConfiguration}

/-- What the options of domains make of an argument. -/
structure DomainsCleaned (key : PropertyKey) (arg : String) (rest : List String)
    (d : Draft o i l) (w : SetWorld) : Prop where
  /-- the argument and its pieces are cleaned up -/
  cleansUp : ∀ s ∈ arg :: separated arg, CleansUp s
  /-- the option of a domain stores what the argument is cleaned up to -/
  domain : arg ≠ "" → StoresPieces cleanupDomainName (fun values => .string (values.headD ""))
    [arg] (doDNSDomain key) key (arg :: rest) d w
  /-- the option of search domains stores what the pieces are cleaned up to, or nothing -/
  search : arg ≠ "" → StoresPieces cleanupDomainName .strings (separated arg)
    (doDNSDomainArray key) key (arg :: rest) d w
  /-- and so does the option of OnDemand domains -/
  onDemand : arg ≠ "" → StoresPieces cleanupDomainName .strings (separated arg)
    (doOnDemandDomains key) key (arg :: rest) d w

/-- **The options of domains** make normal forms of their argument if and only if its ends, and
those of its pieces, are clear. -/
theorem domainsCleaned_iff (key : PropertyKey) (arg : String) (rest : List String)
    (d : Draft o i l) (w : SetWorld) :
    DomainsCleaned key arg rest d w ↔ ∀ s ∈ arg :: separated arg, ClearEnds s := by
  constructor
  · exact fun h s hs => (cleansUp_iff s).mp (h.cleansUp s hs)
  · intro h
    exact
      { cleansUp := fun s hs => (cleansUp_iff s).mpr (h s hs)
        domain := fun harg => doCleanString_stores _ _ _ key harg rest d w
        search := fun harg => doStringList_stores _ _ _ key harg rest d w
        onDemand := fun harg => doStringList_stores _ _ _ key harg rest d w }

end

theorem not_domainsCleaned :
    ¬ ∀ (key : PropertyKey) (arg : String) (rest : List String)
      (d : Draft (∅ : CFConfiguration) ∅ id) (w : SetWorld), DomainsCleaned key arg rest d w := by
  intro h
  have hnormal := ((h .kSCPropNetDNSDomainName "example.com ." [] .start
    (.start ∅ ∅ none false)).cleansUp "example.com ." (List.mem_cons_self ..)).normal
    "example.com " (by decide +kernel)
  have hlast := hnormal.last "example.com".toList ' ' (by decide +kernel)
  revert hlast
  decide +kernel

end ConfigdExtra
