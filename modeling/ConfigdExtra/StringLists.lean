import Mathlib.Data.List.Forall2
import ConfigdExtra.ProtocolOptions

/-!
# Options that take a list

An argument may be a list separated by commas. Its pieces are parsed one after the other, and
the first one that is not valid ends the command.

* `mapM_eq_some`, `mapM_eq_none` — parsing the elements of a list.
* `StoresPieces`, `doStringList_stores` — such an option stores what all pieces parse to, or
  nothing.
* `serverAddresses_listed_iff` — the addresses of DNS servers. A piece is copied into a buffer of
  32 bytes before it is parsed, which is too small for some addresses.
-/

namespace ConfigdExtra

open DeferredEdits

/-! ## Parsing a list -/

section

variable {α β : Type} {f : α → Option β}

/-- All elements can be parsed. -/
theorem mapM_eq_some {as : List α} {bs : List β} :
    as.mapM f = some bs ↔ List.Forall₂ (fun a b => f a = some b) as bs := by
  induction as generalizing bs with
  | nil => simp [eq_comm]
  | cons a as ih =>
    rw [List.mapM_cons]
    constructor
    · intro h
      obtain ⟨b, hb, h⟩ := Option.bind_eq_some_iff.mp h
      obtain ⟨bs', hbs', h⟩ := Option.bind_eq_some_iff.mp h
      cases h
      exact .cons hb (ih.mp hbs')
    · rintro (_ | ⟨hb, hbs⟩)
      simp [hb, ih.mpr hbs]

/-- One of them cannot. -/
theorem mapM_eq_none {as : List α} : as.mapM f = none ↔ ∃ a ∈ as, f a = none := by
  induction as with
  | nil => simp
  | cons a as ih =>
    rw [List.mapM_cons]
    simp only [List.mem_cons, exists_eq_or_imp, ← ih]
    cases f a with
    | none => simp
    | some b => cases as.mapM f <;> simp

end

/-! ## The options -/

section

variable {o i : CFConfiguration} {l : CFConfiguration → CFConfiguration}

/-- A handler stores what all the pieces of its argument parse to, in their order, or it rejects
the argument, one of whose pieces does not parse, and leaves the configuration as it was. -/
def StoresPieces (parse : String → Option String) (value : List String → CFValue)
    (pieces : List String) (h : OptionHandler o i l) (key : PropertyKey) (args : List String)
    (d : Draft o i l) (w : SetWorld) : Prop :=
  (∃ values, List.Forall₂ (fun s v => parse s = some v) pieces values ∧
    h args d w = .uses 1 (d.put ⟨key, some (value values)⟩) w) ∨
  (∃ s ∈ pieces, parse s = none) ∧ ∃ text, h args d w = .refuses d w text

theorem separated_ne_nil (arg : String) : separated arg ≠ [] := by
  simp [separated, List.splitOn_ne_nil]

/-- An option that takes a list stores all of it, or nothing. -/
theorem doStringList_stores (parse : String → Option String) (missing invalid : String)
    (key : PropertyKey) {arg : String} (harg : arg ≠ "") (rest : List String)
    (d : Draft o i l) (w : SetWorld) :
    StoresPieces parse .strings (separated arg) (doStringList parse missing invalid key) key
      (arg :: rest) d w := by
  simp only [StoresPieces, doStringList, if_neg harg]
  cases hparse : (separated arg).mapM parse with
  | none => exact .inr ⟨mapM_eq_none.mp hparse, _, rfl⟩
  | some values =>
    have hforall := mapM_eq_some.mp hparse
    cases values with
    | nil => exact absurd (List.forall₂_nil_right_iff.mp hforall) (separated_ne_nil arg)
    | cons v vs => exact .inl ⟨_, hforall, rfl⟩

/-- An option that takes a string stores what it parses to, or nothing. -/
theorem doCleanString_stores (parse : String → Option String) (missing invalid : String)
    (key : PropertyKey) {arg : String} (harg : arg ≠ "") (rest : List String)
    (d : Draft o i l) (w : SetWorld) :
    StoresPieces parse (fun values => .string (values.headD "")) [arg]
      (doCleanString parse missing invalid key) key (arg :: rest) d w := by
  simp only [StoresPieces, doCleanString, if_neg harg]
  cases hparse : parse arg with
  | none => exact .inr ⟨⟨arg, List.mem_singleton_self arg, hparse⟩, _, rfl⟩
  | some v => exact .inl ⟨[v], .cons hparse .nil, rfl⟩

/-! ## Addresses of DNS servers -/

/-- The address a string stands for, whatever its length: `__copyIPv4Address` or else
`__copyIPv6Address`. -/
def copyAddress (svc : ProtocolServices) (s : String) : Option String :=
  (svc.copyIPv4Address s).or (svc.copyIPv6Address s)

/-- The option accepts an argument if and only if it is empty or all its pieces are addresses; it
stores one entry for each piece, or leaves the configuration as it was. -/
structure AddressesListed (svc : ProtocolServices) (key : PropertyKey) (arg : String)
    (rest : List String) (d : Draft o i l) (w : SetWorld) : Prop where
  /-- when the argument is accepted -/
  accepted : (doDNSServerAddresses svc key (arg :: rest) d w).nArgs.isSome ↔
    arg = "" ∨ ∀ s ∈ separated arg, (copyAddress svc s).isSome
  /-- what is stored then -/
  stored : (doDNSServerAddresses svc key (arg :: rest) d w).nArgs.isSome →
    arg = "" ∧ doDNSServerAddresses svc key (arg :: rest) d w = .uses 1 (d.put ⟨key, none⟩) w ∨
    ∃ values, List.Forall₂ (fun s v => copyAddress svc s = some v) (separated arg) values ∧
      doDNSServerAddresses svc key (arg :: rest) d w =
        .uses 1 (d.put ⟨key, some (.strings values)⟩) w
  /-- and otherwise -/
  rejected : ¬ (doDNSServerAddresses svc key (arg :: rest) d w).nArgs.isSome →
    (doDNSServerAddresses svc key (arg :: rest) d w).draft = d

/-- The address a piece stands for, if it fits in the buffer. -/
def copyShortAddress (svc : ProtocolServices) (s : String) : Option String :=
  if fitsAddressBuffer s then copyAddress svc s else none

theorem copyShortAddress_eq_some {svc : ProtocolServices} {s v : String} :
    copyShortAddress svc s = some v ↔ fitsAddressBuffer s ∧ copyAddress svc s = some v := by
  rw [copyShortAddress]
  split_ifs with h
  · simp [h]
  · simp [h]

/-- **The list of servers** is what it should be if and only if it is empty, or one of its pieces
is not an address, or all of them fit in the buffer. -/
theorem serverAddresses_listed_iff (svc : ProtocolServices) (key : PropertyKey) (arg : String)
    (rest : List String) (d : Draft o i l) (w : SetWorld) :
    AddressesListed svc key arg rest d w ↔
      arg = "" ∨ (∃ s ∈ separated arg, copyAddress svc s = none) ∨
        ∀ s ∈ separated arg, fitsAddressBuffer s := by
  by_cases harg : arg = ""
  · subst harg
    have hrun : doDNSServerAddresses svc key ("" :: rest) d w = .uses 1 (d.put ⟨key, none⟩) w :=
      rfl
    refine iff_of_true ⟨?_, ?_, ?_⟩ (.inl rfl)
    · simp [hrun, Handled.uses]
    · exact fun _ => .inl ⟨rfl, hrun⟩
    · simp [hrun, Handled.uses]
  rw [or_iff_right harg]
  have hstores := doStringList_stores (copyShortAddress svc)
    "DNS name server address(es) not specified\n" "invalid DNS name server address\n" key harg rest
    d w
  have hrun : doDNSServerAddresses svc key (arg :: rest) d w =
      doStringList (copyShortAddress svc) "DNS name server address(es) not specified\n"
        "invalid DNS name server address\n" key (arg :: rest) d w := rfl
  rw [StoresPieces, ← hrun] at hstores
  rcases hstores with ⟨values, hvalues, hstore⟩ | ⟨⟨s, hs, hnone⟩, text, hrefuse⟩
  · -- accepted: every piece fits and is an address
    have hpieces : ∀ s ∈ separated arg, fitsAddressBuffer s ∧ (copyAddress svc s).isSome := by
      refine ((List.forall₂_and_left _ _).mp (hvalues.imp fun s v h => ⟨?_, h⟩)).1
      obtain ⟨hfits, hv⟩ := copyShortAddress_eq_some.mp h
      exact ⟨hfits, hv ▸ rfl⟩
    refine iff_of_true ⟨?_, ?_, ?_⟩ (.inr fun s hs => (hpieces s hs).1)
    · exact iff_of_true (by rw [hstore]; rfl) (.inr fun s hs => (hpieces s hs).2)
    · refine fun _ => .inr ⟨values, ?_, hstore⟩
      exact hvalues.imp fun s v h => (copyShortAddress_eq_some.mp h).2
    · intro h
      rw [hstore] at h
      exact absurd rfl h
  · -- rejected: the piece does not fit or is not an address
    have hno : (doDNSServerAddresses svc key (arg :: rest) d w).nArgs.isSome = false := by
      rw [hrefuse]
      rfl
    have hdraft : (doDNSServerAddresses svc key (arg :: rest) d w).draft = d := by
      rw [hrefuse]
      rfl
    constructor
    · intro h
      by_contra hbad
      rw [not_or] at hbad
      obtain ⟨hall, -⟩ := hbad
      refine absurd (h.accepted.mpr (.inr fun s hs => ?_)) (by simp [hno])
      rw [Option.isSome_iff_ne_none]
      exact fun hs' => hall ⟨s, hs, hs'⟩
    · intro h
      have hnot : ∃ s ∈ separated arg, copyAddress svc s = none := by
        rcases h with h | h
        · exact h
        · rw [copyShortAddress, if_pos (h s hs)] at hnone
          exact ⟨s, hs, hnone⟩
      obtain ⟨s, hs, hnone⟩ := hnot
      refine ⟨⟨fun h => ?_, fun h => ?_⟩, fun h => ?_, fun _ => hdraft⟩
      · rw [hno] at h
        exact absurd h (by decide)
      · rcases h with h | h
        · exact absurd h harg
        · have hsome := h s hs
          rw [hnone] at hsome
          exact absurd hsome (by decide)
      · rw [hno] at h
        exact absurd h (by decide)

end

/-- A parser that knows one address, written with all its digits. -/
def fullLengthServices : ProtocolServices where
  protocolType := .dns
  copyIPv4Address _ := none
  copyIPv6Address s :=
    if s = "2001:0db8:0000:0000:0000:ff00:0042:8329" then some "2001:db8::ff00:42:8329" else none
  setConfiguration _ := none

theorem not_serverAddresses_listed :
    ¬ ∀ (svc : ProtocolServices) (key : PropertyKey) (arg : String) (rest : List String)
      (d : Draft (∅ : CFConfiguration) ∅ id) (w : SetWorld),
      AddressesListed svc key arg rest d w := by
  intro h
  have haccepted := (h fullLengthServices .kSCPropNetDNSServerAddresses
    "2001:0db8:0000:0000:0000:ff00:0042:8329" [] .start (.start ∅ ∅ none false)).accepted.mpr
    (.inr (by decide +kernel))
  revert haccepted
  decide +kernel

end ConfigdExtra
