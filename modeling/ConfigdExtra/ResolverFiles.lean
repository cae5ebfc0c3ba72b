import ConfigdExtra.SortList

/-!
# The files of several resolvers

Each scoped resolver of a configuration is published in its turn, and replaces the one before.

* `resolverFile` — the file that tells of one resolver.
* `DescribesOwn` — each file that is published tells of one resolver.
* `OwnFields` — what it takes: a domain or a search list where an earlier resolver has a domain,
  and no address of class E in a sort list.
* `describesOwn_iff` — the first is the case if and only if the second is.
-/

namespace ConfigdExtra

section

variable {Sockaddr : Type} (platform : String) (sockaddrToString : Sockaddr → String)

/-- The file that tells of one resolver. -/
def resolverFile (resolver : DNSResolver Sockaddr) : String :=
  setDNS platform resolver.search resolver.domain (resolver.nameserver.map sockaddrToString)
    (resolver.sortaddr.map pairText)

/-- The file that is published for each resolver tells of that resolver, whatever there was before
and whatever the variable `m` holds. -/
def DescribesOwn (config : DNSConfig Sockaddr) : Prop :=
  ∀ (m : Nat → Nat → UInt32) (file : Option String) (before : List (DNSResolver Sockaddr))
    (resolver : DNSResolver Sockaddr) (after : List (DNSResolver Sockaddr)),
    config.scopedResolver = before ++ resolver :: after →
    (writeResolvers platform sockaddrToString m ⟨file, none⟩ (before ++ [resolver])).file =
      some (resolverFile platform sockaddrToString resolver)

/-- A resolver that comes after one with a domain has a search list or a domain, and no sort list
has an address of class E. -/
def OwnFields (config : DNSConfig Sockaddr) : Prop :=
  ∀ (before : List (DNSResolver Sockaddr)) (resolver : DNSResolver Sockaddr)
    (after : List (DNSResolver Sockaddr)), config.scopedResolver = before ++ resolver :: after →
    (resolver.search = [] → resolver.domain = none → ∀ earlier ∈ before, earlier.domain = none) ∧
      ∀ sortaddr ∈ resolver.sortaddr, naturalMask sortaddr.address.hostOrder ≠ none

variable {platform sockaddrToString}

/-- There is a domain after some resolvers if one of them has one. -/
theorem writeResolvers_domain_eq_none_iff (m : Nat → Nat → UInt32) (s : WriteState)
    (l : List (DNSResolver Sockaddr)) :
    (writeResolvers platform sockaddrToString m s l).domain = none ↔
      s.domain = none ∧ ∀ resolver ∈ l, resolver.domain = none := by
  induction l generalizing m s with
  | nil => simp [writeResolvers]
  | cons resolver l ih =>
    rw [writeResolvers, ih, List.forall_mem_cons]
    simp only [writeResolver, Option.or_eq_none_iff]
    tauto

/-- The file that is published for a resolver. -/
theorem writeResolvers_file (m : Nat → Nat → UInt32) (s : WriteState)
    (before : List (DNSResolver Sockaddr)) (resolver : DNSResolver Sockaddr) :
    (writeResolvers platform sockaddrToString m s (before ++ [resolver])).file =
      some (setDNS platform resolver.search
        (resolver.domain.or (writeResolvers platform sockaddrToString m s before).domain)
        (resolver.nameserver.map sockaddrToString)
        (sortEntries (m before.length) resolver.sortaddr)) := by
  rw [writeResolvers_append]
  rfl

/-- A domain makes a difference where there is no search list. -/
theorem setDNS_domain_ne (domain : String) (servers sortlist : List String) :
    setDNS platform [] (some domain) servers sortlist ≠
      setDNS platform [] none servers sortlist := by
  intro h
  have hlength := congrArg String.length h
  have hdomain : "domain ".length = 7 := rfl
  have hempty : "".length = 0 := rfl
  simp only [setDNS, String.length_append, if_true] at hlength
  omega

/-- With a search list the domain is not written. -/
theorem setDNS_search {searchDomains : List String} (hsearch : searchDomains ≠ [])
    (domain domain' : Option String) (servers sortlist : List String) :
    setDNS platform searchDomains domain servers sortlist =
      setDNS platform searchDomains domain' servers sortlist := by
  simp only [setDNS, if_neg hsearch]

end

/-- **Files.** Each file that is published tells of one resolver if and only if each resolver has
fields of its own. -/
theorem describesOwn_iff {Sockaddr : Type} (platform : String)
    (sockaddrToString : Sockaddr → String) (config : DNSConfig Sockaddr) :
    DescribesOwn platform sockaddrToString config ↔ OwnFields config := by
  constructor
  · intro h before resolver after hconfig
    have hfile := fun m => h (fun _ => m) none before resolver after hconfig
    simp only [writeResolvers_file, Option.some.injEq] at hfile
    have hclass : ∀ sortaddr ∈ resolver.sortaddr,
        naturalMask sortaddr.address.hostOrder ≠ none := by
      intro sortaddr hmem hclass
      obtain ⟨m, m', hne⟩ := exists_spaced_ne ⟨sortaddr, hmem, hclass⟩
      have hdomain : (writeResolvers platform sockaddrToString (fun _ => m) ⟨none, none⟩
          before).domain = (writeResolvers platform sockaddrToString (fun _ => m') ⟨none, none⟩
            before).domain := writeResolvers_domain before _ _ rfl
      have heq := (hfile m).trans (hfile m').symm
      rw [hdomain] at heq
      exact hne (spaced_eq_of_setDNS_eq heq)
    refine ⟨fun hsearch hdomain => ?_, hclass⟩
    have heq := hfile fun _ => 0
    rw [sortEntries_eq_map hclass, resolverFile, hsearch, hdomain, Option.none_or] at heq
    cases hlast : (writeResolvers platform sockaddrToString (fun _ _ => 0) ⟨none, none⟩
        before).domain with
    | none => exact ((writeResolvers_domain_eq_none_iff _ _ _).mp hlast).2
    | some domain =>
      rw [hlast] at heq
      exact absurd heq (setDNS_domain_ne _ _ _)
  · intro h m file before resolver after hconfig
    obtain ⟨hdomain, hclass⟩ := h before resolver after hconfig
    rw [writeResolvers_file, sortEntries_eq_map hclass, resolverFile]
    by_cases hsearch : resolver.search = []
    · cases hown : resolver.domain with
      | some domain => rw [Option.some_or]
      | none =>
        have hlast : (writeResolvers platform sockaddrToString m ⟨file, none⟩
            before).domain = none :=
          (writeResolvers_domain_eq_none_iff _ _ _).mpr ⟨rfl, hdomain hsearch hown⟩
        rw [hlast, Option.none_or]
    · rw [setDNS_search hsearch]

/-- The domain of a resolver is published for the next one. -/
theorem domainThenNone_not_describesOwn :
    ¬ ∀ config : DNSConfig String, DescribesOwn "macOS" (fun s => s) config := by
  intro h
  have hfile := h ⟨[⟨some "local", [], [], []⟩, ⟨none, ["10.0.0.1"], [], []⟩]⟩ (fun _ _ => 0) none
    [⟨some "local", [], [], []⟩] ⟨none, ["10.0.0.1"], [], []⟩ [] rfl
  rw [writeResolvers_file] at hfile
  exact setDNS_domain_ne _ _ _ (Option.some.inj hfile)

end ConfigdExtra
