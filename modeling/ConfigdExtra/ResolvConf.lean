import Mathlib

/-!
# `/var/run/resolv.conf`

`configd` writes the file when it is told of a DNS configuration.

* `setDNS`, `writeResolver`, `writeDNS` — the file after one configuration.
* `Delivery`, `deliver` — a run: configurations delivered one after the other.
* `Follows` — the file after the run tells nothing of what came before the last one.
* `follows_iff` — it does so for those configurations with scoped resolvers of which the last
  one has no sort address of class E.
-/

namespace ConfigdExtra

/-! ## Configurations -/

/-- `struct in_addr`, by its octets -/
structure InAddr where
  /-- the first octet -/
  a : UInt8
  /-- the second octet -/
  b : UInt8
  /-- the third octet -/
  c : UInt8
  /-- the fourth octet -/
  d : UInt8
  deriving DecidableEq, Repr

namespace InAddr

/-- `ntohl(addr.s_addr)` -/
def hostOrder (addr : InAddr) : UInt32 :=
  addr.a.toUInt32 <<< 24 ||| addr.b.toUInt32 <<< 16 ||| addr.c.toUInt32 <<< 8 ||| addr.d.toUInt32

/-- `inet_ntop(AF_INET, …)` -/
def ntop (addr : InAddr) : String :=
  ".".intercalate [toString addr.a, toString addr.b, toString addr.c, toString addr.d]

end InAddr

/-- `dns_sortaddr_t` -/
structure DNSSortAddr where
  /-- `address` -/
  address : InAddr
  /-- `mask` -/
  mask : InAddr
  deriving DecidableEq, Repr

/-- What is written of a `dns_resolver_t`. -/
structure DNSResolver (Sockaddr : Type) where
  /-- `domain` -/
  domain : Option String
  /-- `nameserver` -/
  nameserver : List Sockaddr
  /-- `search` -/
  search : List String
  /-- `sortaddr` -/
  sortaddr : List DNSSortAddr

/-- What is written of a `dns_config_t`. -/
structure DNSConfig (Sockaddr : Type) where
  /-- `scoped_resolver` -/
  scopedResolver : List (DNSResolver Sockaddr)

/-! ## One configuration -/

/-- `IN_CLASSA_NET` and so on, by the class of the address; `none` for class E, where `m` is not
set. -/
def naturalMask (a : UInt32) : Option UInt32 :=
  if a &&& 0x80000000 = 0 then some 0xff000000
  else if a &&& 0xc0000000 = 0x80000000 then some 0xffff0000
  else if a &&& 0xe0000000 = 0xc0000000 then some 0xffffff00
  else if a &&& 0xf0000000 = 0xe0000000 then some 0xf0000000
  else none

/-- One entry of the sort list, where `m` is what the variable holds before it is set. -/
def sortEntry (m : UInt32) (sortaddr : DNSSortAddr) : String :=
  if sortaddr.mask.hostOrder ≠ (naturalMask sortaddr.address.hostOrder).getD m then
    sortaddr.address.ntop ++ "/" ++ sortaddr.mask.ntop
  else
    sortaddr.address.ntop

/-- The sort list; `m` gives what the variable holds in each iteration. -/
def sortEntries (m : Nat → UInt32) : List DNSSortAddr → List String
  | [] => []
  | sortaddr :: rest => sortEntry (m 0) sortaddr :: sortEntries (fun j => m (j + 1)) rest

/-- `" %@"` for each string -/
def spaced (l : List String) : String := String.join (l.map (" " ++ ·))

/-- A line that is written if the list is not `NULL`. -/
def listLine (keyword : String) (l : List String) : String :=
  if l = [] then "" else keyword ++ spaced l ++ "\n"

/-- What `set_dns` writes first. -/
def header (platform : String) : String :=
  "#\n# " ++ platform ++ " Notice\n" ++
  "#\n" ++
  "# This file is not consulted for DNS hostname resolution, address\n" ++
  "# resolution, or the DNS query routing mechanism used by most\n" ++
  "# processes on this system.\n" ++
  "#\n" ++
  "# To view the DNS configuration used by this system, use:\n" ++
  "#   scutil --dns\n" ++
  "#\n" ++
  "# SEE ALSO\n" ++
  "#   dns-sd(1), scutil(8)\n" ++
  "#\n" ++
  "# This file is automatically generated.\n" ++
  "#\n"

/-- `set_dns`: what it writes. An empty list stands for `NULL`, as in `write_dns`. -/
def setDNS (platform : String) (searchDomains : List String) (domainName : Option String)
    (servers sortlist : List String) : String :=
  header platform ++
  (if searchDomains = [] then
    match domainName with
    | some domain => "domain " ++ domain ++ "\n"
    | none => ""
  else listLine "search" searchDomains) ++
  String.join (servers.map fun nameserver => "nameserver " ++ nameserver ++ "\n") ++
  listLine "sortlist" sortlist

/-- The file, if it is there, and `Domain`. -/
structure WriteState where
  /-- the file -/
  file : Option String
  /-- `Domain` -/
  domain : Option String

section Write

variable {Sockaddr : Type} (platform : String) (sockaddrToString : Sockaddr → String)

/-- One iteration of the loop of `write_dns`. The domain of the resolver before is kept if this
one has none. -/
def writeResolver (m : Nat → UInt32) (s : WriteState) (resolver : DNSResolver Sockaddr) :
    WriteState :=
  let domain := resolver.domain.or s.domain
  { file := some (setDNS platform resolver.search domain
      (resolver.nameserver.map sockaddrToString) (sortEntries m resolver.sortaddr))
    domain := domain }

/-- The loop of `write_dns`, with what the variable `m` holds for each resolver. -/
def writeResolvers : (Nat → Nat → UInt32) → WriteState → List (DNSResolver Sockaddr) → WriteState
  | _, s, [] => s
  | m, s, resolver :: rest =>
    writeResolvers (fun i => m (i + 1)) (writeResolver platform sockaddrToString (m 0) s resolver)
      rest

/-- `write_dns`: the file after it. -/
def writeDNS (m : Nat → Nat → UInt32) (config : Option (DNSConfig Sockaddr))
    (file : Option String) : Option String :=
  match config with
  | none => file
  | some config =>
    (writeResolvers platform sockaddrToString m { file := file, domain := none }
      config.scopedResolver).file

end Write

/-! ## Runs -/

/-- A call of `write_dns`: the configuration, and what `m` holds where it is not set. -/
structure Delivery (Sockaddr : Type) where
  /-- the configuration -/
  config : Option (DNSConfig Sockaddr)
  /-- what `m` holds -/
  m : Nat → Nat → UInt32

/-- The file after a run. -/
def deliver {Sockaddr : Type} (platform : String) (sockaddrToString : Sockaddr → String)
    (file : Option String) (run : List (Delivery Sockaddr)) : Option String :=
  run.foldl (fun file d => writeDNS platform sockaddrToString d.m d.config file) file

/-- Two runs that end with the configuration leave the same file. -/
def Follows {Sockaddr : Type} (platform : String) (sockaddrToString : Sockaddr → String)
    (file : Option String) (config : Option (DNSConfig Sockaddr)) : Prop :=
  ∀ (run run' : List (Delivery Sockaddr)) (m m' : Nat → Nat → UInt32),
    deliver platform sockaddrToString file (run ++ [⟨config, m⟩]) =
      deliver platform sockaddrToString file (run' ++ [⟨config, m'⟩])

/-- The configuration has scoped resolvers, and the last one has no sort address of class E. -/
def Rewrites {Sockaddr : Type} (config : Option (DNSConfig Sockaddr)) : Prop :=
  ∃ c resolvers resolver, config = some c ∧ c.scopedResolver = resolvers ++ [resolver] ∧
    ∀ sortaddr ∈ resolver.sortaddr, naturalMask sortaddr.address.hostOrder ≠ none

/-! ## What the file depends on -/

section Follows

variable {Sockaddr : Type} {platform : String} {sockaddrToString : Sockaddr → String}

theorem sortEntries_congr {l : List DNSSortAddr}
    (hl : ∀ sortaddr ∈ l, naturalMask sortaddr.address.hostOrder ≠ none) (m m' : Nat → UInt32) :
    sortEntries m l = sortEntries m' l := by
  induction l generalizing m m' with
  | nil => rfl
  | cons sortaddr l ih =>
    obtain ⟨mask, hmask⟩ := Option.ne_none_iff_exists'.mp (hl sortaddr List.mem_cons_self)
    rw [sortEntries, sortEntries, sortEntry, sortEntry, hmask,
      ih (fun x hx => hl x (List.mem_cons_of_mem _ hx)) _ (fun j => m' (j + 1))]
    rfl

/-- `Domain` does not depend on the file, nor on `m`. -/
theorem writeResolvers_domain (l : List (DNSResolver Sockaddr)) (m m' : Nat → Nat → UInt32)
    {s t : WriteState} (h : s.domain = t.domain) :
    (writeResolvers platform sockaddrToString m s l).domain =
      (writeResolvers platform sockaddrToString m' t l).domain := by
  induction l generalizing m m' s t with
  | nil => exact h
  | cons resolver l ih =>
    refine ih _ _ ?_
    show resolver.domain.or s.domain = resolver.domain.or t.domain
    rw [h]

/-- The last resolver is written last. -/
theorem writeResolvers_append (l : List (DNSResolver Sockaddr)) (resolver : DNSResolver Sockaddr)
    (m : Nat → Nat → UInt32) (s : WriteState) :
    writeResolvers platform sockaddrToString m s (l ++ [resolver]) =
      writeResolver platform sockaddrToString (m l.length)
        (writeResolvers platform sockaddrToString m s l) resolver := by
  induction l generalizing m s with
  | nil => rfl
  | cons first l ih => exact ih _ _

/-- The file that a configuration with scoped resolvers leaves, whatever there was before. -/
theorem writeDNS_eq_of_append (platform : String) (sockaddrToString : Sockaddr → String)
    {config : DNSConfig Sockaddr} {l : List (DNSResolver Sockaddr)}
    {resolver : DNSResolver Sockaddr} (hconfig : config.scopedResolver = l ++ [resolver]) :
    ∃ domain, ∀ m file, writeDNS platform sockaddrToString m (some config) file =
      some (setDNS platform resolver.search domain (resolver.nameserver.map sockaddrToString)
        (sortEntries (m l.length) resolver.sortaddr)) := by
  refine ⟨resolver.domain.or (writeResolvers platform sockaddrToString (fun _ _ => 0)
    { file := none, domain := none } l).domain, fun m file => ?_⟩
  rw [writeDNS, hconfig, writeResolvers_append,
    writeResolvers_domain l (fun _ _ => 0) m (s := ⟨none, none⟩) (t := ⟨file, none⟩) rfl]
  rfl

/-- A sort address of class E is written one way or the other. -/
theorem exists_spaced_ne {l : List DNSSortAddr}
    (hl : ∃ sortaddr ∈ l, naturalMask sortaddr.address.hostOrder = none) :
    ∃ m m', spaced (sortEntries m l) ≠ spaced (sortEntries m' l) := by
  induction l with
  | nil =>
    obtain ⟨_, h, -⟩ := hl
    cases h
  | cons sortaddr l ih =>
    by_cases hhead : naturalMask sortaddr.address.hostOrder = none
    · -- the same afterwards
      refine ⟨fun _ => sortaddr.mask.hostOrder, fun j => if j = 0 then sortaddr.mask.hostOrder + 1
        else sortaddr.mask.hostOrder, fun h => ?_⟩
      have hne : sortaddr.mask.hostOrder ≠ sortaddr.mask.hostOrder + 1 := by
        intro h
        have := congrArg (· - sortaddr.mask.hostOrder) h
        simp at this
      simp only [sortEntries, sortEntry, hhead, Option.getD_none, ne_eq, not_true_eq_false,
        if_false, if_true, hne, not_false_eq_true, spaced, List.map_cons, String.join_cons,
        Nat.add_eq_zero_iff, one_ne_zero, and_false] at h
      have hlength := congrArg String.length h
      simp only [String.length_append] at hlength
      have : "/".length = 1 := rfl
      omega
    · obtain ⟨x, hx, hxE⟩ := hl
      obtain rfl | hx := List.mem_cons.mp hx
      · exact absurd hxE hhead
      obtain ⟨m, m', hne⟩ := ih ⟨x, hx, hxE⟩
      refine ⟨fun j => m (j - 1), fun j => m' (j - 1), fun h => hne ?_⟩
      obtain ⟨mask, hmask⟩ := Option.ne_none_iff_exists'.mp hhead
      simp only [sortEntries, sortEntry, hmask, Option.getD_some, spaced, List.map_cons,
        String.join_cons] at h
      exact (String.append_right_inj _).mp h

theorem sortEntries_eq_nil_iff {m : Nat → UInt32} {l : List DNSSortAddr} :
    sortEntries m l = [] ↔ l = [] := by
  cases l with
  | nil => simp [sortEntries]
  | cons sortaddr l => simp [sortEntries]

/-- Different sort lists make different files. -/
theorem spaced_eq_of_setDNS_eq {searchDomains servers : List String} {domainName : Option String}
    {l : List DNSSortAddr} {m m' : Nat → UInt32}
    (h : setDNS platform searchDomains domainName servers (sortEntries m l) =
      setDNS platform searchDomains domainName servers (sortEntries m' l)) :
    spaced (sortEntries m l) = spaced (sortEntries m' l) := by
  have hline := (String.append_right_inj _).mp h
  by_cases hl : l = []
  · rw [sortEntries_eq_nil_iff.mpr hl, sortEntries_eq_nil_iff.mpr hl]
  · rw [listLine, listLine, if_neg (mt sortEntries_eq_nil_iff.mp hl),
      if_neg (mt sortEntries_eq_nil_iff.mp hl)] at hline
    exact (String.append_right_inj _).mp ((String.append_left_inj _).mp hline)

/-- A configuration with one scoped resolver, which has at most a domain. -/
def domainOnly (Sockaddr : Type) (domain : Option String) : DNSConfig Sockaddr where
  scopedResolver := [{ domain := domain, nameserver := [], search := [], sortaddr := [] }]

theorem writeDNS_domainOnly_ne (m : Nat → Nat → UInt32) (file : Option String) :
    writeDNS platform sockaddrToString m (some (domainOnly Sockaddr (some "local"))) file ≠
      writeDNS platform sockaddrToString m (some (domainOnly Sockaddr none)) file := by
  intro h
  have hlength := congrArg String.length (Option.some.inj h)
  simp only [setDNS, Option.some_or, Option.none_or, String.length_append, List.map_nil,
    if_true] at hlength
  have : "domain ".length = 7 := rfl
  have : "".length = 0 := rfl
  omega

/-- A configuration that leaves the file alone shows what was there before. -/
theorem not_follows_of_keeps {file : Option String} {config : Option (DNSConfig Sockaddr)}
    (h : ∀ m file, writeDNS platform sockaddrToString m config file = file) :
    ¬ Follows platform sockaddrToString file config := by
  intro hfollows
  have heq := hfollows [⟨some (domainOnly Sockaddr (some "local")), fun _ _ => 0⟩]
    [⟨some (domainOnly Sockaddr none), fun _ _ => 0⟩] (fun _ _ => 0) (fun _ _ => 0)
  simp only [deliver, List.cons_append, List.nil_append, List.foldl_cons, List.foldl_nil, h] at heq
  exact writeDNS_domainOnly_ne _ _ heq

/-- The file follows the last configuration if and only if that has scoped resolvers, and no sort
address of class E in the last one. -/
theorem follows_iff (platform : String) (sockaddrToString : Sockaddr → String)
    (file : Option String) (config : Option (DNSConfig Sockaddr)) :
    Follows platform sockaddrToString file config ↔ Rewrites config := by
  constructor
  · intro h
    cases config with
    | none => exact absurd h (not_follows_of_keeps fun _ _ => rfl)
    | some c =>
      obtain hnil | ⟨l, resolver, hconfig⟩ := List.eq_nil_or_concat c.scopedResolver
      · refine absurd h (not_follows_of_keeps fun m file => ?_)
        rw [writeDNS, hnil]
        rfl
      · rw [List.concat_eq_append] at hconfig
        refine ⟨c, l, resolver, rfl, hconfig, fun sortaddr hmem hE => ?_⟩
        obtain ⟨m, m', hne⟩ := exists_spaced_ne ⟨sortaddr, hmem, hE⟩
        obtain ⟨domain, hwrite⟩ := writeDNS_eq_of_append platform sockaddrToString
          hconfig
        have heq := h [] [] (fun _ => m) (fun _ => m')
        simp only [deliver, List.nil_append, List.foldl_cons, List.foldl_nil, hwrite,
          Option.some.injEq] at heq
        exact hne (spaced_eq_of_setDNS_eq heq)
  · rintro ⟨c, l, resolver, rfl, hconfig, hclass⟩ run run' m m'
    obtain ⟨domain, hwrite⟩ := writeDNS_eq_of_append platform sockaddrToString hconfig
    simp only [deliver, List.foldl_append, List.foldl_cons, List.foldl_nil, hwrite]
    rw [sortEntries_congr hclass (m l.length) (m' l.length)]

end Follows

/-- The file of a configuration with a domain stays when there is no configuration any more. -/
theorem none_not_follows :
    deliver "macOS" (fun s : String => s) none
        [⟨some (domainOnly String (some "local")), fun _ _ => 0⟩, ⟨none, fun _ _ => 0⟩] =
      some (setDNS "macOS" [] (some "local") [] []) ∧
    deliver "macOS" (fun s : String => s) none [⟨none, fun _ _ => 0⟩] = none ∧
    ¬ Follows "macOS" (fun s : String => s) none none :=
  ⟨rfl, rfl, not_follows_of_keeps fun _ _ => rfl⟩

end ConfigdExtra
