import ConfigdExtra.ResolverFiles

/-!
# Replacing `/var/run/resolv.conf`

The file is removed, written anew under another name, and renamed, for each scoped resolver.

* `WritePhase`, `DNSWriting`, `WriteStep` — the file operations of `write_dns`, one after the
  other, each of which may be the last.
* `CompleteFile`, `ReplacesAtomically` — the file is there and complete at each point.
* `file_complete` — a file that is there is complete.
* `not_replacesAtomically` — it is not always there.
-/

namespace ConfigdExtra

open Relation (ReflTransGen)

/-! ## File operations -/

/-- Where `write_dns` is. -/
inductive WritePhase (Sockaddr : Type) where
  /-- about to take the next resolver, with those that remain -/
  | next (rest : List (DNSResolver Sockaddr))
  /-- about to open the temporary file -/
  | opening (text : String) (rest : List (DNSResolver Sockaddr))
  /-- writing to it -/
  | writing (text : String) (rest : List (DNSResolver Sockaddr))
  /-- about to rename it -/
  | closed (text : String) (rest : List (DNSResolver Sockaddr))

/-- The state of `write_dns` and of the file system. -/
structure DNSWriting (Sockaddr : Type) where
  /-- where it is -/
  phase : WritePhase Sockaddr
  /-- `Domain` -/
  domain : Option String
  /-- `/var/run/resolv.conf` -/
  file : Option String
  /-- `/var/run/resolv.conf-` -/
  temporary : Option String

section

variable {Sockaddr : Type} (platform : String) (sockaddrToString : Sockaddr → String)

/-- The next file operation. What is written reaches the file in parts, before it is closed. -/
inductive WriteStep : DNSWriting Sockaddr → DNSWriting Sockaddr → Prop where
  /-- `empty_dns` -/
  | unlink {resolver rest domain file temporary} (m : Nat → UInt32) :
    WriteStep ⟨.next (resolver :: rest), domain, file, temporary⟩
      ⟨.opening (setDNS platform resolver.search (resolver.domain.or domain)
          (resolver.nameserver.map sockaddrToString) (sortEntries m resolver.sortaddr)) rest,
        resolver.domain.or domain, none, temporary⟩
  /-- `fopen` fails -/
  | openFails {text rest domain file temporary} :
    WriteStep ⟨.opening text rest, domain, file, temporary⟩ ⟨.next rest, domain, file, temporary⟩
  /-- `fopen` -/
  | opens {text rest domain file temporary} :
    WriteStep ⟨.opening text rest, domain, file, temporary⟩
      ⟨.writing text rest, domain, file, some ""⟩
  /-- `SCPrint` -/
  | writes {text rest domain file temporary} (written : String) :
    written.toList <+: text.toList →
    WriteStep ⟨.writing text rest, domain, file, temporary⟩
      ⟨.writing text rest, domain, file, some written⟩
  /-- `fclose` -/
  | closes {text rest domain file temporary} :
    WriteStep ⟨.writing text rest, domain, file, temporary⟩
      ⟨.closed text rest, domain, file, some text⟩
  /-- `rename` fails -/
  | renameFails {text rest domain file temporary} :
    WriteStep ⟨.closed text rest, domain, file, temporary⟩ ⟨.next rest, domain, file, temporary⟩
  /-- `rename` -/
  | renames {text rest domain file temporary} :
    WriteStep ⟨.closed text rest, domain, file, temporary⟩
      ⟨.next rest, domain, temporary, none⟩

/-- The state when `write_dns` is called. -/
def writeStart (config : DNSConfig Sockaddr) (file temporary : Option String) :
    DNSWriting Sockaddr :=
  ⟨.next config.scopedResolver, none, file, temporary⟩

/-- The text is that of a complete file for one of the resolvers. -/
def CompleteFile (config : DNSConfig Sockaddr) (text : String) : Prop :=
  ∃ (m : Nat → Nat → UInt32) (before : List (DNSResolver Sockaddr))
    (resolver : DNSResolver Sockaddr) (after : List (DNSResolver Sockaddr)),
    config.scopedResolver = before ++ resolver :: after ∧
      (writeResolvers platform sockaddrToString m ⟨none, none⟩ (before ++ [resolver])).file =
        some text

/-- At each point the file is there, and is the one from before or a complete one for one of the
resolvers. -/
def ReplacesAtomically (config : DNSConfig Sockaddr) (previous : String) : Prop :=
  ∀ (temporary : Option String) (s : DNSWriting Sockaddr),
    ReflTransGen (WriteStep platform sockaddrToString)
      (writeStart config (some previous) temporary) s →
    ∃ text, s.file = some text ∧
      (text = previous ∨ CompleteFile platform sockaddrToString config text)

/-! ## What is in the file -/

/-- The resolvers that remain are the last ones, and `domain` is from those before them. -/
def Remain (config : DNSConfig Sockaddr) (domain : Option String)
    (rest : List (DNSResolver Sockaddr)) : Prop :=
  ∃ before, config.scopedResolver = before ++ rest ∧
    (writeResolvers platform sockaddrToString (fun _ _ => 0) ⟨none, none⟩ before).domain = domain

/-- What is written is complete when it is renamed. -/
def PhaseKept (config : DNSConfig Sockaddr) (domain temporary : Option String) :
    WritePhase Sockaddr → Prop
  | .next rest => Remain platform sockaddrToString config domain rest
  | .opening text rest => Remain platform sockaddrToString config domain rest ∧
      CompleteFile platform sockaddrToString config text
  | .writing text rest => Remain platform sockaddrToString config domain rest ∧
      CompleteFile platform sockaddrToString config text
  | .closed text rest => Remain platform sockaddrToString config domain rest ∧
      CompleteFile platform sockaddrToString config text ∧ temporary = some text

/-- The invariant of `write_dns`. -/
structure WritingKept (config : DNSConfig Sockaddr) (previous : String) (s : DNSWriting Sockaddr) :
    Prop where
  /-- what is written -/
  phase : PhaseKept platform sockaddrToString config s.domain s.temporary s.phase
  /-- what is there -/
  file : ∀ text, s.file = some text →
    text = previous ∨ CompleteFile platform sockaddrToString config text

variable {platform sockaddrToString} {config : DNSConfig Sockaddr} {previous : String}
  {s s' : DNSWriting Sockaddr}

/-- The file for the next resolver is complete. -/
theorem Remain.completeFile {domain : Option String} {resolver : DNSResolver Sockaddr}
    {rest : List (DNSResolver Sockaddr)} (m : Nat → UInt32)
    (h : Remain platform sockaddrToString config domain (resolver :: rest)) :
    CompleteFile platform sockaddrToString config
      (setDNS platform resolver.search (resolver.domain.or domain)
        (resolver.nameserver.map sockaddrToString) (sortEntries m resolver.sortaddr)) := by
  obtain ⟨before, hconfig, hdomain⟩ := h
  have hsame : (writeResolvers platform sockaddrToString (fun _ => m) ⟨none, none⟩
      before).domain = domain := (writeResolvers_domain before _ _ rfl).trans hdomain
  refine ⟨fun _ => m, before, resolver, rest, hconfig, ?_⟩
  rw [writeResolvers_file, hsame]

/-- To the next resolver. -/
theorem Remain.next {domain : Option String} {resolver : DNSResolver Sockaddr}
    {rest : List (DNSResolver Sockaddr)}
    (h : Remain platform sockaddrToString config domain (resolver :: rest)) :
    Remain platform sockaddrToString config (resolver.domain.or domain) rest := by
  obtain ⟨before, hconfig, rfl⟩ := h
  refine ⟨before ++ [resolver], by rw [hconfig, List.append_cons], ?_⟩
  rw [writeResolvers_append]
  rfl

theorem WritingKept.step (h : WritingKept platform sockaddrToString config previous s)
    (hstep : WriteStep platform sockaddrToString s s') :
    WritingKept platform sockaddrToString config previous s' := by
  obtain ⟨hphase, hfile⟩ := h
  cases hstep with
  | unlink m => exact ⟨⟨hphase.next, hphase.completeFile m⟩, fun _ htext => nomatch htext⟩
  | openFails => exact ⟨hphase.1, hfile⟩
  | opens => exact ⟨hphase, hfile⟩
  | writes written _ => exact ⟨hphase, hfile⟩
  | closes => exact ⟨⟨hphase.1, hphase.2, rfl⟩, hfile⟩
  | renameFails => exact ⟨hphase.1, hfile⟩
  | renames =>
    refine ⟨hphase.1, fun text htext => .inr ?_⟩
    rw [show text = _ from Option.some.inj (htext.symm.trans hphase.2.2)]
    exact hphase.2.1

/-- A file that is there is complete: the one from before, or one for one of the resolvers. -/
theorem file_complete {temporary : Option String}
    (h : ReflTransGen (WriteStep platform sockaddrToString)
      (writeStart config (some previous) temporary) s) :
    WritingKept platform sockaddrToString config previous s := by
  induction h with
  | refl => exact ⟨⟨[], rfl, rfl⟩, fun _ htext => .inl (Option.some.inj htext).symm⟩
  | tail _ hstep ih => exact ih.step hstep

end

/-- **Replacement.** With a scoped resolver the file is never replaced atomically: it is removed
before the new one is there. -/
theorem not_replacesAtomically {Sockaddr : Type} (platform : String)
    (sockaddrToString : Sockaddr → String) (config : DNSConfig Sockaddr) (previous : String)
    (hresolver : config.scopedResolver ≠ []) :
    ¬ ReplacesAtomically platform sockaddrToString config previous := by
  obtain ⟨resolver, rest, hconfig⟩ := List.exists_cons_of_ne_nil hresolver
  intro h
  have hstep : WriteStep platform sockaddrToString (writeStart config (some previous) none)
      ⟨.opening (setDNS platform resolver.search (resolver.domain.or none)
        (resolver.nameserver.map sockaddrToString) (sortEntries (fun _ => 0) resolver.sortaddr))
          rest, resolver.domain.or none, none, none⟩ := by
    rw [writeStart, hconfig]
    exact .unlink fun _ => 0
  obtain ⟨text, htext, -⟩ := h none _ (.single hstep)
  cases htext

theorem not_replacesAtomically_domainOnly :
    ¬ ReplacesAtomically "macOS" (fun s : String => s) (domainOnly String (some "local"))
      "nameserver 10.0.0.1\n" :=
  not_replacesAtomically _ _ _ _ (by simp [domainOnly])

/-- It is not replaced atomically for every configuration with a scoped resolver. -/
theorem exists_not_replacesAtomically :
    ¬ ∀ (config : DNSConfig String) (previous : String), config.scopedResolver ≠ [] →
      ReplacesAtomically "macOS" (fun s => s) config previous := by
  intro h
  have hstep : WriteStep "macOS" (fun s : String => s)
      (writeStart (domainOnly String (some "local")) (some "") none)
      ⟨.opening _ [], some "local", none, none⟩ := .unlink fun _ => 0
  obtain ⟨text, htext, -⟩ := h _ _ (by simp [domainOnly]) none _ (.single hstep)
  cases htext

end ConfigdExtra
