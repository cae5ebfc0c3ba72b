import ConfigdExtra.OptionChecks
import ConfigdExtra.ProxySelection

/-!
# Arguments of `set protocol`

`set_protocol` with what its handlers may do wrong: some read an argument without looking at the
count, some look up a selection that is not there.

* `checkedSetProtocol` — the command with its faults.
* `checkedSetProtocol_eq_ok` — without one it is `setProtocol`.
* `TakesOne`, `pairRow_unguarded`, `pairRow_choice` — what each option does with its argument.
* `ArgumentMissing` — the commands that meet a fault that is about arguments or selections.
* `argumentsSafe_iff` — all others are safe.
-/

namespace ConfigdExtra

open DeferredEdits

variable {o i : CFConfiguration} {l : CFConfiguration → CFConfiguration}

section

variable (text : String → Bool)

/-! ## The command -/

/-- What `set_protocol_ipv4` and `set_protocol_ipv6` do with their options. -/
def checkedSetProtocolChecked (rows : List (CheckedRow o i l)) (methodKey : PropertyKey)
    (refused : CFConfiguration → Option String) (args : List String) (d : Draft o i l)
    (w : SetWorld) : Except ArgumentFault (Bool × SetState o i l) :=
  checkedProcess text rows args d w >>= fun r =>
    if r.1 then
      checkedMethod methodKey r.2.draft.pending >>= fun _ =>
        match refused r.2.draft.pending with
        | some text => .ok (r.2.refuse text)
        | none => .ok r
    else .ok r

/-- `set_protocol_ipv4` -/
def checkedSetProtocolIPv4 (svc : ProtocolServices) :
    List String → Draft o i l → SetWorld → Except ArgumentFault (Bool × SetState o i l) :=
  checkedSetProtocolChecked text ((ipv4Options svc).zip (ipv4Handlers svc))
    .kSCPropNetIPv4ConfigMethod
    (methodRefused ipv4ConfigMethods .kSCPropNetIPv4ConfigMethod
      [⟨allowIPv4Address, .kSCPropNetIPv4Addresses, "IP address"⟩,
        ⟨allowIPv4Netmask, .kSCPropNetIPv4SubnetMasks, "Subnet mask"⟩,
        ⟨allowIPv4Router, .kSCPropNetIPv4Router, "Default route"⟩,
        ⟨allowIPv4DHCPClientID, .kSCPropNetIPv4DHCPClientID, "DHCP client ID"⟩])

/-- `set_protocol_ipv6` -/
def checkedSetProtocolIPv6 (svc : ProtocolServices) :
    List String → Draft o i l → SetWorld → Except ArgumentFault (Bool × SetState o i l) :=
  checkedSetProtocolChecked text ((ipv6Options svc).zip (ipv6Handlers svc))
    .kSCPropNetIPv6ConfigMethod
    (methodRefused ipv6ConfigMethods .kSCPropNetIPv6ConfigMethod
      [⟨allowIPv6Address, .kSCPropNetIPv6Addresses, "IP address"⟩,
        ⟨allowIPv6PrefixLength, .kSCPropNetIPv6PrefixLength, "Prefix length"⟩,
        ⟨allowIPv6Router, .kSCPropNetIPv6Router, "Router"⟩])

/-- `set_protocol_dns` and the others, by the type of the protocol -/
def checkedSetProtocolOptions (svc : ProtocolServices) (args : List String) (d : Draft o i l)
    (w : SetWorld) : Except ArgumentFault (Bool × SetState o i l) :=
  match svc.protocolType with
  | .dns => checkedProcess text ((dnsOptions svc).zip (dnsHandlers text svc)) args d w
  | .ipv4 => checkedSetProtocolIPv4 text svc args d w
  | .ipv6 => checkedSetProtocolIPv6 text svc args d w
  | .proxies => checkedProcess text (proxyOptions.zip (proxyHandlers text)) args d w
  | .smb => checkedProcess text ((smbOptions svc).zip (smbHandlers text svc)) args d w
  | .other =>
    .ok (SetState.refuse ⟨args, d, w, []⟩ "this protocols configuration cannot be changed\n")

/-- `set_protocol` for a selected protocol, whose configuration is `configuration`. -/
def checkedSetProtocol (svc : ProtocolServices) (configuration : CFConfiguration)
    (args : List String) (w : SetWorld) : Except ArgumentFault Finished :=
  if args = [] then .ok (.nothing configuration w "set what?\n")
  else
    let start : Draft configuration (editCopy configuration) id := .start
    (checkedSetProtocolOptions text svc args start w).map
      (finish svc.setConfiguration "No such key\n")

end

/-! ## Without a fault -/

/-- What a handler does without a fault. -/
def HandlerRefines (checked : CheckedHandler o i l) (h : OptionHandler o i l) : Prop :=
  ∀ args d w r, checked args d w = .ok r → h args d w = r

/-- Where the handler asks for its arguments, the check changes nothing. -/
theorem guarded_refines (h : OptionHandler o i l) : HandlerRefines (guarded h) h :=
  fun _ _ _ _ hr => Except.ok.inj hr

/-- Where it does not ask, the check only stops it. -/
theorem unguarded_refines (h : OptionHandler o i l) : HandlerRefines (unguarded h) h := by
  rintro (_ | ⟨arg, rest⟩) d w r hr
  · cases hr
  · exact Except.ok.inj hr

/-- An argument that is no text only stops the handler. -/
theorem converted_refines (text : String → Bool) (h : OptionHandler o i l) :
    HandlerRefines (converted text h) h := by
  rintro (_ | ⟨arg, rest⟩) d w r hr
  · exact Except.ok.inj hr
  · simp only [converted] at hr
    split_ifs at hr
    exact Except.ok.inj hr

theorem checkedModifier_refines (text : String → Bool) (h : OptionHandler o i l) :
    HandlerRefines (checkedModifier text h) h := by
  rintro (_ | ⟨arg, rest⟩) d w r hr
  · exact Except.ok.inj hr
  · simp only [checkedModifier] at hr
    split_ifs at hr
    exact Except.ok.inj hr

theorem checkedConfigMethod_refines (h : PropertyKey → OptionHandler o i l) (key : PropertyKey) :
    HandlerRefines (checkedConfigMethod h key) (h key) := by
  intro args d w r hr
  obtain ⟨_, -, hr⟩ := checked_bind_eq_ok.mp hr
  exact Except.ok.inj hr

theorem refines_none {row : OptionRow o i l} (hrow : row.handler = none) :
    CheckedRow.Refines (row, none) := by
  intro args d w h hr
  simpa [OptionRow.handle, hrow] using Except.ok.inj hr

theorem refines_some {row : OptionRow o i l} {h : OptionHandler o i l} (hrow : row.handler = some h)
    {checked : CheckedHandler o i l} (hchecked : HandlerRefines checked h) :
    CheckedRow.Refines (row, some checked) := by
  intro args d w r hr
  simpa [OptionRow.handle, hrow] using hchecked args d w r hr

/-- The handlers of a table, each for its entry. -/
def Handlers (options : List (OptionRow o i l)) (handlers : List (Option (CheckedHandler o i l))) :
    Prop :=
  List.Forall₂ (fun row h => CheckedRow.Refines (row, h)) options handlers

theorem Handlers.refines {options : List (OptionRow o i l)}
    {handlers : List (Option (CheckedHandler o i l))} (h : Handlers options handlers) :
    (∀ row ∈ options.zip handlers, CheckedRow.Refines row) ∧
      (options.zip handlers).map Prod.fst = options :=
  ⟨fun _ hrow => List.forall₂_zip h hrow, List.map_fst_zip h.length_eq.le⟩

section

variable (text : String → Bool) (svc : ProtocolServices)

/-- The handlers with checks, next to the tables without, one protocol after the other. -/
theorem dnsHandlers_refine : Handlers (o := o) (i := i) (l := l) (dnsOptions svc)
    (dnsHandlers text svc) := by
  simp only [Handlers, dnsOptions, dnsHandlers, List.forall₂_cons, List.Forall₂.nil, and_true]
  exact ⟨refines_some rfl (converted_refines text _), refines_some rfl (converted_refines text _),
    refines_some rfl (converted_refines text _), refines_some rfl (converted_refines text _),
    refines_some rfl (converted_refines text _), refines_some rfl (converted_refines text _),
    refines_some rfl (converted_refines text _), refines_some rfl (converted_refines text _),
    refines_none rfl⟩

theorem smbHandlers_refine : Handlers (o := o) (i := i) (l := l) (smbOptions svc)
    (smbHandlers text svc) := by
  simp only [Handlers, smbOptions, smbHandlers, List.forall₂_cons, List.Forall₂.nil, and_true]
  exact ⟨refines_some rfl (converted_refines text _), refines_some rfl (converted_refines text _),
    refines_none rfl, refines_none rfl, refines_some rfl (converted_refines text _),
    refines_some rfl (converted_refines text _), refines_some rfl (converted_refines text _),
    refines_none rfl⟩

theorem ipv4Handlers_refine : Handlers (o := o) (i := i) (l := l) (ipv4Options svc)
    (ipv4Handlers svc) := by
  simp only [Handlers, ipv4Options, ipv4Handlers, List.forall₂_cons, List.Forall₂.nil, and_true]
  exact ⟨refines_some rfl (checkedConfigMethod_refines _ _),
    refines_some rfl (checkedConfigMethod_refines _ _), refines_some rfl (unguarded_refines _),
    refines_some rfl (unguarded_refines _), refines_some rfl (unguarded_refines _),
    refines_some rfl (unguarded_refines _), refines_some rfl (unguarded_refines _),
    refines_none rfl, refines_none rfl⟩

theorem ipv6Handlers_refine : Handlers (o := o) (i := i) (l := l) (ipv6Options svc)
    (ipv6Handlers svc) := by
  simp only [Handlers, ipv6Options, ipv6Handlers, List.forall₂_cons, List.Forall₂.nil, and_true]
  exact ⟨refines_some rfl (checkedConfigMethod_refines _ _),
    refines_some rfl (checkedConfigMethod_refines _ _), refines_some rfl (unguarded_refines _),
    refines_some rfl (unguarded_refines _), refines_none rfl,
    refines_some rfl (unguarded_refines _), refines_some rfl (unguarded_refines _),
    refines_none rfl⟩

theorem proxyHandlers_refine : Handlers (o := o) (i := i) (l := l) proxyOptions
    (proxyHandlers text) := by
  simp only [Handlers, proxyOptions, proxyHandlers, List.forall₂_cons, List.Forall₂.nil, and_true]
  refine ⟨refines_none rfl, refines_none rfl, ?_⟩
  repeat' refine And.intro ?_ ?_
  all_goals first
    | exact refines_none rfl
    | exact refines_some rfl (guarded_refines _)
    | exact refines_some rfl (checkedModifier_refines _ _)

end

/-- A command that no check stops does what it does without checks. -/
theorem checkedSetProtocolChecked_eq_ok {text : String → Bool} {options : List (OptionRow o i l)}
    {handlers : List (Option (CheckedHandler o i l))} (hhandlers : Handlers options handlers)
    {methodKey : PropertyKey} {refused : CFConfiguration → Option String} {args : List String}
    {d : Draft o i l} {w : SetWorld} {r : Bool × SetState o i l}
    (h : checkedSetProtocolChecked text (options.zip handlers) methodKey refused args d w =
      .ok r) : setProtocolChecked options refused args d w = r := by
  obtain ⟨r', hr', h⟩ := checked_bind_eq_ok.mp h
  have hprocess := checkedProcess_eq_ok hhandlers.refines.1 hr'
  rw [hhandlers.refines.2] at hprocess
  simp only [setProtocolChecked, hprocess]
  split_ifs at h ⊢
  · obtain ⟨_, -, h⟩ := checked_bind_eq_ok.mp h
    cases hrefused : refused r'.2.draft.pending with
    | some refusal =>
      simp only [hrefused] at h ⊢
      exact Except.ok.inj h
    | none =>
      simp only [hrefused] at h ⊢
      exact Except.ok.inj h
  · exact Except.ok.inj h

/-- The command without a fault does what `setProtocol` does. -/
theorem checkedSetProtocol_eq_ok {text : String → Bool} {svc : ProtocolServices}
    {configuration : CFConfiguration} {args : List String} {w : SetWorld} {f : Finished}
    (h : checkedSetProtocol text svc configuration args w = .ok f) :
    setProtocol (some svc) configuration args w = f := by
  unfold checkedSetProtocol at h
  simp only [setProtocol]
  split_ifs at h ⊢
  · exact Except.ok.inj h
  have hprocess : ∀ {options : List (OptionRow configuration (editCopy configuration) id)}
      {handlers}, Handlers options handlers → ∀ {r},
        checkedProcess text (options.zip handlers) args .start w = .ok r →
          processOptions options args .start w = r := by
    intro options handlers hhandlers r hr
    have hprocess := checkedProcess_eq_ok hhandlers.refines.1 hr
    rwa [hhandlers.refines.2] at hprocess
  cases hr : checkedSetProtocolOptions text svc args
      (.start : Draft configuration (editCopy configuration) id) w with
  | error fault => simp [hr, Except.map] at h
  | ok r =>
    have hoptions : setProtocolOptions svc args .start w = r := by
      unfold checkedSetProtocolOptions at hr
      unfold setProtocolOptions
      cases htype : svc.protocolType with
      | dns =>
        simp only [htype] at hr ⊢
        exact hprocess (dnsHandlers_refine text svc) hr
      | ipv4 =>
        simp only [htype] at hr ⊢
        exact checkedSetProtocolChecked_eq_ok (ipv4Handlers_refine svc) hr
      | ipv6 =>
        simp only [htype] at hr ⊢
        exact checkedSetProtocolChecked_eq_ok (ipv6Handlers_refine svc) hr
      | proxies =>
        simp only [htype] at hr ⊢
        exact hprocess (proxyHandlers_refine text) hr
      | smb =>
        simp only [htype] at hr ⊢
        exact hprocess (smbHandlers_refine text svc) hr
      | other =>
        simp only [htype] at hr ⊢
        exact Except.ok.inj hr
    rw [hoptions]
    simp only [hr, Except.map, Except.ok.injEq] at h
    exact h

/-! ## Handlers that check the count -/

@[simp] theorem Handled.uses_nArgs (n : Nat) (d : Draft o i l) (w : SetWorld) :
    (Handled.uses n d w).nArgs = some n := rfl

@[simp] theorem Handled.refuses_nArgs (d : Draft o i l) (w : SetWorld) (text : String) :
    (Handled.refuses d w text).nArgs = none := rfl

/-- A handler uses no more arguments than there are. -/
def CountsArguments (h : OptionHandler o i l) : Prop :=
  ∀ args d w, ∀ n ∈ (h args d w).nArgs, n ≤ args.length

/-- One that uses at most the argument it has checked does so. -/
theorem CountsArguments.of_le_one {h : OptionHandler o i l}
    (hnone : ∀ d w, ∀ n ∈ (h [] d w).nArgs, n = 0)
    (hsome : ∀ arg rest d w, ∀ n ∈ (h (arg :: rest) d w).nArgs, n ≤ 1) : CountsArguments h := by
  rintro (_ | ⟨arg, rest⟩) d w n hn
  · exact (hnone d w n hn).le
  · refine (hsome arg rest d w n hn).trans ?_
    simp

/-- The handlers below only take arguments that they have asked for. -/
theorem doCleanString_counts {clean : String → Option String} {missing invalid : String}
    {key : PropertyKey} :
    CountsArguments (doCleanString clean missing invalid key : OptionHandler o i l) := by
  refine .of_le_one (fun d w n hn => by simp [doCleanString] at hn) fun arg rest d w n hn => ?_
  simp only [doCleanString] at hn
  split_ifs at hn
  · exact (Option.some.inj hn).symm.le
  · split at hn <;> simp_all

theorem doStringList_counts {parse : String → Option String} {missing invalid : String}
    {key : PropertyKey} :
    CountsArguments (doStringList parse missing invalid key : OptionHandler o i l) := by
  refine .of_le_one (fun d w n hn => by simp [doStringList] at hn) fun arg rest d w n hn => ?_
  simp only [doStringList] at hn
  split at hn <;> simp_all

theorem doProxySelect_counts {proxy : ProxyKeys} :
    CountsArguments (doProxySelect proxy : OptionHandler o i l) := by
  refine .of_le_one (fun d w n hn => by simp [doProxySelect] at hn) fun arg rest d w n hn => ?_
  simp only [doProxySelect] at hn
  split at hn
  · exact (Option.some.inj hn).symm.le.trans (Nat.zero_le 1)
  · simp at hn

theorem doProxyEnable_counts {enabled : Bool} :
    CountsArguments (doProxyEnable enabled : OptionHandler o i l) := by
  intro args d w n hn
  have hzero : n = 0 := by
    simp only [doProxyEnable] at hn
    split at hn
    · simp at hn
    · split at hn
      · simp at hn
      · split_ifs at hn <;> simpa using hn.symm
  exact hzero ▸ Nat.zero_le _

theorem doProxyFTPPassive_counts : CountsArguments (doProxyFTPPassive : OptionHandler o i l) := by
  intro args d w n hn
  have hzero : n = 0 := by
    simp only [doProxyFTPPassive] at hn
    split at hn
    · simp at hn
    · split_ifs at hn <;> simp_all
  exact hzero ▸ Nat.zero_le _

theorem doProxyModifier_counts {what : String} {keyOf : ProxyKeys → Option PropertyKey}
    {invalid : ProxyKeys → String} {value : ProxyKeys → String → Option CFValue} :
    CountsArguments (doProxyModifier what keyOf invalid value : OptionHandler o i l) := by
  intro args d w n hn
  simp only [doProxyModifier] at hn
  split at hn
  · simp at hn
  split at hn
  · simp at hn
  split_ifs at hn
  · simp at hn
  cases args with
  | nil => simp at hn
  | cons arg rest =>
    have hone : n = 1 := by
      simp only at hn
      split_ifs at hn
      · simpa using hn.symm
      · split at hn <;> simp_all
    simp [hone]

/-- An option without a handler reads its value where the table reads it. -/
theorem guardedRow_none {row : OptionRow o i l}
    (htype : row.type.isSelection = false) : GuardedRow (row, none) :=
  ⟨htype, fun _ _ _ => .ok _ (by simp)⟩

theorem guardedRow_guarded {row : OptionRow o i l}
    (htype : row.type.isSelection = false) {h : OptionHandler o i l}
    (hcounts : CountsArguments h) : GuardedRow (row, some (guarded h)) :=
  ⟨htype, fun args d w => .ok _ (hcounts args d w)⟩

theorem guardedRow_converted (text : String → Bool) {row : OptionRow o i l}
    (htype : row.type.isSelection = false) {h : OptionHandler o i l}
    (hcounts : CountsArguments h) : GuardedRow (row, some (converted text h)) := by
  refine ⟨htype, fun args d w => ?_⟩
  cases args with
  | nil => exact .ok _ (hcounts [] d w)
  | cons arg rest =>
    simp only [checkedHandle, converted]
    split_ifs
    · exact .ok _ (hcounts _ d w)
    · exact .error _ rfl

theorem guardedRow_modifier (text : String → Bool) {row : OptionRow o i l}
    (htype : row.type.isSelection = false) {h : OptionHandler o i l}
    (hcounts : CountsArguments h) : GuardedRow (row, some (checkedModifier text h)) := by
  refine ⟨htype, fun args d w => ?_⟩
  cases args with
  | nil => exact .ok _ (hcounts [] d w)
  | cons arg rest =>
    simp only [checkedHandle, checkedModifier]
    split_ifs
    · exact .error _ rfl
    · exact .ok _ (hcounts _ d w)

/-- Every option of DNS asks before it reads. -/
theorem dnsRows_guarded (text : String → Bool) (svc : ProtocolServices) :
    ∀ row ∈ (dnsOptions svc : List (OptionRow o i l)).zip (dnsHandlers text svc),
      GuardedRow row := by
  simp only [dnsOptions, dnsHandlers, List.zip_cons_cons, List.zip_nil_right, List.forall_mem_cons]
  exact ⟨guardedRow_converted text rfl doCleanString_counts,
    guardedRow_converted text rfl doCleanString_counts,
    guardedRow_converted text rfl doStringList_counts,
    guardedRow_converted text rfl doStringList_counts,
    guardedRow_converted text rfl doStringList_counts,
    guardedRow_converted text rfl doStringList_counts,
    guardedRow_converted text rfl doStringList_counts,
    guardedRow_converted text rfl doStringList_counts, guardedRow_none rfl, List.forall_mem_nil _⟩

/-- Every option of the proxies asks before it reads. -/
theorem proxyRows_guarded (text : String → Bool) :
    ∀ row ∈ (proxyOptions : List (OptionRow o i l)).zip (proxyHandlers text), GuardedRow row := by
  have hselect : ∀ {row : OptionRow o i l} (proxy), row.type.isSelection = false →
      GuardedRow (row, some (guarded (doProxySelect proxy))) :=
    fun _ htype => guardedRow_guarded htype doProxySelect_counts
  simp only [proxyOptions, proxyHandlers, List.zip_cons_cons, List.zip_nil_right,
    List.forall_mem_cons]
  exact ⟨guardedRow_none rfl, guardedRow_none rfl, hselect _ rfl, hselect _ rfl, hselect _ rfl,
    hselect _ rfl, hselect _ rfl, hselect _ rfl, hselect _ rfl, hselect _ rfl, hselect _ rfl,
    hselect _ rfl, hselect _ rfl, guardedRow_guarded rfl doProxyEnable_counts,
    guardedRow_guarded rfl doProxyEnable_counts,
    guardedRow_modifier text rfl doProxyModifier_counts,
    guardedRow_modifier text rfl doProxyModifier_counts,
    guardedRow_modifier text rfl doProxyModifier_counts,
    guardedRow_modifier text rfl doProxyModifier_counts,
    guardedRow_guarded rfl doProxyModifier_counts,
    guardedRow_modifier text rfl doProxyModifier_counts,
    guardedRow_guarded rfl doProxyFTPPassive_counts,
    guardedRow_guarded rfl doProxyFTPPassive_counts, guardedRow_none rfl, List.forall_mem_nil _⟩

/-! ## Handlers of one argument -/

/-- A handler takes one argument, if it accepts it, and leaves a key alone. -/
structure TakesOne (key : PropertyKey) (accepts : String → Bool) (h : OptionHandler o i l) :
    Prop where
  missing : ∀ d w, (h [] d w).nArgs = none
  refused : ∀ arg rest d w, accepts arg = false → (h (arg :: rest) d w).nArgs = none
  accepted : ∀ arg rest d w, accepts arg = true → ∃ d', h (arg :: rest) d w = .uses 1 d' w ∧
    d'.pending.lookup key = d.pending.lookup key

/-- Handlers that remove their key for an empty argument, and put a value that is found for
another one. -/
theorem TakesOne.of_found {α : Type} {key own : PropertyKey} (hkey : own ≠ key)
    {h : OptionHandler o i l} {found : String → Option α}
    (hmissing : ∀ d w, (h [] d w).nArgs = none)
    (hempty : ∀ rest d w, h ("" :: rest) d w = .uses 1 (d.put ⟨own, none⟩) w)
    (hnext : ∀ arg rest d w, arg ≠ "" →
      (found arg = none ∧ (h (arg :: rest) d w).nArgs = none) ∨
        ((found arg).isSome ∧ ∃ v, h (arg :: rest) d w = .uses 1 (d.put ⟨own, v⟩) w)) :
    TakesOne key (fun arg => arg == "" || (found arg).isSome) h where
  missing := hmissing
  refused arg rest d w harg := by
    obtain ⟨hne, hnone⟩ : arg ≠ "" ∧ found arg = none := by simpa using harg
    obtain ⟨-, h⟩ | ⟨hsome, -⟩ := hnext arg rest d w hne
    · exact h
    · simp [hnone] at hsome
  accepted arg rest d w harg := by
    by_cases hne : arg = ""
    · subst hne
      exact ⟨_, hempty rest d w, lookup_put_of_ne hkey⟩
    · obtain ⟨hnone, -⟩ | ⟨-, v, hv⟩ := hnext arg rest d w hne
      · simp [hne, hnone] at harg
      · exact ⟨_, hv, lookup_put_of_ne hkey⟩

section

variable {key own : PropertyKey} (hkey : own ≠ key)
include hkey

/-- The handlers below take one argument, and write to no key but their own. -/
theorem doAddresses_takesOne (copyAddress : String → Option String) (useArray : Bool) :
    TakesOne key (fun arg => arg == "" || (copyAddress arg).isSome)
      (doAddresses copyAddress own useArray : OptionHandler o i l) := by
  refine .of_found hkey (fun d w => rfl) (fun rest d w => rfl) fun arg rest d w hne => ?_
  simp only [doAddresses, if_neg hne]
  cases copyAddress arg with
  | none => exact .inl ⟨rfl, rfl⟩
  | some address => exact .inr ⟨rfl, _, rfl⟩

/-- The prefix lengths that are accepted. -/
def prefixLength (arg : String) : Option Int := (strtolInt arg).filter fun n => 0 < n && n ≤ 128

theorem doIPv6PrefixLength_takesOne :
    TakesOne key (fun arg => arg == "" || (prefixLength arg).isSome)
      (doIPv6PrefixLength own : OptionHandler o i l) := by
  refine .of_found hkey (fun d w => rfl) (fun rest d w => rfl) fun arg rest d w hne => ?_
  simp only [doIPv6PrefixLength, if_neg hne]
  rw [show (strtolInt arg).filter (fun n => 0 < n && n ≤ 128) = prefixLength arg from rfl]
  cases prefixLength arg with
  | none => exact .inl ⟨rfl, rfl⟩
  | some n => exact .inr ⟨rfl, _, rfl⟩

theorem doCleanString_takesOne (clean : String → Option String) (missing invalid : String) :
    TakesOne key (fun arg => arg == "" || (clean arg).isSome)
      (doCleanString clean missing invalid own : OptionHandler o i l) := by
  refine .of_found hkey (fun d w => rfl) (fun rest d w => rfl) fun arg rest d w hne => ?_
  simp only [doCleanString, if_neg hne]
  cases clean arg with
  | none => exact .inl ⟨rfl, rfl⟩
  | some value => exact .inr ⟨rfl, _, rfl⟩

theorem doStringList_takesOne (parse : String → Option String) (missing invalid : String) :
    TakesOne key (fun arg => arg == "" || ((separated arg).mapM parse).isSome)
      (doStringList parse missing invalid own : OptionHandler o i l) := by
  refine .of_found hkey (fun d w => rfl) (fun rest d w => rfl) fun arg rest d w hne => ?_
  simp only [doStringList, if_neg hne]
  cases (separated arg).mapM parse with
  | none => exact .inl ⟨rfl, rfl⟩
  | some values =>
    cases values with
    | nil => exact .inr ⟨rfl, _, rfl⟩
    | cons value values => exact .inr ⟨rfl, _, rfl⟩

end

/-! ## The options -/

/-- An argument is needed; an empty one removes the value. -/
def valueKind (found : String → Bool) : PairKind :=
  ⟨fun arg => arg == "" || found arg, false, false⟩

/-- The same, for a handler that does not look at the count. -/
def unguardedKind (found : String → Bool) : PairKind :=
  ⟨fun arg => arg == "" || found arg, true, false⟩

/-- The selections of a table that can be had. -/
def isAvailable (choices : List Selection) (name : String) : Bool :=
  (findSelection name choices).any fun c => c.flags &&& selectionNotAvailable == 0

/-- An argument is looked up. -/
def selectionKind (text : String → Bool) (choices : List Selection) : PairKind :=
  ⟨fun arg => text arg && isAvailable choices arg, false, true⟩

section

variable {text : String → Bool} {key : PropertyKey}

/-- An option that is refused ends the command, and reads no further. -/
theorem checkedAfter_none {args : List String} {rs : List Report} {h : Handled o i l}
    (hn : h.nArgs = none) :
    checkedAfter args rs h = .ok (false, ⟨args, h.draft, h.world, rs ++ h.reports⟩) := by
  simp only [checkedAfter, hn]

/-- The arguments that are taken have to be there. -/
theorem checkedAfter_uses {n : ℕ} {args : List String} (hn : n ≤ args.length) (rs : List Report)
    (d : Draft o i l) (w : SetWorld) :
    checkedAfter args rs (.uses n d w) = .ok (true, ⟨args.drop n, d, w, rs⟩) := by
  simp [checkedAfter, Handled.uses, hn]

/-- A turn for an entry that leaves everything to its handler. -/
theorem checkedTurn_isOther {row : CheckedRow o i l} (htype : row.1.type = .isOther)
    (args : List String) (s : SetState o i l) :
    checkedTurn text row args s =
      checkedHandle row.2 args s.draft s.world >>= checkedAfter args s.reports := by
  simp only [checkedTurn, checkedSwitch, htype, OptionRow.switch, bind, Except.bind,
    List.append_nil]

/-- A handler that takes one argument, behind its option. -/
theorem TakesOne.pairTurn {accepts : String → Bool} {h : OptionHandler o i l}
    (hh : TakesOne key accepts h) {k : PairKind} (hselects : k.selects = false) {value : String}
    (hvalue : k.accepts value = accepts value) (rest : List String) (d : Draft o i l)
    (w : SetWorld) (rs : List Report) :
    PairTurn text key (some k) d (value :: rest)
      (checkedAfter (value :: rest) rs (h (value :: rest) d w)) := by
  cases haccepts : accepts value with
  | false =>
    rw [checkedAfter_none (hh.refused value rest d w haccepts)]
    refine .refused (fun k' hk' => ?_) rest _
    obtain rfl := Option.some.inj hk'
    exact ⟨hvalue.trans haccepts, fun h => by simp [hselects] at h⟩
  | true =>
    obtain ⟨d', hd', hlookup⟩ := hh.accepted value rest d w haccepts
    rw [hd', checkedAfter_uses (by simp)]
    exact .accepted rfl (hvalue.trans haccepts) (fun h => by simp [hselects] at h) rest
      ⟨fun h => by simp [hselects] at h, fun _ => hlookup⟩ w rs

/-- A handler that does not ask reads beyond the arguments where its own is missing. -/
theorem pairRow_unguarded {row : OptionRow o i l} (htype : row.type = .isOther)
    {found : String → Bool} {h : OptionHandler o i l}
    (hh : TakesOne key (fun arg => arg == "" || found arg) h) :
    PairRow text key (row, some (unguarded h)) (some (unguardedKind found)) := by
  intro args s
  rw [checkedTurn_isOther htype]
  cases args with
  | nil => exact .beyond rfl rfl
  | cons value rest => exact hh.pairTurn rfl rfl rest s.draft s.world s.reports

/-- A handler that converts its argument fails where the bytes are no text. -/
theorem pairRow_converted {row : OptionRow o i l} (htype : row.type = .isOther)
    {found : String → Bool} {h : OptionHandler o i l}
    (hh : TakesOne key (fun arg => arg == "" || found arg) h) :
    PairRow text key (row, some (converted text h))
      (some (valueKind fun arg => text arg && found arg)) := by
  intro args s
  rw [checkedTurn_isOther htype]
  cases args with
  | nil =>
    simp only [checkedHandle, converted, bind, Except.bind]
    rw [checkedAfter_none (hh.missing s.draft s.world)]
    exact .missing (fun k hk => Option.some.inj hk ▸ rfl) _
  | cons value rest =>
    simp only [checkedHandle, converted]
    split_ifs with hvalue
    · refine hh.pairTurn rfl ?_ rest s.draft s.world s.reports
      rcases hvalue with rfl | htext
      · rfl
      · simp [valueKind, htext]
    · refine .harmless rfl (fun k hk => ?_) rest
      obtain rfl := Option.some.inj hk
      simp only [not_or, Bool.not_eq_true] at hvalue
      exact ⟨by simp [valueKind, hvalue], nofun⟩

theorem pairRow_help {row : OptionRow o i l} (htype : row.type = .isHelp) :
    PairRow text key (row, none) none := by
  intro args s
  have hturn : checkedTurn text (row, none) args s =
      .ok (false, { s with reports := s.reports ++ [⟨.help, true, ""⟩] }) := by
    simp only [checkedTurn, checkedSwitch, htype, OptionRow.switch, bind, Except.bind]
    rfl
  rw [hturn]
  cases args with
  | nil => exact .missing (fun k hk => absurd hk (Option.not_mem_none k)) _
  | cons value rest => exact .refused (fun k hk => absurd hk (Option.not_mem_none k)) rest _

/-- A turn for an entry without a handler. -/
theorem checkedTurn_goesOn {row : OptionRow o i l} {args rest : List String} {s : SetState o i l}
    {d : Draft o i l} (h : checkedSwitch text row args s.draft = .ok (.goesOn rest d [])) :
    checkedTurn text (row, none) args s = .ok (true, ⟨rest, d, s.world, s.reports⟩) := by
  simp only [checkedTurn, h, bind, Except.bind, checkedHandle, List.append_nil]
  rw [checkedAfter_uses (Nat.zero_le _), List.drop_zero]

/-- A `switch` that fails ends the command with its report. -/
theorem checkedTurn_fails {row : CheckedRow o i l} {args : List String} {s : SetState o i l}
    {r : Report} (h : checkedSwitch text row.1 args s.draft = .ok (.fails r)) :
    checkedTurn text row args s = .ok (false, { s with reports := s.reports ++ [r] }) := by
  simp only [checkedTurn, h, bind, Except.bind]
  rfl

/-- An edit of another key. -/
theorem selectionAfter_put {own : PropertyKey} (hkey : own ≠ key) (d : Draft o i l)
    (v : Option CFValue) : SelectionAfter key (false = true) d (d.put ⟨own, v⟩) :=
  ⟨nofun, fun _ => lookup_put_of_ne hkey⟩

/-- An option that stores a string takes any text. -/
theorem pairRow_string {row : OptionRow o i l} {own : PropertyKey} (hkey : own ≠ key)
    (htype : row.type = .isString own) :
    PairRow text key (row, none) (some (valueKind text)) := by
  intro args s
  cases args with
  | nil =>
    rw [checkedTurn_fails (r := .refused (row.description.getD "value" ++ " not specified\n"))]
    · exact .missing (fun k hk => Option.some.inj hk ▸ rfl) _
    · simp only [checkedSwitch, htype, OptionRow.switch, switchValue]
  | cons value rest =>
    by_cases hvalue : value = "" ∨ text value = true
    · obtain ⟨v, hv⟩ : ∃ v, checkedSwitch text row (value :: rest) s.draft =
          .ok (.goesOn rest (s.draft.put ⟨own, v⟩) []) := by
        simp only [checkedSwitch, htype, if_pos hvalue, OptionRow.switch, switchValue,
          takeUnlessEmpty]
        by_cases hempty : value = ""
        · exact ⟨none, by simp [hempty]⟩
        · exact ⟨some (.string value), by simp [hempty]⟩
      rw [checkedTurn_goesOn hv]
      exact .accepted rfl (by simpa [valueKind] using hvalue) (fun h => by cases h) rest
        (selectionAfter_put hkey _ v) _ _
    · have hturn : checkedTurn text (row, none) (value :: rest) s = .error .nullString := by
        simp only [checkedTurn, checkedSwitch, htype, if_neg hvalue, bind, Except.bind]
      rw [hturn]
      refine .harmless rfl (fun k hk => ?_) rest
      obtain rfl := Option.some.inj hk
      exact ⟨by simpa [valueKind] using hvalue, fun h => by cases h⟩

/-- An option that is on or off takes the words for these. -/
theorem pairRow_switch {row : OptionRow o i l} {own : PropertyKey} (hkey : own ≠ key)
    (htype : row.type = .isBoolean own) (hdescription : row.description = none) :
    PairRow text key (row, none) (some ⟨isSwitchValue, false, false⟩) := by
  intro args s
  have hchecked : checkedSwitch text row args s.draft = .ok (row.switch args s.draft) := by
    cases args <;> simp only [checkedSwitch, htype]
  obtain ⟨rfl, hswitch⟩ | ⟨value, rest, rfl, ⟨hvalue, hswitch⟩ | ⟨d', hvalue, hswitch⟩⟩ :=
    switch_boolean htype hdescription args s.draft
  · rw [checkedTurn_fails (hchecked.trans (congrArg _ hswitch))]
    exact .missing (fun k hk => Option.some.inj hk ▸ rfl) _
  · rw [checkedTurn_fails (hchecked.trans (congrArg _ hswitch))]
    exact .refused (fun k hk => Option.some.inj hk ▸ ⟨hvalue, nofun⟩) rest _
  · rw [checkedTurn_goesOn (hchecked.trans (congrArg _ hswitch))]
    obtain rfl | ⟨own', hown, v, rfl⟩ := row.switch_edits_key hswitch
    · exact .accepted rfl hvalue (fun h => by cases h) rest
        ⟨fun h => absurd h Bool.false_ne_true, fun _ => rfl⟩ _ _
    · obtain rfl : own = own' := by simpa [OptionType.key?, htype] using hown
      exact .accepted rfl hvalue (fun h => by cases h) rest (selectionAfter_put hkey _ v) _ _

/-- A selection that can be had has a key. -/
theorem takeChoice_cases {choices : List Selection} (hkeys : ∀ c ∈ choices, c.key.isSome)
    (own : PropertyKey) (description arg : String) :
    (isAvailable choices arg = false ∧
        ∃ refusal, takeChoice own choices description arg = .error refusal) ∨
      ∃ c ∈ choices, ∃ name, isAvailable choices arg = true ∧ c.key = some name ∧
        takeChoice own choices description arg = .ok (⟨own, some (.string name)⟩, []) := by
  unfold takeChoice isAvailable
  cases hfind : findSelection arg choices with
  | none => exact .inl ⟨rfl, _, rfl⟩
  | some c =>
    have hmem : c ∈ choices := List.mem_of_find?_eq_some hfind
    obtain ⟨name, hname⟩ := Option.isSome_iff_exists.mp (hkeys c hmem)
    by_cases hflags : c.flags &&& selectionNotAvailable = 0
    · exact .inr ⟨c, hmem, name, by simp [hflags], hname, by simp [hflags, hname]⟩
    · exact .inl ⟨by simp [hflags], _, by simp [hflags]; rfl⟩

/-- An entry for a selection, whose handler keeps what was selected. -/
theorem pairRow_choice {row : CheckedRow o i l} {choices : List Selection}
    (htype : row.1.type = .isChooseOne key choices) (hkeys : ∀ c ∈ choices, c.key.isSome)
    (hhandler : ∀ args d w, ∀ c ∈ choices, ∀ name, c.key = some name →
      d.pending.lookup key = some (.string name) →
        ∃ d', checkedHandle row.2 args d w = .ok (.uses 0 d' w) ∧
          d'.pending.lookup key = some (.string name)) :
    PairRow text key row (some (selectionKind text choices)) := by
  intro args s
  cases args with
  | nil =>
    rw [checkedTurn_fails (r := .refused (row.1.description.getD "selection" ++
      " not specified\n"))]
    · exact .missing (fun k hk => Option.some.inj hk ▸ rfl) _
    · simp only [checkedSwitch, htype, OptionRow.switch, switchValue]
  | cons value rest =>
    cases htext : text value with
    | false =>
      have hturn : checkedTurn text row (value :: rest) s = .error .nullSelection := by
        simp only [checkedTurn, checkedSwitch, htype, htext, bind, Except.bind]
        rfl
      rw [hturn]
      exact .nullSelection rfl rfl htext rest
    | true =>
      have hchecked : checkedSwitch text row.1 (value :: rest) s.draft =
          .ok (switchValue (row.1.description.getD "selection" ++ " not specified\n")
            (takeChoice key choices (row.1.description.getD "selection")) (value :: rest)
              s.draft) := by
        simp only [checkedSwitch, htype, htext, OptionRow.switch, if_pos]
      obtain ⟨havailable, refusal, htake⟩ | ⟨c, hc, name, havailable, hname, htake⟩ :=
        takeChoice_cases hkeys key (row.1.description.getD "selection") value
      · rw [checkedTurn_fails (r := .refused refusal)]
        · refine .refused (fun k hk => ?_) rest _
          obtain rfl := Option.some.inj hk
          exact ⟨by simp [selectionKind, havailable], fun _ => htext⟩
        · rw [hchecked]
          simp only [switchValue, htake]
      · obtain ⟨d', hd', hlookup⟩ := hhandler rest (s.draft.put ⟨key, some (.string name)⟩) s.world
          c hc name hname (lookup_put_self _ _ _)
        have hturn : checkedTurn text row (value :: rest) s =
            .ok (true, ⟨rest, d', s.world, s.reports⟩) := by
          simp only [checkedTurn, hchecked, switchValue, htake, bind, Except.bind, hd',
            List.append_nil]
          rw [checkedAfter_uses (Nat.zero_le _), List.drop_zero]
        rw [hturn]
        exact .accepted rfl (by simp [selectionKind, htext, havailable]) (fun _ => htext) rest
          ⟨fun _ => ⟨name, hlookup⟩, fun h => absurd rfl h⟩ _ _

/-- What a method does not allow is removed, but nothing else. -/
theorem lookup_disallowed {allowed : List (Nat × PropertyKey)} (hallowed : ∀ a ∈ allowed, a.2 ≠ key)
    (method : Selection) (d : Draft o i l) :
    (allowed.foldl (fun d a => if method.flags &&& a.1 = 0 then d.put ⟨a.2, none⟩ else d)
      d).pending.lookup key = d.pending.lookup key := by
  induction allowed generalizing d with
  | nil => rfl
  | cons a allowed ih =>
    rw [List.foldl_cons, ih fun a ha => hallowed a (List.mem_cons_of_mem _ ha)]
    split_ifs
    · exact lookup_put_of_ne (hallowed a List.mem_cons_self)
    · rfl

/-- The handler of a configuration method knows the method that was selected, and keeps it. -/
theorem checkedConfigMethod_handle {methods : List Selection}
    (hmethods : ∀ c ∈ methods, ∀ name, c.key = some name → (findSelection name methods).isSome)
    {allowed : List (Nat × PropertyKey)} (hallowed : ∀ a ∈ allowed, a.2 ≠ key)
    (args : List String) (d : Draft o i l) (w : SetWorld) (c : Selection) (hc : c ∈ methods)
    (name : String) (hname : c.key = some name)
    (hlookup : d.pending.lookup key = some (.string name)) :
    ∃ d', checkedHandle (some (checkedConfigMethod (doConfigMethod methods allowed) key)) args d w =
      .ok (.uses 0 d' w) ∧ d'.pending.lookup key = some (.string name) := by
  obtain ⟨method, hmethod⟩ := Option.isSome_iff_exists.mp (hmethods c hc name hname)
  have hconfig : configMethod methods d.pending key = some method :=
    configMethod_eq_some.mpr ⟨name, hlookup, hmethod⟩
  refine ⟨allowed.foldl (fun d a => if method.flags &&& a.1 = 0 then d.put ⟨a.2, none⟩ else d) d,
    ?_, (lookup_disallowed hallowed method d).trans hlookup⟩
  simp only [checkedHandle, checkedConfigMethod, checkedMethod, hlookup, bind, Except.bind,
    doConfigMethod, hconfig]

end

/-! ## The tables of options -/

section

variable (text : String → Bool) (svc : ProtocolServices)

/-- What the options of `ipv4Options` do with their arguments. -/
def ipv4Kinds : List (String × Option PairKind) :=
  let address := unguardedKind fun arg => (svc.copyIPv4Address arg).isSome
  [("ConfigMethod", some (selectionKind text ipv4ConfigMethods)),
    ("config", some (selectionKind text ipv4ConfigMethods)), ("Addresses", some address),
    ("address", some address), ("SubnetMasks", some address), ("netmask", some address),
    ("Router", some address), ("DHCPClientID", some (valueKind text)), ("?", none)]

/-- What the options of `ipv6Options` do. -/
def ipv6Kinds : List (String × Option PairKind) :=
  let address := unguardedKind fun arg => (svc.copyIPv6Address arg).isSome
  [("ConfigMethod", some (selectionKind text ipv6ConfigMethods)),
    ("config", some (selectionKind text ipv6ConfigMethods)), ("Addresses", some address),
    ("address", some address), ("EnableCGA", some ⟨isSwitchValue, false, false⟩),
    ("PrefixLength", some (unguardedKind fun arg => (prefixLength arg).isSome)),
    ("Router", some address), ("?", none)]

/-- What the options of `smbOptions` do. -/
def smbKinds : List (String × Option PairKind) :=
  let name := valueKind fun arg => text arg && (cleanupName arg).isSome
  let wins := valueKind fun arg => text arg && ((separated arg).mapM fun s =>
    if fitsAddressBuffer s then svc.copyIPv4Address s else none).isSome
  [("NetBIOSName", some name), ("name", some name),
    ("NetBIOSNodeType", some (selectionKind text smbNodeTypes)),
    ("type", some (selectionKind text smbNodeTypes)), ("Workgroup", some name),
    ("WINSAddresses", some wins), ("wins", some wins), ("?", none)]

/-- The entries of a table go with what its options do. -/
def TableKinds (key : PropertyKey) (rows : List (CheckedRow o i l))
    (kinds : List (String × Option PairKind)) : Prop :=
  List.Forall₂ (fun row e => row.1.option = e.1 ∧ PairRow text key row e.2) rows kinds

/-- Every selection of a table can be stored, and is found again. -/
def SelectionsKnown (choices : List Selection) : Prop :=
  (∀ c ∈ choices, c.key.isSome) ∧
    ∀ c ∈ choices, ∀ name, c.key = some name → (findSelection name choices).isSome

theorem ipv4ConfigMethods_known : SelectionsKnown ipv4ConfigMethods := by
  constructor <;> decide

theorem ipv6ConfigMethods_known : SelectionsKnown ipv6ConfigMethods := by
  constructor <;> decide

/-- An entry for a configuration method. -/
theorem pairRow_method {key : PropertyKey} {row : OptionRow o i l} {methods : List Selection}
    (htype : row.type = .isChooseOne key methods) (hmethods : SelectionsKnown methods)
    {allowed : List (Nat × PropertyKey)} (hallowed : ∀ a ∈ allowed, a.2 ≠ key) :
    PairRow text key (row, some (checkedConfigMethod (doConfigMethod methods allowed) key))
      (some (selectionKind text methods)) :=
  pairRow_choice htype hmethods.1 (checkedConfigMethod_handle hmethods.2 hallowed)

/-- What each option of IPv4 takes, row by row, as in the table. -/
theorem ipv4_tableKinds :
    TableKinds text .kSCPropNetIPv4ConfigMethod
      ((ipv4Options svc : List (OptionRow o i l)).zip (ipv4Handlers svc)) (ipv4Kinds text svc) := by
  have hmethod : ∀ {row : OptionRow o i l},
      row.type = .isChooseOne .kSCPropNetIPv4ConfigMethod ipv4ConfigMethods →
        PairRow text .kSCPropNetIPv4ConfigMethod
          (row, some (checkedConfigMethod doIPv4ConfigMethod .kSCPropNetIPv4ConfigMethod))
          (some (selectionKind text ipv4ConfigMethods)) :=
    fun htype => pairRow_method text htype ipv4ConfigMethods_known (by decide)
  have haddress : ∀ {row : OptionRow o i l} {own : PropertyKey} (useArray : Bool),
      own ≠ .kSCPropNetIPv4ConfigMethod → row.type = .isOther →
        PairRow text .kSCPropNetIPv4ConfigMethod
          (row, some (unguarded (doIPv4Addresses svc own useArray)))
          (some (unguardedKind fun arg => (svc.copyIPv4Address arg).isSome)) :=
    fun useArray hkey htype =>
      pairRow_unguarded htype (doAddresses_takesOne hkey svc.copyIPv4Address useArray)
  simp only [TableKinds, ipv4Options, ipv4Handlers, ipv4Kinds, List.zip_cons_cons,
    List.zip_nil_right, List.forall₂_cons, List.Forall₂.nil, and_true, true_and]
  exact ⟨hmethod rfl, hmethod rfl, haddress true (by decide) rfl,
    haddress true (by decide) rfl, haddress true (by decide) rfl,
    haddress true (by decide) rfl, haddress false (by decide) rfl,
    pairRow_string (by decide) rfl, pairRow_help rfl⟩

/-- What each option of IPv6 takes. -/
theorem ipv6_tableKinds :
    TableKinds text .kSCPropNetIPv6ConfigMethod
      ((ipv6Options svc : List (OptionRow o i l)).zip (ipv6Handlers svc)) (ipv6Kinds text svc) := by
  have hmethod : ∀ {row : OptionRow o i l},
      row.type = .isChooseOne .kSCPropNetIPv6ConfigMethod ipv6ConfigMethods →
        PairRow text .kSCPropNetIPv6ConfigMethod
          (row, some (checkedConfigMethod doIPv6ConfigMethod .kSCPropNetIPv6ConfigMethod))
          (some (selectionKind text ipv6ConfigMethods)) :=
    fun htype => pairRow_method text htype ipv6ConfigMethods_known (by decide)
  have haddress : ∀ {row : OptionRow o i l} {own : PropertyKey} (useArray : Bool),
      own ≠ .kSCPropNetIPv6ConfigMethod → row.type = .isOther →
        PairRow text .kSCPropNetIPv6ConfigMethod
          (row, some (unguarded (doIPv6Addresses svc own useArray)))
          (some (unguardedKind fun arg => (svc.copyIPv6Address arg).isSome)) :=
    fun useArray hkey htype =>
      pairRow_unguarded htype (doAddresses_takesOne hkey svc.copyIPv6Address useArray)
  simp only [TableKinds, ipv6Options, ipv6Handlers, ipv6Kinds, List.zip_cons_cons,
    List.zip_nil_right, List.forall₂_cons, List.Forall₂.nil, and_true, true_and]
  exact ⟨hmethod rfl, hmethod rfl, haddress true (by decide) rfl,
    haddress true (by decide) rfl, pairRow_switch (by decide) rfl rfl,
    pairRow_unguarded rfl (doIPv6PrefixLength_takesOne (by decide)),
    haddress false (by decide) rfl, pairRow_help rfl⟩

/-- What each option of SMB takes. -/
theorem smb_tableKinds :
    TableKinds text .kSCPropNetSMBNetBIOSNodeType
      ((smbOptions svc : List (OptionRow o i l)).zip (smbHandlers text svc))
        (smbKinds text svc) := by
  have hname : ∀ {row : OptionRow o i l} {own : PropertyKey} (missing invalid : String),
      own ≠ .kSCPropNetSMBNetBIOSNodeType → row.type = .isOther →
        PairRow text .kSCPropNetSMBNetBIOSNodeType
          (row, some (converted text (doCleanString cleanupName missing invalid own)))
          (some (valueKind fun arg => text arg && (cleanupName arg).isSome)) :=
    fun missing invalid hkey htype =>
      pairRow_converted htype (doCleanString_takesOne hkey cleanupName missing invalid)
  have hwins : ∀ {row : OptionRow o i l}, row.type = .isOther →
      PairRow text .kSCPropNetSMBNetBIOSNodeType
        (row, some (converted text (doSMBWINSAddresses svc .kSCPropNetSMBWINSAddresses)))
        (some (valueKind fun arg => text arg && ((separated arg).mapM fun s =>
          if fitsAddressBuffer s then svc.copyIPv4Address s else none).isSome)) :=
    fun htype => pairRow_converted htype (doStringList_takesOne (by decide) _ _ _)
  have htype : ∀ {row : OptionRow o i l},
      row.type = .isChooseOne .kSCPropNetSMBNetBIOSNodeType smbNodeTypes →
        PairRow text .kSCPropNetSMBNetBIOSNodeType (row, none)
          (some (selectionKind text smbNodeTypes)) :=
    fun htype => pairRow_choice htype (by decide) fun args d w c hc name hname hlookup =>
      ⟨d, rfl, hlookup⟩
  simp only [TableKinds, smbOptions, smbHandlers, smbKinds, List.zip_cons_cons,
    List.zip_nil_right, List.forall₂_cons, List.Forall₂.nil, and_true, true_and]
  exact ⟨hname _ _ (by decide) rfl, hname _ _ (by decide) rfl, htype rfl,
    htype rfl, hname _ _ (by decide) rfl, hwins rfl, hwins rfl,
    pairRow_help rfl⟩

end

/-! ## Safe commands -/

section

variable (text : String → Bool)

/-- An argument is read, or a selection looked up, that is not there. -/
def PairsMissing (kinds : List (String × Option PairKind)) (methodKey : PropertyKey)
    (c : CFConfiguration) (args : List String) : Prop :=
  EndsUnguarded kinds args ∨ SelectsNull text kinds args ∨
    (AllAccepted kinds args ∧ ¬ HasSelection kinds args ∧ c.lookup methodKey = none)

/-- The commands that do so, by the type of the protocol. -/
def ArgumentMissing (svc : ProtocolServices) (configuration : CFConfiguration)
    (args : List String) : Prop :=
  match svc.protocolType with
  | .ipv4 =>
    args ≠ [] ∧
      PairsMissing text (ipv4Kinds text svc) .kSCPropNetIPv4ConfigMethod configuration args
  | .ipv6 =>
    args ≠ [] ∧
      PairsMissing text (ipv6Kinds text svc) .kSCPropNetIPv6ConfigMethod configuration args
  | .smb => SelectsNull text (smbKinds text svc) args
  | .dns | .proxies | .other => False

/-- The validation looks up the method. -/
theorem argumentsSafe_checkedMethod {α : Type} {methodKey : PropertyKey} {c : CFConfiguration}
    {next : Unit → Except ArgumentFault α} (hnext : ∃ a, next () = .ok a) :
    ArgumentsSafe (checkedMethod methodKey c >>= next) ↔ c.lookup methodKey ≠ none := by
  obtain ⟨a, ha⟩ := hnext
  unfold checkedMethod
  split
  · next h =>
    simp [h, bind, Except.bind, argumentsSafe_error, ArgumentFault.isArgument]
  · next h =>
    simp [h, bind, Except.bind, ha, argumentsSafe_ok]
  · next v hv h =>
    simp [h, bind, Except.bind, argumentsSafe_error, ArgumentFault.isArgument]

variable {text}

/-- The check after the loop reads no arguments, so only the loop matters. -/
theorem checkedSetProtocolChecked_safe {methodKey : PropertyKey} {rows : List (CheckedRow o i l)}
    {kinds : List (String × Option PairKind)} (hrows : TableKinds text methodKey rows kinds)
    (refused : CFConfiguration → Option String) (args : List String) (d : Draft o i l)
    (w : SetWorld) :
    ArgumentsSafe (checkedSetProtocolChecked text rows methodKey refused args d w) ↔
      ¬ PairsMissing text kinds methodKey d.pending args := by
  have hrun := checkedProcess_pairs hrows args d w
  unfold checkedSetProtocolChecked PairsMissing
  generalize checkedProcess text rows args d w = r at hrun ⊢
  cases hrun with
  | beyond h => simp [bind, Except.bind, argumentsSafe_error, ArgumentFault.isArgument, h]
  | nullSelection h => simp [bind, Except.bind, argumentsSafe_error, ArgumentFault.isArgument, h]
  | harmless hf hends hnull haccepted =>
    simp [bind, Except.bind, argumentsSafe_error, hf, hends, hnull, haccepted]
  | refused s hends hnull haccepted =>
    simp [bind, Except.bind, argumentsSafe_ok, hends, hnull, haccepted]
  | accepted s hends hnull haccepted hkey =>
    have hsafe : ArgumentsSafe (checkedMethod methodKey s.draft.pending >>= fun _ =>
        match refused s.draft.pending with
        | some text => .ok (s.refuse text)
        | none => .ok (true, s)) ↔ s.draft.pending.lookup methodKey ≠ none :=
      argumentsSafe_checkedMethod (by cases refused s.draft.pending <;> exact ⟨_, rfl⟩)
    refine Iff.trans hsafe ?_
    by_cases hselection : HasSelection kinds args
    · obtain ⟨name, hname⟩ := hkey.1 hselection
      simp [hname, hends, hnull, hselection]
    · simp [hkey.2 hselection, hends, hnull, haccepted, hselection]

/-- What is done with the result reads no arguments. -/
theorem argumentsSafe_map {α β : Type} {f : α → β} {r : Except ArgumentFault α} :
    ArgumentsSafe (r.map f) ↔ ArgumentsSafe r := by
  cases r <;> simp [Except.map, argumentsSafe_ok, argumentsSafe_error]

/-- Without a method of its own to check, only a selection that is not text can be missing. -/
theorem checkedProcess_safe {key : PropertyKey} {rows : List (CheckedRow o i l)}
    {kinds : List (String × Option PairKind)} (hrows : TableKinds text key rows kinds)
    (hguarded : ∀ e ∈ kinds, ∀ k ∈ e.2, k.unguarded = false) (args : List String)
    (d : Draft o i l) (w : SetWorld) :
    ArgumentsSafe (checkedProcess text rows args d w) ↔ ¬ SelectsNull text kinds args := by
  have hends : ¬ EndsUnguarded kinds args := by
    rintro ⟨front, name, -, -, k, hk, hunguarded⟩
    obtain ⟨e, he, hek⟩ := Option.bind_eq_some_iff.mp hk
    rw [hguarded e (List.mem_of_find?_eq_some he) k hek] at hunguarded
    cases hunguarded
  have hrun := checkedProcess_pairs hrows args d w
  generalize checkedProcess text rows args d w = r at hrun ⊢
  cases hrun with
  | beyond h => exact absurd h hends
  | nullSelection h => simp [argumentsSafe_error, ArgumentFault.isArgument, h]
  | harmless hf _ hnull _ => simp [argumentsSafe_error, hf, hnull]
  | refused s _ hnull _ => simp [argumentsSafe_ok, hnull]
  | accepted s _ hnull _ _ => simp [argumentsSafe_ok, hnull]

variable (text)

/-- A command reads an argument that is not there, or looks up `NULL`, exactly if an address or a
prefix length is missing at its end, a selection is not text, or no method was ever configured. -/
theorem argumentsSafe_iff (svc : ProtocolServices) (configuration : CFConfiguration)
    (args : List String) (w : SetWorld) :
    ArgumentsSafe (checkedSetProtocol text svc configuration args w) ↔
      ¬ ArgumentMissing text svc configuration args := by
  have hpending : ∀ key ≠ PropertyKey.kSCResvInactive,
      (editCopy configuration).lookup key = configuration.lookup key :=
    fun key hkey => Finmap.lookup_erase_ne hkey
  unfold checkedSetProtocol ArgumentMissing
  by_cases hargs : args = []
  · subst hargs
    simp only [if_pos, argumentsSafe_ok, true_iff]
    split
    · exact fun h => h.1 rfl
    · exact fun h => h.1 rfl
    · exact not_selectsNull_nil text _
    all_goals exact not_false
  rw [if_neg hargs, argumentsSafe_map]
  unfold checkedSetProtocolOptions
  cases svc.protocolType with
  | dns => simpa using checkedProcess_guarded (dnsRows_guarded text svc) args _ w
  | ipv4 =>
    refine (checkedSetProtocolChecked_safe (ipv4_tableKinds text svc) _ args _ w).trans ?_
    simp only [PairsMissing, Draft.start, hpending .kSCPropNetIPv4ConfigMethod (by decide), hargs,
      ne_eq, not_false_eq_true, true_and]
  | ipv6 =>
    refine (checkedSetProtocolChecked_safe (ipv6_tableKinds text svc) _ args _ w).trans ?_
    simp only [PairsMissing, Draft.start, hpending .kSCPropNetIPv6ConfigMethod (by decide), hargs,
      ne_eq, not_false_eq_true, true_and]
  | proxies => simpa using checkedProcess_guarded (proxyRows_guarded text) args _ w
  | smb =>
    refine checkedProcess_safe (smb_tableKinds text svc) ?_ args _ w
    simp [smbKinds, valueKind, selectionKind]
  | other => simp [argumentsSafe_ok]

/-- `set protocol address` reads past its arguments, and `set protocol dhcpclientid ""` looks up
the method of a configuration that has none. -/
theorem not_argumentsSafe :
    let svc : ProtocolServices := ⟨.ipv4, fun _ => none, fun _ => none, fun _ => none⟩
    let w : SetWorld := .start ∅ ∅ none false
    ¬ ArgumentsSafe (checkedSetProtocol (fun _ => true) svc ∅ ["address"] w) ∧
      ¬ ArgumentsSafe (checkedSetProtocol (fun _ => true) svc ∅ ["dhcpclientid", ""] w) := by
  decide +kernel

end

end ConfigdExtra
