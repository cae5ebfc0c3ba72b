import ConfigdExtra.ProtocolOptions

/-!
# Consistent configurations of protocols

A configuration that is accepted has nothing that its method or its proxies do not allow.

* `MethodConsistent` — a known method, and only what it allows.
* `setProtocolChecked_consistent` — the check behind the options sees to it.
* `ProxyConsistent` — a proxy with a host, a port or a URL is enabled.
* `proxyOptions_keep` — every option keeps this, in whatever order they come.
* `setProtocol_consistent` — both for the commands.
-/

namespace ConfigdExtra

open DeferredEdits

variable {o i : CFConfiguration} {l : CFConfiguration → CFConfiguration}

/-! ## Methods -/

/-- The method is one of the table, and each key of the list is there only if its flag is. -/
def MethodConsistent (methods : List Selection) (methodKey : PropertyKey)
    (allowed : List (Nat × PropertyKey)) (c : CFConfiguration) : Prop :=
  ∃ name method, c.lookup methodKey = some (.string name) ∧
    findSelection name methods = some method ∧
      ∀ a ∈ allowed, (c.lookup a.2).isSome → method.flags &&& a.1 ≠ 0

theorem configMethod_eq_some {methods : List Selection} {c : CFConfiguration} {key : PropertyKey}
    {method : Selection} :
    configMethod methods c key = some method ↔
      ∃ name, c.lookup key = some (.string name) ∧ findSelection name methods = some method := by
  unfold configMethod
  split
  · next name h => simp [h]
  · next h =>
    refine iff_of_false (by simp) ?_
    rintro ⟨name, hname, -⟩
    exact h name hname

/-- What is not refused is consistent. -/
theorem methodConsistent_of_not_refused {methods : List Selection} {methodKey : PropertyKey}
    {checks : List MethodCheck} {c : CFConfiguration}
    (h : methodRefused methods methodKey checks c = none) :
    MethodConsistent methods methodKey (checks.map fun check => (check.flag, check.key)) c := by
  unfold methodRefused at h
  cases hmethod : configMethod methods c methodKey with
  | none => simp [hmethod] at h
  | some method =>
    obtain ⟨name, hname, hfind⟩ := configMethod_eq_some.mp hmethod
    refine ⟨name, method, hname, hfind, ?_⟩
    rw [List.forall_mem_map]
    intro check hcheck hkey hflag
    simp only [hmethod, Option.map_eq_none_iff, List.find?_eq_none] at h
    exact h check hcheck (by simp [hflag, hkey])

/-- The options are accepted only with a configuration that is not refused. -/
theorem setProtocolChecked_not_refused {options : List (OptionRow o i l)}
    {refused : CFConfiguration → Option String} {args : List String} {d : Draft o i l}
    {w : SetWorld} (h : (setProtocolChecked options refused args d w).1 = true) :
    refused (setProtocolChecked options refused args d w).2.draft.pending = none := by
  unfold setProtocolChecked at h ⊢
  dsimp only at h ⊢
  split at h
  · next haccepted =>
    rw [if_pos haccepted]
    cases hrefused : refused (processOptions options args d w).2.draft.pending with
    | none => simpa using hrefused
    | some text => simp [hrefused, SetState.refuse] at h
  · next hrejected => exact absurd h hrejected

/-! ## Proxies -/

namespace ProxyKeys

/-- The keys of a host, a port and a URL. -/
def valueKeys (p : ProxyKeys) : List PropertyKey :=
  p.keyProxy.toList ++ p.keyPort.toList ++ p.keyURL.toList

/-- All the keys of a proxy. -/
def keys (p : ProxyKeys) : List PropertyKey := p.keyEnable.toList ++ p.valueKeys

end ProxyKeys

/-- The proxies that `currentProxy` points to. -/
def proxyTable : List ProxyKeys :=
  [proxyKeysFTP, proxyKeysGopher, proxyKeysHTTP, proxyKeysHTTPS, proxyKeysRTSP, proxyKeysSOCKS,
    proxyKeysTransportConverter, proxyKeysPAC, proxyKeysWPAD]

/-- No two proxies share a key, and no two values of one do. -/
theorem proxyTable_keys_nodup : (proxyTable.flatMap ProxyKeys.keys).Nodup := by decide +kernel

/-- A proxy with an enable key has values only if it is enabled. -/
def ProxyConsistent (p : ProxyKeys) (c : CFConfiguration) : Prop :=
  p.keyEnable.isSome → (∃ key ∈ p.valueKeys, (c.lookup key).isSome) →
    proxyEnabled c p.keyEnable = true

theorem proxyEnabled_congr {c c' : CFConfiguration} {enableKey : Option PropertyKey}
    (h : ∀ key ∈ enableKey, c'.lookup key = c.lookup key) :
    proxyEnabled c' enableKey = proxyEnabled c enableKey := by
  cases enableKey with
  | none => rfl
  | some key => simp only [proxyEnabled, h key rfl]

/-- A proxy is as consistent as it was if none of its keys was touched. -/
theorem ProxyConsistent.congr {p : ProxyKeys} {c c' : CFConfiguration}
    (h : ProxyConsistent p c) (hkeys : ∀ key ∈ p.keys, c'.lookup key = c.lookup key) :
    ProxyConsistent p c' := by
  rintro henable ⟨key, hkey, hsome⟩
  have hvalue : c'.lookup key = c.lookup key := hkeys key (List.mem_append_right _ hkey)
  rw [proxyEnabled_congr fun key hkey => hkeys key (List.mem_append_left _ (by simpa using hkey))]
  exact h henable ⟨key, hkey, hvalue ▸ hsome⟩

theorem lookup_put_of_ne {d : Draft o i l} {k key : PropertyKey} {v : Option CFValue}
    (h : k ≠ key) : (d.put ⟨k, v⟩).pending.lookup key = d.pending.lookup key := by
  rw [Draft.put, Record.lookup_put, if_neg h]

theorem lookup_put_self (d : Draft o i l) (k : PropertyKey) (v : Option CFValue) :
    (d.put ⟨k, v⟩).pending.lookup k = v := by
  rw [Draft.put, Record.lookup_put, if_pos rfl]

/-- Keys are removed one after the other. -/
theorem lookup_foldl_remove (ks : List PropertyKey) (d : Draft o i l) (key : PropertyKey) :
    (ks.foldl (fun d k => d.put ⟨k, none⟩) d).pending.lookup key =
      if key ∈ ks then none else d.pending.lookup key := by
  induction ks generalizing d with
  | nil => simp
  | cons k ks ih =>
    rw [List.foldl_cons, ih]
    by_cases hkey : k = key
    · subst hkey
      simp [lookup_put_self]
    · rw [lookup_put_of_ne hkey]
      simp [Ne.symm hkey]

theorem disjoint_keys {p q : ProxyKeys} (hp : p ∈ proxyTable) (hq : q ∈ proxyTable) (hne : p ≠ q)
    {key : PropertyKey} (hkey : key ∈ p.keys) : key ∉ q.keys := by
  have hpairs := (List.nodup_flatMap.mp proxyTable_keys_nodup).2
  have hsymm : Std.Symm (Function.onFun List.Disjoint ProxyKeys.keys) := ⟨fun _ _ h => h.symm⟩
  exact hpairs.forall hp hq hne hkey

theorem notMem_valueKeys {p : ProxyKeys} (hp : p ∈ proxyTable) {key : PropertyKey}
    (hkey : p.keyEnable = some key) : key ∉ p.valueKeys := by
  have hnodup := (List.nodup_flatMap.mp proxyTable_keys_nodup).1 p hp
  intro hmem
  exact List.disjoint_of_nodup_append hnodup (by simp [hkey]) hmem

/-- Between two options: a proxy of the table may be selected, and a proxy is consistent. -/
structure ProxyKept (p : ProxyKeys) (s : SetState o i l) : Prop where
  selected : ∀ q ∈ s.world.currentProxy, q ∈ proxyTable
  consistent : ProxyConsistent p s.draft.pending

theorem doProxySelect_keeps {p proxy : ProxyKeys} (hproxy : proxy ∈ proxyTable) :
    (doProxySelect proxy : OptionHandler o i l).Keeps fun _ s => ProxyKept p s := by
  rintro ⟨args, d, w, reports⟩ ⟨hselected, hconsistent⟩
  cases args with
  | nil => exact ⟨hselected, hconsistent⟩
  | cons arg args =>
    simp only [doProxySelect, SetState.after]
    split <;> exact ⟨fun q hq => Option.some.inj hq ▸ hproxy, hconsistent⟩

/-- Edits of one proxy do not touch another one. -/
theorem ProxyConsistent.of_edits {p q : ProxyKeys} (hp : p ∈ proxyTable) (hq : q ∈ proxyTable)
    {c c' : CFConfiguration} (h : ProxyConsistent p c)
    (hother : ∀ key, key ∉ q.keys → c'.lookup key = c.lookup key)
    (hsame : p = q → ProxyConsistent p c') : ProxyConsistent p c' := by
  by_cases hpq : p = q
  · exact hsame hpq
  · exact h.congr fun key hkey => hother key (disjoint_keys hp hq hpq hkey)

theorem doProxyEnable_keeps {p : ProxyKeys} (hp : p ∈ proxyTable) (enabled : Bool) :
    (doProxyEnable enabled : OptionHandler o i l).Keeps fun _ s => ProxyKept p s := by
  rintro ⟨args, d, w, reports⟩ ⟨hselected, hconsistent⟩
  simp only [doProxyEnable, SetState.after]
  cases hcurrent : w.currentProxy with
  | none => exact ⟨by simp [Handled.refuses, hcurrent], hconsistent⟩
  | some q =>
    have hq : q ∈ proxyTable := hselected q hcurrent
    have hworld : ∀ q ∈ w.currentProxy, q ∈ proxyTable := hselected
    dsimp only
    cases henable : q.keyEnable with
    | none => exact ⟨hworld, hconsistent⟩
    | some keyEnable =>
      have hmem : keyEnable ∈ q.keys := by simp [ProxyKeys.keys, henable]
      cases enabled with
      | true =>
        refine ⟨hworld, hconsistent.of_edits hp hq (fun key hkey => ?_) ?_⟩
        · exact lookup_put_of_ne fun h => hkey (h ▸ hmem)
        · rintro rfl - -
          change proxyEnabled (d.put ⟨keyEnable, _⟩).pending p.keyEnable = true
          rw [henable, proxyEnabled, lookup_put_self]
          decide
      | false =>
        -- every key of the proxy is removed
        have hlookup : ∀ key, ((keyEnable :: q.valueKeys).foldl
            (fun d k => d.put ⟨k, none⟩) d).pending.lookup key =
              if key ∈ q.keys then none else d.pending.lookup key := by
          intro key
          rw [lookup_foldl_remove]
          simp [ProxyKeys.keys, henable]
        refine ⟨hworld, hconsistent.of_edits hp hq (fun key hkey => ?_) ?_⟩
        · exact (hlookup key).trans (if_neg hkey)
        · rintro rfl - ⟨key, hkey, hsome⟩
          have hmem : key ∈ p.keys := List.mem_append_right _ hkey
          have hnone := hlookup key
          rw [if_pos hmem] at hnone
          change (((keyEnable :: p.valueKeys).foldl (fun d k => d.put ⟨k, none⟩) d).pending.lookup
            key).isSome at hsome
          rw [hnone] at hsome
          cases hsome

/-- A value is set while the proxy is enabled. -/
theorem doProxyModifier_keeps {p : ProxyKeys} (hp : p ∈ proxyTable) {what : String}
    {keyOf : ProxyKeys → Option PropertyKey}
    (hkeyOf : ∀ q key, keyOf q = some key → key ∈ q.valueKeys) {invalid : ProxyKeys → String}
    {value : ProxyKeys → String → Option CFValue} :
    (doProxyModifier what keyOf invalid value : OptionHandler o i l).Keeps
      fun _ s => ProxyKept p s := by
  rintro ⟨args, d, w, reports⟩ ⟨hselected, hconsistent⟩
  simp only [doProxyModifier, SetState.after]
  cases hcurrent : w.currentProxy with
  | none => exact ⟨by simp [Handled.refuses, hcurrent], hconsistent⟩
  | some q =>
    have hq : q ∈ proxyTable := hselected q hcurrent
    have hworld : ∀ q ∈ w.currentProxy, q ∈ proxyTable := hselected
    dsimp only
    cases hkey : keyOf q with
    | none => exact ⟨hworld, hconsistent⟩
    | some key =>
      have hvalue : key ∈ q.valueKeys := hkeyOf q key hkey
      have hput : proxyEnabled d.pending q.keyEnable = true → ∀ v : Option CFValue,
          ProxyConsistent p (d.put ⟨key, v⟩).pending := by
        intro henabled v
        refine hconsistent.of_edits hp hq (fun key' hkey' => ?_) ?_
        · exact lookup_put_of_ne fun h => hkey' (h ▸ List.mem_append_right _ hvalue)
        · rintro rfl - -
          rw [proxyEnabled_congr (c := d.pending)]
          · exact henabled
          · intro keyEnable henable
            exact lookup_put_of_ne fun h => notMem_valueKeys hp henable (h ▸ hvalue)
      dsimp only
      cases henabled : proxyEnabled d.pending q.keyEnable with
      | false => exact ⟨hworld, hconsistent⟩
      | true =>
        cases args with
        | nil => exact ⟨hworld, hconsistent⟩
        | cons arg args =>
          simp only [Bool.not_true, Bool.false_eq_true, if_false]
          split_ifs
          · exact ⟨hworld, hput henabled none⟩
          · split
            · next v _ => exact ⟨hworld, hput henabled (some v)⟩
            · exact ⟨hworld, hconsistent⟩

theorem doProxyFTPPassive_keeps {p : ProxyKeys} :
    (doProxyFTPPassive : OptionHandler o i l).Keeps fun _ s => ProxyKept p s := by
  rintro ⟨args, d, w, reports⟩ ⟨hselected, hconsistent⟩
  simp only [doProxyFTPPassive, SetState.after]
  split
  · exact ⟨hselected, hconsistent⟩
  · split <;> exact ⟨hselected, hconsistent⟩

/-! ## The table of options -/

/-- The key that an entry of a type sets by itself. -/
def OptionType.key? : OptionType → Option PropertyKey
  | .isOther | .isHelp => none
  | .isChooseOne key _ | .isChooseMultiple key _ => some key
  | .isBool key | .isBoolean key | .isNumber key | .isString key | .isStringArray key => some key

theorem switchValue_goesOn {missing : String} {take : String → Taken} {key : PropertyKey}
    (htake : ∀ arg e rs, take arg = .ok (e, rs) → e.key = key) {args args' : List String}
    {d d' : Draft o i l} {rs : List Report}
    (h : switchValue missing take args d = .goesOn args' d' rs) :
    ∃ v, d' = d.put ⟨key, v⟩ := by
  cases args with
  | nil => simp [switchValue] at h
  | cons arg rest =>
    unfold switchValue at h
    dsimp only at h
    cases hval : take arg with
    | error text => simp [hval] at h
    | ok taken =>
      obtain ⟨⟨k, v⟩, reports⟩ := taken
      obtain rfl : k = key := htake arg ⟨k, v⟩ reports hval
      simp only [hval, Switched.goesOn.injEq] at h
      exact ⟨v, h.2.1.symm⟩

/-- The `switch` edits no other key. -/
theorem OptionRow.switch_edits_key {row : OptionRow o i l} {args args' : List String}
    {d d' : Draft o i l} {rs : List Report} (h : row.switch args d = .goesOn args' d' rs) :
    d' = d ∨ ∃ key ∈ row.type.key?, ∃ v, d' = d.put ⟨key, v⟩ := by
  unfold OptionRow.switch at h
  cases htype : row.type with
  | isOther =>
    simp only [htype, Switched.goesOn.injEq] at h
    exact .inl h.2.1.symm
  | isHelp => simp [htype] at h
  | isChooseOne key choices =>
    rw [htype] at h
    refine .inr ⟨key, rfl, switchValue_goesOn (fun arg e rs he => ?_) h⟩
    unfold takeChoice at he
    split at he
    · cases he
    · split_ifs at he
      obtain rfl := (Prod.mk.inj (Except.ok.inj he)).1
      rfl
  | isChooseMultiple key choices =>
    rw [htype] at h
    refine .inr ⟨key, rfl, switchValue_goesOn (fun arg e rs he => ?_) h⟩
    unfold takeChoices at he
    split_ifs at he
    · obtain rfl := (Prod.mk.inj (Except.ok.inj he)).1
      rfl
    · split at he <;> obtain rfl := (Prod.mk.inj (Except.ok.inj he)).1 <;> rfl
  | isBool key | isBoolean key =>
    rw [htype] at h
    refine .inr ⟨key, rfl, switchValue_goesOn (fun arg e rs he => ?_) h⟩
    unfold takeSwitch at he
    split_ifs at he <;> obtain rfl := (Prod.mk.inj (Except.ok.inj he)).1 <;> rfl
  | isNumber key | isString key | isStringArray key =>
    rw [htype] at h
    refine .inr ⟨key, rfl, switchValue_goesOn (fun arg e rs he => ?_) h⟩
    unfold takeUnlessEmpty at he
    split_ifs at he
    · obtain rfl := (Prod.mk.inj (Except.ok.inj he)).1
      rfl
    · split at he
      · obtain rfl := (Prod.mk.inj (Except.ok.inj he)).1
        rfl
      · cases he

/-- The entries with a type of their own are about no proxy. -/
theorem proxyOptions_key {row : OptionRow o i l} (hrow : row ∈ proxyOptions) {key : PropertyKey}
    (hkey : key ∈ row.type.key?) {p : ProxyKeys} (hp : p ∈ proxyTable) : key ∉ p.keys := by
  have hkeys : ∀ key ∈ (proxyOptions : List (OptionRow o i l)).filterMap (OptionType.key? ∘
      OptionRow.type), key ∉ proxyTable.flatMap ProxyKeys.keys := by
    change ∀ key ∈ [PropertyKey.kSCPropNetProxiesExceptionsList,
      .kSCPropNetProxiesExcludeSimpleHostnames, .kSCPropNetProxiesFTPPassive,
      .kSCPropNetProxiesFTPPassive], key ∉ proxyTable.flatMap ProxyKeys.keys
    decide +kernel
  intro hmem
  exact hkeys key (List.mem_filterMap.mpr ⟨row, hrow, hkey⟩) (List.mem_flatMap.mpr ⟨p, hp, hmem⟩)

theorem proxyKept_loopInvariant {p : ProxyKeys} (hp : p ∈ proxyTable) :
    LoopInvariant (proxyOptions : List (OptionRow o i l)) fun _ s => ProxyKept p s where
  stop _ _ h _ := ⟨h.selected, h.consistent⟩
  edit row hrow s name args args' d rs _ h hswitch := by
    refine ⟨h.selected, ?_⟩
    obtain rfl | ⟨key, hkey, v, rfl⟩ := OptionRow.switch_edits_key hswitch
    · exact h.consistent
    · exact h.consistent.congr fun key' hkey' =>
        lookup_put_of_ne fun heq => proxyOptions_key hrow hkey hp (heq ▸ hkey')

/-- Every option of a proxy keeps all of them consistent. -/
theorem proxyOptions_keep {p : ProxyKeys} (hp : p ∈ proxyTable) :
    TableKeeps (proxyOptions : List (OptionRow o i l)) fun _ s => ProxyKept p s := by
  have hselect : ∀ q ∈ proxyTable,
      (doProxySelect q : OptionHandler o i l).Keeps fun _ s => ProxyKept p s :=
    fun q hq => doProxySelect_keeps hq
  simp only [proxyTable, List.forall_mem_cons] at hselect
  have hhost : (doProxyHost : OptionHandler o i l).Keeps fun _ s => ProxyKept p s :=
    doProxyModifier_keeps hp fun q key h => by simp [ProxyKeys.valueKeys, h]
  have hport : (doProxyPort : OptionHandler o i l).Keeps fun _ s => ProxyKept p s :=
    doProxyModifier_keeps hp fun q key h => by simp [ProxyKeys.valueKeys, h]
  have hurl : (doProxyURL : OptionHandler o i l).Keeps fun _ s => ProxyKept p s :=
    doProxyModifier_keeps hp fun q key h => by simp [ProxyKeys.valueKeys, h]
  simp [TableKeeps, proxyOptions, hselect, doProxyEnable_keeps hp, hhost, hport, hurl,
    doProxyFTPPassive_keeps]

/-! ## The commands -/

/-- The proxies with an enable key, the transport converter apart. -/
def enabledProxies : List ProxyKeys :=
  [proxyKeysFTP, proxyKeysGopher, proxyKeysHTTP, proxyKeysHTTPS, proxyKeysRTSP, proxyKeysSOCKS,
    proxyKeysPAC, proxyKeysWPAD]

theorem enabledProxies_subset : enabledProxies ⊆ proxyTable := by decide +kernel

/-- The copy that is edited is as consistent as the configuration. -/
theorem ProxyConsistent.editCopy {p : ProxyKeys} (hp : p ∈ proxyTable) {c : CFConfiguration}
    (h : ProxyConsistent p c) : ProxyConsistent p (editCopy c) := by
  have hinactive : PropertyKey.kSCResvInactive ∉ proxyTable.flatMap ProxyKeys.keys := by
    decide +kernel
  refine h.congr fun key hkey => Finmap.lookup_erase_ne ?_
  rintro rfl
  exact hinactive (List.mem_flatMap.mpr ⟨p, hp, hkey⟩)

section

variable (svc : ProtocolServices) (configuration : CFConfiguration) (args : List String)
  (w : SetWorld)

/-- What a command that is accepted leaves, whatever the configuration was before. -/
structure AcceptedConsistent : Prop where
  ipv4 : ∀ r, setProtocolIPv4 svc args (.start : Draft configuration (editCopy configuration) id) w
      = r → r.1 = true →
    MethodConsistent ipv4ConfigMethods .kSCPropNetIPv4ConfigMethod
      [(allowIPv4Address, .kSCPropNetIPv4Addresses), (allowIPv4Netmask, .kSCPropNetIPv4SubnetMasks),
        (allowIPv4Router, .kSCPropNetIPv4Router),
        (allowIPv4DHCPClientID, .kSCPropNetIPv4DHCPClientID)] r.2.draft.pending
  ipv6 : ∀ r, setProtocolIPv6 svc args (.start : Draft configuration (editCopy configuration) id) w
      = r → r.1 = true →
    MethodConsistent ipv6ConfigMethods .kSCPropNetIPv6ConfigMethod
      [(allowIPv6Address, .kSCPropNetIPv6Addresses),
        (allowIPv6PrefixLength, .kSCPropNetIPv6PrefixLength),
        (allowIPv6Router, .kSCPropNetIPv6Router)] r.2.draft.pending
  proxies : ∀ r, processOptions proxyOptions args
      (.start : Draft configuration (editCopy configuration) id) w = r → r.1 = true →
    (∀ p ∈ enabledProxies, ProxyConsistent p configuration) →
      ∀ p ∈ enabledProxies, ProxyConsistent p r.2.draft.pending

/-- Every command that is accepted leaves a consistent configuration. -/
theorem setProtocol_consistent (hselected : ∀ q ∈ w.currentProxy, q ∈ proxyTable) :
    AcceptedConsistent svc configuration args w where
  ipv4 := by
    rintro r rfl haccepted
    exact methodConsistent_of_not_refused (setProtocolChecked_not_refused haccepted)
  ipv6 := by
    rintro r rfl haccepted
    exact methodConsistent_of_not_refused (setProtocolChecked_not_refused haccepted)
  proxies := by
    rintro r rfl - hprior p hp
    have hmem : p ∈ proxyTable := enabledProxies_subset hp
    have hstart : ProxyKept p (⟨args, .start, w, []⟩ :
        SetState configuration (ConfigdExtra.editCopy configuration) id) :=
      ⟨hselected, (hprior p hp).editCopy hmem⟩
    exact (processOptions_invariant (proxyKept_loopInvariant hmem) (proxyOptions_keep hmem)
      hstart).consistent

end

/-- `set protocol config DHCP` is accepted, after a proxy was selected; so are a host and a port of
one proxy, after another was selected. -/
theorem setProtocol_consistent_accepted :
    let svc : ProtocolServices := ⟨.ipv4, fun _ => none, fun _ => none, fun _ => none⟩
    let w : SetWorld := .start ∅ ∅ (some proxyKeysFTP) false
    let dhcp := ["config", "DHCP"]
    let proxies := ["HTTP", "enable", "host", "proxy.example", "port", "8080"]
    ((setProtocolIPv4 svc dhcp (.start : Draft ∅ (editCopy ∅) id) w).1 = true ∧
        AcceptedConsistent svc ∅ dhcp w) ∧
      (processOptions proxyOptions proxies (.start : Draft ∅ (editCopy ∅) id) w).1 = true ∧
        AcceptedConsistent svc ∅ proxies w := by
  intro svc w dhcp proxies
  have hselected : ∀ q ∈ w.currentProxy, q ∈ proxyTable := by
    intro q hq
    obtain rfl : proxyKeysFTP = q := Option.some.inj hq
    decide +kernel
  exact ⟨⟨by decide +kernel, setProtocol_consistent _ _ _ _ hselected⟩,
    by decide +kernel, setProtocol_consistent _ _ _ _ hselected⟩

end ConfigdExtra
