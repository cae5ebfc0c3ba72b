import ConfigdExtra.NetDispatch
import ConfigdExtra.InterfaceReflects

/-!
# The handlers of `scutil --net` find what they reach for

* `Safe` — whatever the framework answers, a program reads below `argc`, calls no `NULL` handler
  and uses no `NULL` selection.
* `safe_createSet`, `safe_removeSet_iff`, … — what each handler needs for it.
* `Fits` — what a command line and the variables have to meet.
* `dispatchSafe_iff` — **the dispatchers are safe for exactly these.**
-/

namespace ConfigdExtra.NetDispatch

open DeferredEdits NetProgram

variable {s : NetVars} {w : NetWorld} {argv : List String}

/-- From here, whatever the framework answers, arguments, handlers and variables are there. -/
abbrev Safe (p : NetProgram Unit) (s : NetVars) : Prop := Pre p (fun _ _ => True) s

/-- This is what is meant by it: every run is safe. -/
theorem runsSafely_iff (p : NetProgram Unit) : p.RunsSafely netMachine s ↔ Safe p s := by
  rw [Calls.runsSafely_iff_wp netMachine_answers, Safe, Pre]
  simp only [implies_true]

/-! ## Searching -/

/-- The sets are listed when they are first looked for, and only where preferences are open. -/
@[simp] theorem pre_findSet {Q : Bool → NetVars → Prop} :
    Pre findSet Q s ↔
      if s .sets then Q true s ∧ Q false s
      else if s .prefs then
        (Q true (Function.update s .sets true) ∧ Q false (Function.update s .sets true)) ∧ Q false s
      else Q false s := by
  simp [findSet]

/-- The services are listed when they are first looked for, and only where a set is selected. -/
@[simp] theorem pre_findService {Q : Bool → NetVars → Prop} :
    Pre findService Q s ↔
      if s .services then Q true s ∧ Q false s
      else if s .netSet then
        (Q true (Function.update s .services true) ∧
          Q false (Function.update s .services true)) ∧ Q false s
      else Q false s := by
  cases h : s .netSet <;> simp [findService, h]

/-- The protocols are listed when they are first looked for, and only where a service is
selected. -/
@[simp] theorem pre_findProtocol {Q : Bool → NetVars → Prop} :
    Pre findProtocol Q s ↔
      if s .protocols then Q true s ∧ Q false s
      else if s .netService then
        (Q true (Function.update s .protocols true) ∧
          Q false (Function.update s .protocols true)) ∧ Q false s
      else Q false s := by
  cases h : s .netService <;> simp [findProtocol, h]

/-- The member of a bond or a bridge is looked for only where an interface is selected, and no
variable changes. -/
theorem pre_findMember {type : String} {Q : Bool × ℕ → NetVars → Prop} (h : ∀ r, Q r s) :
    Pre (findMember type argv) Q s := by
  cases hinterface : s .netInterface with
  | false => simp [findMember, hinterface, h]
  | true =>
    by_cases hfew : argv.length < 2
    · simp [findMember, hinterface, hfew, h]
    · have hmember : 1 < argv.length := by omega
      simp [findMember, findInterfaceIn, hinterface, hfew, hmember, h]

/-- All that `_find_interface` changes is the list of interfaces. -/
theorem pre_findInterface {Q : Bool × ℕ → NetVars → Prop} (h : ∀ r, Q r s)
    (hlisted : ∀ r, Q r (Function.update s .interfaces true)) : Pre (findInterface argv) Q s := by
  cases argv with
  | nil => simp [findInterface, h]
  | cons name argv =>
    unfold findInterface findInterfaceIn
    by_cases hchild : strcasecmp name "$child" = true
    · cases hinterface : s .netInterface <;> simp [hchild, hinterface, h]
    by_cases hservice : strcasecmp name "$service" = true
    · cases hselected : s .netService <;> simp [hchild, hservice, hselected, h]
    by_cases hbond : strcasecmp name "$bond" = true
    · simp [hchild, hservice, hbond, pre_findMember h]
    by_cases hbridge : strcasecmp name "$bridge" = true
    · simp [hchild, hservice, hbond, hbridge, pre_findMember h]
    by_cases hvlan : strcasecmp name "$vlan" = true
    · cases hinterface : s .netInterface <;>
        simp [hchild, hservice, hbond, hbridge, hvlan, hinterface, h]
    · cases hinterfaces : s .interfaces <;>
        simp [hchild, hservice, hbond, hbridge, hvlan, hinterfaces, h, hlisted]

/-! ## Interfaces -/

/-- `create interface` asks for its arguments with `argc`, and for the selected interface where only
the type is given. -/
theorem safe_createInterface : Safe (createInterface argv) s := by
  have hover : ∀ s, Safe createInterfaceOver s := by simp [createInterfaceOver]
  cases argv with
  | nil => simp [createInterface]
  | cons type argv =>
    have hfind : Pre (findInterface argv)
        (fun r => Safe (if r.1 then createInterfaceOver else pure ())) s :=
      pre_findInterface (by simp [hover]) (by simp [hover])
    simp only [Calls.pure_eq] at hfind
    simp [createInterface, hover, hfind]

theorem safe_selectInterface : Safe (selectInterface argv) s := by
  simp only [selectInterface, Calls.bind_eq, Safe, pre_bind]
  exact pre_findInterface (by simp) (by simp)

theorem safe_showInterface : Safe (showInterface argv) s := by
  simp only [showInterface]
  split_ifs
  · simp only [Calls.bind_eq, Safe, pre_bind]
    exact pre_findInterface (by simp) (by simp)
  · simp

theorem safe_showInterfaces : Safe (showInterfaces w argv) s := by
  simp [showInterfaces]

/-! ## Protocols -/

theorem safe_createProtocol : Safe (createProtocol argv) s := by
  simp [createProtocol, List.length_pos_iff]

theorem safe_setProtocolEnabled : Safe (setProtocolEnabled argv) s := by
  simp [setProtocolEnabled]

/-- `remove_protocol` uses `net_service`, whatever it takes the protocol from. -/
theorem safe_removeProtocol_iff :
    Safe (removeProtocol argv) s ↔
      (s (if 0 < argv.length then .protocols else .netProtocol) = true →
        s .netService = true) := by
  split_ifs with h <;> simp [removeProtocol, h]

/-- `select` reads the name without asking, for a protocol as for a service or a set. -/
theorem safe_selectProtocol (h : 0 < argv.length) : Safe (selectProtocol argv) s := by
  simp [selectProtocol, h]

theorem safe_showProtocol : Safe (showProtocol argv) s := by
  simp [showProtocol]

theorem safe_showProtocols : Safe (showProtocols w argv) s := by
  simp [showProtocols]

/-! ## Services -/

/-- A service is made in the selected set, so there has to be one. -/
theorem safe_createServiceOver (hset : s .netSet = true) : Safe (createServiceOver argv) s := by
  by_cases hargv : argv = []
  · simp [createServiceOver, nameAndAddService, hset, hargv]
  · simp [createServiceOver, nameAndAddService, hset, List.length_pos_iff, hargv]

/-- `create service` asks for the set first, and makes one where there is none. -/
theorem safe_createService : Safe (createService argv) s := by
  cases hset : s .netSet with
  | false => simp [createService, hset]
  | true =>
    have hfind : Pre (findInterface argv)
        (fun r => Safe (if r.1 then createServiceOver (argv.drop r.2) else pure ())) s :=
      pre_findInterface (by simp [safe_createServiceOver, hset])
        (by simp [safe_createServiceOver, hset])
    simp only [Calls.pure_eq] at hfind
    simp [createService, hset, safe_createServiceOver, hfind]

theorem safe_setServiceEnabled : Safe (setServiceEnabled argv) s := by
  by_cases h : argv.length = 1 <;> simp [setServiceEnabled, h]

theorem safe_removeService : Safe (removeService argv) s := by
  by_cases h : argv.length = 1 <;> simp [removeService, h]

theorem safe_selectService (h : 0 < argv.length) : Safe (selectService argv) s := by
  simp [selectService, h]

/-- `set service` comes to an `order`, if what is before it succeeds. -/
def comesToOrder : List String → Bool
  | [] => false
  | command :: argv =>
    if command = "name" then
      match argv with
      | [] => false
      | _ :: argv => comesToOrder argv
    else if command = "order" then true
    else if command = "rank" then
      match argv with
      | rank :: _ :: argv => (rankOfArg rank).isSome && comesToOrder argv
      | _ => false
    else if command = "id" then
      match argv with
      | [] => false
      | id :: argv => id ≠ "" && comesToOrder argv
    else comesToOrder argv

/-- `order` uses `net_set` before it looks whether there is one. -/
theorem safe_setServiceLoop_iff (hservice : s .netService = true) :
    Safe (setServiceLoop argv) s ↔ (comesToOrder argv = true → s .netSet = true) := by
  induction hn : argv.length using Nat.strong_induction_on generalizing argv with
  | _ n ih =>
    subst hn
    cases argv with
    | nil => simp [setServiceLoop, comesToOrder]
    | cons command argv =>
      have hrest : ∀ argv' : List String, argv'.length ≤ argv.length →
          (Safe (setServiceLoop argv') s ↔ (comesToOrder argv' = true → s .netSet = true)) :=
        fun argv' hlength => ih _ (Nat.lt_succ_of_le hlength) rfl
      rw [setServiceLoop.eq_def, comesToOrder.eq_def]
      by_cases hname : command = "name"
      · subst hname
        cases argv with
        | nil => simp
        | cons name argv => simp [hservice, hrest]
      by_cases horder : command = "order"
      · subst horder
        cases hset : s .netSet with
        | false => simp [hset]
        | true =>
          cases argv with
          | nil => simp [hset]
          | cons order argv =>
            cases hindex : orderOfArg order with
            | none => simp [hset, hindex]
            | some _ => simp [hservice, hset, hindex, hrest]
      by_cases hrank : command = "rank"
      · subst hrank
        match argv with
        | [] => simp
        | [rank] => simp [hservice]
        | rank :: _ :: argv =>
          cases hvalid : rankOfArg rank with
          | none => simp [hvalid]
          | some _ =>
            have hlength : argv.length ≤ argv.length + 1 + 1 := by omega
            simp [hservice, hvalid, hrest, hlength]
      by_cases hid : command = "id"
      · subst hid
        cases argv with
        | nil => simp
        | cons id argv =>
          by_cases hempty : id = ""
          · simp [hempty]
          · simp [hservice, hempty, hrest]
      simp [hname, horder, hrank, hid, hrest]

/-- `set service` uses the set, but asks only for the service. The set is used where the arguments
come to `order`. -/
theorem safe_setService_iff :
    Safe (setService argv) s ↔
      (s .netService = true → comesToOrder argv = true → s .netSet = true) := by
  cases hservice : s .netService with
  | false => simp [setService, hservice]
  | true =>
    cases argv with
    | nil => simp [setService, comesToOrder]
    | cons command argv => simp [setService, hservice, safe_setServiceLoop_iff]

theorem safe_showService : Safe (showService argv) s := by
  by_cases h : argv.length = 1 <;> simp [showService, h]

theorem safe_showServices : Safe (showServices w argv) s := by
  simp [showServices]

/-! ## Sets -/

theorem safe_createSet : Safe (createSet argv) s := by
  simp [createSet, dropBelow]

/-- `remove_set` compares the set with `net_set`, which it may have found without. -/
theorem safe_removeSet_iff :
    Safe (removeSet argv) s ↔
      (argv.length = 1 → s .sets = true ∨ s .prefs = true → s .netSet = true) := by
  by_cases h : argv.length = 1
  · cases hsets : s .sets <;> simp [removeSet, dropBelow, h, hsets]
  · simp [removeSet, dropBelow, h]

theorem safe_selectSet (h : 0 < argv.length) : Safe (selectSet argv) s := by
  simp [selectSet, dropBelow, h]

/-- What `set set` does with the lists when the name or the identifier has changed. The set may be
gone then. -/
theorem pre_refreshSets {Q : NetVars → Prop} (h : s .netSet = true) (hQ : ∀ s, Q s) :
    Pre refreshSets (fun _ => Q) s := by
  cases hsets : s .sets <;> simp [refreshSets, h, hQ, hsets]

/-- The loop of `set_set` ends when the set is gone. -/
theorem safe_setSetLoop (h : s .netSet = true) : Safe (setSetLoop argv) s := by
  induction hn : argv.length using Nat.strong_induction_on generalizing argv s with
  | _ n ih =>
    subst hn
    cases argv with
    | nil => simp [setSetLoop]
    | cons command argv =>
      have hrest : ∀ (argv' : List String) (s : NetVars), argv'.length ≤ argv.length →
          s .netSet = true → Safe (setSetLoop argv') s :=
        fun argv' s hlength hs => ih _ (Nat.lt_succ_of_le hlength) hs rfl
      rw [setSetLoop.eq_def]
      by_cases hname : command = "name"
      · subst hname
        cases argv with
        | nil => simp
        | cons name argv =>
          suffices Pre refreshSets (fun _ => Safe (isNull .netSet >>= fun b =>
              if b then pure () else setSetLoop argv)) s by simpa [h] using this
          refine pre_refreshSets h fun s => ?_
          -- after a refresh the set may be gone
          cases hs : s .netSet <;> simp [hs, hrest]
      by_cases hcurrent : command = "current"
      · subst hcurrent
        simp [h, hrest]
      by_cases hid : command = "id"
      · subst hid
        cases argv with
        | nil => simp
        | cons id argv =>
          by_cases hempty : id = ""
          · simp [hempty]
          suffices Pre refreshSets (fun _ => Safe (isNull .netSet >>= fun b =>
              if b then pure () else setSetLoop argv)) s by simpa [h, hempty] using this
          refine pre_refreshSets h fun s => ?_
          cases hs : s .netSet <;> simp [hs, hrest]
      simp [hname, hcurrent, hid, h, hrest]

theorem safe_setSet : Safe (setSet argv) s := by
  cases hset : s .netSet with
  | false => simp [setSet, hset]
  | true => simp [setSet, hset, safe_setSetLoop]

theorem safe_showSet : Safe (showSet w argv) s := by
  by_cases h : argv.length = 1 <;> simp [showSet, h]

theorem safe_showSets : Safe (showSets w argv) s := by
  simp [showSets]

/-! ## Options -/

section

variable {o i : CFConfiguration} {l : CFConfiguration → CFConfiguration}
  {options : List (OptionRow o i l)} {unchecked : String → Bool}

/-- A loop whose passes require nothing requires nothing. -/
theorem pre_forM {p : ℕ → NetProgram Unit} {Q : Unit → NetVars → Prop} {ns : List ℕ}
    (h : ∀ n ∈ ns, ∀ Q : Unit → NetVars → Prop, Pre (p n) Q s ↔ Q () s) :
    Pre (ns.forM p) Q s ↔ Q () s := by
  induction ns with
  | nil => simp
  | cons n ns ih =>
    rw [List.forM_eq_forM, List.forM_cons, Calls.bind_eq, pre_bind, h n List.mem_cons_self]
    exact ih fun m hm => h m (List.mem_cons_of_mem _ hm)

/-- Each argument that is looked at in turn is there. -/
@[simp] theorem pre_readEach {Q : Unit → NetVars → Prop} :
    Pre (readEach argv) Q s ↔ Q () s := by
  refine pre_forM fun n hn Q => ?_
  simp [List.mem_range.mp hn]

/-- The value of an option is read if there is one. -/
@[simp] theorem pre_readValue {type : OptionType} {Q : Unit → NetVars → Prop} :
    Pre (readValue type argv) Q s ↔ Q () s := by
  simp only [readValue]
  split_ifs with h
  · have hpos : 0 < argv.length := by omega
    simp [hpos]
  · simp

/-- A handler that reads its argument without asking needs one; the others need nothing but the
variable that they use. -/
theorem pre_readHandler {used : Option NetVar} (hused : ∀ v ∈ used, s v = true)
    {row : OptionRow o i l} {Q : Unit → NetVars → Prop} :
    Pre (readHandler unchecked used row argv) Q s ↔
      (row.handler.isSome → unchecked row.option → 0 < argv.length) ∧ Q () s := by
  cases hhandler : row.handler.isSome with
  | false => simp [readHandler, hhandler]
  | true =>
    cases hunchecked : unchecked row.option <;> cases used with
    | none => simp [readHandler, hhandler, hunchecked]
    | some v => simp [readHandler, hhandler, hunchecked, hused v rfl]

/-- What one turn of the loop needs. -/
theorem pre_optionReads_succ {used : Option NetVar} (hused : ∀ v ∈ used, s v = true)
    {turns : ℕ} {st : SetState o i l} {name : String} (hargs : st.args = name :: argv)
    {Q : Unit → NetVars → Prop} :
    Pre (optionReads options unchecked used (turns + 1) st) Q s ↔
      (∀ row ∈ findOption name options, ∀ argv' d rs,
        row.switch argv st.draft = .goesOn argv' d rs →
          row.handler.isSome → unchecked row.option → 0 < argv'.length) ∧
      if (optionPass options st).1 then
        Pre (optionReads options unchecked used turns (optionPass options st).2) Q s
      else Q () s := by
  rw [optionReads.eq_def]
  simp only [hargs]
  cases hrow : findOption name options with
  | none => simp [hrow, optionPass, hargs]
  | some row =>
    cases hswitch : row.switch argv st.draft with
    | fails r => simp [hrow, hswitch, optionPass, hargs]
    | goesOn argv' d rs => simp [hrow, hswitch, pre_readHandler hused]

/-- The options of a table whose handlers look at `argc` read no further. -/
theorem pre_optionReads {used : Option NetVar} (hused : ∀ v ∈ used, s v = true) (turns : ℕ)
    (st : SetState o i l) {Q : Unit → NetVars → Prop} :
    Pre (optionReads options (fun _ => false) used turns st) Q s ↔ Q () s := by
  induction turns generalizing st with
  | zero => simp [optionReads]
  | succ turns ih =>
    cases hargs : st.args with
    | nil => simp [optionReads, hargs]
    | cons name argv =>
      rw [pre_optionReads_succ hused hargs, and_iff_right fun _ _ _ _ _ _ _ => nofun, ih]
      exact ite_self _ ▸ Iff.rfl

/-! ## Options with one value each -/

/-- Every option of the table takes one value, and fails without it. -/
structure OneValueEach (options : List (OptionRow o i l)) (unchecked : String → Bool) : Prop where
  last : ∀ name d w rs, (optionPass options ⟨[name], d, w, rs⟩).1 = false
  pair : ∀ name value argv argv' d w rs,
    (optionPass options ⟨name :: value :: argv, d, w, rs⟩).1 = true →
      optionPass options ⟨name :: value :: argv', d, w, rs⟩ =
        (true, { (optionPass options ⟨name :: value :: argv, d, w, rs⟩).2 with args := argv' })
  unchecked_isOther : ∀ row ∈ options, unchecked row.option = true →
    row.type = .isOther ∧ row.handler.isSome = true

variable (options unchecked) in
/-- The last argument is an option whose handler does not look at `argc`, and those before it are
accepted. -/
def EndsUnchecked (st : SetState o i l) : Prop :=
  ∃ argv option, st.args = argv ++ [option] ∧
    (∃ row ∈ findOption option options, unchecked row.option = true) ∧
    (optionLoop options argv.length { st with args := argv }).1 = true

/-- A turn of the loop uses up its option. -/
theorem optionPass_length {st : SetState o i l} {name : String} (hargs : st.args = name :: argv)
    (hpass : (optionPass options st).1 = true) :
    (optionPass options st).2.args.length ≤ argv.length := by
  unfold optionPass at hpass ⊢
  simp only [hargs] at hpass ⊢
  cases hrow : findOption name options with
  | none => simp [hrow] at hpass
  | some row =>
    have hregular := row.switch_regular argv st.draft
    cases hswitch : row.switch argv st.draft with
    | fails r => simp [hrow, hswitch] at hpass
    | goesOn argv' d rs =>
      rw [hswitch] at hregular
      have hlength := hregular.1.length_le
      simp only [List.length_drop, hswitch]
      omega

/-- There are no more turns than arguments. -/
theorem optionLoop_succ {n : ℕ} {st : SetState o i l} (h : st.args.length ≤ n) :
    optionLoop options (n + 1) st = optionLoop options n st := by
  induction n generalizing st with
  | zero =>
    have hnil : st.args = [] := List.length_eq_zero_iff.mp (Nat.le_zero.mp h)
    simp [optionLoop, hnil]
  | succ n ih =>
    by_cases hnil : st.args = []
    · simp [optionLoop, hnil]
    obtain ⟨name, argv, hargs⟩ := List.exists_cons_of_ne_nil hnil
    rw [optionLoop, if_neg hnil, optionLoop, if_neg hnil]
    by_cases hpass : (optionPass options st).1 = true
    · have hlength := optionPass_length hargs hpass
      rw [hargs, List.length_cons] at h
      rw [if_pos hpass, if_pos hpass, ih (by omega)]
    · rw [if_neg hpass, if_neg hpass]

/-- The last argument, after an option and its value. -/
theorem OneValueEach.endsUnchecked_iff (h : OneValueEach options unchecked) {name value : String}
    {d : Draft o i l} {w : SetWorld} {rs : List Report} :
    EndsUnchecked options unchecked ⟨name :: value :: argv, d, w, rs⟩ ↔
      (optionPass options ⟨name :: value :: argv, d, w, rs⟩).1 = true ∧
      EndsUnchecked options unchecked (optionPass options ⟨name :: value :: argv, d, w, rs⟩).2 := by
  constructor
  · rintro ⟨before, option, hargs, hoption, hloop⟩
    match before with
    | [] => simp at hargs
    | [name'] =>
      -- the option before the last argument has no value
      rw [List.length_singleton, optionLoop, if_neg (List.cons_ne_nil _ _),
        if_neg (by rw [h.last]; exact Bool.false_ne_true), h.last] at hloop
      cases hloop
    | name' :: value' :: before =>
      simp only [List.cons_append, List.cons.injEq] at hargs
      obtain ⟨rfl, rfl, rfl⟩ := hargs
      rw [List.length_cons, optionLoop, if_neg (List.cons_ne_nil _ _)] at hloop
      have hpass : (optionPass options ⟨name :: value :: before, d, w, rs⟩).1 = true := by
        by_contra hfail
        rw [if_neg hfail] at hloop
        exact hfail hloop
      rw [if_pos hpass] at hloop
      have hrest := h.pair name value before before d w rs hpass
      rw [h.pair name value before (before ++ [option]) d w rs hpass]
      refine ⟨rfl, before, option, rfl, hoption, ?_⟩
      rw [hrest, List.length_cons, optionLoop_succ (by simp)] at hloop
      exact hloop
  · rintro ⟨hpass, before, option, hargs, hoption, hloop⟩
    rw [h.pair name value argv argv d w rs hpass] at hargs hloop
    obtain rfl : argv = before ++ [option] := hargs
    refine ⟨name :: value :: before, option, rfl, hoption, ?_⟩
    rw [List.length_cons, optionLoop, if_neg (List.cons_ne_nil _ _),
      h.pair name value _ before d w rs hpass, if_pos rfl, List.length_cons,
      optionLoop_succ (by simp)]
    exact hloop

/-- The handlers find an argument unless the last one is an option whose handler does not look. -/
theorem OneValueEach.pre_iff (h : OneValueEach options unchecked) (d : Draft o i l)
    (w : SetWorld) (rs : List Report) (turns : ℕ) (hturns : argv.length ≤ turns)
    {Q : Unit → NetVars → Prop} :
    Pre (optionReads options unchecked none turns ⟨argv, d, w, rs⟩) Q s ↔
      ¬ EndsUnchecked options unchecked ⟨argv, d, w, rs⟩ ∧ Q () s := by
  have hnil : ∀ d w rs, ¬ EndsUnchecked options unchecked ⟨[], d, w, rs⟩ := by
    rintro d w rs ⟨before, option, hargs, -⟩
    simp at hargs
  induction turns generalizing argv d w rs with
  | zero =>
    obtain rfl := List.length_eq_zero_iff.mp (Nat.le_zero.mp hturns)
    simp [optionReads, hnil]
  | succ turns ih =>
    match argv with
    | [] => simp [optionReads, hnil]
    | [name] =>
      rw [pre_optionReads_succ (by simp) rfl, h.last, if_neg Bool.false_ne_true]
      refine and_congr_left fun _ => ?_
      constructor
      · rintro hsafe ⟨before, option, hargs, ⟨row, hrow, hunchecked⟩, -⟩
        obtain ⟨rfl, rfl⟩ : before = [] ∧ option = name := by
          cases before with
          | nil => simpa using hargs.symm
          | cons _ before => simp at hargs
        obtain ⟨htype, hhandler⟩ :=
          h.unchecked_isOther row (List.mem_of_find?_eq_some hrow) hunchecked
        have hread := hsafe row hrow [] d [] (by simp [OptionRow.switch, htype]) hhandler hunchecked
        simp at hread
      · intro hends row hrow argv' _ _ _ _ hunchecked
        exact absurd ⟨[], name, rfl, ⟨row, hrow, hunchecked⟩, rfl⟩ hends
    | name :: value :: argv =>
      have hvalue : ∀ row ∈ findOption name options, ∀ argv' d' rs',
          row.switch (value :: argv) d = .goesOn argv' d' rs' →
            row.handler.isSome → unchecked row.option → 0 < argv'.length := by
        intro row hrow argv' d' rs' hswitch _ hunchecked
        obtain ⟨htype, -⟩ :=
          h.unchecked_isOther row (List.mem_of_find?_eq_some hrow) hunchecked
        simp only [OptionRow.switch, htype, Switched.goesOn.injEq] at hswitch
        rw [← hswitch.1]
        exact Nat.succ_pos _
      rw [pre_optionReads_succ (by simp) rfl, and_iff_right hvalue, h.endsUnchecked_iff]
      by_cases hpass : (optionPass options ⟨name :: value :: argv, d, w, rs⟩).1 = true
      · rw [if_pos hpass, and_iff_right hpass, h.pair name value argv argv d w rs hpass]
        exact ih _ _ _ (by simp only [List.length_cons] at hturns; omega)
      · rw [if_neg hpass]
        simp [hpass]

/-! ## The tables for addresses -/

/-- A handler takes one argument, and does not look at those after it. -/
structure TakesOne (h : OptionHandler o i l) : Prop where
  nil : ∀ d w, (h [] d w).nArgs = none
  cons : ∀ value argv d w, h (value :: argv) d w = h [value] d w
  nArgs : ∀ value d w, ∀ n ∈ (h [value] d w).nArgs, n = 1

/-- A handler does not look at the arguments. -/
structure TakesNone (h : OptionHandler o i l) : Prop where
  argv : ∀ argv d w, h argv d w = h [] d w
  nArgs : ∀ d w, ∀ n ∈ (h [] d w).nArgs, n = 0

/-- An option takes one value, by the `switch` or by its handler. -/
structure OneValue (row : OptionRow o i l) : Prop where
  switch : takesValue row.type = true → ∀ h ∈ row.handler, TakesNone h
  handler : row.type = .isOther → ∃ h ∈ row.handler, TakesOne h

/-- A handler that takes one argument, where the `switch` takes none. -/
theorem oneValue_of_handler {option : String} {description : Option String}
    {f : OptionHandler o i l} (h : TakesOne f) :
    OneValue ⟨option, description, .isOther, some f⟩ where
  switch := nofun
  handler _ := ⟨f, rfl, h⟩

/-- An option whose argument is taken by the `switch`, and not again by a handler. -/
theorem oneValue_of_switch {option : String} {description : Option String} {type : OptionType}
    (htype : type ≠ .isOther) {handler : Option (OptionHandler o i l)}
    (h : ∀ f ∈ handler, TakesNone f) : OneValue ⟨option, description, type, handler⟩ where
  switch _ := h
  handler hother := absurd hother htype

/-- A value that the `switch` takes. -/
theorem switch_of_takesValue {row : OptionRow o i l} (h : takesValue row.type = true) :
    ∃ missing take, row.switch = switchValue missing take := by
  unfold OptionRow.switch
  cases htype : row.type with
  | isOther | isHelp => simp [takesValue, htype] at h
  | isChooseOne | isChooseMultiple | isBool | isBoolean | isNumber | isString | isStringArray =>
    exact ⟨_, _, rfl⟩

/-- A handler that does not look at the arguments leaves them all. -/
theorem OneValue.handle_drop {row : OptionRow o i l} (h : OneValue row)
    (hvalue : takesValue row.type = true) (d : Draft o i l) (w : SetWorld) (argv : List String) :
    row.handle argv d w = row.handle [] d w ∧ (row.handle [] d w).nArgs.getD 0 = 0 := by
  unfold OptionRow.handle
  cases hhandler : row.handler with
  | none => exact ⟨rfl, rfl⟩
  | some f =>
    have hnone := h.switch hvalue f hhandler
    refine ⟨hnone.argv argv d w, ?_⟩
    dsimp only
    cases hn : (f [] d w).nArgs with
    | none => rfl
    | some n => exact hnone.nArgs d w n hn

/-- An option that is the last argument is refused, for want of a value. -/
theorem OneValue.last {row : OptionRow o i l} (h : OneValue row) {name : String} {d : Draft o i l}
    {w : SetWorld} {rs : List Report} (hrow : findOption name options = some row) :
    (optionPass options ⟨[name], d, w, rs⟩).1 = false := by
  simp only [optionPass, hrow]
  by_cases hvalue : takesValue row.type = true
  · obtain ⟨missing, take, hswitch⟩ := switch_of_takesValue hvalue
    rw [hswitch]
    rfl
  · cases htype : row.type with
    | isHelp => simp [OptionRow.switch, htype]
    | isOther =>
      obtain ⟨f, hf, hone⟩ := h.handler htype
      simp [OptionRow.switch, OptionRow.handle, htype, Option.mem_def.mp hf, hone.nil]
    | _ => simp [takesValue, htype] at hvalue

/-- An option that is accepted takes its value with it, and what comes behind the two is not looked
at. -/
theorem OneValue.pair {row : OptionRow o i l} (h : OneValue row) {name value : String}
    {argv argv' : List String} {d : Draft o i l} {w : SetWorld} {rs : List Report}
    (hrow : findOption name options = some row)
    (hpass : (optionPass options ⟨name :: value :: argv, d, w, rs⟩).1 = true) :
    optionPass options ⟨name :: value :: argv', d, w, rs⟩ =
      (true, { (optionPass options ⟨name :: value :: argv, d, w, rs⟩).2 with args := argv' }) := by
  simp only [optionPass, hrow] at hpass ⊢
  by_cases hvalue : takesValue row.type = true
  · obtain ⟨missing, take, hswitch⟩ := switch_of_takesValue hvalue
    rw [hswitch] at hpass ⊢
    unfold switchValue at hpass ⊢
    dsimp only at hpass ⊢
    cases htake : take value with
    | error text => simp [htake] at hpass
    | ok taken =>
      simp only [htake] at hpass ⊢
      obtain ⟨hargv, -⟩ := h.handle_drop hvalue (d.put taken.1) w argv
      obtain ⟨hargv', hdrop⟩ := h.handle_drop hvalue (d.put taken.1) w argv'
      rw [hargv] at hpass
      rw [hargv, hargv', hdrop, hpass, List.drop_zero]
  · cases htype : row.type with
    | isHelp => simp [OptionRow.switch, htype] at hpass
    | isOther =>
      obtain ⟨f, hf, hone⟩ := h.handler htype
      simp only [OptionRow.switch, OptionRow.handle, htype, Option.mem_def.mp hf] at hpass ⊢
      rw [hone.cons value argv] at hpass
      rw [hone.cons value argv, hone.cons value argv']
      obtain ⟨n, hn⟩ := Option.isSome_iff_exists.mp hpass
      obtain rfl := hone.nArgs value d w n hn
      rw [hn]
      rfl
    | _ => simp [takesValue, htype] at hvalue

/-- It is enough to look at the rows of a table one by one. -/
theorem oneValueEach_of (h : ∀ row ∈ options, OneValue row)
    (hunchecked : ∀ row ∈ options, unchecked row.option = true →
      row.type = .isOther ∧ row.handler.isSome = true) : OneValueEach options unchecked where
  last name d w rs := by
    cases hrow : findOption name options with
    | none => simp [optionPass, hrow]
    | some row => exact (h row (List.mem_of_find?_eq_some hrow)).last hrow
  pair name value argv argv' d w rs hpass := by
    cases hrow : findOption name options with
    | none => simp [optionPass, hrow] at hpass
    | some row => exact (h row (List.mem_of_find?_eq_some hrow)).pair hrow hpass
  unchecked_isOther := hunchecked

theorem takesOne_doAddresses (copyAddress : String → Option String) (key : PropertyKey)
    (useArray : Bool) : TakesOne (doAddresses copyAddress key useArray : OptionHandler o i l) where
  nil _ _ := rfl
  cons _ _ _ _ := rfl
  nArgs value d w n hn := by
    unfold doAddresses at hn
    dsimp only at hn
    split at hn
    · exact (Option.some.inj hn).symm
    · split at hn
      · cases hn
      · exact (Option.some.inj hn).symm

theorem takesOne_doIPv6PrefixLength (key : PropertyKey) :
    TakesOne (doIPv6PrefixLength key : OptionHandler o i l) where
  nil _ _ := rfl
  cons _ _ _ _ := rfl
  nArgs value d w n hn := by
    unfold doIPv6PrefixLength at hn
    dsimp only at hn
    split at hn
    · exact (Option.some.inj hn).symm
    · split at hn
      · exact (Option.some.inj hn).symm
      · cases hn

theorem takesNone_doConfigMethod (methods : List Selection) (allowed : List (Nat × PropertyKey))
    (key : PropertyKey) : TakesNone (doConfigMethod methods allowed key : OptionHandler o i l) where
  argv _ _ _ := rfl
  nArgs d w n hn := by
    unfold doConfigMethod at hn
    split at hn
    · cases hn
    · exact (Option.some.inj hn).symm

theorem oneValue_method {methods : List Selection} {key : PropertyKey} {option : String}
    {description : Option String} {f : OptionHandler o i l} (h : TakesNone f) :
    OneValue ⟨option, description, .isChooseOne key methods, some f⟩ := by
  refine oneValue_of_switch (by simp) ?_
  rintro f ⟨⟩
  exact h

/-- In the table of IPv4, whatever reads without asking takes one value. -/
theorem oneValueEach_ipv4 {svc : ProtocolServices} (htype : svc.protocolType = .ipv4) :
    OneValueEach (ipv4Options svc : List (OptionRow o i l))
      (fun option => option ∈ uncheckedOptions svc) := by
  have haddress (key : PropertyKey) (useArray : Bool) :
      TakesOne (doIPv4Addresses svc key useArray : OptionHandler o i l) :=
    takesOne_doAddresses svc.copyIPv4Address key useArray
  have hmethod (key : PropertyKey) :
      TakesNone (doIPv4ConfigMethod key : OptionHandler o i l) := takesNone_doConfigMethod _ _ _
  refine oneValueEach_of ?_ ?_
  · simp only [ipv4Options, List.forall_mem_cons]
    exact ⟨oneValue_method (hmethod _), oneValue_method (hmethod _),
      oneValue_of_handler (haddress _ _), oneValue_of_handler (haddress _ _),
      oneValue_of_handler (haddress _ _), oneValue_of_handler (haddress _ _),
      oneValue_of_handler (haddress _ _), oneValue_of_switch (by simp) (by simp),
      oneValue_of_switch (by simp) (by simp), List.forall_mem_nil _⟩
  · simp [ipv4Options, uncheckedOptions_eq, htype]

/-- So in the table of IPv6. -/
theorem oneValueEach_ipv6 {svc : ProtocolServices} (htype : svc.protocolType = .ipv6) :
    OneValueEach (ipv6Options svc : List (OptionRow o i l))
      (fun option => option ∈ uncheckedOptions svc) := by
  have haddress (key : PropertyKey) (useArray : Bool) :
      TakesOne (doIPv6Addresses svc key useArray : OptionHandler o i l) :=
    takesOne_doAddresses svc.copyIPv6Address key useArray
  have hmethod (key : PropertyKey) :
      TakesNone (doIPv6ConfigMethod key : OptionHandler o i l) := takesNone_doConfigMethod _ _ _
  refine oneValueEach_of ?_ ?_
  · simp only [ipv6Options, List.forall_mem_cons]
    exact ⟨oneValue_method (hmethod _), oneValue_method (hmethod _),
      oneValue_of_handler (haddress _ _), oneValue_of_handler (haddress _ _),
      oneValue_of_switch (by simp) (by simp),
      oneValue_of_handler (takesOne_doIPv6PrefixLength _), oneValue_of_handler (haddress _ _),
      oneValue_of_switch (by simp) (by simp), List.forall_mem_nil _⟩
  · simp [ipv6Options, uncheckedOptions_eq, htype]

end

/-! ## `set interface` and `set protocol` -/

theorem safe_setInterface : Safe (setInterface w argv) s := by
  cases hinterface : s .netInterface with
  | false => simp [setInterface, hinterface]
  | true =>
    have hreads {Q : Unit → NetVars → Prop} : Pre (interfaceReads w argv) Q s ↔ Q () s := by
      unfold interfaceReads
      cases interfaceOptions w.interface with
      | none => simp
      | some options => exact pre_optionReads (by simp [hinterface]) _ _
    simp [setInterface, hinterface, hreads]

variable (w) in
/-- The last argument is an option of the selected protocol whose handler does not look at `argc`,
and `_process_options` accepts those before it. -/
def EndsInAddress (argv : List String) : Prop :=
  ∃ options ∈ protocolOptions w.protocol, ∃ before option, argv = before ++ [option] ∧
    (∃ row ∈ findOption option options,
      row.option ∈ uncheckedOptions w.protocol) ∧
    (processOptions options before (w.protocolStart before).draft w.world).1 = true

/-- That the arguments end in such an option, said with the table of the protocol. -/
theorem endsInAddress_iff {options} (h : protocolOptions w.protocol = some options) :
    EndsInAddress w argv ↔ EndsUnchecked options
      (fun option => option ∈ uncheckedOptions w.protocol)
      (w.protocolStart argv) := by
  simp only [EndsInAddress, h, Option.mem_some, exists_eq_left', EndsUnchecked, decide_eq_true_eq]
  rfl

/-- What `set protocol` reads is there, unless the arguments end in an option whose handler does not
ask. -/
theorem pre_protocolReads {Q : Unit → NetVars → Prop} :
    Pre (protocolReads w argv) Q s ↔ ¬ EndsInAddress w argv ∧ Q () s := by
  cases hoptions : (protocolOptions w.protocol : Option (List (OptionRow w.protocolConfiguration
      (editCopy w.protocolConfiguration) id))) with
  | none => simp [protocolReads, EndsInAddress, hoptions]
  | some options =>
    rw [endsInAddress_iff hoptions]
    simp only [protocolReads, hoptions]
    -- without options that do not look, nothing more is needed
    have hchecked (hnone : uncheckedOptions w.protocol = []) :
        Pre (optionReads options
            (fun option => option ∈ uncheckedOptions w.protocol) none argv.length
            (w.protocolStart argv)) Q s ↔
          ¬ EndsUnchecked options
            (fun option => option ∈ uncheckedOptions w.protocol)
            (w.protocolStart argv) ∧ Q () s := by
      simp [hnone, pre_optionReads, EndsUnchecked]
    unfold protocolOptions at hoptions
    cases htype : w.protocol.protocolType with
    | dns | proxies | smb | other =>
      exact hchecked (by rw [uncheckedOptions_eq, htype])
    | ipv4 =>
      rw [htype] at hoptions
      obtain rfl := Option.some.inj hoptions
      exact (oneValueEach_ipv4 htype).pre_iff _ _ _ _ le_rfl
    | ipv6 =>
      rw [htype] at hoptions
      obtain rfl := Option.some.inj hoptions
      exact (oneValueEach_ipv6 htype).pre_iff _ _ _ _ le_rfl

/-- `set protocol` is safe where no protocol is selected, as it then reads nothing. -/
theorem safe_setProtocol_iff :
    Safe (setProtocol w argv) s ↔ (s .netProtocol = true → ¬ EndsInAddress w argv) := by
  cases hprotocol : s .netProtocol with
  | false => simp [setProtocol, hprotocol]
  | true =>
    cases argv with
    | nil =>
      have hends : ¬ EndsInAddress w [] := by
        rintro ⟨_, _, before, option, hargv, -⟩
        simp at hargv
      simp [setProtocol, hends]
    | cons option argv => simp [setProtocol, hprotocol, pre_protocolReads]

/-! ## The tables -/

/-- The keys are distinct. -/
theorem forall_findNetKey {key : String} {P : NetKey → Prop} :
    (∀ k ∈ findNetKey w key, P k) ↔ ∀ k ∈ netKeys w, key = k.key → P k := by
  have hnodup : ((netKeys w).map NetKey.key).Nodup := by
    show ["interfaces", "interface", "services", "service", "protocols", "protocol", "sets",
      "set"].Nodup
    decide
  constructor
  · rintro h k hk rfl
    obtain ⟨k', hfind⟩ : ∃ k', findNetKey w k.key = some k' :=
      Option.isSome_iff_exists.mp (List.find?_isSome.mpr ⟨k, hk, by simp⟩)
    have hkey : k'.key = k.key := by simpa using List.find?_some hfind
    have hmem : k' ∈ netKeys w := List.mem_of_find?_eq_some hfind
    exact List.inj_on_of_nodup_map hnodup hmem hk hkey ▸ h k' hfind
  · intro h k hfind
    have hkey : k.key = key := by simpa using List.find?_some hfind
    exact h k (List.mem_of_find?_eq_some hfind) hkey.symm

/-- An entry of a table that is called has to be there. -/
theorem pre_handler {func : Option (List String → NetProgram Unit)} :
    Safe (handler func argv) s ↔ func.isSome = true ∧ ∀ f ∈ func, Safe (f argv) s := by
  cases func with
  | none => simp [handler, pre_issue, netMachine]
  | some f => simp [handler, pre_issue, netMachine]

variable {handlerOf : NetKey → Option (List String → NetProgram Unit)} {key : String}

/-- With a look at the entry, its handler is called if there is one. -/
theorem safe_doNetChecked_iff :
    Safe (doNetChecked w handlerOf (key :: argv)) s ↔
      ∀ k ∈ netKeys w, key = k.key → ∀ f ∈ handlerOf k, Safe (f argv) s := by
  rw [← forall_findNetKey]
  cases hfind : findNetKey w key with
  | none => simp [doNetChecked, hfind]
  | some k =>
    cases hfunc : handlerOf k <;> simp [doNetChecked, hfind, hfunc, pre_handler]

/-- Without it, there has to be one. -/
theorem safe_doNetUnchecked_iff :
    Safe (doNetUnchecked w handlerOf (key :: argv)) s ↔
      ∀ k ∈ netKeys w, key = k.key →
        (handlerOf k).isSome = true ∧ ∀ f ∈ handlerOf k, Safe (f argv) s := by
  rw [← forall_findNetKey]
  cases hfind : findNetKey w key with
  | none => simp [doNetUnchecked, hfind]
  | some k => simp [doNetUnchecked, hfind, pre_handler]

/-! ## Commands -/

/-- The least number of arguments of a command -/
def NetCommandFunc.minArgs : NetCommandFunc → ℕ
  | .doReadFile | .doNetCreate | .doNetDisable | .doNetEnable | .doNetRemove | .doNetShow => 1
  | .doNetSelect | .doNetSet | .doNetMigrate => 2
  | _ => 0

/-- The table of the commands says as many arguments as the functions count on. -/
theorem commandsNet_minArgs : ∀ info ∈ commandsNet, info.minArgs = info.func.minArgs := by
  decide

/-- What the handlers need of the arguments and the variables. -/
def Fits (w : NetWorld) (s : NetVars) : NetCommandFunc → List String → Prop
  | .doNetSet, key :: argv =>
    -- only an interface, a service, a protocol or a set can be set
    key ∉ ["interfaces", "services", "protocols", "sets"] ∧
    (key = "service" → s .netService = true → comesToOrder argv = true → s .netSet = true) ∧
    (key = "protocol" → s .netProtocol = true → ¬ EndsInAddress w argv)
  | .doNetRemove, key :: argv =>
    (key = "set" → argv.length = 1 → s .sets = true ∨ s .prefs = true → s .netSet = true) ∧
    (key = "protocol" → s (if 0 < argv.length then .protocols else .netProtocol) = true →
      s .netService = true)
  | .doNetMigrate, key :: argv => key = "perform" ∨ key = "validate" → 2 ≤ argv.length
  | _, _ => True

theorem safe_doNetCreate : Safe (doNetCreate w (key :: argv)) s := by
  rw [doNetCreate, safe_doNetChecked_iff]
  simp [netKeys, safe_createInterface, safe_createService, safe_createProtocol, safe_createSet]

theorem safe_doNetDisable : Safe (doNetDisable w (key :: argv)) s := by
  rw [doNetDisable, safe_doNetChecked_iff]
  simp [netKeys, disableService, disableProtocol, safe_setServiceEnabled, safe_setProtocolEnabled]

theorem safe_doNetEnable : Safe (doNetEnable w (key :: argv)) s := by
  rw [doNetEnable, safe_doNetChecked_iff]
  simp [netKeys, enableService, enableProtocol, safe_setServiceEnabled, safe_setProtocolEnabled]

theorem safe_doNetSelect (h : 0 < argv.length) : Safe (doNetSelect w (key :: argv)) s := by
  rw [doNetSelect, safe_doNetChecked_iff]
  simp [netKeys, safe_selectInterface, safe_selectService h, safe_selectProtocol h,
    safe_selectSet h]

theorem safe_doNetShow : Safe (doNetShow w (key :: argv)) s := by
  rw [doNetShow, safe_doNetUnchecked_iff]
  simp [netKeys, safe_showInterfaces, safe_showInterface, safe_showServices, safe_showService,
    safe_showProtocols, safe_showProtocol, safe_showSets, safe_showSet]

/-- `set` is safe where what it is for is. -/
theorem safe_doNetSet_iff :
    Safe (doNetSet w (key :: argv)) s ↔ Fits w s .doNetSet (key :: argv) := by
  rw [doNetSet, safe_doNetUnchecked_iff]
  simp [netKeys, Fits, safe_setInterface, safe_setService_iff, safe_setProtocol_iff, safe_setSet]
  tauto

/-- `remove` of a set, or of a protocol, may need the set or the service it is in. -/
theorem safe_doNetRemove_iff :
    Safe (doNetRemove w (key :: argv)) s ↔ Fits w s .doNetRemove (key :: argv) := by
  rw [doNetRemove, safe_doNetChecked_iff]
  simp [netKeys, Fits, safe_removeService, safe_removeProtocol_iff, safe_removeSet_iff, and_comm]

theorem safe_doNetMigrate_iff :
    Safe (doNetMigrate (key :: argv)) s ↔ Fits w s .doNetMigrate (key :: argv) := by
  have hperform : Safe (doNetMigratePerform argv) s ↔ 2 ≤ argv.length := by
    by_cases h : argv.length = 3
    · simp [doNetMigratePerform, h]
    · simp [doNetMigratePerform, h]
      omega
  have hvalidate : Safe (doNetMigrateValidate argv) s ↔ 2 ≤ argv.length := by
    simp [doNetMigrateValidate]
    omega
  by_cases hkey : key = "perform"
  · simp [doNetMigrate, Fits, hkey, hperform]
  · by_cases hkey' : key = "validate"
    · simp [doNetMigrate, Fits, hkey', hvalidate]
    · simp [doNetMigrate, Fits, hkey, hkey']

theorem safe_doNetClose : Safe (doNetClose argv) s := by
  simp [doNetClose, prefsCommitRequired, netClose, List.length_pos_iff]

theorem safe_doNetOpen : Safe (doNetOpen argv) s := by
  simp [doNetOpen, openPrefs, prefsCommitRequired, netClose, List.length_pos_iff]

/-- `update` asks for the set before it uses it, and makes one where there is none. -/
theorem safe_doNetUpdate (argv : List String) : Safe (doNetUpdate argv) s := by
  simp [doNetUpdate]

theorem safe_doNetUpgrade : Safe (doNetUpgrade argv) s := by
  simp [doNetUpgrade]

/-- A handler of the table of commands finds what it reaches for if and only if the arguments and
the variables fit. -/
theorem safe_run_iff (func : NetCommandFunc) (h : func.minArgs ≤ argv.length) :
    Safe (func.run w argv) s ↔ Fits w s func argv := by
  cases func with
  | doHelp | doNetCommit | doNetApply | doNetClean | doNetSnapshot =>
    simp [NetCommandFunc.run, NetDispatch.doHelp, NetDispatch.doNetCommit, NetDispatch.doNetApply,
      NetDispatch.doNetClean, NetDispatch.doNetSnapshot, Fits]
  | doReadFile =>
    have hread : 0 < argv.length := h
    simp [NetCommandFunc.run, NetDispatch.doReadFile, Fits, hread]
  | doNetQuit => exact iff_of_true safe_doNetClose trivial
  | doNetOpen => exact iff_of_true safe_doNetOpen trivial
  | doNetClose => exact iff_of_true safe_doNetClose trivial
  | doNetUpdate => exact iff_of_true (safe_doNetUpdate argv) trivial
  | doNetUpgrade => exact iff_of_true safe_doNetUpgrade trivial
  | doNetCreate | doNetDisable | doNetEnable | doNetRemove | doNetSelect | doNetSet | doNetShow
  | doNetMigrate =>
    cases argv with
    | nil => exact absurd h (by decide)
    | cons key argv =>
      first
      | exact iff_of_true safe_doNetCreate trivial
      | exact iff_of_true safe_doNetDisable trivial
      | exact iff_of_true safe_doNetEnable trivial
      | exact iff_of_true safe_doNetShow trivial
      | exact iff_of_true (safe_doNetSelect (Nat.le_of_succ_le_succ h)) trivial
      | exact safe_doNetRemove_iff
      | exact safe_doNetSet_iff
      | exact safe_doNetMigrate_iff

variable (w) in
/-- Whatever the framework answers, the handler called for a command line reads below `argc`, calls
no `NULL` handler and uses no `NULL` selection. -/
def DispatchSafe (enablePrivateAPI : Bool) (s : NetVars) (cmd : String) (argv : List String) :
    Prop :=
  ∀ func args, doCommand enablePrivateAPI cmd argv commandsNet = .call func args →
    (func.run w args).RunsSafely netMachine s

/-- The dispatchers are safe for a command line and for what is open and selected if and only if
they fit. -/
theorem dispatchSafe_iff (w : NetWorld) (enablePrivateAPI : Bool) (s : NetVars) (cmd : String)
    (argv : List String) :
    DispatchSafe w enablePrivateAPI s cmd argv ↔
      ∀ func args, doCommand enablePrivateAPI cmd argv commandsNet = .call func args →
        Fits w s func args := by
  refine forall₂_congr fun func args => forall_congr' fun hcall => ?_
  obtain ⟨rfl, info, hinfo, rfl, hmin, -⟩ := doCommand_call hcall
  rw [runsSafely_iff]
  exact safe_run_iff info.func (commandsNet_minArgs info hinfo ▸ hmin)

/-- An Ethernet interface is selected, and an IPv4 protocol. -/
def ethernetWorld : NetWorld where
  listed := 0
  interface := ethernetServices
  interfaceConfiguration := ∅
  protocol := ⟨.ipv4, some, some, fun _ => none⟩
  protocolConfiguration := ∅
  world := .start ∅ ∅ none false

/-- `set interfaces` has no handler. -/
theorem not_dispatchSafe :
    ¬ DispatchSafe ethernetWorld false .closed "set" ["interfaces", "mtu"] := by
  rw [dispatchSafe_iff]
  intro h
  have hfits := h .doNetSet ["interfaces", "mtu"] (by decide +kernel)
  exact absurd hfits.1 (by decide)

end ConfigdExtra.NetDispatch
