import Mathlib.Data.List.Basic
import Mathlib.Data.List.Nodup

/-!
# Trees of keyed entries

Trees whose inner nodes hold entries by key, as nested dictionaries do. The order of the entries of
a node does not count.

* `KeyTree` — the trees, and `get?`, what is at a path of keys.
* `replace` — another tree at a path, with the nodes on the way to it.
* `Unique` — no key is there twice in a node.
* `look`, `Same` — what can be seen of a tree, and trees that look the same.
-/

namespace ConfigdExtra

universe u v

/-! ## Entries by key -/

section

variable {κ : Type u} {α : Type v} [DecidableEq κ] {entries : List (κ × α)} {k : κ}

/-- With unique keys, what is found for a key is its entry. -/
theorem lookup_eq_some_iff_mem (hunique : (entries.map Prod.fst).Nodup) {a : α} :
    entries.lookup k = some a ↔ (k, a) ∈ entries := by
  rw [List.lookup_eq_some_iff]
  constructor
  · rintro ⟨l₁, l₂, rfl, -⟩
    simp
  · intro hmem
    obtain ⟨l₁, l₂, rfl⟩ := List.append_of_mem hmem
    refine ⟨l₁, l₂, rfl, fun e he => ?_⟩
    rw [List.map_append, List.nodup_append] at hunique
    have hne : e.1 ≠ k := hunique.2.2 e.1 (List.mem_map_of_mem he) k (by simp)
    simpa using hne.symm

theorem lookup_eq_none_iff_notMem : entries.lookup k = none ↔ k ∉ entries.map Prod.fst := by
  rw [List.lookup_eq_none_iff, List.mem_map]
  constructor
  · rintro h ⟨e, he, rfl⟩
    simpa using h e he
  · intro h e he
    simpa using fun hk : k = e.1 => h ⟨e, he, hk.symm⟩

/-- Another value for a key. -/
def setKey (k : κ) (a : α) (entries : List (κ × α)) : List (κ × α) :=
  entries.map fun e => if e.1 = k then (k, a) else e

/-- The keys stay in their order. -/
theorem map_fst_setKey (k : κ) (a : α) (entries : List (κ × α)) :
    (setKey k a entries).map Prod.fst = entries.map Prod.fst := by
  rw [setKey, List.map_map]
  refine List.map_congr_left fun e _ => ?_
  by_cases he : e.1 = k <;> simp [he]

/-- The entry that is set is found. -/
theorem lookup_setKey_self {a : α} (hk : k ∈ entries.map Prod.fst) :
    (setKey k a entries).lookup k = some a := by
  induction entries with
  | nil => exact absurd hk List.not_mem_nil
  | cons e entries ih =>
    rw [setKey, List.map_cons]
    by_cases he : e.1 = k
    · rw [if_pos he, List.lookup_cons_self]
    · rw [if_neg he, List.lookup_cons, beq_eq_false_iff_ne.mpr (Ne.symm he)]
      rw [List.map_cons, List.mem_cons] at hk
      exact ih (hk.resolve_left (Ne.symm he))

/-- The others are found as before. -/
theorem lookup_setKey_of_ne {k' : κ} {a : α} (hne : k' ≠ k) :
    (setKey k a entries).lookup k' = entries.lookup k' := by
  induction entries with
  | nil => rfl
  | cons e entries ih =>
    rw [setKey, List.map_cons]
    by_cases he : e.1 = k
    · rw [if_pos he, List.lookup_cons, beq_eq_false_iff_ne.mpr hne, List.lookup_cons, he,
        beq_eq_false_iff_ne.mpr hne]
      exact ih
    · rw [if_neg he, List.lookup_cons, List.lookup_cons]
      cases k' == e.1 with
      | true => rfl
      | false => exact ih

/-- What is found among some of the entries. -/
theorem lookup_filter (hunique : (entries.map Prod.fst).Nodup) (p : α → Bool) (k : κ) :
    (entries.filter fun e => p e.2).lookup k = (entries.lookup k).filter p := by
  have hunique' : ((entries.filter fun e => p e.2).map Prod.fst).Nodup :=
    hunique.sublist (List.filter_sublist.map _)
  refine Option.ext fun a => ?_
  rw [lookup_eq_some_iff_mem hunique', List.mem_filter, Option.filter_eq_some_iff,
    lookup_eq_some_iff_mem hunique]

theorem lookup_append_self {a : α} (hk : k ∉ entries.map Prod.fst) :
    (entries ++ [(k, a)]).lookup k = some a := by
  rw [List.lookup_append, lookup_eq_none_iff_notMem.mpr hk, List.lookup_cons_self]
  rfl

theorem lookup_append_of_ne {k' : κ} {a : α} (hne : k' ≠ k) :
    (entries ++ [(k, a)]).lookup k' = entries.lookup k' := by
  rw [List.lookup_append, List.lookup_cons, beq_eq_false_iff_ne.mpr hne]
  exact Option.or_none

end

/-! ## Trees -/

/-- A value, or a node with entries by key. -/
inductive KeyTree (κ : Type u) (V : Type v)
  | leaf (v : V)
  | branch (entries : List (κ × KeyTree κ V))

namespace KeyTree

variable {κ : Type u} {V : Type v} [DecidableEq κ]

/-- What is at a path. -/
def get? : KeyTree κ V → List κ → Option (KeyTree κ V)
  | t, [] => some t
  | leaf _, _ :: _ => none
  | branch entries, k :: path =>
    match entries.lookup k with
    | none => none
    | some t => get? t path

/-- The tree with another one at a path, and with nodes on the way to it. There is none if there is
a value in the way. -/
def replace : KeyTree κ V → List κ → KeyTree κ V → Option (KeyTree κ V)
  | _, [], new => some new
  | leaf _, _ :: _, _ => none
  | branch entries, k :: path, new =>
    match entries.lookup k with
    | none => (replace (branch []) path new).map fun below => branch (entries ++ [(k, below)])
    | some t => (replace t path new).map fun below => branch (setKey k below entries)

/-- No key is there twice. -/
def Unique (t : KeyTree κ V) : Prop :=
  ∀ path entries, t.get? path = some (branch entries) → (entries.map Prod.fst).Nodup

/-- What can be seen at a path: nothing, a node, or a value. -/
def look (t : KeyTree κ V) (path : List κ) : Option (Option V) :=
  (t.get? path).map fun
    | leaf v => some v
    | branch _ => none

/-- Trees that look the same. -/
def Same (t t' : KeyTree κ V) : Prop := ∀ path, t.look path = t'.look path

/-! ## What is at a path -/

theorem get?_nil (t : KeyTree κ V) : t.get? [] = some t := by
  cases t <;> rfl

theorem get?_branch_cons (entries : List (κ × KeyTree κ V)) (k : κ) (path : List κ) :
    (branch entries).get? (k :: path) = (entries.lookup k).bind fun t => t.get? path := by
  rw [get?]
  cases entries.lookup k <;> rfl

/-- A path in two parts. -/
theorem get?_append (t : KeyTree κ V) (path path' : List κ) :
    t.get? (path ++ path') = (t.get? path).bind fun t' => t'.get? path' := by
  induction path generalizing t with
  | nil => rw [List.nil_append, get?_nil, Option.bind_some]
  | cons k path ih =>
    cases t with
    | leaf v => rfl
    | branch entries =>
      rw [List.cons_append, get?_branch_cons, get?_branch_cons]
      cases entries.lookup k with
      | none => rfl
      | some t => exact ih t

/-- No key is there twice in a part either. -/
theorem Unique.get? {t t' : KeyTree κ V} (h : t.Unique) {path : List κ}
    (ht' : t.get? path = some t') : t'.Unique := by
  intro path' entries hentries
  refine h (path ++ path') entries ?_
  rw [get?_append, ht', Option.bind_some, hentries]

/-- The keys of a node are unique, and the trees of its entries have unique keys. -/
theorem unique_branch_iff {entries : List (κ × KeyTree κ V)} :
    (branch entries).Unique ↔
      (entries.map Prod.fst).Nodup ∧ ∀ k t, entries.lookup k = some t → t.Unique := by
  constructor
  · intro h
    refine ⟨h [] entries (get?_nil _), fun k t ht => ?_⟩
    have hget : (branch entries).get? [k] = some t := by
      rw [get?_branch_cons, ht, Option.bind_some, get?_nil]
    exact h.get? hget
  · rintro ⟨hnodup, h⟩ path entries' hentries'
    cases path with
    | nil =>
      rw [get?_nil, Option.some.injEq, branch.injEq] at hentries'
      exact hentries' ▸ hnodup
    | cons k path =>
      rw [get?_branch_cons] at hentries'
      obtain ⟨t, ht, hget⟩ := Option.bind_eq_some_iff.mp hentries'
      exact h k t ht path entries' hget

/-- Another entry. -/
theorem Unique.append {entries : List (κ × KeyTree κ V)} (h : (branch entries).Unique) {k : κ}
    (hk : k ∉ entries.map Prod.fst) {t : KeyTree κ V} (ht : t.Unique) :
    (branch (entries ++ [(k, t)])).Unique := by
  obtain ⟨hnodup, htrees⟩ := unique_branch_iff.mp h
  refine unique_branch_iff.mpr ⟨?_, fun k' t' hk' => ?_⟩
  · rw [List.map_append, List.nodup_append]
    refine ⟨hnodup, List.nodup_singleton _, fun a ha b hb => ?_⟩
    rw [List.map_singleton, List.mem_singleton] at hb
    rw [hb]
    rintro rfl
    exact hk ha
  · by_cases hne : k' = k
    · rw [hne, lookup_append_self hk, Option.some.injEq] at hk'
      exact hk' ▸ ht
    · rw [lookup_append_of_ne hne] at hk'
      exact htrees k' t' hk'

/-- Some of the entries. -/
theorem Unique.filter {entries : List (κ × KeyTree κ V)} (h : (branch entries).Unique)
    (p : κ × KeyTree κ V → Bool) : (branch (entries.filter p)).Unique := by
  obtain ⟨hnodup, htrees⟩ := unique_branch_iff.mp h
  have hnodup' : ((entries.filter p).map Prod.fst).Nodup :=
    hnodup.sublist (List.filter_sublist.map _)
  refine unique_branch_iff.mpr ⟨hnodup', fun k t ht => htrees k t ?_⟩
  rw [lookup_eq_some_iff_mem hnodup'] at ht
  rw [lookup_eq_some_iff_mem hnodup]
  exact List.mem_of_mem_filter ht

/-- The trees of the entries have unique keys. -/
theorem Unique.of_mem {entries : List (κ × KeyTree κ V)} (h : (branch entries).Unique)
    {e : κ × KeyTree κ V} (he : e ∈ entries) : e.2.Unique := by
  obtain ⟨hnodup, htrees⟩ := unique_branch_iff.mp h
  exact htrees e.1 e.2 ((lookup_eq_some_iff_mem hnodup).mpr he)

theorem unique_leaf (v : V) : (leaf v : KeyTree κ V).Unique := by
  intro path entries h
  cases path with
  | nil =>
    rw [get?_nil, Option.some.injEq] at h
    cases h
  | cons k path => cases h

theorem unique_empty : (branch [] : KeyTree κ V).Unique :=
  unique_branch_iff.mpr ⟨List.nodup_nil, fun _ _ h => by cases h⟩

theorem unique_singleton (k : κ) {t : KeyTree κ V} (ht : t.Unique) : (branch [(k, t)]).Unique :=
  Unique.append unique_empty List.not_mem_nil ht

/-! ## Another tree at a path -/

theorem replace_nil (t new : KeyTree κ V) : t.replace [] new = some new := by
  cases t <;> rfl

/-- A step on the way to the path. -/
theorem replace_cons {entries : List (κ × KeyTree κ V)} {k : κ} {path : List κ}
    {new t' : KeyTree κ V} (h : (branch entries).replace (k :: path) new = some t') :
    ∃ below entries', t' = branch entries' ∧
      ((entries.lookup k).getD (branch [])).replace path new = some below ∧
      entries'.lookup k = some below ∧
      (∀ k', k' ≠ k → entries'.lookup k' = entries.lookup k') ∧
      ((entries.map Prod.fst).Nodup → (entries'.map Prod.fst).Nodup) := by
  rw [replace] at h
  cases hk : entries.lookup k with
  | none =>
    have hnot := lookup_eq_none_iff_notMem.mp hk
    rw [hk] at h
    obtain ⟨below, hbelow, rfl⟩ := Option.map_eq_some_iff.mp h
    refine ⟨below, _, rfl, hbelow, lookup_append_self hnot,
      fun k' hne => lookup_append_of_ne hne, fun hnodup => ?_⟩
    rw [List.map_append, List.nodup_append]
    refine ⟨hnodup, List.nodup_singleton _, fun a ha b hb => ?_⟩
    rw [List.map_singleton, List.mem_singleton] at hb
    rw [hb]
    rintro rfl
    exact hnot ha
  | some t =>
    have hmem : k ∈ entries.map Prod.fst := by
      by_contra hnot
      rw [lookup_eq_none_iff_notMem.mpr hnot] at hk
      cases hk
    rw [hk] at h
    obtain ⟨below, hbelow, rfl⟩ := Option.map_eq_some_iff.mp h
    refine ⟨below, _, rfl, hbelow, lookup_setKey_self hmem,
      fun k' hne => lookup_setKey_of_ne hne, fun hnodup => ?_⟩
    rwa [map_fst_setKey]

variable {t t' new : KeyTree κ V} {path : List κ}

/-- At the path there is the new tree. -/
theorem get?_replace_self (h : t.replace path new = some t') : t'.get? path = some new := by
  induction path generalizing t t' with
  | nil =>
    rw [replace_nil] at h
    rw [← Option.some.inj h, get?_nil]
  | cons k path ih =>
    cases t with
    | leaf v => cases h
    | branch entries =>
      obtain ⟨below, entries', rfl, hbelow, hlookup, -⟩ := replace_cons h
      rw [get?_branch_cons, hlookup, Option.bind_some, ih hbelow]

/-- Elsewhere nothing changes. -/
theorem get?_replace_of_not_prefix (h : t.replace path new = some t') {other : List κ}
    (hnot : ¬ path <+: other) (hnot' : ¬ other <+: path) : t'.get? other = t.get? other := by
  induction path generalizing t t' other with
  | nil => exact absurd List.nil_prefix hnot
  | cons k path ih =>
    cases other with
    | nil => exact absurd List.nil_prefix hnot'
    | cons k' other =>
      cases t with
      | leaf v => cases h
      | branch entries =>
        obtain ⟨below, entries', rfl, hbelow, hlookup, hother, -⟩ := replace_cons h
        rw [get?_branch_cons, get?_branch_cons]
        by_cases hk : k' = k
        · subst hk
          have hrest := ih hbelow (fun hp => hnot (List.cons_prefix_cons.mpr ⟨rfl, hp⟩))
            fun hp => hnot' (List.cons_prefix_cons.mpr ⟨rfl, hp⟩)
          rw [hlookup, Option.bind_some, hrest]
          cases entries.lookup k' with
          | some below' => rfl
          | none =>
            cases other with
            | nil => exact absurd List.nil_prefix fun hp =>
                hnot' (List.cons_prefix_cons.mpr ⟨rfl, hp⟩)
            | cons k'' other => rfl
        · rw [hother k' hk]

/-- On the way to the path there are nodes, and there have been no values. -/
theorem get?_replace_of_prefix (h : t.replace path new = some t') {above : List κ}
    (hpre : above <+: path) (hne : above ≠ path) :
    (∃ entries, t'.get? above = some (branch entries)) ∧ ∀ v, t.get? above ≠ some (leaf v) := by
  induction path generalizing t t' above with
  | nil => exact absurd (List.prefix_nil.mp hpre) hne
  | cons k path ih =>
    cases t with
    | leaf v => cases h
    | branch entries =>
      obtain ⟨below, entries', rfl, hbelow, hlookup, -⟩ := replace_cons h
      cases above with
      | nil => exact ⟨⟨entries', get?_nil _⟩, fun v => by rw [get?_nil]; exact nofun⟩
      | cons k' above =>
        obtain ⟨rfl, hpre'⟩ := List.cons_prefix_cons.mp hpre
        obtain ⟨hnode, hvalues⟩ := ih hbelow hpre' fun heq => hne (heq ▸ rfl)
        rw [get?_branch_cons, hlookup, Option.bind_some]
        refine ⟨hnode, fun v => ?_⟩
        have hrest := hvalues v
        rw [get?_branch_cons]
        cases hk : entries.lookup k' with
        | none => exact nofun
        | some t => rwa [hk] at hrest

/-- Keys stay unique. -/
theorem Unique.replace (ht : t.Unique) (hnew : new.Unique) (h : t.replace path new = some t') :
    t'.Unique := by
  induction path generalizing t t' with
  | nil =>
    rw [replace_nil, Option.some.injEq] at h
    exact h ▸ hnew
  | cons k path ih =>
    cases t with
    | leaf v => cases h
    | branch entries =>
      obtain ⟨below, entries', rfl, hbelow, hlookup, hother, hnodup⟩ := replace_cons h
      obtain ⟨hkeys, htrees⟩ := unique_branch_iff.mp ht
      have hbelow' : below.Unique := by
        refine ih ?_ hbelow
        cases hk : entries.lookup k with
        | some t => exact htrees k t hk
        | none => exact unique_empty
      refine unique_branch_iff.mpr ⟨hnodup hkeys, fun k' t hk' => ?_⟩
      by_cases hk : k' = k
      · rw [hk, hlookup, Option.some.injEq] at hk'
        exact hk' ▸ hbelow'
      · exact htrees k' t (hother k' hk ▸ hk')

/-! ## What can be seen -/

/-- Looking along a path from a part of the tree that has been found. -/
theorem look_append (path' : List κ) (ht' : t.get? path = some t') :
    t.look (path ++ path') = t'.look path' := by
  rw [look, get?_append, ht', Option.bind_some, look]

/-- Nodes whose entries are the same by key look the same. -/
theorem same_branch {entries entries' : List (κ × KeyTree κ V)}
    (h : ∀ k, entries.lookup k = entries'.lookup k) : (branch entries).Same (branch entries') := by
  intro path
  cases path with
  | nil => rw [look, look, get?_nil, get?_nil]; rfl
  | cons k path => rw [look, look, get?_branch_cons, get?_branch_cons, h k]

/-- Another node that looks the same in the place of a node leaves a tree that looks the same. -/
theorem Same.replace {entries entries' : List (κ × KeyTree κ V)}
    (hsame : (branch entries').Same (branch entries)) (hget : t.get? path = some (branch entries))
    (h : t.replace path (branch entries') = some t') : t'.Same t := by
  intro other
  by_cases hbelow : path <+: other
  · obtain ⟨rest, rfl⟩ := hbelow
    rw [look_append rest (get?_replace_self h), look_append rest hget]
    exact hsame rest
  · by_cases habove : other <+: path
    · -- above there are nodes before and after
      have hne : other ≠ path := fun heq => hbelow (heq ▸ List.prefix_rfl)
      obtain ⟨⟨above', habove'⟩, -⟩ := get?_replace_of_prefix h habove hne
      obtain ⟨rest, rfl⟩ := habove
      rw [get?_append] at hget
      obtain ⟨above, habove, hrest⟩ := Option.bind_eq_some_iff.mp hget
      rw [look, look, habove', habove]
      cases above with
      | branch _ => rfl
      | leaf v =>
        cases rest with
        | nil => exact absurd (List.append_nil other).symm hne
        | cons k rest => cases hrest
    · rw [look, look, get?_replace_of_not_prefix h hbelow habove]

end KeyTree

end ConfigdExtra
