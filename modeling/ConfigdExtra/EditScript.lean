import Mathlib

/-!
# Edit scripts between keyed lists

A general account of "the difference of two tables". A table is a list whose entries have
distinct keys. The edit script from `old` to `new` lists the entries of `new` in order, each
marked by comparing it with the entry of `old` of the same key, and behind them the entries
of `old` whose key is gone.

* `Scheme` — how entries are keyed and marked; that marking keeps the key is a field.
* `script` — the edit script, as one expression.
* `addPass`, `gonePass`, `passes_eq_script` — the script computed by appending: one pass over
  `new`, then one over `old` that searches the list built so far.
* `mem_keys_script`, `nodup_keys_script`, `find?_script` — the script is a table again.
* `filter_script` — without the gone entries, it is the marked `new`.
* `Tags`, `tag_script_reverse` — the script from `new` to `old` tags every key with the dual of
  the tag it has in the script from `old` to `new`.
-/

namespace EditScript

universe u v w

/-- How entries of type `α` are keyed and turned into entries of a script. -/
structure Scheme (α : Type u) (β : Type v) (κ : Type w) where
  /-- the key of a table entry -/
  key : α → κ
  /-- the key of a script entry -/
  keyOf : β → κ
  /-- mark an entry of `new`, given the entry of `old` of its key -/
  mark : Option α → α → β
  /-- mark an entry of `old` that is gone -/
  markGone : α → β
  /-- marking keeps the key -/
  keyOf_mark : ∀ o e, keyOf (mark o e) = key e
  /-- also of an entry that is gone -/
  keyOf_markGone : ∀ e, keyOf (markGone e) = key e

variable {α : Type u} {β : Type v} {κ : Type w} [DecidableEq κ] (S : Scheme α β κ)

namespace Scheme

/-- The keys of a table. -/
def keys (l : List α) : List κ := l.map S.key

/-- The entry of a table with a key. -/
def lookup (l : List α) (k : κ) : Option α := l.find? fun e => S.key e = k

/-- The entries of `old` whose key `new` lacks. -/
def gone (old new : List α) : List α := old.filter fun e => S.key e ∉ S.keys new

/-- The marked entries of `new`. -/
def marked (old new : List α) : List β := new.map fun e => S.mark (S.lookup old (S.key e)) e

/-- The edit script from `old` to `new`. -/
def script (old new : List α) : List β := S.marked old new ++ (S.gone old new).map S.markGone

/-- One turn of the pass over `new`. -/
def addPass (old : List α) (acc : List β) (e : α) : List β :=
  acc ++ [S.mark (S.lookup old (S.key e)) e]

/-- One turn of the pass over `old`: append what the list built so far lacks. -/
def gonePass (acc : List β) (e : α) : List β :=
  if S.key e ∈ acc.map S.keyOf then acc else acc ++ [S.markGone e]

variable {S} {old new l : List α} {k : κ} {e : α}

theorem lookup_eq_none : S.lookup l k = none ↔ k ∉ S.keys l := by
  simp only [lookup, keys, List.find?_eq_none, List.mem_map, decide_eq_true_eq, not_exists, not_and]

theorem lookup_eq_some (h : S.lookup l k = some e) : e ∈ l ∧ S.key e = k :=
  ⟨List.mem_of_find?_eq_some h, by simpa using List.find?_some h⟩

/-- In a table, the entry found by its own key is the entry itself. -/
theorem lookup_key (hl : (S.keys l).Nodup) (he : e ∈ l) : S.lookup l (S.key e) = some e := by
  cases hfind : S.lookup l (S.key e) with
  | none => exact absurd (List.mem_map_of_mem he) (lookup_eq_none.mp hfind)
  | some e' =>
    obtain ⟨he', hkey⟩ := lookup_eq_some hfind
    rw [List.inj_on_of_nodup_map hl he' he hkey]

/-! ## The script is a table -/

theorem map_keyOf_marked : (S.marked old new).map S.keyOf = S.keys new := by
  rw [marked, List.map_map, keys]
  exact List.map_congr_left fun e _ => S.keyOf_mark _ e

theorem map_keyOf_script :
    (S.script old new).map S.keyOf = S.keys new ++ S.keys (S.gone old new) := by
  rw [script, List.map_append, map_keyOf_marked, List.map_map, keys, keys]
  congr 1
  exact List.map_congr_left fun e _ => S.keyOf_markGone e

theorem mem_gone : e ∈ S.gone old new ↔ e ∈ old ∧ S.key e ∉ S.keys new := by
  simp [gone]

/-- A script mentions the keys of both tables, and no other. -/
theorem mem_keys_script :
    k ∈ (S.script old new).map S.keyOf ↔ k ∈ S.keys new ∨ k ∈ S.keys old := by
  rw [map_keyOf_script, List.mem_append]
  constructor
  · rintro (hnew | hgone)
    · exact Or.inl hnew
    · obtain ⟨e, he, rfl⟩ := List.mem_map.mp hgone
      exact Or.inr (List.mem_map_of_mem (mem_gone.mp he).1)
  · rintro (hnew | hold)
    · exact Or.inl hnew
    · by_cases hnew : k ∈ S.keys new
      · exact Or.inl hnew
      · obtain ⟨e, he, rfl⟩ := List.mem_map.mp hold
        exact Or.inr (List.mem_map_of_mem (mem_gone.mpr ⟨he, hnew⟩))

theorem nodup_keys_script (hold : (S.keys old).Nodup) (hnew : (S.keys new).Nodup) :
    ((S.script old new).map S.keyOf).Nodup := by
  rw [map_keyOf_script]
  refine List.nodup_append.mpr ⟨hnew, ?_, ?_⟩
  · exact hold.sublist (List.filter_sublist.map S.key)
  · rintro k hk _ hgone rfl
    obtain ⟨e, he, rfl⟩ := List.mem_map.mp hgone
    exact (mem_gone.mp he).2 hk

/-- Among entries of distinct keys, the one found is the one of that key. -/
theorem find?_keyOf_eq_some {m : List β} (hm : (m.map S.keyOf).Nodup) {b : β} :
    m.find? (fun a => S.keyOf a = k) = some b ↔ b ∈ m ∧ S.keyOf b = k := by
  constructor
  · intro hfind
    exact ⟨List.mem_of_find?_eq_some hfind, by simpa using List.find?_some hfind⟩
  · rintro ⟨hb, rfl⟩
    cases hfind : m.find? fun a => S.keyOf a = S.keyOf b with
    | none =>
      have hno := List.find?_eq_none.mp hfind b hb
      exact absurd rfl (of_decide_eq_false (Bool.eq_false_iff.mpr hno))
    | some a =>
      have hkey : S.keyOf a = S.keyOf b := by simpa using List.find?_some hfind
      rw [List.inj_on_of_nodup_map hm (List.mem_of_find?_eq_some hfind) hb hkey]

/-- What a script says of a key of `new`. -/
theorem find?_script_of_mem (hnew : (S.keys new).Nodup) (he : e ∈ new) :
    (S.script old new).find? (fun b => S.keyOf b = S.key e) =
      some (S.mark (S.lookup old (S.key e)) e) := by
  have hmarked : (S.marked old new).find? (fun b => S.keyOf b = S.key e) =
      some (S.mark (S.lookup old (S.key e)) e) := by
    have hkey := lookup_key hnew he
    rw [lookup] at hkey
    rw [marked, List.find?_map]
    simp only [Function.comp_def, S.keyOf_mark, hkey, Option.map_some]
  rw [script, List.find?_append, hmarked, Option.some_or]

/-- What a script says of a key that is gone. -/
theorem find?_script_of_gone (hold : (S.keys old).Nodup) (he : e ∈ old)
    (hgone : S.key e ∉ S.keys new) :
    (S.script old new).find? (fun b => S.keyOf b = S.key e) = some (S.markGone e) := by
  have hmarked : (S.marked old new).find? (fun b => S.keyOf b = S.key e) = none := by
    rw [List.find?_eq_none]
    intro b hb hkey
    have hmem := List.mem_map_of_mem (f := S.keyOf) hb
    rw [map_keyOf_marked, of_decide_eq_true hkey] at hmem
    exact hgone hmem
  have hnodup : (S.keys (S.gone old new)).Nodup := hold.sublist (List.filter_sublist.map S.key)
  have hkey := lookup_key hnodup (mem_gone.mpr ⟨he, hgone⟩)
  rw [lookup] at hkey
  rw [script, List.find?_append, hmarked, Option.none_or, List.find?_map]
  simp only [Function.comp_def, S.keyOf_markGone, hkey, Option.map_some]

/-- A key of neither table is not in the script. -/
theorem find?_script_eq_none (hnew : k ∉ S.keys new) (hold : k ∉ S.keys old) :
    (S.script old new).find? (fun b => S.keyOf b = k) = none := by
  rw [List.find?_eq_none]
  intro b hb hkey
  have hmem := mem_keys_script.mp (List.mem_map_of_mem (f := S.keyOf) hb)
  rw [of_decide_eq_true hkey] at hmem
  exact hmem.elim hnew hold

/-- What a script says of a key, by what the two tables say of it. -/
theorem find?_script (hold : (S.keys old).Nodup) (hnew : (S.keys new).Nodup) :
    (S.script old new).find? (fun b => S.keyOf b = k) =
      match S.lookup new k with
      | some e => some (S.mark (S.lookup old k) e)
      | none => (S.lookup old k).map S.markGone := by
  cases hfind : S.lookup new k with
  | some e =>
    obtain ⟨he, rfl⟩ := lookup_eq_some hfind
    exact find?_script_of_mem hnew he
  | none =>
    have hnotNew := lookup_eq_none.mp hfind
    cases hfindOld : S.lookup old k with
    | some o =>
      obtain ⟨ho, rfl⟩ := lookup_eq_some hfindOld
      exact find?_script_of_gone hold ho hnotNew
    | none => exact find?_script_eq_none hnotNew (lookup_eq_none.mp hfindOld)

/-- Without the gone entries, a script is the marked `new`. -/
theorem filter_script {isGone : β → Bool} (hmark : ∀ o e, isGone (S.mark o e) = false)
    (hgone : ∀ e, isGone (S.markGone e) = true) :
    (S.script old new).filter (fun b => !isGone b) = S.marked old new := by
  have hkeep : (S.marked old new).filter (fun b => !isGone b) = S.marked old new := by
    refine List.filter_eq_self.mpr fun b hb => ?_
    obtain ⟨e, -, rfl⟩ := List.mem_map.mp hb
    rw [hmark, Bool.not_false]
  have hdrop : ((S.gone old new).map S.markGone).filter (fun b => !isGone b) = [] := by
    refine List.filter_eq_nil_iff.mpr fun b hb => ?_
    obtain ⟨e, -, rfl⟩ := List.mem_map.mp hb
    simp [hgone]
  rw [script, List.filter_append, hkeep, hdrop, List.append_nil]

/-! ## The script backwards -/

/-- How the tags of a scheme are turned around when the two tables change places. -/
structure Tags (S : Scheme α β κ) (τ : Type*) where
  /-- the tag of a script entry -/
  tag : β → τ
  /-- the tag in the other direction -/
  dual : τ → τ
  /-- what is new one way is gone the other way -/
  tag_markGone : ∀ e, tag (S.markGone e) = dual (tag (S.mark none e))
  /-- and the other way round -/
  tag_mark_none : ∀ e, tag (S.mark none e) = dual (tag (S.markGone e))
  /-- what is on both sides is compared the other way -/
  tag_mark_some : ∀ o e, tag (S.mark (some e) o) = dual (tag (S.mark (some o) e))

/-- Every key has dual tags in the scripts of the two directions. -/
theorem tag_script_reverse {τ : Type*} (T : Tags S τ) (hold : (S.keys old).Nodup)
    (hnew : (S.keys new).Nodup) :
    ((S.script new old).find? fun b => S.keyOf b = k).map T.tag =
      (((S.script old new).find? fun b => S.keyOf b = k).map T.tag).map T.dual := by
  rw [find?_script hnew hold, find?_script hold hnew]
  cases S.lookup old k with
  | none =>
    cases S.lookup new k with
    | none => rfl
    | some e => exact congrArg some (T.tag_markGone e)
  | some o =>
    cases S.lookup new k with
    | none => exact congrArg some (T.tag_mark_none o)
    | some e => exact congrArg some (T.tag_mark_some o e)

/-! ## The script by appending -/

theorem foldl_addPass (acc : List β) : new.foldl (S.addPass old) acc = acc ++ S.marked old new := by
  induction new generalizing acc with
  | nil => rw [List.foldl_nil, marked, List.map_nil, List.append_nil]
  | cons e new ih =>
    rw [List.foldl_cons, ih, addPass, List.append_assoc]
    rfl

/-- The pass over `old` appends the entries whose key the list lacked when the pass began:
what it appends itself has other keys. -/
theorem foldl_gonePass (hold : (S.keys old).Nodup) (acc : List β) :
    old.foldl S.gonePass acc =
      acc ++ (old.filter fun e => S.key e ∉ acc.map S.keyOf).map S.markGone := by
  induction old generalizing acc with
  | nil => rw [List.foldl_nil, List.filter_nil, List.map_nil, List.append_nil]
  | cons e old ih =>
    obtain ⟨hnotMem, hnodup⟩ := List.nodup_cons.mp hold
    rw [List.foldl_cons, ih hnodup, gonePass, List.filter_cons]
    by_cases hmem : S.key e ∈ acc.map S.keyOf
    · simp only [hmem, if_true, not_true_eq_false, decide_false, Bool.false_eq_true, if_false]
    · have hfilter : (old.filter fun a => S.key a ∉ (acc ++ [S.markGone e]).map S.keyOf) =
          old.filter fun a => S.key a ∉ acc.map S.keyOf := by
        refine List.filter_congr fun a ha => ?_
        have hne : S.key a ≠ S.key e := fun heq => hnotMem (heq ▸ List.mem_map_of_mem ha)
        simp only [List.map_append, List.map_singleton, S.keyOf_markGone, List.mem_append,
          List.mem_singleton, hne, or_false]
      simp only [hmem, if_false, not_false_eq_true, decide_true, if_true]
      rw [hfilter, List.map_cons, List.append_assoc]
      rfl

/-- The pass over `old`, behind the marked `new`, completes the edit script. -/
theorem passes_eq_script (hold : (S.keys old).Nodup) :
    old.foldl S.gonePass (S.marked old new) = S.script old new := by
  rw [foldl_gonePass hold, script, gone, map_keyOf_marked]

end Scheme

end EditScript
