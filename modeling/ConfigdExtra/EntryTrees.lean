import Mathlib

/-!
# Trees of entries

Trees with a value at each entry, where an entry is known by its path from the root.

* `EntryTree`, `at?` — the trees, and the subtree at a path.
* `chain` — the values of an entry and of all above it.
* `subtrees`, `descendants` — the subtrees, and the values below the root.
* `subtree_of_chain` — what is above an entry in its chain is the value of a subtree that has the
  entry in it.
-/

universe u

/-- An entry, with those below it. -/
inductive EntryTree (ν : Type u)
  | node (value : ν) (children : List (EntryTree ν))

namespace EntryTree

variable {ν : Type u}

/-- The value at the root. -/
def value : EntryTree ν → ν
  | node v _ => v

/-- The subtree at a path. -/
def at? : EntryTree ν → List ℕ → Option (EntryTree ν)
  | t, [] => some t
  | node _ ts, i :: path => ts[i]?.bind fun t => t.at? path

/-- The value of an entry and those above it, the root last. -/
def chain : EntryTree ν → List ℕ → Option (List ν)
  | node v _, [] => some [v]
  | node v ts, i :: path => ts[i]?.bind fun t => (t.chain path).map (· ++ [v])

mutual

/-- All subtrees, from the root on. -/
def subtrees : EntryTree ν → List (EntryTree ν)
  | node v ts => node v ts :: subtreesOf ts

/-- The subtrees of several trees. -/
def subtreesOf : List (EntryTree ν) → List (EntryTree ν)
  | [] => []
  | t :: ts => subtrees t ++ subtreesOf ts

end

/-- The values of the entries below the root. -/
def descendants : EntryTree ν → List ν
  | node _ ts => (subtreesOf ts).map value

/-! ## Subtrees -/

theorem mem_subtrees_self (t : EntryTree ν) : t ∈ t.subtrees := by
  cases t with
  | node v ts => exact List.mem_cons_self

theorem mem_subtreesOf {t s : EntryTree ν} {ts : List (EntryTree ν)} (ht : t ∈ ts)
    (hs : s ∈ t.subtrees) : s ∈ subtreesOf ts := by
  induction ts with
  | nil => cases ht
  | cons t' ts ih =>
    rw [subtreesOf, List.mem_append]
    obtain rfl | ht := List.mem_cons.mp ht
    · exact .inl hs
    · exact .inr (ih ht)

/-- What is at a path is a subtree. -/
theorem mem_subtrees_of_at? {t s : EntryTree ν} {path : List ℕ} (h : t.at? path = some s) :
    s ∈ t.subtrees := by
  induction path generalizing t with
  | nil =>
    obtain rfl := Option.some.inj h
    exact mem_subtrees_self t
  | cons i path ih =>
    obtain ⟨v, ts⟩ := t
    obtain ⟨t', ht', hs⟩ := Option.bind_eq_some_iff.mp h
    rw [subtrees]
    exact List.mem_cons_of_mem _ (mem_subtreesOf (List.mem_of_getElem? ht') (ih hs))

/-- What is at a path that is not empty is below the root. -/
theorem mem_descendants_of_at? {t s : EntryTree ν} (i : ℕ) (path : List ℕ)
    (h : t.at? (i :: path) = some s) : s.value ∈ t.descendants := by
  obtain ⟨v, ts⟩ := t
  obtain ⟨t', ht', hs⟩ := Option.bind_eq_some_iff.mp h
  exact List.mem_map_of_mem (mem_subtreesOf (List.mem_of_getElem? ht') (mem_subtrees_of_at? hs))

/-! ## Chains -/

/-- A chain begins with the value of the entry. -/
theorem exists_at?_of_chain {t : EntryTree ν} {path : List ℕ} {v : ν} {above : List ν}
    (h : t.chain path = some (v :: above)) : ∃ s, t.at? path = some s ∧ s.value = v := by
  induction path generalizing t above with
  | nil =>
    obtain ⟨v', ts⟩ := t
    cases h
    exact ⟨_, rfl, rfl⟩
  | cons i path ih =>
    obtain ⟨v', ts⟩ := t
    obtain ⟨t', ht', hchain⟩ := Option.bind_eq_some_iff.mp h
    obtain ⟨c, hc, happend⟩ := Option.map_eq_some_iff.mp hchain
    have hne : c ≠ [] := by
      rintro rfl
      cases path <;> obtain ⟨w, us⟩ := t'
      · cases hc
      · obtain ⟨_, -, hrest⟩ := Option.bind_eq_some_iff.mp hc
        obtain ⟨d, -, hd⟩ := Option.map_eq_some_iff.mp hrest
        simp at hd
    obtain ⟨w, c, rfl⟩ := List.exists_cons_of_ne_nil hne
    obtain ⟨rfl, -⟩ := List.cons.inj happend
    obtain ⟨s, hs, hv⟩ := ih hc
    refine ⟨s, ?_, hv⟩
    rw [at?, ht']
    exact hs

/-- **What is above an entry** is the value of a subtree with the entry in it. -/
theorem subtree_of_chain {t : EntryTree ν} {path : List ℕ} {v e : ν} {below above : List ν}
    (h : t.chain path = some (v :: below ++ e :: above)) :
    ∃ s ∈ t.subtrees, s.value = e ∧ v ∈ s.descendants := by
  induction path generalizing t above with
  | nil =>
    obtain ⟨v', ts⟩ := t
    rw [chain] at h
    simp at h
  | cons i path ih =>
    obtain ⟨v', ts⟩ := t
    obtain ⟨t', ht', hchain⟩ := Option.bind_eq_some_iff.mp h
    obtain ⟨c, hc, happend⟩ := Option.map_eq_some_iff.mp hchain
    obtain rfl | ⟨last, above', rfl⟩ : above = [] ∨ ∃ last above', above = above' ++ [last] := by
      obtain rfl | hne := eq_or_ne above []
      · exact .inl rfl
      · exact .inr ⟨_, _, (List.dropLast_concat_getLast hne).symm⟩
    · -- it is the root
      obtain ⟨rfl, he⟩ := List.append_inj' happend rfl
      obtain rfl : v' = e := List.head_eq_of_cons_eq he
      obtain ⟨s, hs, rfl⟩ := exists_at?_of_chain hc
      refine ⟨_, mem_subtrees_self _, rfl, mem_descendants_of_at? i path ?_⟩
      rw [at?, ht']
      exact hs
    · -- it is below the root
      rw [← List.cons_append, ← List.append_assoc] at happend
      obtain ⟨rfl, -⟩ := List.append_inj' happend rfl
      obtain ⟨s, hs, hvalue, hmem⟩ := ih hc
      refine ⟨s, ?_, hvalue, hmem⟩
      rw [subtrees]
      exact List.mem_cons_of_mem _ (mem_subtreesOf (List.mem_of_getElem? ht') hs)

end EntryTree
