import Mathlib.Data.List.Sort
import Mathlib.Data.List.Nodup

/-!
# The first element of each key

A list in which several elements may have the same key, and the list of those that are the first
with their key.

* `firsts` — the first element of each key, in the order of the list.
* `appendNew` — adding an element to a bounded list, unless its key is there.
* `foldl_appendNew` — adding all elements gives the first ones that fit.
-/

namespace FirstByKey

variable {α κ : Type} [DecidableEq κ] (key : α → κ)

/-- The first element of each key. -/
def firsts : List α → List α
  | [] => []
  | a :: l => a :: (firsts l).filter fun b => key b ≠ key a

/-- Add an element at the end, unless `n` are there already or one with its key. -/
def appendNew (n : Nat) (acc : List α) (a : α) : List α :=
  if acc.length ≥ n then acc
  else if key a ∈ acc.map key then acc
  else acc ++ [a]

variable {key} {l acc : List α} {a b : α} {k : κ} {n : Nat}

theorem firsts_sublist : (firsts key l).Sublist l := by
  induction l with
  | nil => exact List.Sublist.slnil
  | cons a l ih => exact (List.filter_sublist.trans ih).cons_cons a

theorem mem_of_mem_firsts (h : a ∈ firsts key l) : a ∈ l := firsts_sublist.subset h

/-- The keys are distinct. -/
theorem nodup_firsts : ((firsts key l).map key).Nodup := by
  induction l with
  | nil => exact List.nodup_nil
  | cons a l ih =>
    rw [firsts, List.map_cons, List.nodup_cons]
    constructor
    · rw [List.mem_map]
      rintro ⟨b, hb, hkey⟩
      exact (of_decide_eq_true (List.mem_filter.mp hb).2) hkey
    · exact ih.sublist (List.filter_sublist.map key)

/-- Each key has a first element. -/
theorem exists_firsts (h : a ∈ l) : ∃ b ∈ firsts key l, key b = key a := by
  induction l with
  | nil => cases h
  | cons c l ih =>
    by_cases hc : key a = key c
    · exact ⟨c, List.mem_cons_self, hc.symm⟩
    · obtain ⟨b, hb, hkey⟩ := ih ((List.mem_cons.mp h).resolve_left fun hac => hc (hac ▸ rfl))
      refine ⟨b, List.mem_cons_of_mem c (List.mem_filter.mpr ⟨hb, decide_eq_true ?_⟩), hkey⟩
      rw [hkey]
      exact hc

/-- In a sorted list, the first element of a key is the least. -/
theorem rel_of_mem_firsts {r : α → α → Prop} (hrefl : ∀ a, r a a) (hsorted : l.Pairwise r)
    (ha : a ∈ firsts key l) (hb : b ∈ l) (hkey : key a = key b) : r a b := by
  induction l with
  | nil => cases hb
  | cons c l ih =>
    obtain ⟨hc, hl⟩ := List.pairwise_cons.mp hsorted
    rcases List.mem_cons.mp ha with rfl | ha
    · rcases List.mem_cons.mp hb with rfl | hb
      · exact hrefl b
      · exact hc b hb
    · obtain ⟨ha, hne⟩ := List.mem_filter.mp ha
      rcases List.mem_cons.mp hb with rfl | hb
      · exact absurd hkey (of_decide_eq_true hne)
      · exact ih hl ha hb

/-- **Adding all elements** adds the first ones with new keys, as many as fit. -/
theorem foldl_appendNew (l acc : List α) :
    l.foldl (appendNew key n) acc =
      acc ++ ((firsts key l).filter fun a => key a ∉ acc.map key).take (n - acc.length) := by
  induction l generalizing acc with
  | nil => simp [firsts]
  | cons a l ih =>
    rw [List.foldl_cons, ih, firsts, List.filter_cons]
    by_cases hfull : acc.length ≥ n
    · have hzero : n - acc.length = 0 := by omega
      rw [appendNew, if_pos hfull, hzero, List.take_zero, List.take_zero]
    rw [appendNew, if_neg hfull]
    by_cases hmem : key a ∈ acc.map key
    · rw [if_pos hmem, if_neg (by simpa using hmem), List.filter_filter]
      congr 2
      apply List.filter_congr
      intro b _
      by_cases hb : key b = key a
      · simp [hb, hmem]
      · simp [hb]
    · have hroom : n - acc.length = (n - (acc ++ [a]).length) + 1 := by
        rw [List.length_append, List.length_singleton]
        omega
      rw [if_neg hmem, if_pos (by simpa using hmem), hroom, List.take_succ_cons,
        List.filter_filter, List.append_assoc, List.singleton_append]
      congr 3
      apply List.filter_congr
      intro b _
      rw [← Bool.decide_and, decide_eq_decide, List.map_append, List.mem_append, not_or,
        List.map_singleton, List.mem_singleton]

end FirstByKey
