import Mathlib

/-!
# Objects that are made on demand and remembered

A pool holds objects: each has a value, which stays, and a label, which can be changed. What is
found under a key is made into objects; while a table is open, the objects of a key are made once
and handed out again.

* `Pool`, `make`, `fetch`, `openTable`, `closeTable`, `relabel` — the operations.
* `Marked` — which object is which: every object has a mark of its own, and the marks say which
  objects are handed out again.
* `Grows` — what making and fetching may do.
* `make_grows`, `fetch_grows`, `Marked.openTable`, `Marked.closeTable`, `Marked.relabel`.
-/

namespace ObjectPool

variable {κ α ω : Type}

/-! ## Pools -/

/-- An object -/
structure Cell (α ω : Type) where
  /-- what stays -/
  value : α
  /-- what can be changed -/
  label : ω

/-- The objects made so far, by their addresses, and the table, if it is open. -/
structure Pool (κ α ω : Type) where
  /-- the objects -/
  cells : List (Cell α ω)
  /-- the addresses of the objects of a key -/
  table : Option (κ → Option (List ℕ))

/-- No objects, and no table. -/
def Pool.empty : Pool κ α ω := ⟨[], none⟩

/-- The value at an address -/
def Pool.value? (p : Pool κ α ω) (a : ℕ) : Option α := p.cells[a]?.map Cell.value

/-- The label at an address -/
def Pool.label? (p : Pool κ α ω) (a : ℕ) : Option ω := p.cells[a]?.map Cell.label

/-- New objects are made. -/
def make (cells : List (Cell α ω)) (p : Pool κ α ω) : List ℕ × Pool κ α ω :=
  (List.range' p.cells.length cells.length, { p with cells := p.cells ++ cells })

/-- One new object is made. -/
def makeOne (cell : Cell α ω) (p : Pool κ α ω) : ℕ × Pool κ α ω :=
  (p.cells.length, { p with cells := p.cells ++ [cell] })

/-- The labels at some addresses are changed. -/
def relabel (label : ω) (addresses : List ℕ) (p : Pool κ α ω) : Pool κ α ω :=
  { p with cells := p.cells.mapIdx fun a cell =>
      if a ∈ addresses then { cell with label := label } else cell }

section Fetch
variable [DecidableEq κ]

/-- The objects of a key: those in the table, or new ones for what is found. -/
def fetch (blank : ω) (k : κ) (found : Option (List α)) (p : Pool κ α ω) :
    Option (List ℕ) × Pool κ α ω :=
  match p.table.bind (· k) with
  | some addresses => (some addresses, p)
  | none =>
    match found with
    | none => (none, p)
    | some values =>
      let (addresses, p) := make (values.map fun value => ⟨value, blank⟩) p
      (some addresses,
        { p with table := p.table.map fun table => Function.update table k (some addresses) })

end Fetch

/-- The table is opened, if it is not. -/
def openTable (p : Pool κ α ω) : Pool κ α ω :=
  match p.table with
  | some _ => p
  | none => { p with table := some fun _ => none }

/-- The table is closed. -/
def closeTable (p : Pool κ α ω) : Pool κ α ω := { p with table := none }

/-! ## Marks -/

/-- A mark of an object -/
inductive Mark (κ : Type) where
  /-- made for whoever asked for it, at this address -/
  | fresh (a : ℕ)
  /-- in the `n`-th open table, the `i`-th of a key -/
  | remembered (n : ℕ) (k : κ) (i : ℕ)
  deriving DecidableEq

/-- The marks of the objects of a pool, where `find` is what is found under a key, and at most `n`
tables have been opened. -/
structure Marked (find : κ → Option (List α)) (n : ℕ) (marks : List (Mark κ)) (p : Pool κ α ω) :
    Prop where
  /-- one for each object -/
  length : marks.length = p.cells.length
  /-- not two of one mark -/
  nodup : marks.Nodup
  /-- a fresh object is where its mark says -/
  fresh : ∀ a b, marks[a]? = some (Mark.fresh b) → b = a
  /-- no marks of tables to come -/
  older : ∀ m k i, Mark.remembered m k i ∈ marks → m ≤ n
  /-- while the table is open, its marks are of keys in it -/
  known : ∀ table, p.table = some table → ∀ k i, Mark.remembered n k i ∈ marks → table k ≠ none
  /-- the table has the objects of what is found -/
  found : ∀ table, p.table = some table → ∀ k addresses, table k = some addresses →
    ∃ values, find k = some values ∧ addresses.length = values.length ∧
      ∀ i a, addresses[i]? = some a →
        p.value? a = values[i]? ∧ marks[a]? = some (Mark.remembered n k i)

/-- What making and fetching may do: there are more objects, and the table is open if it was. -/
structure Grows (find : κ → Option (List α)) (n : ℕ) (blank : ω) (marks : List (Mark κ))
    (p : Pool κ α ω) (marks' : List (Mark κ)) (p' : Pool κ α ω) : Prop where
  /-- the objects stay -/
  cells : p.cells <+: p'.cells
  /-- so do their marks -/
  marks : marks <+: marks'
  /-- the table is open if it was -/
  isOpen : p'.table.isSome = p.table.isSome
  /-- the new objects have marks -/
  marked : Marked find n marks' p'
  /-- what is new and remembered has no label yet -/
  blank : ∀ a m k i, p.cells.length ≤ a → marks'[a]? = some (Mark.remembered m k i) →
    p'.label? a = some blank

/-! ## Objects that stay -/

variable {p p' : Pool κ α ω} {find : κ → Option (List α)} {n : ℕ} {blank : ω}
  {marks marks' marks'' : List (Mark κ)}

/-- What has an address keeps it, as the pool only grows. -/
theorem getElem?_extends {β : Type} {l l' : List β} (h : l <+: l') {a : ℕ} {b : β}
    (hb : l[a]? = some b) : l'[a]? = some b := by
  obtain ⟨rest, rfl⟩ := h
  have ha : a < l.length := (List.getElem?_eq_some_iff.mp hb).1
  rw [List.getElem?_append_left ha]
  exact hb

/-- A growing pool keeps the values. -/
theorem value?_extends (h : p.cells <+: p'.cells) {a : ℕ} {value : α}
    (hvalue : p.value? a = some value) : p'.value? a = some value := by
  obtain ⟨cell, hcell, rfl⟩ := Option.map_eq_some_iff.mp hvalue
  exact Option.map_eq_some_iff.mpr ⟨cell, getElem?_extends h hcell, rfl⟩

/-- And the labels. -/
theorem label?_extends (h : p.cells <+: p'.cells) {a : ℕ} (ha : a < p.cells.length) :
    p'.label? a = p.label? a := by
  obtain ⟨rest, hrest⟩ := h
  rw [Pool.label?, Pool.label?, ← hrest, List.getElem?_append_left ha]

/-- The objects of a key stay. -/
theorem found_extends {k : κ} {addresses : List ℕ} {values : List α}
    (hlen : addresses.length = values.length) (hcells : p.cells <+: p'.cells)
    (hmarks : marks <+: marks')
    (hat : ∀ i a, addresses[i]? = some a →
      p.value? a = values[i]? ∧ marks[a]? = some (Mark.remembered n k i)) :
    ∀ i a, addresses[i]? = some a →
      p'.value? a = values[i]? ∧ marks'[a]? = some (Mark.remembered n k i) := by
  intro i a ha
  obtain ⟨hvalue, hmark⟩ := hat i a ha
  have hi : i < values.length := by
    rw [← hlen]
    exact (List.getElem?_eq_some_iff.mp ha).1
  refine ⟨?_, getElem?_extends hmarks hmark⟩
  rw [List.getElem?_eq_getElem hi] at hvalue ⊢
  exact value?_extends hcells hvalue

/-- A mark that is used is not used again. -/
theorem Marked.eq_of_mark (h : Marked find n marks p) {a b : ℕ} {mark : Mark κ}
    (ha : marks[a]? = some mark) (hb : marks[b]? = some mark) : a = b := by
  obtain ⟨hla, hna⟩ := List.getElem?_eq_some_iff.mp ha
  obtain ⟨hlb, hnb⟩ := List.getElem?_eq_some_iff.mp hb
  exact (List.Nodup.getElem_inj_iff h.nodup).mp (hna.trans hnb.symm)

theorem Grows.refl (h : Marked find n marks p) : Grows find n blank marks p marks p where
  cells := List.prefix_rfl
  marks := List.prefix_rfl
  isOpen := rfl
  marked := h
  blank := by
    intro a m k i ha hmark
    have hlt : a < marks.length := (List.getElem?_eq_some_iff.mp hmark).1
    rw [h.length] at hlt
    omega

/-- Steps add up to runs. -/
theorem Grows.trans {p'' : Pool κ α ω} (h : Grows find n blank marks p marks' p')
    (h' : Grows find n blank marks' p' marks'' p'') : Grows find n blank marks p marks'' p'' where
  cells := h.cells.trans h'.cells
  marks := h.marks.trans h'.marks
  isOpen := h'.isOpen.trans h.isOpen
  marked := h'.marked
  blank := by
    intro a m k i ha hmark
    by_cases hlt : a < p'.cells.length
    · have hlt' : a < marks'.length := by rw [h.marked.length]; exact hlt
      have hold : marks'[a]? = some (Mark.remembered m k i) := by
        obtain ⟨rest, hrest⟩ := h'.marks
        rw [← hrest, List.getElem?_append_left hlt'] at hmark
        exact hmark
      rw [label?_extends h'.cells hlt]
      exact h.blank a m k i ha hold
    · exact h'.blank a m k i (by omega) hmark

/-! ## Making -/

/-- The marks of objects made for whoever asked -/
def freshMarks (start count : ℕ) : List (Mark κ) := (List.range' start count).map .fresh

/-- An address that is not in use has no mark yet. -/
theorem Marked.fresh_notMem (h : Marked find n marks p) {a : ℕ} (ha : p.cells.length ≤ a) :
    Mark.fresh a ∉ marks := by
  intro hmem
  obtain ⟨b, hb⟩ := List.getElem?_of_mem hmem
  have hba : a = b := h.fresh b a hb
  have hlt : b < marks.length := (List.getElem?_eq_some_iff.mp hb).1
  rw [h.length] at hlt
  omega

theorem getElem?_append_freshMarks {a start count : ℕ} {mark : Mark κ}
    (hstart : marks.length = start) (ha : start ≤ a)
    (hmark : (marks ++ freshMarks start count)[a]? = some mark) :
    mark = .fresh a ∧ a < start + count := by
  rw [List.getElem?_append_right (by omega), hstart, freshMarks, List.getElem?_map] at hmark
  obtain ⟨b, hb, rfl⟩ := Option.map_eq_some_iff.mp hmark
  obtain ⟨hlt, rfl⟩ := List.getElem?_eq_some_iff.mp hb
  rw [List.length_range'] at hlt
  rw [List.getElem_range']
  exact ⟨by congr 1; omega, by omega⟩

/-- New objects get marks of their own. -/
theorem nodup_append_freshMarks (h : Marked find n marks p) (count : ℕ) :
    (marks ++ freshMarks p.cells.length count).Nodup := by
  have hfresh : (freshMarks p.cells.length count : List (Mark κ)).Nodup := by
    apply List.Nodup.map
    · intro a b hab
      exact Mark.fresh.inj hab
    · exact List.nodup_range'
  refine List.Nodup.append h.nodup hfresh ?_
  intro mark hmem hmem'
  obtain ⟨a, ha, rfl⟩ := List.mem_map.mp hmem'
  exact h.fresh_notMem (List.mem_range'_1.mp ha).1 hmem

theorem mem_of_mem_append_freshMarks {m start count : ℕ} {k : κ} {i : ℕ}
    (hmem : Mark.remembered m k i ∈ marks ++ freshMarks start count) :
    Mark.remembered m k i ∈ marks := by
  obtain hmem | hmem := List.mem_append.mp hmem
  · exact hmem
  · obtain ⟨a, -, ha⟩ := List.mem_map.mp hmem
    cases ha

/-- What is made for whoever asked is not remembered. -/
theorem Marked.grows_fresh (blank : ω) (h : Marked find n marks p) (cells : List (Cell α ω)) :
    Grows find n blank marks p (marks ++ freshMarks p.cells.length cells.length)
      { p with cells := p.cells ++ cells } where
  cells := List.prefix_append _ _
  marks := List.prefix_append _ _
  isOpen := rfl
  marked :=
    { length := by simp [h.length, freshMarks]
      nodup := nodup_append_freshMarks h _
      fresh := by
        intro a b hmark
        by_cases ha : a < p.cells.length
        · have hlt : a < marks.length := by rw [h.length]; exact ha
          rw [List.getElem?_append_left hlt] at hmark
          exact h.fresh a b hmark
        · obtain ⟨hmark, -⟩ := getElem?_append_freshMarks h.length (by omega) hmark
          exact Mark.fresh.inj hmark
      older := fun m k i hmem => h.older m k i (mem_of_mem_append_freshMarks hmem)
      known := fun table htable k i hmem =>
        h.known table htable k i (mem_of_mem_append_freshMarks hmem)
      found := by
        intro table htable k addresses haddresses
        obtain ⟨values, hfind, hlen, hat⟩ := h.found table htable k addresses haddresses
        exact ⟨values, hfind, hlen,
          found_extends hlen (List.prefix_append _ _) (List.prefix_append _ _) hat⟩ }
  blank := by
    intro a m k i ha hmark
    have hfresh := (getElem?_append_freshMarks h.length ha hmark).1
    cases hfresh

/-- One object is made: it is new, and has its value and its label. -/
theorem makeOne_grows (blank : ω) (h : Marked find n marks p) (cell : Cell α ω) :
    Grows find n blank marks p (marks ++ [Mark.fresh p.cells.length]) (makeOne cell p).2 ∧
      (makeOne cell p).2.cells[p.cells.length]? = some cell := by
  constructor
  · exact h.grows_fresh blank [cell]
  · rw [makeOne, List.getElem?_append_right (le_refl _)]
    simp

/-! ## Tables -/

/-- Opening the table again does not forget what it has; only a new table gets a number. -/
theorem Marked.openTable (h : Marked find n marks p) :
    ∃ n', (if p.table.isSome then n' = n else n' = n + 1) ∧
      Marked find n' marks (openTable p) := by
  cases htable : p.table with
  | some table =>
    refine ⟨n, by simp, ?_⟩
    simp only [ObjectPool.openTable, htable]
    exact h
  | none =>
    refine ⟨n + 1, by simp, ?_⟩
    simp only [ObjectPool.openTable, htable]
    exact
      { length := h.length
        nodup := h.nodup
        fresh := h.fresh
        older := fun m k i hmem => (h.older m k i hmem).trans (Nat.le_succ n)
        known := by
          intro table htable k i hmem
          have hle := h.older _ _ _ hmem
          omega
        found := by
          intro table htable k addresses haddresses
          cases htable
          cases haddresses }

/-- Without the table the objects stay, and keep their marks. -/
theorem Marked.closeTable (h : Marked find n marks p) : Marked find n marks (closeTable p) where
  length := h.length
  nodup := h.nodup
  fresh := h.fresh
  older := h.older
  known := fun _ htable => by cases htable
  found := fun _ htable => by cases htable

/-! ## Labels -/

/-- Labels are not part of the values. -/
theorem value?_relabel (label : ω) (addresses : List ℕ) (p : Pool κ α ω) (a : ℕ) :
    (relabel label addresses p).value? a = p.value? a := by
  simp only [Pool.value?, relabel, List.getElem?_mapIdx, Option.map_map]
  congr 1
  funext cell
  simp only [Function.comp_apply]
  split_ifs <;> rfl

/-- The objects at the addresses get the label, the others keep theirs. -/
theorem label?_relabel (label : ω) (addresses : List ℕ) (p : Pool κ α ω) (a : ℕ) :
    (relabel label addresses p).label? a =
      (p.label? a).map fun old => if a ∈ addresses then label else old := by
  simp only [Pool.label?, relabel, List.getElem?_mapIdx, Option.map_map]
  congr 1
  funext cell
  simp only [Function.comp_apply]
  split_ifs <;> rfl

@[simp] theorem length_relabel (label : ω) (addresses : List ℕ) (p : Pool κ α ω) :
    (relabel label addresses p).cells.length = p.cells.length := List.length_mapIdx

theorem Marked.relabel (h : Marked find n marks p) (label : ω) (addresses : List ℕ) :
    Marked find n marks (relabel label addresses p) where
  length := by rw [h.length, length_relabel]
  nodup := h.nodup
  fresh := h.fresh
  older := h.older
  known := h.known
  found := by
    intro table htable k addresses' haddresses
    obtain ⟨values, hfind, hlen, hat⟩ := h.found table htable k addresses' haddresses
    refine ⟨values, hfind, hlen, fun i a ha => ?_⟩
    rw [value?_relabel]
    exact hat i a ha

/-! ## Fetching -/

/-- The marks of the objects of a key in a table -/
def rememberedMarks (n : ℕ) (k : κ) (count : ℕ) : List (Mark κ) :=
  (List.range count).map (.remembered n k)

/-- What is handed out for a key: the objects of what is found, remembered if the table is open,
and new if it is not. -/
structure Fetched (n : ℕ) (blank : ω) (p : Pool κ α ω) (k : κ) (values : List α)
    (addresses : List ℕ) (marks' : List (Mark κ)) (p' : Pool κ α ω) : Prop where
  /-- one for each value -/
  length : addresses.length = values.length
  /-- with the value -/
  value : ∀ (i a : ℕ), addresses[i]? = some a → p'.value? a = values[i]?
  /-- remembered if the table is open -/
  remembered : p.table.isSome → ∀ i a, addresses[i]? = some a →
    marks'[a]? = some (Mark.remembered n k i)
  /-- new if it is not -/
  fresh : ¬ p.table.isSome → ∀ a ∈ addresses,
    p.cells.length ≤ a ∧ marks'[a]? = some (Mark.fresh a) ∧ p'.label? a = some blank

theorem getElem?_append_rememberedMarks {a start count : ℕ} {k : κ} {mark : Mark κ}
    (hstart : marks.length = start) (ha : start ≤ a)
    (hmark : (marks ++ rememberedMarks n k count)[a]? = some mark) :
    mark = .remembered n k (a - start) ∧ a < start + count := by
  rw [List.getElem?_append_right (by omega), hstart, rememberedMarks, List.getElem?_map] at hmark
  obtain ⟨b, hb, rfl⟩ := Option.map_eq_some_iff.mp hmark
  obtain ⟨hlt, rfl⟩ := List.getElem?_eq_some_iff.mp hb
  rw [List.length_range] at hlt
  rw [List.getElem_range]
  exact ⟨rfl, by omega⟩

theorem rememberedMarks_at {start count i : ℕ} {k : κ} (hstart : marks.length = start)
    (hi : i < count) :
    (marks ++ rememberedMarks n k count)[start + i]? = some (Mark.remembered n k i) := by
  rw [List.getElem?_append_right (by omega), hstart, Nat.add_sub_cancel_left, rememberedMarks,
    List.getElem?_map, List.getElem?_range hi]
  rfl

theorem freshMarks_at {start count i : ℕ} (hstart : marks.length = start) (hi : i < count) :
    (marks ++ freshMarks start count)[start + i]? = some (Mark.fresh (start + i)) := by
  rw [List.getElem?_append_right (by omega), hstart, Nat.add_sub_cancel_left, freshMarks,
    List.getElem?_map, List.getElem?_range' hi, Nat.one_mul]
  rfl

theorem nodup_append_rememberedMarks (h : Marked find n marks p) {k : κ}
    (hk : ∀ i, Mark.remembered n k i ∉ marks) (count : ℕ) :
    (marks ++ rememberedMarks n k count).Nodup := by
  have hnew : (rememberedMarks n k count).Nodup := by
    apply List.Nodup.map
    · intro i j hij
      exact (Mark.remembered.inj hij).2.2
    · exact List.nodup_range
  refine List.Nodup.append h.nodup hnew ?_
  intro mark hmem hmem'
  obtain ⟨i, -, rfl⟩ := List.mem_map.mp hmem'
  exact hk i hmem

/-- Where the new objects are -/
theorem new_cell (p : Pool κ α ω) (blank : ω) {values : List α} {i a : ℕ}
    (ha : (List.range' p.cells.length values.length)[i]? = some a) :
    a = p.cells.length + i ∧ i < values.length ∧
      (p.cells ++ values.map fun value => ⟨value, blank⟩)[a]? =
        values[i]?.map (⟨·, blank⟩) := by
  obtain ⟨hi, rfl⟩ := List.getElem?_eq_some_iff.mp ha
  rw [List.length_range'] at hi
  rw [List.getElem_range', Nat.one_mul, List.getElem?_append_right (by omega),
    Nat.add_sub_cancel_left, List.getElem?_map]
  exact ⟨rfl, hi, rfl⟩

theorem value?_new (p : Pool κ α ω) (blank : ω) {table : Option (κ → Option (List ℕ))}
    {values : List α} {i a : ℕ}
    (ha : (List.range' p.cells.length values.length)[i]? = some a) :
    (⟨p.cells ++ values.map fun value => ⟨value, blank⟩, table⟩ : Pool κ α ω).value? a =
      values[i]? := by
  rw [Pool.value?, (new_cell p blank ha).2.2, Option.map_map]
  exact congrFun Option.map_id_fun' _

section Fetch
variable [DecidableEq κ]

/-- The objects of a key that is not in the table are remembered. -/
theorem Marked.grows_remembered (h : Marked find n marks p) {table : κ → Option (List ℕ)}
    (htable : p.table = some table) {k : κ} (hk : table k = none) {values : List α}
    (hfind : find k = some values) :
    Grows find n blank marks p (marks ++ rememberedMarks n k values.length)
      { cells := p.cells ++ values.map fun value => ⟨value, blank⟩
        table := some (Function.update table k
          (some (List.range' p.cells.length values.length))) } := by
  -- the key was not in the table, so nothing is marked with it
  have hnew : ∀ i, Mark.remembered n k i ∉ marks := fun i hmem => h.known table htable k i hmem hk
  exact
    { cells := List.prefix_append _ _
      marks := List.prefix_append _ _
      isOpen := by rw [htable]; rfl
      marked :=
        { length := by simp [h.length, rememberedMarks]
          nodup := nodup_append_rememberedMarks h hnew _
          fresh := by
            intro a b hmark
            by_cases ha : a < p.cells.length
            · have hlt : a < marks.length := by rw [h.length]; exact ha
              rw [List.getElem?_append_left hlt] at hmark
              exact h.fresh a b hmark
            · -- the new marks are not of this kind
              have hcase := (getElem?_append_rememberedMarks h.length (by omega) hmark).1
              cases hcase
          older := by
            intro m k' i hmem
            obtain hmem | hmem := List.mem_append.mp hmem
            · exact h.older m k' i hmem
            · obtain ⟨j, -, hj⟩ := List.mem_map.mp hmem
              cases hj
              exact le_refl n
          known := by
            intro table' htable' k' i hmem
            cases htable'
            -- the new key, or one that the table had
            by_cases hkk : k' = k
            · subst hkk
              rw [Function.update_self]
              exact Option.some_ne_none _
            · rw [Function.update_of_ne hkk]
              obtain hmem | hmem := List.mem_append.mp hmem
              · exact h.known table htable k' i hmem
              · obtain ⟨j, -, hj⟩ := List.mem_map.mp hmem
                cases hj
                exact absurd rfl hkk
          found := by
            intro table' htable' k' addresses haddresses
            cases htable'
            by_cases hkk : k' = k
            · subst hkk
              rw [Function.update_self] at haddresses
              cases haddresses
              refine ⟨values, hfind, List.length_range', fun i a ha => ⟨value?_new p blank ha, ?_⟩⟩
              obtain ⟨rfl, hi, -⟩ := new_cell p blank ha
              exact rememberedMarks_at h.length hi
            · rw [Function.update_of_ne hkk] at haddresses
              obtain ⟨values', hfind', hlen, hat⟩ := h.found table htable k' addresses haddresses
              exact ⟨values', hfind', hlen,
                found_extends hlen (List.prefix_append _ _) (List.prefix_append _ _) hat⟩ }
      blank := by
        intro a m k' i ha hmark
        obtain ⟨-, hlt⟩ := getElem?_append_rememberedMarks h.length ha hmark
        have hi : a - p.cells.length < values.length := by omega
        rw [Pool.label?, List.getElem?_append_right ha, List.getElem?_map,
          List.getElem?_eq_getElem hi]
        rfl }

end Fetch

/-- The objects of a key in the table are handed out again. -/
theorem Marked.fetched_known (h : Marked find n marks p) {table : κ → Option (List ℕ)}
    (htable : p.table = some table) {k : κ} {addresses : List ℕ} (hk : table k = some addresses) :
    ∃ values, find k = some values ∧ Fetched n blank p k values addresses marks p := by
  obtain ⟨values, hfind, hlen, hat⟩ := h.found table htable k addresses hk
  refine ⟨values, hfind, hlen, fun i a ha => (hat i a ha).1, fun _ i a ha => (hat i a ha).2, ?_⟩
  intro hclosed
  exact absurd (by rw [htable]; rfl) hclosed

/-- Objects that are made while the table is open are remembered. -/
theorem Marked.fetched_remembered (blank : ω) (h : Marked find n marks p)
    (hopen : p.table.isSome) {table : Option (κ → Option (List ℕ))} {k : κ} (values : List α) :
    Fetched n blank p k values (List.range' p.cells.length values.length)
      (marks ++ rememberedMarks n k values.length)
      ⟨p.cells ++ values.map fun value => ⟨value, blank⟩, table⟩ where
  length := List.length_range'
  value := fun _ _ ha => value?_new p blank ha
  remembered := by
    intro _ i a ha
    obtain ⟨rfl, hi, -⟩ := new_cell p blank ha
    exact rememberedMarks_at h.length hi
  fresh := fun hclosed => absurd hopen hclosed

/-- Objects that are made while the table is closed are for whoever asked. -/
theorem Marked.fetched_fresh (blank : ω) (h : Marked find n marks p)
    (hclosed : ¬ p.table.isSome) {k : κ} (values : List α) :
    Fetched n blank p k values (List.range' p.cells.length values.length)
      (marks ++ freshMarks p.cells.length values.length)
      ⟨p.cells ++ values.map fun value => ⟨value, blank⟩, none⟩ where
  length := List.length_range'
  value := fun _ _ ha => value?_new p blank ha
  remembered := fun hopen => absurd hopen hclosed
  fresh := by
    intro _ a ha
    obtain ⟨i, hi⟩ := List.getElem?_of_mem ha
    obtain ⟨rfl, hlt, hcell⟩ := new_cell p blank hi
    refine ⟨by omega, freshMarks_at h.length hlt, ?_⟩
    rw [Pool.label?, hcell, List.getElem?_eq_getElem hlt]
    rfl

section Fetch
variable [DecidableEq κ]

/-- Fetching hands out the objects of what is found. -/
theorem fetch_grows (blank : ω) (h : Marked find n marks p) (k : κ) :
    ∃ marks', Grows find n blank marks p marks' (fetch blank k (find k) p).2 ∧
      match (fetch blank k (find k) p).1 with
      | none => find k = none
      | some addresses => ∃ values, find k = some values ∧
          Fetched n blank p k values addresses marks' (fetch blank k (find k) p).2 := by
  cases hhit : p.table.bind (· k) with
  | some addresses =>
    obtain ⟨table, htable, hk⟩ := Option.bind_eq_some_iff.mp hhit
    simp only [fetch, hhit]
    exact ⟨marks, Grows.refl h, h.fetched_known htable hk⟩
  | none =>
    cases hfind : find k with
    | none =>
      simp only [fetch, hhit]
      exact ⟨marks, Grows.refl h, trivial⟩
    | some values =>
      simp only [fetch, hhit, make, List.length_map]
      cases htable : p.table with
      | some table =>
        have hk : table k = none := by simpa [htable] using hhit
        have hopen : p.table.isSome = true := by rw [htable]; rfl
        exact ⟨_, h.grows_remembered htable hk hfind, values, rfl,
          h.fetched_remembered blank hopen values⟩
      | none =>
        have hclosed : ¬ p.table.isSome = true := by rw [htable]; exact Bool.false_ne_true
        have hgrows := h.grows_fresh blank
          (values.map fun value => (⟨value, blank⟩ : Cell α ω))
        rw [List.length_map, htable] at hgrows
        exact ⟨_, hgrows, values, rfl, h.fetched_fresh blank hclosed values⟩

end Fetch

end ObjectPool
