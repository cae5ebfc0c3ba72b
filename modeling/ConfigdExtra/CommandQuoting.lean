import ConfigdExtra.CommandSafety

/-!
# Quoted arguments

A list of arguments can be written as a line that `process_line` splits into the same list: each
argument in quotes, with a backslash before each quote of its own.

* `Argument`, `quoteWord`, `quoteLine` — arguments, and how they are written.
* `Found.of_quoteWord` — a word in quotes is scanned up to its quote.
* `split_ofArguments` — the line splits into the arguments.
-/

namespace ConfigdExtra

/-! ## Words in quotes -/

/-- An argument that can be written in quotes. -/
structure Argument where
  /-- the argument -/
  text : List Char
  /-- it ends where its string does -/
  nul_not_mem : '\x00' ∉ text
  /-- it is on one line -/
  newline_not_mem : '\n' ∉ text
  /-- it escapes nothing -/
  backslash_not_mem : '\\' ∉ text

/-- A backslash before each quote. -/
def escapeQuotes (word : List Char) : List Char :=
  word.flatMap fun c => if c = '"' then ['\\', '"'] else [c]

/-- A word in quotes. -/
def quoteWord (word : List Char) : List Char := '"' :: (escapeQuotes word ++ ['"'])

/-- Words in quotes, with a space between one and the next. -/
def quoteLine (words : List (List Char)) : List Char :=
  List.intercalate [' '] (words.map quoteWord)

example : quoteLine [[], ['a', '"']] = ['"', '"', ' ', '"', 'a', '\\', '"', '"'] := by decide

/-- What follows the first word of a line. -/
def quoteTail (words : List (List Char)) : List Char :=
  words.flatMap fun word => ' ' :: quoteWord word

theorem quoteLine_cons (word : List Char) (words : List (List Char)) :
    quoteLine (word :: words) = quoteWord word ++ quoteTail words := by
  induction words generalizing word with
  | nil => rw [quoteLine, List.map_singleton, List.intercalate_singleton, quoteTail,
      List.flatMap_nil, List.append_nil]
  | cons next words ih =>
    have hnext := ih next
    rw [quoteLine, List.map_cons] at hnext
    rw [quoteLine, List.map_cons, List.map_cons, List.intercalate_cons_cons, hnext, quoteTail,
      quoteTail, List.flatMap_cons, List.append_assoc]
    rfl

section Word

variable {word : List Char}

theorem escapeQuotes_cons (c : Char) (word : List Char) :
    escapeQuotes (c :: word) = (if c = '"' then ['\\', '"'] else [c]) ++ escapeQuotes word :=
  List.flatMap_cons

theorem mem_escapeQuotes {c : Char} (h : c ∈ escapeQuotes word) : c ∈ word ∨ c = '\\' := by
  obtain ⟨b, hb, hc⟩ := List.mem_flatMap.mp h
  by_cases hquote : b = '"'
  · obtain rfl := hquote
    rw [if_pos rfl, List.mem_pair] at hc
    obtain rfl | rfl := hc
    · exact .inr rfl
    · exact .inl hb
  · rw [if_neg hquote, List.mem_singleton] at hc
    exact .inl (hc ▸ hb)

/-- The first pass stops at the quote that closes the word. -/
theorem scanString_escapeQuotes (hnul : '\x00' ∉ word) (hback : '\\' ∉ word) (rest : List Char) :
    scanString true (escapeQuotes word ++ '"' :: rest) = (escapeQuotes word, '"' :: rest) := by
  induction word with
  | nil => rw [scanString.eq_def]; rfl
  | cons c word ih =>
    rw [List.mem_cons, not_or] at hnul hback
    have hscan := ih hnul.2 hback.2
    rw [escapeQuotes_cons]
    by_cases hquote : c = '"'
    · rw [if_pos hquote, List.append_assoc, List.cons_append, List.singleton_append,
        scanString.eq_def]
      simp only [hscan]
      rfl
    · rw [if_neg hquote, List.append_assoc, List.singleton_append, scanString.eq_def]
      have hc : c ≠ '\x00' := Ne.symm hnul.1
      have hc' : c ≠ '\\' := Ne.symm hback.1
      simp only [hc, hc', hscan, if_false, beq_iff_eq, hquote, Bool.true_and, Bool.not_true,
        Bool.false_and, Bool.false_eq_true]
      rfl

/-- The second pass leaves the word. -/
theorem unescape_escapeQuotes (hback : '\\' ∉ word) (after : Option Char) :
    unescape after (escapeQuotes word) = word := by
  induction word with
  | nil => rfl
  | cons c word ih =>
    rw [List.mem_cons, not_or] at hback
    have hword := ih hback.2
    rw [escapeQuotes_cons]
    by_cases hquote : c = '"'
    · rw [if_pos hquote, List.cons_append, List.singleton_append, unescape, if_pos ⟨rfl, rfl⟩,
        unescape, if_neg fun hand => absurd hand.1 (by decide), hword, hquote]
    · rw [if_neg hquote, List.singleton_append, unescape, if_neg fun hand => hback.1 hand.1.symm,
        hword]

end Word

/-! ## The line -/

theorem nul_not_mem_quoteWord (arg : Argument) : '\x00' ∉ quoteWord arg.text := by
  intro hmem
  rw [quoteWord, List.mem_cons, List.mem_append, List.mem_singleton] at hmem
  obtain hquote | hword | hquote := hmem
  · cases hquote
  · obtain harg | hback := mem_escapeQuotes hword
    · exact arg.nul_not_mem harg
    · cases hback
  · cases hquote

theorem nul_not_mem_quoteTail (args : List Argument) :
    '\x00' ∉ quoteTail (args.map (·.text)) := by
  intro hmem
  obtain ⟨word, hword, hc⟩ := List.mem_flatMap.mp hmem
  obtain ⟨arg, -, rfl⟩ := List.mem_map.mp hword
  obtain hspace | hquote := List.mem_cons.mp hc
  · cases hspace
  · exact nul_not_mem_quoteWord arg hquote

namespace LineBuffer

/-- The line of a list of arguments. -/
def ofArguments (args : List Argument) : LineBuffer where
  text := quoteLine (args.map (·.text))
  nul_not_mem := by
    cases args with
    | nil => exact List.not_mem_nil
    | cons arg args =>
      rw [List.map_cons, quoteLine_cons, List.mem_append, not_or]
      exact ⟨nul_not_mem_quoteWord arg, nul_not_mem_quoteTail args⟩

theorem bytes_ofArguments (arg : Argument) (args : List Argument) :
    (ofArguments (arg :: args)).bytes =
      quoteWord arg.text ++ (quoteTail (args.map (·.text)) ++ ['\x00']) := by
  have htext : (ofArguments (arg :: args)).text =
      quoteWord arg.text ++ quoteTail (args.map (·.text)) := quoteLine_cons _ _
  rw [bytes, htext, List.append_assoc]

variable {l : LineBuffer} {p : ℕ}

theorem le_nul_of_drop {c : Char} {cs : List Char} (h : l.bytes.drop p = c :: cs) :
    p ≤ l.nul := by
  have hlt := lt_of_read (read_of_drop h)
  rw [length_bytes] at hlt
  omega

/-- A call on a word in quotes returns the word, and leaves the cursor behind it. -/
theorem getStringAt_quoteWord (arg : Argument) {rest : List Char}
    (h : (l.bytes.drop p).dropWhile isSpace = quoteWord arg.text ++ rest) (hp : p ≤ l.nul) :
    ∃ q, getStringAt l p = some { string := some arg.text, line := q } ∧
      l.bytes.drop q = rest := by
  obtain ⟨scan, tok, d, ds, hfound, hquoted, hdrop⟩ :=
    exists_found_of_line hp (h.trans List.cons_append) (by decide)
  have hscan := hfound.scanString_eq
  rw [hquoted, hdrop, List.append_assoc, List.singleton_append, beq_self_eq_true, if_pos rfl,
    scanString_escapeQuotes arg.nul_not_mem arg.backslash_not_mem] at hscan
  obtain ⟨rfl, hds⟩ := Prod.mk.inj hscan
  obtain ⟨rfl, rfl⟩ := List.cons.inj hds
  refine ⟨scan.e + 1, ?_, drop_succ_of_drop hfound.drop_e⟩
  rw [hfound.getStringAt_eq, hquoted, beq_self_eq_true, if_pos rfl,
    unescape_escapeQuotes arg.backslash_not_mem]

/-- Behind a word, the loop ends with the words that follow. -/
theorem split_quoteTail (args : List Argument) :
    ∀ p, l.bytes.drop p = quoteTail (args.map (·.text)) ++ ['\x00'] →
      l.Split p (args.map (·.text)) := by
  induction args with
  | nil =>
    intro p h
    have hnone : getString (l.bytes.drop p) = none := by rw [h]; rfl
    have hcall := getStringAt_eq (le_nul_of_drop h)
    rw [hnone] at hcall
    exact .done hcall
  | cons arg args ih =>
    intro p h
    rw [List.map_cons, quoteTail, List.flatMap_cons, List.append_assoc, List.cons_append] at h
    have hline : (l.bytes.drop p).dropWhile isSpace =
        quoteWord arg.text ++ (quoteTail (args.map (·.text)) ++ ['\x00']) := by
      rw [h]
      rfl
    obtain ⟨q, hcall, hq⟩ := getStringAt_quoteWord arg hline (le_nul_of_drop h)
    exact .next hcall (ih q hq)

/-- A loop that ends has one result. -/
theorem Split.unique {argv argv' : List (List Char)} (h : l.Split p argv) (h' : l.Split p argv') :
    argv = argv' := by
  induction h generalizing argv' with
  | done hcall =>
    cases h' with
    | done => rfl
    | next hcall' =>
      rw [hcall] at hcall'
      cases hcall'
  | next hcall hsplit ih =>
    cases h' with
    | done hcall' =>
      rw [hcall] at hcall'
      cases hcall'
    | next hcall' hsplit' =>
      rw [hcall] at hcall'
      cases hcall'
      exact congrArg _ (ih hsplit')

/-- No call of a loop that ends faults. -/
theorem Split.of_called {argv : List (List Char)} (h : l.Split 0 argv) (hp : l.Called p) :
    ∃ argv', l.Split p argv' := by
  induction hp with
  | start => exact ⟨argv, h⟩
  | next _ hcall ih =>
    obtain ⟨argv', hsplit⟩ := ih
    cases hsplit with
    | done hcall' =>
      rw [hcall] at hcall'
      cases hcall'
    | next hcall' hsplit' =>
      rw [hcall] at hcall'
      cases hcall'
      exact ⟨_, hsplit'⟩

/-- **The round trip.** The line of a list of arguments splits into that list and nothing else,
and no call on it faults: every read is in the line and every write in its block. -/
theorem split_ofArguments (args : List Argument) :
    (∀ argv, (ofArguments args).Split 0 argv ↔ argv = args.map (·.text)) ∧
      ∀ p, (ofArguments args).Called p → (getStringAt (ofArguments args) p).isSome := by
  have hsplit : (ofArguments args).Split 0 (args.map (·.text)) := by
    cases args with
    | nil => exact split_quoteTail [] 0 rfl
    | cons arg args =>
      have hline : ((ofArguments (arg :: args)).bytes.drop 0).dropWhile isSpace =
          quoteWord arg.text ++ (quoteTail (args.map (·.text)) ++ ['\x00']) := by
        rw [List.drop_zero, bytes_ofArguments]
        rfl
      obtain ⟨q, hcall, hq⟩ := getStringAt_quoteWord arg hline (Nat.zero_le _)
      exact .next hcall (split_quoteTail args q hq)
  refine ⟨fun argv => ⟨fun h => h.unique hsplit, fun h => h ▸ hsplit⟩, fun p hp => ?_⟩
  obtain ⟨argv, h⟩ := hsplit.of_called hp
  cases h with
  | done hcall =>
    rw [hcall]
    rfl
  | next hcall =>
    rw [hcall]
    rfl

end LineBuffer

end ConfigdExtra
