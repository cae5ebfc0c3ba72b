import ConfigdExtra.ResolvConf

/-!
# The sort list of `/var/run/resolv.conf`

A pair of an address and a mask is written as the bare address if the mask is the natural one.

* `pairText`, `readSortLine` — how a pair should be written, and how the line is read back.
* `SortListFaithful` — the line is written so, and tells the pairs.
* `sortListFaithful_iff` — it does so for those lists that have no address of class E.
-/

namespace ConfigdExtra

/-! ## Addresses in host order -/

namespace InAddr

/-- The address with this number in host order. -/
def ofHostOrder (v : UInt32) : InAddr :=
  ⟨(v >>> 24).toUInt8, (v >>> 16).toUInt8, (v >>> 8).toUInt8, v.toUInt8⟩

/-- The octets, the first one the most significant. -/
theorem toNat_hostOrder (addr : InAddr) : addr.hostOrder.toNat =
    ((addr.a.toNat * 256 + addr.b.toNat) * 256 + addr.c.toNat) * 256 + addr.d.toNat := by
  have ha := addr.a.toNat_lt
  have hb := addr.b.toNat_lt
  have hc := addr.c.toNat_lt
  have hd := addr.d.toNat_lt
  have hor : addr.hostOrder.toNat =
      addr.a.toNat <<< 24 ||| addr.b.toNat <<< 16 ||| addr.c.toNat <<< 8 ||| addr.d.toNat := by
    have hmod : ∀ n s : ℕ, n < 2 ^ 8 → s ≤ 24 → n <<< s % 2 ^ 32 = n <<< s := by
      intro n s hn hs
      rw [Nat.shiftLeft_eq]
      have hpow : 2 ^ s ≤ 2 ^ 24 := Nat.pow_le_pow_right (by decide) hs
      have hle := Nat.mul_le_mul (Nat.le_sub_one_of_lt hn) hpow
      exact Nat.mod_eq_of_lt (by omega)
    simp only [hostOrder, UInt32.toNat_or, UInt32.toNat_shiftLeft, UInt8.toNat_toUInt32,
      UInt32.reduceToNat, Nat.reduceMod]
    rw [hmod _ 24 ha (by decide), hmod _ 16 hb (by decide), hmod _ 8 hc (by decide)]
  -- the octets do not overlap
  rw [hor, Nat.or_assoc, Nat.or_assoc, ← Nat.shiftLeft_add_eq_or_of_lt (i := 8) hd,
    ← Nat.shiftLeft_add_eq_or_of_lt (i := 16) (by omega),
    ← Nat.shiftLeft_add_eq_or_of_lt (i := 24) (by omega)]
  simp only [Nat.shiftLeft_eq]
  omega

theorem ofHostOrder_hostOrder (addr : InAddr) : ofHostOrder addr.hostOrder = addr := by
  rcases addr with ⟨a, b, c, d⟩
  have h := toNat_hostOrder ⟨a, b, c, d⟩
  have ha := a.toNat_lt
  have hb := b.toNat_lt
  have hc := c.toNat_lt
  have hd := d.toNat_lt
  simp only [ofHostOrder, mk.injEq, ← UInt8.toNat_inj, UInt32.toNat_toUInt8,
    UInt32.toNat_shiftRight, Nat.shiftRight_eq_div_pow, h, UInt32.reduceToNat, Nat.reduceMod]
  omega

end InAddr

/-! ## Writing and reading -/

/-- How a pair should be written: the bare address if the mask is the natural one. -/
def pairText (sortaddr : DNSSortAddr) : String :=
  if naturalMask sortaddr.address.hostOrder = some sortaddr.mask.hostOrder then
    sortaddr.address.ntop
  else
    sortaddr.address.ntop ++ "/" ++ sortaddr.mask.ntop

/-- A decimal number below 256. -/
def readOctet (cs : List Char) : Option UInt8 :=
  let n := cs.foldl (fun n c => 10 * n + (c.toNat - '0'.toNat)) 0
  if cs ≠ [] ∧ cs.all Char.isDigit ∧ n < 256 then some (UInt8.ofNat n) else none

/-- Four octets with dots between them. -/
def readAddress (cs : List Char) : Option InAddr :=
  match cs.splitOn '.' with
  | [a, b, c, d] => do
    let a ← readOctet a
    let b ← readOctet b
    let c ← readOctet c
    let d ← readOctet d
    some ⟨a, b, c, d⟩
  | _ => none

/-- An address with its mask, or a bare address with the natural mask of its class. -/
def readPair (cs : List Char) : Option DNSSortAddr :=
  match cs.splitOn '/' with
  | [address] => do
    let address ← readAddress address
    let mask ← naturalMask address.hostOrder
    some ⟨address, .ofHostOrder mask⟩
  | [address, mask] => do
    let address ← readAddress address
    let mask ← readAddress mask
    some ⟨address, mask⟩
  | _ => none

/-- The pairs of a line: what follows the keyword, up to the newline. -/
def readSortLine (line : String) : Option (List DNSSortAddr) :=
  ((line.toList.dropLast.splitOn ' ').tail).mapM readPair

theorem readOctet_toString (n : UInt8) : readOctet (toString n).toList = some n := by
  have hall : ∀ k < 256, readOctet (toString (UInt8.ofNat k)).toList = some (UInt8.ofNat k) := by
    decide +kernel
  have h := hall n.toNat n.toNat_lt
  rwa [UInt8.ofNat_toNat] at h

theorem forall_isDigit_toString (n : UInt8) : ∀ c ∈ (toString n).toList, c.isDigit := by
  have hall : ∀ k < 256, (toString (UInt8.ofNat k)).toList.all Char.isDigit = true := by
    decide +kernel
  have h := hall n.toNat n.toNat_lt
  rw [UInt8.ofNat_toNat] at h
  exact List.all_eq_true.mp h

/-- The characters of an address. -/
theorem ntop_toList (addr : InAddr) : addr.ntop.toList = ['.'].intercalate
    [(toString addr.a).toList, (toString addr.b).toList, (toString addr.c).toList,
      (toString addr.d).toList] := by
  simp [InAddr.ntop]

/-- An address is made of digits and dots. -/
theorem notMem_ntop (addr : InAddr) {c : Char} (hdigit : c.isDigit = false) (hdot : c ≠ '.') :
    c ∉ addr.ntop.toList := by
  have hn : ∀ n : UInt8, c ∉ (toString n).toList := fun n hmem => by
    rw [forall_isDigit_toString n c hmem] at hdigit
    cases hdigit
  rw [ntop_toList]
  simp [hn, hdot]

theorem readAddress_ntop (addr : InAddr) : readAddress addr.ntop.toList = some addr := by
  have hsplit : addr.ntop.toList.splitOn '.' =
      [(toString addr.a).toList, (toString addr.b).toList, (toString addr.c).toList,
        (toString addr.d).toList] := by
    rw [ntop_toList]
    refine List.splitOn_intercalate '.' ?_ (by simp)
    have hn : ∀ n : UInt8, '.' ∉ (toString n).toList := fun n hmem => by
      have hdigit := forall_isDigit_toString n '.' hmem
      revert hdigit
      decide
    simp [hn]
  rw [readAddress, hsplit]
  simp [readOctet_toString]

/-- A pair is read back. -/
theorem readPair_pairText {sortaddr : DNSSortAddr} :
    readPair (pairText sortaddr).toList = some sortaddr := by
  have hslash : ∀ addr : InAddr, '/' ∉ addr.ntop.toList :=
    fun addr => notMem_ntop addr (by decide) (by decide)
  rw [pairText]
  split
  · rename_i hmask
    have hsplit : sortaddr.address.ntop.toList.splitOn '/' = [sortaddr.address.ntop.toList] := by
      have h : (['/'].intercalate [sortaddr.address.ntop.toList]).splitOn '/' =
          [sortaddr.address.ntop.toList] :=
        List.splitOn_intercalate '/' (by simp [hslash]) (by simp)
      rwa [List.intercalate_singleton] at h
    rw [readPair, hsplit]
    simp [readAddress_ntop, hmask, InAddr.ofHostOrder_hostOrder]
  · have hsplit : (sortaddr.address.ntop ++ "/" ++ sortaddr.mask.ntop).toList.splitOn '/' =
        [sortaddr.address.ntop.toList, sortaddr.mask.ntop.toList] := by
      have hjoin : (sortaddr.address.ntop ++ "/" ++ sortaddr.mask.ntop).toList =
          ['/'].intercalate [sortaddr.address.ntop.toList, sortaddr.mask.ntop.toList] := by
        simp
      rw [hjoin]
      exact List.splitOn_intercalate '/' (by simp [hslash]) (by simp)
    rw [readPair, hsplit]
    simp [readAddress_ntop]

theorem space_notMem_pairText {sortaddr : DNSSortAddr} : ' ' ∉ (pairText sortaddr).toList := by
  have hspace : ∀ addr : InAddr, ' ' ∉ addr.ntop.toList :=
    fun addr => notMem_ntop addr (by decide) (by decide)
  rw [pairText]
  split
  · exact hspace _
  · simp [hspace]

/-- A keyword and the words after it. -/
theorem toList_append_spaced (keyword : String) (l : List String) :
    (keyword ++ spaced l).toList = [' '].intercalate (keyword.toList :: l.map String.toList) := by
  induction l generalizing keyword with
  | nil => simp [spaced]
  | cons word l ih =>
    have hrest := ih word
    rw [List.map_cons, List.intercalate_cons_cons, ← hrest]
    simp [spaced, String.join_cons]

theorem mapM_readPair (l : List DNSSortAddr) :
    ((l.map pairText).map String.toList).mapM readPair = some l := by
  induction l with
  | nil => rfl
  | cons sortaddr l ih =>
    rw [List.map_cons, List.map_cons, List.mapM_cons, readPair_pairText, ih]
    rfl

/-- The line is read back. -/
theorem readSortLine_listLine (l : List DNSSortAddr) :
    readSortLine (listLine "sortlist" (l.map pairText)) = some l := by
  by_cases hl : l = []
  · subst hl
    rfl
  have hsplit : ("sortlist" ++ spaced (l.map pairText)).toList.splitOn ' ' =
      "sortlist".toList :: (l.map pairText).map String.toList := by
    rw [toList_append_spaced]
    refine List.splitOn_intercalate ' ' ?_ (by simp)
    rw [List.forall_mem_cons]
    refine ⟨by decide, fun word hword => ?_⟩
    rw [List.map_map, List.mem_map] at hword
    obtain ⟨sortaddr, -, rfl⟩ := hword
    exact space_notMem_pairText
  have hline : (listLine "sortlist" (l.map pairText)).toList.dropLast =
      ("sortlist" ++ spaced (l.map pairText)).toList := by
    rw [listLine, if_neg (by simpa using hl), String.toList_append]
    exact List.dropLast_concat
  rw [readSortLine, hline, hsplit, List.tail_cons, mapM_readPair]

/-! ## Sort lists -/

/-- The sort list is written as it should be, whatever the variable `m` holds, and read back. -/
structure SortListFaithful (l : List DNSSortAddr) : Prop where
  /-- the text for a pair depends on that pair only -/
  text : ∀ m, sortEntries m l = l.map pairText
  /-- the line is read back -/
  reads : ∀ m, readSortLine (listLine "sortlist" (sortEntries m l)) = some l

theorem sortEntries_eq_map {l : List DNSSortAddr}
    (hl : ∀ sortaddr ∈ l, naturalMask sortaddr.address.hostOrder ≠ none) (m : Nat → UInt32) :
    sortEntries m l = l.map pairText := by
  induction l generalizing m with
  | nil => rfl
  | cons sortaddr l ih =>
    obtain ⟨hhead, htail⟩ := List.forall_mem_cons.mp hl
    obtain ⟨mask, hmask⟩ := Option.ne_none_iff_exists'.mp hhead
    have hentry : sortEntry (m 0) sortaddr = pairText sortaddr := by
      simp only [sortEntry, pairText, hmask, Option.getD_some, Option.some.injEq]
      split
      · rename_i hne
        rw [if_neg fun h => hne h.symm]
      · rename_i heq
        rw [if_pos (not_not.mp heq).symm]
    rw [sortEntries, hentry, ih htail, List.map_cons]

/-- **Sort lists.** A sort list is written faithfully if and only if it has no address of
class E. -/
theorem sortListFaithful_iff (l : List DNSSortAddr) :
    SortListFaithful l ↔ ∀ sortaddr ∈ l, naturalMask sortaddr.address.hostOrder ≠ none := by
  constructor
  · intro h sortaddr hmem hclass
    obtain ⟨m, m', hne⟩ := exists_spaced_ne ⟨sortaddr, hmem, hclass⟩
    exact hne (by rw [h.text m, h.text m'])
  · intro hl
    have htext := sortEntries_eq_map hl
    exact ⟨htext, fun m => by rw [htext m, readSortLine_listLine]⟩

/-- The mask of an address of class E is not written if the variable happens to hold it. -/
theorem classE_not_sortListFaithful :
    ¬ ∀ l : List DNSSortAddr, SortListFaithful l := by
  intro h
  have htext := (h [⟨⟨240, 0, 0, 1⟩, ⟨255, 0, 0, 0⟩⟩]).text fun _ => 0xff000000
  revert htext
  decide

end ConfigdExtra
