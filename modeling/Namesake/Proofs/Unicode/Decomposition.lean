import Mathlib.Data.List.Chain
import Namesake.Unicode.Composition

/-!
# What a full decomposition is

A decomposition is full: no character of it decomposes any further. And it undoes composition: the
decomposition of a composite is that of its first character with the second one behind it. Both are
facts about the tables, which are looked through once for each; a search tree makes that quick.

## Main definitions

* `RowTree` — the rows of a table for binary search
* `fullForm` — the code points of a full decomposition

## Main results

* `canonical_of_mem` — the characters of a decomposition do not decompose
* `canonical_of_composite` — the decomposition of a composite
-/

namespace Namesake.Unicode

variable {c d p : Char} {n : Nat} {rows below above : List (Nat × List Nat)}

/-! ### Searching the table -/

/-- The rows of a table in a search tree. -/
inductive RowTree where
  | leaf
  | node (below : RowTree) (code : Nat) (parts : List Nat) (above : RowTree)

namespace RowTree

/-- What is listed for a code point. It is compared by Booleans, which are evaluated fast. -/
def find : RowTree → Nat → Option (List Nat)
  | leaf, _ => none
  | node below code parts above, n =>
    bif n.blt code then find below n else bif n.beq code then some parts else find above n

/-- The tree of less than `Nat.pow 2 depth` rows. -/
def ofRows : (depth : Nat) → List (Nat × List Nat) → RowTree
  | 0, _ => leaf
  | depth + 1, rows =>
    let half := Nat.pow 2 depth - 1
    match rows.drop half with
    | [] => ofRows depth rows
    | (code, parts) :: rest => node (ofRows depth (rows.take half)) code parts (ofRows depth rest)

end RowTree

/-- The rows are in the order of their code points. -/
def Rising (rows : List (Nat × List Nat)) : Prop :=
  rows.Pairwise fun a b => a.1 < b.1

/-- Are the rows in the order of their code points, all above a floor? -/
def risesFrom (floor : Nat) : List (Nat × List Nat) → Bool
  | [] => true
  | (code, _) :: rest => floor.blt code && risesFrom code rest

theorem rising_of_risesFrom {floor : Nat} (h : risesFrom floor rows = true) :
    (∀ row ∈ rows, floor < row.1) ∧ Rising rows := by
  induction rows generalizing floor with
  | nil => exact ⟨fun row hrow => (by cases hrow), List.Pairwise.nil⟩
  | cons row rows ih =>
    obtain ⟨hfloor, hrest⟩ : floor < row.1 ∧ risesFrom row.1 rows = true := by
      simpa [risesFrom, Nat.blt_eq] using h
    obtain ⟨habove, hrising⟩ := ih hrest
    refine ⟨fun other hother => ?_, List.Pairwise.cons habove hrising⟩
    rcases List.mem_cons.1 hother with rfl | hother
    · exact hfloor
    · exact hfloor.trans (habove other hother)

/-- Any row of the table tells on which side of it to look. -/
theorem listedIn_split {code : Nat} {parts : List Nat}
    (h : Rising (below ++ (code, parts) :: above)) :
    listedIn (below ++ (code, parts) :: above) n =
      if n < code then listedIn below n else if n = code then some parts else listedIn above n := by
  induction below with
  | nil => rfl
  | cons row below ih =>
    obtain ⟨hrow, hrest⟩ := List.pairwise_cons.1 h
    have hlt : row.1 < code := hrow (code, parts) (by simp)
    rw [List.cons_append, listedIn, listedIn, ih hrest]
    split_ifs <;> first | rfl | omega

/-- The tree has what the table has. -/
theorem RowTree.find_ofRows {depth : Nat} (h : Rising rows) (hlen : rows.length < Nat.pow 2 depth) :
    (ofRows depth rows).find n = listedIn rows n := by
  induction depth generalizing rows with
  | zero =>
    obtain rfl := List.length_eq_zero_iff.1 (Nat.lt_one_iff.1 hlen)
    rfl
  | succ depth ih =>
    have hpow : Nat.pow 2 (depth + 1) = Nat.pow 2 depth * 2 := rfl
    have hpos : 0 < Nat.pow 2 depth := Nat.pow_pos (by decide)
    rw [ofRows]
    split
    · rename_i hdrop
      have := List.drop_eq_nil_iff.1 hdrop
      exact ih h (by omega)
    · rename_i code parts rest hdrop
      have hsplit : rows = rows.take (Nat.pow 2 depth - 1) ++ (code, parts) :: rest := by
        rw [← hdrop, List.take_append_drop]
      have hrising := hsplit ▸ h
      obtain ⟨hbelow, habove, -⟩ := List.pairwise_append.1 hrising
      have hlength : rows.length - (Nat.pow 2 depth - 1) = rest.length + 1 := by
        rw [← List.length_drop, hdrop, List.length_cons]
      rw [RowTree.find, ih hbelow (by rw [List.length_take]; omega),
        ih (List.pairwise_cons.1 habove).2 (by omega)]
      conv_rhs => rw [hsplit, listedIn_split hrising]
      simp only [cond_eq_ite, Nat.blt_eq, Nat.beq_eq]

/-- The decompositions in a search tree. -/
def decompositionTree : RowTree :=
  .ofRows 12 decompositionRows

theorem rising_decompositionRows : Rising decompositionRows :=
  (@rising_of_risesFrom decompositionRows 0 (by decide +kernel)).2

theorem find_decompositionTree (n : Nat) :
    decompositionTree.find n = listedIn decompositionRows n := by
  -- the length is summed up part by part, for the table is too long to be counted at once
  have hlen : decompositionRows.length < Nat.pow 2 12 := by
    rw [decompositionRows, List.length_flatten]
    decide +kernel
  exact RowTree.find_ofRows rising_decompositionRows hlen

/-! ### Full decompositions -/

/-- The code points of the full decomposition of a code point. -/
def fullForm (n : Nat) : List Nat :=
  bif n.blt 0xC0 then [n]
  else bif Hangul.isSyllable n then Hangul.letters n
  else (decompositionTree.find n).getD [n]

theorem canonical_eq (c : Char) : canonical c = (fullForm c.toNat).map Char.ofNat := by
  unfold canonical fullForm
  simp only [cond_eq_ite, Nat.blt_eq, find_decompositionTree]
  split_ifs
  · simp [Char.ofNat_toNat]
  · rfl
  · cases listedIn decompositionRows c.toNat with
    | none => simp [Char.ofNat_toNat]
    | some parts => rfl

/-- The characters below the first that decomposes. -/
theorem canonical_of_lt (h : c.toNat < 0xC0) : canonical c = [c] := by
  rw [canonical, if_pos h]

/-- No part of a listed decomposition decomposes. -/
theorem fullForm_parts : ∀ row ∈ decompositionRows, ∀ k ∈ row.2,
    k.isValidChar ∧ fullForm k = [k] := by
  decide +kernel

/-- A listed composite decomposes into its second character behind the decomposition of the first.
-/
theorem fullForm_composites : ∀ row ∈ compositionRows, ∀ pair ∈ row.2,
    pair.2.isValidChar ∧ fullForm pair.2 = fullForm pair.1 ++ [row.1] := by
  decide +kernel

/-- The letters of Hangul do not decompose. -/
theorem fullForm_letters : ∀ k < 0xC3,
    (0x1100 + k).isValidChar ∧ fullForm (0x1100 + k) = [0x1100 + k] := by
  decide +kernel

/-- What is listed is a row of the table. -/
theorem mem_of_listedIn {parts : List Nat} (h : listedIn rows n = some parts) :
    (n, parts) ∈ rows := by
  induction rows with
  | nil => cases h
  | cons row rows ih =>
    rw [listedIn] at h
    split_ifs at h with hlt heq
    · subst heq
      obtain rfl := Option.some.inj h
      exact List.mem_cons_self
    · exact List.mem_cons_of_mem row (ih h)

theorem fullForm_letter (hlow : 0x1100 ≤ n) (hhigh : n < 0x11C3) :
    n.isValidChar ∧ fullForm n = [n] := by
  obtain ⟨k, rfl⟩ := Nat.exists_eq_add_of_le hlow
  exact fullForm_letters k (by omega)

theorem isSyllable_iff : Hangul.isSyllable n = true ↔ 0xAC00 ≤ n ∧ n < 0xD7A4 := by
  rw [Hangul.isSyllable, Bool.and_eq_true, decide_eq_true_eq, decide_eq_true_eq]
  exact Iff.rfl

/-- The letters of a syllable, in numbers. -/
theorem letters_eq (n : Nat) :
    Hangul.letters n =
      if (n - 0xAC00) % 28 = 0 then
        [0x1100 + (n - 0xAC00) / 588, 0x1161 + (n - 0xAC00) % 588 / 28]
      else
        [0x1100 + (n - 0xAC00) / 588, 0x1161 + (n - 0xAC00) % 588 / 28,
          0x11A7 + (n - 0xAC00) % 28] :=
  rfl

/-- The letters of a syllable are letters. -/
theorem letters_range {k : Nat} (hn : Hangul.isSyllable n = true) (hk : k ∈ Hangul.letters n) :
    0x1100 ≤ k ∧ k < 0x11C3 := by
  rw [isSyllable_iff] at hn
  rw [letters_eq] at hk
  split_ifs at hk
  · simp only [List.mem_cons, List.not_mem_nil, or_false] at hk
    omega
  · simp only [List.mem_cons, List.not_mem_nil, or_false] at hk
    omega

theorem fullForm_of_mem_letters {k : Nat} (hn : Hangul.isSyllable n = true)
    (hk : k ∈ Hangul.letters n) : k.isValidChar ∧ fullForm k = [k] :=
  fullForm_letter (letters_range hn hk).1 (letters_range hn hk).2

/-- What a full form is: the code point itself, the letters of a syllable, or a listed form. -/
theorem fullForm_cases (n : Nat) : fullForm n = [n] ∨
    (Hangul.isSyllable n = true ∧ fullForm n = Hangul.letters n) ∨
      ∃ parts, listedIn decompositionRows n = some parts ∧ fullForm n = parts := by
  simp only [fullForm, cond_eq_ite, Nat.blt_eq, find_decompositionTree]
  split_ifs with hlow hsyllable
  · exact Or.inl rfl
  · exact Or.inr (Or.inl ⟨hsyllable, rfl⟩)
  · cases listedIn decompositionRows n with
    | none => exact Or.inl rfl
    | some parts => exact Or.inr (Or.inr ⟨parts, rfl, rfl⟩)

/-- The parts of a full form are full. -/
theorem fullForm_of_mem {k : Nat} (hn : n.isValidChar) (hk : k ∈ fullForm n) :
    k.isValidChar ∧ fullForm k = [k] := by
  have hself : fullForm n = [n] → k.isValidChar ∧ fullForm k = [k] := by
    intro hfull
    obtain rfl := List.mem_singleton.1 (hfull ▸ hk)
    exact ⟨hn, hfull⟩
  rcases fullForm_cases n with hfull | ⟨hsyllable, hfull⟩ | ⟨parts, hlisted, hfull⟩
  · exact hself hfull
  · exact fullForm_of_mem_letters hsyllable (hfull ▸ hk)
  · exact fullForm_parts _ (mem_of_listedIn hlisted) k (hfull ▸ hk)

/-- The characters of a decomposition do not decompose. -/
theorem canonical_of_mem (h : d ∈ canonical c) : canonical d = [d] := by
  rw [canonical_eq] at h
  obtain ⟨k, hk, rfl⟩ := List.mem_map.1 h
  obtain ⟨hvalid, hfull⟩ := fullForm_of_mem c.valid hk
  rw [canonical_eq, toNat_ofNat hvalid, hfull, List.map_singleton]

/-- A character that is part of no listed decomposition is in no decomposition but its own. -/
theorem eq_of_mem_canonical (hlow : c.toNat < 0xC0)
    (hrows : ∀ row ∈ decompositionRows, c.toNat ∉ row.2) (h : c ∈ canonical d) : d = c := by
  rw [canonical_eq] at h
  obtain ⟨k, hk, rfl⟩ := List.mem_map.1 h
  rw [toNat_ofNat (fullForm_of_mem d.valid hk).1] at hlow hrows
  rcases fullForm_cases d.toNat with hfull | ⟨hsyllable, hfull⟩ | ⟨parts, hlisted, hfull⟩
  · rw [hfull, List.mem_singleton] at hk
    rw [hk, Char.ofNat_toNat]
  · have := letters_range hsyllable (hfull ▸ hk)
    omega
  · exact absurd (hfull ▸ hk) (hrows _ (mem_of_listedIn hlisted))

/-! ### Composites -/

/-- What a table of joins gives is in one of its rows. -/
theorem mem_of_joinIn {firsts : List (Nat × Nat)} {a n : Nat} (h : joinIn firsts a = some n) :
    (a, n) ∈ firsts := by
  induction firsts with
  | nil => cases h
  | cons pair firsts ih =>
    rw [joinIn] at h
    split_ifs at h with hlt heq
    · subst heq
      obtain rfl := Option.some.inj h
      exact List.mem_cons_self
    · exact List.mem_cons_of_mem pair (ih h)

theorem mem_of_mem_joinersIn {table : List (Nat × List (Nat × Nat))} {b : Nat} {pair : Nat × Nat}
    (h : pair ∈ joinersIn table b) : ∃ row ∈ table, row.1 = b ∧ pair ∈ row.2 := by
  induction table with
  | nil => cases h
  | cons row table ih =>
    rw [joinersIn] at h
    split_ifs at h with hlt heq
    · cases h
    · exact ⟨row, List.mem_cons_self, heq.symm, h⟩
    · obtain ⟨other, hother, hrow⟩ := ih h
      exact ⟨other, List.mem_cons_of_mem row hother, hrow⟩

theorem fullForm_of_isSyllable (h : Hangul.isSyllable n = true) :
    n.isValidChar ∧ fullForm n = Hangul.letters n := by
  obtain ⟨hlow, hhigh⟩ := isSyllable_iff.1 h
  refine ⟨Or.inl (by omega), ?_⟩
  simp only [fullForm, cond_eq_ite, Nat.blt_eq]
  rw [if_neg (by omega), if_pos h]

/-- Joined letters of Hangul decompose into the one that came last and what it was joined to. -/
theorem fullForm_join {a b : Nat} (h : Hangul.join? a b = some n) :
    n.isValidChar ∧ fullForm n = fullForm a ++ [b] := by
  rw [Hangul.join?] at h
  split_ifs at h with hopen hclosed
  · -- a leading consonant and a vowel
    have hrange : 0x1100 ≤ a ∧ a < 0x1113 ∧ 0x1161 ≤ b ∧ b < 0x1176 := hopen
    have hn : n = 0xAC00 + ((a - 0x1100) * 21 + (b - 0x1161)) * 28 := (Option.some.inj h).symm
    obtain ⟨hvalid, hform⟩ :=
      fullForm_of_isSyllable (isSyllable_iff.2 (by omega : 0xAC00 ≤ n ∧ n < 0xD7A4))
    have hlead : 0x1100 + (n - 0xAC00) / 588 = a := by omega
    have hvowel : 0x1161 + (n - 0xAC00) % 588 / 28 = b := by omega
    rw [letters_eq, if_pos (by omega), hlead, hvowel] at hform
    rw [(fullForm_letter (by omega) (by omega) : a.isValidChar ∧ fullForm a = [a]).2]
    exact ⟨hvalid, hform⟩
  · -- an open syllable and a trailing consonant
    obtain ⟨hsyllable, hopen, hrange⟩ := hclosed
    have hrange : 0x11A7 < b ∧ b < 0x11C3 := hrange
    have hopen : (a - 0xAC00) % 28 = 0 := hopen
    have ha := isSyllable_iff.1 hsyllable
    have hn : n = a + (b - 0x11A7) := (Option.some.inj h).symm
    obtain ⟨hvalid, hform⟩ :=
      fullForm_of_isSyllable (isSyllable_iff.2 (by omega : 0xAC00 ≤ n ∧ n < 0xD7A4))
    have hlead : (n - 0xAC00) / 588 = (a - 0xAC00) / 588 := by omega
    have hvowel : (n - 0xAC00) % 588 / 28 = (a - 0xAC00) % 588 / 28 := by omega
    have htrail : 0x11A7 + (n - 0xAC00) % 28 = b := by omega
    rw [letters_eq, if_neg (by omega), hlead, hvowel, htrail] at hform
    rw [(fullForm_of_isSyllable hsyllable).2, letters_eq, if_pos hopen]
    exact ⟨hvalid, hform⟩

/-- The decomposition of a composite is that of its first character with the second one behind it.
-/
theorem canonical_of_composite {a b : Char} (h : composite? a b = some p) :
    canonical p = canonical a ++ [b] := by
  have hfull : ∃ n, n.isValidChar ∧ p = Char.ofNat n ∧
      fullForm n = fullForm a.toNat ++ [b.toNat] := by
    unfold composite? at h
    dsimp only at h
    split at h
    · cases h
    · split at h
      · rename_i n hjoin
        obtain rfl := Option.some.inj h
        obtain ⟨hvalid, hform⟩ := fullForm_join hjoin
        exact ⟨n, hvalid, rfl, hform⟩
      · obtain ⟨n, hjoin, rfl⟩ := Option.map_eq_some_iff.1 h
        obtain ⟨row, hrow, hsecond, hpair⟩ := mem_of_mem_joinersIn (mem_of_joinIn hjoin)
        obtain ⟨hvalid, hform⟩ := fullForm_composites row hrow _ hpair
        exact ⟨n, hvalid, rfl, hsecond ▸ hform⟩
  obtain ⟨n, hvalid, rfl, hform⟩ := hfull
  rw [canonical_eq, toNat_ofNat hvalid, hform, List.map_append, ← canonical_eq, List.map_singleton,
    Char.ofNat_toNat]

end Namesake.Unicode
