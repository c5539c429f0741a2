import Namesake.Proofs.Name.Shape

/-!
# Names of ASCII characters

A name with ASCII letters, digits and separators alone is measured and cut character by character,
and so is its lower-case form. Hence it makes no difference whether such a name is cut first and
then brought into lower case, or the other way round.

## Main definitions

* `Text.IsNarrow` — a text has ASCII letters, digits and separators alone

## Main results

* `Text.lowercase_narrow` — the lower-case form, character by character
* `Text.lowercase_cutTo` — it is cut like the name itself
* `Text.graphemeLength_narrow` — every character counts
* `CharacterPolicy.Tidy.isNarrow` — in the narrow alphabet names are such texts
-/

namespace Namesake

open Unicode

namespace Text

variable {c : Char} {t u : Text} {p : CharacterPolicy} {n : Int}

/-- The text has ASCII letters, digits and separators alone. -/
def IsNarrow (t : Text) : Prop :=
  ∀ c ∈ t, (isSeparator c || isAsciiWord c) = true

/-- The lower-case form of an ASCII character. -/
def lowerAscii (c : Char) : Char :=
  Char.ofNat (shifted lowerRuns c.toNat)

/-! ### Characters -/

theorem lt_of_narrow (h : (isSeparator c || isAsciiWord c) = true) : c.toNat < 128 := by
  rw [Bool.or_eq_true] at h
  rcases h with h | h
  · rcases isSeparator_iff.1 h with rfl | rfl | rfl <;> decide
  · exact toNat_lt_of_isAsciiWord h

theorem lowerAscii_spec : ∀ n < 128,
    ((isSeparator (Char.ofNat n) || isAsciiWord (Char.ofNat n)) = true →
      (isSeparator (lowerAscii (Char.ofNat n)) || isAsciiWord (lowerAscii (Char.ofNat n))) = true) ∧
    isWord (lowerAscii (Char.ofNat n)) = isWord (Char.ofNat n) ∧
    Char.ofNat n ≠ 'Σ' ∧ Char.ofNat n ≠ 'İ' := by
  decide +kernel

theorem narrow_lowerAscii (h : (isSeparator c || isAsciiWord c) = true) :
    (isSeparator (lowerAscii c) || isAsciiWord (lowerAscii c)) = true := by
  have hspec := (lowerAscii_spec c.toNat (lt_of_narrow h)).1
  rw [Char.ofNat_toNat] at hspec
  exact hspec h

theorem isWord_lowerAscii (h : c.toNat < 128) : isWord (lowerAscii c) = isWord c := by
  have hspec := (lowerAscii_spec c.toNat h).2.1
  rwa [Char.ofNat_toNat] at hspec

/-! ### Texts -/

theorem IsNarrow.sublist (h : t.IsNarrow) (hu : u ⊆ t) : u.IsNarrow :=
  fun c hc => h c (hu hc)

theorem IsNarrow.append (h : t.IsNarrow) (hu : u.IsNarrow) : IsNarrow (t ++ u) := fun c hc =>
  (List.mem_append.1 hc).elim (h c) (hu c)

theorem IsNarrow.isPlain (h : t.IsNarrow) : t.isPlain = true := by
  simp only [Text.isPlain, isAscii, Bool.and_eq_true, List.all_eq_true, decide_eq_true_eq,
    Bool.not_eq_true', List.contains_eq_mem, decide_eq_false_iff_not]
  exact ⟨fun c hc => lt_of_narrow (h c hc), fun hcr => absurd (h '\r' hcr) (by decide)⟩

/-- Every character counts. -/
theorem graphemeLength_narrow (h : t.IsNarrow) : t.graphemeLength = t.length := by
  rw [graphemeLength, if_pos h.isPlain]

/-- However a narrow text goes on behind another, the whole counts no less than it does. Its first
character may join what is before it, but then that counts instead. -/
theorem length_le_graphemeLength_append (hu : u.IsNarrow) (t : Text) :
    u.length ≤ (t ++ u).graphemeLength := by
  by_cases ht : t = []
  · rw [ht, List.nil_append, graphemeLength_narrow hu]
  · have hlone : ∀ c ∈ u, (Traits.of c).isLone = true := fun c hc =>
      isLone_traits (lt_of_narrow (hu c hc)) fun hcr => absurd (hu c hc) (by rw [hcr]; decide)
    have hcount := length_le_clusterCount hlone (Context.start.after t)
    have hpos : t.graphemeLength ≠ 0 := fun h => ht (eq_nil_of_graphemeLength h)
    rw [graphemeLength_eq] at hpos
    rw [graphemeLength_eq, clusterCount_append]
    omega

/-- The lower-case form of a narrow text is that of its characters: none of them is looked at
together with its neighbours. -/
theorem lowercase_narrow (h : t.IsNarrow) : lowercase t = t.map lowerAscii := by
  have hfrom : ∀ after, lowerFrom after t = t.map lowerAscii := by
    induction t with
    | nil => exact fun _ => rfl
    | cons c t ih =>
      intro after
      have hspec := (lowerAscii_spec c.toNat (lt_of_narrow (h c List.mem_cons_self))).2.2
      rw [Char.ofNat_toNat] at hspec
      rw [lowerFrom, if_neg hspec.1, lowerChar, if_neg hspec.2,
        ih (h.sublist (List.subset_cons_self c t))]
      rfl
  exact hfrom false

theorem IsNarrow.lowercase (h : t.IsNarrow) : IsNarrow (Unicode.lowercase t) := by
  rw [lowercase_narrow h]
  intro c hc
  obtain ⟨d, hd, rfl⟩ := List.mem_map.1 hc
  exact narrow_lowerAscii (h d hd)

theorem length_lowercase (h : t.IsNarrow) : (Unicode.lowercase t).length = t.length := by
  rw [lowercase_narrow h, List.length_map]

/-! ### Numerals -/

theorem narrow_numeral (k : Nat) : IsNarrow ('_' :: Nat.toDigits 10 k) := by
  intro c hc
  rcases List.mem_cons.1 hc with rfl | hc
  · rfl
  · have hdigit := Nat.isDigit_of_mem_toDigits (by decide) (by decide) hc
    rw [CharacterPolicy.isAsciiWord_of_isDigit hdigit, Bool.or_true]

/-! ### Cutting -/

theorem IsNarrow.cutTo (h : t.IsNarrow) (n : Int) : (t.cutTo n).IsNarrow :=
  h.sublist (cutTo_isPrefix t n).subset

/-- What is at the end of a text is trimmed alike in its lower-case form. -/
theorem trimEnd_map (h : t.IsNarrow) : trimEnd (t.map lowerAscii) = (trimEnd t).map lowerAscii := by
  induction t using List.reverseRecOn with
  | nil => rfl
  | append_singleton t c ih =>
    have hc := isWord_lowerAscii (lt_of_narrow (h c (by simp)))
    rw [List.map_append, List.map_singleton, trimEnd_eq_rdropWhile, trimEnd_eq_rdropWhile,
      List.rdropWhile_concat, List.rdropWhile_concat, hc]
    split
    · exact ih (h.sublist (List.subset_append_left t [c]))
    · rw [List.map_append, List.map_singleton]

theorem truncate_narrow (h : t.IsNarrow) (n : Int) : t.truncate n = t.take n.toNat := by
  unfold truncate
  by_cases hn : n ≤ 0
  · rw [if_pos hn, Int.toNat_of_nonpos hn, List.take_zero]
  · rw [if_neg hn, if_pos h.isPlain]

/-- A name is cut alike in its lower-case form. -/
theorem lowercase_cutTo (h : t.IsNarrow) (n : Int) :
    Unicode.lowercase (t.cutTo n) = (Unicode.lowercase t).cutTo n := by
  rw [lowercase_narrow (h.cutTo n)]
  unfold Text.cutTo
  rw [graphemeLength_narrow h, graphemeLength_narrow h.lowercase, length_lowercase h]
  split
  · exact (lowercase_narrow h).symm
  · have htake : IsNarrow (t.take n.toNat) := h.sublist (List.take_subset _ t)
    rw [truncate_narrow h, truncate_narrow h.lowercase, lowercase_narrow h, ← List.map_take,
      trimEnd_map htake]

end Text

/-- In the narrow alphabet names are narrow. -/
theorem CharacterPolicy.Tidy.isNarrow {p : CharacterPolicy} {t : Text} (h : p.Tidy t)
    (hascii : p.unicode = false) : t.IsNarrow := fun c hc => by
  simpa [CharacterPolicy.admits, hascii] using h.admitted c hc

end Namesake
