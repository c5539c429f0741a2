import Namesake.Proofs.Unicode.Lowercase
import Namesake.Resolver.Search

/-!
# Numerals in lower case

A suffix is put behind a base as a separator and a numeral. A numeral is written with digits, signs,
a point, the letter of an exponent and the words for what is no finite number, and none of these has
another form in lower case. The separator ends a word, so lower case does not look beyond it. Hence
a suffixed base is brought into lower case by bringing its base into lower case, whatever the base
and the suffix are.

## Main definitions

* `numeralChars` — the characters of numerals

## Main results

* `suffixTail_subset` — what stands behind a base has no others but the separator
* `isWritable_whole_iff` — a suffix may be written if its numeral is short enough
* `lowercase_suffixed` — the lower-case form of a suffixed base
-/

namespace Namesake

open Unicode

variable {c : Char} {ds : Text}

/-- The characters of numerals: the digits, the point and the signs, and the letters of `e`, `inf`
and `nan`. -/
def numeralChars : List Char :=
  "0123456789.+-einaf".toList

/-! ### Which characters a numeral has -/

theorem mem_numeralChars_of_isDigit (h : c.isDigit = true) : c ∈ numeralChars := by
  have hdigits : ∀ n ≤ 57, 48 ≤ n → Char.ofNat n ∈ numeralChars := by decide
  simp only [Char.isDigit, Bool.and_eq_true, decide_eq_true_eq] at h
  rw [← Char.ofNat_toNat c]
  exact hdigits c.toNat h.2 h.1

theorem toDigits_subset (n : Nat) : Nat.toDigits 10 n ⊆ numeralChars := fun _ hc =>
  mem_numeralChars_of_isDigit (Nat.isDigit_of_mem_toDigits (by decide) (by decide) hc)

theorem replicate_zero_subset (n : Nat) : List.replicate n '0' ⊆ numeralChars := by
  intro c hc
  obtain rfl := List.eq_of_mem_replicate hc
  decide

namespace Binary64

theorem dropZeros_subset (ds : List Char) : dropZeros ds ⊆ ds := by
  intro c hc
  rw [dropZeros, List.mem_reverse] at hc
  exact List.mem_reverse.1 ((List.dropWhile_sublist _).subset hc)

/-- However a value is laid out, nothing but zeros, a point and an exponent comes to its digits. -/
theorem layout_subset (hds : ds ⊆ numeralChars) (lead : Int) : layout ds lead ⊆ numeralChars := by
  have hpadded : ∀ k, ds ++ List.replicate k '0' ⊆ numeralChars := fun k =>
    List.append_subset.2 ⟨hds, replicate_zero_subset k⟩
  unfold layout
  split
  · split
    · -- below one: zeros stand before the digits
      refine List.append_subset.2 ⟨List.append_subset.2 ⟨by decide, replicate_zero_subset _⟩, hds⟩
    · -- from one on: the point stands among the digits
      refine List.append_subset.2 ⟨fun c hc => hpadded _ (List.mem_of_mem_take hc), ?_⟩
      refine List.cons_subset.2 ⟨by decide, ?_⟩
      split
      · decide
      · exact fun c hc => hpadded _ (List.mem_of_mem_drop hc)
  · -- far from one: an exponent stands behind the digits
    refine List.append_subset.2 ⟨?_, List.cons_subset.2 ⟨by decide, List.cons_subset.2 ⟨?_, ?_⟩⟩⟩
    · split
      · exact List.nil_subset _
      · exact hds
      · obtain ⟨hd, hrest⟩ := List.cons_subset.1 hds
        exact List.cons_subset.2 ⟨hd, List.cons_subset.2 ⟨by decide, hrest⟩⟩
    · split <;> decide
    · refine List.append_subset.2 ⟨?_, toDigits_subset _⟩
      split <;> decide

theorem render_subset (x : Binary64) : x.render.toList ⊆ numeralChars := by
  cases x with
  | nan => decide
  | infinite negative => cases negative <;> decide
  | finite negative m e =>
    have hsigned : ∀ body : Text, body ⊆ numeralChars →
        (if negative then '-' :: body else body) ⊆ numeralChars := by
      intro body hbody
      split
      · exact List.cons_subset.2 ⟨by decide, hbody⟩
      · exact hbody
    rw [render, String.toList_ofList]
    refine hsigned _ ?_
    split
    · decide
    · exact layout_subset (List.Subset.trans (dropZeros_subset _) (toDigits_subset _)) _

end Binary64

/-- What stands behind a base is the separator and characters of numerals. -/
theorem suffixTail_subset (suffix : Quantity) :
    ∃ u, u ⊆ numeralChars ∧ suffixTail suffix = '_' :: u := by
  cases suffix with
  | real x => exact ⟨_, x.render_subset, rfl⟩
  | whole n =>
    refine ⟨Text.ofInt n, ?_, rfl⟩
    cases n with
    | ofNat n =>
      rw [Text.ofInt, Text.ofNat_eq_toDigits]
      exact toDigits_subset n
    | negSucc n =>
      rw [Text.ofInt, Text.ofNat_eq_toDigits]
      exact List.cons_subset.2 ⟨by decide, toDigits_subset _⟩

/-! ### Which numerals may be written -/

variable {k : Nat}

theorem isWritable_iff_lt : isWritable (.whole k) = true ↔ k < digitBound := by
  simp [isWritable]

theorem one_lt_digitBound : 1 < digitBound := by
  have hdigits : maxDigits ≠ 0 := by decide
  unfold digitBound
  generalize maxDigits = m at hdigits
  exact Nat.one_lt_pow hdigits (by decide)

/-- The numeral before the first one with too many digits has as many digits as it may. -/
theorem maxDigits_le_length (h : digitBound ≤ k + 1) : maxDigits ≤ (Nat.toDigits 10 k).length := by
  have hdigits : 1 < maxDigits := by decide
  unfold digitBound at h
  generalize maxDigits = m at hdigits h
  refine Nat.le_of_not_lt fun hshort => ?_
  have hk : k < 10 ^ (m - 1) :=
    (Nat.length_toDigits_le_iff (by decide) (by omega)).1 (by omega)
  have hpow : 10 ^ (m - 1) < 10 ^ m := Nat.pow_lt_pow_right (by decide) (by omega)
  exact absurd (Nat.lt_of_le_of_lt hk hpow) (Nat.not_lt.2 h)

/-- A suffix may be written if its numeral has no more digits than any numeral may have. -/
theorem isWritable_whole_iff :
    isWritable (.whole k) = true ↔ (Nat.toDigits 10 k).length ≤ maxDigits := by
  have hdigits : 0 < maxDigits := by decide
  rw [isWritable_iff_lt]
  unfold digitBound
  generalize maxDigits = m at hdigits
  exact (Nat.length_toDigits_le_iff (by decide) hdigits).symm

/-! ### Their lower-case form -/

/-- A separator with a numeral behind it is in lower case. -/
theorem lowercase_numeral (h : ds ⊆ numeralChars) : lowercase ('_' :: ds) = '_' :: ds := by
  have hchars : ('_' :: numeralChars).all (fun c => c ≠ 'Σ' && lowerChar c = [c]) = true := by
    decide +kernel
  refine lowercase_unchanged fun c hc => ?_
  simpa using List.all_eq_true.1 hchars c (List.cons_subset_cons '_' h hc)

/-- The lower-case form of a base with a numeral behind it is that of the base with the numeral. -/
theorem lowercase_append_numeral (base : Text) (h : ds ⊆ numeralChars) :
    lowercase (base ++ '_' :: ds) = lowercase base ++ '_' :: ds := by
  have hcut : lowercase (base ++ '_' :: ds) = lowercase base ++ lowercase ('_' :: ds) :=
    lowercase_append_stop (by decide +kernel) (by decide +kernel) (by decide)
  rw [hcut, lowercase_numeral h]

/-- The lower-case form of a suffixed base is that of the base with the suffix behind it. -/
theorem lowercase_suffixed (base : Text) (suffix : Quantity) :
    lowercase (base ++ suffixTail suffix) = lowercase base ++ suffixTail suffix := by
  obtain ⟨u, hu, htail⟩ := suffixTail_subset suffix
  rw [htail, lowercase_append_numeral base hu]

end Namesake
