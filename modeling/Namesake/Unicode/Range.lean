/-!
# Character classes as ranges

A class of characters is kept as the list of the code-point ranges that make it up. All tables of
the library list their ranges in increasing order, so a scan may stop at the first range that lies
above the character asked for.

## Main definitions

* `RangeTable.contains` — is a code point in the class?

## Main results

* `RangeTable.exists_of_contains` — the scan finds nothing but listed code points
-/

namespace Namesake.Unicode

/-- A valid code point is that of its character. -/
theorem toNat_ofNat {n : Nat} (h : n.isValidChar) : (Char.ofNat n).toNat = n := by
  rw [Char.ofNat, dif_pos h]
  rfl

/-- A class of code points, as closed ranges in increasing order. -/
abbrev RangeTable := List (Nat × Nat)

namespace RangeTable

/-- Is the code point in one of the ranges? The scan ends at the first range above it. -/
def contains : RangeTable → Nat → Bool
  | [], _ => false
  | (lo, hi) :: rest, n =>
    if n < lo then false
    else if n ≤ hi then true
    else contains rest n

/-- Whatever the scan accepts lies in a listed range. -/
theorem exists_of_contains {t : RangeTable} {n : Nat} (h : t.contains n = true) :
    ∃ lo hi, (lo, hi) ∈ t ∧ lo ≤ n ∧ n ≤ hi := by
  induction t with
  | nil => simp [contains] at h
  | cons r rest ih =>
    obtain ⟨lo, hi⟩ := r
    simp only [contains] at h
    split at h
    · simp at h
    · split at h
      · exact ⟨lo, hi, by simp, by omega, by omega⟩
      · obtain ⟨lo', hi', hm, hb⟩ := ih h
        exact ⟨lo', hi', by simp [hm], hb⟩

end RangeTable

end Namesake.Unicode
