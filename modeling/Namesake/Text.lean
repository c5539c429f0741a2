import Std.Data.TreeMap
import Std.Data.TreeSet

/-!
# Text

A name is worked on character by character: it is split, cut from the right, searched for runs of
separators. So a name is a list of characters, and a collection of names is ordered by code point,
which is also the order in which collections are shown.

## Main definitions

* `Text` — a name or a piece of one
* `TextSet`, `TextMap` — collections keyed by text, in code-point order
-/

namespace Namesake

/-- A sequence of characters: a name, or a piece of one. -/
abbrev Text := List Char

/-- A set of texts in code-point order. -/
abbrev TextSet := Std.TreeSet Text compare

/-- A map keyed by texts, in code-point order of the keys. -/
abbrev TextMap (α : Type) := Std.TreeMap Text α compare

namespace Text

/-- Does the text consist of ASCII characters alone? -/
def isAscii (t : Text) : Bool :=
  t.all fun c => c.toNat < 128

/-- How many digits of a long numeral are worked out at once. -/
def chunkDigits : Nat := 18

/-- The least number that does not fit into one chunk of digits, `10 ^ chunkDigits`. -/
def chunk : Nat := 1000000000000000000

/-- A numeral with zeros in front up to `k` digits. -/
def padTo (k : Nat) (ds : Text) : Text :=
  List.replicate (k - ds.length) '0' ++ ds

/-- The decimal digits of a natural number in front of a text. They are put together from `count`
chunks at most and what is left in front of them. -/
def digitsBefore : (count n : Nat) → (behind : Text) → Text
  | 0, n, behind => Nat.toDigits 10 n ++ behind
  | count + 1, n, behind =>
    if n < chunk then Nat.toDigits 10 n ++ behind
    else
      digitsBefore count (n / chunk) (padTo chunkDigits (Nat.toDigits 10 (n % chunk)) ++ behind)

/-- The decimal digits of a natural number, without leading zeros. -/
def ofNat (n : Nat) : Text :=
  digitsBefore n.log2 n []

/-- One digit more at the end of a padded numeral. -/
theorem padTo_succ_toDigits {k : Nat} (hk : 0 < k) (m : Nat) :
    padTo (k + 1) (Nat.toDigits 10 m) =
      padTo k (Nat.toDigits 10 (m / 10)) ++ [(m % 10).digitChar] := by
  by_cases h : m < 10
  · have h0 : m / 10 = 0 := by omega
    have hm : m % 10 = m := by omega
    obtain ⟨j, rfl⟩ : ∃ j, k = j + 1 := ⟨k - 1, by omega⟩
    rw [Nat.toDigits_of_lt_base h, h0, hm, Nat.toDigits_of_lt_base (by decide)]
    simp [padTo, List.replicate_succ']
  · rw [Nat.toDigits_of_base_le (by decide) (by omega)]
    simp [padTo]

/-- The last `k` digits of a numeral may be worked out apart from those before them. -/
theorem toDigits_split {k : Nat} (hk : 0 < k) {n : Nat} (h : Nat.pow 10 k ≤ n) :
    Nat.toDigits 10 n =
      Nat.toDigits 10 (n / Nat.pow 10 k) ++ padTo k (Nat.toDigits 10 (n % Nat.pow 10 k)) := by
  induction k generalizing n with
  | zero => omega
  | succ k ih =>
    by_cases hk : k = 0
    · subst hk
      have hn : n % 10 < 10 := Nat.mod_lt _ (by decide)
      have hpow : Nat.pow 10 (0 + 1) = 10 := rfl
      rw [hpow] at h ⊢
      rw [Nat.toDigits_of_base_le (by decide) h, Nat.toDigits_of_lt_base hn]
      simp [padTo]
    · have hpow : Nat.pow 10 (k + 1) = 10 * Nat.pow 10 k := Nat.mul_comm _ _
      have hpos : 0 < Nat.pow 10 k := Nat.pow_pos (by decide)
      have hten : Nat.pow 10 k ≤ n / 10 := by
        rw [Nat.le_div_iff_mul_le (by decide)]
        omega
      rw [Nat.toDigits_of_base_le (by decide) (by omega), ih (by omega) hten,
        Nat.div_div_eq_div_mul, ← hpow, padTo_succ_toDigits (by omega), hpow,
        Nat.mod_mul_right_div_self, Nat.mod_mul_right_mod, List.append_assoc]

/-- Chunks change nothing. -/
theorem digitsBefore_eq (count n : Nat) (behind : Text) :
    digitsBefore count n behind = Nat.toDigits 10 n ++ behind := by
  induction count generalizing n behind with
  | zero => rfl
  | succ count ih =>
    rw [digitsBefore]
    split
    · rfl
    · have hchunk : chunk = Nat.pow 10 chunkDigits := by decide
      rw [ih, @toDigits_split chunkDigits (by decide) n (by omega), hchunk, List.append_assoc]

theorem ofNat_eq_toDigits (n : Nat) : ofNat n = Nat.toDigits 10 n := by
  rw [ofNat, digitsBefore_eq, List.append_nil]

/-- The decimal numeral of an integer. -/
def ofInt : Int → Text
  | .ofNat n => ofNat n
  | .negSucc n => '-' :: ofNat (n + 1)

/-- The value of a hexadecimal digit. -/
def hexDigit? (c : Char) : Option Nat :=
  if '0' ≤ c ∧ c ≤ '9' then some (c.toNat - 48)
  else if 'a' ≤ c ∧ c ≤ 'f' then some (c.toNat - 87)
  else if 'A' ≤ c ∧ c ≤ 'F' then some (c.toNat - 55)
  else none

/-- Puts a character in front of the first piece. -/
def consToHead (c : Char) : List Text → List Text
  | [] => [[c]]
  | piece :: pieces => (c :: piece) :: pieces

/-- The pieces between the occurrences of a separator, read from the left. `skip` characters of an
occurrence that has been recognized are still to be passed over. -/
def pieces (sep : Text) : Nat → Text → List Text
  | _, [] => [[]]
  | skip + 1, _ :: rest => pieces sep skip rest
  | 0, c :: rest =>
    if sep.isPrefixOf (c :: rest) then [] :: pieces sep (sep.length - 1) rest
    else consToHead c (pieces sep 0 rest)

/-- The pieces of a text between the occurrences of a non-empty separator: one more than there are
occurrences. -/
def splitOn (sep t : Text) : List Text :=
  pieces sep 0 t

end Text

end Namesake
