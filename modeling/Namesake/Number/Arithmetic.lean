import Namesake.Number.Binary64

/-!
# Arithmetic with rounding

Sums, differences and halves of binary floating-point numbers: the exact result is formed first and
then rounded to the nearest number, so every operation is wrong by half a step at most. A power of
ten with an exponent that is no whole number is worked out by square roots, with many more places
than the result keeps.

## Main definitions

* `Binary64.add`, `Binary64.sub`, `Binary64.floorHalf` — arithmetic
* `Binary64.ofInt` — the number nearest to an integer
* `floorSqrt` — the integer part of a square root
* `Binary64.powerOfTen` — ten to the power of a number
-/

namespace Namesake

namespace Binary64

/-- A finite number as an integer fraction: its numerator and its denominator. -/
def fraction (negative : Bool) (mantissa : Nat) (exponent : Int) : Int × Nat :=
  let (n, d) := scaleBinary mantissa 1 (-exponent)
  (if negative then -(n : Int) else n, d)

/-- The number nearest to a fraction with a sign. -/
def ofFraction (num : Int) (den : Nat) : Binary64 :=
  nearest (num < 0) num.natAbs den

/-- The number nearest to an integer. -/
def ofInt (n : Int) : Binary64 :=
  ofFraction n 1

/-- The number of the opposite sign. -/
def neg : Binary64 → Binary64
  | finite negative m e => finite (!negative) m e
  | infinite negative => infinite (!negative)
  | nan => nan

/-- The number nearest to a sum. A sum that is zero is a negative zero only if both parts are. -/
def add : Binary64 → Binary64 → Binary64
  | nan, _ => nan
  | _, nan => nan
  | infinite a, infinite b => if a = b then infinite a else nan
  | infinite a, _ => infinite a
  | _, infinite b => infinite b
  | finite a m e, finite b k f =>
    let (x, d) := fraction a m e
    let (y, c) := fraction b k f
    let sum := x * c + y * d
    if sum = 0 then finite (a && b) 0 minExponent else ofFraction sum (d * c)

/-- The number nearest to a difference. -/
def sub (x y : Binary64) : Binary64 :=
  x.add y.neg

/-- The largest integer that is not above half the number. Half of an infinite number has none. -/
def floorHalf : Binary64 → Binary64
  | finite negative m e =>
    let (n, d) := fraction negative m e
    ofInt (n / ((2 * d : Nat) : Int))
  | _ => nan

end Binary64

/-- The search for the integer part of the square root of `n`: `root` is known to be no larger, and
of the places of the root the lowest `places` are still to be decided. -/
def refineSqrt (n : Nat) : (places root : Nat) → Nat
  | 0, root => root
  | places + 1, root =>
    let next := root + Nat.pow 2 places
    refineSqrt n places (if next * next ≤ n then next else root)

/-- The integer part of the square root of `n`. -/
def floorSqrt (n : Nat) : Nat :=
  refineSqrt n (n.log2 / 2 + 1) 0

namespace Binary64

/-- How many binary places powers of ten are worked out to. -/
def powerPlaces : Nat := 192

/-- Ten to the power of the binary fraction `0.b₁b₂…` with the places `bits`, as a number of units
of `2 ^ -powerPlaces`. It is the square root of ten to the power of `b₁.b₂…`. -/
def fractionalPower : (bits : List Bool) → Nat
  | [] => Nat.pow 2 powerPlaces
  | bit :: rest =>
    let inner := fractionalPower rest
    floorSqrt ((if bit then 10 * inner else inner) * Nat.pow 2 powerPlaces)

/-- The first binary places of a fraction `num / den` below one. -/
def placesOf (den : Nat) : (count num : Nat) → List Bool
  | 0, _ => []
  | count + 1, num =>
    if den ≤ 2 * num then true :: placesOf den count (2 * num - den)
    else false :: placesOf den count (2 * num)

/-- Ten to the power of a number that is not negative. It is infinite beyond the largest finite
number. -/
def powerOfTen : Binary64 → Binary64
  | finite _ m e =>
    let (n, d) := scaleBinary m 1 (-e)
    let whole := n / d
    if 310 < whole then infinite false
    else
      nearest false (Nat.pow 10 whole * fractionalPower (placesOf d d.log2 (n % d)))
        (Nat.pow 2 powerPlaces)
  | x => x

end Binary64

end Namesake
