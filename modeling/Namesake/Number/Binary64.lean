/-!
# Binary floating-point numbers, exactly

A measured duration, or a fraction in a message, is a binary number of double precision. All that is
asked of such a number is to read it from decimal text, to round it to two decimal places and to
write it with the fewest digits that read back as the same number. So the number is kept as an exact
mantissa and exponent, and all three are integer arithmetic.

## Main definitions

* `Binary64` — a double-precision number, the infinities and not-a-number included
* `Binary64.ofDecimal` — the nearest number to a decimal
* `Binary64.roundPlaces` — the number nearest to its value rounded to some decimal places
* `Binary64.digits` — the fewest decimal digits that read back
* `Binary64.render` — the decimal text of a number
-/

namespace Namesake

/-- A number of double precision. A finite one is `mantissa * 2 ^ exponent`, with a mantissa below
`2 ^ 53` and an exponent of at least `-1074`; the sign of zero is kept. -/
inductive Binary64 where
  | finite (negative : Bool) (mantissa : Nat) (exponent : Int)
  | infinite (negative : Bool)
  | nan
  deriving DecidableEq, Repr

namespace Binary64

/-- The quotient rounded to the nearest integer, a half to the even neighbour. -/
def roundDiv (num den : Nat) : Nat :=
  let q := num / den
  let r := num % den
  if 2 * r < den then q else if den < 2 * r then q + 1 else q + q % 2

/-- The least mantissa of 53 bits, `2 ^ 52`. -/
def leastFull : Nat := 0x10000000000000

/-- The fraction `num / den / 2 ^ e` as a numerator and a denominator. -/
def scaleBinary (num den : Nat) (e : Int) : Nat × Nat :=
  if 0 ≤ e then (num, den * Nat.pow 2 e.toNat) else (num * Nat.pow 2 (-e).toNat, den)

/-- The smallest exponent of a finite number. -/
def minExponent : Int := -1074

/-- The largest exponent of a finite number. -/
def maxExponent : Int := 971

/-- The exponent at which the fraction has a mantissa of 53 bits, or the smallest exponent. -/
def exponentFor (num den : Nat) : Int :=
  let estimate : Int := (num.log2 : Int) - den.log2 - 52
  let (n, d) := scaleBinary num den estimate
  max minExponent (if n < leastFull * d then estimate - 1 else estimate)

/-- The number nearest to a fraction, an exact half going to the even mantissa. -/
def nearest (negative : Bool) (num den : Nat) : Binary64 :=
  if num = 0 then .finite negative 0 minExponent
  else
    let e := exponentFor num den
    let (n, d) := scaleBinary num den e
    let m := roundDiv n d
    -- rounding up may carry into one bit more
    let (m, e) := if m = 2 * leastFull then (leastFull, e + 1) else (m, e)
    if maxExponent < e then .infinite negative else .finite negative m e

/-- The fraction `n * 10 ^ e` as a numerator and a denominator. -/
def scaleDecimal (n : Nat) (e : Int) : Nat × Nat :=
  if 0 ≤ e then (n * Nat.pow 10 e.toNat, 1) else (n, Nat.pow 10 (-e).toNat)

/-- The number nearest to `n * 10 ^ e`. Decimals far beyond either end of the range are decided by
their size alone. -/
def ofDecimal (negative : Bool) (n : Nat) (e : Int) : Binary64 :=
  let size : Int := (Nat.toDigits 10 n).length + e
  if n = 0 ∨ size < -330 then .finite negative 0 minExponent
  else if 310 < size then .infinite negative
  else
    let (num, den) := scaleDecimal n e
    nearest negative num den

/-- Is the number zero, of either sign? -/
def isZero : Binary64 → Bool
  | finite _ 0 _ => true
  | _ => false

/-- The integer part of a finite number, towards zero. -/
def truncate? : Binary64 → Option Int
  | finite negative m e =>
    let (n, d) := scaleBinary m 1 (-e)
    let whole : Int := ((n / d : Nat) : Int)
    some (if negative then -whole else whole)
  | _ => none

/-- Is the number a whole one? -/
def isWhole : Binary64 → Bool
  | finite _ m e =>
    let (n, d) := scaleBinary m 1 (-e)
    n % d = 0
  | _ => false

/-- The largest integer that is not above a finite number. -/
def floor? (x : Binary64) : Option Int :=
  match x with
  | finite true _ _ => x.truncate?.map fun n => if x.isWhole then n else n - 1
  | _ => x.truncate?

/-- The number nearest to the value rounded to the given number of decimal places, where a half
goes to the even neighbour. -/
def roundPlaces (places : Nat) : Binary64 → Binary64
  | finite negative m e =>
    let (n, d) := scaleBinary m 1 (-e)
    nearest negative (roundDiv (n * Nat.pow 10 places) d) (Nat.pow 10 places)
  | x => x

/-- The position of the first digit of the fraction: the power of ten of its leading digit, found by
counting from an estimate that is never too large. -/
def leadingPower (num den : Nat) : Nat → Int → Int
  | 0, p => p
  | fuel + 1, p =>
    let (n, d) := scaleDecimal den (p + 1)
    if n ≤ num * d then leadingPower num den fuel (p + 1) else p

/-- The best decimal of at most `count` digits for the fraction `4 * m * 2 ^ (e - 2)`, as digits and
power of ten, if one reads back: `lower` and `upper` are the ends of the interval of values that
read back, at the same scale, and `closed` says whether the ends belong to it. -/
def candidate? (value lower upper : Nat) (e : Int) (closed : Bool) (lead : Int) (count : Nat) :
    Option (Nat × Int) :=
  let power := lead - (count : Int) + 1
  let (unit, scale) := scaleDecimal 1 power
  let (two, one) := scaleBinary 1 1 (-e)
  let v := value * two * scale
  let u := unit * one
  let below := v / u
  let reads (k : Nat) : Bool :=
    if closed then lower * two * scale ≤ k * u && k * u ≤ upper * two * scale
    else lower * two * scale < k * u && k * u < upper * two * scale
  let r := v % u
  match reads below, reads (below + 1) with
  | true, true =>
    some (if 2 * r < u ∨ (2 * r = u ∧ below % 2 = 0) then (below, power) else (below + 1, power))
  | true, false => some (below, power)
  | false, true => some (below + 1, power)
  | false, false => none

/-- The first count of digits, from `count` on, with a decimal that reads back. Seventeen digits
always do. -/
def shortestFrom (value lower upper : Nat) (e : Int) (closed : Bool) (lead : Int) :
    Nat → Nat → Nat × Int
  | 0, count => (candidate? value lower upper e closed lead count).getD (0, 0)
  | fuel + 1, count =>
    match candidate? value lower upper e closed lead count with
    | some best => best
    | none => shortestFrom value lower upper e closed lead fuel (count + 1)

/-- The fewest decimal digits that read back as the number `m * 2 ^ e`, and their power of ten. Of
several decimals with that many digits it is the nearest. -/
def digits (m : Nat) (e : Int) : Nat × Int :=
  let value := 4 * m
  let lower := if m = leastFull ∧ minExponent < e then value - 1 else value - 2
  let (num, den) := scaleBinary value 1 (-(e - 2))
  let lead := leadingPower num den 640 (-325)
  shortestFrom value lower (value + 2) (e - 2) (m % 2 = 0) lead 16 1

/-- Removes the zeros at the end of a numeral. -/
def dropZeros (ds : List Char) : List Char :=
  (ds.reverse.dropWhile (· = '0')).reverse

/-- The text of a positive value given by its digits, of which the first stands at the power of ten
`lead`. Values from `0.0001` up to, but not including, `1e16` are written out, with at least one
digit behind the point; all others have an exponent of at least two digits. -/
def layout (ds : List Char) (lead : Int) : List Char :=
  if -4 ≤ lead ∧ lead < 16 then
    if lead < 0 then "0.".toList ++ List.replicate (-lead - 1).toNat '0' ++ ds
    else
      let whole := lead.toNat + 1
      let padded := ds ++ List.replicate (whole - ds.length) '0'
      let fraction := padded.drop whole
      padded.take whole ++ '.' :: (if fraction.isEmpty then ['0'] else fraction)
  else
    let mantissa :=
      match ds with
      | [] => []
      | [d] => [d]
      | d :: rest => d :: '.' :: rest
    let size := Nat.toDigits 10 lead.natAbs
    mantissa ++ 'e' :: (if lead < 0 then '-' else '+') ::
      ((if size.length < 2 then ['0'] else []) ++ size)

/-- The decimal text of a number. -/
def render : Binary64 → String
  | nan => "nan"
  | infinite negative => if negative then "-inf" else "inf"
  | finite negative m e =>
    let body :=
      if m = 0 then "0.0".toList
      else
        let (n, power) := digits m e
        let ds := Nat.toDigits 10 n
        layout (dropZeros ds) (power + ds.length - 1)
    String.ofList (if negative then '-' :: body else body)

end Binary64

end Namesake
