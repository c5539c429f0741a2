import Namesake.Number.Arithmetic

/-!
# Quantities

A limit, a capacity or a suffix is a whole number of any size, or a binary floating-point number.
Two quantities are compared by what they stand for, without rounding. Arithmetic is exact on whole
numbers and rounds as soon as one of the operands is a floating-point number.

## Main definitions

* `Quantity` — a number of either sort
* `Quantity.lt`, `Quantity.same` — exact comparison
* `Quantity.add`, `Quantity.sub`, `Quantity.halfSum` — arithmetic
* `Quantity.floor?`, `Quantity.ceil?` — the neighbouring whole numbers
* `Quantity.normal` — one form for all quantities that stand for the same number
* `maxDigits` — how many digits a whole number may have in a text

## Main results

* `Quantity.lt_whole`, `Quantity.add_whole`, `Quantity.sub_whole` — whole numbers are compared,
  added and subtracted as integers
-/

namespace Namesake

/-- A number: a whole one of any size, or a floating-point one. -/
inductive Quantity where
  | whole (n : Int)
  | real (x : Binary64)
  deriving DecidableEq, Repr

/-- The most digits of a whole number that is read from a text or written to one. -/
def maxDigits : Nat := 4300

/-- Where a quantity lies on the number line. -/
inductive Place where
  /-- Below all others. -/
  | below
  /-- At a fraction. -/
  | at (num : Int) (den : Nat)
  /-- Above all others. -/
  | above
  /-- Not on the line. -/
  | nowhere
  deriving DecidableEq, Repr

namespace Place

/-- Does the first place lie before the second? -/
def lt : Place → Place → Bool
  | .at a b, .at c d => a * d < c * b
  | below, .at .. | below, above | .at .., above => true
  | _, _ => false

/-- Are the two places the same? -/
def same : Place → Place → Bool
  | .at a b, .at c d => a * d = c * b
  | below, below | above, above => true
  | _, _ => false

end Place

namespace Quantity

instance (n : Nat) : OfNat Quantity n := ⟨.whole n⟩

/-- Where the quantity lies. -/
def place : Quantity → Place
  | whole n => .at n 1
  | real (.finite negative m e) =>
    let (n, d) := Binary64.fraction negative m e
    .at n d
  | real (.infinite negative) => if negative then .below else .above
  | real .nan => .nowhere

/-- Is the first quantity smaller? -/
def lt (a b : Quantity) : Bool :=
  a.place.lt b.place

/-- Do the two quantities stand for the same number? -/
def same (a b : Quantity) : Bool :=
  a.place.same b.place

/-- Is the first quantity smaller, or are they the same? -/
def le (a b : Quantity) : Bool :=
  a.lt b || a.same b

/-- The smaller one of two quantities. Unless the second is smaller it is the first. -/
def min (a b : Quantity) : Quantity :=
  if b.lt a then b else a

/-- The floating-point number nearest to the quantity. -/
def toReal : Quantity → Binary64
  | whole n => .ofInt n
  | real x => x

/-- Is the quantity a whole number beyond all floating-point numbers? -/
def isBeyondReals : Quantity → Bool
  | whole n =>
    match Binary64.ofInt n with
    | .infinite _ => true
    | _ => false
  | real _ => false

/-- The sum of two quantities. -/
def add : Quantity → Quantity → Quantity
  | whole m, whole n => whole (m + n)
  | a, b => real (a.toReal.add b.toReal)

/-- The difference of two quantities. -/
def sub : Quantity → Quantity → Quantity
  | whole m, whole n => whole (m - n)
  | a, b => real (a.toReal.sub b.toReal)

/-- Half the sum of two quantities, without what stands behind the point. -/
def halfSum (a b : Quantity) : Quantity :=
  match a.add b with
  | whole n => whole (n / 2)
  | real x => real x.floorHalf

/-- Twice a quantity. -/
def double : Quantity → Quantity
  | whole n => whole (2 * n)
  | real x => real (x.add x)

/-- The quantity behind a quantity, one larger. -/
def next (a : Quantity) : Quantity :=
  a.add 1

/-- The largest whole number that is not above the quantity, if there is one. -/
def floor? (a : Quantity) : Option Int :=
  match a.place with
  | .at n d => some (n / d)
  | _ => none

/-- The smallest whole number that is not below the quantity, if there is one. -/
def ceil? (a : Quantity) : Option Int :=
  match a.place with
  | .at n d => some (-(-n / d))
  | _ => none

/-- Is the quantity written without a point? -/
def isWhole : Quantity → Bool
  | whole _ => true
  | real _ => false

/-- The quantity, as a whole number if it stands for one. -/
def normal (a : Quantity) : Quantity :=
  match a.place with
  | .at n d => if n % d = 0 then whole (n / d) else a
  | _ => a

/-- The decimal text of a quantity. -/
def text : Quantity → String
  | whole n => toString n
  | real x => x.render

@[simp] theorem lt_whole (m n : Int) : (whole m).lt (whole n) = decide (m < n) := by
  simp [lt, place, Place.lt]

@[simp] theorem same_whole (m n : Int) : (whole m).same (whole n) = decide (m = n) := by
  simp [same, place, Place.same]

@[simp] theorem le_whole (m n : Int) : (whole m).le (whole n) = decide (m ≤ n) := by
  simp only [le, lt_whole, same_whole]
  rw [Bool.eq_iff_iff]
  simp
  omega

@[simp] theorem min_whole (m n : Int) : (whole m).min (whole n) = whole (Min.min m n) := by
  simp only [min, lt_whole, decide_eq_true_eq]
  split <;> congr 1 <;> omega

@[simp] theorem add_whole (m n : Int) : (whole m).add (whole n) = whole (m + n) := rfl

@[simp] theorem sub_whole (m n : Int) : (whole m).sub (whole n) = whole (m - n) := rfl

@[simp] theorem halfSum_whole (m n : Int) : (whole m).halfSum (whole n) = whole ((m + n) / 2) := rfl

@[simp] theorem next_whole (n : Int) : (whole n).next = whole (n + 1) := rfl

@[simp] theorem floor?_whole (n : Int) : (whole n).floor? = some n := by
  simp [floor?, place]

@[simp] theorem ceil?_whole (n : Int) : (whole n).ceil? = some n := by
  simp [ceil?, place]

@[simp] theorem normal_whole (n : Int) : (whole n).normal = whole n := by
  simp [normal, place]

end Quantity

end Namesake
