import Namesake.Json.Value

/-!
# Equality of values

Two values are equal if they have the same content. Numbers are compared by what they stand for, so
a whole number may equal a fraction, truth values count as one and zero, and the order of the fields
of an object does not matter.

## Main definitions

* `Json.equals` — are two values equal?
-/

namespace Namesake.Json

/-- Are two numbers or truth values equal? -/
def sameNumber (a b : Json) : Bool :=
  match a.quantity?, b.quantity? with
  | some x, some y => x.same y
  | _, _ => false

mutual

/-- Are two values equal? -/
def equals : Json → Json → Bool
  | .null, .null => true
  | .str a, .str b => a = b
  | .arr xs, .arr ys => equalItems xs ys
  | .obj xs, .obj ys => xs.length = ys.length && equalFields xs ys
  | a, b => sameNumber a b

/-- Are the items of two lists equal? -/
def equalItems : List Json → List Json → Bool
  | [], [] => true
  | x :: xs, y :: ys => equals x y && equalItems xs ys
  | _, _ => false

/-- Does the second object have all fields of the first, with equal values? -/
def equalFields : List (String × Json) → List (String × Json) → Bool
  | [], _ => true
  | (key, x) :: xs, ys =>
    (match ys.lookup key with
      | some y => equals x y
      | none => false) && equalFields xs ys

end

end Namesake.Json
