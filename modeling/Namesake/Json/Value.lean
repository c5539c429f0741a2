import Namesake.Number.Quantity

/-!
# JSON values

Events, settings, log entries and answers are JSON values. Whole numbers and fractions are told
apart, and the fields of an object keep the order in which they were first written.

## Main definitions

* `Json` — a JSON value
* `Fields` — the fields of an object, with `set` and `merge`
* `Json.truthy` — whether a value counts as present and not empty
-/

namespace Namesake

/-- A JSON value. -/
inductive Json where
  | null
  | bool (value : Bool)
  | int (value : Int)
  | float (value : Binary64)
  | str (value : String)
  | arr (items : List Json)
  | obj (fields : List (String × Json))
  deriving Repr

/-- The fields of an object in the order in which they were first set. -/
abbrev Fields := List (String × Json)

namespace Fields

/-- The value of a field. -/
def get? (fields : Fields) (key : String) : Option Json :=
  fields.lookup key

/-- Sets a field. A field that exists keeps its place. -/
def set : Fields → String → Json → Fields
  | [], key, value => [(key, value)]
  | (k, v) :: rest, key, value =>
    if k = key then (k, value) :: rest else (k, v) :: set rest key value

/-- Sets the fields of the second object one after another in the first. -/
def merge (fields more : Fields) : Fields :=
  more.foldl (fun acc field => acc.set field.1 field.2) fields

/-- The field that is set only when the condition holds. -/
def when (condition : Bool) (key : String) (value : Json) : Fields :=
  if condition then [(key, value)] else []

end Fields

namespace Json

/-- Does the value count as present? The empty values do not: null, false, zero and what has no
characters, items or fields. -/
def truthy : Json → Bool
  | null => false
  | bool b => b
  | int i => i ≠ 0
  | float x => !x.isZero
  | str s => !s.isEmpty
  | arr items => !items.isEmpty
  | obj fields => !fields.isEmpty

/-- A string, or null in its absence. -/
def ofString? : Option String → Json
  | some s => .str s
  | none => .null

/-- The field of an object. -/
def field? (key : String) : Json → Option Json
  | obj fields => fields.lookup key
  | _ => none

/-- The text of a string value. -/
def string? : Json → Option String
  | str s => some s
  | _ => none

/-- The characters of a string value, and none of any other. -/
def textOrEmpty : Json → List Char
  | str s => s.toList
  | _ => []

/-- The number of a whole-number value. -/
def int? : Json → Option Int
  | int i => some i
  | _ => none

/-- The number that a value stands for, if any. A truth value counts as one or zero. -/
def quantity? : Json → Option Quantity
  | int i => some (.whole i)
  | bool b => some (.whole (if b then 1 else 0))
  | float x => some (.real x)
  | _ => none

/-- A number as a value. -/
def ofQuantity : Quantity → Json
  | .whole n => int n
  | .real x => float x

/-- The items of an array value. -/
def items? : Json → Option (List Json)
  | arr items => some items
  | _ => none

/-- What a value is made of: the items of a list, the characters of a string, the names of the
fields of an object. -/
def elements? : Json → Option (List Json)
  | arr items => some items
  | str s => some (s.toList.map fun c => str (String.singleton c))
  | obj fields => some (fields.map fun f => str f.1)
  | _ => none

/-- A list of strings as a value. -/
def ofStrings (strings : List String) : Json :=
  .arr (strings.map .str)

end Json

end Namesake
