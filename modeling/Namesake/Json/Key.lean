import Namesake.Json.Value

/-!
# Values as keys

Null, numbers and strings can be keys of a collection, while lists and objects cannot. Numbers are
the same key if they stand for the same number, and truth values count as one and zero.

## Main definitions

* `Key` — a key
* `Json.key?` — the key that a value is
-/

namespace Namesake

/-- A key of a collection. -/
inductive Key where
  | null
  /-- A number in its normal form. -/
  | number (value : Quantity)
  | text (value : String)
  deriving DecidableEq, Repr

namespace Json

/-- The key that a value is, if it can be one. -/
def key? : Json → Option Key
  | null => some .null
  | str s => some (.text s)
  | v => v.quantity?.map fun q => .number q.normal

end Json

end Namesake
