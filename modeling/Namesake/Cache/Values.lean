import Namesake.Cache.Memo
import Namesake.Json.Key

/-!
# Caches of any values

A cache whose keys and entries are given as values, as a caller from outside gives them. A key may
be made of several values, each of which has to be one that can be a key; a cache that is off never
looks at them.

## Main definitions

* `ValueCache` — a cache of values
* `ValueCache.read?`, `ValueCache.record` — reading and writing
* `Json.successor` — the value one larger
-/

namespace Namesake

/-- The value one larger than a number. -/
def Json.successor (v : Json) : Except Fault Json :=
  match v.quantity? with
  | some q => return .ofQuantity q.next
  | none => throw (.badType s!"one cannot be added to '{v.typeName}'")

/-- A cache of values. -/
abbrev ValueCache := Memo (List Key) Json

namespace ValueCache

/-- The key that is made of some values. -/
def keyOf (values : List Json) : Except Fault (List Key) :=
  values.mapM fun v =>
    match v.key? with
    | some key => return key
    | none => throw (.noKey v)

/-- Reads an entry, which is then the one used last. -/
def read? (c : ValueCache) (values : List Json) : Except Fault (Option Json × ValueCache) := do
  if c.isOff then return (none, c) else return Memo.read? c (← keyOf values)

/-- Writes an entry, which is then the one used last. -/
def record (c : ValueCache) (values : List Json) (entry : Json) : Except Fault ValueCache := do
  match c with
  | .cramped => c.write [] entry
  | .bounded _ => if c.isOff then return c else c.write (← keyOf values) entry

end ValueCache

end Namesake
