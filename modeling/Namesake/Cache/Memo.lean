import Namesake.Cache.Recency
import Namesake.Name.Limit

/-!
# Caches by a setting

The capacity of a cache is a setting. No room at all turns the cache off: it keeps nothing, and
nobody minds. Some room, but less than one entry needs, makes every write fail.

## Main definitions

* `Memo` — a cache by a setting
* `Memo.ofCapacity` — the empty cache that a setting asks for
* `Memo.read?`, `Memo.readD`, `Memo.write` — reading and writing

## Main results

* `Memo.write_bounded` — where an entry fits, writing never fails
-/

namespace Namesake

/-- A cache by a setting. -/
inductive Memo (κ ν : Type) where
  /-- A cache with room for some whole entries, perhaps none. -/
  | bounded (cache : Recency κ ν)
  /-- A cache with less room than one entry needs. -/
  | cramped
  deriving Repr

namespace Memo

variable {κ ν : Type} [DecidableEq κ]

/-- The capacity of a cache that is never full. -/
def boundless : Nat := Nat.pow 2 64

/-- The empty cache for a capacity. -/
def ofRoom (capacity : Quantity) : Memo κ ν :=
  if capacity.same 0 then .bounded (.empty 0)
  else if capacity.lt 1 then .cramped
  else .bounded (.empty ((capacity.floor?.map Int.toNat).getD boundless))

/-- The empty cache that a setting asks for. There is no negative capacity. -/
def ofCapacity (setting : Json) : Except Fault (Memo κ ν) := do
  let capacity ← Limit.ofJson setting
  if capacity.lt 0 then throw (.badValue "capacity must not be negative")
  else return ofRoom capacity

/-- A cache that keeps nothing. -/
def off : Memo κ ν :=
  .bounded (.empty 0)

/-- Does the cache keep nothing, without failing? -/
def isOff : Memo κ ν → Bool
  | bounded c => c.capacity = 0
  | cramped => false

/-- How many entries are kept. -/
def size : Memo κ ν → Nat
  | bounded c => c.size
  | cramped => 0

/-- Reads an entry, which is then the one used last. -/
def read? (m : Memo κ ν) (key : κ) : Option ν × Memo κ ν :=
  match m with
  | bounded c =>
    let (found, c) := c.read? key
    (found, bounded c)
  | cramped => (none, cramped)

/-- The value of an entry, or a default in its absence. -/
def readD (m : Memo κ ν) (key : κ) (default : ν) : ν × Memo κ ν :=
  let (found, m) := m.read? key
  (found.getD default, m)

/-- Writes an entry, which is then the one used last. -/
def write (m : Memo κ ν) (key : κ) (value : ν) : Except Fault (Memo κ ν) :=
  match m with
  | bounded c => return bounded (c.write key value)
  | cramped => throw (.badValue "value too large")

@[simp] theorem write_bounded (c : Recency κ ν) (key : κ) (value : ν) :
    (bounded c).write key value = .ok (bounded (c.write key value)) := rfl

end Memo

end Namesake
