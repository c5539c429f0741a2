/-!
# A cache that forgets what was used least recently

The entries stand in the order of their last use, the latest first. Writing an entry and reading one
that exists both count as use; reading a missing one does not. When a new entry does not fit, the
entry at the end is forgotten. A cache without capacity keeps nothing.

## Main definitions

* `Recency` — a cache
* `Recency.read?`, `Recency.readD`, `Recency.write` — reading and writing
-/

namespace Namesake

/-- A bounded cache, its entries in the order of their last use. -/
structure Recency (κ ν : Type) where
  /-- How many entries are kept at most. -/
  capacity : Nat
  /-- The entries, the one used last in front. -/
  entries : List (κ × ν)
  deriving Repr

namespace Recency

variable {κ ν : Type} [DecidableEq κ]

/-- A cache in which nothing has been written. -/
def empty (capacity : Nat) : Recency κ ν :=
  ⟨capacity, []⟩

/-- How many entries are kept. -/
def size (c : Recency κ ν) : Nat :=
  c.entries.length

/-- The entries of other keys. -/
def others (c : Recency κ ν) (key : κ) : List (κ × ν) :=
  c.entries.filter fun e => e.1 ≠ key

/-- The value of a key, without using the entry. -/
def peek? (c : Recency κ ν) (key : κ) : Option ν :=
  (c.entries.find? fun e => e.1 = key).map (·.2)

/-- Writes an entry, which is then the one used last. -/
def write (c : Recency κ ν) (key : κ) (value : ν) : Recency κ ν :=
  ⟨c.capacity, ((key, value) :: c.others key).take c.capacity⟩

/-- Reads an entry, which is then the one used last. -/
def read? (c : Recency κ ν) (key : κ) : Option ν × Recency κ ν :=
  match c.peek? key with
  | some value => (some value, ⟨c.capacity, (key, value) :: c.others key⟩)
  | none => (none, c)

/-- The value of an entry, or a default in its absence. -/
def readD (c : Recency κ ν) (key : κ) (default : ν) : ν × Recency κ ν :=
  let (found, c) := c.read? key
  (found.getD default, c)

end Recency

end Namesake
