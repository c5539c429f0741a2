import Namesake.Cache.Memo

/-!
# What a resolver remembers between names

Two caches shorten the search for a free name: the last suffix tried behind a base, and the length
to which a long base had to be cut. Both only speed the search up, since every candidate is checked
against the registry anyway.

## Main definitions

* `SuffixCache` — the last suffix per lower-case base
* `TruncationCache` — the cut length per lower-case base and length limit
* `SuffixCache.last`, `SuffixCache.next` — the last suffix behind a base, and the one to try next
-/

namespace Namesake

/-- The last suffix issued or tried behind each lower-case base. -/
abbrev SuffixCache := Memo Text Quantity

namespace SuffixCache

/-- How many bases the suffix cache remembers if nothing else is said. -/
def defaultCapacity : Nat := 1000

/-- The last suffix behind a base, zero if it is not known. -/
def last (c : SuffixCache) (base : Text) : Quantity × SuffixCache :=
  c.readD base 0

/-- The suffix to try next behind a base. -/
def next (c : SuffixCache) (base : Text) : Quantity × SuffixCache :=
  let (n, c) := last c base
  (n.next, c)

end SuffixCache

/-- The length to which each lower-case base had to be cut under each length limit. Limits that
stand for the same number are the same. -/
abbrev TruncationCache := Memo (Text × Limit) Nat

namespace TruncationCache

/-- How many bases the truncation cache remembers if nothing else is said. -/
def defaultCapacity : Nat := 500

/-- The length to which a base had to be cut under a length limit. -/
def cutLength? (c : TruncationCache) (base : Text) (limit : Limit) : Option Nat × TruncationCache :=
  c.read? (base, limit.normal)

/-- Remembers the length to which a base had to be cut under a length limit. -/
def record (c : TruncationCache) (base : Text) (limit : Limit) (length : Nat) :
    Except Fault TruncationCache :=
  c.write (base, limit.normal) length

end TruncationCache

end Namesake
