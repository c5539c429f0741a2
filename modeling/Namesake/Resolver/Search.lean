import Namesake.Registry.Claim
import Namesake.Resolver.Basic

/-!
# The search for a free suffix

The search behind a taken name tries one suffix after another, continues behind the last suffix
tried for the base, and cuts the base whenever the suffix no longer fits. The number of its attempts
is limited. A suffix with more digits than may be written ends it with a fault.

## Main definitions

* `Found` — a claimed candidate
* `suffixTail`, `writeSuffix` — what comes behind a base, and writing it, which may fail
* `suffixed` — a base with a suffix, the whole cut to a limit
* `Resolver.isAvailable`, `Resolver.tryClaim` — asking for a name and claiming it
* `Resolver.searchLinear` — the search
-/

namespace Namesake

open Unicode

/-- A candidate that has been claimed. -/
structure Found where
  /-- The name. -/
  name : Text
  /-- The form under which it was claimed. -/
  nameLower : Text
  /-- Its suffix. -/
  suffix : Quantity
  deriving DecidableEq, Repr

/-- What comes behind a base: the separator and the numeral of the suffix. -/
def suffixTail : (suffix : Quantity) → Text
  | .whole n => suffixSeparator :: Text.ofInt n
  | .real x => suffixSeparator :: x.render.toList

/-- The least number that has more digits than may be written. -/
@[irreducible] def digitBound : Nat :=
  Nat.pow 10 maxDigits

/-- Does a suffix have no more digits than may be written? -/
def isWritable : (suffix : Quantity) → Bool
  | .whole n => n.natAbs < digitBound
  | .real _ => true

/-- The fault of a suffix with too many digits. -/
def tooManyDigits : Fault :=
  .badValue (s!"Exceeds the limit ({maxDigits} digits) for integer string conversion; " ++
    "use sys.set_int_max_str_digits() to increase the limit")

/-- Writes what comes behind a base. Every search writes a suffix in this way before it does
anything else with it. -/
def writeSuffix (suffix : Quantity) : Except Fault Text :=
  if isWritable suffix then return suffixTail suffix
  else throw tooManyDigits

theorem writeSuffix_of_writable {suffix : Quantity} (h : isWritable suffix = true) :
    writeSuffix suffix = .ok (suffixTail suffix) :=
  if_pos h

theorem writeSuffix_of_not_writable {suffix : Quantity} (h : ¬ isWritable suffix = true) :
    writeSuffix suffix = .error tooManyDigits :=
  if_neg h

/-- The base for a suffix: cut so that the whole keeps the limit. -/
def baseFor (name : Text) (suffix : Quantity) (limit : Limit) : Except Fault Text := do
  let tail ← writeSuffix suffix
  (limit.minus tail.length).cut name

theorem baseFor_of_writable {suffix : Quantity} (h : isWritable suffix = true) (name : Text)
    (limit : Limit) :
    baseFor name suffix limit = (limit.minus (suffixTail suffix).length).cut name := by
  rw [baseFor, writeSuffix_of_writable h]
  rfl

theorem baseFor_of_not_writable {suffix : Quantity} (h : ¬ isWritable suffix = true) (name : Text)
    (limit : Limit) : baseFor name suffix limit = .error tooManyDigits := by
  rw [baseFor, writeSuffix_of_not_writable h]
  rfl

/-- A base with a suffix, cut so that the whole keeps the limit, if anything of the base is left. -/
def suffixed (name : Text) (suffix : Quantity) (limit : Limit) : Except Fault (Option Text) := do
  let base ← baseFor name suffix limit
  return if base.isEmpty then none else some (base ++ suffixTail suffix)

theorem suffixed_of_not_writable {suffix : Quantity} (h : ¬ isWritable suffix = true) (name : Text)
    (limit : Limit) : suffixed name suffix limit = .error tooManyDigits := by
  rw [suffixed, baseFor_of_not_writable h]
  rfl

namespace Resolver

/-- Is the name free, and not reserved unless that is allowed? -/
def isAvailable (r : Resolver) (nameLower : Text) (allowReserved : Bool) : Task Bool := do
  if !allowReserved && r.reserved.holds nameLower then return false
  else return !(← Registry.isUsed nameLower)

/-- Claims a name that is available. The answer says whether the caller has it now. -/
def tryClaim (r : Resolver) (req : Request) (name nameLower : Text) : Task Bool := do
  if ← r.isAvailable nameLower req.allowReserved then
    Registry.claim req.kind nameLower (some name)
  else return false

/-- The number of characters of a text. -/
def lengthOf (t : Text) : Quantity :=
  .whole t.graphemeLength

/-- By how much a text exceeds a limit. -/
def excessOf (t : Text) (limit : Limit) : Quantity :=
  (lengthOf t).sub limit

/-- The linear search from a base on which it has come down to. `budget` attempts are left, `used`
have been used, and `lastTried` is the base and the suffix that were tried last. -/
def searchFrom (r : Resolver) (req : Request) (uncut : Text) :
    (budget : Nat) → (name nameLower : Text) → (suffix : Quantity) → (used : Nat) →
      (lastTried : Option (Text × Quantity)) → Task (Option Found × Nat)
  | 0, _, _, _, used, lastTried => do
    match lastTried with
    | some (base, suffix) => Task.recordSuffix base suffix
    | none => pure ()
    return (none, used)
  | budget + 1, name, nameLower, suffix, used, lastTried => do
    let tail ← Task.lift (writeSuffix suffix)
    let candidate := name ++ tail
    let excess := excessOf candidate req.limit
    if (0 : Quantity).lt excess then
      -- the suffix does not fit: the shorter base has a count of its own
      let cut ← Task.lift (Limit.cut (lengthOf name |>.sub excess) name)
      if cut.isEmpty then return (none, used + 1)
      else
        let cutLower := lowercase cut
        let last ← Task.lastSuffix cutLower
        searchFrom r req uncut budget cut cutLower last.next (used + 1) lastTried
    else
      let candidateLower := nameLower ++ tail
      if ← r.tryClaim req candidate candidateLower then
        -- the next search for the same base begins with the cut one
        if nameLower ≠ uncut then
          Task.recordCut uncut req.limit name.graphemeLength
        Task.recordSuffix nameLower suffix
        return (some ⟨candidate, candidateLower, suffix⟩, used + 1)
      else
        searchFrom r req uncut budget name nameLower suffix.next (used + 1)
          (some (nameLower, suffix))

section Writing

variable {r : Resolver} {req : Request} {uncut name nameLower : Text} {budget used : Nat}
variable {suffix : Quantity} {lastTried : Option (Text × Quantity)}

/-- What an attempt does with a suffix that may be written. -/
theorem searchFrom_of_writable (h : isWritable suffix = true) :
    r.searchFrom req uncut (budget + 1) name nameLower suffix used lastTried = (do
      let excess := excessOf (name ++ suffixTail suffix) req.limit
      if (0 : Quantity).lt excess then
        let cut ← Task.lift (Limit.cut (lengthOf name |>.sub excess) name)
        if cut.isEmpty then return (none, used + 1)
        else
          let cutLower := lowercase cut
          let last ← Task.lastSuffix cutLower
          r.searchFrom req uncut budget cut cutLower last.next (used + 1) lastTried
      else if ← r.tryClaim req (name ++ suffixTail suffix) (nameLower ++ suffixTail suffix) then
        if nameLower ≠ uncut then
          Task.recordCut uncut req.limit name.graphemeLength
        Task.recordSuffix nameLower suffix
        return (some ⟨name ++ suffixTail suffix, nameLower ++ suffixTail suffix, suffix⟩, used + 1)
      else
        r.searchFrom req uncut budget name nameLower suffix.next (used + 1)
          (some (nameLower, suffix))) := by
  rw [searchFrom, writeSuffix_of_writable h]
  rfl

/-- A suffix that may not be written ends the search. -/
theorem searchFrom_of_not_writable (h : ¬ isWritable suffix = true) :
    r.searchFrom req uncut (budget + 1) name nameLower suffix used lastTried =
      throw tooManyDigits := by
  rw [searchFrom, writeSuffix_of_not_writable h]
  rfl

end Writing

/-- The linear search for a free suffix behind a base, with the number of attempts it took. It
begins at the cut that was needed for the base before, and behind the last suffix tried. -/
def searchLinear (r : Resolver) (req : Request) (name : Text) : Task (Option Found × Nat) := do
  let uncut := lowercase name
  let start :=
    match ← Task.cutLength? uncut req.limit with
    | some length =>
      let cut := name.cutTo length
      if cut.isEmpty then name else cut
    | none => name
  let startLower := lowercase start
  let last ← Task.lastSuffix startLower
  searchFrom r req uncut r.maxAttempts start startLower last.next 0 none

end Resolver

end Namesake
