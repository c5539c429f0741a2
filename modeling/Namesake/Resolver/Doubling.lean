import Namesake.Resolver.Search

/-!
# The search without an end

For fallback names there is a search that does not give up: it doubles the suffix until a candidate
is free and then bisects down to a free one whose predecessor is not, so it finds a free suffix if
there is any, however many are taken.

## Main definitions

* `maxSuffix` — the largest suffix that leaves room for one character of a base
* `Resolver.suffixAvailable` — is a suffixed form of a name available?
* `Resolver.climb`, `Resolver.bisect` — doubling and bisecting
* `Resolver.offerAbove`, `Resolver.claimOr`, `Resolver.searchAbove` — the search
-/

namespace Namesake

open Unicode

/-- The largest suffix that leaves room for one character of a base. -/
def maxSuffix (maxLength : Nat) : Nat :=
  Nat.pow 10 (maxLength - 2) - 1

namespace Resolver

/-- Is the suffixed form of the name available? -/
def suffixAvailable (r : Resolver) (req : Request) (name : Text) (suffix : Quantity) :
    Task Bool := do
  match ← Task.lift (suffixed name suffix req.limit) with
  | some candidate => r.isAvailable (lowercase candidate) req.allowReserved
  | none => return false

/-- Doubles the suffix `upper` until its candidate is available. `lower` is the suffix tried before.
The answer is the last two suffixes, or nothing if the largest suffix `top` is not available either,
and the number of attempts. -/
def climb (r : Resolver) (req : Request) (name : Text) (top lower upper attempts : Nat) :
    Task (Option (Nat × Nat) × Nat) := do
  if ← r.suffixAvailable req name (.whole upper) then return (some (lower, upper), attempts)
  else if h : upper < min (2 * upper) top then
    climb r req name top upper (min (2 * upper) top) (attempts + 1)
  else return (none, attempts)
termination_by top - upper
decreasing_by omega

/-- Halves the distance between the available suffix `upper` and `lower` until they are neighbours.
The answer is the available one, and the number of attempts. -/
def bisect (r : Resolver) (req : Request) (name : Text) (lower upper attempts : Nat) :
    Task (Nat × Nat) := do
  if h : lower + 1 < upper then
    let middle := (lower + upper) / 2
    if ← r.suffixAvailable req name (.whole middle) then
      bisect r req name lower middle (attempts + 1)
    else bisect r req name middle upper (attempts + 1)
  else return (upper, attempts)
termination_by upper - lower
decreasing_by all_goals omega

/-- Claims the suffixed form of a name, which is available. The answer is nothing if the claim is
lost to another worker. -/
def claimSuffixed (req : Request) (name : Text) (suffix : Quantity) : Task (Option Found) := do
  let base ← Task.lift (baseFor name suffix req.limit)
  let candidate := base ++ suffixTail suffix
  let candidateLower := lowercase candidate
  if ← Registry.claim req.kind candidateLower (some candidate) then
    Task.recordSuffix (lowercase base) suffix
    return some ⟨candidate, candidateLower, suffix⟩
  else return none

/-- The lowest suffix above `lower` that doubling and bisecting find available, among suffixes up to
`top`, and the number of attempts. -/
def offerAbove (r : Resolver) (req : Request) (name : Text) (top lower attempts : Nat) :
    Task (Option Nat × Nat) := do
  match ← r.climb req name top lower (min (lower + 1) top) (attempts + 1) with
  | (none, attempts) => return (none, attempts)
  | (some (lower, upper), attempts) =>
    let (suffix, attempts) ← r.bisect req name lower upper attempts
    return (some suffix, attempts)

/-- Claims the suffixed form of a name, which is available, after `attempts` attempts. If the claim
is lost to another worker, `more` is what is done next. -/
def claimOr (req : Request) (name : Text) (suffix : Quantity) (attempts : Nat)
    (more : Task (Option Found × Nat)) : Task (Option Found × Nat) := do
  match ← claimSuffixed req name suffix with
  | some found => return (some found, attempts)
  | none => more

/-- The search above the suffix `lower`, among suffixes up to `top`. Each time the claim is lost to
another worker the search goes on above the lost suffix; `losses` bounds how often that may happen.
-/
def searchAbove (r : Resolver) (req : Request) (name : Text) (top : Nat) :
    (losses : Nat) → (lower attempts : Nat) → Task (Option Found × Nat)
  | losses, lower, attempts => do
    match ← r.offerAbove req name top lower attempts with
    | (none, attempts) => return (none, attempts)
    | (some suffix, attempts) =>
      claimOr req name (.whole suffix) attempts
        (match losses with
        | losses + 1 => searchAbove r req name top losses suffix attempts
        | 0 => return (none, attempts))

/-- How many claims can still be lost: as many as there are names that others are about to take, and
one more if a save is going to fail or a look-up is going to miss a row. -/
def pendingLosses (s : Session) : Nat :=
  s.worker.contention.stolen.length + (if s.shared.outage.isSome then 1 else 0)

end Resolver

end Namesake
