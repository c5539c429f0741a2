import Namesake.Resolver.Doubling

/-!
# The search without an end among rounded numbers

If the limit or the last suffix is a floating-point number, the suffixes are rounded as soon as they
meet it, and neighbours may be further apart than one. Doubling and bisecting go on as they do among
whole numbers. Doubling reaches the largest suffix, or the end of the floating-point numbers, within
some thousand steps, and bisecting leaves nothing between two numbers within as many; a search that
takes longer would never end.

## Main definitions

* `largestSuffix` — the largest suffix under any limit
* `Resolver.climbRounded`, `Resolver.bisectRounded`, `Resolver.offerRounded`,
  `Resolver.searchRounded` — the search
* `Resolver.searchDoubling` — the search without an end, among whole numbers where it can be

## Main results

* `largestSuffix_whole` — under a whole limit the largest suffix is the whole one
-/

namespace Namesake

open Unicode

/-- The largest suffix that leaves room for one character of a base, as far as it can be worked
out. -/
def largestSuffix : (limit : Limit) → Except Fault Quantity
  | .whole n => return .whole (maxSuffix n.toNat)
  | .real x =>
    let exponent := (x.sub (.ofInt 1)).sub (.ofInt 1)
    match exponent, exponent.powerOfTen with
    | .finite .., .infinite _ => throw (.overflow "(34, 'Numerical result out of range')")
    | _, power => return .real (power.sub (.ofInt 1))

theorem largestSuffix_whole (n : Int) :
    largestSuffix (.whole n) = .ok (.whole (maxSuffix n.toNat)) := rfl

/-- Checks that two quantities can meet: next to a floating-point number a whole one must not be
beyond all of them. -/
def checkMeeting (a b : Quantity) : Except Fault Unit :=
  if (a.isWhole && !b.isWhole && a.isBeyondReals) ||
    (b.isWhole && !a.isWhole && b.isBeyondReals) then
    throw (.overflow "int too large to convert to float")
  else return ()

namespace Resolver

/-- Doubles the suffix `upper` until its candidate is available, among any numbers. -/
def climbRounded (r : Resolver) (req : Request) (name : Text) (top : Quantity) :
    (fuel : Nat) → (lower upper : Quantity) → (attempts : Nat) →
      Task (Option (Quantity × Quantity) × Nat)
  | 0, _, _, attempts => return (none, attempts)
  | fuel + 1, lower, upper, attempts => do
    if ← r.suffixAvailable req name upper then return (some (lower, upper), attempts)
    else if upper.same top then return (none, attempts)
    else climbRounded r req name top fuel upper (upper.double.min top) (attempts + 1)

/-- Halves the distance between the available suffix `upper` and `lower` until it is one at most,
among any numbers. -/
def bisectRounded (r : Resolver) (req : Request) (name : Text) :
    (fuel : Nat) → (lower upper : Quantity) → (attempts : Nat) → Task (Quantity × Nat)
  | 0, _, upper, attempts => return (upper, attempts)
  | fuel + 1, lower, upper, attempts => do
    Task.lift (checkMeeting upper lower)
    if (1 : Quantity).lt (upper.sub lower) then
      let middle := lower.halfSum upper
      if ← r.suffixAvailable req name middle then
        bisectRounded r req name fuel lower middle (attempts + 1)
      else bisectRounded r req name fuel middle upper (attempts + 1)
    else return (upper, attempts)

/-- How many steps doubling or bisecting may take. -/
def roundedSteps : Nat := 100000

/-- The suffix above `lower` that doubling and bisecting find available, among any numbers up to
`top`, and the number of attempts. -/
def offerRounded (r : Resolver) (req : Request) (name : Text) (top lower : Quantity)
    (attempts : Nat) : Task (Option Quantity × Nat) := do
  match ← r.climbRounded req name top roundedSteps lower (lower.next.min top) (attempts + 1) with
  | (none, attempts) => return (none, attempts)
  | (some (lower, upper), attempts) =>
    let (suffix, attempts) ← r.bisectRounded req name roundedSteps lower upper attempts
    return (some suffix, attempts)

/-- The search above the suffix `lower`, among any numbers up to `top`. -/
def searchRounded (r : Resolver) (req : Request) (name : Text) (top : Quantity) :
    (losses : Nat) → (lower : Quantity) → (attempts : Nat) → Task (Option Found × Nat)
  | losses, lower, attempts => do
    match ← r.offerRounded req name top lower attempts with
    | (none, attempts) => return (none, attempts)
    | (some suffix, attempts) =>
      claimOr req name suffix attempts
        (match losses with
        | losses + 1 => searchRounded r req name top losses suffix attempts
        | 0 => return (none, attempts))

/-- The search for a free suffix of any size behind a name, with the number of attempts it took. -/
def searchDoubling (r : Resolver) (req : Request) (name : Text) : Task (Option Found × Nat) := do
  let top ← Task.lift (largestSuffix req.limit)
  let lower ← Task.lastSuffix (lowercase name)
  let losses := pendingLosses (← get)
  match top, lower with
  | .whole top, .whole lower => r.searchAbove req name top.toNat losses lower.toNat 0
  | _, _ => r.searchRounded req name top losses lower 0

end Resolver

end Namesake
