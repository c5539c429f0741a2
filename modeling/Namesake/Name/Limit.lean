import Namesake.Fault
import Namesake.Name.Cut

/-!
# Limits

A limit for the length of names is a number from a setting or a request, and not always a whole one.
A name keeps a limit if it has no more characters than the limit says; so a limit admits as many
characters as its whole part, but a plain text can only be cut at a whole number.

## Main definitions

* `Limit` — a limit
* `Limit.ofJson` — the limit that a value gives
* `Limit.truncate`, `Limit.cut` — cutting a text at a limit

## Main results

* `Limit.cut_whole` — at a whole number a name is cut as by `Text.cutTo`
-/

namespace Namesake

/-- A limit for the length of texts. -/
abbrev Limit := Quantity

namespace Limit

/-- The limit that a value gives. A truth value counts as one or zero. -/
def ofJson (v : Json) : Except Fault Limit :=
  match v.quantity? with
  | some q => return q
  | none => throw (.badType "a limit is a number")

/-- Does a text of `n` characters keep the limit? -/
def admits (l : Limit) (n : Nat) : Bool :=
  (Quantity.whole n).le l

/-- The limit less a number of characters. -/
def minus (l : Limit) (n : Nat) : Limit :=
  l.sub (.whole n)

/-- The first characters of a text that a limit admits. Plain text can only be cut at a whole
number. -/
def truncate (l : Limit) (t : Text) : Except Fault Text :=
  match l with
  | .whole n => return t.truncate n
  | .real x =>
    if (Quantity.real x).le 0 then return []
    else if t.isPlain then
      throw (.badType "slice indices must be integers or None or have an __index__ method")
    else
      match (Quantity.real x).floor? with
      | some n => return t.truncate n
      | none => return t

/-- A name cut at a limit. A name that is short enough stays as it is. -/
def cut (l : Limit) (t : Text) : Except Fault Text :=
  if l.admits t.graphemeLength then return t
  else return (← l.truncate t).trimEnd

@[simp] theorem admits_whole (l : Int) (n : Nat) :
    Limit.admits (.whole l) n = decide ((n : Int) ≤ l) := by
  simp [admits]

@[simp] theorem minus_whole (l : Int) (n : Nat) :
    Limit.minus (.whole l) n = .whole (l - n) := rfl

theorem cut_whole (l : Int) (t : Text) : Limit.cut (.whole l) t = .ok (t.cutTo l) := by
  simp only [cut, admits_whole, Text.cutTo, decide_eq_true_eq]
  split <;> rfl

end Limit

end Namesake
