import Namesake.Name.Kind
import Namesake.Name.Limit

/-!
# Requests and results

A request asks for one name of a kind, at most so long, made from a raw name or, if that is of no
use, from a fallback name. The result is the name that was found, together with the form under which
it was claimed.

## Main definitions

* `RequestForm` — a request as a caller fills it in
* `Request` — a valid request
* `RequestForm.check` — the valid request of a form
* `ResolvedName` — the result
-/

namespace Namesake

/-- The shortest limit for names: room for one character and the shortest suffix. -/
def minMaxLength : Nat := 3

/-- Is a limit too short for a name and a suffix? -/
def Limit.isShort (l : Limit) : Bool :=
  l.lt (.whole minMaxLength)

theorem Limit.le_of_not_short {n : Int} (h : Limit.isShort (.whole n) = false) :
    (minMaxLength : Int) ≤ n := by
  simpa [Limit.isShort] using h

/-- The limit for names if none is given. -/
def defaultMaxLength : Nat := 60

/-- A request as a caller fills it in. -/
structure RequestForm where
  /-- The word for the kind. -/
  kind : Json
  /-- The raw name. -/
  rawName : Json
  /-- The name to fall back on. -/
  fallbackName : Json
  /-- The limit for the length of the name. -/
  maxLength : Json := .int defaultMaxLength
  /-- May the name be a reserved one? -/
  allowReserved : Json := .bool false

/-- A valid request. -/
structure Request where
  /-- The kind of name that is wanted. -/
  kind : NameKind
  /-- The raw name. -/
  rawName : Json
  /-- The name to fall back on. -/
  fallbackName : Json
  /-- The limit for the length of the name. -/
  limit : Limit
  /-- May the name be a reserved one? -/
  allowReserved : Bool
  /-- A name and a suffix fit into the limit. -/
  roomy : limit.isShort = false

theorem Request.le_limit (r : Request) {n : Int} (h : r.limit = .whole n) :
    (minMaxLength : Int) ≤ n :=
  Limit.le_of_not_short (h ▸ r.roomy)

namespace RequestForm

/-- The message about a limit that is too small. -/
def shortMessage : String :=
  s!"max_length must be at least {minMaxLength}"

/-- The valid request of a form. The kind is looked at first. -/
def check (f : RequestForm) : Except Fault Request :=
  match NameKind.ofJson? f.kind with
  | none => throw (.badValue (NameKind.unknownMessage f.kind))
  | some kind => do
    let limit ← Limit.ofJson f.maxLength
    match h : limit.isShort with
    | true => throw (.badValue shortMessage)
    | false => return ⟨kind, f.rawName, f.fallbackName, limit, f.allowReserved.truthy, h⟩

/-- The fields of a form. -/
def fields (f : RequestForm) : Fields :=
  [("kind", f.kind), ("raw_name", f.rawName), ("fallback_name", f.fallbackName),
    ("max_length", f.maxLength), ("allow_reserved", f.allowReserved)]

end RequestForm

/-- The name found for a request. -/
structure ResolvedName where
  /-- The name as it is displayed. -/
  name : Text
  /-- The name as it was claimed. -/
  nameLower : Text
  /-- The kind for which it was claimed. -/
  kind : NameKind
  /-- The suffix, if the name has one. -/
  suffix : Option Quantity
  /-- Was the fallback name used? -/
  usedFallback : Bool
  deriving DecidableEq, Repr

namespace ResolvedName

/-- A suffix as a value. -/
def suffixJson : Option Quantity → Json
  | some n => .ofQuantity n
  | none => .null

/-- The fields of a result apart from the kind. -/
def nameFields (r : ResolvedName) : Fields :=
  [("name", .str (String.ofList r.name)), ("name_lower", .str (String.ofList r.nameLower)),
    ("suffix", suffixJson r.suffix), ("used_fallback", .bool r.usedFallback)]

/-- The fields of a result. -/
def fields (r : ResolvedName) : Fields :=
  r.nameFields ++ [("kind", .str r.kind.word)]

end ResolvedName

end Namesake
