import Namesake.Fault
import Namesake.Json.Printer

/-!
# Responses

A rejected request is answered with a status and a body of JSON text; an accepted one with an
envelope around the data.

## Main definitions

* `ErrorResponse` — the answer to a rejected request
* `envelope` — the answer to an accepted one
-/

namespace Namesake

/-- The answer to a rejected request. -/
structure ErrorResponse where
  /-- The status. -/
  status : Json
  /-- The fields of the body. -/
  body : Fields

namespace ErrorResponse

/-- The answer with a message. The details are laid over the fields that every such body has. -/
def of (status message : Json) (details : Fields) (now : String) : ErrorResponse :=
  ⟨status, Fields.merge
    [("success", .bool false), ("error", message), ("timestamp", .str now)] details⟩

/-- The details that a value gives. A value that is null or empty gives none. -/
def detailsOf (v : Json) : Except Fault Fields :=
  if !v.truthy then return []
  else
    match v with
    | .obj fields => return fields
    | v => throw (.badType s!"'{v.typeName}' object is not a mapping")

/-- The answer as a value. The body is ASCII text. -/
def json (r : ErrorResponse) : Json :=
  .obj [("statusCode", r.status),
    ("headers", .obj [("Content-Type", .str "application/json")]),
    ("body", .str (Json.render .ascii (.obj r.body)))]

end ErrorResponse

/-- The message about a pair that has another number of items. -/
def pairMessage (place size : Nat) : String :=
  s!"dictionary update sequence element #{place} has length {size}; 2 is required"

/-- The fields that a list of pairs gives. The first pair has a given place in the list. -/
def fieldsOfPairs : Nat → List Json → Except Fault Fields
  | _, [] => return []
  | place, v :: rest =>
    match v.elements? with
    | some [.str key, value] => return (key, value) :: (← fieldsOfPairs (place + 1) rest)
    | some [key, _] => throw (.noKey key)
    | some items => throw (.badValue (pairMessage place items.length))
    | none =>
      throw (.badType
        s!"cannot convert dictionary update sequence element #{place} to a sequence")

/-- The particulars that a value gives: the fields of an object, or the pairs of a list. -/
def particularsOf (v : Json) : Except Fault Fields :=
  if !v.truthy then return []
  else
    match v with
    | .obj fields => return fields
    | v =>
      match v.elements? with
      | some pairs => fieldsOfPairs 0 pairs
      | none => throw (.noElements v)

/-- The answer to an accepted request: the data, and particulars that are laid over the time and the
name of the function. -/
def envelope (data : Json) (particulars : Fields) (functionName : Json) (now : String) : Json :=
  let basic : Fields :=
    [("timestamp", .str now)] ++ Fields.when functionName.truthy "function_name" functionName
  .obj [("success", .bool true), ("data", data), ("metadata", .obj (basic.merge particulars))]

end Namesake
