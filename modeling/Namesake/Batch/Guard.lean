import Namesake.Batch.Response
import Namesake.Batch.Validation
import Namesake.Service.Program

/-!
# Guarded handlers

A handler is called with an event only after the event has been checked, and whatever fault it ends
with becomes a response: a request that is not valid is answered with status 400, anything else with
status 500. Both ends of a call are logged.

## Main definitions

* `GuardOptions` — what is checked and logged
* `screen` — the response to an event that is rejected at once
* `guarded` — a handler behind a guard
-/

namespace Namesake

/-- What a guard checks and logs. -/
structure GuardOptions where
  /-- The fields that an event must have. -/
  required : Json := .null
  /-- Must a kind that an event has be one of the admitted ones? -/
  checksKind : Bool := false
  /-- The admitted kinds, or nothing for all of them. -/
  kinds : Json := .null
  /-- Are the ends of a call logged? -/
  logs : Bool := true

/-- A rejection of an event: what the log says, and the response, unless that cannot be worded. -/
structure Rejection where
  /-- What the log says. -/
  reason : String
  /-- The response. -/
  response : Except Fault ErrorResponse

/-- The rejection of an event without some of the required fields. -/
def rejectMissing (missing : List Json) (now : String) : Rejection :=
  ⟨"missing fields", do
    let words ← joined (.arr missing)
    return .of (.int 400) (.str s!"Missing required fields: {words}")
      [("missing_fields", .arr missing)] now⟩

/-- The rejection of an event with a kind that is not admitted. -/
def rejectKind (kinds : Json) (now : String) : Rejection :=
  ⟨"invalid kind", do
    let words ← joined kinds
    return .of (.int 400) (.str s!"Invalid kind. Must be one of: {words}")
      [("valid_kinds", kinds)] now⟩

/-- The required fields that an event does not have, if any are required. -/
def missingFor (o : GuardOptions) (fields : Fields) : Except Fault (List Json) :=
  if o.required.truthy then missingIn fields o.required else return []

/-- The rejection of an event, if it is rejected before the handler sees it. -/
def screen (o : GuardOptions) (event : Json) (now : String) : Except Fault (Option Rejection) := do
  match event with
  | .obj fields =>
    let missing ← missingFor o fields
    if !missing.isEmpty then return some (rejectMissing missing now)
    match o.checksKind, fields.lookup "kind" with
    | true, some kind =>
      if ← namesKind kind o.kinds then return none
      else return some (rejectKind (admittedKinds o.kinds) now)
    | _, _ => return none
  | _ => throw (.validation (.str "Event must be a JSON object") {})

/-- The response to a fault. -/
def faultResponse (f : Fault) (now : String) : ErrorResponse :=
  match f with
  | .validation .. => .of (.int 400) f.message f.detailFields now
  | .badValue message => .of (.int 400) (.str message) [] now
  | f =>
    if f.isOwn then .of (.int 500) f.message [("error_code", f.code)] now
    else .of (.int 500) (.str "Internal server error occurred") [] now

/-- What is logged about a fault beside the end of the call. -/
def faultEvent? (f : Fault) (name : String) : Option LogEvent :=
  match f with
  | .validation .. | .badValue _ => none
  | f =>
    if f.isOwn then
      some (.message .error (.str s!"Name resolver error in {name}") (some f)
        [("error_code", f.code)])
    else some (.message .error (.str s!"Unexpected error in {name}") (some f) [])

/-- Logs the end of a call that took no measurable time. -/
def recordEnd (o : GuardOptions) (name : String) (success : Bool) (context : Fields) :
    Action Unit := do
  if o.logs then
    let duration : Json := .float (.finite false 0 Binary64.minExponent)
    Program.record (.ended (.str name) (.bool success) duration context)

/-- The result of a call, if it ends without a fault. -/
def guardedCall (o : GuardOptions) (name : String) (handler : Json → Action Json) (event : Json) :
    Action Json := do
  match ← Program.lift (screen o event (← get).now) with
  | some rejection =>
    -- the end is logged before the response is worded, which may fail
    recordEnd o name false [("error", .str rejection.reason)]
    return (← Program.lift rejection.response).json
  | none =>
    let result ← handler event
    recordEnd o name true []
    return result

/-- A handler behind a guard. -/
def guarded (o : GuardOptions) (name : String) (handler : Json → Action Json) (event : Json)
    (requestId : Option Json) : Action Json := do
  if o.logs then
    Program.record (.started (.str name) event (requestId.getD (.str "unknown")))
  match ← Program.attempt (guardedCall o name handler event) with
  | .ok result => return result
  | .error f =>
    recordEnd o name false [("error", f.message)]
    if let some e := faultEvent? f name then Program.record e
    return (faultResponse f (← get).now).json

end Namesake
