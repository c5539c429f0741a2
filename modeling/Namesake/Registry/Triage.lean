import Namesake.Fault
import Namesake.Log.Event

/-!
# Judging store faults

When a store operation fails, the fault is judged by what lies behind it: the caller is told a plain
message, a status and whether to try again, and the log keeps the particulars.

## Main definitions

* `Fault.isConditional` — has a conditional write lost against an existing row?
* `Verdict`, `judge` — the judgement on a fault
* `judgement` — the log entry that goes with it
* `storeFault` — the fault that is raised in place of the one that occurred
-/

namespace Namesake

/-- The code of a conditional write that lost against an existing row. -/
def conditionalCode : String := "ConditionalCheckFailedException"

/-- The codes of a service that is too busy. -/
def throttlingCodes : List String :=
  ["ThrottlingException", "ProvisionedThroughputExceededException"]

/-- What stands in place of a code that is not there. -/
def unknownCode : Json := .str "Unknown"

/-- Is the code one of a service that is too busy? -/
def isThrottling : Option Json → Bool
  | some (.str code) => throttlingCodes.contains code
  | _ => false

/-- Is the code a given word? -/
def isCode (word : String) (code : Option Json) : Bool :=
  (code.bind Json.string?) = some word

namespace Fault

/-- Is the fault one of a table? -/
def isTableFault : Fault → Bool
  | table .. | itemMissing _ => true
  | _ => false

/-- Has a conditional write lost against an existing row? -/
def isConditional : Fault → Bool
  | table _ _ code | service code _ _ => isCode conditionalCode code
  | _ => false

end Fault

/-- A judgement on a store fault. -/
structure Verdict where
  /-- What sort of failure it is. -/
  sort : String
  /-- What the caller is told. -/
  message : String
  /-- The status of the response. -/
  status : Nat
  /-- May the operation succeed if it is tried again? -/
  retryable : Bool
  deriving DecidableEq, Repr

namespace Verdict

/-- There is no such item. -/
def notFound : Verdict :=
  ⟨"NotFound", "The requested item was not found", 404, false⟩

/-- The row exists already. -/
def conditional : Verdict :=
  ⟨"ConditionalCheckFailed", "The item already exists", 409, false⟩

/-- The service is too busy. -/
def throttled : Verdict :=
  ⟨"ThrottlingError", "Database is temporarily busy. Please try again.", 429, true⟩

/-- There is no such table. -/
def resourceMissing : Verdict :=
  ⟨"ResourceNotFound", "Database resource not found", 404, false⟩

/-- A failure of the table, as the message says. -/
def database (message : String) (retryable : Bool) : Verdict :=
  ⟨"DatabaseError", message, 500, retryable⟩

/-- A failure of the service, as the message says. -/
def service (message : String) : Verdict :=
  ⟨"AWSError", message, 500, true⟩

/-- The judgement as a caller is told it. -/
def fields (v : Verdict) : Fields :=
  [("success", .bool false), ("error_type", .str v.sort), ("error_message", .str v.message),
    ("status_code", .int v.status), ("retryable", .bool v.retryable)]

end Verdict

/-- The judgement on a fault of an operation. -/
def judge (f : Fault) (operation : Json) : Verdict :=
  if f.isConditional then .conditional
  else
    match f with
    | .itemMissing _ => .notFound
    | .table .general _ _ => .database "Database operation failed" true
    | .table _ _ code =>
      if isThrottling code then .throttled
      else .database s!"Database operation failed: {operation.display}" true
    | .service code _ _ =>
      if isThrottling code then .throttled
      else if isCode "ResourceNotFoundException" code then .resourceMissing
      else .service ("AWS error: " ++ (code.getD unknownCode).display)
    | .endpoint _ | .noCredentials => .service "AWS client error occurred"
    | _ => .database "Unexpected database error occurred" false

/-- The log entry about a fault of an operation. Unexpected faults leave a trace. -/
def judgement (f : Fault) (operation table : Json) : LogEntry :=
  let context : Fields :=
    [("operation", operation), ("table_name", if table.truthy then table else .str "unknown"),
      ("error_type", .str f.label), ("error_message", .str f.text)]
  let entry (level : Level) (message : String) (more : Fields) : LogEntry :=
    ⟨level, "used-name-registry", message, context ++ more⟩
  if f.isConditional then entry .debug "DynamoDB conditional check failed" []
  else
    match f with
    | .itemMissing _ => entry .warning "DynamoDB item not found" []
    | .table .general _ _ => entry .error "PynamoDB error occurred" LogEvent.traceField
    | .table _ _ code =>
      if isThrottling code then
        entry .warning "DynamoDB throttled" [("aws_error_code", code.getD .null)]
      else entry .error s!"DynamoDB operation failed: {operation.display}" LogEvent.traceField
    | .service code _ _ =>
      entry .error "DynamoDB ClientError"
        ([("aws_error_code", code.getD unknownCode)] ++ LogEvent.traceField)
    | .endpoint _ | .noCredentials => entry .error "AWS client error" LogEvent.traceField
    | _ => entry .error "Unexpected database error" LogEvent.traceField

/-- The fault that is raised for a failed operation in place of the one that occurred. -/
def storeFault (f : Fault) (operation table : Json) : Fault :=
  let v := judge f operation
  .store (.str v.message) ⟨operation, table, .str f.text, .bool v.retryable⟩

end Namesake
