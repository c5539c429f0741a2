import Namesake.Json.Display
import Namesake.Policy.Pattern

/-!
# Faults

Everything that can end an operation without a result. A fault records its cause; the wording, the
label and the report for a caller are functions of it. The first group are the library's own faults,
whose reports carry a code and details. What they say is shown in reports and log entries and may be
any value. The others are raised by a store, by the parameter service or by values of the wrong
shape.

## Main definitions

* `TableFault` — the families of faults of a table
* `Fault` — a fault
* `Fault.label`, `Fault.text` — its name and its text, as log entries show them
* `Fault.report` — what a caller is told
-/

namespace Namesake

/-- The families of faults of a table, by the request that failed. -/
inductive TableFault where
  | get
  | query
  | scan
  | update
  | delete
  | put
  /-- None of the requests in particular. -/
  | general
  deriving DecidableEq, Repr

/-- The label of a family. -/
def TableFault.label : TableFault → String
  | get => "GetError"
  | query => "QueryError"
  | scan => "ScanError"
  | update => "UpdateError"
  | delete => "DeleteError"
  | put => "PutError"
  | general => "PynamoDBException"

/-- What a fault of a family says if nothing else is known. -/
def TableFault.usualText? : TableFault → Option String
  | get => some "Error getting item"
  | query => some "Error performing query"
  | scan => some "Error performing scan"
  | update => some "Error updating item"
  | delete => some "Error deleting item"
  | put => some "Error putting item"
  | general => none

/-- The families of faults. -/
def TableFault.all : List TableFault :=
  [get, query, scan, update, delete, put, general]

/-- What a store fault says about the operation that failed. -/
structure StoreContext where
  /-- The operation. -/
  operation : Json := .null
  /-- The table. -/
  table : Json := .null
  /-- The text of the fault underneath. -/
  cause : Json := .null
  /-- May the operation succeed if it is tried again? -/
  retryable : Json := .bool false
  deriving Repr

/-- What a validation fault says about the offending value. -/
structure ValueContext where
  /-- The field that holds it. -/
  field : Json := .null
  /-- The value. -/
  value : Json := .null
  /-- Hints for the caller. -/
  hints : Json := .null
  deriving Repr

/-- Why the parameter service does not change a parameter. -/
inductive ParameterRefusal where
  /-- There is no such parameter. -/
  | notFound
  /-- A name or a value does not have the form of one. -/
  | invalid
  /-- The name is none that may be used. -/
  | denied
  /-- The request is not understood. -/
  | malformed
  deriving DecidableEq, Repr

/-- The label of a refusal. -/
def ParameterRefusal.label : ParameterRefusal → String
  | notFound => "ParameterNotFound"
  | invalid => "ValidationException"
  | denied => "AccessDeniedException"
  | malformed => "ParamValidationError"

/-- A fault. -/
inductive Fault where
  /-- A fault of the library with a code and details of the caller's choice. -/
  | general (message code details : Json)
  /-- A request is not valid. -/
  | validation (message : Json) (context : ValueContext)
  /-- A setting is missing or not valid. -/
  | configuration (message key source : Json)
  /-- A store operation failed. -/
  | store (message : Json) (context : StoreContext)
  /-- No suffixed form of the fallback name is left. -/
  | exhausted (kind fallback attempts : Json)
  /-- A value is out of range. -/
  | badValue (message : String)
  /-- A key is not there. -/
  | missingKey (key : Json)
  /-- A value has the wrong type. -/
  | badType (message : String)
  /-- Something a value of that type does not have was asked of it. -/
  | badMember (message : String)
  /-- The system refuses an argument. -/
  | badArgument
  /-- A number is too large to be a whole number. -/
  | overflow (message : String)
  /-- Values stand inside each other too deep. -/
  | tooDeep
  /-- Something failed while it ran. -/
  | runtime (message : String)
  /-- A pattern for admitted characters is malformed. -/
  | badPattern (cause : Pattern.Malformed)
  /-- A service refused a request, with a code unless its response was empty. -/
  | service (code : Option Json) (message operation : Json)
  /-- The parameter service does not change a parameter. -/
  | refused (cause : ParameterRefusal)
  /-- A service cannot be reached. -/
  | endpoint (url : Json)
  /-- There are no credentials for a service. -/
  | noCredentials
  /-- A table refused a request, with the code that the service gave. -/
  | table (family : TableFault) (message : String) (code : Option Json)
  /-- A table has no such item. -/
  | itemMissing (message : String)
  deriving Repr

namespace Fault

/-- A value is not made of elements that could be gone through. -/
def noElements (v : Json) : Fault :=
  badType s!"'{v.typeName}' object is not iterable"

/-- A value can be no key of a collection. -/
def noKey (v : Json) : Fault :=
  badType s!"unhashable type: '{v.typeName}'"

/-- The label of a fault. -/
def label : Fault → String
  | general .. => "NameResolverError"
  | validation .. => "ValidationError"
  | configuration .. => "ConfigurationError"
  | store .. => "DynamoDBError"
  | exhausted .. => "NameResolutionExhaustedError"
  | badValue _ => "ValueError"
  | missingKey _ => "KeyError"
  | badType _ => "TypeError"
  | badMember _ => "AttributeError"
  | badArgument => "OSError"
  | overflow _ => "OverflowError"
  | tooDeep => "RecursionError"
  | runtime _ => "RuntimeError"
  | badPattern _ => "error"
  | service .. => "ClientError"
  | refused cause => cause.label
  | endpoint _ => "EndpointConnectionError"
  | noCredentials => "NoCredentialsError"
  | table family .. => family.label
  | itemMissing _ => "DoesNotExist"

/-- The message of an exhausted search. -/
def exhaustedMessage (kind fallback attempts : Json) : String :=
  s!"Unable to resolve a unique {kind.display} from fallback '{fallback.display}' " ++
    s!"after {attempts.display} attempts"

/-- The message of a service that refused a request. -/
def serviceMessage (code operation message : String) : String :=
  s!"An error occurred ({code}) when calling the {operation} operation: {message}"

/-- The text of a fault. -/
def text : Fault → String
  | general message _ _ => message.display
  | validation message _ => message.display
  | configuration message _ _ => message.display
  | store message _ => message.display
  | exhausted kind fallback attempts => exhaustedMessage kind fallback attempts
  | badValue message => message
  | missingKey key => key.displayInner
  | badType message => message
  | badMember message => message
  | badArgument => "[Errno 22] Invalid argument"
  | overflow message => message
  | tooDeep => "maximum recursion depth exceeded"
  | runtime message => message
  | badPattern cause => cause.message
  | service none _ operation => serviceMessage "Unknown" operation.display "Unknown"
  | service (some code) message operation =>
    serviceMessage code.display operation.display message.display
  | refused cause =>
    s!"An error occurred ({cause.label}) when calling the parameter service"
  | endpoint url => "Could not connect to the endpoint URL: \"" ++ url.display ++ "\""
  | noCredentials => "Unable to locate credentials"
  | table _ message _ => message
  | itemMissing message => message

/-- Is it one of the library's own faults, which a batch survives? -/
def isOwn : Fault → Bool
  | general .. | validation .. | configuration .. | store .. | exhausted .. => true
  | _ => false

/-- The message of a fault: its text, or what was given in its place. -/
def message : Fault → Json
  | general message _ _ => message
  | validation message _ => message
  | configuration message _ _ => message
  | store message _ => message
  | f => .str f.text

/-- The code of one of the library's own faults. -/
def code : Fault → Json
  | general _ code _ => code
  | validation .. => .str "VALIDATION_ERROR"
  | configuration .. => .str "CONFIGURATION_ERROR"
  | store .. => .str "DYNAMODB_ERROR"
  | exhausted .. => .str "RESOLUTION_EXHAUSTED"
  | _ => .null

/-- The field with a value, unless that is null or empty. -/
def presentField (key : String) (value : Json) : Fields :=
  Fields.when value.truthy key value

/-- What is recorded about an exhausted search. -/
def searchFields (kind fallback attempts : Json) : Fields :=
  [("kind", kind), ("fallback_name", fallback), ("attempts", attempts)]

/-- The fields of the details of a fault of the library whose details have a fixed form. -/
def detailFields : Fault → Fields
  | validation _ c =>
    presentField "field" c.field ++ presentField "value" c.value ++ presentField "hints" c.hints
  | configuration _ key source =>
    presentField "config_key" key ++ presentField "config_source" source
  | store _ c =>
    [("retryable", c.retryable)] ++ presentField "operation" c.operation ++
      presentField "table" c.table ++ presentField "original_error" c.cause
  | exhausted kind fallback attempts => searchFields kind fallback attempts
  | _ => []

/-- The details of one of the library's own faults. -/
def details : Fault → Json
  | general _ _ details => if details.truthy then details else .obj []
  | f => .obj f.detailFields

/-- The report on one of the library's own faults: its label, its message and, unless they are
empty, its code and its details. -/
def report (f : Fault) : Fields :=
  [("error", .str f.label), ("message", f.message)] ++ presentField "error_code" f.code ++
    presentField "details" f.details

/-- What a caller is told about a fault. Of a fault that is none of the library's own only the
label is told, and the text if it is about a value, a key or a pattern. -/
def answer (f : Fault) : Fields :=
  if f.isOwn then f.report
  else
    match f with
    | badValue _ | missingKey _ | badPattern _ =>
      [("error", .str f.label), ("message", .str f.text)]
    | _ => [("error", .str f.label)]

/-- All that is recorded about one of the library's own faults. -/
def attributes (f : Fault) : Fields :=
  let own : Fields :=
    match f with
    | validation _ c =>
      [("field", c.field), ("value", c.value),
        ("hints", if c.hints.truthy then c.hints else .arr [])]
    | configuration _ key source => [("config_key", key), ("config_source", source)]
    | store _ c =>
      [("operation", c.operation), ("table", c.table), ("original_error", c.cause),
        ("retryable", c.retryable)]
    | exhausted kind fallback attempts => searchFields kind fallback attempts
    | _ => []
  own ++ [("message", f.message), ("error_code", f.code), ("details", f.details)]

end Fault

end Namesake
