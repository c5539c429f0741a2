import Namesake.Batch.Guard
import Namesake.Resolver.Resolve

/-!
# Resolving a batch of names

An event asks for names of one kind, made from a list of raw names. They are resolved in order, each
one seeing the names resolved before it. A name that cannot be resolved gets an entry with the
error, and the names after it are still resolved.

## Main definitions

* `BatchRequest`, `validateBatch` — what an event asks for
* `resolveNames` — the entries for a list of raw names
* `handleBatch` — the handler
-/

namespace Namesake

open Unicode

/-- What an event asks for. -/
structure BatchRequest where
  /-- The word for the kind, in lower case. -/
  kind : String
  /-- The raw names. -/
  names : List Json
  /-- May the names be reserved ones? -/
  allowReserved : Bool

/-- The fields of a request. -/
def BatchRequest.fields (r : BatchRequest) : Fields :=
  [("kind", .str r.kind), ("names", .arr r.names), ("allow_reserved", .bool r.allowReserved)]

/-- The raw names of an event, which are a list of texts. -/
def batchNames (fields : Fields) : Except Fault (List Json) :=
  let fault : Fault :=
    .validation (.str "names must be a list of strings") { field := .str "names" }
  match fields.lookup "names" with
  | some (.arr names) => if names.all fun n => n.string?.isSome then return names else throw fault
  | _ => throw fault

/-- Whether an event allows reserved names. -/
def batchAllowsReserved (fields : Fields) : Except Fault Bool :=
  match fields.lookup "allow_reserved" with
  | none => return false
  | some (.bool b) => return b
  | some _ =>
    throw (.validation (.str "allow_reserved must be a boolean")
      { field := .str "allow_reserved" })

/-- The kind of names that an event asks for. -/
def batchKind (fields : Fields) : Except Fault String :=
  match fields.lookup "kind" with
  | some (.str s) => return String.ofList (lowercase s.toList)
  | some _ => throw (.badMember "only text has a lower case")
  | none => throw (.missingKey (.str "kind"))

/-- What an event asks for. -/
def validateBatch (event : Json) : Except Fault BatchRequest :=
  match event with
  | .obj fields => do
    let names ← batchNames fields
    let allowReserved ← batchAllowsReserved fields
    return ⟨← batchKind fields, names, allowReserved⟩
  | _ => throw (.badMember "only an object has fields")

/-- Runs a task and answers with its outcome. -/
def Task.attempt {α : Type} (t : Task α) : Task (Except Fault α) := fun s =>
  match t s with
  | .ok a s => .ok (.ok a) s
  | .error f s => .ok (.error f) s

/-- The request for one name of a batch. -/
def nameForm (r : Resolver) (kind : Json) (allowReserved : Bool) (raw : Json) : RequestForm :=
  let forUser := kind.string? = some NameKind.username.word
  let fallback := if forUser then r.fallbackUsername else r.fallbackGroupName
  ⟨kind, raw, Resolver.textJson fallback, r.settings.maxLength, .bool (allowReserved && forUser)⟩

/-- The entry of a name that has been resolved. -/
def resolvedEntry (raw : Json) (name : ResolvedName) : Json :=
  .obj (name.nameFields ++ [("original", raw)])

/-- The entry of a name that could not be resolved. -/
def failedEntry (raw : Json) (f : Fault) : Json :=
  .obj [("original", raw), ("error", f.message), ("error_code", f.code)]

/-- The log entry about a name that could not be resolved. -/
def failureNote (kind : Json) (f : Fault) : LogEntry :=
  ⟨.error, Program.loggingService, "Failed to resolve name",
    [("kind", kind), ("error_code", f.code)] ++ LogEvent.faultFields f⟩

/-- Resolves the name of a form. -/
def resolveForm (r : Resolver) (form : RequestForm) : Task ResolvedName :=
  match form.check with
  | .ok req => r.resolve req
  | .error f => throw f

/-- The entry for one name of a batch. Only the library's own faults become entries; any other fault
ends the batch. -/
def resolveEntry (r : Resolver) (kind : Json) (allowReserved : Bool) (raw : Json) : Task Json := do
  match ← (resolveForm r (nameForm r kind allowReserved raw)).attempt with
  | .ok name => return resolvedEntry raw name
  | .error f =>
    if f.isOwn then
      Task.note (failureNote kind f)
      return failedEntry raw f
    else throw f

/-- The entries for a list of raw names, in order. -/
def resolveNames (r : Resolver) (kind : Json) (names : List Json) (allowReserved : Bool) :
    Task (List Json) :=
  names.mapM (resolveEntry r kind allowReserved)

/-- Does an entry report an error? -/
def isFailed (entry : Json) : Bool :=
  (entry.field? "error").isSome

/-- The name of the function in the particulars of a response. -/
def functionName : String := "name-resolve"

/-- The name of the handler in the log. -/
def handlerName : String := "lambda_handler"

/-- The response with the entries of a batch. -/
def batchResponse (kind : String) (entries : List Json) (now : String) : Json :=
  envelope (.obj [("kind", .str kind), ("resolved", .arr entries)])
    [("count", .int entries.length), ("failed", .int (entries.filter isFailed).length)]
    (.str functionName) now

/-- Resolves the names of an event with the resolver of the running program. -/
def resolveBatch (event : Json) : Action Json := do
  let request ← Program.lift (validateBatch event)
  let resolver ← Program.resolverObject
  let entries ← Program.withResolver resolver fun r =>
    resolveNames r (.str request.kind) request.names request.allowReserved
  return batchResponse request.kind entries (← get).now

/-- What the guard of the handler checks. -/
def batchGuard : GuardOptions :=
  { required := .ofStrings ["kind", "names"], checksKind := true }

/-- The handler. -/
def handleBatch (event : Json) (requestId : Option Json) : Action Json :=
  guarded batchGuard handlerName resolveBatch event requestId

end Namesake
