import Namesake.Fault
import Namesake.Json.Equal
import Namesake.Log.Entry

/-!
# What is logged

The events that are logged have entries of a fixed shape: a handler starts and ends, a name is
resolved, a store operation is done, something fails. Of an event that a handler is called with only
the scalar values and the sizes of lists are logged, since raw names may be personal data.

## Main definitions

* `LogEvent` — an event
* `LogEvent.entry` — its entry
* `Logger`, `Logger.record` — a logger, which settles once whether entries of the lowest level are
  kept
-/

namespace Namesake

/-- An event that is logged. -/
inductive LogEvent where
  /-- Something worth a message, perhaps a fault. -/
  | message (level : Level) (text : Json) (fault : Option Fault) (context : Fields)
  /-- A handler has been called. -/
  | started (name event requestId : Json)
  /-- A handler has ended. -/
  | ended (name success duration : Json) (context : Fields)
  /-- A name has been resolved. -/
  | resolved (kind raw name attempts : Json) (context : Fields)
  /-- A store operation has been done. -/
  | stored (store operation success : Json) (context : Fields)

namespace LogEvent

/-- The place of a trace in an entry about a fault. -/
def traceMark : String := "<traceback>"

/-- The trace in an entry about a fault. -/
def traceField : Fields :=
  [("traceback", .str traceMark)]

/-- What an entry says about a fault. -/
def faultFields (f : Fault) : Fields :=
  [("error_type", .str f.label), ("error_message", .str f.text)] ++ traceField

/-- What an entry says about a resolved name. -/
def resolutionFields (kind raw name attempts : Json) : Fields :=
  [("kind", kind), ("original", raw), ("resolved", name),
    ("renamed", .bool (!raw.equals name)), ("attempts", attempts)]

/-- What an entry says about a store operation. -/
def storeFields (store operation success : Json) : Fields :=
  [("store", store), ("operation", operation), ("success", success)]

/-- What is shown of a value in an event: scalar values themselves, of a list its size, of anything
else its type. -/
def summary : Json → Json
  | .arr items => .str s!"list[{items.length}]"
  | .obj _ => .str "dict"
  | .null => .str "NoneType"
  | v => v

/-- What is shown of an event. -/
def eventFields : Json → Fields
  | .obj fields =>
    [("event_keys", .arr (fields.map fun f => .str f.1)),
      ("event", .obj (fields.map fun f => (f.1, summary f.2)))]
  | _ => [("event_keys", .str "non-dict")]

/-- A duration to two decimal places. Whole numbers stay whole, and in its absence there is none. -/
def durationFields : Json → Except Fault Fields
  | .null => return []
  | .int n => return [("duration_ms", .int n)]
  | .bool b => return [("duration_ms", .int (if b then 1 else 0))]
  | .float x => return [("duration_ms", .float (x.roundPlaces 2))]
  | _ => throw (.badType "a duration is a number")

/-- Names that a context may not use, since the entry itself has a place for them. -/
def checkContext (context : Fields) : Except Fault Fields :=
  if context.any fun f => f.1 = "level" || f.1 = "message" then
    throw (.badType "a context may not replace the level or the message")
  else return context

/-- The level of an event. -/
def level : LogEvent → Level
  | message level .. => level
  | started .. => .info
  | ended _ success _ _ => if success.truthy then .info else .error
  | resolved .. => .debug
  | stored _ _ success _ => if success.truthy then .info else .error

/-- The message of the entry of an event. -/
def text : LogEvent → Json
  | message _ text _ _ => text
  | started name _ _ => .str s!"Lambda function {name.display} started"
  | ended name success _ _ =>
    let outcome := if success.truthy then "completed" else "failed"
    .str s!"Lambda function {name.display} {outcome}"
  | resolved kind _ _ _ _ => .str s!"Resolved {kind.display}"
  | stored store operation success _ =>
    let outcome := if success.truthy then "succeeded" else "failed"
    .str s!"Registry {operation.display} on {store.display} {outcome}"

/-- The named values of the entry of an event. A context may replace the values that every such
entry has. -/
def context : LogEvent → Except Fault Fields
  | message _ _ fault context =>
    match fault with
    | some f => return context.merge (faultFields f)
    | none => return context
  | started name event requestId =>
    return [("function_name", name), ("request_id", requestId)] ++ eventFields event
  | ended name success duration context => do
    let duration ← durationFields duration
    return Fields.merge ([("function_name", name), ("success", success)] ++ duration) context
  | resolved kind raw name attempts context =>
    return Fields.merge (resolutionFields kind raw name attempts) context
  | stored store operation success context =>
    return Fields.merge (storeFields store operation success) context

/-- The entry of an event that a service logs. -/
def entry (service : String) (e : LogEvent) : Except Fault LogEntry := do
  let context ← checkContext (← e.context)
  match e.text with
  | .str s => return ⟨e.level, service, s, context⟩
  | v => return ⟨e.level, service, v.display, [("message", v)] ++ context⟩

end LogEvent

/-- A logger. -/
structure Logger where
  /-- The service in whose name it writes. -/
  service : Json
  /-- Are entries of the lowest level kept? It may not be settled yet. -/
  debug : Option Bool

namespace Logger

/-- The logger with the question settled by the setting in force. -/
def settle (l : Logger) (setting : Bool) : Logger :=
  { l with debug := some (l.debug.getD setting) }

/-- The entry of an event. A service that is no text stands in place of the one of the entry. -/
def entry (l : Logger) (e : LogEvent) : Except Fault LogEntry :=
  match l.service with
  | .str service => e.entry service
  | v => do
    let entry ← e.entry ""
    return { entry with context := ("service", v) :: entry.context }

/-- Records an event, given the setting in force. An event of the lowest level settles the question
whether such entries are kept, and no entry is made of it if they are not. -/
def record (l : Logger) (setting : Bool) (e : LogEvent) :
    Except Fault (Option LogEntry) × Logger :=
  if e.level = .debug then
    let l := l.settle setting
    if l.debug = some true then (some <$> l.entry e, l) else (.ok none, l)
  else (some <$> l.entry e, l)

end Logger

end Namesake
