import Namesake.Json.Value

/-!
# Log entries

A log entry has a level, the service that wrote it, a message and a context of named values. When it
is written out the context is laid over the standard fields, so that a context may also replace one
of them.

## Main definitions

* `Level` — the levels of entries
* `LogEntry` — an entry
* `LogEntry.fields` — the entry as it is written out
-/

namespace Namesake

/-- The level of an entry. -/
inductive Level where
  | debug
  | info
  | warning
  | error
  | critical
  deriving DecidableEq, Repr

/-- The level as it is written. -/
def Level.word : Level → String
  | debug => "DEBUG"
  | info => "INFO"
  | warning => "WARNING"
  | error => "ERROR"
  | critical => "CRITICAL"

/-- A log entry. -/
structure LogEntry where
  /-- How important it is. -/
  level : Level
  /-- The part of the program that wrote it. -/
  service : String
  /-- What happened. -/
  message : String
  /-- The named values that go with it. -/
  context : Fields
  deriving Repr

namespace LogEntry

/-- The entry as it is written out at a time in an environment. -/
def fields (e : LogEntry) (time environment : String) : Fields :=
  Fields.merge
    [("timestamp", .str time), ("level", .str e.level.word), ("service", .str e.service),
      ("environment", .str environment), ("message", .str e.message)]
    e.context

end LogEntry

end Namesake
