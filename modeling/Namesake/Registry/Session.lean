import Namesake.Cache.Suffixes
import Namesake.Json.Key
import Namesake.Registry.Store
import Namesake.Registry.Triage

/-!
# Sessions

A resolver works in a session: the store that it shares with others, what other workers are about to
do to that store, the log, and its own caches. A task changes the session and may end with a fault;
what it has changed until then stays changed.

## Main definitions

* `Failure`, `Outage` — the store request that is going to fail
* `Theft`, `Contention` — the names that other workers are going to take
* `Shared`, `Worker`, `Session` — the state of a session
* `Task` — what runs in a session
-/

namespace Namesake

/-- The requests that a table answers. -/
inductive StoreRequest where
  | save
  | get
  | delete
  | scan
  deriving DecidableEq, Repr

/-- A request that is going to fail. -/
structure Failure where
  /-- The sort of the request. -/
  request : StoreRequest
  /-- How it fails. -/
  fault : Fault
  /-- How many requests of the sort are answered before. -/
  answered : Nat
  deriving Repr

/-- A request with a fault alone stands for the next one of its sort. -/
instance : Coe (StoreRequest × Fault) Failure :=
  ⟨fun (request, fault) => ⟨request, fault, 0⟩⟩

/-- What is left of a failure after one more request of its sort. A request fails only once. -/
def Failure.after (f : Failure) : Option Failure :=
  match f.answered with
  | 0 => none
  | answered + 1 => some { f with answered }

/-- The request that is going to fail, if there is one. -/
abbrev Outage := Option Failure

namespace Outage

/-- How the next request of a sort fails, if it does. -/
def next (o : Outage) (request : StoreRequest) : Option Fault :=
  match o with
  | some f => if f.request = request ∧ f.answered = 0 then some f.fault else none
  | none => none

/-- What is left after a request of a sort. -/
def after (o : Outage) (request : StoreRequest) : Outage :=
  match o with
  | some f => if f.request = request then f.after else some f
  | none => none

end Outage

/-- A name that another worker takes. -/
structure Theft where
  /-- The name. -/
  name : Text
  /-- The kind for which the other worker takes it. -/
  kind : NameKind
  deriving DecidableEq, Repr

/-- Names alone are taken for users. -/
instance : Coe (List Text) (List Theft) :=
  ⟨fun names => names.map fun name => ⟨name, .username⟩⟩

/-- What other workers do to the claims of one registry. -/
structure Contention where
  /-- The names that another worker takes just before they are claimed. -/
  stolen : List Theft
  /-- Names whose claim fails. -/
  failing : List Text

/-- No other worker interferes. -/
def Contention.none : Contention :=
  ⟨[], []⟩

/-- What all resolvers on one store have in common. -/
structure Shared where
  /-- The used names. -/
  store : Store
  /-- The store request that is going to fail. -/
  outage : Outage
  /-- The log, the oldest entry first. -/
  log : List LogEntry
  /-- Are entries of the lowest level kept? -/
  debug : Bool
  /-- The name of the table. -/
  tableName : String
  /-- The time. -/
  now : String

/-- What one resolver keeps for itself. -/
structure Worker where
  /-- What others do to its claims. -/
  contention : Contention
  /-- The last suffix behind each base. -/
  suffixes : SuffixCache
  /-- The lengths to which bases had to be cut. -/
  truncations : TruncationCache

/-- The state in which a resolver works. -/
structure Session where
  /-- What it shares with others. -/
  shared : Shared
  /-- What it keeps for itself. -/
  worker : Worker

/-- A computation in a session, which may end with a fault. The session it leaves behind counts in
either case. -/
abbrev Task (α : Type) :=
  EStateM Fault Session α

namespace Task

/-- Writes a log entry. Entries of the lowest level are kept only if that is asked for. -/
def note (e : LogEntry) : Task Unit :=
  modify fun s =>
    if e.level = .debug ∧ s.shared.debug = false then s
    else { s with shared := { s.shared with log := s.shared.log ++ [e] } }

/-- Replaces the store. -/
def setStore (store : Store) : Task Unit :=
  modify fun s => { s with shared := { s.shared with store } }

/-- Announces a request to the table: the fault with which it is going to fail, if it does. -/
def request (r : StoreRequest) : Task (Option Fault) := do
  let s ← get
  set { s with shared := { s.shared with outage := s.shared.outage.after r } }
  return s.shared.outage.next r

/-- Lifts what changes no state. -/
def lift {α : Type} (r : Except Fault α) : Task α :=
  match r with
  | .ok a => pure a
  | .error f => throw f

/-- The last suffix behind a base. -/
def lastSuffix (base : Text) : Task Quantity :=
  modifyGet fun s =>
    let (n, suffixes) := SuffixCache.last s.worker.suffixes base
    (n, { s with worker := { s.worker with suffixes } })

/-- Remembers the last suffix behind a base. -/
def recordSuffix (base : Text) (suffix : Quantity) : Task Unit := do
  let suffixes ← lift ((← get).worker.suffixes.write base suffix)
  modify fun s => { s with worker := { s.worker with suffixes } }

/-- The length to which a base had to be cut under a length limit. -/
def cutLength? (base : Text) (limit : Limit) : Task (Option Nat) :=
  modifyGet fun s =>
    let (n, truncations) := TruncationCache.cutLength? s.worker.truncations base limit
    (n, { s with worker := { s.worker with truncations } })

/-- Remembers the length to which a base had to be cut under a length limit. -/
def recordCut (base : Text) (limit : Limit) (length : Nat) : Task Unit := do
  let truncations ← lift (TruncationCache.record (← get).worker.truncations base limit length)
  modify fun s => { s with worker := { s.worker with truncations } }

/-- The last suffix behind a base that is given as a value. No value but a text is a base, and a
cache that is on refuses what cannot be a key. -/
def lastSuffixOf (base : Json) : Task Quantity := do
  match base with
  | .str s => lastSuffix s.toList
  | v =>
    if !(← get).worker.suffixes.isOff && v.key?.isNone then throw (.noKey v) else return 0

/-- The length to which a base had to be cut under a length limit, both given as values. -/
def cutLengthOf? (base limit : Json) : Task (Option Nat) := do
  if (← get).worker.truncations.isOff then return none
  else
    match base.key?, limit.key? with
    | none, _ => throw (.noKey base)
    | _, none => throw (.noKey limit)
    | some (.text s), some (.number limit) => cutLength? s.toList limit
    | _, _ => return none

end Task

end Namesake
