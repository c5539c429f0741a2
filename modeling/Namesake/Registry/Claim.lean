import Namesake.Registry.Session

/-!
# Claiming names

The registry answers whether a name is used and lets a resolver claim one: the name is inserted
unless either kind has it. In memory this is a check and an insertion; in a table it is one
conditional write.

## Main definitions

* `Registry.isUsed`, `Registry.claim` — the two questions that a resolver asks
* `Registry.add`, `Registry.discard`, `Registry.has`, `Registry.names` — the names of one kind as a
  set
* `Registry.claimRow`, `Registry.usedRow?`, `Registry.releaseRow`, `Registry.scanNames` — the
  operations on a table
-/

namespace Namesake.Registry

/-- The service that writes the log entries of the registry. -/
def service : String := "used-name-registry"

/-- Writes a log entry of the lowest level about a name of a kind. -/
def noteDebug (message : String) (context : Fields) : Task Unit :=
  Task.note ⟨.debug, service, message, context⟩

/-- The context of an entry about a name of a kind. -/
def nameContext (name : Text) (kind : String) : Fields :=
  [("name_lower", .str (String.ofList name)), ("kind", .str kind)]

/-- The log entry about a failed operation on a table. -/
def failureEntry (table operation : String) (context : Fields) (f : Fault) : LogEntry :=
  ⟨.error, service, s!"Registry {operation} on {table} failed",
    LogEvent.storeFields (.str table) (.str operation) (.bool false) ++ context ++
      [("error", .str f.text)]⟩

/-- Ends a table operation that failed. A fault of the table is logged, judged and replaced by the
fault for the caller; any other fault goes on as it is. The log calls the operation `logged`, the
caller is told `operation`. -/
def fail {α : Type} (logged operation : String) (context : Fields) (f : Fault) : Task α := do
  if f.isTableFault then
    let table := (← get).shared.tableName
    Task.note (failureEntry table logged context f)
    Task.note (judgement f (.str operation) (.str table))
    throw (storeFault f (.str operation) (.str table))
  else throw f

/-- Inserts a row under a name that has none. The answer is the fault, if it failed. -/
def saveRow (rows : Table) (name : Text) (kind : NameKind) (display : Option Text) :
    Task (Option Fault) := do
  match ← Task.request .save with
  | some f => return some f
  | none =>
    if rows.contains name then
      return some (.table .put "Failed to put item" (some (.str conditionalCode)))
    else
      let now := (← get).shared.now
      Task.setStore (.table (rows.insert name ⟨kind, display, now⟩))
      return none

/-- Inserts a name into a table unless either kind holds it. -/
def claimRow (rows : Table) (name : Text) (kind : NameKind) (display : Option Text) :
    Task Bool := do
  match ← saveRow rows name kind display with
  | none =>
    noteDebug "Name claimed" (nameContext name kind.word)
    return true
  | some f =>
    if f.isTableFault && f.isConditional then
      noteDebug "Name already claimed" (nameContext name kind.word)
      return false
    -- any other fault leaves the question open who has the name
    else fail "claim" "claim" (nameContext name kind.word) f

/-- The row of a name in a table. -/
def usedRow? (rows : Table) (name : Text) : Task (Option Row) := do
  match ← Task.request .get with
  | some (.itemMissing _) => return none
  | some f => fail "get" "get_used" [("name_lower", .str (String.ofList name))] f
  | none => return rows.get? name

/-- Deletes the row of a name if the kind with a given word holds it. No row is held by a word that
names no kind. -/
def releaseRow (rows : Table) (name : Text) (kind : String) : Task Bool := do
  match ← Task.request .delete with
  | some f =>
    if f.isTableFault && f.isConditional then return false
    else fail "release" "release" (nameContext name kind) f
  | none =>
    match rows.get? name with
    | some row =>
      if row.kind.word = kind then
        Task.setStore (.table (rows.erase name))
        return true
      else return false
    | none => return false

/-- The names that a kind holds in a table. -/
def scanNames (rows : Table) (kind : NameKind) : Task (List Text) := do
  match ← Task.request .scan with
  | some f => fail "scan" "iter_names" [("kind", .str kind.word)] f
  | none => return Table.names rows kind

/-- Is the name taken by either kind? -/
def isUsed (name : Text) : Task Bool := do
  match (← get).shared.store with
  | .memory sets => return sets.has name
  | .table rows => return (← usedRow? rows name).isSome

/-- Does the given kind have the name? -/
def has (kind : NameKind) (name : Text) : Task Bool := do
  match (← get).shared.store with
  | .memory sets => return (sets.names kind).contains name
  | .table rows => return (← usedRow? rows name).any fun row => row.kind = kind

/-- The names that a kind has, in order. -/
def names (kind : NameKind) : Task (List Text) := do
  match (← get).shared.store with
  | .memory sets => return (sets.names kind).toList
  | .table rows => scanNames rows kind

/-- How many names a kind has. -/
def count (kind : NameKind) : Task Nat := do
  return (← names kind).length

/-- Adds a name to those of a kind. In a table a name that either kind holds stays where it is. -/
def add (kind : NameKind) (name : Text) : Task Unit := do
  match (← get).shared.store with
  | .memory sets => Task.setStore (.memory (sets.add kind name))
  | .table rows => discard (claimRow rows name kind none)

/-- Removes a name from those of a kind. -/
def discard (kind : NameKind) (name : Text) : Task Unit := do
  match (← get).shared.store with
  | .memory sets => Task.setStore (.memory (sets.discard kind name))
  | .table rows => Functor.discard (releaseRow rows name kind.word)

/-- Inserts a name for a kind unless either kind has it. The answer says whether it was inserted. -/
def insertNew (kind : NameKind) (name : Text) (display : Option Text) : Task Bool := do
  match (← get).shared.store with
  | .memory sets =>
    if sets.has name then
      noteDebug "Lost claim on name"
        [("kind", .str kind.word), ("name_lower", .str (String.ofList name))]
      return false
    else
      Task.setStore (.memory (sets.add kind name))
      return true
  | .table rows => claimRow rows name kind display

/-- Another worker takes a name for a kind, if nobody holds it. It logs elsewhere. -/
def yieldTo (theft : Theft) : Task Unit :=
  modify fun s =>
    let store := s.shared.store
    if store.has theft.name then s
    else
      { s with
        shared := { s.shared with store := store.insert theft.kind theft.name none s.shared.now } }

/-- Lets other workers interfere with the claim of a name: one of them may take the name just before
it is claimed. -/
def interfere (name : Text) : Task Unit := do
  let s ← get
  let c := s.worker.contention
  if c.failing.contains name then
    throw (.store (.str "Failed to claim name")
      { operation := .str "claim", table := .str s.shared.tableName })
  else
    match c.stolen.find? fun t => t.name = name with
    | some theft =>
      -- it is stolen only once
      let stolen := c.stolen.erase theft
      set { s with worker := { s.worker with contention := { c with stolen } } }
      yieldTo theft
    | none => return ()

/-- Claims a name for a kind. The answer says whether the caller has it now. -/
def claim (kind : NameKind) (name : Text) (display : Option Text) : Task Bool := do
  interfere name
  insertNew kind name display

/-- Claims a name for the kind that a value names. -/
def claimAs (kind : Json) (name : Text) (display : Option Text) : Task Bool := do
  interfere name
  match NameKind.ofJson? kind with
  | some kind => insertNew kind name display
  | none => throw (.badValue (NameKind.unknownMessage kind))

/-- The names of the kind that a value names. -/
def namesOf (kind : Json) : Task (List Text) := do
  match NameKind.ofJson? kind with
  | some kind => names kind
  | none => throw (.badValue (NameKind.unknownMessage kind))

end Namesake.Registry
