import Namesake.Config.Assignment
import Namesake.Config.Setting
import Namesake.Registry.Session
import Namesake.Resolver.Basic

/-!
# The services of a running program

A running program keeps its services by name: the store of used names and the resolver. They are
made when they are first asked for, by the settings that are in force then, and kept until they are
cleared, so that a later request finds the caches and the used names of the earlier ones.

## Main definitions

* `ServiceObject` — what a service can be
* `Program` — the state of a running program
* `Action` — a computation in that state
* `Program.service` — the object behind the name of a service, made if need be
* `Program.withResolver` — runs a task of a resolver
-/

namespace Namesake

/-- What a service can be. -/
inductive ServiceObject where
  /-- A store in memory. -/
  | memory (sets : NameSets)
  /-- The table as a store. -/
  | table
  /-- A resolver, what it keeps for itself, and the number of its store. -/
  | resolver (r : Resolver) (worker : Worker) (store : Nat)
  /-- Any other value. -/
  | plain (value : Json)

/-- The state of a running program. -/
structure Program where
  /-- The environment variables. -/
  vars : Variables
  /-- The objects that have been made, by number. -/
  objects : List ServiceObject
  /-- The objects behind the names of services. -/
  services : List (String × Nat)
  /-- The table of used names. -/
  table : Table
  /-- The store request that is going to fail. -/
  outage : Outage
  /-- The log, the oldest entry first. -/
  log : List LogEntry
  /-- Are entries of the lowest level kept? -/
  debug : Bool
  /-- The name of the table. -/
  tableName : String
  /-- The time. -/
  now : String
  /-- The compiler for the patterns of admitted characters. -/
  compile : PatternCompiler

/-- A computation in a running program, which may end with a fault. -/
abbrev Action (α : Type) :=
  EStateM Fault Program α

namespace Program

/-- A program that has just been started. -/
def start (vars : Variables) (debug : Bool) (tableName now : String) : Program :=
  ⟨vars, [], [], ∅, none, [], debug, tableName, now, Pattern.compile⟩

/-- Writes a log entry. -/
def note (e : LogEntry) : Action Unit :=
  modify fun p =>
    if e.level = .debug ∧ p.debug = false then p else { p with log := p.log ++ [e] }

/-- The service that writes the log entries of handlers. -/
def loggingService : String := "name-resolver"

/-- Writes the log entry of an event. -/
def record (e : LogEvent) : Action Unit := do
  match e.entry loggingService with
  | .ok entry => note entry
  | .error f => throw f

/-- Runs something and answers with its outcome. -/
def attempt {α : Type} (a : Action α) : Action (Except Fault α) := fun p =>
  match a p with
  | .ok x p => .ok (.ok x) p
  | .error f p => .ok (.error f) p

/-- Lifts what changes no state. -/
def lift {α : Type} (r : Except Fault α) : Action α :=
  match r with
  | .ok a => pure a
  | .error f => throw f

/-- Sets or removes environment variables. -/
def setVariables (changes : Fields) : Action Unit :=
  Variables.within (·.vars) (fun p vars => { p with vars }) (Variables.assignAll changes)

/-- Makes an object. The answer is its number. -/
def make (object : ServiceObject) : Action Nat :=
  modifyGet fun p => (p.objects.length, { p with objects := p.objects ++ [object] })

/-- Puts an object behind the name of a service. -/
def register (name : String) (number : Nat) : Action Unit :=
  modify fun p =>
    { p with services := (name, number) :: p.services.filter fun s => s.1 ≠ name }

/-- Forgets what is behind the names of services. -/
def clear : Action Unit :=
  modify fun p => { p with services := [] }

/-- Does a value exist only once, so that whoever has it has the same object? -/
def isSingle : Json → Bool
  | .null | .bool _ => true
  | .int n => -5 ≤ n && n ≤ 256
  | .str s => s.length ≤ 1 && s.toList.all fun c => c.toNat < 256
  | _ => false

/-- The number of the object for a plain value. -/
def plainObject (value : Json) : Action Nat := do
  let isIt : ServiceObject → Bool
    | .plain v => isSingle v && isSingle value && v.typeName = value.typeName && v.equals value
    | _ => false
  match (← get).objects.findIdx? isIt with
  | some n => return n
  | none => make (.plain value)

/-- The name of the service that is the store of used names. -/
def storeService : String := "shared_data"

/-- The name of the service that is the resolver. -/
def resolverService : String := "name_resolver"

/-- Makes the store that the settings ask for. -/
def makeStore : Action Nat := do
  let backend ← lift (Setting.registryBackend.ofVariables (← get).vars)
  if backend.string? = some "memory" then make (.memory .empty)
  else if backend.string? = some "dynamodb" then make .table
  else
    throw (.configuration (.str s!"Unknown registry backend: {backend.display}")
      (.str "registry-backend") .null)

/-- The number of the store that an object stands for. In place of nothing an own store is made. -/
def storeBehind (number : Nat) : Action Nat := do
  match (← get).objects[number]? with
  | some (.memory _) | some .table => return number
  | some (.plain .null) => make (.memory .empty)
  | _ => throw (.badMember "not a store")

/-- Makes the resolver that the settings ask for, on the store with a given number. -/
def makeResolver (store : Nat) : Action Nat := do
  let store ← storeBehind store
  let p ← get
  let settings ← lift (ResolverSettings.ofVariables p.vars p.compile)
  let (r, worker) ← lift (Resolver.build settings)
  make (.resolver r worker store)

/-- The object behind the name of the store service, made if need be. -/
def storeObject : Action Nat := do
  match (← get).services.lookup storeService with
  | some number => return number
  | none =>
    let number ← makeStore
    register storeService number
    return number

/-- The object behind the name of the resolver service, made if need be. -/
def resolverObject : Action Nat := do
  match (← get).services.lookup resolverService with
  | some number => return number
  | none =>
    let number ← makeResolver (← storeObject)
    register resolverService number
    return number

/-- The object behind the name of a service, made if need be. -/
def service (name : String) : Action Nat := do
  match (← get).services.lookup name with
  | some number => return number
  | none =>
    if name = storeService then storeObject
    else if name = resolverService then resolverObject
    else throw (.badValue s!"Unknown service: {name}")

/-- The store with a given number. -/
def storeOf (p : Program) (number : Nat) : Store :=
  match p.objects[number]? with
  | some (.memory sets) => .memory sets
  | _ => .table p.table

/-- The session in which a resolver works on the store with a given number. -/
def session (p : Program) (worker : Worker) (store : Nat) : Session :=
  ⟨⟨p.storeOf store, p.outage, p.log, p.debug, p.tableName, p.now⟩, worker⟩

/-- The program after a session of the resolver with a given number. -/
def leave (p : Program) (number : Nat) (r : Resolver) (store : Nat) (s : Session) : Program :=
  let objects := p.objects.set number (.resolver r s.worker store)
  let p := { p with outage := s.shared.outage, log := s.shared.log }
  match s.shared.store with
  | .memory sets => { p with objects := objects.set store (.memory sets) }
  | .table rows => { p with objects, table := rows }

/-- Runs a task of the resolver with a given number. -/
def withResolver {α : Type} (number : Nat) (task : Resolver → Task α) : Action α := fun p =>
  match p.objects[number]? with
  | some (.resolver r worker store) =>
    match task r (p.session worker store) with
    | .ok a s => .ok a (p.leave number r store s)
    | .error f s => .error f (p.leave number r store s)
  | _ => .error (.badMember "not a resolver") p

end Program

end Namesake
