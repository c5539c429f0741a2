import Namesake.Cache.Recency
import Namesake.Config.Dotenv
import Namesake.Config.Parameters
import Namesake.Config.Setting
import Namesake.Json.Key

/-!
# The parameter service

A setting that no environment variable holds is looked up in a parameter service, if one is in use.
Its answers are remembered, the failures among them too, and a failure is reported and otherwise
counts as an absent setting. The region of the service is settled when a connection to it is made.

## Main definitions

* `Configuration` — which parameters of the service are asked for
* `ServiceState` — the environment variables, the service and what is remembered of it
* `Lookup` — a computation in that state
* `Configuration.stored?` — a setting as the service has it
* `Configuration.found?`, `Configuration.parameter` — a setting wherever it is found
-/

namespace Namesake

open Unicode

/-- How settings are looked up. It is fixed when it is made. -/
structure Configuration where
  /-- A number that tells it from others. -/
  id : Nat
  /-- The environment in which the program runs. -/
  environment : String
  /-- What the names of parameters begin with. -/
  path : String
  /-- Is the parameter service in use? -/
  enabled : Bool
  deriving Repr

/-- The environment variables, the parameter service and what is remembered of it. -/
structure ServiceState where
  /-- The environment variables. -/
  vars : Variables
  /-- The parameters that the service has. -/
  parameters : Parameters
  /-- The answers of the service that are remembered, for each configuration and key. -/
  answers : Recency (Nat × Key) (Option String)
  /-- The configurations that are connected to the service, each with its region. -/
  connected : List (Nat × String)
  /-- How connecting to the service fails, if it does. -/
  connectFault : Option Fault
  /-- How asking the service fails, if it does. -/
  askFault : Option Fault
  /-- What is found whatever is looked up, if that is so. -/
  override : Option Json
  /-- The text that has been printed. -/
  printed : String

/-- A computation in the state of the service. -/
abbrev Lookup (α : Type) :=
  EStateM Fault ServiceState α

/-- How many answers of the service are remembered. -/
def answerCapacity : Nat := 128

/-- A service without parameters, seen from an environment. -/
def ServiceState.start (vars : Variables) : ServiceState :=
  ⟨vars, [], .empty answerCapacity, [], none, none, none, ""⟩

/-- The service after a parameter has been set. -/
def ServiceState.put (s : ServiceState) (name value : String) : Except Fault ServiceState := do
  return { s with parameters := ← s.parameters.put name value }

/-- The service after a parameter has been deleted. -/
def ServiceState.delete (s : ServiceState) (name : String) : Except Fault ServiceState := do
  return { s with parameters := ← s.parameters.delete name }

/-- Changes the environment variables. -/
def ServiceState.changeVariables (change : EStateM Fault Variables Unit) : Lookup Unit :=
  Variables.within (·.vars) (fun s vars => { s with vars }) change

namespace Configuration

/-- A configuration by the environment variables. -/
def ofVariables (id : Nat) (v : Variables) : Configuration :=
  let environment := (v.get? "ENVIRONMENT").getD "dev"
  ⟨id, environment, (v.get? "PARAMETER_STORE_PREFIX").getD ("/name-resolver/" ++ environment),
    Conversion.isTrueWord ((v.get? "PARAMETER_STORE_ENABLED").getD "true")⟩

/-- A configuration by the environment variables and a file of settings, which sets variables. -/
def load (id : Nat) (file : String) : Lookup Configuration := do
  ServiceState.changeVariables (Variables.load file)
  return ofVariables id (← get).vars

/-- Can a connection be made? -/
def canConnect (s : ServiceState) : Bool :=
  s.connectFault.isNone && Region.isLabel s.vars.region && !s.vars.namesProfile

/-- Connects to the service unless that is done already. The answer is the region of the connection,
if there is one now. A connection that fails is tried again the next time. -/
def connect? (c : Configuration) : Lookup (Option String) := do
  let s ← get
  match s.connected.lookup c.id with
  | some region => return some region
  | none =>
    if c.enabled && canConnect s then
      set { s with connected := (c.id, s.vars.region) :: s.connected }
      return some s.vars.region
    else return none

/-- Prints a line. -/
def printLine (line : String) : Lookup Unit :=
  modify fun s => { s with printed := s.printed ++ line ++ "\n" }

/-- What the service answers when it is asked for a parameter. A fault is reported, unless it is
that there is no such parameter. A refusal without a code is a fault of its own. -/
def ask (c : Configuration) (region key : String) : Lookup (Option String) := do
  let name := c.path ++ "/" ++ key
  let s ← get
  match s.askFault.elim (s.parameters.lookUpIn region name) throw with
  | .ok answer => return answer
  | .error f =>
    match f with
    | .service none _ _ => throw (.missingKey (.str "Error"))
    | .service code _ _ =>
      if !isCode "ParameterNotFound" code then
        printLine s!"Error getting SSM parameter {name}: {f.text}"
      return none
    | f =>
      printLine s!"Unexpected error getting SSM parameter {name}: {f.text}"
      return none

/-- What the service has under a key. An answer is remembered; a fault is not. -/
def storedUnder? (c : Configuration) (key : Json) : Lookup (Option String) := do
  match key.key? with
  | none => throw (.noKey key)
  | some place =>
    let s ← get
    let (known, answers) := s.answers.read? (c.id, place)
    set { s with answers }
    match known with
    | some answer => return answer
    | none =>
      -- a fault of `ask` leaves the answer unknown; an absent connection is remembered
      let region ← if c.enabled then c.connect? else pure none
      let answer ←
        match region with
        | some region => c.ask region key.display
        | none => pure none
      modify fun s => { s with answers := s.answers.write (c.id, place) answer }
      return answer

/-- A setting as the service has it. -/
def stored? (c : Configuration) (key : String) : Lookup (Option String) :=
  c.storedUnder? (.str key)

/-- A setting wherever it is found: among the environment variables first, then in the service. -/
def found? (c : Configuration) (key : String) : Lookup (Option Json) := do
  let s ← get
  match s.override with
  | some v => return some v
  | none =>
    match s.vars.parameter? key with
    | some value => return some (.str value)
    | none => return (← c.stored? key).map .str

/-- A setting, or the default. A key has to be a text where it is made into the name of a variable.
-/
def parameter (c : Configuration) (key default : Json) : Lookup Json := do
  match (← get).override, key with
  | some v, _ => return v
  | none, .str key => return (← c.found? key).getD default
  | none, _ => throw (.badMember "only text has an upper case")

/-- Runs a reading that changes no state. -/
def reading {α : Type} (r : Except Fault α) : Lookup α :=
  match r with
  | .ok a => pure a
  | .error f => throw f

/-- The value of a setting. -/
def setting (c : Configuration) (s : Setting) : Lookup Json := do
  reading (s.interpret (← c.found? s.key))

end Configuration

end Namesake
