import Namesake.Config.Region
import Namesake.Fault
import Namesake.Text
import Namesake.Unicode.Blank

/-!
# Stored parameters

The parameter service keeps every value that a parameter has had. A parameter is asked for by its
name, which gives the value set last, or by its name with a colon and the number of a version.

## Main definitions

* `Parameters` — the parameters of the service
* `Parameters.put`, `Parameters.delete` — changes
* `Parameters.lookUp` — what the service answers when it is asked for a parameter
-/

namespace Namesake

/-- The parameters of the service: under each name the values it has had, the first one in front. -/
abbrev Parameters := List (String × List String)

namespace Parameters

/-- The first letters that the names of parameters may not have. -/
def reservedWords : List Text :=
  ["aws".toList, "ssm".toList]

/-- Does a name begin with a reserved word, slashes and case aside? -/
def isReserved (name : Text) : Bool :=
  let bare := (name.dropWhile (· = '/')).map Char.toLower
  reservedWords.any fun word => word.isPrefixOf bare

/-- Why a parameter cannot be set, if that is so. -/
def refusal? (name value : Text) : Option ParameterRefusal :=
  if name.isEmpty then some .malformed
  else if value.isEmpty then some .invalid
  else if isReserved name then
    let lower := name.map Char.toLower
    some (if "/aws".toList.isPrefixOf lower && 1 < name.count '/' then .denied else .invalid)
  else none

/-- The parameters after one has been set. -/
def put (p : Parameters) (name value : String) : Except Fault Parameters :=
  match refusal? name.toList value.toList with
  | some cause => throw (.refused cause)
  | none =>
    let values := (p.lookup name).getD [] ++ [value]
    return (name, values) :: p.filter fun e => e.1 ≠ name

/-- The parameters after one has been deleted. -/
def delete (p : Parameters) (name : String) : Except Fault Parameters :=
  if name.isEmpty then throw (.refused .malformed)
  else if (p.lookup name).isNone then throw (.refused .notFound)
  else return p.filter fun e => e.1 ≠ name

/-- The fault about a version that there is not. -/
def missingVersion (name version : String) : Fault :=
  .service (some (.str "ParameterVersionNotFound"))
    (.str (s!"Systems Manager could not find version {version} of {name}. " ++
      "Verify the version and try again."))
    (.str "GetParameter")

/-- How many versions of a parameter are kept. -/
def versionLimit : Nat := 100

/-- The versions of a parameter that are kept, with their numbers. Versions are counted from one. -/
def versions (values : List String) : List (String × Nat) :=
  (values.zipIdx 1).drop (values.length - versionLimit)

/-- The version of a parameter with a given number, which is written without zeros in front. What is
no number is the label of no version. -/
def version? (name : String) (values : List String) (version : Text) :
    Except Fault (Option String) :=
  if version.isEmpty || !version.all fun c => (Unicode.digitValue? c).isSome then return none
  else
    match (versions values).find? fun v => Text.ofNat v.2 = version with
    | some v => return some v.1
    | none => throw (missingVersion name (String.ofList version))

/-- What the service answers when it is asked for a parameter. -/
def lookUp (p : Parameters) (name : String) : Except Fault (Option String) :=
  match Text.splitOn [':'] name.toList with
  | [_] => return (p.lookup name).bind List.getLast?
  | [plain, version] =>
    match p.lookup (String.ofList plain) with
    | some values => version? (String.ofList plain) values version
    | none => return none
  | _ => return none

/-- What the service answers in a region. Only in the usual one it has parameters. -/
def lookUpIn (p : Parameters) (region name : String) : Except Fault (Option String) :=
  if region = Region.usual then p.lookUp name
  else if Region.known.contains region then return none
  else throw (.missingKey (.str region))

end Parameters

end Namesake
