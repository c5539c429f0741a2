import Namesake.Unicode.Case

/-!
# Environment variables

Settings are looked up among the environment variables first. The name of the variable is made from
the key of the setting: in capitals, with underscores for hyphens, and with a word in front that
tells the settings of this program from others. Without that word the name is tried second.

## Main definitions

* `Variables` — the environment variables
* `Variables.parameter?` — the variable that holds a setting
-/

namespace Namesake

open Unicode

/-- The environment variables, the one set last in front. -/
abbrev Variables := List (String × String)

namespace Variables

/-- The value of a variable. -/
def get? (v : Variables) (name : String) : Option String :=
  v.lookup name

/-- Removes a variable. -/
def unset (v : Variables) (name : String) : Variables :=
  v.filter fun e => e.1 ≠ name

/-- Sets a variable. -/
def set (v : Variables) (name value : String) : Variables :=
  (name, value) :: v.unset name

/-- The name of the variable for a key, without the word in front. -/
def nameOf (key : String) : String :=
  String.ofList ((uppercase key.toList).map fun c => if c = '-' then '_' else c)

/-- The word in front of the names of the variables of this program. -/
def ownWord : String := "NAME_RESOLVER_"

/-- The value of the variable that holds a setting. -/
def parameter? (v : Variables) (key : String) : Option String :=
  match v.get? (ownWord ++ nameOf key) with
  | some value => some value
  | none => v.get? (nameOf key)

end Variables

end Namesake
