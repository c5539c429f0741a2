import Namesake.Config.Variables
import Namesake.Fault

/-!
# Setting environment variables

Only texts are values of variables, and not every name can be given to one. Variables are set one
after another: the ones before one that cannot be set stay set.

## Main definitions

* `Variables.refusal?` — why a variable cannot be set
* `Variables.assign`, `Variables.assignAll` — sets and removes variables
-/

namespace Namesake.Variables

/-- Why a variable cannot be set, if that is so: no variable holds a null character, and no name is
empty or holds an equals sign. -/
def refusal? (name value : Text) : Option Fault :=
  if name.contains '\x00' || value.contains '\x00' then some (.badValue "embedded null byte")
  else if name.contains '=' then some (.badValue "illegal environment variable name")
  else if name.isEmpty then some .badArgument
  else none

/-- Sets a variable to a text, or removes it if the value is null. -/
def assign (name : String) (value : Json) : EStateM Fault Variables Unit :=
  match value with
  | .null => modify fun v => v.unset name
  | .str text =>
    match refusal? name.toList text.toList with
    | some f => throw f
    | none => modify fun v => v.set name text
  | other => throw (.badType s!"str expected, not {other.typeName}")

/-- Sets or removes variables, one after another. -/
def assignAll (changes : Fields) : EStateM Fault Variables Unit :=
  changes.forM fun c => assign c.1 c.2

/-- The variables after some have been set or removed. -/
def changed (v : Variables) (changes : Fields) : Except Fault Variables :=
  match assignAll changes v with
  | .ok _ v => return v
  | .error f _ => throw f

/-- Changes the variables that are part of a larger state. -/
def within {σ : Type} (read : σ → Variables) (write : σ → Variables → σ)
    (change : EStateM Fault Variables Unit) : EStateM Fault σ Unit := fun s =>
  match change (read s) with
  | .ok _ v => .ok () (write s v)
  | .error f v => .error f (write s v)

end Namesake.Variables
