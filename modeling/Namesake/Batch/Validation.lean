import Namesake.Fault
import Namesake.Json.Equal
import Namesake.Name.Kind
import Namesake.Unicode.Case

/-!
# Checking events

What is required of an event and which kinds are admitted is given as values, since a handler may be
guarded by any. A list is meant; any other value counts as what it is made of.

## Main definitions

* `missingFields` — the required fields that an event does not have
* `namesKind` — does a value name one of the admitted kinds?
* `joined` — words with commas between them
-/

namespace Namesake

open Unicode

/-- Does a field have a value? Null and the empty text do not count. -/
def isPresent : Option Json → Bool
  | none | some .null => false
  | some (.str s) => !s.isEmpty
  | some _ => true

/-- Is a required field missing? What is no text is the name of no field. -/
def isMissing (fields : Fields) : Json → Except Fault Bool
  | .str key => return !isPresent (fields.lookup key)
  | .arr items => throw (.noKey (.arr items))
  | .obj fields => throw (.noKey (.obj fields))
  | _ => return true

/-- The required fields that an object does not have, in the order in which they are required. -/
def missingIn (fields : Fields) (required : Json) : Except Fault (List Json) :=
  match required.elements? with
  | some keys => keys.filterM (isMissing fields)
  | none => throw (.noElements required)

/-- The required fields that an event does not have. What is no object has none of them. -/
def missingFields (event required : Json) : Except Fault Json :=
  match event with
  | .obj fields => return .arr (← missingIn fields required)
  | _ => return required

/-- The kinds that are admitted: those that are given, or all of them if there are none. -/
def admittedKinds (kinds : Json) : Json :=
  if kinds.truthy then kinds else .ofStrings NameKind.words

/-- Does a word occur in a text? -/
def occursIn (word : Text) : Text → Bool
  | [] => word.isEmpty
  | c :: rest => word.isPrefixOf (c :: rest) || occursIn word rest

/-- Is a word among given ones? It is among those of a list, the names of the fields of an object,
and the pieces of a text. -/
def isAmong (word : String) : Json → Except Fault Bool
  | .arr items => return items.any fun item => item.equals (.str word)
  | .str s => return occursIn word.toList s.toList
  | .obj fields => return (fields.lookup word).isSome
  | v => throw (.badType s!"argument of type '{v.typeName}' is not iterable")

/-- Is the value the text of one of the admitted kinds, whatever its case? -/
def namesKind (v kinds : Json) : Except Fault Bool :=
  match v with
  | .str s =>
    if s.isEmpty then return false
    else isAmong (String.ofList (lowercase s.toList)) (admittedKinds kinds)
  | _ => return false

/-- The texts of a list of values, of which the first one has a given place. -/
def textsFrom : Nat → List Json → Except Fault (List String)
  | _, [] => return []
  | place, .str s :: rest => return s :: (← textsFrom (place + 1) rest)
  | place, v :: _ =>
    throw (.badType s!"sequence item {place}: expected str instance, {v.typeName} found")

/-- Words with commas between them. -/
def joined (words : Json) : Except Fault String :=
  match words.elements? with
  | some items => return ", ".intercalate (← textsFrom 0 items)
  | none => throw (.badType "can only join an iterable")

end Namesake
