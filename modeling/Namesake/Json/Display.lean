import Namesake.Json.Value
import Namesake.Unicode.Blank

/-!
# Values inside messages

A message or a name may be made from any JSON value. On its own a string is shown as it is; inside a
list or an object, and wherever a key is quoted, it is put in quotes with escapes.

## Main definitions

* `quote` — a string in quotes
* `Json.display` — the text of a value inside a message
-/

namespace Namesake

namespace Json

/-- The lower-case hexadecimal digits of a code, padded with zeros to a width. -/
def hexPadded (width n : Nat) : List Char :=
  let ds := Nat.toDigits 16 n
  List.replicate (width - ds.length) '0' ++ ds

/-- How a character is written between the given quotes. Characters that cannot be printed are
escaped by their code, in the shortest of three widths. -/
def quoteChar (mark c : Char) : List Char :=
  if c = mark ∨ c = '\\' then ['\\', c]
  else if c = '\n' then ['\\', 'n']
  else if c = '\r' then ['\\', 'r']
  else if c = '\t' then ['\\', 't']
  else if Unicode.isPrintable c then [c]
  else if c.toNat < 0x100 then '\\' :: 'x' :: hexPadded 2 c.toNat
  else if c.toNat < 0x10000 then '\\' :: 'u' :: hexPadded 4 c.toNat
  else '\\' :: 'U' :: hexPadded 8 c.toNat

/-- A string in quotes: single ones, unless it holds a single quote and no double one. -/
def quote (s : String) : String :=
  let cs := s.toList
  let mark := if cs.contains '\x27' && !cs.contains '"' then '"' else '\x27'
  String.ofList (mark :: cs.flatMap (quoteChar mark) ++ [mark])

mutual

/-- The text of a value inside a list or an object. -/
def displayInner : Json → String
  | .null => "None"
  | .bool b => if b then "True" else "False"
  | .int i => toString i
  | .float x => x.render
  | .str s => quote s
  | .arr items => "[" ++ displayItems items ++ "]"
  | .obj fields => "\x7b" ++ displayFields fields ++ "\x7d"

/-- The text of the items of a list. -/
def displayItems : List Json → String
  | [] => ""
  | [item] => displayInner item
  | item :: rest => displayInner item ++ ", " ++ displayItems rest

/-- The text of the fields of an object. -/
def displayFields : List (String × Json) → String
  | [] => ""
  | [(key, value)] => quote key ++ ": " ++ displayInner value
  | (key, value) :: rest =>
    quote key ++ ": " ++ displayInner value ++ ", " ++ displayFields rest

end

/-- The text of a value inside a message: a string as it is, any other value as inside a list. -/
def display : Json → String
  | .str s => s
  | v => displayInner v

/-- The name of the type of a value. -/
def typeName : Json → String
  | .null => "NoneType"
  | .bool _ => "bool"
  | .int _ => "int"
  | .float _ => "float"
  | .str _ => "str"
  | .arr _ => "list"
  | .obj _ => "dict"

end Json

end Namesake
