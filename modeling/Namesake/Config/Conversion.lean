import Namesake.Fault
import Namesake.Json.Parser
import Namesake.Unicode.Case

/-!
# Reading settings

A setting is found as text or as another value, and is read as a whole number, a truth value, a JSON
value or a list. What cannot be read is replaced by the default, whatever that is.

## Main definitions

* `Conversion.wholeNumber?` — the whole number that a text denotes
* `Conversion.int`, `Conversion.bool`, `Conversion.json`, `Conversion.list` — the readings
-/

namespace Namesake.Conversion

open Unicode

/-- May the character stand around a number? All blanks may but the information separators. -/
def isNumberBlank (c : Char) : Bool :=
  isBlank c && !('\x1c' ≤ c && c ≤ '\x1f')

/-- The text without what may stand around a number. -/
def trimNumber (t : Text) : Text :=
  ((t.dropWhile isNumberBlank).reverse.dropWhile isNumberBlank).reverse

/-- The values of the digits of a numeral, which may have single underscores between them. -/
def numeralDigits? : Text → Option (List Nat)
  | [] => none
  | [c] => (digitValue? c).map fun d => [d]
  | c :: '_' :: rest => do
    let d ← digitValue? c
    let ds ← numeralDigits? rest
    return d :: ds
  | c :: rest => do
    let d ← digitValue? c
    let ds ← numeralDigits? rest
    return d :: ds

/-- The whole number that a text denotes: a sign, then decimal digits of any script, with blanks
around the whole. Numerals that are too long are not read. -/
def wholeNumber? (t : Text) : Option Int := do
  let t := trimNumber t
  let (negative, t) : Bool × Text :=
    match t with
    | '-' :: rest => (true, rest)
    | '+' :: rest => (false, rest)
    | rest => (false, rest)
  let ds ← numeralDigits? t
  if maxDigits < ds.length then none
  else
    let n : Int := (ds.foldl (fun n d => 10 * n + d) 0 : Nat)
    some (if negative then -n else n)

/-- A value read as a whole number. Fractions are cut off. -/
def int (value default : Json) : Except Fault Json :=
  match value with
  | .int n => return .int n
  | .bool b => return .int (if b then 1 else 0)
  | .float (.infinite _) => throw (.overflow "cannot convert float infinity to integer")
  | .float x => return (x.truncate?.map Json.int).getD default
  | .str s => return ((wholeNumber? s.toList).map Json.int).getD default
  | _ => return default

/-- Is the text one of the words for true, whatever its case? -/
def isTrueWord (s : String) : Bool :=
  ["true", "1", "yes", "on"].contains (String.ofList (lowercase s.toList))

/-- A value read as a truth value. -/
def bool (value default : Json) : Json :=
  match value with
  | .bool b => .bool b
  | .str s => .bool (isTrueWord s)
  | _ => default

/-- The default of a JSON setting. -/
def jsonDefault (default : Json) : Json :=
  if default.truthy then default else .obj []

/-- The message about a whole number with too many digits. -/
def digitsMessage (count : Nat) : String :=
  s!"Exceeds the limit ({maxDigits} digits) for integer string conversion: " ++
    s!"value has {count} digits; use sys.set_int_max_str_digits() to increase the limit"

/-- A value read as JSON text, if it is text. -/
def json (value default : Json) : Except Fault Json :=
  match value with
  | .null => return jsonDefault default
  | .str s =>
    match Json.parse s.toList with
    | .ok v => return v
    | .error (.digits count) => throw (.badValue (digitsMessage count))
    | .error .depth => throw .tooDeep
    | .error .grammar => return jsonDefault default
  | v => return v

/-- The default of a list setting: the items of a list, the characters of a text, the names of the
fields of an object, and nothing if the default is empty. -/
def listDefault (default : Json) : Except Fault Json :=
  if !default.truthy then return .arr []
  else
    match default.elements? with
    | some items => return .arr items
    | none => throw (.noElements default)

/-- The words of a text. -/
def words (t : Text) : List Text :=
  let pieces := Text.splitOn [' '] (t.map fun c => if isBlank c then ' ' else c)
  pieces.filter fun p => !p.isEmpty

/-- The pieces of a text between the separators. Without a separator they are its words. -/
def pieces (t : Text) : Json → Except Fault (List Text)
  | .null => return words t
  | .str sep =>
    if sep.isEmpty then throw (.badValue "empty separator") else return Text.splitOn sep.toList t
  | _ => throw (.badType "a separator is text")

/-- A value read as a list. A text is split at the separator, the blanks around its pieces are
removed, and empty pieces are dropped. -/
def list (value default separator : Json) : Except Fault Json :=
  match value with
  | .arr items => return .arr items
  | .str s => do
    let pieces ← pieces s.toList separator
    let trimmed := (pieces.map trimBlanks).filter fun p => !p.isEmpty
    return .arr (trimmed.map fun p => .str (String.ofList p))
  | _ => listDefault default

end Namesake.Conversion
