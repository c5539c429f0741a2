import Namesake.Json.Value

/-!
# JSON text

The text of a JSON value on one line. Items are separated by a comma and a blank, names from values
by a colon and a blank. There are two alphabets: a response body is written in ASCII, with an escape
for every other character, and a log line keeps all characters that need no escape.

## Main definitions

* `Alphabet` — which characters stand for themselves
* `Json.render` — the text of a value
-/

namespace Namesake

/-- Which characters of a string may stand for themselves. -/
inductive Alphabet where
  /-- The delete character and all beyond ASCII are written as escapes of their UTF-16 units. -/
  | ascii
  /-- All characters but controls stand for themselves. -/
  | full
  deriving DecidableEq, Repr

namespace Json

/-- The hexadecimal digits of a 16-bit unit, always four. -/
def hexUnit (n : Nat) : List Char :=
  [n / 4096 % 16, n / 256 % 16, n / 16 % 16, n % 16].map fun d =>
    if d < 10 then Char.ofNat (48 + d) else Char.ofNat (87 + d)

/-- The escape of a character by its UTF-16 units. -/
def escapeUnits (c : Char) : List Char :=
  let n := c.toNat
  if n < 0x10000 then '\\' :: 'u' :: hexUnit n
  else
    let m := n - 0x10000
    '\\' :: 'u' :: hexUnit (0xD800 + m / 0x400) ++ '\\' :: 'u' :: hexUnit (0xDC00 + m % 0x400)

/-- How a character is written inside a string. -/
def escapeChar (alphabet : Alphabet) (c : Char) : List Char :=
  match c with
  | '"' => ['\\', '"']
  | '\\' => ['\\', '\\']
  | '\n' => ['\\', 'n']
  | '\r' => ['\\', 'r']
  | '\t' => ['\\', 't']
  | '\x08' => ['\\', 'b']
  | '\x0c' => ['\\', 'f']
  | c =>
    if c.toNat < 32 then escapeUnits c
    else if alphabet = .ascii ∧ 126 < c.toNat then escapeUnits c
    else [c]

/-- A string in quotes. -/
def quoteString (alphabet : Alphabet) (s : String) : String :=
  String.ofList ('"' :: s.toList.flatMap (escapeChar alphabet) ++ ['"'])

/-- The text of a number that is no whole number, as JSON text names the special ones. -/
def renderFloat : Binary64 → String
  | .nan => "NaN"
  | .infinite negative => if negative then "-Infinity" else "Infinity"
  | x => x.render

mutual

/-- The text of a value. -/
def render (alphabet : Alphabet) : Json → String
  | .null => "null"
  | .bool b => if b then "true" else "false"
  | .int i => toString i
  | .float x => renderFloat x
  | .str s => quoteString alphabet s
  | .arr items => "[" ++ renderItems alphabet items ++ "]"
  | .obj fields => "\x7b" ++ renderFields alphabet fields ++ "\x7d"

/-- The text of the items of an array. -/
def renderItems (alphabet : Alphabet) : List Json → String
  | [] => ""
  | [item] => render alphabet item
  | item :: rest => render alphabet item ++ ", " ++ renderItems alphabet rest

/-- The text of the fields of an object. -/
def renderFields (alphabet : Alphabet) : List (String × Json) → String
  | [] => ""
  | [(key, value)] => quoteString alphabet key ++ ": " ++ render alphabet value
  | (key, value) :: rest =>
    quoteString alphabet key ++ ": " ++ render alphabet value ++ ", " ++
      renderFields alphabet rest

end

end Json

end Namesake
