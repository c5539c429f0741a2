import Namesake.Json.Value
import Namesake.Text

/-!
# Reading JSON text

Text is read from the left, once. Each token is fed to a stack of unfinished arrays and objects as
soon as it is complete, so of several faults the leftmost is found. Of several fields with one name
the last value counts, at the place of the first. The names `NaN`, `Infinity` and `-Infinity` are
read as numbers; a control character inside a string is an error, and so is anything but blanks
around the value.

## Main definitions

* `Json.Malformed` — why a text is not read
* `Json.State`, `Json.State.next` — where the reading has come to, and one more character
* `Json.parse` — the value of a text
-/

namespace Namesake.Json

/-- Why a text is not read. -/
inductive Malformed where
  /-- The text does not follow the grammar. -/
  | grammar
  /-- A whole number has more digits than are read. -/
  | digits (count : Nat)
  /-- More arrays and objects stand inside each other than are read. -/
  | depth
  deriving DecidableEq, Repr

/-- How many arrays and objects may stand inside each other. -/
def maxDepth : Nat := 988

/-- A token of JSON text. -/
inductive Token where
  | openArray
  | closeArray
  | openObject
  | closeObject
  | comma
  | colon
  | value (v : Json)

/-- Is the character an ASCII digit? -/
def isDigit (c : Char) : Bool :=
  '0' ≤ c && c ≤ '9'

/-- The number that a list of digits denotes. -/
def digitsValue (ds : List Char) : Nat :=
  ds.foldl (fun n d => 10 * n + (d.toNat - 48)) 0

/-- The fraction at the front of a text, a point with digits, and what follows it. -/
def spanFraction : List Char → List Char × List Char
  | '.' :: rest =>
    let ds := rest.takeWhile isDigit
    if ds.isEmpty then ([], '.' :: rest) else (ds, rest.dropWhile isDigit)
  | cs => ([], cs)

/-- The exponent at the front of a text, a letter `e` with perhaps a sign and digits, and what
follows it. -/
def spanExponent : List Char → Option Int × List Char
  | [] => (none, [])
  | c :: rest =>
    let (negative, more) : Bool × List Char :=
      match rest with
      | '-' :: more => (true, more)
      | '+' :: more => (false, more)
      | more => (false, more)
    let ds := more.takeWhile isDigit
    if (c ≠ 'e' && c ≠ 'E') || ds.isEmpty then (none, c :: rest)
    else
      let n : Int := digitsValue ds
      (some (if negative then -n else n), more.dropWhile isDigit)

/-- The digits in front of the point of a number: a zero alone, or digits that begin with another.
-/
def spanWhole (cs : List Char) : List Char × List Char :=
  match cs with
  | '0' :: rest => (['0'], rest)
  | cs => (cs.takeWhile isDigit, cs.dropWhile isDigit)

/-- The number without its sign that is the whole of a word: digits, then perhaps a fraction, then
perhaps an exponent. With neither of the two it is a whole number. The number is made before the
rest of the word is looked at. -/
def unsignedNumber (negative : Bool) (cs : List Char) : Except Malformed Json := do
  let (whole, rest) := spanWhole cs
  let (fraction, rest) := spanFraction rest
  let (exponent, rest) := spanExponent rest
  if whole.isEmpty then throw .grammar
  else if fraction.isEmpty && exponent.isNone then
    if maxDigits < whole.length then throw (.digits whole.length)
    else if !rest.isEmpty then throw .grammar
    else
      let n : Int := digitsValue whole
      return .int (if negative then -n else n)
  else if !rest.isEmpty then throw .grammar
  else
    return .float (.ofDecimal negative (digitsValue (whole ++ fraction))
      (exponent.getD 0 - fraction.length))

/-- The value of a bare word: a number or one of the names. -/
def wordValue (cs : List Char) : Except Malformed Json :=
  if cs = "null".toList then return .null
  else if cs = "true".toList then return .bool true
  else if cs = "false".toList then return .bool false
  else if cs = "NaN".toList then return .float .nan
  else if cs = "Infinity".toList then return .float (.infinite false)
  else if cs = "-Infinity".toList then return .float (.infinite true)
  else
    match cs with
    | '-' :: rest => unsignedNumber true rest
    | rest => unsignedNumber false rest

/-- Can the character be part of a number or a name? -/
def isWordChar (c : Char) : Bool :=
  c.isAlphanum || c = '-' || c = '+' || c = '.'

/-- The character with a given code, with a replacement for half of a surrogate pair. -/
def unitChar (n : Nat) : Char :=
  if 0xD800 ≤ n ∧ n < 0xE000 then '\uFFFD' else Char.ofNat n

/-- Where the reading of a token has come to. Characters that have been read stand last first. -/
inductive Reading where
  /-- Between tokens. -/
  | between
  /-- In a number or a name. -/
  | word (seen : List Char)
  /-- In a string. `high` is the first half of a surrogate pair whose second half may follow. -/
  | string (high : Option Nat) (seen : List Char)
  /-- In a string, behind a backslash. -/
  | escape (high : Option Nat) (seen : List Char)
  /-- In a string, in an escape of which `left` more digits follow. -/
  | unit (high : Option Nat) (seen : List Char) (left : Nat) (code : Nat)

/-- Writes the waiting half of a pair, if there is one, as a character of its own. -/
def settle (high : Option Nat) (seen : List Char) : List Char :=
  match high with
  | some h => unitChar h :: seen
  | none => seen

/-- The reading behind a complete escape of a unit. -/
def finishUnit (high : Option Nat) (seen : List Char) (code : Nat) : Reading :=
  -- a first half waits for a second one; a half that was waiting already stands alone
  if 0xD800 ≤ code ∧ code < 0xDC00 then .string (some code) (settle high seen)
  else
    match high with
    | some h =>
      if 0xDC00 ≤ code ∧ code < 0xE000 then
        .string none (Char.ofNat (0x10000 + (h - 0xD800) * 0x400 + (code - 0xDC00)) :: seen)
      else .string none (unitChar code :: unitChar h :: seen)
    | none => .string none (unitChar code :: seen)

/-- The character that a one-letter escape stands for. -/
def shortEscape? : Char → Option Char
  | '"' => some '"'
  | '\\' => some '\\'
  | '/' => some '/'
  | 'b' => some '\x08'
  | 'f' => some '\x0c'
  | 'n' => some '\n'
  | 'r' => some '\r'
  | 't' => some '\t'
  | _ => none

/-- The token that a character is by itself. -/
def punctuation? : Char → Option Token
  | '[' => some .openArray
  | ']' => some .closeArray
  | '\x7b' => some .openObject
  | '\x7d' => some .closeObject
  | ',' => some .comma
  | ':' => some .colon
  | _ => none

/-- Is the character a blank between tokens? -/
def isBlank (c : Char) : Bool :=
  c = ' ' || c = '\t' || c = '\n' || c = '\r'

/-- An array or object that is not closed yet. Items stand last first, fields in order. -/
inductive Frame where
  | items (done : List Json)
  | fields (done : Fields) (key : String)

/-- What may come next. -/
inductive Expected where
  /-- A value. -/
  | value
  /-- A value, or the end of an array that has no items. -/
  | valueOrClose
  /-- The name of a field of the object with the given fields. -/
  | key (done : Fields)
  /-- The name of a field, or the end of an object that has no fields. -/
  | keyOrClose
  /-- The colon behind the name of a field. -/
  | colon (done : Fields) (key : String)
  /-- A complete value has been read; it belongs to the innermost open frame. -/
  | separator (v : Json)

/-- May a value come next? -/
def Expected.admitsValue : Expected → Bool
  | value | valueOrClose => true
  | _ => false

/-- The state behind the opening of an array or an object, unless they stand too deep. -/
def openFrame (stack : List Frame) (opened : List Frame × Expected) :
    Except Malformed (List Frame × Expected) :=
  if maxDepth ≤ stack.length then throw .depth else return opened

/-- One token: the new stack, and what may come next. -/
def feed (stack : List Frame) : Expected → Token → Except Malformed (List Frame × Expected)
  | .value, .value v | .valueOrClose, .value v => return (stack, .separator v)
  | .value, .openArray | .valueOrClose, .openArray =>
    openFrame stack (.items [] :: stack, .valueOrClose)
  | .value, .openObject | .valueOrClose, .openObject => openFrame stack (stack, .keyOrClose)
  | .valueOrClose, .closeArray =>
    match stack with
    | .items _ :: rest => return (rest, .separator (.arr []))
    | _ => throw .grammar
  | .keyOrClose, .closeObject => return (stack, .separator (.obj []))
  | .keyOrClose, .value (.str key) => return (stack, .colon [] key)
  | .key done, .value (.str key) => return (stack, .colon done key)
  | .colon done key, .colon => return (.fields done key :: stack, .value)
  | .separator v, .comma =>
    match stack with
    | .items done :: rest => return (.items (v :: done) :: rest, .value)
    | .fields done key :: rest => return (rest, .key (done.set key v))
    | [] => throw .grammar
  | .separator v, .closeArray =>
    match stack with
    | .items done :: rest => return (rest, .separator (.arr (v :: done).reverse))
    | _ => throw .grammar
  | .separator v, .closeObject =>
    match stack with
    | .fields done key :: rest => return (rest, .separator (.obj (done.set key v)))
    | _ => throw .grammar
  | _, _ => throw .grammar

/-- Where the reading of a text has come to. -/
structure State where
  /-- The token that is being read. -/
  reading : Reading
  /-- The arrays and objects that are not closed yet, the innermost in front. -/
  stack : List Frame
  /-- What may come next. -/
  expected : Expected

namespace State

/-- The state before a text. -/
def start : State :=
  ⟨.between, [], .value⟩

/-- The state behind a complete token. -/
def feed (s : State) (t : Token) : Except Malformed State := do
  let (stack, expected) ← Json.feed s.stack s.expected t
  return ⟨.between, stack, expected⟩

/-- The state with another reading of the current token. -/
def read (s : State) (reading : Reading) : State :=
  { s with reading }

/-- The state behind a character between tokens. A word begins only where a value may come. -/
def begin (s : State) (c : Char) : Except Malformed State :=
  if isBlank c then return s.read .between
  else if c = '"' then return s.read (.string none [])
  else if isWordChar c then
    if s.expected.admitsValue then return s.read (.word [c]) else throw .grammar
  else
    match punctuation? c with
    | some t => s.feed t
    | none => throw .grammar

/-- The state behind one more character of the text. -/
def next (s : State) (c : Char) : Except Malformed State :=
  match s.reading with
  | .between => s.begin c
  | .word seen =>
    if isWordChar c then return s.read (.word (c :: seen))
    else do
      -- the character that ends the word may be a token of its own
      (← s.feed (.value (← wordValue seen.reverse))).begin c
  | .string high seen =>
    if c = '\\' then return s.read (.escape high seen)
    else if c = '"' then s.feed (.value (.str (String.ofList (settle high seen).reverse)))
    else if c.toNat < 32 then throw .grammar
    else return s.read (.string none (c :: settle high seen))
  | .escape high seen =>
    if c = 'u' then return s.read (.unit high seen 4 0)
    else
      match shortEscape? c with
      | some d => return s.read (.string none (d :: settle high seen))
      | none => throw .grammar
  | .unit high seen left code =>
    match Text.hexDigit? c with
    | some d =>
      if left ≤ 1 then return s.read (finishUnit high seen (16 * code + d))
      else return s.read (.unit high seen (left - 1) (16 * code + d))
    | none => throw .grammar

/-- The value that has been read when the text ends. It is complete if nothing is open. -/
def value (s : State) : Except Malformed Json := do
  let s ←
    match s.reading with
    | .between => pure s
    | .word seen => s.feed (.value (← wordValue seen.reverse))
    | _ => throw .grammar
  match s.stack, s.expected with
  | [], .separator v => return v
  | _, _ => throw .grammar

end State

/-- The value of a JSON text. -/
def parse (text : List Char) : Except Malformed Json := do
  (← text.foldlM State.next .start).value

end Namesake.Json
