import Namesake.Config.Assignment
import Namesake.Text
import Namesake.Unicode.Blank

/-!
# Files of settings

A file of settings has one variable in an entry, as `NAME=value` or `export NAME=value`. A value may
be put in quotes, and may then go over several lines; double quotes admit escapes. What follows a
blank and `#` is a comment, also where the value is empty. A line that does not have this form is
skipped from the fault on. Within a value `${NAME}` stands for the value of another variable, and
`${NAME:-default}` for a default if there is none. A variable that is set already keeps its value,
and one of the variables can say that no file is to be read at all.

## Main definitions

* `Dotenv.entry` — the entry at the front of a text
* `Dotenv.entries` — the entries of a text
* `Dotenv.expand` — a value with its variables replaced
* `Variables.load` — sets the variables of a text that are not set yet
-/

namespace Namesake.Dotenv

open Unicode

/-- Is the character a blank within a line? -/
def isSpace (c : Char) : Bool :=
  isBlank c && c ≠ '\n' && c ≠ '\r'

/-- The text with every line break, a newline, a return, or both, as a newline. -/
def unifyBreaks : Text → Text
  | [] => []
  | '\r' :: '\n' :: rest => '\n' :: unifyBreaks rest
  | c :: rest => (if c = '\r' then '\n' else c) :: unifyBreaks rest

/-- The text of a file without the mark of its encoding. -/
def withoutMark : Text → Text
  | '\uFEFF' :: rest => rest
  | t => t

/-- The character that an escape in double quotes stands for. -/
def escapedChar? : Char → Option Char
  | '\\' => some '\\'
  | '\x27' => some '\x27'
  | '"' => some '"'
  | 'a' => some '\x07'
  | 'b' => some '\x08'
  | 'f' => some '\x0c'
  | 'n' => some '\n'
  | 'r' => some '\r'
  | 't' => some '\t'
  | 'v' => some '\x0b'
  | _ => none

/-- The character that an escape between the given quotes stands for. Single quotes admit a quote
and a backslash only. -/
def escapeIn? (mark c : Char) : Option Char :=
  if mark = '"' || c = '\x27' || c = '\\' then escapedChar? c else none

/-- A quoted value with its escapes replaced. A backslash that begins none stays. -/
def unescape (mark : Char) : Text → Text
  | [] => []
  | '\\' :: c :: rest =>
    match escapeIn? mark c with
    | some d => d :: unescape mark rest
    | none => '\\' :: unescape mark (c :: rest)
  | c :: rest => c :: unescape mark rest

/-- What stands before the closing quote, and what follows it. A character behind a backslash closes
nothing. -/
def untilQuote (mark : Char) : Text → Option (Text × Text)
  | [] => none
  | '\\' :: c :: rest => (untilQuote mark rest).map fun q => ('\\' :: c :: q.1, q.2)
  | c :: rest =>
    if c = mark then some ([], rest) else (untilQuote mark rest).map fun q => (c :: q.1, q.2)

/-- A value without quotes: up to a comment, without the blanks at its end. -/
def plain : Text → Text
  | [] => []
  | c :: rest =>
    if isSpace c && (rest.dropWhile isSpace).head? = some '#' then []
    else
      match plain rest with
      | [] => if isSpace c then [] else [c]
      | value => c :: value

/-- The rest of a line, and what follows it. -/
def spanLine (t : Text) : Text × Text :=
  (t.takeWhile (· ≠ '\n'), t.dropWhile (· ≠ '\n'))

/-- The text behind the line at its front. -/
def skipLine (t : Text) : Text :=
  (spanLine t).2.drop 1

/-- The value at the front of a text, perhaps behind blanks, and what follows it, unless a quote is
not closed. -/
def value? (t : Text) : Option (Text × Text) :=
  match t.dropWhile isSpace with
  | '"' :: rest => (untilQuote '"' rest).map fun q => (unescape '"' q.1, q.2)
  | '\x27' :: rest => (untilQuote '\x27' rest).map fun q => (unescape '\x27' q.1, q.2)
  | _ => some ((plain (spanLine t).1).dropWhile isSpace, (spanLine t).2)

/-- A text without the word `export` at its beginning. -/
def withoutExport (t : Text) : Text :=
  let word := "export".toList
  if word.isPrefixOf t && (t.drop word.length).head?.any isSpace then
    (t.drop word.length).dropWhile isSpace
  else t

/-- Can the character be part of the name of a variable? -/
def isNameChar (c : Char) : Bool :=
  c ≠ '=' && c ≠ '#' && !isBlank c

/-- The name at the front of a text, and what follows it. Before a comment there is none; a name may
stand in single quotes. -/
def name? : Text → Option (Option Text × Text)
  | '#' :: rest => some (none, '#' :: rest)
  | '\x27' :: rest =>
    let name := rest.takeWhile (· ≠ '\x27')
    match rest.dropWhile (· ≠ '\x27') with
    | _ :: after => if name.isEmpty then none else some (some name, after)
    | [] => none
  | t =>
    let name := t.takeWhile isNameChar
    if name.isEmpty then none else some (some name, t.dropWhile isNameChar)

/-- The text behind a comment at its front, if there is one. -/
def skipComment (t : Text) : Text :=
  if (t.dropWhile isSpace).head? = some '#' then (spanLine t).2 else t

/-- An entry of a file: a name, and its value unless the name stands alone. -/
abbrev Entry := Text × Option Text

/-- The entry that ends where a text begins, and the text behind its line. If anything but a comment
stands there, it is no entry. -/
def finish (name : Option Text) (value : Option Text) (t : Text) : Option Entry × Text :=
  let t := skipComment t
  match t.dropWhile isSpace with
  | [] => (name.map fun n => (n, value), [])
  | '\n' :: rest => (name.map fun n => (n, value), rest)
  | _ => (none, skipLine t)

/-- The entry at the front of a text, and the text behind it. A fault ends at the end of its line.
-/
def entry (t : Text) : Option Entry × Text :=
  match t.dropWhile isBlank with
  | [] => (none, [])
  | t =>
    let t := withoutExport t
    match name? t with
    | none => (none, skipLine t)
    | some (name, rest) =>
      match rest.dropWhile isSpace with
      | '=' :: more =>
        match value? more with
        | some (value, after) => finish name (some value) after
        | none => (none, skipLine more)
      | more => finish name none more

/-- The entries of a text. Each one takes a character at least, so `fuel` of them are enough for a
text of that length. -/
def entriesFrom : (fuel : Nat) → Text → List Entry
  | 0, _ => []
  | _, [] => []
  | fuel + 1, t =>
    let (e, rest) := entry t
    e.toList ++ entriesFrom fuel rest

/-- The entries of the text of a file. -/
def entries (file : Text) : List Entry :=
  let t := unifyBreaks (withoutMark file)
  entriesFrom t.length t

/-- A place in a value where another variable is asked for. -/
structure Reference where
  /-- The name of the variable. -/
  name : Text
  /-- What stands there if there is no such variable. -/
  default : Text
  /-- How many characters it takes. -/
  width : Nat

/-- The reference at the front of a text. -/
def reference? : Text → Option Reference
  | '$' :: '\x7b' :: rest =>
    let name := rest.takeWhile fun c => c ≠ '\x7d' && c ≠ ':'
    match rest.drop name.length with
    | '\x7d' :: _ => some ⟨name, [], name.length + 3⟩
    | ':' :: '-' :: more =>
      let default := more.takeWhile (· ≠ '\x7d')
      if default.length < more.length then
        some ⟨name, default, name.length + default.length + 5⟩
      else none
    | _ => none
  | _ => none

/-- A text with its references replaced. `skip` characters of a reference that has been replaced are
still to be passed over. -/
def expandFrom (value : Reference → Text) : (skip : Nat) → Text → Text
  | _, [] => []
  | skip + 1, _ :: rest => expandFrom value skip rest
  | 0, c :: rest =>
    match reference? (c :: rest) with
    | some r => value r ++ expandFrom value (r.width - 1) rest
    | none => c :: expandFrom value 0 rest

/-- A text with its references replaced. -/
def expand (value : Reference → Text) (t : Text) : Text :=
  expandFrom value 0 t

/-- What a reference stands for: the value of the variable that is set, or else the one of the
entries read so far, the latest in front. A name that stood alone there counts as empty. -/
def resolve (v : Variables) (known : List Entry) (r : Reference) : Text :=
  match v.get? (String.ofList r.name) with
  | some value => value.toList
  | none =>
    match known.lookup r.name with
    | some value => value.getD []
    | none => r.default

/-- One more entry, its references replaced by what is known before it. It takes the place of an
entry of the same name. -/
def learn (v : Variables) (known : List Entry) (e : Entry) : List Entry :=
  (e.1, e.2.map (expand (resolve v known))) :: known.filter fun k => k.1 ≠ e.1

end Namesake.Dotenv

namespace Namesake.Variables

/-- A letter of ASCII, or the long `ſ`, without its case. -/
def foldLetter (c : Char) : Char :=
  if c = 'ſ' then 's' else c.toLower

/-- Do the variables say that no file is to be read? -/
def refusesFiles (v : Variables) : Bool :=
  match v.get? "PYTHON_DOTENV_DISABLED" with
  | some value =>
    ["1", "true", "t", "yes", "y"].contains (String.ofList (value.toList.map foldLetter))
  | none => false

/-- Sets a variable that is not set yet. -/
def loadOne (name value : Text) : EStateM Fault Variables Unit := do
  let v ← get
  if (v.get? (String.ofList name)).isSome then return ()
  else assign (String.ofList name) (.str (String.ofList value))

/-- Sets the variables of the text of a file that are not set yet, if files are to be read. Of
several entries for one variable the last one counts. A variable that cannot be set ends it. -/
def load (file : String) : EStateM Fault Variables Unit := do
  let v ← get
  if v.refusesFiles then return ()
  else
    let entries := Dotenv.entries file.toList
    let known := entries.foldl (Dotenv.learn v) []
    (entries.map (·.1)).eraseDups.forM fun name =>
      match known.lookup name with
      | some (some value) => loadOne name value
      | _ => pure ()

end Namesake.Variables
