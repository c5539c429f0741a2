import Namesake.Text
import Namesake.Unicode.Category
import Namesake.Unicode.Script

/-!
# Patterns for admitted characters

A policy may name the grapheme clusters it admits by a pattern: characters, sets of characters,
classes of characters by name, alternatives, groups and repetition. A cluster is admitted if the
pattern matches all of it. Matching takes the pattern apart character by character, by derivatives.

The patterns are those regular expressions that policies are usually written with. Not all
expressions are read here: there are no classes by letter (`\w`, `\d`, `\s`), no properties but
`L`, `M`, `N` and the four scripts, no groups with options (`(?:..)`), no anchors (`^`, `$`) and no
counts (`{m,n}`, where the braces stand for themselves). A resolver does not depend on that: it is
given the compiler as one of its settings, and `Pattern.compile` is only the usual one.

## Main definitions

* `CharSet`, `Pattern` — sets of characters, and patterns over them
* `Pattern.derive`, `Pattern.nullable`, `Pattern.fullMatch` — matching
* `Pattern.parse` — the pattern that a text denotes
-/

namespace Namesake

open Unicode

/-- A set of characters. -/
inductive CharSet where
  | single (c : Char)
  | range (lo hi : Char)
  | letter
  | mark
  | number
  | script (s : Script)
  | union (sets : List CharSet)
  | complement (s : CharSet)

namespace CharSet

mutual

/-- Is the character in the set? -/
def contains : CharSet → Char → Bool
  | single d, c => c = d
  | range lo hi, c => lo ≤ c && c ≤ hi
  | letter, c => isLetter c
  | mark, c => isMark c
  | number, c => isNumber c
  | script s, c => s.holds c
  | union sets, c => containsAny sets c
  | complement s, c => !contains s c

/-- Is the character in one of the sets? -/
def containsAny : List CharSet → Char → Bool
  | [], _ => false
  | s :: rest, c => contains s c || containsAny rest c

end

end CharSet

/-- A pattern. -/
inductive Pattern where
  /-- Matches nothing. -/
  | never
  /-- Matches the empty text. -/
  | empty
  /-- Matches one character of a set. -/
  | one (s : CharSet)
  | seq (first second : Pattern)
  | alt (first second : Pattern)
  | star (body : Pattern)

namespace Pattern

/-- Does the pattern match the empty text? -/
def nullable : Pattern → Bool
  | never => false
  | empty => true
  | one _ => false
  | seq p q => p.nullable && q.nullable
  | alt p q => p.nullable || q.nullable
  | star _ => true

/-- What must follow a character for the pattern to match. -/
def derive (c : Char) : Pattern → Pattern
  | never => never
  | empty => never
  | one s => if s.contains c then empty else never
  | seq p q =>
    -- the character may also be the first of the second part if the first part can be empty
    if p.nullable then alt (seq (p.derive c) q) (q.derive c) else seq (p.derive c) q
  | alt p q => alt (p.derive c) (q.derive c)
  | star p => seq (p.derive c) (star p)

/-- Does the pattern match the whole text? -/
def fullMatch : Pattern → Text → Bool
  | p, [] => p.nullable
  | p, c :: rest => (p.derive c).fullMatch rest

/-- Why a text denotes no pattern. Positions count characters from zero. -/
inductive Malformed where
  /-- A set is not closed. -/
  | unterminatedSet (position : Nat)
  /-- A group is not closed. -/
  | missingParenthesis (position : Nat)
  /-- A parenthesis closes no group. -/
  | unbalanced (position : Nat)
  /-- There is nothing before a sign of repetition. -/
  | nothingToRepeat (position : Nat)
  /-- An escape is not known. -/
  | badEscape (position : Nat)
  deriving DecidableEq, Repr

/-- The message about a malformed pattern. -/
def Malformed.message : Malformed → String
  | unterminatedSet n => s!"unterminated character set at position {n}"
  | missingParenthesis n => s!"missing ) at position {n}"
  | unbalanced n => s!"unbalanced parenthesis at position {n}"
  | nothingToRepeat n => s!"nothing to repeat at position {n}"
  | badEscape n => s!"bad escape at position {n}"

/-- The class of a name in braces. -/
def namedClass? (name : Text) : Option CharSet :=
  if name = "L".toList then some .letter
  else if name = "M".toList then some .mark
  else if name = "N".toList then some .number
  else if name = "Latin".toList then some (.script .latin)
  else if name = "Han".toList then some (.script .han)
  else if name = "Cyrillic".toList then some (.script .cyrillic)
  else if name = "Greek".toList then some (.script .greek)
  else none

/-- The number that hexadecimal digits denote. -/
def hexNumber? (ds : Text) : Option Nat :=
  ds.foldl (fun n d => do return 16 * (← n) + (← Text.hexDigit? d)) (some 0)

/-- The set that an escape denotes, given what follows the backslash, and how many characters
belong to the escape. A letter or digit without a meaning of its own is refused, and any other
character stands for itself. -/
def escape? : Text → Option (CharSet × Nat)
  | 'p' :: '\x7b' :: rest =>
    let name := rest.takeWhile (· ≠ '\x7d')
    (namedClass? name).map fun s => (s, name.length + 3)
  | 'u' :: rest =>
    if rest.length < 4 then none
    else (hexNumber? (rest.take 4)).map fun n => (.single (Char.ofNat n), 5)
  | c :: _ => if c.isAlphanum then none else some (.single c, 1)
  | [] => none

/-- The contents of a set in brackets. `skip` characters belong to an escape that has been read,
`items` are the sets read so far, and `dash` says that the last one may begin a range. The answer is
the set and the number of characters up to and with the closing bracket. -/
def setItems (position skip : Nat) (items : List CharSet) (dash : Bool) :
    Text → Except Malformed (List CharSet × Nat)
  | [] => throw (.unterminatedSet position)
  | c :: rest =>
    match skip with
    | skip + 1 => setItems (position + 1) skip items dash rest
    | 0 =>
      -- a closing bracket in the first place is an item
      if c = ']' && !items.isEmpty then return (items, position + 1)
      else if c = '-' && !dash && !items.isEmpty && rest.head? ≠ some ']' then
        setItems (position + 1) 0 items true rest
      else
        let (item, used) : Option CharSet × Nat :=
          if c = '\\' then
            match escape? rest with
            | some (s, used) => (some s, used)
            | none => (none, 0)
          else (some (.single c), 0)
        match item with
        | none => throw (.badEscape position)
        | some item =>
          -- only two single characters span a range
          match dash, item, items with
          | true, .single hi, .single lo :: before =>
            setItems (position + 1) used (.range lo hi :: before) false rest
          | _, _, _ => setItems (position + 1) used (item :: items) false rest

/-- The set in brackets that begins behind an opening bracket at `position`, and the position behind
its closing bracket. -/
def set? (position : Nat) : Text → Except Malformed (CharSet × Nat)
  | '^' :: rest => do
    let (items, stop) ← setItems (position + 2) 0 [] false rest
    return (.complement (.union items), stop)
  | rest => do
    let (items, stop) ← setItems (position + 1) 0 [] false rest
    return (.union items, stop)

/-- The part of a pattern that is read inside one group: the alternatives that are finished, and the
items of the one under way, last first. -/
structure Group where
  /-- The finished alternatives. -/
  before : Option Pattern
  /-- The items of the alternative under way, last first. -/
  items : List Pattern

namespace Group

/-- A group in which nothing has been read. -/
def start : Group := ⟨none, []⟩

/-- The group with one more item. -/
def push (g : Group) (p : Pattern) : Group :=
  ⟨g.before, p :: g.items⟩

/-- The alternative under way. -/
def sequence (g : Group) : Pattern :=
  g.items.foldl (fun rest p => .seq p rest) .empty

/-- The pattern of the whole group. -/
def pattern (g : Group) : Pattern :=
  match g.before with
  | some p => .alt p g.sequence
  | none => g.sequence

/-- Replaces the last item. -/
def modifyLast? (g : Group) (f : Pattern → Pattern) : Option Group :=
  match g.items with
  | p :: rest => some ⟨g.before, f p :: rest⟩
  | [] => none

end Group

/-- Reads the rest of a pattern. `skip` characters belong to something that has been read; `outer`
are the groups around the current one. -/
def parseFrom (position skip : Nat) (group : Group) (outer : List Group) :
    Text → Except Malformed Pattern
  | [] =>
    if outer.isEmpty then return group.pattern else throw (.missingParenthesis position)
  | c :: rest =>
    match skip with
    | skip + 1 => parseFrom (position + 1) skip group outer rest
    | 0 =>
      match c with
      | '(' => parseFrom (position + 1) 0 .start (group :: outer) rest
      | ')' =>
        match outer with
        | around :: outer => parseFrom (position + 1) 0 (around.push group.pattern) outer rest
        | [] => throw (.unbalanced position)
      | '|' => parseFrom (position + 1) 0 ⟨some group.pattern, []⟩ outer rest
      | '*' =>
        match group.modifyLast? .star with
        | some group => parseFrom (position + 1) 0 group outer rest
        | none => throw (.nothingToRepeat position)
      | '+' =>
        match group.modifyLast? fun p => .seq p (.star p) with
        | some group => parseFrom (position + 1) 0 group outer rest
        | none => throw (.nothingToRepeat position)
      | '?' =>
        match group.modifyLast? (.alt .empty) with
        | some group => parseFrom (position + 1) 0 group outer rest
        | none => throw (.nothingToRepeat position)
      | '[' =>
        match set? position rest with
        | .ok (s, stop) =>
          parseFrom (position + 1) (stop - position - 1) (group.push (.one s)) outer rest
        | .error e => throw e
      | '.' =>
        parseFrom (position + 1) 0 (group.push (.one (.complement (.single '\n')))) outer rest
      | '\\' =>
        match escape? rest with
        | some (s, used) => parseFrom (position + 1) used (group.push (.one s)) outer rest
        | none => throw (.badEscape position)
      | c => parseFrom (position + 1) 0 (group.push (.one (.single c))) outer rest

/-- The pattern that a text denotes. -/
def parse (t : Text) : Except Malformed Pattern :=
  parseFrom 0 0 .start [] t

end Pattern

end Namesake
