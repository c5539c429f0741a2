import Namesake.Fault
import Namesake.Name.Sanitize
import Namesake.Reserved.Glob

/-!
# Reserved names

Some names are kept back, either one by one or by wildcard rules. Names are compared in composed
lower case. A rule that ends in a star also takes every suffixed form of the names that it takes, so
it is known as one that no suffix escapes.

## Main definitions

* `ReservedNames` — the names and rules
* `ReservedNames.ofRules` — the names and rules that a list of texts describes
* `ReservedNames.holds` — is a name reserved?
* `ReservedNames.defeatsSuffix` — does a rule take the name that no suffix escapes?
-/

namespace Namesake

open Unicode

/-- Names that are kept back. -/
structure ReservedNames where
  /-- Single names, in comparison form. -/
  exact : TextSet
  /-- Rules with a wildcard, in the order in which they were given. -/
  wildcards : List Text
  /-- The rules among them that end in a wildcard. -/
  endless : List Text

namespace ReservedNames

/-- No name is reserved. -/
def none : ReservedNames :=
  ⟨∅, [], []⟩

/-- The comparison form of a rule: without the blanks around it, composed, in lower case. -/
def ruleForm (rule : Text) : Text :=
  canonicalName (trimBlanks rule)

/-- One more single name; a blank one is skipped. -/
def addExact (r : ReservedNames) (name : Text) : ReservedNames :=
  if (trimBlanks name).isEmpty then r else { r with exact := r.exact.insert (ruleForm name) }

/-- One more rule, with or without wildcards; a blank one is skipped. -/
def addRule (r : ReservedNames) (rule : Text) : ReservedNames :=
  if (trimBlanks rule).isEmpty then r
  else
    let form := ruleForm rule
    if form.contains '*' then
      { r with
        wildcards := r.wildcards ++ [form]
        endless := if form.getLast? = some '*' then r.endless ++ [form] else r.endless }
    else { r with exact := r.exact.insert form }

/-- The reserved names that a mention and a list of rules describe. A mention is always a single
name, whatever characters it has. -/
def ofRules (mention : Text) (rules : List Text) : ReservedNames :=
  rules.foldl addRule (none.addExact mention)

/-- The mention that a setting gives. -/
def mentionOf : Json → Except Fault Text
  | .str s => return s.toList
  | v => if v.truthy then throw (.badMember "a mention is text") else return []

/-- The rules that a setting gives: the texts of a list, or the characters of a text, or the names
of the fields of an object. What is no text in a list is skipped. -/
def rulesOf (v : Json) : Except Fault (List Text) :=
  if !v.truthy then return []
  else
    match v.elements? with
    | some rules => return rules.filterMap fun rule => rule.string?.map String.toList
    | .none => throw (.noElements v)

/-- The reserved names that two settings describe. -/
def ofSettings (mention rules : Json) : Except Fault ReservedNames := do
  let mention ← mentionOf mention
  let rules ← rulesOf rules
  return ofRules mention rules

/-- The form in which a lower-case name is compared. ASCII names have it already. -/
def nameForm (name : Text) : Text :=
  if name.isAscii then name else canonicalName name

/-- Is a lower-case name reserved? -/
def holds (r : ReservedNames) (name : Text) : Bool :=
  let form := nameForm name
  r.exact.contains form || r.wildcards.any fun rule => Glob.fits rule form

/-- Does a rule take the lower-case name that also takes every suffixed form of it? -/
def defeatsSuffix (r : ReservedNames) (name : Text) : Bool :=
  let form := nameForm name
  r.endless.any fun rule => Glob.fits rule form

/-- The names and rules for diagnostics: the names in order, the rules as regular expressions. -/
def describe (r : ReservedNames) : Json :=
  let texts (ts : List Text) : Json := .arr (ts.map fun t => .str (String.ofList t))
  .obj [("exact", texts r.exact.toList), ("wildcard", texts (r.wildcards.map Glob.expression)),
    ("suffix_defeating", texts (r.endless.map Glob.expression))]

end ReservedNames

end Namesake
