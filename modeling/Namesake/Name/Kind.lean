import Namesake.Json.Display

/-!
# Kinds of names

Users and groups are named from one supply: a name taken by either is taken for both.

## Main definitions

* `NameKind` — a user's name or a group's name
* `NameKind.word`, `NameKind.ofWord?` — the word for a kind, and the kind with a given word
* `NameKind.ofJson?` — the kind that a value names
-/

namespace Namesake

/-- What a name is for. -/
inductive NameKind where
  | username
  | groupName
  deriving DecidableEq, Repr

namespace NameKind

/-- The word for a kind in events, tables and log entries. -/
def word : NameKind → String
  | username => "username"
  | groupName => "group_name"

/-- All kinds. -/
def all : List NameKind :=
  [username, groupName]

/-- The words for all kinds. -/
def words : List String :=
  all.map word

/-- The kind with a given word. -/
def ofWord? (s : String) : Option NameKind :=
  all.find? fun k => k.word = s

/-- The kind that a value names by its word. -/
def ofJson? : Json → Option NameKind
  | .str s => ofWord? s
  | _ => none

/-- The message about a value that names no kind. -/
def unknownMessage (v : Json) : String :=
  "Unknown name kind: " ++ v.display

end NameKind

end Namesake
