import Namesake.Name.Kind
import Namesake.Text

/-!
# Stores of used names

The names that are taken are kept in one of two stores. In memory there are two sets, one for each
kind. In a table there is one row per name, whatever its kind, so that inserting a row if there is
none is a single step.

## Main definitions

* `NameSets` — the store in memory
* `Row`, `Table` — the store in a table
* `Store` — one of the two, with `Store.has` and `Store.hasAs`
-/

namespace Namesake

/-- The sets of a store in memory. Beside the sets of the two kinds it may hold others. -/
structure NameSets where
  /-- The names of users. -/
  usernames : TextSet
  /-- The names of groups. -/
  groupNames : TextSet
  /-- Sets under other keys. -/
  others : TextMap TextSet

namespace NameSets

/-- Sets without names. -/
def empty : NameSets :=
  ⟨∅, ∅, ∅⟩

/-- The names of a kind. -/
def names (s : NameSets) : NameKind → TextSet
  | .username => s.usernames
  | .groupName => s.groupNames

/-- Replaces the names of a kind. -/
def setNames (s : NameSets) (kind : NameKind) (names : TextSet) : NameSets :=
  match kind with
  | .username => { s with usernames := names }
  | .groupName => { s with groupNames := names }

/-- Is the name taken by either kind? -/
def has (s : NameSets) (name : Text) : Bool :=
  s.usernames.contains name || s.groupNames.contains name

/-- Adds a name to those of a kind. -/
def add (s : NameSets) (kind : NameKind) (name : Text) : NameSets :=
  s.setNames kind ((s.names kind).insert name)

/-- Removes a name from those of a kind. -/
def discard (s : NameSets) (kind : NameKind) (name : Text) : NameSets :=
  s.setNames kind ((s.names kind).erase name)

end NameSets

/-- The row of a used name in a table. -/
structure Row where
  /-- The kind that holds the name. -/
  kind : NameKind
  /-- The name as it is displayed, if that is recorded. -/
  display : Option Text
  /-- When the row was made. -/
  createdAt : String
  deriving DecidableEq, Repr

/-- A table of used names: the rows by lower-case name. -/
abbrev Table := TextMap Row

namespace Table

/-- The names that a kind holds, in order. -/
def names (t : Table) (kind : NameKind) : List Text :=
  t.toList.filterMap fun e => if e.2.kind = kind then some e.1 else none

end Table

/-- The store that resolvers share. -/
inductive Store where
  | memory (sets : NameSets)
  | table (rows : Table)

namespace Store

/-- An empty store in memory. -/
def fresh : Store :=
  .memory .empty

/-- Is the name taken by either kind? -/
def has : Store → Text → Bool
  | memory sets, name => sets.has name
  | table rows, name => rows.contains name

/-- Is the name taken by the given kind? -/
def hasAs (kind : NameKind) : Store → Text → Bool
  | memory sets, name => (sets.names kind).contains name
  | table rows, name => (rows.get? name).any fun row => row.kind = kind

/-- The names that a kind holds, in order. -/
def names (kind : NameKind) : Store → List Text
  | memory sets => (sets.names kind).toList
  | table rows => Table.names rows kind

/-- The store with one more name. A table records in the row how the name is displayed, and when the
row was made. -/
def insert (store : Store) (kind : NameKind) (name : Text) (display : Option Text) (now : String) :
    Store :=
  match store with
  | memory sets => .memory (sets.add kind name)
  | table rows => .table (rows.insert name ⟨kind, display, now⟩)

end Store

/-- The keys under which a store keeps the names of each kind. -/
def NameKind.storeKey : NameKind → String
  | .username => "usernames"
  | .groupName => "group_names"

/-- The kind whose names a store keeps under a key. -/
def NameKind.ofStoreKey? (key : String) : Option NameKind :=
  NameKind.all.find? fun k => k.storeKey = key

end Namesake
