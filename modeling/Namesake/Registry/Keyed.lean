import Namesake.Registry.Claim

/-!
# Sets under keys

A store hands out its sets of names by key. Both stores have the sets of the two kinds; a store in
memory makes an empty set for any other key, while a table refuses it.

## Main definitions

* `SetKey` — which set a key stands for
* `Registry.setAt` — the set under a key, with `SetKey.names`, `SetKey.add`, `SetKey.discard`,
  `SetKey.has` and `SetKey.count`
-/

namespace Namesake

/-- A set of names in a store. -/
inductive SetKey where
  /-- The names of a kind. -/
  | kind (k : NameKind)
  /-- Another set of a store in memory. -/
  | other (key : Text)
  deriving DecidableEq, Repr

/-- The set under a key. -/
def Registry.setAt (key : String) : Task SetKey := do
  match NameKind.ofStoreKey? key with
  | some k => return .kind k
  | none =>
    match (← get).shared.store with
    | .memory _ => return .other key.toList
    | .table _ => throw (.missingKey (.str ("Unknown registry key: " ++ key)))

/-- The names of another set of a store in memory. -/
def NameSets.other (s : NameSets) (key : Text) : TextSet :=
  s.others.getD key ∅

/-- The names under another key of the store. -/
def Registry.otherNames (key : Text) : Task TextSet := do
  match (← get).shared.store with
  | .memory sets => return sets.other key
  | .table _ => return ∅

/-- Changes another set of a store in memory. -/
def Registry.modifyOther (key : Text) (f : TextSet → TextSet) : Task Unit := do
  match (← get).shared.store with
  | .memory sets =>
    Task.setStore (.memory { sets with others := sets.others.insert key (f (sets.other key)) })
  | .table _ => return ()

namespace SetKey

/-- The names of the set, in order. -/
def names : SetKey → Task (List Text)
  | kind k => Registry.names k
  | other key => return (← Registry.otherNames key).toList

/-- How many names the set has. -/
def count (s : SetKey) : Task Nat := do
  return (← s.names).length

/-- Does the set have the name? -/
def has (s : SetKey) (name : Text) : Task Bool := do
  match s with
  | kind k => Registry.has k name
  | other key => return (← Registry.otherNames key).contains name

/-- Adds a name. -/
def add (s : SetKey) (name : Text) : Task Unit :=
  match s with
  | kind k => Registry.add k name
  | other key => Registry.modifyOther key fun names => names.insert name

/-- Removes a name. -/
def discard (s : SetKey) (name : Text) : Task Unit :=
  match s with
  | kind k => Registry.discard k name
  | other key => Registry.modifyOther key fun names => names.erase name

end SetKey

end Namesake
