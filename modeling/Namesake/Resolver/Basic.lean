import Namesake.Cache.Suffixes
import Namesake.Name.Sanitize
import Namesake.Policy.Pattern
import Namesake.Registry.Session
import Namesake.Reserved.Rules
import Namesake.Resolver.Request

/-!
# Resolvers

A resolver is made from settings, which are checked once: the limits must leave room for a search,
and the fallback names must be usable and must not be caught by a reserved rule that no suffix
escapes. What changes while a resolver works is kept apart from it, in a worker.

## Main definitions

* `PatternCompiler`, `Pattern.compile` — what makes tests of patterns
* `ResolverSettings` — what a resolver is made from
* `Resolver` — a resolver
* `Resolver.build` — the resolver and the worker that settings describe
-/

namespace Namesake

open Unicode

/-- The character between a base and its suffix. -/
def suffixSeparator : Char := '_'

/-- A compiler for patterns of admitted characters: the test that the text of a pattern stands for,
or the fault with which the text is refused. -/
abbrev PatternCompiler :=
  Text → Except Fault (Text → Bool)

/-- The usual compiler. -/
def Pattern.compile : PatternCompiler := fun text =>
  match parse text with
  | .ok pattern => return pattern.fullMatch
  | .error cause => throw (.badPattern cause)

/-- What a resolver is made from. -/
structure ResolverSettings where
  /-- A word that mentions everybody and is therefore reserved. -/
  reservedMention : Json := .null
  /-- The reserved names and wildcard rules. -/
  reservedRules : Json := .null
  /-- The name for users without a usable one. -/
  fallbackUsername : Json := .str "user"
  /-- The name for groups without a usable one. -/
  fallbackGroupName : Json := .str "group"
  /-- The limit for the length of names. -/
  maxLength : Json := .int defaultMaxLength
  /-- How many candidates are tried one by one. -/
  maxAttempts : Json := .int 500
  /-- How many bases the suffix cache remembers. -/
  suffixCacheSize : Json := .int SuffixCache.defaultCapacity
  /-- How many bases the truncation cache remembers. -/
  truncationCacheSize : Json := .int TruncationCache.defaultCapacity
  /-- Are letters beyond ASCII admitted? -/
  unicodeNames : Json := .bool true
  /-- A pattern for the admitted characters. -/
  allowedCharacters : Json := .null
  /-- What makes a test of that pattern. -/
  compile : PatternCompiler := Pattern.compile
  /-- The service under whose name the resolver writes its log. -/
  service : String := "name-resolution-service"

/-- A resolver. -/
structure Resolver where
  /-- The alphabet of names. -/
  policy : CharacterPolicy
  /-- The reserved names. -/
  reserved : ReservedNames
  /-- The limit for the length of names. -/
  limit : Limit
  /-- How many candidates are tried one by one. -/
  maxAttempts : Nat
  /-- The name for users without a usable one. -/
  fallbackUsername : Text
  /-- The name for groups without a usable one. -/
  fallbackGroupName : Text
  /-- What the resolver was made from. -/
  settings : ResolverSettings
  /-- A name and a suffix fit into the limit. -/
  roomy : limit.isShort = false

namespace Resolver

/-- The name for users of whom nothing else is known. -/
def lastResort : Text := "user".toList

/-- The configured fallback name of a kind. -/
def fallbackOf (r : Resolver) : NameKind → Text
  | .username => r.fallbackUsername
  | .groupName => r.fallbackGroupName

/-- A clean name cut at a limit, from a raw one. -/
def prepare (policy : CharacterPolicy) (raw : Json) (limit : Limit) : Except Fault Text :=
  limit.cut (policy.sanitize raw)

/-- Would every suffixed form of the name be reserved? That is so if a rule which ends in a wildcard
takes the name with the separator behind it. -/
def isTrapped (reserved : ReservedNames) (name : Text) : Bool :=
  reserved.defeatsSuffix (lowercase name ++ [suffixSeparator])

/-- The fallback name that a setting gives. An empty one is replaced by the last resort, if there is
one. -/
def prepareFallback (policy : CharacterPolicy) (reserved : ReservedNames) (limit : Limit)
    (setting : Json) (key : String) (resort : Option Text) : Except Fault Text := do
  let prepared ← prepare policy setting limit
  let name := if prepared.isEmpty then resort.getD [] else prepared
  if name.isEmpty then
    throw (.configuration (.str s!"Fallback name '{setting.display}' is empty after sanitization")
      (.str key) .null)
  if isTrapped reserved name then
    throw (.configuration
      (.str s!"Fallback name '{String.ofList name}' is blocked by a reserved wildcard")
      (.str key) .null)
  return name

/-- The test for admitted clusters that a setting gives. An empty setting gives none. -/
def allowanceOf (compile : PatternCompiler) : Json → Except Fault (Option (Text → Bool))
  | .str s => if s.isEmpty then return none else do return some (← compile s.toList)
  | v => if v.truthy then throw (.badType "a pattern is text") else return none

/-- How many candidates are tried one by one if there is no end to it. -/
def endless : Nat := Nat.pow 2 62

/-- How many whole numbers from zero on are below a quantity. -/
def attemptsBelow (q : Quantity) : Nat :=
  match q.ceil? with
  | some n => n.toNat
  | none => if (0 : Quantity).lt q then endless else 0

/-- The resolver that settings describe, with its caches still empty and nobody interfering. -/
def build (s : ResolverSettings) : Except Fault (Resolver × Worker) := do
  let limit ← Limit.ofJson s.maxLength
  match h : limit.isShort with
  | true => throw (.configuration (.str RequestForm.shortMessage) (.str "max-name-length") .null)
  | false =>
    let attempts ← Limit.ofJson s.maxAttempts
    if attempts.lt 1 then
      throw (.configuration (.str "max_attempts must be positive") (.str "max-attempts") .null)
    let allow ← allowanceOf s.compile s.allowedCharacters
    let policy : CharacterPolicy := ⟨s.unicodeNames.truthy, allow⟩
    let reserved ← ReservedNames.ofSettings s.reservedMention s.reservedRules
    let suffixes ← Memo.ofCapacity s.suffixCacheSize
    let truncations ← Memo.ofCapacity s.truncationCacheSize
    let username ← prepareFallback policy reserved limit s.fallbackUsername
      "fallback-username" (some lastResort)
    let groupName ← prepareFallback policy reserved limit s.fallbackGroupName
      "fallback-group-name" none
    return (⟨policy, reserved, limit, attemptsBelow attempts, username, groupName, s, h⟩,
      ⟨.none, suffixes, truncations⟩)

/-- The resolver for diagnostics. -/
def describe (r : Resolver) : Json :=
  .obj [("fallback_username", .str (String.ofList r.fallbackUsername)),
    ("fallback_group_name", .str (String.ofList r.fallbackGroupName)),
    ("max_length", r.settings.maxLength), ("max_attempts", r.settings.maxAttempts),
    ("unicode_names", r.settings.unicodeNames), ("allowlist", .bool r.policy.allow.isSome),
    ("rules", r.reserved.describe)]

end Resolver

end Namesake
