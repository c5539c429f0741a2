import Namesake.Config.Conversion
import Namesake.Config.Variables
import Namesake.Resolver.Basic

/-!
# Settings

Each setting has a key, a default and a way of being read.

## Main definitions

* `Setting` — a setting
* `Setting.interpret` — its value, given what was found under its key
* `Setting.all` — the settings in an environment
* `ResolverSettings.ofVariables` — the settings of a resolver as the environment gives them
-/

namespace Namesake

open Unicode

/-- How a setting is read. -/
inductive Reading where
  /-- As it is found. -/
  | text
  /-- As it is found, in lower case. -/
  | lowerText
  /-- As it is found, or null if that is empty. -/
  | optionalText
  | int
  | bool
  /-- As a list with a separator. -/
  | list (separator : String)
  deriving DecidableEq, Repr

/-- A setting. -/
structure Setting where
  /-- The key under which it is found. -/
  key : String
  /-- What it is if nothing is found. -/
  default : Json
  /-- How it is read. -/
  reading : Reading

namespace Setting

/-- The value of a setting, given what was found under its key. -/
def interpret (s : Setting) (found : Option Json) : Except Fault Json :=
  let value := found.getD s.default
  match s.reading with
  | .text => return value
  | .lowerText =>
    match value with
    | .str t => return .str (String.ofList (lowercase t.toList))
    | _ => throw (.badMember "only text has a lower case")
  | .optionalText => return if value.truthy then value else .null
  | .int => Conversion.int value s.default
  | .bool => return Conversion.bool value s.default
  | .list separator => Conversion.list (found.getD .null) s.default (.str separator)

/-- The limit for the length of names. -/
def maxNameLength : Setting :=
  ⟨"max-name-length", .int defaultMaxLength, .int⟩

/-- How many candidates are tried one by one. -/
def maxAttempts : Setting :=
  ⟨"max-attempts", .int 500, .int⟩

/-- How many bases the suffix cache remembers. -/
def suffixCacheSize : Setting :=
  ⟨"suffix-cache-size", .int SuffixCache.defaultCapacity, .int⟩

/-- How many bases the truncation cache remembers. -/
def truncationCacheSize : Setting :=
  ⟨"truncation-cache-size", .int TruncationCache.defaultCapacity, .int⟩

/-- The name for users without a usable one. -/
def fallbackUsername : Setting :=
  ⟨"fallback-username", .str "user", .text⟩

/-- The name for groups without a usable one. -/
def fallbackGroupName : Setting :=
  ⟨"fallback-group-name", .str "group", .text⟩

/-- The names that are reserved if nothing else is said. The fallback name for users is not among
them, since it must stay free to be claimed. -/
def defaultReserved : List String :=
  ["admin", "moderator", "administrator", "mod", "sys", "system", "community", "info", "you",
    "name", "username", "nickname", "support"]

/-- The character between reserved names. -/
def reservedSeparator : String := "|"

/-- The reserved names and wildcard rules. -/
def reservedUsernames : Setting :=
  ⟨"reserved-usernames", .ofStrings defaultReserved, .list reservedSeparator⟩

/-- The word that mentions everybody. -/
def hereMention : Setting :=
  ⟨"here-mention", .str "here", .text⟩

/-- Are letters beyond ASCII admitted? -/
def unicodeUsernames : Setting :=
  ⟨"unicode-usernames", .bool true, .bool⟩

/-- A pattern for the admitted characters. -/
def allowedCharacters : Setting :=
  ⟨"allowed-unicode-username-characters", .null, .optionalText⟩

/-- The store of used names: in memory, or in a table. -/
def registryBackend : Setting :=
  ⟨"registry-backend", .str "memory", .lowerText⟩

/-- The name of the table of used names in an environment. -/
def usedNamesTable (environment : String) : Setting :=
  ⟨"used-names-table-name", .str ("UsedNames-" ++ environment), .text⟩

/-- Are log entries of the lowest level kept? -/
def debugLogging : Setting :=
  ⟨"enable-debug-logging", .bool false, .bool⟩

/-- The settings in an environment. -/
def all (environment : String) : List Setting :=
  [maxNameLength, maxAttempts, suffixCacheSize, truncationCacheSize, fallbackUsername,
    fallbackGroupName, reservedUsernames, hereMention, unicodeUsernames, allowedCharacters,
    registryBackend, usedNamesTable environment, debugLogging]

/-- The value of a setting by the environment variables alone. -/
def ofVariables (s : Setting) (v : Variables) : Except Fault Json :=
  s.interpret ((v.parameter? s.key).map .str)

end Setting

/-- Are log entries of the lowest level kept, by the environment variables? -/
def Variables.debugLogging (v : Variables) : Bool :=
  match Setting.debugLogging.ofVariables v with
  | .ok value => value.truthy
  | .error _ => false

/-- The settings of a resolver as the environment variables give them. The compiler for patterns is
no matter of the environment. -/
def ResolverSettings.ofVariables (v : Variables) (compile : PatternCompiler := Pattern.compile) :
    Except Fault ResolverSettings := do
  return {
    compile
    reservedMention := ← Setting.hereMention.ofVariables v
    reservedRules := ← Setting.reservedUsernames.ofVariables v
    fallbackUsername := ← Setting.fallbackUsername.ofVariables v
    fallbackGroupName := ← Setting.fallbackGroupName.ofVariables v
    maxLength := ← Setting.maxNameLength.ofVariables v
    maxAttempts := ← Setting.maxAttempts.ofVariables v
    suffixCacheSize := ← Setting.suffixCacheSize.ofVariables v
    truncationCacheSize := ← Setting.truncationCacheSize.ofVariables v
    unicodeNames := ← Setting.unicodeUsernames.ofVariables v
    allowedCharacters := ← Setting.allowedCharacters.ofVariables v }

end Namesake
