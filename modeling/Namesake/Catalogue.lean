import Namesake.Config.Setting
import Namesake.Registry.Triage

/-!
# The catalogue of fixed values

The fixed values of the program, by group, for those who look them up. Patterns are shown as regular
expressions.

## Main definitions

* `Catalogue` — the groups
* `Catalogue.fields` — the values of a group
* `version` — the version of the program
-/

namespace Namesake

/-- The version of the program. -/
def version : String := "1.0.0"

/-- A group of fixed values. -/
inductive Catalogue where
  | http
  | kinds
  | keys
  | resolution
  | validation
  | database
  deriving DecidableEq, Repr

namespace Catalogue

/-- The class of words in a pattern. -/
def wordClass : String := "\\p\x7bL\x7d\\p\x7bM\x7d\\p\x7bN\x7d"

/-- An object with a field for each kind. -/
def byKind (key value : NameKind → String) : Json :=
  .obj (NameKind.all.map fun k => (key k, .str (value k)))

/-- The pattern of the extensions that a name must not seem to end in. -/
def extensionPattern : String :=
  "\\.(" ++ "|".intercalate (confusingExtensions.map String.ofList) ++ ")\\Z"

/-- The values of a group. -/
def fields : Catalogue → Fields
  | http =>
    [("OK", .int 200), ("BAD_REQUEST", .int 400), ("NOT_FOUND", .int 404), ("CONFLICT", .int 409),
      ("TOO_MANY_REQUESTS", .int 429), ("INTERNAL_SERVER_ERROR", .int 500),
      ("CONTENT_TYPE", .str "Content-Type"), ("JSON", .str "application/json")]
  | kinds =>
    [("USERNAME", .str NameKind.username.word), ("GROUP_NAME", .str NameKind.groupName.word),
      ("ALL_KINDS", .ofStrings NameKind.words)]
  | keys =>
    [("USERNAMES", .str NameKind.username.storeKey),
      ("GROUP_NAMES", .str NameKind.groupName.storeKey),
      ("BY_KIND", byKind NameKind.word NameKind.storeKey),
      ("KIND_BY_KEY", byKind NameKind.storeKey NameKind.word)]
  | resolution =>
    [("MAX_LENGTH", .int defaultMaxLength), ("MIN_MAX_LENGTH", .int minMaxLength),
      ("MAX_ATTEMPTS", Setting.maxAttempts.default),
      ("SUFFIX_CACHE_SIZE", Setting.suffixCacheSize.default),
      ("TRUNCATION_CACHE_SIZE", Setting.truncationCacheSize.default),
      ("SUFFIX_SEPARATOR", .str (String.singleton suffixSeparator)), ("FIRST_SUFFIX", .int 1),
      ("LAST_RESORT_USERNAME", .str (String.ofList Resolver.lastResort)),
      ("FALLBACK_USERNAME", Setting.fallbackUsername.default),
      ("FALLBACK_GROUP_NAME", Setting.fallbackGroupName.default),
      ("HERE_MENTION", Setting.hereMention.default)]
  | validation =>
    [("UNICODE_FORM", .str "NFC"), ("TRANSLITERATION_FORM", .str "NFKD"),
      ("INVALID_UNICODE_CHAR_PATTERN", .str ("[^" ++ wordClass ++ "._-]")),
      ("INVALID_LEADING_UNICODE_CHAR_PATTERN", .str ("\\A[^" ++ wordClass ++ "_]+")),
      ("INVALID_ASCII_CHAR_PATTERN", .str "[^A-Za-z0-9_.-]"),
      ("INVALID_LEADING_ASCII_CHAR_PATTERN", .str "\\A[^A-Za-z0-9]+"),
      ("INVALID_TRAILING_CHAR_PATTERN", .str ("[^" ++ wordClass ++ "]+\\Z")),
      ("REPEATED_SPECIAL_CHAR_PATTERN", .str "[-_.]\x7b2,\x7d"),
      ("CONFUSING_EXTENSIONS_PATTERN", .str extensionPattern),
      ("ASCII_ALLOWED_CHAR_PATTERN", .str "[A-Za-z0-9_.-]"),
      ("RESERVED_NAMES_SEPARATOR", .str Setting.reservedSeparator), ("WILDCARD", .str "*"),
      ("DEFAULT_RESERVED_USERNAMES", .ofStrings Setting.defaultReserved)]
  | database =>
    [("DEFAULT_REGION", .str "us-east-1"), ("USED_NAMES_TABLE_PREFIX", .str "UsedNames"),
      ("CONDITIONAL_CHECK_FAILED", .str conditionalCode),
      ("THROTTLING_ERRORS", .ofStrings throttlingCodes), ("MEMORY_BACKEND", .str "memory"),
      ("DYNAMODB_BACKEND", .str "dynamodb")]

end Catalogue

end Namesake
