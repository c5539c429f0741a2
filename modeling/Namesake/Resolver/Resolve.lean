import Namesake.Resolver.Rounded

/-!
# Resolving names

A name that is free is given as it is. Otherwise the linear search looks for a suffix, first behind
the name and then behind the fallback name, and after that the doubling search behind the fallback
name. A name that a rule catches together with all its suffixed forms is given up for the fallback
name at once.

## Main definitions

* `Resolver.fallbackFor` — the fallback name that a request gets
* `Resolver.resolve` — the name for a request, claimed
* `Resolver.findUsername`, `Resolver.findGroupName` — the same with the resolver's own limits
-/

namespace Namesake

open Unicode

namespace Resolver

/-- Writes a log entry in the name of the resolver. -/
def note (r : Resolver) (level : Level) (message : String) (context : Fields) : Task Unit :=
  Task.note ⟨level, r.settings.service, message, context⟩

/-- A text as a value. -/
def textJson (t : Text) : Json :=
  .str (String.ofList t)

/-- Does a request ask for the configured fallback name of its kind? -/
def asksConfigured (r : Resolver) (req : Request) : Bool :=
  match req.fallbackName with
  | .str s => s.toList = r.fallbackOf req.kind
  | _ => false

/-- The fallback name that a request gives, or the configured one if that is not usable. -/
def chosenFallback (r : Resolver) (req : Request) : Task Text := do
  if r.asksConfigured req then return r.fallbackOf req.kind
  else
    let name ← Task.lift (prepare r.policy req.fallbackName req.limit)
    if name.isEmpty || isTrapped r.reserved name then
      r.note .warning "Unusable fallback name in request, using configured fallback"
        [("kind", .str req.kind.word), ("fallback", req.fallbackName)]
      return r.fallbackOf req.kind
    else return name

/-- The fallback name for a request, cut at its limit. -/
def fallbackFor (r : Resolver) (req : Request) : Task Text := do
  let name ← Task.lift (req.limit.cut (← r.chosenFallback req))
  return if name.isEmpty then lastResort else name

/-- The clean raw name of a request, cut at its limit, and empty if the raw name is of no use. -/
def cleanName (r : Resolver) (req : Request) : Except Fault Text :=
  let name := r.policy.sanitize req.rawName
  if name.isEmpty then return [] else req.limit.cut name

/-- Records the outcome of a request in the log, at the lowest level, and answers with it. -/
def finish (r : Resolver) (req : Request) (name nameLower : Text) (suffix : Option Quantity)
    (usedFallback : Bool) (attempts : Nat) : Task ResolvedName := do
  r.note .debug s!"Resolved {req.kind.word}"
    (LogEvent.resolutionFields (.str req.kind.word) req.rawName (textJson name) (.int attempts) ++
      [("suffix", ResolvedName.suffixJson suffix), ("used_fallback", .bool usedFallback)])
  return ⟨name, nameLower, req.kind, suffix, usedFallback⟩

/-- The context of an entry about a search that ended without a name. -/
def searchContext (req : Request) (key : String) (name : Text) (attempts : Nat) : Fields :=
  [("kind", .str req.kind.word), (key, textJson name), ("attempts", .int attempts)]

/-- The last search, behind the fallback name, after `attempts` attempts. It fails only when no
suffix is left. -/
def resolveByDoubling (r : Resolver) (req : Request) (fallback : Text) (attempts : Nat) :
    Task ResolvedName := do
  r.note .warning "Fallback suffix search exhausted, doubling suffix"
    (searchContext req "base" fallback attempts)
  let (found, more) ← r.searchDoubling req fallback
  let attempts := attempts + more
  match found with
  | some f => r.finish req f.name f.nameLower (some f.suffix) true attempts
  | none =>
    r.note .critical "Unable to resolve unique name"
      [("kind", .str req.kind.word), ("original", req.rawName), ("fallback", textJson fallback),
        ("attempts", .int attempts)]
    throw (.exhausted (.str req.kind.word) (textJson fallback) (.int attempts))

/-- The search for a suffix behind a name that is not available. -/
def resolveBySuffix (r : Resolver) (req : Request) (name fallback : Text) (usedFallback : Bool) :
    Task ResolvedName := do
  let (found, attempts) ← r.searchLinear req name
  match found with
  | some f => r.finish req f.name f.nameLower (some f.suffix) usedFallback attempts
  | none =>
    if usedFallback then r.resolveByDoubling req fallback attempts
    else
      r.note .warning "Suffix search exhausted, using fallback name"
        (searchContext req "base" name attempts)
      let (found, more) ← r.searchLinear req fallback
      match found with
      | some f => r.finish req f.name f.nameLower (some f.suffix) true (attempts + more)
      | none => r.resolveByDoubling req fallback (attempts + more)

/-- The name for a request. It is claimed when the task ends without a fault. -/
def resolve (r : Resolver) (req : Request) : Task ResolvedName := do
  let fallback ← r.fallbackFor req
  let clean ← Task.lift (r.cleanName req)
  let usedFallback := clean.isEmpty
  let name := if usedFallback then fallback else clean
  let nameLower := lowercase name
  -- the common case: the name is free as it is
  if ← r.tryClaim req name nameLower then
    r.finish req name nameLower none usedFallback 0
  else if !usedFallback && !req.allowReserved && r.reserved.defeatsSuffix nameLower then
    -- no suffix escapes the rule
    r.resolveBySuffix req fallback fallback true
  else r.resolveBySuffix req name fallback usedFallback

/-- The request for a name with the limits and the fallback name of the resolver itself. -/
def ownRequest (r : Resolver) (kind : NameKind) (raw : Json) (allowReserved : Bool) : Request :=
  ⟨kind, raw, textJson (r.fallbackOf kind), r.limit, allowReserved, r.roomy⟩

/-- A name for a user. -/
def findUsername (r : Resolver) (raw : Json) (allowReserved : Bool) : Task Text := do
  return (← r.resolve (r.ownRequest .username raw allowReserved)).name

/-- A name for a group. -/
def findGroupName (r : Resolver) (raw : Json) : Task Text := do
  return (← r.resolve (r.ownRequest .groupName raw false)).name

/-- Is the name reserved, whatever its case? -/
def isReserved (r : Resolver) (name : Text) : Bool :=
  r.reserved.holds (lowercase name)

end Resolver

end Namesake
