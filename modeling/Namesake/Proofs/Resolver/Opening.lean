import Namesake.Proofs.Resolver.Log

/-!
# Requests that are soon content

A request begins by claiming its name as it is, and if that cannot be had, by one linear search
behind the name, or behind the fallback name where no suffix of the name would do. Whatever comes
after a search that finds nothing is written to the log as a warning. Before that nothing is, if the
store is in memory and entries of the lowest level are not kept: so a request whose first search
finds a name leaves the log as it is.

## Main definitions

* `Opening`, `Resolver.opening` — how a request begins
* `Resolver.proceed` — how it goes on
* `Resolver.FindsAtOnce` — no linear search of the request ends without a name
* `Likeness.unlogged` — sessions of one frame with the same log

## Main results

* `Resolver.resolve_eq` — a request begins, and goes on
* `unlogged_answers` — what a search asks leaves the log as it is
* `Resolver.resolve_unlogged` — so does a request whose first search finds a name
-/

open Namesake.Task Namesake.Unicode

namespace Namesake

/-! ### The beginning of a request -/

/-- How a request begins. -/
structure Opening where
  /-- The fallback name. -/
  fallback : Text
  /-- The name behind which a suffix is looked for, if the name cannot be had as it is. -/
  base : Text
  /-- Is that the fallback name? -/
  usedFallback : Bool
  /-- The name that has been found, the form under which it has been claimed, and its suffix. -/
  found : Option (Text × Text × Option Quantity)
  /-- How many attempts have been used. -/
  attempts : Nat

namespace Resolver

/-- Claims the name of a request as it is. If it cannot be had, a suffix is looked for behind it, or
behind the fallback name if a reserved rule takes every suffix of the name. -/
def opening (r : Resolver) (req : Request) : Task Opening := do
  let fallback ← r.fallbackFor req
  let clean ← Task.lift (r.cleanName req)
  let usedFallback := clean.isEmpty
  let name := if usedFallback then fallback else clean
  if ← r.tryClaim req name (lowercase name) then
    return ⟨fallback, name, usedFallback, some (name, lowercase name, none), 0⟩
  else
    let trapped :=
      !usedFallback && !req.allowReserved && r.reserved.defeatsSuffix (lowercase name)
    let base := if trapped then fallback else name
    let (found, attempts) ← r.searchLinear req base
    return ⟨fallback, base, trapped || usedFallback,
      found.map fun f => (f.name, f.nameLower, some f.suffix), attempts⟩

/-- Answers with the name that has been found. If none has been, the request goes on behind the
fallback name, and in the end without giving up. -/
def proceed (r : Resolver) (req : Request) (o : Opening) : Task ResolvedName :=
  match o.found with
  | some (name, lower, suffix) => r.finish req name lower suffix o.usedFallback o.attempts
  | none =>
    if o.usedFallback then r.resolveByDoubling req o.fallback o.attempts
    else do
      r.note .warning "Suffix search exhausted, using fallback name"
        (searchContext req "base" o.base o.attempts)
      let (found, more) ← r.searchLinear req o.fallback
      match found with
      | some f => r.finish req f.name f.nameLower (some f.suffix) true (o.attempts + more)
      | none => r.resolveByDoubling req o.fallback (o.attempts + more)

/-- A search behind a name, and how the request goes on after it. -/
theorem resolveBySuffix_eq (r : Resolver) (req : Request) (base fallback : Text)
    (usedFallback : Bool) :
    r.resolveBySuffix req base fallback usedFallback = (do
      let (found, attempts) ← r.searchLinear req base
      r.proceed req ⟨fallback, base, usedFallback,
        found.map fun f => (f.name, f.nameLower, some f.suffix), attempts⟩) := by
  rw [resolveBySuffix]
  congr 1
  funext p
  obtain ⟨_ | f, attempts⟩ := p <;> rfl

/-- A request begins, and goes on as it has begun. -/
theorem resolve_eq (r : Resolver) (req : Request) :
    r.resolve req = r.opening req >>= r.proceed req := by
  rw [resolve, opening, bind_assoc]
  congr 1
  funext fallback
  rw [bind_assoc]
  congr 1
  funext clean
  dsimp only
  rw [bind_assoc]
  congr 1
  funext won
  cases won with
  | true => rfl
  | false =>
    simp only [Bool.false_eq_true, if_false]
    rw [bind_assoc]
    -- the search is made behind the fallback name in the one case, and behind the name in the other
    cases !clean.isEmpty && !req.allowReserved &&
        r.reserved.defeatsSuffix (lowercase (if clean.isEmpty then fallback else clean)) with
    | true => exact resolveBySuffix_eq r req fallback fallback true
    | false => exact resolveBySuffix_eq r req _ fallback _

/-- The first linear search of the request finds a name, if there is any search. No further one is
made then, so no linear search of the request ends without a name. -/
def FindsAtOnce (r : Resolver) (req : Request) (s : Session) : Prop :=
  Ends (r.opening req) s (fun o _ => o.found.isSome = true) (fun _ _ => True)

instance (r : Resolver) (req : Request) (s : Session) : Decidable (r.FindsAtOnce req s) :=
  inferInstanceAs (Decidable (Ends ..))

/-- A request begins alike wherever its fallback name is found and its searches are answered alike.
-/
theorem opening_respects {L : Likeness} (hL : L.AnswersSearches) (r : Resolver) (req : Request)
    (hfallback : Respects L (r.fallbackFor req)) : Respects L (r.opening req) := by
  refine hfallback.bind fun fallback => ?_
  refine (Respects.lift fun f hf => hL.faults f (isExhausted_of_cleanName hf)).bind fun clean => ?_
  refine (tryClaim_respects hL r req _ _).bind fun won => ?_
  split
  · exact .pure _
  · exact (searchLinear_respects hL r req _).bind fun _ => .pure _

/-- Whether the first search finds a name does not depend on the log. -/
theorem findsAtOnce_log {r : Resolver} {req : Request} {s s' : Session} (h : s.SameButLog s') :
    r.FindsAtOnce req s ↔ r.FindsAtOnce req s' := by
  have hL : (Likeness.log s.frame).Answers :=
    Likeness.log_eq s.frame ▸ journals_answers isKept_debug s.frame
  have halike := opening_respects hL.toAnswersSearches r req (fallbackFor_respects hL r req) s s'
    ⟨h, rfl⟩
  unfold Alike at halike
  unfold FindsAtOnce Ends
  cases hrun : r.opening req s with
  | ok o m =>
    cases hrun' : r.opening req s' with
    | ok o' m' =>
      rw [hrun, hrun'] at halike
      rw [halike.1]
    | error f m' =>
      rw [hrun, hrun'] at halike
      exact halike.elim
  | error f m =>
    cases hrun' : r.opening req s' with
    | ok o' m' =>
      rw [hrun, hrun'] at halike
      exact halike.elim
    | error g m' => exact Iff.rfl

end Resolver

/-! ### What leaves the log as it is -/

/-- Equal sessions of one frame, with the given log. What respects this leaves frame and log as they
are. -/
def Likeness.unlogged (frame : Shared.Frame) (log : List LogEntry) : Likeness :=
  ⟨fun s s' => s = s' ∧ s.frame = frame ∧ s.shared.log = log, Eq⟩

section Unlogged

variable {α : Type} {frame : Shared.Frame} {log : List LogEntry} {t : Task α} {s : Session}

/-- Beside what is changed it is enough to look at one run. -/
theorem Task.respects_unlogged (h : ∀ s : Session, s.frame = frame → s.shared.log = log →
    Ends t s (fun _ s' => s'.frame = frame ∧ s'.shared.log = log)
      (fun _ s' => s'.frame = frame ∧ s'.shared.log = log)) :
    Respects (.unlogged frame log) t := by
  rintro s _ ⟨rfl, hframe, hlog⟩
  have hends := h s hframe hlog
  unfold Ends at hends
  unfold Alike
  cases hrun : t s with
  | ok a m =>
    rw [hrun] at hends
    exact ⟨rfl, rfl, hends⟩
  | error f m =>
    rw [hrun] at hends
    exact ⟨rfl, rfl, hends⟩

/-- What respects the likeness leaves the frame and the log as they are. -/
theorem Task.Respects.unlogged (h : Respects (.unlogged frame log) t) (hframe : s.frame = frame)
    (hlog : s.shared.log = log) :
    (left t s).frame = frame ∧ (left t s).shared.log = log :=
  ((h s s ⟨rfl, hframe, hlog⟩).outcome_eq fun _ _ hfg => hfg).2.2

variable (hdebug : frame.debug = false)

include hdebug

/-- An entry of the lowest level is not kept. -/
theorem noteDebug_unlogged (e : LogEntry) (he : e.level = .debug) :
    Respects (.unlogged frame log) (Task.note e) := by
  refine respects_unlogged fun s hframe hlog => ?_
  have hoff : s.shared.debug = false := (congrArg Shared.Frame.debug hframe).trans hdebug
  rw [Task.note, ends_modify, if_pos ⟨he, hoff⟩]
  exact ⟨hframe, hlog⟩

variable (hmemory : frame.isMemory = true)

include hmemory

omit hdebug hmemory in
/-- What another worker takes is logged elsewhere. -/
theorem yieldTo_unlogged (theft : Theft) :
    Respects (.unlogged frame log) (Registry.yieldTo theft) := by
  refine respects_unlogged fun s hframe hlog => ?_
  rw [Registry.yieldTo, ends_modify]
  dsimp only
  split
  · exact ⟨hframe, hlog⟩
  · refine ⟨?_, hlog⟩
    rw [← hframe, Session.frame, Session.frame, Store.insert_isMemory]

/-- In memory a claim writes at most an entry of the lowest level. -/
theorem claim_unlogged (kind : NameKind) (name : Text) (display : Option Text) :
    Respects (.unlogged frame log) (Registry.claim kind name display) := by
  have hsets : ∀ s : Session, s.frame = frame → ∃ sets, s.shared.store = .memory sets := by
    intro s hframe
    have hsort : s.shared.store.isMemory = true :=
      (congrArg Shared.Frame.isMemory hframe).trans hmemory
    cases hstore : s.shared.store with
    | memory sets => exact ⟨sets, rfl⟩
    | table rows =>
      rw [hstore] at hsort
      cases hsort
  have hset : ∀ sets, Respects (.unlogged frame log) (Task.setStore (.memory sets)) := by
    refine fun sets => respects_unlogged fun s hframe hlog => ?_
    rw [Task.setStore, ends_modify]
    refine ⟨?_, hlog⟩
    rw [← hframe]
    show (⟨s.shared.debug, s.shared.tableName, s.shared.now, true⟩ : Shared.Frame) = s.frame
    obtain ⟨sets', hstore⟩ := hsets s hframe
    rw [Session.frame, hstore]
    rfl
  have hinterfere : Respects (.unlogged frame log) (Registry.interfere name) := by
    refine .get fun s s' h => ?_
    obtain ⟨rfl, hframe, hlog⟩ := id h
    dsimp only
    split
    · exact alike_throw h rfl
    · split
      · exact yieldTo_unlogged _ _ _ ⟨rfl, hframe, hlog⟩
      · exact alike_pure h ()
  refine hinterfere.bind fun _ => .get fun s s' h => ?_
  obtain ⟨rfl, hframe, hlog⟩ := id h
  obtain ⟨sets, hstore⟩ := hsets s hframe
  rw [hstore]
  dsimp only
  split
  · exact ((noteDebug_unlogged hdebug _ rfl).bind fun _ => .pure false) s s h
  · exact ((hset _).bind fun _ => .pure true) s s h

/-- Whatever a search asks in memory leaves the log as it is, unless entries of the lowest level are
kept. -/
theorem unlogged_answers : (Likeness.unlogged frame log).AnswersSearches where
  isUsed := fun name => respects_unlogged fun s hframe hlog => by
    have hsort : s.shared.store.isMemory = true :=
      (congrArg Shared.Frame.isMemory hframe).trans hmemory
    rw [Registry.isUsed, ends_bind, ends_get]
    split
    · exact ⟨hframe, hlog⟩
    · rename_i rows hstore
      rw [hstore] at hsort
      cases hsort
  claim := claim_unlogged hdebug hmemory
  lastSuffix := fun base => respects_unlogged fun s hframe hlog => ⟨hframe, hlog⟩
  recordSuffix := fun base suffix => respects_unlogged fun s hframe hlog => by
    rw [Task.recordSuffix, ends_bind, ends_get, ends_bind, ends_lift]
    exact ⟨fun _ _ => ⟨hframe, hlog⟩, fun _ _ => ⟨hframe, hlog⟩⟩
  cutLength? := fun base limit => respects_unlogged fun s hframe hlog => ⟨hframe, hlog⟩
  recordCut := fun base limit length => respects_unlogged fun s hframe hlog => by
    rw [Task.recordCut, ends_bind, ends_get, ends_bind, ends_lift]
    exact ⟨fun _ _ => ⟨hframe, hlog⟩, fun _ _ => ⟨hframe, hlog⟩⟩
  losses := fun s s' h => by rw [h.1]
  faults := fun _ _ => rfl

end Unlogged

/-- A request with the fallback name of the resolver itself, whose first search finds a name, leaves
the log as it is, if the store is in memory and entries of the lowest level are not kept. -/
theorem Resolver.resolve_unlogged {r : Resolver} {req : Request} {s : Session}
    (hasks : r.asksConfigured req = true) (hdebug : s.shared.debug = false)
    (hmemory : s.shared.store.isMemory = true) (hfinds : r.FindsAtOnce req s) :
    (left (r.resolve req) s).frame = s.frame ∧
      (left (r.resolve req) s).shared.log = s.shared.log := by
  have hfallback : Respects (.unlogged s.frame s.shared.log) (r.fallbackFor req) := by
    -- the fallback name of the resolver is not looked at again
    rw [fallbackFor, chosenFallback, if_pos hasks]
    exact (Respects.pure _).bind fun _ => (Respects.lift fun _ _ => rfl).bind fun _ => .pure _
  have hopening := opening_respects (unlogged_answers hdebug hmemory) r req hfallback s s
    ⟨rfl, rfl, rfl⟩
  have hfinish : ∀ name lower suffix usedFallback attempts,
      Respects (.unlogged s.frame s.shared.log)
        (r.finish req name lower suffix usedFallback attempts) := fun _ _ _ _ _ =>
    (noteDebug_unlogged hdebug _ rfl).bind fun _ => .pure _
  rw [resolve_eq]
  unfold FindsAtOnce Ends at hfinds
  unfold Alike at hopening
  cases hrun : r.opening req s with
  | error f m =>
    rw [hrun] at hopening
    rw [left, run_bind_error hrun]
    exact hopening.2.2
  | ok o m =>
    rw [hrun] at hfinds hopening
    obtain ⟨found, hfound⟩ := Option.isSome_iff_exists.1 hfinds
    obtain ⟨-, -, hframe, hlog⟩ := hopening
    have hproceed : Respects (.unlogged s.frame s.shared.log) (r.proceed req o) := by
      rw [proceed, hfound]
      exact hfinish _ _ _ _ _
    have hleft := hproceed.unlogged hframe hlog
    rwa [left, run_bind_ok hrun]

end Namesake
