import Namesake.Proofs.Batch.Report
import Namesake.Proofs.Resolver.Opening

/-!
# What the log tells of a batch

While entries of the lowest level are not kept and the store is in memory, the log of a batch whose
names are all found at once has two entries: that the handler has been called, and that it has
ended. The first tells of the names only how many there are, and the second does not tell of them at
all. So from two batches that differ in nothing but the texts of their names, sent to whatever
resolvers in whatever state, the log gets the same entries: no name gets into it, neither as it was
given nor as it has been resolved.

## Main definitions

* `Json.SameButNames` — two events differ in nothing but the texts of their names
* `Batch.IsSmooth` — every name of a batch is found by its first search
* `Program.Emits` — what an action writes to the log

## Main results

* `eventFields_eq` — of the names an event shows how many there are
* `Batch.entries_unlogged` — a smooth batch leaves the log as it is
* `handleBatch_emits` — what the handler writes if it is sent a smooth batch
* `handleBatch_hides_names` — the log does not tell which names a batch has
-/

open Namesake.Task

namespace Namesake

/-! ### Events -/

/-- The fields agree in everything but texts that are names, and there are as many of these. -/
def Fields.SameButNames : Fields → Fields → Prop :=
  List.Forall₂ fun f f' => f = f' ∨ ∃ xs ys : List String, xs.length = ys.length ∧
    f = ("names", .arr (xs.map .str)) ∧ f' = ("names", .arr (ys.map .str))

/-- The events agree in everything but the texts that are their names, and they have as many of
these. -/
def Json.SameButNames (event event' : Json) : Prop :=
  ∃ fields fields', event = .obj fields ∧ event' = .obj fields' ∧ Fields.SameButNames fields fields'

/-- Of its names an event shows how many there are. -/
theorem eventFields_eq {event event' : Json} (h : event.SameButNames event') :
    LogEvent.eventFields event = LogEvent.eventFields event' := by
  obtain ⟨fields, fields', rfl, rfl, hfields⟩ := h
  have hshown : (fields.map fun f => Json.str f.1) = (fields'.map fun f => Json.str f.1) ∧
      (fields.map fun f => (f.1, LogEvent.summary f.2)) =
        fields'.map fun f => (f.1, LogEvent.summary f.2) := by
    induction hfields with
    | nil => exact ⟨rfl, rfl⟩
    | cons hfield _ ih =>
      obtain ⟨hkeys, hvalues⟩ := ih
      obtain rfl | ⟨xs, ys, hlength, rfl, rfl⟩ := hfield
      · exact ⟨by rw [List.map_cons, List.map_cons, hkeys],
          by rw [List.map_cons, List.map_cons, hvalues]⟩
      · have hsize : LogEvent.summary (.arr (xs.map .str)) =
            LogEvent.summary (.arr (ys.map .str)) := by
          rw [LogEvent.summary, LogEvent.summary, List.length_map, List.length_map, hlength]
        exact ⟨by rw [List.map_cons, List.map_cons, hkeys],
          by rw [List.map_cons, List.map_cons, hvalues, hsize]⟩
  rw [LogEvent.eventFields, LogEvent.eventFields, hshown.1, hshown.2]

/-! ### The names of a batch -/

/-- What the parts of a valid request come from. -/
theorem RequestForm.check_parts {form : RequestForm} {req : Request} (h : form.check = .ok req) :
    NameKind.ofJson? form.kind = some req.kind ∧ req.fallbackName = form.fallbackName := by
  unfold check at h
  cases hkind : NameKind.ofJson? form.kind with
  | none =>
    rw [hkind] at h
    cases h
  | some kind =>
    rw [hkind] at h
    cases hlimit : Limit.ofJson form.maxLength with
    | error f =>
      rw [hlimit] at h
      cases h
    | ok limit =>
      simp only [hlimit, Bind.bind, Except.bind] at h
      split at h
      · cases h
      · obtain rfl := Except.ok.inj h
        exact ⟨rfl, rfl⟩

namespace Batch

variable {r : Resolver} {kind : NameKind} {allowReserved : Bool} {b : Batch} {raw : Json}
variable {names : List Json} {req : Request} {s s' : Session}

/-- A batch asks for the fallback names of the resolver itself. -/
theorem asksConfigured_of_check
    (h : (nameForm r (.str kind.word) allowReserved raw).check = .ok req) :
    r.asksConfigured req = true := by
  obtain ⟨hkind, hfallback⟩ := RequestForm.check_parts h
  have hsame : kind = req.kind := by
    cases kind <;> exact Option.some.inj hkind
  rw [Resolver.asksConfigured, hfallback]
  subst hsame
  cases req.kind <;> simp [nameForm, Resolver.textJson, Resolver.fallbackOf, Json.string?,
    NameKind.word]

/-- How the request for a name of the batch begins. -/
def opening (b : Batch) (raw : Json) : Task Opening :=
  match (nameForm b.resolver b.kind b.allowReserved raw).check with
  | .ok req => b.resolver.opening req
  | .error f => throw f

/-- The resolution of the name raises no fault, and no linear search of it ends without a name: the
first one, if there is any, finds a name. -/
def FindsAtOnce (b : Batch) (raw : Json) (s : Session) : Prop :=
  Outcome.isFault (outcome (b.resolve raw) s) = false ∧
    Ends (b.opening raw) s (fun o _ => o.found.isSome = true) (fun _ _ => True)

instance (b : Batch) (raw : Json) (s : Session) : Decidable (b.FindsAtOnce raw s) :=
  inferInstanceAs (Decidable (_ ∧ _))

/-- Each name of the batch is found at once, in the session that the resolutions before have left
behind. -/
def IsSmooth (b : Batch) : List Json → Session → Prop
  | [], _ => True
  | raw :: names, s => b.FindsAtOnce raw s ∧ IsSmooth b names (left (b.resolve raw) s)

instance decidableIsSmooth (b : Batch) : (names : List Json) → (s : Session) →
    Decidable (b.IsSmooth names s)
  | [], _ => .isTrue trivial
  | raw :: names, s =>
    have := decidableIsSmooth b names (left (b.resolve raw) s)
    inferInstanceAs (Decidable (_ ∧ _))

/-- A name that is found at once makes a valid request, which is resolved. -/
theorem FindsAtOnce.request (h : b.FindsAtOnce raw s) : ∃ req,
    (nameForm b.resolver b.kind b.allowReserved raw).check = .ok req ∧
      b.resolve raw = b.resolver.resolve req ∧ b.resolver.FindsAtOnce req s := by
  obtain ⟨hout, hfinds⟩ := h
  rw [resolve, resolveForm] at hout ⊢
  rw [opening] at hfinds
  cases hcheck : (nameForm b.resolver b.kind b.allowReserved raw).check with
  | error f =>
    rw [hcheck] at hout
    cases hout
  | ok req =>
    rw [hcheck] at hfinds
    exact ⟨req, rfl, rfl, hfinds⟩

/-- Whether a name is found at once does not depend on the log. -/
theorem FindsAtOnce.withLog (h : b.FindsAtOnce raw s) (hlog : s.SameButLog s') :
    b.FindsAtOnce raw s' := by
  obtain ⟨req, hcheck, -, hfinds⟩ := h.request
  refine ⟨(b.outcome_log raw hlog).1 ▸ h.1, ?_⟩
  rw [opening, hcheck]
  exact (Resolver.findsAtOnce_log hlog).1 hfinds

/-- Nor does it for all names of a batch. -/
theorem IsSmooth.withLog (h : b.IsSmooth names s) (hlog : s.SameButLog s') :
    b.IsSmooth names s' := by
  induction names generalizing s s' with
  | nil => trivial
  | cons raw names ih => exact ⟨h.1.withLog hlog, ih h.2 (b.outcome_log raw hlog).2⟩

/-- A name that is found at once leaves the log as it is. -/
theorem resolve_unlogged (hdebug : s.shared.debug = false)
    (hmemory : s.shared.store.isMemory = true)
    (h : (of r kind allowReserved).FindsAtOnce raw s) :
    (left ((of r kind allowReserved).resolve raw) s).frame = s.frame ∧
      (left ((of r kind allowReserved).resolve raw) s).shared.log = s.shared.log := by
  obtain ⟨req, hcheck, hresolve, hfinds⟩ := h.request
  rw [hresolve]
  exact Resolver.resolve_unlogged (asksConfigured_of_check hcheck) hdebug hmemory hfinds

/-- The entry for a name that is found leaves what the resolution has left. -/
theorem resolveEntry_found (h : Outcome.isFault (outcome (b.resolve raw) s) = false) :
    Ends (resolveEntry b.resolver b.kind b.allowReserved raw) s
      (fun _ s' => s' = left (b.resolve raw) s) (fun _ _ => False) := by
  rw [resolveEntry, ends_bind]
  refine (attempt_ends (b.resolve raw) s).mono (fun o m hm => ?_) fun _ _ hf => hf
  obtain ⟨rfl, rfl⟩ := hm
  cases hout : outcome (b.resolve raw) s with
  | ok name => rfl
  | error f =>
    rw [hout] at h
    cases h

/-- A smooth batch ends with its entries, and leaves the log as it is. -/
theorem entries_unlogged (hdebug : s.shared.debug = false)
    (hmemory : s.shared.store.isMemory = true)
    (h : (of r kind allowReserved).IsSmooth names s) :
    Ends ((of r kind allowReserved).entries names) s
      (fun _ s' => s'.frame = s.frame ∧ s'.shared.log = s.shared.log) (fun _ _ => False) := by
  induction names generalizing s with
  | nil => exact ⟨rfl, rfl⟩
  | cons raw names ih =>
    obtain ⟨hfinds, hrest⟩ := h
    obtain ⟨hframe, hlog⟩ := resolve_unlogged hdebug hmemory hfinds
    -- the rest of the batch is resolved in a session of the same frame
    have hdebug' := (congrArg Shared.Frame.debug hframe).trans hdebug
    have hmemory' := (congrArg Shared.Frame.isMemory hframe).trans hmemory
    rw [entries, resolveNames, List.mapM_cons, ends_bind]
    refine (resolveEntry_found hfinds.1).mono (fun _ m hm => ?_) fun _ _ hf => hf
    subst hm
    rw [ends_bind]
    refine (ih hdebug' hmemory' hrest).mono (fun _ s' hs' => ?_) fun _ _ hf => hf
    exact ⟨hs'.1.trans hframe, hs'.2.trans hlog⟩

end Batch

/-! ### The handler -/

namespace Program

variable {α β : Type} {p p' p'' : Program} {a : Action α} {k : α → Action β} {x : α} {y : β}
variable {entries entries' : List LogEntry}

/-- The action ends with a result in another state, and has written the given entries. -/
structure Emits (p : Program) (a : Action α) (entries : List LogEntry) (x : α) (p' : Program) :
    Prop where
  run : a p = .ok x p'
  log : p'.log = p.log ++ entries

theorem emits_pure (p : Program) (x : α) : p.Emits (pure x) [] x p :=
  ⟨rfl, (List.append_nil _).symm⟩

theorem emits_lift (p : Program) {o : Except Fault α} (h : o = .ok x) :
    p.Emits (lift o) [] x p := by
  subst h
  exact emits_pure p x

/-- A sequence writes what its first member writes, and then what its second member writes. -/
theorem Emits.bind (h : p.Emits a entries x p') (hk : p'.Emits (k x) entries' y p'') :
    p.Emits (a >>= k) (entries ++ entries') y p'' := by
  constructor
  · rw [run_bind_ok h.run, hk.run]
  · rw [hk.log, h.log, List.append_assoc]

/-- A look at the state writes nothing. -/
theorem Emits.get {k : Program → Action β} (h : p.Emits (k p) entries y p') :
    p.Emits ((MonadState.get : Action Program) >>= k) entries y p' :=
  ⟨h.run, h.log⟩

theorem Emits.attempt (h : p.Emits a entries x p') :
    p.Emits (attempt a) entries (.ok x) p' := by
  refine ⟨?_, h.log⟩
  simp only [Program.attempt, h.run]

/-- An event above the lowest level is recorded by its entry. -/
theorem record_emits (p : Program) {e : LogEvent} {entry : LogEntry}
    (hentry : e.entry loggingService = .ok entry) (hlevel : entry.level ≠ .debug) :
    p.Emits (record e) [entry] () { p with log := p.log ++ [entry] } := by
  refine ⟨?_, rfl⟩
  rw [record, hentry]
  have hkept : ¬ (entry.level = .debug ∧ p.debug = false) := fun h => hlevel h.1
  show EStateM.Result.ok () (if _ then _ else _) = _
  rw [if_neg hkept]

/-- A task of the resolver writes what it adds to the log of its session. -/
theorem withResolver_emits {number store : Nat} {r : Resolver} {w : Worker}
    {task : Resolver → Task α} {s : Session} (h : p.Serves number r w store)
    (hrun : task r (p.session w store) = .ok x s) (hlog : s.shared.log = p.log ++ entries) :
    p.Emits (withResolver number task) entries x (p.leave number r store s) := by
  constructor
  · unfold withResolver
    rw [h.object]
    dsimp only
    rw [hrun]
  · rw [← hlog]
    unfold leave
    dsimp only
    split <;> rfl

end Program

/-- The entry that tells that a handler has been called. -/
def startedEntry (name : String) (event requestId : Json) : Except Fault LogEntry :=
  (LogEvent.started (.str name) event requestId).entry Program.loggingService

/-- The entry that tells that a handler has ended with a result. -/
def endedEntry (name : String) : Except Fault LogEntry :=
  (LogEvent.ended (.str name) (.bool true) (.float (.finite false 0 Binary64.minExponent)) []).entry
    Program.loggingService

/-- Both entries can be written, and neither is one of the lowest level. -/
theorem exists_entries (name : String) (event requestId : Json) :
    (∃ started, startedEntry name event requestId = .ok started ∧ started.level ≠ .debug) ∧
      ∃ ended, endedEntry name = .ok ended ∧ ended.level ≠ .debug := by
  constructor
  · cases event <;> exact ⟨_, rfl, Level.noConfusion⟩
  · exact ⟨_, rfl, Level.noConfusion⟩

/-- Events that differ in nothing but the texts of their names have the same entry. -/
theorem startedEntry_eq {event event' : Json} (name : String) (h : event.SameButNames event')
    (requestId : Json) :
    startedEntry name event requestId = startedEntry name event' requestId := by
  have hcontext : (LogEvent.started (.str name) event requestId).context =
      (LogEvent.started (.str name) event' requestId).context := by
    rw [LogEvent.context, LogEvent.context, eventFields_eq h]
  rw [startedEntry, startedEntry, LogEvent.entry, LogEvent.entry, hcontext]
  rfl

variable {p p' : Program} {event event' result : Json} {requestId : Option Json}
variable {name : String} {handler : Json → Action Json} {started ended : LogEntry}
variable {entries : List LogEntry}

/-- A call that the guard lets pass writes what the handler writes, and then that it has ended. -/
theorem guardedCall_emits (hended : endedEntry name = .ok ended) (hlevel : ended.level ≠ .debug)
    (hscreen : screen batchGuard event p.now = .ok none)
    (h : p.Emits (handler event) entries result p') :
    p.Emits (guardedCall batchGuard name handler event) (entries ++ [ended]) result
      { p' with log := p'.log ++ [ended] } := by
  refine .get ?_
  rw [hscreen]
  refine (Program.emits_lift p rfl).bind (h.bind ?_)
  exact (p'.record_emits hended hlevel).bind (Program.emits_pure _ result)

/-- And before all that it writes that the handler has been called. -/
theorem guarded_emits
    (hstarted : startedEntry name event (requestId.getD (.str "unknown")) = .ok started)
    (hlevel : started.level ≠ .debug)
    (h : Program.Emits { p with log := p.log ++ [started] }
      (guardedCall batchGuard name handler event) entries result p') :
    p.Emits (guarded batchGuard name handler event requestId) (started :: entries) result p' := by
  refine (p.record_emits hstarted hlevel).bind ?_
  -- a call that has ended with a result adds nothing more
  rw [← List.append_nil entries]
  exact h.attempt.bind (Program.emits_pure p' result)

/-! ### Smooth batches -/

variable {number number' store store' : Nat} {r r' : Resolver} {w w' : Worker}
variable {kind kind' : NameKind} {names names' : List String} {allowReserved allowReserved' : Bool}

/-- The handler itself writes nothing about a smooth batch. -/
theorem resolveBatch_emits (h : p.Serves number r w store) (hdebug : p.debug = false)
    (hmemory : (p.storeOf store).isMemory = true) (hasks : event.Asks kind names allowReserved)
    (hsmooth : (Batch.of r kind allowReserved).IsSmooth (names.map .str) (p.session w store)) :
    ∃ result p', p.Emits (resolveBatch event) [] result p' := by
  obtain ⟨entries, s, hrun, -, hunlogged⟩ :=
    (Batch.entries_unlogged (s := p.session w store) hdebug hmemory hsmooth).exists_ok
  have hlog : s.shared.log = p.log ++ [] := by
    rw [hunlogged, List.append_nil]
    rfl
  have hentries : p.Emits (Program.withResolver number fun r =>
      (Batch.of r kind allowReserved).entries (names.map .str)) [] entries
      (p.leave number r store s) := Program.withResolver_emits h hrun hlog
  have hresolver : p.Emits Program.resolverObject [] number p := by
    refine .get ?_
    rw [h.registered]
    exact Program.emits_pure p number
  have hresult := Program.Emits.get (k := fun q => pure (batchResponse kind.word entries q.now))
    (Program.emits_pure (p.leave number r store s) _)
  exact ⟨_, _, (Program.emits_lift p hasks.validate).bind
    (hresolver.bind (hentries.bind hresult))⟩

/-- If it is sent a smooth batch, the handler writes that it has been called and that it has ended,
and nothing in between. -/
theorem handleBatch_emits (h : p.Serves number r w store) (hdebug : p.debug = false)
    (hmemory : (p.storeOf store).isMemory = true) (hasks : event.Asks kind names allowReserved)
    (hsmooth : (Batch.of r kind allowReserved).IsSmooth (names.map .str) (p.session w store))
    (hstarted : startedEntry handlerName event (requestId.getD (.str "unknown")) = .ok started)
    (hlevel : started.level ≠ .debug)
    (hended : endedEntry handlerName = .ok ended) (hlevel' : ended.level ≠ .debug) :
    ∃ response q, p.Emits (handleBatch event requestId) [started, ended] response q := by
  -- the handler works in a program whose log has the first entry already
  have hserves : Program.Serves { p with log := p.log ++ [started] } number r w store :=
    ⟨h.registered, h.object⟩
  have hsmooth' : (Batch.of r kind allowReserved).IsSmooth (names.map .str)
      (Program.session { p with log := p.log ++ [started] } w store) :=
    hsmooth.withLog ⟨p.log ++ [started], rfl⟩
  obtain ⟨response, p', hresolve⟩ := resolveBatch_emits hserves hdebug hmemory hasks hsmooth'
  have hcall := guardedCall_emits hended hlevel' (hasks.screen _) hresolve
  exact ⟨response, _, guarded_emits hstarted hlevel hcall⟩

/-- Two events ask whatever resolvers, on stores in memory and in whatever state, for names. They
agree in everything but the texts of the names, and there are as many of them; all names are found
without a fault, and by their first linear searches where there are any. Then, while entries of the
lowest level are not kept, both calls write the same entries. -/
theorem handleBatch_hides_names (h : p.Serves number r w store)
    (h' : p'.Serves number' r' w' store')
    (hdebug : p.debug = false) (hdebug' : p'.debug = false)
    (hmemory : (p.storeOf store).isMemory = true) (hmemory' : (p'.storeOf store').isMemory = true)
    (hasks : event.Asks kind names allowReserved)
    (hasks' : event'.Asks kind' names' allowReserved') (hsame : event.SameButNames event')
    (hsmooth : (Batch.of r kind allowReserved).IsSmooth (names.map .str) (p.session w store))
    (hsmooth' : (Batch.of r' kind' allowReserved').IsSmooth (names'.map .str)
      (p'.session w' store'))
    (requestId : Option Json) :
    ∃ response response' q q' entries, handleBatch event requestId p = .ok response q ∧
      handleBatch event' requestId p' = .ok response' q' ∧
      q.log = p.log ++ entries ∧ q'.log = p'.log ++ entries := by
  obtain ⟨⟨started, hstarted, hlevel⟩, ended, hended, hlevel'⟩ :=
    exists_entries handlerName event (requestId.getD (.str "unknown"))
  have hstarted' := (startedEntry_eq handlerName hsame (requestId.getD (.str "unknown"))).symm.trans
    hstarted
  obtain ⟨response, q, hemits⟩ :=
    handleBatch_emits h hdebug hmemory hasks hsmooth hstarted hlevel hended hlevel'
  obtain ⟨response', q', hemits'⟩ :=
    handleBatch_emits h' hdebug' hmemory' hasks' hsmooth' hstarted' hlevel hended hlevel'
  exact ⟨response, response', q, q', _, hemits.run, hemits'.run, hemits.log, hemits'.log⟩

/-- A user in memory. -/
def Program.knowingBob : Program :=
  .serving .standard (.memory (NameSets.empty.add .username "bob".toList)) none

/-- Two users who differ in case only, sent to a program that knows nobody, and two others, one of
whom is known to the program that they are sent to: the log is the same. -/
theorem handleBatch_hides_names_anns :
    (Json.asking ["Ann", "ann"]).SameButNames (Json.asking ["Bob", "Jose"]) ∧
      ∃ response response' q q',
        handleBatch (.asking ["Ann", "ann"]) none
          (Program.serving .standard (.memory .empty) none) = .ok response q ∧
        handleBatch (.asking ["Bob", "Jose"]) none .knowingBob = .ok response' q' ∧
        q.log = q'.log := by
  have hsame : (Json.asking ["Ann", "ann"]).SameButNames (Json.asking ["Bob", "Jose"]) :=
    ⟨_, _, rfl, rfl,
      .cons (.inl rfl) (.cons (.inr ⟨["Ann", "ann"], ["Bob", "Jose"], rfl, rfl, rfl⟩) .nil)⟩
  obtain ⟨response, response', q, q', entries, hrun, hrun', hlog, hlog'⟩ :=
    handleBatch_hides_names (Program.serves_serving .standard (.memory .empty) none)
      (Program.serves_serving .standard _ none : Program.knowingBob.Serves 1 _ _ 0) rfl rfl rfl rfl
      (Json.asks_asking _) (Json.asks_asking _) hsame (by decide +kernel) (by decide +kernel) none
  exact ⟨hsame, response, response', q, q', hrun, hrun', hlog.trans hlog'.symm⟩

end Namesake
