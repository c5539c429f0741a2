import Namesake.Proofs.Batch.Entries
import Namesake.Proofs.Resolver.Build

/-!
# What the handler of batches does

The handler writes to the log at both ends of a call and in between, and nothing that it does
depends on what the log says. So its runs are described up to the log: an action leads from a state
to an outcome and to another state. Sequences of actions are put together from their members, and so
the run of the handler comes down to the entries of the batch in the session of the resolver.

## Main definitions

* `Program.SameButLog` — two states differ in nothing but their logs
* `Program.Leads` — to what outcome and to what state an action leads, whatever the log
* `Program.Serves` — a resolver is registered
* `Batch.answer` — the response of the handler to a batch that it accepts

## Main results

* `Program.withResolver_leads` — to what a task of the resolver leads
* `guarded_leads` — the handler answers with a result, or words the fault with which the call has
  ended
* `handleBatch_made`, `handleBatch_leads` — to what the handler leads if it accepts an event
* `Program.Serves.leave` — the resolver is still registered afterwards, and meets what it has left
  behind
-/

open Namesake.Task

namespace Namesake

namespace Program

variable {α β : Type} {p p' p'' q : Program} {a : Action α} {k : α → Action β} {x : α} {f : Fault}
variable {o : Except Fault β}

/-! ### Whatever the log -/

/-- The states differ in nothing but their logs. -/
def SameButLog (p p' : Program) : Prop :=
  ∃ log, p' = { p with log }

theorem SameButLog.refl (p : Program) : p.SameButLog p :=
  ⟨p.log, rfl⟩

theorem SameButLog.symm (h : p.SameButLog p') : p'.SameButLog p := by
  obtain ⟨log, rfl⟩ := h
  exact ⟨p.log, rfl⟩

theorem SameButLog.trans (h : p.SameButLog p') (h' : p'.SameButLog p'') : p.SameButLog p'' := by
  obtain ⟨log, rfl⟩ := h
  obtain ⟨log', rfl⟩ := h'
  exact ⟨log', rfl⟩

theorem SameButLog.storeOf (h : p.SameButLog p') (store : Nat) :
    p'.storeOf store = p.storeOf store := by
  obtain ⟨log, rfl⟩ := h
  rfl

/-- Whatever the log says, the action leads from the first state to the outcome and to the second
state, but for the log. -/
def Leads (p : Program) (a : Action α) (o : Except Fault α) (p' : Program) : Prop :=
  ∀ q, p.SameButLog q → ∃ q', p'.SameButLog q' ∧
    a q = match o with
      | .ok x => .ok x q'
      | .error f => .error f q'

theorem leads_pure (p : Program) (x : α) : p.Leads (pure x) (.ok x) p :=
  fun q hq => ⟨q, hq, rfl⟩

theorem leads_lift (p : Program) (x : Except Fault α) : p.Leads (lift x) x p := by
  intro q hq
  cases x with
  | ok x => exact ⟨q, hq, rfl⟩
  | error f => exact ⟨q, hq, rfl⟩

/-- A sequence leads to where its second member leads from where the first one has led. -/
theorem Leads.bind (h : p.Leads a (.ok x) p') (hk : p'.Leads (k x) o p'') :
    p.Leads (a >>= k) o p'' := by
  intro q hq
  obtain ⟨q', hq', hrun⟩ := h q hq
  obtain ⟨q'', hq'', hrun'⟩ := hk q' hq'
  refine ⟨q'', hq'', ?_⟩
  rw [run_bind_ok hrun]
  exact hrun'

/-- A fault of the first member ends the sequence. -/
theorem Leads.bind_error (h : p.Leads a (.error f) p') : p.Leads (a >>= k) (.error f) p' := by
  intro q hq
  obtain ⟨q', hq', hrun⟩ := h q hq
  exact ⟨q', hq', run_bind_error hrun k⟩

/-- A look at the state shows the same, whatever the log, if the log is not looked at. -/
theorem Leads.get {k : Program → Action β} (hk : ∀ log, k { p with log } = k p)
    (h : p.Leads (k p) o p') : p.Leads ((MonadState.get : Action Program) >>= k) o p' := by
  intro q hq
  obtain ⟨q', hq', hrun⟩ := h q hq
  obtain ⟨log, rfl⟩ := hq
  refine ⟨q', hq', ?_⟩
  rw [← hrun]
  exact congrArg (· { p with log }) (hk log)

theorem Leads.attempt {o : Except Fault α} (h : p.Leads a o p') :
    p.Leads (attempt a) (.ok o) p' := by
  intro q hq
  obtain ⟨q', hq', hrun⟩ := h q hq
  refine ⟨q', hq', ?_⟩
  cases o with
  | ok x => simp only [Program.attempt, hrun]
  | error f => simp only [Program.attempt, hrun]

/-- What has been run has led to where it is said to lead. -/
theorem Leads.run (h : p.Leads a (.ok x) p') : ∃ p₁, a p = .ok x p₁ ∧ p'.SameButLog p₁ := by
  obtain ⟨p₁, hp₁, hrun⟩ := h p (.refl p)
  exact ⟨p₁, hrun, hp₁⟩

/-! ### Log entries -/

theorem note_leads (p : Program) (e : LogEntry) : p.Leads (note e) (.ok ()) p := by
  intro q hq
  refine ⟨if e.level = .debug ∧ q.debug = false then q else { q with log := q.log ++ [e] },
    hq.trans ?_, rfl⟩
  split
  · exact .refl q
  · exact ⟨_, rfl⟩

/-- An event is recorded if its context leaves the level and the message alone. -/
theorem record_leads {e : LogEvent} {context : Fields} {text : String} (p : Program)
    (hcontext : e.context = .ok context) (htext : e.text = .str text)
    (hcheck : LogEvent.checkContext context = .ok context) : p.Leads (record e) (.ok ()) p := by
  have hentry : e.entry loggingService = .ok ⟨e.level, loggingService, text, context⟩ := by
    rw [LogEvent.entry, hcontext]
    simp only [Bind.bind, Except.bind, hcheck, htext]
    rfl
  rw [record, hentry]
  exact note_leads p _

/-! ### The resolver -/

/-- A resolver is registered, with what it keeps for itself and with the number of its store. -/
structure Serves (p : Program) (number : Nat) (r : Resolver) (w : Worker) (store : Nat) : Prop where
  registered : p.services.lookup resolverService = some number
  object : p.objects[number]? = some (.resolver r w store)

variable {number store : Nat} {r : Resolver} {w : Worker} {task : Resolver → Task α}

theorem resolverObject_leads (h : p.Serves number r w store) :
    p.Leads resolverObject (.ok number) p := by
  refine .get (fun _ => rfl) ?_
  rw [h.registered]
  exact leads_pure p number

theorem leave_now (p : Program) (number : Nat) (r : Resolver) (store : Nat) (s : Session) :
    (p.leave number r store s).now = p.now := by
  unfold leave
  dsimp only
  split <;> rfl

/-- The store of a session that keeps the frame is in memory if that of the program is. -/
theorem isMemory_of_frame {s : Session} (hframe : s.frame = (p.session w store).frame) :
    s.shared.store.isMemory = (p.storeOf store).isMemory :=
  congrArg Shared.Frame.isMemory hframe

/-- A store in memory is an object of its own. -/
theorem Serves.store_ne (h : p.Serves number r w store)
    (hmemory : (p.storeOf store).isMemory = true) :
    number ≠ store := by
  rintro rfl
  rw [storeOf, h.object] at hmemory
  cases hmemory

/-- The resolver stays registered, with what it keeps for itself from then on. -/
theorem Serves.leave {s : Session} (h : p.Serves number r w store)
    (hframe : s.frame = (p.session w store).frame) :
    (p.leave number r store s).Serves number r s.worker store := by
  have hbound := (List.getElem?_eq_some_iff.1 h.object).1
  unfold Program.leave
  dsimp only
  split
  · rename_i sets hsets
    have hmemory := isMemory_of_frame hframe
    rw [hsets] at hmemory
    refine ⟨h.registered, ?_⟩
    rw [List.getElem?_set_ne (h.store_ne hmemory.symm).symm, List.getElem?_set_self hbound]
  · exact ⟨h.registered, List.getElem?_set_self hbound⟩

/-- The store of the resolver is then the one that has been left behind. -/
theorem Serves.storeOf_leave {s : Session} (h : p.Serves number r w store)
    (hframe : s.frame = (p.session w store).frame) :
    (p.leave number r store s).storeOf store = s.shared.store := by
  have hmemory := isMemory_of_frame hframe
  unfold Program.leave
  cases hkept : s.shared.store with
  | memory sets =>
    rw [hkept] at hmemory
    have hbound : store < (p.objects.set number (.resolver r s.worker store)).length := by
      rw [List.length_set]
      unfold storeOf at hmemory
      split at hmemory
      · rename_i hobject
        exact (List.getElem?_eq_some_iff.1 hobject).1
      · cases hmemory
    simp only [storeOf, List.getElem?_set_self hbound]
  | table rows =>
    rw [hkept] at hmemory
    unfold storeOf
    dsimp only
    split
    · rename_i sets hobject
      -- no store in memory stands where the resolver stands or where none has been before
      by_cases hne : number = store
      · subst hne
        rw [List.getElem?_set_self (List.getElem?_eq_some_iff.1 h.object).1] at hobject
        cases hobject
      · rw [List.getElem?_set_ne hne] at hobject
        rw [storeOf, hobject] at hmemory
        cases hmemory
    · rfl

/-- The next session of the resolver is the one that has been left behind. -/
theorem Serves.session_leave {s : Session} (h : p.Serves number r w store)
    (hframe : s.frame = (p.session w store).frame) :
    (p.leave number r store s).session s.worker store = s := by
  have hrest : (p.leave number r store s).session s.worker store =
      ⟨⟨(p.leave number r store s).storeOf store, s.shared.outage, s.shared.log, p.debug,
        p.tableName, p.now⟩, s.worker⟩ := by
    unfold session Program.leave
    dsimp only
    split <;> rfl
  obtain ⟨hdebug, htableName, hnow, -⟩ := Shared.Frame.mk.inj hframe
  rw [hrest, h.storeOf_leave hframe, show p.debug = s.shared.debug from hdebug.symm,
    show p.tableName = s.shared.tableName from htableName.symm,
    show p.now = s.shared.now from hnow.symm]

/-- What is left last counts. -/
theorem Serves.leave_leave {s s' : Session} (h : p.Serves number r w store)
    (hframe : s.frame = (p.session w store).frame) (hframe' : s'.frame = s.frame) :
    (p.leave number r store s).leave number r store s' = p.leave number r store s' := by
  have hmemory := isMemory_of_frame hframe
  have hmemory' : s'.shared.store.isMemory = s.shared.store.isMemory :=
    congrArg Shared.Frame.isMemory hframe'
  unfold Program.leave
  cases hkept : s.shared.store with
  | memory sets =>
    rw [hkept] at hmemory hmemory'
    cases hkept' : s'.shared.store with
    | memory sets' =>
      dsimp only
      rw [List.set_comm _ _ (h.store_ne hmemory.symm).symm, List.set_set, List.set_set]
    | table rows' =>
      rw [hkept'] at hmemory'
      cases hmemory'
  | table rows =>
    rw [hkept] at hmemory'
    cases hkept' : s'.shared.store with
    | memory sets' =>
      rw [hkept'] at hmemory'
      cases hmemory'
    | table rows' =>
      dsimp only
      rw [List.set_set]

/-- A program is left in the same way, whatever the logs. -/
theorem leave_log (p : Program) (log : List LogEntry) {s s' : Session} (h : s.SameButLog s') :
    (p.leave number r store s).SameButLog ({ p with log }.leave number r store s') := by
  obtain ⟨log', rfl⟩ := h
  refine ⟨log', ?_⟩
  show Program.leave _ _ _ _ (s.withLog log') = _
  unfold leave
  dsimp only [Session.withLog]
  split <;> rfl

/-- A task of the resolver that does not depend on the log leads to its outcome, and to what it
leaves behind. -/
theorem withResolver_leads (h : p.Serves number r w store)
    (htask : Respects (.log (p.session w store).frame) (task r)) :
    p.Leads (withResolver number task) (outcome (task r) (p.session w store))
      (p.leave number r store (left (task r) (p.session w store))) := by
  intro q hq
  obtain ⟨log, rfl⟩ := hq
  have hsession : ({ p with log } : Program).session w store = (p.session w store).withLog log :=
    rfl
  obtain ⟨hout, hleft⟩ := (htask _ _ ⟨⟨log, hsession⟩, rfl⟩).outcome_eq fun _ _ hfg => hfg
  refine ⟨_, leave_log p log hleft.1, ?_⟩
  rw [hout]
  unfold withResolver outcome left
  rw [h.object]
  dsimp only
  cases task r (({ p with log } : Program).session w store) with
  | ok x s => rfl
  | error f s => rfl

end Program

/-! ### The guard -/

variable {p p' : Program} {event result : Json} {requestId : Option Json} {f : Fault}

/-- A call goes on in the same way, whether its beginning is logged or not. -/
theorem started_leads {o : GuardOptions} {rest : Action Json} {ended : Except Fault Json}
    (name : String)
    (event requestId : Json) (h : p.Leads rest ended p') :
    p.Leads (if o.logs = true then do
      Program.record (.started (.str name) event requestId)
      rest
    else rest) ended p' := by
  split
  · refine Program.Leads.bind (Program.record_leads p rfl rfl ?_) h
    cases event <;> rfl
  · exact h

theorem recordEnd_leads (p : Program) (o : GuardOptions) (name : String) (success : Bool)
    {context : Fields} (hcontext : context = [] ∨ ∃ v, context = [("error", v)]) :
    p.Leads (recordEnd o name success context) (.ok ()) p := by
  unfold recordEnd
  split
  · obtain rfl | ⟨v, rfl⟩ := hcontext
    · exact Program.record_leads p rfl rfl rfl
    · exact Program.record_leads p rfl rfl rfl
  · exact Program.leads_pure p ()

/-- Whatever else is logged about a fault is recorded. -/
theorem faultEvent_leads (p : Program) {e : LogEvent} {name : String}
    (h : faultEvent? f name = some e) :
    p.Leads (Program.record e) (.ok ()) p := by
  unfold faultEvent? at h
  split at h
  · cases h
  · cases h
  · split at h
    · obtain rfl := Option.some.inj h
      exact Program.record_leads p rfl rfl rfl
    · obtain rfl := Option.some.inj h
      exact Program.record_leads p rfl rfl rfl

/-- What a guarded handler answers at the end of a call: the result, or the wording of the fault. -/
def callAnswer (ended : Except Fault Json) (now : String) : Json :=
  match ended with
  | .ok result => result
  | .error f => (faultResponse f now).json

/-- A guarded handler answers with the result of the call, or words the fault with which it has
ended. -/
theorem guarded_leads {o : GuardOptions} {name : String} {handler : Json → Action Json}
    {ended : Except Fault Json} (h : p.Leads (guardedCall o name handler event) ended p') :
    p.Leads (guarded o name handler event requestId) (.ok (callAnswer ended p'.now)) p' := by
  unfold guarded
  dsimp only
  refine started_leads name event _ (h.attempt.bind ?_)
  cases ended with
  | ok result => exact Program.leads_pure _ _
  | error f =>
    refine (recordEnd_leads p' o name false (Or.inr ⟨_, rfl⟩)).bind ?_
    have hword : p'.Leads (do return (faultResponse f (← get).now).json)
        (.ok (faultResponse f p'.now).json) p' :=
      .get (fun _ => rfl) (Program.leads_pure _ _)
    -- what is logged about a fault makes no difference
    cases he : faultEvent? f name with
    | none => exact hword
    | some e => exact (faultEvent_leads p' he).bind hword

/-- A call that the guard lets pass ends as the handler does. -/
theorem guardedCall_pass {o : GuardOptions} {name : String} {handler : Json → Action Json}
    {ended : Except Fault Json} (hscreen : screen o event p.now = .ok none)
    (h : p.Leads (handler event) ended p') :
    p.Leads (guardedCall o name handler event) ended p' := by
  refine .get (fun _ => rfl) ?_
  rw [hscreen]
  refine (Program.leads_lift p _).bind ?_
  cases ended with
  | ok result =>
    exact h.bind ((recordEnd_leads p' o name true (Or.inl rfl)).bind (Program.leads_pure _ _))
  | error f => exact h.bind_error

/-- A call that the guard rejects ends with the wording of the rejection. -/
theorem guardedCall_reject {o : GuardOptions} {name : String} {handler : Json → Action Json}
    {rejection : Rejection} {response : ErrorResponse}
    (hscreen : screen o event p.now = .ok (some rejection))
    (hresponse : rejection.response = .ok response) :
    p.Leads (guardedCall o name handler event) (.ok response.json) p := by
  refine .get (fun _ => rfl) ?_
  rw [hscreen]
  refine (Program.leads_lift p _).bind ?_
  refine (recordEnd_leads p o name false (Or.inr ⟨_, rfl⟩)).bind ?_
  rw [hresponse]
  exact (Program.leads_lift p _).bind (Program.leads_pure _ _)

/-- A fault of the guard itself ends the call. -/
theorem guardedCall_fault {o : GuardOptions} {name : String} {handler : Json → Action Json}
    (hscreen : screen o event p.now = .error f) :
    p.Leads (guardedCall o name handler event) (.error f) p := by
  refine .get (fun _ => rfl) ?_
  rw [hscreen]
  exact (Program.leads_lift p _).bind_error

/-! ### The handler -/

variable {number store : Nat} {r : Resolver} {w : Worker} {request : BatchRequest}

/-- The response of the handler to a batch that it accepts: the entries, or the wording of the fault
that has ended the batch. -/
def Batch.answer (kind : String) (ended : Except Fault (List Json)) (now : String) : Json :=
  callAnswer (ended.map fun entries => batchResponse kind entries now) now

/-- The batch that an event asks a resolver for. -/
def BatchRequest.batch (request : BatchRequest) (r : Resolver) : Batch :=
  ⟨r, .str request.kind, request.allowReserved⟩

/-- If it accepts an event, the handler asks for the resolver, which may have to be made first. It
answers with the entries in the session of the resolver, and leaves the program as they do. -/
theorem handleBatch_made {p₁ : Program} (hmade : p.Leads Program.resolverObject (.ok number) p₁)
    (h : p₁.Serves number r w store) (hscreen : screen batchGuard event p.now = .ok none)
    (hvalid : validateBatch event = .ok request) (requestId : Option Json) :
    p.Leads (handleBatch event requestId)
      (.ok (Batch.answer request.kind
        (outcome ((request.batch r).entries request.names) (p₁.session w store)) p₁.now))
      (p₁.leave number r store
        (left ((request.batch r).entries request.names) (p₁.session w store))) := by
  have hentries : p₁.Leads
      (Program.withResolver number fun r => (request.batch r).entries request.names)
      (outcome ((request.batch r).entries request.names) (p₁.session w store))
      (p₁.leave number r store
        (left ((request.batch r).entries request.names) (p₁.session w store))) :=
    Program.withResolver_leads h ((request.batch r).entries_log request.names)
  have hresolve : p.Leads (resolveBatch event)
      ((outcome ((request.batch r).entries request.names) (p₁.session w store)).map
        fun entries => batchResponse request.kind entries p₁.now)
      (p₁.leave number r store
        (left ((request.batch r).entries request.names) (p₁.session w store))) := by
    unfold resolveBatch
    rw [hvalid]
    refine (Program.leads_lift p _).bind ?_
    refine hmade.bind ?_
    cases hout : outcome ((request.batch r).entries request.names) (p₁.session w store) with
    | error f =>
      rw [hout] at hentries
      exact hentries.bind_error
    | ok entries =>
      rw [hout] at hentries
      refine hentries.bind (.get (fun _ => rfl) ?_)
      rw [Program.leave_now]
      exact Program.leads_pure _ _
  rw [← p₁.leave_now number r store
    (left ((request.batch r).entries request.names) (p₁.session w store))] at hresolve ⊢
  exact guarded_leads (guardedCall_pass hscreen hresolve)

/-- If no resolver can be made, the handler words the fault. -/
theorem handleBatch_unmade {p₁ : Program} (hmade : p.Leads Program.resolverObject (.error f) p₁)
    (hscreen : screen batchGuard event p.now = .ok none)
    (hvalid : validateBatch event = .ok request)
    (requestId : Option Json) :
    p.Leads (handleBatch event requestId) (.ok (faultResponse f p₁.now).json) p₁ := by
  have hresolve : p.Leads (resolveBatch event) (.error f) p₁ := by
    unfold resolveBatch
    rw [hvalid]
    exact (Program.leads_lift p _).bind hmade.bind_error
  exact guarded_leads (guardedCall_pass hscreen hresolve)

/-- A resolver that is registered is the one that is asked for. -/
theorem handleBatch_leads (h : p.Serves number r w store)
    (hscreen : screen batchGuard event p.now = .ok none)
    (hvalid : validateBatch event = .ok request)
    (requestId : Option Json) : p.Leads (handleBatch event requestId)
      (.ok (Batch.answer request.kind
        (outcome ((request.batch r).entries request.names) (p.session w store)) p.now))
      (p.leave number r store
        (left ((request.batch r).entries request.names) (p.session w store))) :=
  handleBatch_made (Program.resolverObject_leads h) h hscreen hvalid requestId

/-! ### A running program -/

/-- A program that serves a resolver with the usual caches, on the given store. -/
def Program.serving (r : Resolver) (object : ServiceObject) (outage : Outage) : Program :=
  ⟨[], [object, .resolver r .standard 0], [(Program.resolverService, 1)], ∅, outage, [], false,
    "used-names", "", Pattern.compile⟩

theorem Program.serves_serving (r : Resolver) (object : ServiceObject) (outage : Outage) :
    (Program.serving r object outage).Serves 1 r .standard 0 :=
  ⟨rfl, rfl⟩

end Namesake
