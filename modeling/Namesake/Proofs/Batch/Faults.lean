import Namesake.Proofs.Batch.Report
import Namesake.Proofs.Registry.Failure
import Namesake.Proofs.Resolver.Fresh
import Namesake.Proofs.Resolver.Unwritable

/-!
# What ends a batch

A batch is ended by a fault that is none of the library's own. Under a whole limit the resolver
comes across two sorts of these: a store may fail with a fault which is none of the table's, and a
suffix may have more digits than may be written. So whatever event it is sent, a handler on a store
in memory answers a request with success, if the limits leave no room for so many digits, and
refuses everything else; and a handler on a table survives every fault of the table.

The room for digits is that of the widest limit under which the resolver has searched, since the
cache remembers the suffixes of all its searches. It may be all of the limit but the separator: no
character of the base need be left beside it that the limit counts.

## Main definitions

* `Program.Runs` — a resolver that accepted settings give is registered, and has worked so far

## Main results

* `Batch.entries_keeps` — a fault that ends a batch is an excused one
* `handleBatch_request` — the handler reports on the names of a request, or words such a fault
* `handleBatch_inMemory` — what the handler answers on a store in memory, whatever event it is sent
* `handleBatch_failing` — a table that fails stays as it is, and none of its faults ends a batch
-/

open Namesake.Task

namespace Namesake

variable {foreign : Fault → Prop} {n widest : Int} {settings : ResolverSettings} {f : Fault}

/-! ### Entries -/

theorem Task.Keeps.attempt {α : Type} {I : Session → Prop} {t : Task α} {ok : α → Prop}
    {bad bad' : Fault → Prop} (h : Keeps I t ok bad) :
    Keeps I t.attempt (fun o => ∀ f, o = .error f → bad f) bad' := by
  intro s hs
  refine (attempt_ends t s).mono (fun o m hm => ?_) fun _ _ hf => hf.elim
  obtain ⟨rfl, rfl⟩ := hm
  refine ⟨fun f hf => ?_, Ends.left ((h s hs).mono (fun _ _ h' => h'.2) fun _ _ h' => h'.2)⟩
  obtain ⟨s', hrun⟩ := outcome_eq_error.1 hf
  exact ((h s hs).of_error hrun).1

namespace Batch

variable {b : Batch}

/-- If the resolutions end with names or with excused faults, so does the batch, and if it ends with
a fault, that is none of the library's own. -/
theorem entries_keeps (h : ∀ raw, Resolver.Behaves foreign widest (b.resolve raw))
    (names : List Json) :
    Keeps (Session.Sound foreign (Quantity.IsShort widest)) (b.entries names) (fun _ => True)
      (fun f => Fault.Excused widest foreign f ∧ f.isOwn = false) := by
  refine (Keeps.mapM (q := fun _ => True) (fun raw => ?_) names).mono (fun _ _ => trivial)
    fun _ hf => hf
  refine (h raw).attempt.bind fun o ho => ?_
  cases o with
  | ok name => exact .pure trivial
  | error f =>
    dsimp only
    split
    · exact (Task.note_keeps _).then fun _ => .pure trivial
    · rename_i hforeign
      exact .throw ⟨ho f rfl, Bool.eq_false_iff.2 hforeign⟩

/-- A fault that is none of the library's own ends a batch at once. -/
theorem entries_cons_error {raw : Json} {s : Session} (h : outcome (b.resolve raw) s = .error f)
    (hforeign : f.isOwn = false) (names : List Json) :
    Ends (b.entries (raw :: names)) s (fun _ _ => False)
      (fun g s' => g = f ∧ s' = left (b.resolve raw) s) := by
  rw [entries, resolveNames, List.mapM_cons, ends_bind]
  refine (b.resolveEntry_ends raw s).mono (fun entry s' h' => ?_) fun g s' h' => ?_
  · obtain ⟨htolerated, -⟩ := h'
    rw [h, Outcome.IsTolerated, hforeign] at htolerated
    cases htolerated
  · exact ⟨Except.error.inj (h'.1.symm.trans h), h'.2.2.symm⟩

end Batch

/-- A form with a word for a kind and with a limit that is not too small is valid. -/
theorem RequestForm.check_of {form : RequestForm} {kind : NameKind} {limit : Limit}
    (hkind : NameKind.ofJson? form.kind = some kind)
    (hlimit : Limit.ofJson form.maxLength = .ok limit)
    (hroomy : limit.isShort = false) :
    form.check =
      .ok ⟨kind, form.rawName, form.fallbackName, limit, form.allowReserved.truthy, hroomy⟩ := by
  rw [check, hkind]
  dsimp only
  rw [hlimit]
  simp only [Bind.bind, Except.bind]
  split
  · rename_i hshort
    rw [hshort] at hroomy
    cases hroomy
  · rfl

/-- A batch makes the requests of the resolver itself; only users may have reserved names. -/
theorem Batch.resolve_eq {r : Resolver} {w : Worker} (hbuild : Resolver.build settings = .ok (r, w))
    (kind : NameKind) (allowReserved : Bool) (raw : Json) :
    (Batch.of r kind allowReserved).resolve raw =
      r.resolve (r.ownRequest kind raw (allowReserved && kind = .username)) := by
  have hlimit : Limit.ofJson r.settings.maxLength = .ok r.limit := by
    rw [Resolver.settings_of_build hbuild]
    exact (Resolver.build_gives hbuild).limit
  have hcheck : (nameForm r (.str kind.word) allowReserved raw).check =
      .ok (r.ownRequest kind raw (allowReserved && kind = .username)) := by
    -- the word of each kind is read as that kind
    cases kind with
    | username => exact RequestForm.check_of rfl hlimit r.roomy
    | groupName => exact RequestForm.check_of rfl hlimit r.roomy
  show resolveForm r (nameForm r (.str kind.word) allowReserved raw) = _
  rw [resolveForm, hcheck]

/-! ### Requests -/

/-- A resolver is registered that settings with whole numbers give, and it has worked so far, under
limits up to the widest one. -/
structure Program.Runs (p : Program) (settings : ResolverSettings) (n widest : Int) (number : Nat)
    (r : Resolver) (w₀ w : Worker) (store : Nat) : Prop where
  serves : p.Serves number r w store
  build : Resolver.build settings = .ok (r, w₀)
  limit : settings.maxLength = .int n
  bound : n ≤ widest
  suffixes : ∃ size, settings.suffixCacheSize = .int size
  truncations : ∃ size, settings.truncationCacheSize = .int size
  works : r.WorksWithin w₀ widest (p.session w store)

section Requests

variable {p : Program} {number store : Nat} {r : Resolver} {w₀ w : Worker}
variable {event : Json} {kind : NameKind} {names : List String} {allowReserved : Bool}

/-- The session of the resolver is sound, whatever a table fails with. -/
theorem Program.Runs.sound (h : p.Runs settings n widest number r w₀ w store)
    (houtage : ∀ rows, p.storeOf store = .table rows → p.outage.Within foreign) :
    (p.session w store).Sound foreign (Quantity.IsShort widest) := by
  obtain ⟨suffixes, hsuffixes⟩ := h.suffixes
  obtain ⟨truncations, htruncations⟩ := h.truncations
  exact ⟨h.works.sound h.build hsuffixes htruncations, houtage⟩

theorem Program.Runs.resolver_limit (h : p.Runs settings n widest number r w₀ w store) :
    r.limit = .whole n := by
  have hlimit := (Resolver.build_gives h.build).limit
  rw [h.limit] at hlimit
  exact (Except.ok.inj hlimit).symm

/-- A batch is ended by an excused fault, if by any, and leaves a sound session behind. -/
theorem Program.Runs.entries_keeps (h : p.Runs settings n widest number r w₀ w store)
    (kind : NameKind) (allowReserved : Bool) (raws : List Json) :
    Keeps (Session.Sound foreign (Quantity.IsShort widest))
      ((Batch.of r kind allowReserved).entries raws) (fun _ => True)
      (fun f => Fault.Excused widest foreign f ∧ f.isOwn = false) := by
  refine Batch.entries_keeps (fun raw => ?_) raws
  rw [Batch.resolve_eq h.build]
  exact Resolver.resolve_keeps r h.resolver_limit h.bound

/-- The handler reports on all names of a request, or answers with the wording of an excused fault
that is none of the library's own. -/
theorem handleBatch_request (h : p.Runs settings n widest number r w₀ w store)
    (houtage : ∀ rows, p.storeOf store = .table rows → p.outage.Within foreign)
    (hasks : event.Asks kind names allowReserved) (requestId : Option Json) :
    ∃ response p', handleBatch event requestId p = .ok response p' ∧
      ((∃ entries, response.Reports (names.map .str)
          ((Batch.of r kind allowReserved).outcomes (names.map .str) (p.session w store)) entries) ∨
        ∃ f, Fault.Excused widest foreign f ∧ f.isOwn = false ∧
          response = (faultResponse f p.now).json) := by
  obtain ⟨p', hrun, -⟩ := (handleBatch_asks h.serves hasks requestId).run
  refine ⟨_, p', hrun, ?_⟩
  by_cases htolerated : ∀ o ∈ (Batch.of r kind allowReserved).outcomes (names.map .str)
      (p.session w store), o.IsTolerated
  · exact .inl ⟨_, Batch.answer_reports kind.word p.now htolerated⟩
  · simp only [not_forall, exists_prop] at htolerated
    obtain ⟨f, hfault⟩ := Batch.outcome_entries_error htolerated
    have hends := h.entries_keeps kind allowReserved (names.map .str) _ (h.sound houtage)
    rw [hfault]
    obtain ⟨s', hrun'⟩ := outcome_eq_error.1 hfault
    obtain ⟨⟨hexcused, hforeign⟩, -⟩ := hends.of_error hrun'
    exact .inr ⟨f, hexcused, hforeign, rfl⟩

/-! ### Stores in memory -/

/-- On a store in memory a batch is answered with success, unless a suffix has too many digits. -/
theorem Program.Runs.answer_memory (h : p.Runs settings n widest number r w₀ w store)
    (hmemory : (p.storeOf store).isMemory = true) (kind : NameKind) (allowReserved : Bool)
    (raws : List Json) (now : String) {answer : Json}
    (hanswer : answer = Batch.answer kind.word
      (outcome ((Batch.of r kind allowReserved).entries raws) (p.session w store)) now) :
    answer.field? "success" = some (.bool true) ∧ answer.field? "statusCode" = none ∨
      maxDigits < widest.toNat ∧ answer = (faultResponse tooManyDigits now).json := by
  subst hanswer
  cases hout : outcome ((Batch.of r kind allowReserved).entries raws) (p.session w store) with
  | ok entries => exact .inl ⟨rfl, rfl⟩
  | error f =>
    -- sets in memory make no request that could fail, so only the digits are left to end a batch
    have houtage : ∀ rows, p.storeOf store = .table rows → p.outage.Within fun _ => False := by
      intro rows hrows
      rw [hrows] at hmemory
      cases hmemory
    obtain ⟨s', hrun⟩ := outcome_eq_error.1 hout
    have hkeeps := h.entries_keeps kind allowReserved raws _ (h.sound houtage)
    obtain ⟨⟨hexcused, hforeign⟩, -⟩ := hkeeps.of_error hrun
    obtain hf | ⟨hroom, rfl⟩ := hexcused.of_foreign hforeign
    · exact hf.elim
    · exact .inr ⟨hroom, rfl⟩

/-- Whatever event it is sent, a handler on a store in memory answers a request with success, unless
a suffix has too many digits, for which the widest limit must leave room. It refuses anything else,
and nothing but the log changes. Nothing is answered in any other way. -/
theorem handleBatch_inMemory (h : p.Runs settings n widest number r w₀ w store)
    (hmemory : (p.storeOf store).isMemory = true) (event : Json) (requestId : Option Json) :
    ∃ response p', handleBatch event requestId p = .ok response p' ∧
      (response.field? "success" = some (.bool true) ∨
        response.field? "statusCode" = some (.int 400)) ∧
      (event.IsRequest → response.field? "success" = some (.bool true) ∨
        maxDigits < widest.toNat ∧ response = (faultResponse tooManyDigits p.now).json) ∧
      (¬ event.IsRequest → ∃ refusal : ErrorResponse, refusal.IsRefusal ∧ response = refusal.json ∧
        response.field? "success" = none ∧ p.SameButLog p') := by
  by_cases hevent : event.IsRequest
  · obtain ⟨kind, names, allowReserved, hasks⟩ := id hevent
    obtain ⟨p', hrun, -⟩ := (handleBatch_asks h.serves hasks requestId).run
    have hanswer := h.answer_memory hmemory kind allowReserved (names.map .str) p.now rfl
    refine ⟨_, p', hrun, ?_, fun _ => hanswer.imp_left And.left, fun hnot => absurd hevent hnot⟩
    obtain ⟨hsuccess, -⟩ | ⟨-, hfault⟩ := hanswer
    · exact .inl hsuccess
    · rw [hfault]
      exact .inr rfl
  · obtain ⟨refusal, hrefusal, hleads⟩ := handleBatch_refuses hevent p requestId
    obtain ⟨p', hrun, hlog⟩ := hleads.run
    have hstatus : refusal.json.field? "statusCode" = some (.int 400) :=
      congrArg some hrefusal.status
    exact ⟨_, p', hrun, .inr hstatus, fun hyes => absurd hyes hevent,
      fun _ => ⟨refusal, hrefusal, rfl, rfl, hlog⟩⟩

theorem runs_standard (object : ServiceObject) (outage : Outage) :
    (Program.serving .standard object outage).Runs {} defaultMaxLength defaultMaxLength 1 .standard
      .standard .standard 0 :=
  ⟨Program.serves_serving _ _ _, Resolver.build_standard, rfl, le_rfl, ⟨_, rfl⟩, ⟨_, rfl⟩,
    .start _ .none⟩

/-- The usual resolver answers a request with success. -/
theorem handleBatch_inMemory_ann :
    (Program.serving .standard (.memory .empty) none).Runs {} defaultMaxLength defaultMaxLength 1
        .standard .standard .standard 0 ∧
      ((Program.serving .standard (.memory .empty) none).storeOf 0).isMemory = true ∧
      ∃ response p', handleBatch (.asking ["Ann"]) none
          (Program.serving .standard (.memory .empty) none) = .ok response p' ∧
        response.field? "success" = some (.bool true) := by
  have hruns := runs_standard (.memory .empty) none
  obtain ⟨response, p', hrun, -, hyes, -⟩ := handleBatch_inMemory hruns rfl (.asking ["Ann"]) none
  refine ⟨hruns, rfl, response, p', hrun, ?_⟩
  obtain hsuccess | ⟨hroom, -⟩ := hyes ⟨_, _, _, Json.asks_asking ["Ann"]⟩
  · exact hsuccess
  · exact absurd hroom (by decide)

/-! ### Where suffixes run out of digits -/

/-- A program with the resolver that has no suffix for a name which is not free. -/
def Program.numberless : Program :=
  .serving .numberless (.memory .empty) none

/-- Its batches of users. -/
def Batch.numberless : Batch :=
  .of .numberless .username false

theorem Batch.resolve_numberless (raw : Json) : Batch.numberless.resolve raw =
    Resolver.numberless.resolve (Resolver.numberless.ownRequest .username raw false) :=
  Batch.resolve_eq Resolver.build_numberless .username false raw

theorem runs_numberless :
    Program.numberless.Runs Resolver.numberlessSettings 4303 4303 1 .numberless .standard
      .standard 0 :=
  ⟨Program.serves_serving _ _ _, Resolver.build_numberless, rfl, le_rfl, ⟨_, rfl⟩, ⟨_, rfl⟩,
    .start _ .none⟩

/-- Where the fallback name for users is used up, the next user without a name ends the batch.
Nothing is added to the store. -/
theorem entries_numberless {s : Session} {sets : NameSets} (hs : s.Awaits (.memory sets))
    (htaken : sets.has "user".toList = true) (names : List Json) :
    Ends (Batch.numberless.entries (.str "" :: names)) s (fun _ _ => False)
      (fun f s' => f = tooManyDigits ∧ s'.Awaits (.memory sets)) := by
  have hends := Resolver.resolve_numberless hs htaken
  rw [← Batch.resolve_numberless] at hends
  refine (Batch.entries_cons_error hends.outcome_error rfl names).mono (fun _ _ h => h)
    fun f s' h => ⟨h.1, ?_⟩
  rw [h.2]
  exact hends.left_error

/-- The first user without a name is given the fallback name. -/
theorem entries_numberless_first : ∃ sets : NameSets,
    sets.has "user".toList = true ∧ sets.has "john".toList = false ∧
      Ends (Batch.numberless.entries [.str ""]) (Program.numberless.session .standard 0)
        (fun _ s' => s'.Awaits (.memory sets)) (fun _ _ => False) := by
  have hfirst : (∀ o ∈ Batch.numberless.outcomes [.str ""] (Program.numberless.session .standard 0),
        o.IsTolerated) ∧
      (let s := left (Batch.numberless.entries [.str ""]) (Program.numberless.session .standard 0)
      s.shared.outage.isNone = true ∧ s.worker.contention.stolen.isEmpty = true ∧
        s.worker.contention.failing.isEmpty = true ∧
        s.shared.store.has "user".toList = true ∧ s.shared.store.has "john".toList = false) := by
    -- no search is made for the first user, so no suffix is formatted that could be too long to run
    decide +kernel
  obtain ⟨htolerated, houtage, hstolen, hfailing, huser, hjohn⟩ := hfirst
  obtain ⟨s₁, hrun⟩ := outcome_eq_ok.1 (Batch.outcome_entries htolerated).1
  have hleft : left (Batch.numberless.entries [.str ""]) (Program.numberless.session .standard 0) =
      s₁ := by
    rw [left, hrun]
  have hstart : (Program.numberless.session .standard 0).Sound (fun _ => False)
      (Quantity.IsShort 4303) := runs_numberless.sound fun _ h => by cases h
  have hkeeps := runs_numberless.entries_keeps .username false [.str ""] _ hstart
  have hsound := (hkeeps.of_ok hrun).2.mono fun _ => Resolver.isCount_of_isShort
  have hframe := Batch.numberless.frame_entries [.str ""] (Program.numberless.session .standard 0)
  have hmemory := congrArg Shared.Frame.isMemory hframe
  rw [hleft] at houtage hstolen hfailing huser hjohn hmemory
  cases hstore : s₁.shared.store with
  | table rows =>
    rw [Session.frame, hstore] at hmemory
    cases hmemory
  | memory sets =>
    rw [hstore] at huser hjohn
    refine ⟨sets, huser, hjohn, ?_⟩
    rw [Ends, hrun]
    exact ⟨⟨⟨Option.isNone_iff_eq_none.1 houtage, List.isEmpty_iff.1 hstolen⟩,
      List.isEmpty_iff.1 hfailing⟩, hsound.caches, hstore⟩

/-- So of two users without a name the second one ends the batch. -/
theorem entries_numberless_twice (names : List Json) : ∃ sets : NameSets,
    sets.has "john".toList = false ∧
      Ends (Batch.numberless.entries ([.str "", .str ""] ++ names))
        (Program.numberless.session .standard 0) (fun _ _ => False)
        (fun f s' => f = tooManyDigits ∧ s'.Awaits (.memory sets)) := by
  obtain ⟨sets, huser, hjohn, hfirst⟩ := entries_numberless_first
  refine ⟨sets, hjohn, ?_⟩
  rw [show [.str "", .str ""] ++ names = [.str ""] ++ .str "" :: names from rfl,
    Batch.entries_append, ends_bind]
  refine hfirst.mono (fun entries s₁ hs => ?_) fun _ _ hf => hf.elim
  rw [ends_bind]
  exact (entries_numberless hs huser names).mono (fun _ _ h => h.elim) fun _ _ h => h

/-- The user who comes next is given the name he asks for. -/
theorem entries_numberless_john {s : Session} {kept : Store} (hs : s.Awaits kept)
    (hfree : kept.has "john".toList = false) :
    Ends (Batch.numberless.entries [.str "john"]) s
      (fun _ s' => s'.shared.store.has "john".toList = true) (fun _ _ => False) := by
  have hclean : Resolver.numberless.cleanName
      (Resolver.numberless.ownRequest .username (.str "john") false) = .ok "john".toList := by
    rw [Resolver.cleanName_text rfl]
    exact congrArg Except.ok (by decide +kernel)
  have hlower : Unicode.lowercase "john".toList = "john".toList := by decide +kernel
  have hallowed : Resolver.numberless.reserved.holds "john".toList = false := by decide +kernel
  have hends : Ends (Batch.numberless.resolve (.str "john")) s
      (fun _ s' => s'.shared.store.has "john".toList = true) (fun _ _ => False) := by
    rw [Batch.resolve_numberless]
    generalize hreq : Resolver.numberless.ownRequest .username (.str "john") false = req at hclean ⊢
    have hwhole : req.limit.isWhole = true := by rw [← hreq]; rfl
    have hfresh : Resolver.numberless.Free req.allowReserved (Unicode.lowercase "john".toList)
        s.shared.store := by
      rw [hlower, hs.store]
      exact ⟨fun _ => hallowed, hfree⟩
    refine (Resolver.resolve_fresh hs.toQuiet hwhole hclean (by decide) hfresh).mono
      (fun _ s' h => ?_) fun _ _ hf => hf
    rw [h.2.2.2, hlower, hs.store]
    exact (Store.has_insert hfree).2 (Or.inr rfl)
  obtain ⟨res, s₁, hrun, hheld⟩ := hends.exists_ok
  have hout : outcome (Batch.numberless.resolve (.str "john")) s = .ok res :=
    outcome_eq_ok.2 ⟨s₁, hrun⟩
  refine (Batch.numberless.entries_ends [.str "john"] s).mono (fun _ s' h => ?_) fun f s' h => ?_
  · obtain ⟨log, rfl⟩ := h.2.2
    show (left (Batch.numberless.resolve (.str "john")) s).shared.store.has "john".toList = true
    rw [left, hrun]
    exact hheld
  · obtain ⟨o, ho, hforeign⟩ := h.exists_outcome
    rw [Batch.outcomes, hout] at ho
    obtain rfl := List.mem_singleton.1 ho
    exact hforeign trivial

/-- Under a limit that leaves room for so many digits, a request may be refused: of two users
without a name the second one comes to suffixes with too many digits, and with him the batch
ends. -/
theorem handleBatch_unwritable :
    Program.numberless.Runs Resolver.numberlessSettings 4303 4303 1 .numberless .standard
        .standard 0 ∧
      (Program.numberless.storeOf 0).isMemory = true ∧ (Json.asking ["", "", "john"]).IsRequest ∧
      ∃ response p', handleBatch (.asking ["", "", "john"]) none .numberless = .ok response p' ∧
        response.field? "success" = none ∧ response.field? "statusCode" = some (.int 400) := by
  have hasks := Json.asks_asking ["", "", "john"]
  obtain ⟨sets, -, hends⟩ := entries_numberless_twice [.str "john"]
  obtain ⟨p', hrun, -⟩ :=
    (handleBatch_ended runs_numberless.serves hasks none hends.outcome_error).run
  exact ⟨runs_numberless, rfl, ⟨_, _, _, hasks⟩, _, p', hrun, rfl, rfl⟩

/-- A batch of two lists is not as good as two batches where it ends so: the user behind the two is
given his name in a batch of his own. -/
theorem handleBatch_append_unwritable : ∃ a₁ a₂ a p₁ p₂ q,
    handleBatch (.asking ["", ""]) none .numberless = .ok a₁ p₁ ∧
      handleBatch (.asking ["john"]) none p₁ = .ok a₂ p₂ ∧
      handleBatch (.asking ["", "", "john"]) none .numberless = .ok a q ∧
      a₂.field? "success" = some (.bool true) ∧ (p₂.storeOf 0).has "john".toList = true ∧
      a.field? "statusCode" = some (.int 400) ∧ (q.storeOf 0).has "john".toList = false := by
  have hserves : Program.numberless.Serves 1 .numberless .standard 0 := runs_numberless.serves
  let s := Program.numberless.session .standard 0
  let s₂ := left (Batch.numberless.entries [.str "", .str ""]) s
  obtain ⟨sets, hfree, htwo⟩ := entries_numberless_twice []
  have hs₂ : s₂.Awaits (.memory sets) := htwo.left_error
  obtain ⟨entries, s₃, hrun₃, hheld⟩ := (entries_numberless_john hs₂ hfree).exists_ok
  obtain ⟨sets', hfree', hthree⟩ := entries_numberless_twice [.str "john"]
  have hs₄ : (left (Batch.numberless.entries [.str "", .str "", .str "john"]) s).Awaits
      (.memory sets') := hthree.left_error
  have hfault : outcome (Batch.numberless.entries [.str "", .str "", .str "john"]) s =
      .error tooManyDigits := hthree.outcome_error
  obtain ⟨p₁, p₂, q, hrun₁, -, hrun₂, hlog₂, hrun, hlog⟩ :=
    handleBatch_twice hserves (Json.asks_asking ["", ""]) (Json.asks_asking ["john"])
      (Json.asks_asking ["", "", "john"]) none none none
  -- a program only logs after a batch, so its store is that of the session left behind
  have hframe := Batch.numberless.frame_entries [.str "", .str ""] s
  have hstore₂ : p₂.storeOf 0 = (left (Batch.numberless.entries [.str "john"]) s₂).shared.store :=
    (hlog₂.storeOf 0).trans
      (hserves.storeOf_leave ((Batch.numberless.frame_entries [.str "john"] s₂).trans hframe))
  have hstore : q.storeOf 0 =
      (left (Batch.numberless.entries [.str "", .str "", .str "john"]) s).shared.store :=
    (hlog.storeOf 0).trans (hserves.storeOf_leave (Batch.numberless.frame_entries _ s))
  refine ⟨_, _, _, p₁, p₂, q, hrun₁, hrun₂, hrun, ?_, ?_, ?_, ?_⟩
  · show (Batch.answer _ (outcome (Batch.numberless.entries [.str "john"]) s₂)
      _).field? "success" = _
    rw [outcome_eq_ok.2 ⟨s₃, hrun₃⟩]
    rfl
  · rw [hstore₂, left, hrun₃]
    exact hheld
  · show (Batch.answer _ (outcome (Batch.numberless.entries [.str "", .str "", .str "john"]) s)
      _).field? "statusCode" = _
    rw [hfault]
    rfl
  · rw [hstore, hs₄.store]
    exact hfree'

/-! ### Tables -/

/-- A batch is ended by no fault of the table. -/
theorem handleBatch_outage (h : p.Runs settings n widest number r w₀ w store)
    (hasks : event.Asks kind names allowReserved) (requestId : Option Json) :
    ∃ response p', handleBatch event requestId p = .ok response p' ∧
      ((∃ entries, response.Reports (names.map .str)
          ((Batch.of r kind allowReserved).outcomes (names.map .str) (p.session w store)) entries) ∨
        (maxDigits < widest.toNat ∧ response = (faultResponse tooManyDigits p.now).json) ∨
        ∃ failure ∈ p.outage, failure.fault.isTableFault = false ∧
          response = (faultResponse failure.fault p.now).json) := by
  -- whatever is none of the table's can only be the fault that is going to strike
  have houtage : ∀ rows, p.storeOf store = .table rows → p.outage.Within fun f =>
      ∃ failure ∈ p.outage, failure.fault = f ∧ f.isTableFault = false := by
    intro rows hrows failure hfailure
    cases htable : failure.fault.isTableFault with
    | true => exact .inl htable
    | false => exact .inr ⟨failure, hfailure, rfl, htable⟩
  obtain ⟨response, p', hrun, hresponse⟩ := handleBatch_request h houtage hasks requestId
  refine ⟨response, p', hrun, ?_⟩
  obtain hreports | ⟨f, hexcused, hforeign, rfl⟩ := hresponse
  · exact .inl hreports
  · obtain ⟨failure, hfailure, rfl, htable⟩ | ⟨hroom, rfl⟩ := hexcused.of_foreign hforeign
    · exact .inr (.inr ⟨failure, hfailure, htable, rfl⟩)
    · exact .inr (.inl ⟨hroom, rfl⟩)

/-- What the failure of a request to a table leads to. Whatever operation makes the request, the
table stays as it is; the operation gives its answer if the fault is one, and raises any other fault
of the table as a fault of the store, which a batch survives. So does an operation that the table
refuses without a failure. A fault that is none of the table's is raised as it is, and may end a
batch. -/
theorem handleBatch_failing (op : TableOp) (rows : Table) (s : Session) :
    (∀ f, s.shared.outage.next op.request = some f →
      Ends (op.perform rows) s
        (fun answer s' => op.answerTo? f = some answer ∧ s.Looks s')
        (fun g s' => op.answerTo? f = none ∧ s.Looks s' ∧
          (f.isTableFault = true → g = .store (.str (judge f (.str op.word)).message)
            ⟨.str op.word, .str s.shared.tableName, .str f.text,
              .bool (judge f (.str op.word)).retryable⟩) ∧
          (f.isTableFault = false → g = f))) ∧
      (∀ answer, s.shared.outage.next op.request = none → op.refusal? rows = some answer →
        Ends (op.perform rows) s (fun a s' => a = answer ∧ s.Looks s') (fun _ _ => False)) ∧
      ∀ (p : Program) (settings : ResolverSettings) (n widest : Int) (number store : Nat)
        (r : Resolver) (w₀ w : Worker) (event : Json) (kind : NameKind) (names : List String)
        (allowReserved : Bool) (requestId : Option Json),
        p.Runs settings n widest number r w₀ w store → event.Asks kind names allowReserved →
        ∃ response p', handleBatch event requestId p = .ok response p' ∧
          ((∃ entries, response.Reports (names.map .str)
              ((Batch.of r kind allowReserved).outcomes (names.map .str) (p.session w store))
              entries) ∨
            (maxDigits < widest.toNat ∧ response = (faultResponse tooManyDigits p.now).json) ∨
            ∃ failure ∈ p.outage, failure.fault.isTableFault = false ∧
              response = (faultResponse failure.fault p.now).json) := by
  refine ⟨fun f hf => ?_, fun answer hnone hrefusal => ?_, ?_⟩
  · refine (op.perform_fails rows hf).mono (fun _ _ h => h) fun g s' h => ?_
    obtain ⟨hnone, rfl, hlooks⟩ := h
    exact ⟨hnone, hlooks, fun htable => Fault.told_of_table htable _ _,
      fun hforeign => Fault.told_of_foreign hforeign _ _⟩
  · exact op.perform_refused hnone hrefusal
  · intro p settings n widest number store r w₀ w event kind names allowReserved requestId h hasks
    exact handleBatch_outage h hasks requestId

/-- A program whose table is too busy for the next claim. -/
def Program.busy : Program :=
  .serving .standard .table
    (some ⟨.save, .table .put "Failed to put item" (some (.str "ThrottlingException")), 0⟩)

/-- The claim that the table is too busy for ends with a fault of the store that may be tried again,
and the batch goes on. -/
theorem handleBatch_failing_busy :
    outcome ((TableOp.claim "ann".toList .username none).perform ∅)
        (Program.busy.session .standard 0) =
      .error (.store (.str "Database is temporarily busy. Please try again.")
        ⟨.str "claim", .str "used-names", .str "Failed to put item", .bool true⟩) ∧
      outcome ((TableOp.release "ann".toList "username").perform ∅)
        (Program.busy.session .standard 0) = .ok (.truth false) ∧
      Program.busy.Runs {} defaultMaxLength defaultMaxLength 1 .standard .standard .standard 0 ∧
      ∃ response p' outs entries, handleBatch (.asking ["ann", "bob"]) none .busy =
        .ok response p' ∧
        response.Reports [.str "ann", .str "bob"] outs entries := by
  obtain ⟨hfails, -, hsurvives⟩ := handleBatch_failing (.claim "ann".toList .username none) ∅
    (Program.busy.session .standard 0)
  obtain ⟨-, hrefuses, -⟩ := handleBatch_failing (.release "ann".toList "username") ∅
    (Program.busy.session .standard 0)
  have hruns : Program.busy.Runs {} defaultMaxLength defaultMaxLength 1 .standard .standard
      .standard 0 := runs_standard _ _
  refine ⟨?_, ?_, hruns, ?_⟩
  · exact outcome_eq_iff.2 ((hfails _ rfl).mono (fun _ _ h => (by cases h.1)) fun _ _ h =>
      congrArg _ (h.2.2.1 rfl))
  · exact outcome_eq_iff.2 ((hrefuses (.truth false) rfl rfl).mono (fun _ _ h => congrArg _ h.1)
      fun _ _ h => h.elim)
  · obtain ⟨response, p', hrun, hresponse⟩ := hsurvives .busy {} defaultMaxLength
      defaultMaxLength 1 0 .standard .standard .standard _ _ _ _ none hruns
        (Json.asks_asking ["ann", "bob"])
    obtain ⟨entries, hreports⟩ | ⟨hroom, -⟩ | ⟨failure, hfailure, htable, -⟩ := hresponse
    · exact ⟨response, p', _, entries, hrun, hreports⟩
    · exact absurd hroom (by decide)
    · obtain rfl := Option.some.inj hfailure
      cases htable

/-- A program whose table refuses the next claim with a fault that is none of the library's own. -/
def Program.refusing : Program :=
  .serving .standard .table (some ⟨.save,
    .service (some (.str "ThrottlingException")) (.str "Rate exceeded") (.str "PutItem"), 0⟩)

/-- A fault of the service is not judged, though it could be: it is raised as it is, and ends the
batch. -/
theorem handleBatch_failing_refused :
    ∃ f, Program.refusing.outage.next .save = some f ∧ (judge f (.str "claim")).retryable = true ∧
      outcome ((TableOp.claim "ann".toList .username none).perform ∅)
        (Program.refusing.session .standard 0) = .error f ∧ f.isOwn = false ∧
      ∃ response p', handleBatch (.asking ["ann", "bob"]) none .refusing = .ok response p' ∧
        response.field? "success" = none ∧ response.field? "statusCode" = some (.int 500) := by
  have hclaim := (TableOp.claim "ann".toList .username none).perform_fails ∅
    (s := Program.refusing.session .standard 0) rfl
  have hentries : (fault? ((Batch.of .standard .username false).entries [.str "ann", .str "bob"])
      (Program.refusing.session .standard 0)).map (fun f => (f.isOwn, f.blamesRequest)) =
        some (false, false) := by
    decide +kernel
  obtain ⟨f, hfault, hsort⟩ := Option.map_eq_some_iff.1 hentries
  obtain ⟨-, hblames⟩ := Prod.mk.inj hsort
  obtain ⟨p', hrun, -⟩ := (handleBatch_ended (Program.serves_serving _ _ _)
    (Json.asks_asking ["ann", "bob"]) none (outcome_eq_error.2 (fault?_eq_some.1 hfault))).run
  refine ⟨_, rfl, rfl, ?_, rfl, _, p', hrun, rfl, ?_⟩
  · exact outcome_eq_iff.2 (hclaim.mono (fun _ _ h => (by cases h.1)) fun _ _ h => congrArg _ h.2.1)
  · exact statusCode_of_not_blames hblames _

end Requests

end Namesake
