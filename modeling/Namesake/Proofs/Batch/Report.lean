import Namesake.Proofs.Batch.Acceptance

/-!
# What the handler reports

The response to a batch has one entry for each name, in order, and tells how many there are and how
many of them report an error. A batch of two lists is as good as two batches, one after the other:
the entries are those of the first and then those of the second, and everything but the log is left
as by the two. This is so as long as each resolution ends with a name or with a fault of the
library's own. Any other fault ends its batch, and with it goes whatever the batch has reported
about the names before and would have reported about the names after; then the batch of two lists is
answered as the one of the two that it ends.

## Main definitions

* `Json.Reports` — the response tells how the resolutions of the names have ended
* `Batch.of` — who resolves the names of a request
* `Fault.blamesRequest` — the handler takes the request to be the cause of the fault

## Main results

* `handleBatch_asks` — to what the handler leads if it is sent a request
* `batchResponse_reports` — the response to a batch that no fault has ended
* `handleBatch_append` — a batch of two lists is as good as two batches, unless a fault ends it
-/

open Namesake.Task

namespace Namesake

variable {p : Program} {number store : Nat} {r : Resolver} {w : Worker}
variable {event first second both : Json} {kind : NameKind} {names xs ys : List String}
variable {allowReserved : Bool} {f : Fault}

/-! ### Entries and outcomes -/

namespace Batch

variable {b : Batch} {raws : List Json} {s s' : Session}

/-- A fault that ends a batch is the end of one of its resolutions. -/
theorem EndedBy.exists_outcome (h : b.EndedBy raws s f s') :
    ∃ o ∈ b.outcomes raws s, ¬ Outcome.IsTolerated o := by
  obtain ⟨before, raw, after, rfl, -, hfault, -⟩ := h.reached
  refine ⟨.error f, ?_, ?_⟩
  · rw [outcomes_append, outcomes, hfault]
    exact List.mem_append_right _ List.mem_cons_self
  · rw [Outcome.IsTolerated, h.foreign]
    exact Bool.false_ne_true

/-- If every resolution is tolerated, there is one entry for each name. -/
theorem outcome_entries (h : ∀ o ∈ b.outcomes raws s, o.IsTolerated) :
    outcome (b.entries raws) s = .ok (List.zipWith entryOf raws (b.outcomes raws s)) ∧
      (b.leftBy raws s).SameButLog (left (b.entries raws) s) := by
  have hends : Ends (b.entries raws) s
      (fun entries s' => entries = List.zipWith entryOf raws (b.outcomes raws s) ∧
        (b.leftBy raws s).SameButLog s') (fun _ _ => False) := by
    refine (b.entries_ends raws s).mono (fun _ _ h' => h'.2) fun f s' hended => ?_
    obtain ⟨o, ho, hforeign⟩ := hended.exists_outcome
    exact hforeign (h o ho)
  exact ⟨outcome_eq_iff.2 (hends.mono (fun _ _ h' => congrArg _ h'.1) fun _ _ hf => hf.elim),
    Ends.left (hends.mono (fun _ _ h' => h'.2) fun _ _ hf => hf.elim)⟩

/-- If one is not, a fault ends the batch. -/
theorem outcome_entries_error (h : ∃ o ∈ b.outcomes raws s, ¬ Outcome.IsTolerated o) :
    ∃ f, outcome (b.entries raws) s = .error f := by
  obtain ⟨o, ho, hforeign⟩ := h
  cases hrun : b.entries raws s with
  | ok entries s' => exact absurd (((b.entries_ends raws s).of_ok hrun).1 o ho) hforeign
  | error f s' => exact ⟨f, outcome_eq_error.2 ⟨s', hrun⟩⟩

/-- The next list is resolved as if the batch had not been reported on. -/
theorem outcomes_next {xs : List Json} (h : ∀ o ∈ b.outcomes xs s, o.IsTolerated) (ys : List Json) :
    b.outcomes ys (left (b.entries xs) s) = b.outcomes ys (b.leftBy xs s) :=
  (b.outcomes_log ys (outcome_entries h).2).1.symm

/-- The second list is reached if no fault ends the first one. -/
theorem entries_append_ok {xs : List Json} {entries : List Json}
    (h : outcome (b.entries xs) s = .ok entries) (ys : List Json) :
    outcome (b.entries (xs ++ ys)) s =
        (outcome (b.entries ys) (left (b.entries xs) s)).map (entries ++ ·) ∧
      left (b.entries (xs ++ ys)) s = left (b.entries ys) (left (b.entries xs) s) := by
  obtain ⟨s', hrun⟩ := outcome_eq_ok.1 h
  have hleft : left (b.entries xs) s = s' := by
    rw [left, hrun]
  rw [entries_append, hleft]
  unfold outcome left
  rw [run_bind_ok hrun]
  -- the first entries are put in front, if there are any more to be put behind them
  cases hrest : b.entries ys s' with
  | ok rest s'' =>
    rw [run_bind_ok hrest]
    exact ⟨rfl, rfl⟩
  | error g s'' =>
    rw [run_bind_error hrest]
    exact ⟨rfl, rfl⟩

/-- The first list alone counts if a fault ends it. -/
theorem append_of_first_ended {xs : List Json} (h : ∃ o ∈ b.outcomes xs s, ¬ Outcome.IsTolerated o)
    (ys : List Json) : outcome (b.entries (xs ++ ys)) s = outcome (b.entries xs) s ∧
      left (b.entries (xs ++ ys)) s = left (b.entries xs) s := by
  obtain ⟨f, hfault⟩ := outcome_entries_error h
  obtain ⟨s', hrun⟩ := outcome_eq_error.1 hfault
  have hwhole : b.entries (xs ++ ys) s = .error f s' := by
    rw [entries_append, run_bind_error hrun]
  exact ⟨by rw [outcome, outcome, hwhole, hrun], by rw [left, left, hwhole, hrun]⟩

/-- The second list alone counts if a fault ends that. -/
theorem append_of_second_ended {xs ys : List Json} (h : ∀ o ∈ b.outcomes xs s, o.IsTolerated)
    (hended : ∃ o ∈ b.outcomes ys (b.leftBy xs s), ¬ Outcome.IsTolerated o) :
    outcome (b.entries (xs ++ ys)) s = outcome (b.entries ys) (left (b.entries xs) s) ∧
      left (b.entries (xs ++ ys)) s = left (b.entries ys) (left (b.entries xs) s) := by
  obtain ⟨hwhole, hleft⟩ := entries_append_ok (outcome_entries h).1 ys
  rw [← outcomes_next h ys] at hended
  obtain ⟨f, hfault⟩ := outcome_entries_error hended
  rw [hwhole, hfault]
  exact ⟨rfl, hleft⟩

end Batch

/-! ### The response -/

/-- A number among the particulars of a response. -/
def Json.tally? (response : Json) (key : String) : Option Json :=
  (response.field? "metadata").bind fun metadata => metadata.field? key

/-- The response tells how the resolutions of the names have ended: it has one entry for each name,
in order, with an error if the resolution has given no name and only then. -/
structure Json.Reports (response : Json) (raws : List Json) (outs : List Outcome)
    (entries : List Json) : Prop where
  success : response.field? "success" = some (.bool true)
  resolved :
    ((response.field? "data").bind fun data => data.field? "resolved") = some (.arr entries)
  told : entries = List.zipWith entryOf raws outs
  originals : (entries.map fun entry => entry.field? "original") = raws.map some
  errors : entries.map isFailed = outs.map Outcome.isFault
  count : response.tally? "count" = some (.int raws.length)
  failed : response.tally? "failed" = some (.int (entries.filter isFailed).length)

/-- The numbers in the response to a batch. -/
theorem tally_batchResponse (kind : String) (entries : List Json) (now : String) :
    (batchResponse kind entries now).tally? "count" = some (.int entries.length) ∧
      (batchResponse kind entries now).tally? "failed" =
        some (.int (entries.filter isFailed).length) := by
  have hmeta : ∀ key, (batchResponse kind entries now).tally? key =
      (Fields.merge [("timestamp", .str now), ("function_name", .str functionName)]
        [("count", .int entries.length), ("failed", .int (entries.filter isFailed).length)]).lookup
        key := fun _ => rfl
  rw [hmeta, hmeta]
  exact ⟨rfl, rfl⟩

/-- The response to a batch that no fault has ended. -/
theorem batchResponse_reports {raws : List Json} {outs : List Outcome} (kind now : String)
    (h : raws.length = outs.length) :
    (batchResponse kind (List.zipWith entryOf raws outs) now).Reports raws outs
      (List.zipWith entryOf raws outs) := by
  obtain ⟨hcount, hfailed⟩ := tally_batchResponse kind (List.zipWith entryOf raws outs) now
  rw [List.length_zipWith, ← h, Nat.min_self] at hcount
  exact ⟨rfl, rfl, rfl, map_original h, map_isFailed h, hcount, hfailed⟩

/-- The answer to a batch that no fault has ended. -/
theorem Batch.answer_reports {b : Batch} {raws : List Json} {s : Session} (kind now : String)
    (h : ∀ o ∈ b.outcomes raws s, o.IsTolerated) :
    (Batch.answer kind (outcome (b.entries raws) s) now).Reports raws (b.outcomes raws s)
      (List.zipWith entryOf raws (b.outcomes raws s)) := by
  rw [(outcome_entries h).1]
  exact batchResponse_reports kind now (b.length_outcomes raws s).symm

/-- The answer to the next batch tells how its resolutions end behind those of the first. -/
theorem Batch.answer_next {b : Batch} {xs ys : List Json} {s : Session} (kind now : String)
    (h₁ : ∀ o ∈ b.outcomes xs s, o.IsTolerated)
    (h₂ : ∀ o ∈ b.outcomes ys (b.leftBy xs s), o.IsTolerated) :
    (Batch.answer kind (outcome (b.entries ys) (left (b.entries xs) s)) now).Reports ys
      (b.outcomes ys (b.leftBy xs s))
      (List.zipWith entryOf ys (b.outcomes ys (b.leftBy xs s))) := by
  rw [← outcomes_next h₁] at h₂ ⊢
  exact Batch.answer_reports kind now h₂

/-- The answer to a batch of two lists has the entries for the first and then those for the second.
-/
theorem Batch.answer_append {b : Batch} {xs ys : List Json} {s : Session} (kind now : String)
    (h₁ : ∀ o ∈ b.outcomes xs s, o.IsTolerated)
    (h₂ : ∀ o ∈ b.outcomes ys (b.leftBy xs s), o.IsTolerated) :
    (Batch.answer kind (outcome (b.entries (xs ++ ys)) s) now).Reports (xs ++ ys)
      (b.outcomes xs s ++ b.outcomes ys (b.leftBy xs s))
      (List.zipWith entryOf xs (b.outcomes xs s) ++
        List.zipWith entryOf ys (b.outcomes ys (b.leftBy xs s))) := by
  rw [← List.zipWith_append (b.length_outcomes xs s).symm, ← b.outcomes_append]
  refine Batch.answer_reports kind now ?_
  rw [b.outcomes_append]
  exact List.forall_mem_append.2 ⟨h₁, h₂⟩

/-! ### Batches of two lists -/

/-- Who resolves the names of a request. -/
def Batch.of (r : Resolver) (kind : NameKind) (allowReserved : Bool) : Batch :=
  ⟨r, .str kind.word, allowReserved⟩

/-- To what the handler leads if it is sent a request. -/
theorem handleBatch_asks (h : p.Serves number r w store)
    (hasks : event.Asks kind names allowReserved) (requestId : Option Json) :
    p.Leads (handleBatch event requestId)
      (.ok (Batch.answer kind.word
        (outcome ((Batch.of r kind allowReserved).entries (names.map .str)) (p.session w store))
        p.now))
      (p.leave number r store
        (left ((Batch.of r kind allowReserved).entries (names.map .str)) (p.session w store))) := by
  have hbatch : BatchRequest.batch ⟨kind.word, names.map .str, allowReserved⟩ r =
      Batch.of r kind allowReserved := rfl
  have hleads := handleBatch_leads h (hasks.screen p.now) hasks.validate requestId
  rw [hbatch] at hleads
  exact hleads

/-- A fault that ends the batch is worded as the response. -/
theorem handleBatch_ended (h : p.Serves number r w store)
    (hasks : event.Asks kind names allowReserved) (requestId : Option Json)
    (hfault : outcome ((Batch.of r kind allowReserved).entries (names.map .str))
      (p.session w store) = .error f) :
    p.Leads (handleBatch event requestId) (.ok (faultResponse f p.now).json)
      (p.leave number r store
        (left ((Batch.of r kind allowReserved).entries (names.map .str)) (p.session w store))) := by
  have hleads := handleBatch_asks h hasks requestId
  rw [hfault] at hleads
  exact hleads

/-- The handler blames the request for a fault of validation, and for a value out of range. -/
def Fault.blamesRequest : Fault → Bool
  | .validation .. | .badValue _ => true
  | _ => false

theorem statusCode_of_blames (h : f.blamesRequest = true) (now : String) :
    (faultResponse f now).json.field? "statusCode" = some (.int 400) := by
  cases f with
  | validation | badValue => rfl
  | _ => cases h

/-- Any other fault is one of the server. -/
theorem statusCode_of_not_blames (h : f.blamesRequest = false) (now : String) :
    (faultResponse f now).json.field? "statusCode" = some (.int 500) := by
  unfold faultResponse
  split
  · cases h
  · cases h
  · split <;> rfl

/-- The handler goes on where it has left off: the second of two batches is resolved in the session
that the first one has left behind. -/
theorem handleBatch_next {s : Session} (h : p.Serves number r w store)
    (hframe : s.frame = (p.session w store).frame) (hasks : event.Asks kind names allowReserved)
    (requestId : Option Json) :
    (p.leave number r store s).Leads (handleBatch event requestId)
      (.ok (Batch.answer kind.word
        (outcome ((Batch.of r kind allowReserved).entries (names.map .str)) s) p.now))
      (p.leave number r store
        (left ((Batch.of r kind allowReserved).entries (names.map .str)) s)) := by
  have hleads := handleBatch_asks (h.leave hframe) hasks requestId
  rw [h.session_leave hframe, Program.leave_now,
    h.leave_leave hframe ((Batch.of r kind allowReserved).frame_entries _ s)] at hleads
  exact hleads

/-- What comes of two batches, one after the other, and what comes of both at once. -/
theorem handleBatch_twice (h : p.Serves number r w store)
    (hfirst : first.Asks kind xs allowReserved) (hsecond : second.Asks kind ys allowReserved)
    (hboth : both.Asks kind (xs ++ ys) allowReserved) (id₁ id₂ id : Option Json) :
    let b := Batch.of r kind allowReserved
    let s := p.session w store
    let s₁ := left (b.entries (xs.map .str)) s
    ∃ p₁ p₂ q,
      handleBatch first id₁ p =
        .ok (Batch.answer kind.word (outcome (b.entries (xs.map .str)) s) p.now) p₁ ∧
      (p.leave number r store s₁).SameButLog p₁ ∧
      handleBatch second id₂ p₁ =
        .ok (Batch.answer kind.word (outcome (b.entries (ys.map .str)) s₁) p.now) p₂ ∧
      (p.leave number r store (left (b.entries (ys.map .str)) s₁)).SameButLog p₂ ∧
      handleBatch both id p =
        .ok (Batch.answer kind.word (outcome (b.entries ((xs ++ ys).map .str)) s) p.now) q ∧
      (p.leave number r store (left (b.entries ((xs ++ ys).map .str)) s)).SameButLog q := by
  intro b s s₁
  obtain ⟨p₁, hrun₁, hlog₁⟩ := (handleBatch_asks h hfirst id₁).run
  obtain ⟨p₂, hlog₂, hrun₂⟩ := handleBatch_next h (b.frame_entries _ s) hsecond id₂ p₁ hlog₁
  obtain ⟨q, hrun, hlog⟩ := (handleBatch_asks h hboth id).run
  exact ⟨p₁, p₂, q, hrun₁, hlog₁, hrun₂, hlog₂, hrun, hlog⟩

/-- A batch of two lists is as good as two batches, one after the other, unless a fault that is none
of the library's own ends it. -/
theorem handleBatch_append (h : p.Serves number r w store)
    (hfirst : first.Asks kind xs allowReserved) (hsecond : second.Asks kind ys allowReserved)
    (hboth : both.Asks kind (xs ++ ys) allowReserved) (id₁ id₂ id : Option Json) :
    let b := Batch.of r kind allowReserved
    let s := p.session w store
    let outs₁ := b.outcomes (xs.map .str) s
    let outs₂ := b.outcomes (ys.map .str) (b.leftBy (xs.map .str) s)
    ∃ a₁ a₂ a p₁ p₂ q, handleBatch first id₁ p = .ok a₁ p₁ ∧ handleBatch second id₂ p₁ = .ok a₂ p₂ ∧
      handleBatch both id p = .ok a q ∧
      ((∀ o ∈ outs₁ ++ outs₂, o.IsTolerated) → p₂.SameButLog q ∧
        ∃ e₁ e₂, a₁.Reports (xs.map .str) outs₁ e₁ ∧ a₂.Reports (ys.map .str) outs₂ e₂ ∧
          a.Reports ((xs ++ ys).map .str) (outs₁ ++ outs₂) (e₁ ++ e₂) ∧
          a.tally? "failed" =
            some (.int ((e₁.filter isFailed).length + (e₂.filter isFailed).length))) ∧
      ((∃ o ∈ outs₁, ¬ o.IsTolerated) → a = a₁ ∧ p₁.SameButLog q) ∧
      ((∀ o ∈ outs₁, o.IsTolerated) → (∃ o ∈ outs₂, ¬ o.IsTolerated) → a = a₂ ∧
        p₂.SameButLog q) := by
  intro b s outs₁ outs₂
  obtain ⟨p₁, p₂, q, hrun₁, hlog₁, hrun₂, hlog₂, hrun, hlog⟩ :=
    handleBatch_twice h hfirst hsecond hboth id₁ id₂ id
  rw [List.map_append] at hrun hlog ⊢
  -- either nothing ends the batch of both lists, or what ends it is in one of the two
  refine ⟨_, _, _, p₁, p₂, q, hrun₁, hrun₂, hrun, fun htolerated => ?_, fun hended => ?_,
    fun htolerated hended => ?_⟩
  · obtain ⟨htolerated₁, htolerated₂⟩ := List.forall_mem_append.1 htolerated
    have hreports := Batch.answer_append kind.word p.now htolerated₁ htolerated₂
    obtain ⟨-, hleft⟩ := Batch.entries_append_ok (Batch.outcome_entries htolerated₁).1 (ys.map .str)
    rw [hleft] at hlog
    refine ⟨hlog₂.symm.trans hlog, _, _, Batch.answer_reports kind.word p.now htolerated₁,
      Batch.answer_next kind.word p.now htolerated₁ htolerated₂, hreports, ?_⟩
    rw [hreports.failed, List.filter_append, List.length_append, Int.natCast_add]
  · obtain ⟨hwhole, hleft⟩ := Batch.append_of_first_ended hended (ys.map .str)
    rw [hleft] at hlog
    exact ⟨by rw [hwhole], hlog₁.symm.trans hlog⟩
  · obtain ⟨hwhole, hleft⟩ := Batch.append_of_second_ended htolerated hended
    rw [hleft] at hlog
    exact ⟨by rw [hwhole], hlog₂.symm.trans hlog⟩

/-- Two names that differ in case only, in one batch and in two. -/
theorem handleBatch_append_anns :
    (Program.serving .standard (.memory .empty) none).Serves 1 .standard .standard 0 ∧
      ∃ a₁ a₂ a p₁ p₂ q e₁ e₂,
        handleBatch (.asking ["Ann"]) none (Program.serving .standard (.memory .empty) none) =
          .ok a₁ p₁ ∧
        handleBatch (.asking ["ann"]) none p₁ = .ok a₂ p₂ ∧
        handleBatch (.asking ["Ann", "ann"]) none
          (Program.serving .standard (.memory .empty) none) =
          .ok a q ∧
        p₂.SameButLog q ∧ (a₁.field? "data").bind (·.field? "resolved") = some (.arr e₁) ∧
        (a₂.field? "data").bind (·.field? "resolved") = some (.arr e₂) ∧
        (a.field? "data").bind (·.field? "resolved") = some (.arr (e₁ ++ e₂)) ∧
        a.tally? "count" = some (.int 2) := by
  have hserves := Program.serves_serving .standard (.memory .empty) none
  obtain ⟨a₁, a₂, a, p₁, p₂, q, hrun₁, hrun₂, hrun, hwhole, -, -⟩ :=
    handleBatch_append hserves (Json.asks_asking ["Ann"]) (Json.asks_asking ["ann"])
      (Json.asks_asking ["Ann", "ann"]) none none none
  obtain ⟨hlog, e₁, e₂, hfirst, hsecond, hboth, -⟩ := hwhole (by decide +kernel)
  exact ⟨hserves, a₁, a₂, a, p₁, p₂, q, e₁, e₂, hrun₁, hrun₂, hrun, hlog, hfirst.resolved,
    hsecond.resolved, hboth.resolved, hboth.count⟩

end Namesake
