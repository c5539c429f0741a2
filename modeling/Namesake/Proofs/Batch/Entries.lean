import Namesake.Batch.Handler
import Namesake.Proofs.Resolver.Log

/-!
# The entries of a batch

The names of a batch are resolved one after the other, and each resolution finds what the earlier
ones have left behind, whether these have given a name or not. A fault of the library's own becomes
an entry; any other fault ends the batch. So as long as there is no other, there is one entry for
each name, in order, which tells how the resolution of that name has ended.

## Main definitions

* `Batch` — who resolves names, of which kind, and whether they may be reserved
* `Batch.outcomes`, `Batch.leftBy` — how the resolutions end, and what they leave behind
* `Outcome.IsTolerated` — a resolution ends with a name or with a fault of the library's own
* `entryOf` — the entry that tells how a resolution has ended

## Main results

* `Batch.entries_ends` — the entries tell how the resolutions have ended, unless a fault ends the
  batch
* `Batch.entries_append` — the entries for two lists are those for the first and then those for the
  second
-/

open Namesake.Task

namespace Namesake

/-- How a resolution ends for its caller. -/
abbrev Outcome := Except Fault ResolvedName

namespace Outcome

/-- Has the resolution no name to give? -/
def isFault : Outcome → Bool
  | .ok _ => false
  | .error _ => true

/-- The resolution ends with a name or with a fault of the library's own. -/
def IsTolerated : Outcome → Prop
  | .ok _ => True
  | .error f => f.isOwn = true

instance : DecidablePred IsTolerated
  | .ok _ => .isTrue trivial
  | .error f => inferInstanceAs (Decidable (f.isOwn = true))

end Outcome

/-- An attempt ends with the outcome of the task. -/
theorem Task.attempt_ends {α : Type} (t : Task α) (s : Session) :
    Ends t.attempt s (fun o s' => o = outcome t s ∧ s' = left t s) (fun _ _ => False) := by
  unfold Ends Task.attempt outcome left
  cases t s with
  | ok a m => exact ⟨rfl, rfl⟩
  | error f m => exact ⟨rfl, rfl⟩

/-! ### One entry -/

/-- The entry that tells how the resolution of a name has ended. -/
def entryOf (raw : Json) : Outcome → Json
  | .ok name => resolvedEntry raw name
  | .error f => failedEntry raw f

/-- Every entry tells for which name it is. -/
theorem entryOf_original (raw : Json) (o : Outcome) :
    (entryOf raw o).field? "original" = some raw := by
  cases o <;> rfl

/-- An entry reports an error if the resolution has given no name, and only then. -/
theorem isFailed_entryOf (raw : Json) (o : Outcome) : isFailed (entryOf raw o) = o.isFault := by
  cases o <;> rfl

/-- The entries for names tell for which names they are, in order. -/
theorem map_original {names : List Json} {outs : List Outcome} (h : names.length = outs.length) :
    ((List.zipWith entryOf names outs).map fun entry => entry.field? "original") =
      names.map some := by
  induction names generalizing outs with
  | nil => rfl
  | cons raw names ih =>
    cases outs with
    | nil => cases h
    | cons o outs =>
      rw [List.zipWith_cons_cons, List.map_cons, List.map_cons, entryOf_original,
        ih (Nat.succ.inj h)]

/-- Those report an error for which a resolution has given no name. -/
theorem map_isFailed {names : List Json} {outs : List Outcome} (h : names.length = outs.length) :
    (List.zipWith entryOf names outs).map isFailed = outs.map Outcome.isFault := by
  induction names generalizing outs with
  | nil =>
    rw [List.length_eq_zero_iff.1 h.symm]
    rfl
  | cons raw names ih =>
    cases outs with
    | nil => cases h
    | cons o outs =>
      rw [List.zipWith_cons_cons, List.map_cons, List.map_cons, isFailed_entryOf,
        ih (Nat.succ.inj h)]

/-! ### The resolutions of a batch -/

/-- Who resolves the names of a batch, of which kind they are, and whether they may be reserved. -/
structure Batch where
  /-- The resolver. -/
  resolver : Resolver
  /-- The word for the kind. -/
  kind : Json
  /-- May the names be reserved ones? -/
  allowReserved : Bool

namespace Batch

variable {b : Batch} {raw : Json} {names xs ys : List Json} {s s' : Session}
variable {frame : Shared.Frame}

/-- Resolves one name. -/
def resolve (b : Batch) (raw : Json) : Task ResolvedName :=
  resolveForm b.resolver (nameForm b.resolver b.kind b.allowReserved raw)

/-- How the resolutions of the names end, one after the other. -/
def outcomes (b : Batch) : List Json → Session → List Outcome
  | [], _ => []
  | raw :: names, s => outcome (b.resolve raw) s :: outcomes b names (left (b.resolve raw) s)

/-- What the resolutions of the names leave behind. -/
def leftBy (b : Batch) : List Json → Session → Session
  | [], s => s
  | raw :: names, s => leftBy b names (left (b.resolve raw) s)

/-- The entries for the names. -/
def entries (b : Batch) (names : List Json) : Task (List Json) :=
  resolveNames b.resolver b.kind names b.allowReserved

theorem length_outcomes (b : Batch) (names : List Json) (s : Session) :
    (b.outcomes names s).length = names.length := by
  induction names generalizing s with
  | nil => rfl
  | cons raw names ih => exact congrArg (· + 1) (ih _)

theorem outcomes_append (b : Batch) (xs ys : List Json) (s : Session) :
    b.outcomes (xs ++ ys) s = b.outcomes xs s ++ b.outcomes ys (b.leftBy xs s) := by
  induction xs generalizing s with
  | nil => rfl
  | cons raw xs ih => exact congrArg (_ :: ·) (ih _)

/-! ### Whatever the log -/

theorem resolve_log (b : Batch) (raw : Json) : Respects (.log frame) (b.resolve raw) := by
  unfold resolve resolveForm
  split
  · exact b.resolver.resolve_log _
  · exact .throw rfl

/-- One resolution ends alike, whatever the log. -/
theorem outcome_log (b : Batch) (raw : Json) (h : s.SameButLog s') :
    outcome (b.resolve raw) s = outcome (b.resolve raw) s' ∧
      (left (b.resolve raw) s).SameButLog (left (b.resolve raw) s') := by
  have halike := b.resolve_log raw s s' ⟨h, rfl⟩
  obtain ⟨hout, hleft⟩ := halike.outcome_eq fun _ _ hfg => hfg
  exact ⟨hout, hleft.1⟩

/-- So do any number of them. -/
theorem outcomes_log (b : Batch) (names : List Json) (h : s.SameButLog s') :
    b.outcomes names s = b.outcomes names s' ∧
      (b.leftBy names s).SameButLog (b.leftBy names s') := by
  induction names generalizing s s' with
  | nil => exact ⟨rfl, h⟩
  | cons raw names ih =>
    obtain ⟨hout, hleft⟩ := b.outcome_log raw h
    obtain ⟨houts, hlefts⟩ := ih hleft
    exact ⟨by rw [outcomes, outcomes, hout, houts], hlefts⟩

/-! ### The entries -/

/-- The entry for a name tells how its resolution has ended, unless its fault ends the batch. -/
theorem resolveEntry_ends (b : Batch) (raw : Json) (s : Session) :
    Ends (resolveEntry b.resolver b.kind b.allowReserved raw) s
      (fun entry s' => Outcome.IsTolerated (outcome (b.resolve raw) s) ∧
        entry = entryOf raw (outcome (b.resolve raw) s) ∧ (left (b.resolve raw) s).SameButLog s')
      (fun f s' => outcome (b.resolve raw) s = .error f ∧ f.isOwn = false ∧
        left (b.resolve raw) s = s') := by
  rw [resolveEntry, ends_bind]
  refine (attempt_ends (b.resolve raw) s).mono (fun o m hm => ?_) fun _ _ hf => hf.elim
  obtain ⟨rfl, rfl⟩ := hm
  cases outcome (b.resolve raw) s with
  | ok name => exact ⟨trivial, rfl, .refl _⟩
  | error f =>
    dsimp only
    split
    · rename_i hown
      rw [ends_bind, Task.note, ends_modify, ends_pure]
      refine ⟨hown, rfl, ?_⟩
      split
      · exact .refl _
      · exact ⟨_, rfl⟩
    · rename_i hforeign
      exact ⟨rfl, Bool.eq_false_iff.2 hforeign, rfl⟩

/-- How a batch is ended by a fault: it is the first that is none of the library's own. -/
structure EndedBy (b : Batch) (names : List Json) (s : Session) (f : Fault) (s' : Session) :
    Prop where
  foreign : f.isOwn = false
  reached : ∃ before raw after, names = before ++ raw :: after ∧
    (∀ o ∈ b.outcomes before s, o.IsTolerated) ∧
    outcome (b.resolve raw) (b.leftBy before s) = .error f ∧
    (b.leftBy (before ++ [raw]) s).SameButLog s'

/-- There is one entry for each name, in order, which tells how its resolution has ended, unless a
fault that is none of the library's own ends the batch. -/
theorem entries_ends (b : Batch) (names : List Json) (s : Session) :
    Ends (b.entries names) s
      (fun entries s' => (∀ o ∈ b.outcomes names s, o.IsTolerated) ∧
        entries = List.zipWith entryOf names (b.outcomes names s) ∧
        (b.leftBy names s).SameButLog s')
      (fun f s' => b.EndedBy names s f s') := by
  induction names generalizing s with
  | nil => exact ⟨(fun o ho => by cases ho), rfl, .refl s⟩
  | cons raw names ih =>
    rw [entries, resolveNames, List.mapM_cons, ends_bind]
    refine (b.resolveEntry_ends raw s).mono (fun entry m hm => ?_) fun f m hm => ?_
    · obtain ⟨htolerated, rfl, hlog⟩ := hm
      -- the rest of the batch meets what the resolution has left behind, but for the log
      obtain ⟨houts, hleft⟩ := b.outcomes_log names hlog
      rw [ends_bind]
      refine (ih m).mono (fun entries s' h => ?_) fun f s' h => ?_
      · obtain ⟨hrest, rfl, hlog'⟩ := h
        rw [← houts] at hrest ⊢
        exact ⟨List.forall_mem_cons.2 ⟨htolerated, hrest⟩, rfl, hleft.trans hlog'⟩
      · obtain ⟨hforeign, before, last, after, rfl, hbefore, hfault, hlog'⟩ := h
        obtain ⟨houts', hleft'⟩ := b.outcomes_log before hlog
        rw [← (b.outcome_log last hleft').1] at hfault
        refine ⟨hforeign, raw :: before, last, after, rfl, ?_, hfault, ?_⟩
        · rw [← houts'] at hbefore
          exact List.forall_mem_cons.2 ⟨htolerated, hbefore⟩
        · exact (b.outcomes_log (before ++ [last]) hlog).2.trans hlog'
    · obtain ⟨hfault, hforeign, rfl⟩ := hm
      exact ⟨hforeign, [], raw, names, rfl, (fun o ho => by cases ho), hfault, .refl _⟩

/-- The entries for two lists are those for the first and then those for the second. -/
theorem entries_append (b : Batch) (xs ys : List Json) :
    b.entries (xs ++ ys) = do
      let first ← b.entries xs
      let second ← b.entries ys
      return first ++ second :=
  List.mapM_append

theorem entries_log (b : Batch) (names : List Json) : Respects (.log frame) (b.entries names) := by
  refine Respects.mapM (fun raw => ?_) names
  have hattempt : Respects (.log frame) (b.resolve raw).attempt := by
    intro s s' h
    obtain ⟨hout, hleft⟩ := (b.resolve_log raw s s' h).outcome_eq fun _ _ hfg => hfg
    refine .of_ends (attempt_ends _ s) (attempt_ends _ s') fun o m o' m' hm hm' => ?_
    obtain ⟨rfl, rfl⟩ := hm
    obtain ⟨rfl, rfl⟩ := hm'
    exact ⟨hout, hleft⟩
  refine hattempt.bind fun o => ?_
  cases o with
  | ok name => exact .pure _
  | error f =>
    dsimp only
    split
    · exact (Registry.note_log _).bind fun _ => .pure _
    · exact .throw rfl

/-- The entries leave a session of the same frame. -/
theorem frame_entries (b : Batch) (names : List Json) (s : Session) :
    (left (b.entries names) s).frame = s.frame :=
  ((b.entries_log names s s ⟨.refl s, rfl⟩).outcome_eq fun _ _ hfg => hfg).2.2

end Batch

end Namesake
