import Namesake.Proofs.Resolver.Likeness

/-!
# The log has no say

Resolvers write to the log and never read it, and they do not look whether entries of the lowest
level are kept. So sessions that differ in nothing else are alike, as long as what is said of their
logs is still true when both have been offered one more entry: whatever is done in both of them ends
alike, and leaves sessions behind that differ in nothing else. Nor does a resolver change the time,
the name of the table, whether entries of the lowest level are kept, or of which sort the store is.

## Main definitions

* `Journal` — the log of a session, and whether it keeps entries of the lowest level
* `Session.withLog`, `Session.SameButLog` — sessions that differ in nothing but their logs
* `Shared.Frame` — what does not change
* `Likeness.journals` — the sessions of one frame that differ in nothing but related journals
* `Likeness.log` — the sessions of one frame that differ in nothing but their logs

## Main results

* `journals_answers` — whatever a resolver asks is answered alike, whatever is written
* `Resolver.resolve_journals`, `Resolver.resolve_log` — a request ends alike, whatever is written
-/

open Namesake.Task

namespace Namesake

/-- Are these sets in memory? -/
def Store.isMemory : Store → Bool
  | memory _ => true
  | table _ => false

/-- One more name does not change the sort of a store. -/
theorem Store.insert_isMemory {store : Store} {kind : NameKind} {name : Text}
    {display : Option Text} {now : String} :
    (store.insert kind name display now).isMemory = store.isMemory := by
  cases store <;> rfl

/-- What does not change while resolvers work. -/
structure Shared.Frame where
  /-- Are entries of the lowest level kept? -/
  debug : Bool
  /-- The name of the table. -/
  tableName : String
  /-- The time. -/
  now : String
  /-- Is the store in memory? -/
  isMemory : Bool

/-- What of a session does not change. -/
def Session.frame (s : Session) : Shared.Frame :=
  ⟨s.shared.debug, s.shared.tableName, s.shared.now, s.shared.store.isMemory⟩

/-- The session with another log. -/
def Session.withLog (s : Session) (log : List LogEntry) : Session :=
  { s with shared := { s.shared with log } }

/-- The sessions differ in nothing but their logs. -/
def Session.SameButLog (s s' : Session) : Prop :=
  ∃ log, s' = s.withLog log

namespace Session.SameButLog

variable {s s' s'' : Session}

theorem refl (s : Session) : s.SameButLog s :=
  ⟨s.shared.log, rfl⟩

theorem trans (h : s.SameButLog s') (h' : s'.SameButLog s'') : s.SameButLog s'' := by
  obtain ⟨log, rfl⟩ := h
  obtain ⟨log', rfl⟩ := h'
  exact ⟨log', rfl⟩

end Session.SameButLog

/-- Sessions of one frame that differ in nothing but their logs. -/
def Likeness.log (frame : Shared.Frame) : Likeness :=
  ⟨fun s s' => s.SameButLog s' ∧ s.frame = frame, Eq⟩

/-! ### Journals -/

/-- The log of a session, and whether it keeps entries of the lowest level. -/
structure Journal where
  /-- Are entries of the lowest level kept? -/
  debug : Bool
  /-- The log. -/
  log : List LogEntry

/-- The journal that has been offered an entry. -/
def Journal.note (j : Journal) (e : LogEntry) : Journal :=
  if e.level = .debug ∧ j.debug = false then j else { j with log := j.log ++ [e] }

/-- An entry does not change whether entries of the lowest level are kept. -/
theorem Journal.note_debug (j : Journal) (e : LogEntry) : (j.note e).debug = j.debug := by
  unfold note
  split <;> rfl

/-- What is said of two journals is still true when both have been offered one more entry. -/
def Journal.IsKept (R : Journal → Journal → Prop) : Prop :=
  ∀ e j j', R j j' → R (j.note e) (j'.note e)

/-- The journal of a session. -/
def Session.journal (s : Session) : Journal :=
  ⟨s.shared.debug, s.shared.log⟩

/-- The session with another journal. -/
def Session.withJournal (s : Session) (j : Journal) : Session :=
  { s with shared := { s.shared with debug := j.debug, log := j.log } }

/-- Writing an entry offers it to the journal, and does nothing else. -/
theorem Task.note_journal (e : LogEntry) (s : Session) :
    Task.note e s = .ok () (s.withJournal (s.journal.note e)) := by
  have hends : Task.note e s = .ok () (if e.level = .debug ∧ s.shared.debug = false then s
      else s.withLog (s.shared.log ++ [e])) := rfl
  have hnote : s.journal.note e = if e.level = .debug ∧ s.shared.debug = false then s.journal
      else ⟨s.shared.debug, s.shared.log ++ [e]⟩ := rfl
  rw [hends, hnote]
  split <;> rfl

/-- Sessions of one frame that differ in nothing but related journals. The frame is that of the
first session. -/
def Likeness.journals (R : Journal → Journal → Prop) (frame : Shared.Frame) : Likeness :=
  ⟨fun s s' => ∃ j, s' = s.withJournal j ∧ R s.journal j ∧ s.frame = frame, Eq⟩

/-- Sessions that differ in nothing but their logs keep the same entries. -/
theorem Likeness.log_eq (frame : Shared.Frame) :
    Likeness.log frame = .journals (fun j j' => j.debug = j'.debug) frame := by
  have hsessions : ∀ s s' : Session, (s.SameButLog s' ∧ s.frame = frame) =
      ∃ j, s' = s.withJournal j ∧ s.journal.debug = j.debug ∧ s.frame = frame := by
    intro s s'
    apply propext
    constructor
    · rintro ⟨⟨log, rfl⟩, hframe⟩
      exact ⟨⟨s.shared.debug, log⟩, rfl, rfl, hframe⟩
    · rintro ⟨⟨_, log⟩, rfl, rfl, hframe⟩
      exact ⟨⟨log, rfl⟩, hframe⟩
  unfold Likeness.log Likeness.journals
  congr 1
  funext s s'
  exact hsessions s s'

variable {R : Journal → Journal → Prop} {frame : Shared.Frame} {s s' : Session}

/-- What is done after a look at the session ends alike if it does not depend on the journal. -/
theorem Task.Respects.get_journals {α : Type} {k : Session → Task α}
    (hblind : ∀ s j, k (s.withJournal j) = k s)
    (hk : ∀ s, s.frame = frame → Respects (.journals R frame) (k s)) :
    Respects (.journals R frame) ((MonadState.get : Task Session) >>= k) := by
  refine .get fun s s' h => ?_
  obtain ⟨j, rfl, -, hframe⟩ := id h
  rw [hblind]
  exact hk s hframe _ _ h

/-! ### The registry -/

namespace Registry

theorem request_journals (request : StoreRequest) :
    Respects (.journals R frame) (Task.request request) := by
  rintro s _ ⟨j, rfl, hR, hframe⟩
  exact ⟨rfl, j, rfl, hR, hframe⟩

/-- A store is replaced by one of the same sort. -/
theorem setStore_journals {store : Store} (hsort : frame.isMemory = store.isMemory) :
    Respects (.journals R frame) (Task.setStore store) := by
  rintro s _ ⟨j, rfl, hR, rfl⟩
  refine ⟨rfl, j, rfl, hR, ?_⟩
  show (⟨s.shared.debug, s.shared.tableName, s.shared.now, store.isMemory⟩ : Shared.Frame) = s.frame
  rw [← hsort]
  rfl

variable (hR : Journal.IsKept R)

include hR

theorem note_journals (e : LogEntry) : Respects (.journals R frame) (Task.note e) := by
  rintro s _ ⟨j, rfl, hj, hframe⟩
  unfold Alike
  rw [Task.note_journal, Task.note_journal]
  refine ⟨rfl, j.note e, rfl, hR e _ _ hj, ?_⟩
  rw [← hframe]
  show (⟨(s.journal.note e).debug, _, _, _⟩ : Shared.Frame) = s.frame
  rw [Journal.note_debug]
  rfl

theorem fail_journals {α : Type} (logged operation : String) (context : Fields) (f : Fault) :
    Respects (.journals R frame) (fail logged operation context f : Task α) := by
  unfold fail
  split
  · refine .get_journals (fun _ _ => rfl) fun s _ => ?_
    exact (note_journals hR _).bind fun _ => (note_journals hR _).bind fun _ => .throw rfl
  · exact .throw rfl

theorem claimRow_journals (htable : frame.isMemory = false) (rows : Table) (name : Text)
    (kind : NameKind) (display : Option Text) :
    Respects (.journals R frame) (claimRow rows name kind display) := by
  have hsave : Respects (.journals R frame) (saveRow rows name kind display) := by
    refine (request_journals .save).bind fun failed => ?_
    cases failed with
    | some f => exact .pure _
    | none =>
      dsimp only
      split
      · exact .pure _
      · refine .get_journals (fun _ _ => rfl) fun s _ => ?_
        exact (setStore_journals (by exact htable)).bind fun _ => .pure _
  refine hsave.bind fun failed => ?_
  cases failed with
  | none => exact (note_journals hR _).bind fun _ => .pure _
  | some f =>
    dsimp only
    split
    · exact (note_journals hR _).bind fun _ => .pure _
    · exact fail_journals hR _ _ _ f

theorem isUsed_journals (name : Text) : Respects (.journals R frame) (isUsed name) := by
  refine .get_journals (fun _ _ => rfl) fun s _ => ?_
  split
  · exact .pure _
  · refine Respects.bind ((request_journals .get).bind fun failed => ?_) fun _ => .pure _
    split
    · exact .pure _
    · exact fail_journals hR _ _ _ _
    · exact .pure _

theorem insertNew_journals (kind : NameKind) (name : Text) (display : Option Text) :
    Respects (.journals R frame) (insertNew kind name display) := by
  refine .get_journals (fun _ _ => rfl) fun s hframe => ?_
  split
  · rename_i sets hstore
    split
    · exact (note_journals hR _).bind fun _ => .pure _
    · refine (setStore_journals ?_).bind fun _ => .pure _
      rw [← hframe, Session.frame, hstore]
      rfl
  · rename_i rows hstore
    refine claimRow_journals hR ?_ rows name kind display
    rw [← hframe, Session.frame, hstore]
    rfl

omit hR in
/-- What another worker takes depends on the store alone, and stays in a store of the same sort. -/
theorem yieldTo_journals (theft : Theft) : Respects (.journals R frame) (yieldTo theft) := by
  refine .modify fun s s' h => ?_
  obtain ⟨j, rfl, hj, hframe⟩ := id h
  have hstore : (s.withJournal j).shared.store = s.shared.store := rfl
  dsimp only
  rw [hstore]
  split
  · exact h
  · refine ⟨j, rfl, hj, ?_⟩
    rw [← hframe, Session.frame, Session.frame, Store.insert_isMemory]

omit hR in
/-- What others do to a claim depends on what they are about to take. -/
theorem interfere_journals (name : Text) : Respects (.journals R frame) (interfere name) := by
  refine .get fun s s' h => ?_
  obtain ⟨j, rfl, hj, hframe⟩ := id h
  have hcontention : (s.withJournal j).worker.contention = s.worker.contention := rfl
  have htable : (s.withJournal j).shared.tableName = s.shared.tableName := rfl
  dsimp only
  rw [hcontention, htable]
  split
  · exact alike_throw h rfl
  · split
    · exact yieldTo_journals _ _ _ ⟨j, rfl, hj, hframe⟩
    · exact alike_pure h ()

theorem claim_journals (kind : NameKind) (name : Text) (display : Option Text) :
    Respects (.journals R frame) (claim kind name display) :=
  (interfere_journals name).bind fun _ => insertNew_journals hR kind name display

end Registry

/-! ### Resolvers -/

/-- What a worker keeps for itself is changed alike. -/
theorem modifyWorker_journals (g : Worker → Worker) :
    Respects (.journals R frame) (modify fun s => { s with worker := g s.worker } :
      Task PUnit) := by
  rintro s _ ⟨j, rfl, hj, hframe⟩
  exact ⟨rfl, j, rfl, hj, hframe⟩

/-- Whatever a resolver asks is answered alike, whatever is written. -/
theorem journals_answers (hR : Journal.IsKept R) (frame : Shared.Frame) :
    (Likeness.journals R frame).Answers where
  isUsed := Registry.isUsed_journals hR
  claim := Registry.claim_journals hR
  note := Registry.note_journals hR
  lastSuffix := fun base => .modifyGet fun _ _ ⟨j, h, hj, hframe⟩ => by
    subst h
    exact ⟨rfl, j, rfl, hj, hframe⟩
  recordSuffix := fun base suffix => .get_journals (fun _ _ => rfl) fun s _ =>
    (Respects.lift fun _ _ => rfl).bind fun suffixes =>
      modifyWorker_journals fun w => { w with suffixes }
  cutLength? := fun base limit => .modifyGet fun _ _ ⟨j, h, hj, hframe⟩ => by
    subst h
    exact ⟨rfl, j, rfl, hj, hframe⟩
  recordCut := fun base limit length => .get_journals (fun _ _ => rfl) fun s _ =>
    (Respects.lift fun _ _ => rfl).bind fun truncations =>
      modifyWorker_journals fun w => { w with truncations }
  losses := fun s _ ⟨j, h, _⟩ => by
    subst h
    rfl
  faults := fun _ _ => rfl

/-- A request ends alike, whatever is written, and what does not change stays as it is. -/
theorem Resolver.resolve_journals (hR : Journal.IsKept R) (r : Resolver) (req : Request) :
    Respects (.journals R frame) (r.resolve req) :=
  resolve_respects (journals_answers hR frame) r req fun _ _ => rfl

/-! ### Logs alone -/

/-- Journals go on keeping the same entries. -/
theorem isKept_debug : Journal.IsKept fun j j' => j.debug = j'.debug := by
  intro e j j' h
  rw [Journal.note_debug, Journal.note_debug]
  exact h

theorem Registry.note_log (e : LogEntry) : Respects (.log frame) (Task.note e) :=
  Likeness.log_eq frame ▸ note_journals isKept_debug e

/-- A request ends alike, whatever the log, and what does not change stays as it is. -/
theorem Resolver.resolve_log (r : Resolver) (req : Request) :
    Respects (.log frame) (r.resolve req) :=
  Likeness.log_eq frame ▸ resolve_journals isKept_debug r req

end Namesake
