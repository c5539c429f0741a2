import Namesake.Proofs.Registry.Claim

/-!
# Table operations that fail

The four operations on a table make one request each. If the request fails, the table stays as it
is. A fault that answers the question of the operation is an answer: a conditional write that was
refused, and a look-up without a row. Any other fault of the table is raised as a fault of the
store, which tells the operation, the table, the text of the fault and whether to try again. Faults
that are none of the table's are raised as they are.

## Main definitions

* `TableOp`, `TableAnswer` — an operation on a table, and what it answers
* `TableOp.answerTo?` — the faults that answer the question of an operation
* `TableOp.refusal?` — the tables that answer it so
* `Fault.told` — the fault that is raised in place of one that occurred

## Main results

* `TableOp.perform_fails` — how an operation ends whose request fails
* `TableOp.perform_refused` — how one ends that the table refuses, though its request does not fail
-/

open Namesake.Task

namespace Namesake

/-- The operations on a table. -/
inductive TableOp where
  /-- Inserts a name unless either kind holds it. -/
  | claim (name : Text) (kind : NameKind) (display : Option Text)
  /-- Looks the row of a name up. -/
  | look (name : Text)
  /-- Deletes the row of a name if the kind with a word holds it. -/
  | release (name : Text) (kind : String)
  /-- Goes through the names of a kind. -/
  | scan (kind : NameKind)

/-- What operations on a table answer. -/
inductive TableAnswer where
  | truth (b : Bool)
  | row (row : Option Row)
  | names (l : List Text)

/-- The fault that a caller is told in place of one that has ended an operation on a table. -/
def Fault.told (f : Fault) (operation table : String) : Fault :=
  if f.isTableFault then storeFault f (.str operation) (.str table) else f

/-- Of a fault of the table a caller is told its judgement. -/
theorem Fault.told_of_table {f : Fault} (h : f.isTableFault = true) (operation table : String) :
    f.told operation table = .store (.str (judge f (.str operation)).message)
      ⟨.str operation, .str table, .str f.text, .bool (judge f (.str operation)).retryable⟩ :=
  if_pos h

/-- Any other fault he is told as it is. -/
theorem Fault.told_of_foreign {f : Fault} (h : f.isTableFault = false) (operation table : String) :
    f.told operation table = f :=
  if_neg (Bool.eq_false_iff.1 h)

namespace TableOp

variable {s : Session} {f : Fault}

/-- The request that an operation makes. -/
def request : TableOp → StoreRequest
  | claim .. => .save
  | look _ => .get
  | release .. => .delete
  | scan _ => .scan

/-- The word for an operation, as callers are told it. -/
def word : TableOp → String
  | claim .. => "claim"
  | look _ => "get_used"
  | release .. => "release"
  | scan _ => "iter_names"

/-- Performs an operation. -/
def perform (rows : Table) : TableOp → Task TableAnswer
  | claim name kind display => return .truth (← Registry.claimRow rows name kind display)
  | look name => return .row (← Registry.usedRow? rows name)
  | release name kind => return .truth (← Registry.releaseRow rows name kind)
  | scan kind => return .names (← Registry.scanNames rows kind)

/-- The answer of an operation whose request has failed, if the fault answers its question: a write
was refused because of the row that is there or is missing, or there is no row to be looked up. -/
def answerTo? : TableOp → Fault → Option TableAnswer
  | claim .., f | release .., f =>
    if f.isTableFault && f.isConditional then some (.truth false) else none
  | look _, .itemMissing _ => some (.row none)
  | look _, _ | scan _, _ => none

/-- A request fails as it is going to, or is answered, and nothing else happens before the operation
goes on. -/
theorem request_next {α : Type} {request : StoreRequest} {failed : Option Fault}
    {k : Option Fault → Task α} {ok : α → Session → Prop} {bad : Fault → Session → Prop}
    (hf : s.shared.outage.next request = failed)
    (hk : ∀ m, s.Looks m → m.shared.tableName = s.shared.tableName → Ends (k failed) m ok bad) :
    Ends (Task.request request >>= k) s ok bad := by
  rw [Task.request, ends_bind, ends_bind, ends_get, ends_bind, ends_set, ends_pure, hf]
  exact hk _ ⟨rfl, rfl, rfl⟩ rfl

/-- A failed operation leaves its traces in the log and raises the fault for the caller. -/
theorem fail_told {α : Type} (logged operation : String) (context : Fields) (f : Fault) :
    Ends (Registry.fail logged operation context f : Task α) s (fun _ _ => False)
      (fun g s' => g = f.told operation s.shared.tableName ∧ s.Looks s') := by
  unfold Registry.fail Fault.told
  split
  · rw [ends_bind, ends_get, ends_bind]
    refine (Registry.note_ends _).mono (fun _ m hm => ?_) fun _ _ hf => hf.elim
    rw [ends_bind]
    refine (Registry.note_ends _).mono (fun _ m' hm' => ?_) fun _ _ hf => hf.elim
    exact ⟨rfl, hm.trans hm'⟩
  · exact ⟨rfl, .refl s⟩

/-- An operation whose request fails leaves the table as it is. Its caller gets an answer if the
fault gives one, and otherwise the fault that is told in its place. -/
theorem perform_fails (op : TableOp) (rows : Table)
    (hf : s.shared.outage.next op.request = some f) :
    Ends (op.perform rows) s
      (fun answer s' => op.answerTo? f = some answer ∧ s.Looks s')
      (fun g s' => op.answerTo? f = none ∧ g = f.told op.word s.shared.tableName ∧ s.Looks s') := by
  -- the fault that is not an answer is raised in the same way by all of them
  have hraise : ∀ {α : Type} {k : α → Task TableAnswer} {m : Session} (logged : String)
      (context : Fields), s.Looks m → m.shared.tableName = s.shared.tableName →
      op.answerTo? f = none →
      Ends (Registry.fail logged op.word context f >>= k) m
        (fun answer s' => op.answerTo? f = some answer ∧ s.Looks s')
        (fun g s' => op.answerTo? f = none ∧ g = f.told op.word s.shared.tableName ∧
          s.Looks s') := by
    intro α k m logged context hm htable hnone
    rw [ends_bind, ← htable]
    exact (fail_told logged op.word context f).mono (fun _ _ h => h.elim) fun _ _ h =>
      ⟨hnone, h.1, hm.trans h.2⟩
  cases op with
  | claim name kind display =>
    rw [perform, Registry.claimRow, Registry.saveRow, bind_assoc, bind_assoc]
    refine request_next hf fun m hm htable => ?_
    dsimp only
    rw [pure_bind]
    dsimp only
    split
    · rename_i hrefused
      rw [bind_assoc, ends_bind]
      refine (Registry.noteDebug_ends _ _).mono (fun _ s' h => ?_) fun _ _ h => h.elim
      exact ⟨if_pos hrefused, hm.trans h⟩
    · rename_i hrefused
      exact hraise _ _ hm htable (if_neg hrefused)
  | look name =>
    rw [perform, Registry.usedRow?, bind_assoc]
    refine request_next hf fun m hm htable => ?_
    split
    · rename_i heq
      obtain rfl := Option.some.inj heq
      exact ⟨rfl, hm⟩
    · rename_i g hmissing heq
      obtain rfl := Option.some.inj heq
      refine hraise _ _ hm htable ?_
      unfold answerTo?
      split <;> simp_all
    · rename_i heq
      cases heq
  | release name kind =>
    rw [perform, Registry.releaseRow, bind_assoc]
    refine request_next hf fun m hm htable => ?_
    dsimp only
    split
    · rename_i hrefused
      exact ⟨if_pos hrefused, hm⟩
    · rename_i hrefused
      exact hraise _ _ hm htable (if_neg hrefused)
  | scan kind =>
    rw [perform, Registry.scanNames, bind_assoc]
    exact request_next hf fun m hm htable => hraise _ _ hm htable rfl

/-- The answer of an operation that the table refuses without a fault of the service: the name is
held already, or there is no row to be found or to be deleted. -/
def refusal? (rows : Table) : TableOp → Option TableAnswer
  | claim name .. => if rows.contains name then some (.truth false) else none
  | look name => if rows.contains name then none else some (.row none)
  | release name kind =>
    if (rows.get? name).any fun row => row.kind.word = kind then none else some (.truth false)
  | scan _ => none

/-- An operation that the table refuses leaves it as it is as well. -/
theorem perform_refused (op : TableOp) {rows : Table} {answer : TableAnswer}
    (hnone : s.shared.outage.next op.request = none) (h : op.refusal? rows = some answer) :
    Ends (op.perform rows) s (fun a s' => a = answer ∧ s.Looks s') (fun _ _ => False) := by
  cases op with
  | claim name kind display =>
    dsimp only [refusal?] at h
    split at h
    · rename_i hheld
      rw [perform, Registry.claimRow, Registry.saveRow, bind_assoc, bind_assoc]
      refine request_next hnone fun m hm _ => ?_
      dsimp only
      have hconditional : (Fault.isTableFault (.table .put "Failed to put item"
          (some (.str conditionalCode))) && Fault.isConditional (.table .put "Failed to put item"
          (some (.str conditionalCode)))) = true := rfl
      rw [if_pos hheld, pure_bind]
      dsimp only
      rw [if_pos hconditional, bind_assoc, ends_bind]
      refine (Registry.noteDebug_ends _ _).mono (fun _ s' h' => ?_) fun _ _ hf => hf.elim
      exact ⟨Option.some.inj h, hm.trans h'⟩
    · cases h
  | look name =>
    dsimp only [refusal?] at h
    split at h
    · cases h
    · rename_i hmissing
      rw [perform, Registry.usedRow?, bind_assoc]
      refine request_next hnone fun m hm _ => ?_
      have hrow : rows.get? name = none := by
        rw [Std.TreeMap.contains_eq_isSome_getElem?] at hmissing
        simpa using hmissing
      dsimp only
      rw [hrow]
      exact ⟨Option.some.inj h, hm⟩
  | release name kind =>
    dsimp only [refusal?] at h
    split at h
    · cases h
    · rename_i hother
      rw [perform, Registry.releaseRow, bind_assoc]
      refine request_next hnone fun m hm _ => ?_
      dsimp only
      cases hrow : rows.get? name with
      | none => exact ⟨Option.some.inj h, hm⟩
      | some row =>
        rw [hrow, Option.any_some, decide_eq_true_eq] at hother
        dsimp only
        rw [if_neg hother]
        exact ⟨Option.some.inj h, hm⟩
  | scan kind => cases h

end TableOp

end Namesake
