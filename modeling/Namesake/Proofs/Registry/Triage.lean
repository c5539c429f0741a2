import Mathlib.Logic.Basic
import Mathlib.Tactic.SplitIfs
import Namesake.Proofs.Registry.Failure

/-!
# One refusal in two wrappings

A service says by a code why it refuses a request. The refusal comes to the registry as it is, as a
fault of the service, or wrapped into a fault of the table, of the family of the request that was
made. Both are judged by the code, each by a chain of its own. A judgement depends on the code
through the cause that it names, and on the wrapping through the causes that the wrapping lets
through.

A conditional write that was refused is recognized in every wrapping. A service that is too busy is
recognized in all but the general family. A table that is not there is recognized in the bare fault
only: wrapped, it counts as a passing failure, which a caller is told to try again.

## Main definitions

* `Cause`, `Cause.of` — why a request was refused, and what a code says of it
* `TableFault.shows` — what is left of a cause in the faults of a family
* `Verdict.action`, `Fault.retryFlag?` — what a caller acts upon

## Main results

* `judge_agrees_iff` — the codes for which the two wrappings of a refusal are judged alike
* `judge_agrees_fails` — a missing table is judged differently in the fault of a look-up
* `TableOp.perform_missing` — so every operation on a missing table is to be tried again
-/

open Namesake.Task

namespace Namesake

/-- Why a service has refused a request. -/
inductive Cause where
  /-- The condition of a write does not hold. -/
  | conditional
  /-- The service is too busy. -/
  | busy
  /-- The table is not there. -/
  | missing
  /-- Anything else. -/
  | other
  deriving DecidableEq

/-- The code of a table that is not there. -/
def missingCode : String := "ResourceNotFoundException"

/-- The cause that a code names. -/
def Cause.of (code : Option Json) : Cause :=
  if isCode conditionalCode code then .conditional
  else if isThrottling code then .busy
  else if isCode missingCode code then .missing
  else .other

/-- The status of the response to a cause, and whether to try again. -/
def Cause.action : Cause → Nat × Bool
  | conditional => (409, false)
  | busy => (429, true)
  | missing => (404, false)
  | other => (500, true)

/-- What is left of a cause in the faults of a family. -/
def TableFault.shows : TableFault → Cause → Cause
  | _, .conditional => .conditional
  | .general, _ => .other
  | _, .busy => .busy
  | _, _ => .other

/-- What a caller acts upon in a judgement: the status, and whether to try again. -/
def Verdict.action (v : Verdict) : Nat × Bool :=
  (v.status, v.retryable)

/-- What a fault of the store says about trying again. Other faults say nothing about it. -/
def Fault.retryFlag? : Fault → Option Json
  | store _ context => some context.retryable
  | _ => none

/-! ### Codes and causes -/

section Codes

variable {code : Option Json}

theorem isCode_iff {word : String} : isCode word code = true ↔ code = some (.str word) := by
  cases code with
  | none => simp [isCode]
  | some value => cases value <;> simp [isCode, Json.string?]

/-- The code of a busy service is not that of a lost write, which is looked for first. -/
theorem isCode_of_isThrottling (h : isThrottling code = true) :
    isCode conditionalCode code = false := by
  refine Bool.eq_false_iff.2 fun named => ?_
  obtain rfl := isCode_iff.1 named
  exact absurd h (by decide)

theorem Cause.of_eq_busy_iff : Cause.of code = .busy ↔ isThrottling code = true := by
  constructor
  · intro h
    unfold Cause.of at h
    split_ifs at h with _ busy
    exact busy
  · intro h
    simp [Cause.of, isCode_of_isThrottling h, h]

theorem Cause.of_eq_missing_iff : Cause.of code = .missing ↔ code = some (.str missingCode) := by
  constructor
  · intro h
    unfold Cause.of at h
    split_ifs at h with _ _ missing
    exact isCode_iff.1 missing
  · rintro rfl
    decide

end Codes

/-! ### Judgements -/

section Judgements

variable {code : Option Json} {family : TableFault}

theorem judge_service (code : Option Json) (message request operation : Json) :
    judge (.service code message request) operation =
      if isCode conditionalCode code then .conditional
      else if isThrottling code then .throttled
      else if isCode missingCode code then .resourceMissing
      else .service ("AWS error: " ++ (code.getD unknownCode).display) :=
  rfl

theorem judge_table (family : TableFault) (message : String) (code : Option Json)
    (operation : Json) :
    judge (.table family message code) operation =
      if isCode conditionalCode code then .conditional
      else if family = .general then .database "Database operation failed" true
      else if isThrottling code then .throttled
      else .database s!"Database operation failed: {operation.display}" true := by
  cases family <;> rfl

/-- A bare refusal is judged by its cause. -/
theorem judge_service_action (code : Option Json) (message request operation : Json) :
    (judge (.service code message request) operation).action = (Cause.of code).action := by
  rw [judge_service]
  unfold Cause.of
  split_ifs <;> rfl

/-- A wrapped one is judged by what its family shows of the cause. -/
theorem judge_table_action (family : TableFault) (message : String) (code : Option Json)
    (operation : Json) :
    (judge (.table family message code) operation).action =
      (family.shows (Cause.of code)).action := by
  rw [judge_table]
  unfold Cause.of
  cases family
  case general =>
    rw [if_pos rfl]
    split_ifs <;> rfl
  all_goals
    rw [if_neg (by decide : ¬ _ = TableFault.general)]
    split_ifs <;> rfl

/-- The fault that is raised carries the flag of the judgement. -/
theorem storeFault_retryFlag? (f : Fault) (operation table : Json) :
    (storeFault f operation table).retryFlag? = some (.bool (judge f operation).action.2) :=
  rfl

/-- The response tells every two causes apart. -/
theorem Cause.action_injective : Function.Injective Cause.action := by
  intro c d h
  cases c <;> cases d <;> first | rfl | exact absurd h (by decide)

/-- A family hides that the table is missing, and the general one that the service is busy. -/
theorem TableFault.shows_eq_self_iff {cause : Cause} :
    family.shows cause = cause ↔
      cause ≠ .missing ∧ (family = .general → cause ≠ .busy) := by
  cases family <;> cases cause <;> decide

/-- Whether to try again does not depend on whether the service passes for a busy one. -/
theorem TableFault.shows_action_retry_iff {cause : Cause} :
    (family.shows cause).action.2 = cause.action.2 ↔ cause ≠ .missing := by
  cases family <;> cases cause <;> decide

/-- What is not shown is taken for a failure of any other kind. -/
theorem TableFault.shows_of_ne {cause : Cause} (h : family.shows cause ≠ cause) :
    family.shows cause = .other := by
  revert h
  cases family <;> cases cause <;> decide

/-- A refusal is judged alike in both wrappings, with the same status and the same flag, unless its
code is that of a missing table, or that of a busy service in a fault of the general family. The
flag of the fault that is raised differs for a missing table only. A wrapped refusal that is judged
differently counts as an error of the server that may pass. -/
theorem judge_agrees_iff (family : TableFault) (code : Option Json) (text : String)
    (message request operation table : Json) :
    let bare := Fault.service code message request
    let wrapped := Fault.table family text code
    ((judge wrapped operation).action = (judge bare operation).action ↔
      code ≠ some (.str missingCode) ∧ (family = .general → isThrottling code = false)) ∧
    ((storeFault wrapped operation table).retryFlag? =
      (storeFault bare operation table).retryFlag? ↔
      code ≠ some (.str missingCode)) ∧
    ((judge wrapped operation).action = (judge bare operation).action ∨
      (judge wrapped operation).action = (500, true)) := by
  intro bare wrapped
  have told : (judge bare operation).action = (Cause.of code).action :=
    judge_service_action code message request operation
  have seen : (judge wrapped operation).action = (family.shows (Cause.of code)).action :=
    judge_table_action family text code operation
  have busy : Cause.of code ≠ .busy ↔ isThrottling code = false := by
    rw [Ne, Cause.of_eq_busy_iff, Bool.not_eq_true]
  refine ⟨?_, ?_, ?_⟩
  · rw [told, seen, Cause.action_injective.eq_iff, TableFault.shows_eq_self_iff, busy]
    exact and_congr_left' Cause.of_eq_missing_iff.not
  · rw [storeFault_retryFlag?, storeFault_retryFlag?, told, seen, Option.some_inj, Json.bool.injEq,
      TableFault.shows_action_retry_iff]
    exact Cause.of_eq_missing_iff.not
  · rw [told, seen]
    by_cases shown : family.shows (Cause.of code) = Cause.of code
    · exact .inl (congrArg Cause.action shown)
    · exact .inr (congrArg Cause.action (TableFault.shows_of_ne shown))

/-- A look-up in a table that is not there: bare, the refusal is final, and wrapped, it is to be
tried again. A busy service is taken for a broken one in a fault of the general family. -/
theorem judge_agrees_fails :
    (judge (.service (some (.str missingCode)) (.str "Requested resource not found")
      (.str "GetItem")) (.str "get_used")).action = (404, false) ∧
    (judge (.table .get "Error getting item" (some (.str missingCode))) (.str "get_used")).action =
      (500, true) ∧
    (storeFault (.service (some (.str missingCode)) (.str "Requested resource not found")
      (.str "GetItem")) (.str "get_used") (.str "UsedNames")).retryFlag? = some (.bool false) ∧
    (storeFault (.table .get "Error getting item" (some (.str missingCode))) (.str "get_used")
      (.str "UsedNames")).retryFlag? = some (.bool true) ∧
    (judge (.service (some (.str "ThrottlingException")) (.str "Rate exceeded") (.str "GetItem"))
      (.str "get_used")).action = (429, true) ∧
    (judge (.table .general "Rate exceeded" (some (.str "ThrottlingException")))
      (.str "get_used")).action = (500, true) :=
  ⟨rfl, rfl, rfl, rfl, rfl, rfl⟩

/-- Operations on a table get the wrapped refusals only. So if the table is not there, none of them
answers, and the caller of each is told to try again. -/
theorem TableOp.perform_missing (op : TableOp) (rows : Table) {s : Session} {text : String}
    (hf : s.shared.outage.next op.request = some (.table family text (some (.str missingCode)))) :
    Ends (op.perform rows) s (fun _ _ => False)
      (fun g s' => g.retryFlag? = some (.bool true) ∧ s.Looks s') := by
  have hnone : op.answerTo? (.table family text (some (.str missingCode))) = none := by
    cases op <;> rfl
  refine (perform_fails op rows hf).mono (fun answer _ h => ?_) fun g s' h => ?_
  · rw [hnone] at h
    cases h.1
  · obtain ⟨-, rfl, hlook⟩ := h
    have htold : (Fault.table family text (some (.str missingCode))).told op.word
        s.shared.tableName =
        storeFault (.table family text (some (.str missingCode))) (.str op.word)
          (.str s.shared.tableName) := if_pos rfl
    refine ⟨?_, hlook⟩
    rw [htold, storeFault_retryFlag?, judge_table_action]
    -- no family shows that the table is missing
    cases family <;> rfl

end Judgements

end Namesake
