import Namesake.Registry.Session

/-!
# How tasks end

A task ends with a result or with a fault, and leaves a session behind in either case. Everything
that is proved about a task is said of both ends at once, and a sequence of tasks is taken apart
into the statements about its members.

## Main definitions

* `Task.Ends` — how a task ends when it is run in a session
* `Task.result?`, `Task.fault?`, `Task.outcome` — what it ends with
* `Task.left` — what it leaves behind
* `Task.Results` — what holds of its results in any session

## Main results

* `Task.ends_bind` — a sequence ends as its last member does in the session before it
* `Task.Ends.mono` — the ends may be weakened
-/

namespace Namesake.Task

variable {α β : Type}

/-- Run in the session, the task ends with a result as `ok` says or with a fault as `bad` says. -/
def Ends (t : Task α) (s : Session) (ok : α → Session → Prop) (bad : Fault → Session → Prop) :
    Prop :=
  match t s with
  | .ok a s' => ok a s'
  | .error f s' => bad f s'

instance (t : Task α) (s : Session) (ok : α → Session → Prop) (bad : Fault → Session → Prop)
    [∀ a s', Decidable (ok a s')] [∀ f s', Decidable (bad f s')] : Decidable (Ends t s ok bad) :=
  match h : t s with
  | .ok a s' => decidable_of_iff (ok a s') (by rw [Ends, h])
  | .error f s' => decidable_of_iff (bad f s') (by rw [Ends, h])

/-- The result of a task, if it ends with one. -/
def result? (t : Task α) (s : Session) : Option α :=
  match t s with
  | .ok a _ => some a
  | .error .. => none

/-- The fault of a task, if it ends with one. -/
def fault? (t : Task α) (s : Session) : Option Fault :=
  match t s with
  | .ok .. => none
  | .error f _ => some f

/-- How a task ends for its caller: with a result or with a fault. -/
def outcome (t : Task α) (s : Session) : Except Fault α :=
  match t s with
  | .ok a _ => .ok a
  | .error f _ => .error f

/-- The session that a task leaves behind, whatever its end. -/
def left (t : Task α) (s : Session) : Session :=
  match t s with
  | .ok _ s' => s'
  | .error _ s' => s'

section Ends

variable {t : Task α} {s s' : Session} {a : α} {f : Fault}
variable {ok ok' : α → Session → Prop} {bad bad' : Fault → Session → Prop}

theorem Ends.of_ok (h : Ends t s ok bad) (ht : t s = .ok a s') : ok a s' := by
  rw [Ends, ht] at h
  exact h

theorem Ends.of_error (h : Ends t s ok bad) (ht : t s = .error f s') : bad f s' := by
  rw [Ends, ht] at h
  exact h

/-- A task that may not end with a fault ends with a result. -/
theorem Ends.exists_ok (h : Ends t s ok fun _ _ => False) : ∃ a s', t s = .ok a s' ∧ ok a s' := by
  cases hrun : t s with
  | ok a s' => exact ⟨a, s', rfl, h.of_ok hrun⟩
  | error f s' => exact (h.of_error hrun).elim

theorem ends_iff : Ends t s ok bad ↔
    (∀ a s', t s = .ok a s' → ok a s') ∧ (∀ f s', t s = .error f s' → bad f s') := by
  refine ⟨fun h => ⟨fun _ _ => h.of_ok, fun _ _ => h.of_error⟩, fun ⟨hok, hbad⟩ => ?_⟩
  unfold Ends
  split
  · exact hok _ _ ‹_›
  · exact hbad _ _ ‹_›

theorem result?_eq_some : result? t s = some a ↔ ∃ s', t s = .ok a s' := by
  unfold result?
  cases t s <;> simp

theorem fault?_eq_some : fault? t s = some f ↔ ∃ s', t s = .error f s' := by
  unfold fault?
  cases t s <;> simp

theorem outcome_eq_ok : outcome t s = .ok a ↔ ∃ s', t s = .ok a s' := by
  unfold outcome
  cases t s <;> simp

theorem outcome_eq_error : outcome t s = .error f ↔ ∃ s', t s = .error f s' := by
  unfold outcome
  cases t s <;> simp

theorem outcome_eq_iff {o : Except Fault α} :
    outcome t s = o ↔ Ends t s (fun a _ => .ok a = o) (fun f _ => .error f = o) := by
  unfold outcome Ends
  cases t s <;> rfl

/-- What holds at both ends of a task holds of the session that it leaves behind. -/
theorem Ends.left {q : Session → Prop} (h : Ends t s (fun _ s' => q s') (fun _ s' => q s')) :
    q (left t s) := by
  unfold Ends at h
  unfold Task.left
  cases ht : t s with
  | ok a s' => simpa [ht] using h
  | error f s' => simpa [ht] using h

/-- Two runs that are the same end in the same way. -/
theorem ends_congr {t' : Task α} {m : Session} (h : t s = t' m) :
    Ends t s ok bad ↔ Ends t' m ok bad := by
  unfold Ends
  rw [h]

/-- A task ends as it does. -/
theorem ends_self (t : Task α) (s : Session) :
    Ends t s (fun a s' => t s = .ok a s') (fun f s' => t s = .error f s') :=
  ends_iff.2 ⟨fun _ _ h => h, fun _ _ h => h⟩

/-- The ends of a task may be weakened. -/
theorem Ends.mono (h : Ends t s ok bad) (hok : ∀ a s', ok a s' → ok' a s')
    (hbad : ∀ f s', bad f s' → bad' f s') : Ends t s ok' bad' := by
  rw [ends_iff] at h ⊢
  exact ⟨fun a s' ht => hok a s' (h.1 a s' ht), fun f s' ht => hbad f s' (h.2 f s' ht)⟩

/-- Two descriptions of the same end hold together. -/
theorem Ends.and (h : Ends t s ok bad) (h' : Ends t s ok' bad') :
    Ends t s (fun a s' => ok a s' ∧ ok' a s') (fun f s' => bad f s' ∧ bad' f s') := by
  rw [ends_iff] at h h' ⊢
  exact ⟨fun a s' ht => ⟨h.1 a s' ht, h'.1 a s' ht⟩, fun f s' ht => ⟨h.2 f s' ht, h'.2 f s' ht⟩⟩

/-- A task that has no result, and only one fault to end with, ends with that one. -/
theorem Ends.outcome_error {q : Session → Prop}
    (h : Ends t s (fun _ _ => False) fun g s' => g = f ∧ q s') : outcome t s = .error f :=
  outcome_eq_iff.2 (h.mono (fun _ _ hf => hf.elim) fun _ _ h' => congrArg _ h'.1)

theorem Ends.left_error {q : Session → Prop}
    (h : Ends t s (fun _ _ => False) fun g s' => g = f ∧ q s') : q (Task.left t s) :=
  Ends.left (h.mono (fun _ _ hf => hf.elim) fun _ _ h' => h'.2)

@[simp] theorem ends_pure : Ends (pure a) s ok bad ↔ ok a s := Iff.rfl

@[simp] theorem ends_throw : Ends (throw f : Task α) s ok bad ↔ bad f s := Iff.rfl

/-- A sequence ends as its second member does in the session that the first one leaves behind. -/
theorem ends_bind {g : α → Task β} {ok : β → Session → Prop} :
    Ends (t >>= g) s ok bad ↔ Ends t s (fun a s' => Ends (g a) s' ok bad) bad := by
  simp only [Ends, bind, EStateM.bind]
  cases t s <;> rfl

/-- A sequence goes on from where its first member has ended with a result. -/
theorem run_bind_ok {σ : Type} {t : EStateM Fault σ α} {s s' : σ} (h : t s = .ok a s')
    (k : α → EStateM Fault σ β) : (t >>= k) s = k a s' := by
  simp only [bind, EStateM.bind, h]

/-- A fault of its first member ends a sequence. -/
theorem run_bind_error {σ : Type} {t : EStateM Fault σ α} {s s' : σ} (h : t s = .error f s')
    (k : α → EStateM Fault σ β) : (t >>= k) s = .error f s' := by
  simp only [bind, EStateM.bind, h]

/-- A task ends alike when its result is of no interest. -/
theorem ends_discard {ok : PUnit → Session → Prop} :
    Ends (Functor.discard t) s ok bad ↔ Ends t s (fun _ s' => ok ⟨⟩ s') bad := by
  simp only [Ends, Functor.discard, Functor.mapConst, EStateM.map, Function.comp]
  cases t s <;> rfl

@[simp] theorem ends_get {ok : Session → Session → Prop} : Ends get s ok bad ↔ ok s s := Iff.rfl

@[simp] theorem ends_set {ok : PUnit → Session → Prop} : Ends (set s') s ok bad ↔ ok ⟨⟩ s' :=
    Iff.rfl

@[simp] theorem ends_modify {g : Session → Session} {ok : PUnit → Session → Prop} :
    Ends (modify g) s ok bad ↔ ok ⟨⟩ (g s) := Iff.rfl

@[simp] theorem ends_modifyGet {g : Session → α × Session} :
    Ends (modifyGet g) s ok bad ↔ ok (g s).1 (g s).2 := Iff.rfl

/-- What changes no state ends where it began. -/
theorem ends_lift {x : Except Fault α} :
    Ends (lift x) s ok bad ↔ (∀ a, x = .ok a → ok a s) ∧ (∀ f, x = .error f → bad f s) := by
  cases x <;> simp [lift]

end Ends

/-! ### Results alone -/

section Results

variable {t : Task α} {p : α → Prop} {q : β → Prop} {k : α → Task β}

/-- In whatever session the task is run, every result is as the condition says. -/
def Results (t : Task α) (p : α → Prop) : Prop :=
  ∀ s, Ends t s (fun a _ => p a) fun _ _ => True

theorem Results.pure {a : α} (h : p a) : Results (pure a) p :=
  fun _ => h

theorem Results.throw (f : Fault) : Results (throw f : Task α) p :=
  fun _ => trivial

/-- The results of a sequence are those of its second member. -/
theorem Results.bind (h : Results t p) (hk : ∀ a, p a → Results (k a) q) : Results (t >>= k) q := by
  intro s
  rw [ends_bind]
  exact (h s).mono (fun a s' ha => hk a ha s') fun _ _ h => h

/-- Nothing need be known of the first one. -/
theorem Results.after (hk : ∀ a, Results (k a) q) : Results (t >>= k) q := by
  have htrivial : Results t fun _ => True := fun s => ends_iff.2
    ⟨fun _ _ _ => trivial, fun _ _ _ => trivial⟩
  exact htrivial.bind fun a _ => hk a

end Results

end Namesake.Task
