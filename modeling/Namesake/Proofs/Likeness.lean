import Namesake.Proofs.Outcome

/-!
# Tasks that end alike

A task is run twice, in two sessions that are like each other in some respect. If all that it asks
of its session is answered alike in both, it ends alike: with the same result, or with faults that
are like each other, and in sessions that are like each other again. Sessions that differ in their
stores are compared in this way; and if only equal sessions are called alike, what is said of them
besides is an invariant.

## Main definitions

* `Likeness` — which sessions are like each other, and which faults
* `Likeness.keeping` — equal sessions that meet a condition
* `Task.Alike` — two runs end alike
* `Task.Respects` — a task ends alike wherever the sessions are alike

## Main results

* `Task.Alike.bind` — sequences end alike if their members do
* `Task.Respects.bind` — a sequence respects a likeness if its members do
* `Task.respects_keeping` — what is said of equal sessions is an invariant
-/

namespace Namesake

/-- Which sessions are like each other, and which faults. -/
structure Likeness where
  /-- Is the second session like the first? -/
  sessions : Session → Session → Prop
  /-- Is the second fault like the first? -/
  faults : Fault → Fault → Prop

/-- Equal sessions that meet a condition, and equal faults of which something is said. -/
def Likeness.keeping (inv : Session → Prop) (bad : Fault → Prop) : Likeness :=
  ⟨fun s s' => s = s' ∧ inv s, fun f g => f = g ∧ bad f⟩

namespace Task

variable {α β : Type} {L : Likeness} {t t' : Task α} {s s' : Session} {f g : Fault}

/-- Run in the two sessions, the tasks end alike. -/
def Alike (L : Likeness) (t t' : Task α) (s s' : Session) : Prop :=
  match t s, t' s' with
  | .ok a m, .ok b m' => a = b ∧ L.sessions m m'
  | .error f m, .error g m' => L.faults f g ∧ L.sessions m m'
  | _, _ => False

/-- Wherever the sessions are alike, the task ends alike. -/
def Respects (L : Likeness) (t : Task α) : Prop :=
  ∀ s s', L.sessions s s' → Alike L t t s s'

/-! ### Two tasks -/

theorem alike_pure (h : L.sessions s s') (a : α) : Alike L (pure a) (pure a) s s' :=
  ⟨rfl, h⟩

theorem alike_throw (h : L.sessions s s') (hfg : L.faults f g) :
    Alike L (throw f : Task α) (throw g) s s' :=
  ⟨hfg, h⟩

/-- Sequences end alike if their first members do, and their second members wherever the sessions
are alike. -/
theorem Alike.bind {k k' : α → Task β} (h : Alike L t t' s s')
    (hk : ∀ a m m', L.sessions m m' → Alike L (k a) (k' a) m m') :
    Alike L (t >>= k) (t' >>= k') s s' := by
  unfold Alike at h
  cases ht : t s with
  | ok a m =>
    cases ht' : t' s' with
    | ok b m' =>
      rw [ht, ht'] at h
      obtain ⟨rfl, hm⟩ := h
      simpa only [Alike, Bind.bind, EStateM.bind, ht, ht'] using hk a m m' hm
    | error g m' =>
      rw [ht, ht'] at h
      exact h.elim
  | error f m =>
    cases ht' : t' s' with
    | ok b m' =>
      rw [ht, ht'] at h
      exact h.elim
    | error g m' =>
      rw [ht, ht'] at h
      simpa only [Alike, Bind.bind, EStateM.bind, ht, ht'] using h

/-- If only equal faults are like each other, tasks that end alike have the same outcome. -/
theorem Alike.outcome_eq (h : Alike L t t' s s') (hL : ∀ f g, L.faults f g → f = g) :
    outcome t s = outcome t' s' ∧ L.sessions (left t s) (left t' s') := by
  unfold Alike at h
  unfold outcome left
  cases ht : t s with
  | ok a m =>
    cases ht' : t' s' with
    | ok b m' =>
      rw [ht, ht'] at h
      exact ⟨congrArg _ h.1, h.2⟩
    | error g m' =>
      rw [ht, ht'] at h
      exact h.elim
  | error f m =>
    cases ht' : t' s' with
    | ok b m' =>
      rw [ht, ht'] at h
      exact h.elim
    | error g m' =>
      rw [ht, ht'] at h
      exact ⟨congrArg _ (hL f g h.1), h.2⟩

/-- Tasks that end with results end alike if their results are the same. -/
theorem Alike.of_ends {ok ok' : α → Session → Prop} (h : Ends t s ok fun _ _ => False)
    (h' : Ends t' s' ok' fun _ _ => False)
    (hr : ∀ a m b m', ok a m → ok' b m' → a = b ∧ L.sessions m m') : Alike L t t' s s' := by
  unfold Ends at h h'
  unfold Alike
  cases ht : t s with
  | error f m =>
    rw [ht] at h
    exact h.elim
  | ok a m =>
    cases ht' : t' s' with
    | error g m' =>
      rw [ht'] at h'
      exact h'.elim
    | ok b m' =>
      rw [ht] at h
      rw [ht'] at h'
      exact hr a m b m' h h'

/-! ### One task -/

theorem Respects.pure (a : α) : Respects L (pure a : Task α) :=
  fun _ _ h => alike_pure h a

theorem Respects.throw (hf : L.faults f f) : Respects L (throw f : Task α) :=
  fun _ _ h => alike_throw h hf

theorem Respects.bind {k : α → Task β} (h : Respects L t) (hk : ∀ a, Respects L (k a)) :
    Respects L (t >>= k) :=
  fun s s' hs => (h s s' hs).bind fun a m m' hm => hk a m m' hm

/-- Tasks for the members of a list, one after the other, end alike if each of them does. -/
theorem Respects.mapM {f : α → Task β} (h : ∀ a, Respects L (f a)) (l : List α) :
    Respects L (l.mapM f) := by
  induction l with
  | nil => exact .pure []
  | cons a l ih =>
    rw [List.mapM_cons]
    exact (h a).bind fun _ => ih.bind fun _ => .pure _

/-- A task that looks at its session goes on alike if it makes the same of both. -/
theorem Respects.get {k : Session → Task β}
    (hk : ∀ s s', L.sessions s s' → Alike L (k s) (k s') s s') :
    Respects L ((MonadState.get : Task Session) >>= k) :=
  fun s s' hs => hk s s' hs

theorem Respects.lift {x : Except Fault α} (hx : ∀ f, x = .error f → L.faults f f) :
    Respects L (lift x) := by
  cases x with
  | ok a => exact Respects.pure a
  | error f => exact Respects.throw (hx f rfl)

theorem Respects.modifyGet {g : Session → α × Session}
    (hg : ∀ s s', L.sessions s s' → (g s).1 = (g s').1 ∧ L.sessions (g s).2 (g s').2) :
    Respects L (MonadStateOf.modifyGet g : Task α) :=
  fun s s' hs => hg s s' hs

theorem Respects.modify {g : Session → Session}
    (hg : ∀ s s', L.sessions s s' → L.sessions (g s) (g s')) :
    Respects L (modify g : Task PUnit) :=
  fun s s' hs => ⟨rfl, hg s s' hs⟩

/-! ### Conditions on one session -/

/-- What keeps a condition, and ends with a fault only as is said, respects the sessions that are
equal and meet the condition. Beside this it is enough to look at one run. -/
theorem respects_keeping {inv : Session → Prop} {bad : Fault → Prop} :
    Respects (.keeping inv bad) t ↔
      ∀ s, inv s → Ends t s (fun _ s' => inv s') (fun f s' => inv s' ∧ bad f) := by
  constructor
  · intro h s hs
    have halike := h s s ⟨rfl, hs⟩
    unfold Alike at halike
    unfold Ends
    cases ht : t s with
    | ok a m =>
      rw [ht] at halike
      exact halike.2.2
    | error f m =>
      rw [ht] at halike
      exact ⟨halike.2.2, halike.1.2⟩
  · rintro h s _ ⟨rfl, hs⟩
    have hends := h s hs
    unfold Alike
    cases ht : t s with
    | ok a m => exact ⟨rfl, rfl, hends.of_ok ht⟩
    | error f m => exact ⟨⟨rfl, (hends.of_error ht).2⟩, rfl, (hends.of_error ht).1⟩

end Task

end Namesake
