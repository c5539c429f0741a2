import Namesake.Proofs.Registry.Calm
import Namesake.Proofs.Resolver.Likeness

/-!
# How often a claim may be lost

The claim of a name that has been found free is lost only if something has come in between: another
worker has taken the name, or a save has been refused, or the look-up had missed the row of the
name. Each of these happens once. So whenever such a claim is lost, fewer claims can still be lost
than before, and the search that begins again after each loss comes to an end.

## Main definitions

* `Session.Foresees` — a request is going to fail in some way
* `Session.Wanes` — less is going to fail and to be taken than before
* `Session.Asks` — nothing changes but the log and what has failed
* `Likeness.waning` — less is going to fail and to be taken than in some session before

## Main results

* `waning_answers` — whatever a resolver does, less is going to fail and to be taken afterwards
* `Registry.claim_loses` — what the loss of a claim means
-/

open Namesake.Task

namespace Namesake

open Resolver (pendingLosses)

/-! ### What is still going to happen -/

/-- A request is going to fail with the fault. -/
def Session.Foresees (s : Session) (f : Fault) : Prop :=
  ∃ failure ∈ s.shared.outage, failure.fault = f

/-- In the second session no request is going to fail that was not going to fail in the first, and
no more names are going to be taken. -/
structure Session.Wanes (s s' : Session) : Prop where
  foreseen : ∀ f, s'.Foresees f → s.Foresees f
  stolen : s'.worker.contention.stolen.length ≤ s.worker.contention.stolen.length

/-- From the first session to the second nothing changes but the log and what has failed in between.
-/
structure Session.Asks (s s' : Session) : Prop where
  looks : s.Looks s'
  wanes : s.Wanes s'

namespace Session

variable {s s' s'' : Session}

theorem Wanes.refl (s : Session) : s.Wanes s :=
  ⟨fun _ h => h, Nat.le_refl _⟩

theorem Wanes.trans (h : s.Wanes s') (h' : s'.Wanes s'') : s.Wanes s'' :=
  ⟨fun f hf => h.foreseen f (h'.foreseen f hf), Nat.le_trans h'.stolen h.stolen⟩

theorem Asks.refl (s : Session) : s.Asks s :=
  ⟨.refl s, .refl s⟩

theorem Asks.trans (h : s.Asks s') (h' : s'.Asks s'') : s.Asks s'' :=
  ⟨h.looks.trans h'.looks, h.wanes.trans h'.wanes⟩

/-- If a request is going to fail, it does so with some fault. -/
theorem isSome_outage_iff : s.shared.outage.isSome = true ↔ ∃ f, s.Foresees f := by
  rw [Option.isSome_iff_exists]
  constructor
  · rintro ⟨failure, hfailure⟩
    exact ⟨failure.fault, failure, hfailure, rfl⟩
  · rintro ⟨f, failure, hfailure, -⟩
    exact ⟨failure, hfailure⟩

/-- No more claims can be lost than before. -/
theorem Wanes.pendingLosses_le (h : s.Wanes s') : pendingLosses s' ≤ pendingLosses s := by
  refine Nat.add_le_add h.stolen ?_
  by_cases hfails : s'.shared.outage.isSome = true
  · obtain ⟨f, hf⟩ := isSome_outage_iff.1 hfails
    exact Nat.le_of_eq (by rw [if_pos hfails, if_pos (isSome_outage_iff.2 ⟨f, h.foreseen f hf⟩)])
  · rw [if_neg hfails]
    exact Nat.zero_le _

/-- What leaves alone what is going to happen does not add to it. -/
theorem Wanes.of_eq (houtage : s'.shared.outage = s.shared.outage)
    (hcontention : s'.worker.contention = s.worker.contention) : s.Wanes s' := by
  refine ⟨fun f hf => ?_, Nat.le_of_eq (by rw [hcontention])⟩
  unfold Foresees at hf ⊢
  rwa [houtage] at hf

theorem Rests.asks (h : s.Rests s') : s.Asks s' :=
  ⟨h.looks, .of_eq h.outage (by rw [h.looks.worker])⟩

/-- The fault is none of a resolution, unless a request was going to fail with it. -/
def Blames (s : Session) (f : Fault) : Prop :=
  f.isExhausted = true → s.Foresees f

theorem blames_of_other {f : Fault} (h : f.isExhausted = false) : s.Blames f := fun hf => by
  rw [h] at hf
  cases hf

theorem Wanes.blames (h : s.Wanes s') {f : Fault} (hf : s'.Blames f) : s.Blames f :=
  fun hexhausted => h.foreseen f (hf hexhausted)

end Session

namespace Registry

variable {α : Type} {s : Session} {rows : Table} {kind : NameKind} {name : Text}
variable {display : Option Text}

/-! ### Looking -/

/-- A request that fails was going to, and will not fail again. -/
theorem request_asks (request : StoreRequest) :
    Ends (Task.request request) s
      (fun failed s' => s.Asks s' ∧ ∀ f ∈ failed, s.Foresees f ∧ pendingLosses s' < pendingLosses s)
      (fun _ _ => False) := by
  rw [Task.request, ends_bind, ends_get, ends_bind, ends_set, ends_pure]
  refine ⟨⟨⟨rfl, rfl, rfl⟩, ?_, Nat.le_refl _⟩, fun f hf => ?_⟩
  · rintro f ⟨failure, hfailure, rfl⟩
    obtain ⟨failure', hfailure', -, hfault⟩ := Outage.of_mem_after hfailure
    exact ⟨failure', hfailure', hfault⟩
  · obtain ⟨⟨failure, hfailure, -, hfault⟩, hafter⟩ := Outage.of_next hf
    refine ⟨⟨failure, hfailure, hfault⟩, ?_⟩
    have hsome : s.shared.outage.isSome = true := Option.isSome_iff_exists.2 ⟨failure, hfailure⟩
    simp only [pendingLosses, hafter, hsome, Option.isSome_none, Bool.false_eq_true, if_false,
      if_true]
    omega

/-- A failed operation passes the fault on as it is, or hides it behind a fault of the store. -/
theorem fail_asks (logged operation : String) (context : Fields) (f : Fault) :
    Ends (fail logged operation context f : Task α) s (fun _ _ => False)
      (fun g s' => s.Asks s' ∧ (g.isExhausted = true → g = f)) := by
  unfold fail
  split
  · -- a fault of the table is logged twice, and a fault of the store is raised in its place
    rw [ends_bind, ends_get, ends_bind]
    refine (note_rests _).mono (fun _ s₁ h₁ => ?_) fun _ _ h => h.elim
    rw [ends_bind]
    refine (note_rests _).mono (fun _ s₂ h₂ => ?_) fun _ _ h => h.elim
    exact ⟨(h₁.trans h₂).asks, fun h => by cases h⟩
  · exact ⟨.refl s, fun _ => rfl⟩

/-- The same where the fault is one with which a request was going to fail before. -/
theorem fail_blames {m : Session} {f : Fault} (hm : s.Wanes m) (hf : s.Foresees f)
    (logged operation : String) (context : Fields) :
    Ends (fail logged operation context f : Task α) m (fun _ _ => False)
      (fun g s' => (m.Asks s' ∧ s.Wanes s') ∧ s.Blames g) := by
  refine (fail_asks logged operation context f).mono (fun _ _ h => h) fun g s' h => ?_
  refine ⟨⟨h.1, hm.trans h.1.wanes⟩, fun hexhausted => ?_⟩
  rw [h.2 hexhausted]
  exact hf

/-- A look-up finds the row of the name, unless a request fails. -/
theorem usedRow?_asks (rows : Table) (name : Text) :
    Ends (usedRow? rows name) s
      (fun row s' => s.Asks s' ∧ (row = rows.get? name ∨ pendingLosses s' < pendingLosses s))
      (fun f s' => s.Asks s' ∧ s.Blames f) := by
  rw [usedRow?, ends_bind]
  refine (request_asks .get).mono (fun failed s₁ h₁ => ?_) fun _ _ h => h.elim
  obtain ⟨hasks, hfails⟩ := h₁
  split
  · -- the row is missed, so the answer may be wrong; but no request is going to fail any more
    exact ⟨hasks, .inr (hfails _ rfl).2⟩
  · refine (fail_blames hasks.wanes (hfails _ rfl).1 _ _ _).mono (fun _ _ h => h.elim)
      fun _ _ h => ?_
    exact ⟨hasks.trans h.1.1, h.2⟩
  · exact ⟨hasks, .inl rfl⟩

/-- A name is called used if and only if it is held, unless a request fails. -/
theorem isUsed_asks (name : Text) :
    Ends (isUsed name) s
      (fun used s' => s.Asks s' ∧
        (used = s.shared.store.has name ∨ pendingLosses s' < pendingLosses s))
      (fun f s' => s.Asks s' ∧ s.Blames f) := by
  rw [isUsed, ends_bind, ends_get]
  split
  · rename_i sets hstore
    refine ⟨.refl s, .inl ?_⟩
    rw [hstore]
    rfl
  · rename_i rows hstore
    rw [ends_bind]
    refine (usedRow?_asks rows name).mono (fun row s₁ h₁ => ?_) fun _ _ h => h
    obtain ⟨hasks, hrow⟩ := h₁
    refine ⟨hasks, hrow.imp_left fun hrow => ?_⟩
    rw [hrow, hstore, Store.has, Std.TreeMap.contains_eq_isSome_getElem?,
      Std.TreeMap.get?_eq_getElem?]

/-! ### Claiming -/

/-- A save fails because the row is there, or because it was going to fail. -/
theorem saveRow_wanes (rows : Table) :
    Ends (saveRow rows name kind display) s
      (fun failed s' => s.Wanes s' ∧ ∀ f ∈ failed, s.Blames f ∧
        (rows.contains name = true ∨ pendingLosses s' < pendingLosses s))
      (fun _ _ => False) := by
  rw [saveRow, ends_bind]
  refine (request_asks .save).mono (fun failed s₁ h₁ => ?_) fun _ _ h => h.elim
  obtain ⟨hasks, hfails⟩ := h₁
  cases failed with
  | some f =>
    refine ⟨hasks.wanes, fun f' hf' => ?_⟩
    obtain ⟨hforeseen, hfewer⟩ := hfails f' hf'
    exact ⟨fun _ => hforeseen, .inr hfewer⟩
  | none =>
    by_cases hrow : rows.contains name = true
    · simp only [hrow, if_true, ends_pure]
      refine ⟨hasks.wanes, fun f hf => ?_⟩
      obtain rfl := Option.some.inj hf
      exact ⟨Session.blames_of_other rfl, .inl trivial⟩
    · simp only [hrow, Bool.false_eq_true, if_false]
      rw [ends_bind, ends_get, ends_bind, Task.setStore, ends_modify, ends_pure]
      exact ⟨hasks.wanes.trans (.of_eq rfl rfl), fun f hf => by cases hf⟩

theorem claimRow_wanes (rows : Table) :
    Ends (claimRow rows name kind display) s
      (fun won s' => s.Wanes s' ∧
        (won = false → rows.contains name = true ∨ pendingLosses s' < pendingLosses s))
      (fun f s' => s.Wanes s' ∧ s.Blames f) := by
  rw [claimRow, ends_bind]
  refine (saveRow_wanes rows).mono (fun failed s₁ h₁ => ?_) fun _ _ h => h.elim
  obtain ⟨hwanes, hfails⟩ := h₁
  cases failed with
  | none =>
    rw [ends_bind]
    refine (note_rests _).mono (fun _ s₂ h₂ => ?_) fun _ _ h => h.elim
    exact ⟨hwanes.trans h₂.asks.wanes, fun h => by cases h⟩
  | some f =>
    obtain ⟨hblame, hlost⟩ := hfails f rfl
    dsimp only
    split
    · -- the fault says that the row is there, whether or not it is
      rw [ends_bind]
      refine (note_rests _).mono (fun _ s₂ h₂ => ?_) fun _ _ h => h.elim
      have hfewer := h₂.asks.wanes.pendingLosses_le
      exact ⟨hwanes.trans h₂.asks.wanes, fun _ => hlost.imp_right fun h =>
        Nat.lt_of_le_of_lt hfewer h⟩
    · refine (fail_asks _ _ _ f).mono (fun _ _ h => h.elim) fun g s₂ h₂ => ?_
      refine ⟨hwanes.trans h₂.1.wanes, fun hexhausted => ?_⟩
      obtain rfl := h₂.2 hexhausted
      exact hblame hexhausted

theorem insertNew_wanes :
    Ends (insertNew kind name display) s
      (fun won s' => s.Wanes s' ∧
        (won = false → s.shared.store.has name = true ∨ pendingLosses s' < pendingLosses s))
      (fun f s' => s.Wanes s' ∧ s.Blames f) := by
  rw [insertNew, ends_bind, ends_get]
  split
  · rename_i sets hstore
    split
    · rename_i hheld
      rw [ends_bind]
      refine (note_rests _).mono (fun _ s₁ h₁ => ?_) fun _ _ h => h.elim
      refine ⟨h₁.asks.wanes, fun _ => .inl ?_⟩
      rw [hstore]
      exact hheld
    · rw [ends_bind, Task.setStore, ends_modify, ends_pure]
      exact ⟨.of_eq rfl rfl, fun h => by cases h⟩
  · rename_i rows hstore
    rw [hstore]
    exact claimRow_wanes rows

/-- What another worker takes costs this one nothing. -/
theorem yieldTo_wanes (theft : Theft) :
    Ends (yieldTo theft) s (fun _ s' => s.Wanes s') (fun _ _ => False) := by
  rw [yieldTo, ends_modify]
  dsimp only
  split
  · exact .refl s
  · exact .of_eq rfl rfl

/-- If another worker takes the name, fewer names are going to be taken afterwards. -/
theorem interfere_wanes (name : Text) :
    Ends (interfere name) s
      (fun _ s' => s' = s ∨ s.Wanes s' ∧ pendingLosses s' < pendingLosses s)
      (fun f s' => s.Wanes s' ∧ s.Blames f) := by
  rw [interfere, ends_bind, ends_get]
  dsimp only
  split
  · exact ⟨.refl s, Session.blames_of_other rfl⟩
  · split
    · -- the theft is over before the other worker takes the name
      rename_i theft htheft
      have hmem : theft ∈ s.worker.contention.stolen := List.mem_of_find?_eq_some htheft
      let c : Contention :=
        { s.worker.contention with stolen := s.worker.contention.stolen.erase theft }
      have hfewer : (s.worker.contention.stolen.erase theft).length <
          s.worker.contention.stolen.length := by
        have hlength := List.length_erase_of_mem hmem
        have hpos := List.length_pos_of_mem hmem
        omega
      have hwanes : s.Wanes (withContention s c) := ⟨fun _ h => h, Nat.le_of_lt hfewer⟩
      have hlosses : pendingLosses (withContention s c) < pendingLosses s :=
        Nat.add_lt_add_right hfewer _
      rw [ends_bind, ends_set]
      refine (yieldTo_wanes (s := withContention s c) theft).mono (fun _ s₂ h₂ => .inr ?_)
        fun _ _ h => h.elim
      exact ⟨hwanes.trans h₂, Nat.lt_of_le_of_lt h₂.pendingLosses_le hlosses⟩
    · exact .inl rfl

/-- A claim is lost because the name is held, or because of something that will not happen again. -/
theorem claim_loses :
    Ends (claim kind name display) s
      (fun won s' => s.Wanes s' ∧
        (won = false → s.shared.store.has name = true ∨ pendingLosses s' < pendingLosses s))
      (fun f s' => s.Wanes s' ∧ s.Blames f) := by
  rw [claim, ends_bind]
  refine (interfere_wanes name).mono (fun _ s₁ h₁ => ?_) fun _ _ h => h
  obtain rfl | ⟨hwanes, hfewer⟩ := h₁
  · exact insertNew_wanes
  · refine insertNew_wanes.mono (fun won s₂ h₂ => ?_) fun f s₂ h₂ => ?_
    · exact ⟨hwanes.trans h₂.1, fun _ => .inr (Nat.lt_of_le_of_lt h₂.1.pendingLosses_le hfewer)⟩
    · exact ⟨hwanes.trans h₂.1, hwanes.blames h₂.2⟩

end Registry

/-! ### What a resolver does -/

/-- Equal sessions in which less is going to fail and to be taken than in the given one, and equal
faults that are none of a resolution, unless a request was going to fail with them. -/
def Likeness.waning (s : Session) : Likeness :=
  .keeping s.Wanes s.Blames

/-- Whatever a resolver asks, less is going to fail and to be taken afterwards. -/
theorem waning_answers (s : Session) : (Likeness.waning s).Answers where
  isUsed := fun name => respects_keeping.2 fun m hm =>
    (Registry.isUsed_asks name).mono (fun _ _ h => hm.trans h.1.wanes)
      fun _ _ h => ⟨hm.trans h.1.wanes, hm.blames h.2⟩
  claim := fun kind name display => respects_keeping.2 fun m hm =>
    Registry.claim_loses.mono (fun _ _ h => hm.trans h.1) fun _ _ h => ⟨hm.trans h.1, hm.blames h.2⟩
  note := fun entry => respects_keeping.2 fun m hm =>
    (Registry.note_rests entry).mono (fun _ _ h => hm.trans h.asks.wanes) fun _ _ h => h.elim
  lastSuffix := fun base => respects_keeping.2 fun m hm => hm.trans (.of_eq rfl rfl)
  recordSuffix := fun base suffix => respects_keeping.2 fun m hm => by
    rw [Task.recordSuffix, ends_bind, ends_get, ends_bind, ends_lift]
    exact ⟨fun _ _ => hm.trans (.of_eq rfl rfl),
      fun f hf => ⟨hm, Session.blames_of_other (Memo.isExhausted_of_write hf)⟩⟩
  cutLength? := fun base limit => respects_keeping.2 fun m hm => hm.trans (.of_eq rfl rfl)
  recordCut := fun base limit length => respects_keeping.2 fun m hm => by
    rw [Task.recordCut, ends_bind, ends_get, ends_bind, ends_lift]
    exact ⟨fun _ _ => hm.trans (.of_eq rfl rfl),
      fun f hf => ⟨hm, Session.blames_of_other (Memo.isExhausted_of_write hf)⟩⟩
  losses := fun m m' h => by rw [h.1]
  faults := fun f hf => ⟨rfl, Session.blames_of_other hf⟩

end Namesake
