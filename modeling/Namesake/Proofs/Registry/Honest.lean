import Namesake.Proofs.Registry.Claim

/-!
# What the answers of a registry are worth

A name that a registry calls used is held. The converse need not be so, since a look-up may miss the
row of a name; but then the claim of the name does not succeed. After a claim that ends with an
answer the name is held in any case, by the claimer or by another worker, as long as the table is
honest: it refuses to save a row on the ground that there is one already only if that is so. Such is
a put on the condition that no row is there.

## Main definitions

* `Outage.IsHonest`, `Session.Honest` — no save is going to be refused for a row that is not there

## Main results

* `Registry.isUsed_held` — what is called used is held
* `Registry.claim_held` — what has been claimed is held, whoever has won
-/

open Namesake.Task

namespace Namesake

/-- The save that is going to fail, if there is one, does not fail as it would for a name that has a
row. -/
def Outage.IsHonest (o : Outage) : Prop :=
  ∀ failure ∈ o, failure.request = .save →
    (failure.fault.isTableFault && failure.fault.isConditional) = false

/-- The table is honest: no save is going to be refused for a row that is not there. Of sets in
memory nothing is asked. -/
def Session.Honest (s : Session) : Prop :=
  ∀ rows, s.shared.store = .table rows → s.shared.outage.IsHonest

theorem Outage.isHonest_none : Outage.IsHonest none :=
  fun _ h => by cases h

/-- What is left of a failure after a request is as honest as it was. -/
theorem Outage.IsHonest.after {o : Outage} (h : o.IsHonest) (request : StoreRequest) :
    (o.after request).IsHonest := by
  intro failure hfailure hsave
  obtain ⟨failure', hfailure', hrequest, hfault⟩ := Outage.of_mem_after hfailure
  rw [← hfault]
  exact h failure' hfailure' (hrequest.trans hsave)

/-- A save that fails does not fail as it would for a name that has a row. -/
theorem Outage.IsHonest.next {o : Outage} (h : o.IsHonest) {f : Fault}
    (hf : o.next .save = some f) :
    (f.isTableFault && f.isConditional) = false := by
  obtain ⟨⟨failure, hfailure, hsave, rfl⟩, -⟩ := Outage.of_next hf
  exact h failure hfailure hsave

namespace Registry

variable {s : Session} {rows : Table} {kind : NameKind} {name : Text} {display : Option Text}

/-! ### Looking -/

theorem note_honest (e : LogEntry) (hs : s.Honest) :
    Ends (Task.note e) s (fun _ s' => s'.Honest ∧ s.Looks s') (fun _ _ => True) := by
  rw [Task.note, ends_modify]
  split
  · exact ⟨hs, .refl s⟩
  · exact ⟨hs, rfl, rfl, rfl⟩

/-- A request that fails does so as it was going to, and leaves the table as honest as it was. -/
theorem request_honest (request : StoreRequest) :
    Ends (Task.request request) s
      (fun failed s' => failed = s.shared.outage.next request ∧ (s.Honest → s'.Honest) ∧ s.Looks s')
      (fun _ _ => True) := by
  rw [Task.request, ends_bind, ends_get, ends_bind, ends_set, ends_pure]
  exact ⟨rfl, fun hs rows hrows => (hs rows hrows).after request, rfl, rfl, rfl⟩

/-- A failed operation has no result. -/
theorem fail_never {α : Type} (logged operation : String) (context : Fields) (f : Fault) :
    Ends (fail logged operation context f : Task α) s (fun _ _ => False) (fun _ _ => True) :=
  (fail_ends logged operation context f).mono (fun _ _ h => h) fun _ _ _ => trivial

/-- A name that is called used is held. -/
theorem isUsed_held (name : Text) :
    Ends (isUsed name) s
      (fun used s' => (s.Honest → s'.Honest) ∧ (used = true → s.shared.store.has name = true))
      (fun _ _ => True) := by
  rw [isUsed, ends_bind, ends_get]
  split
  · rename_i sets hstore
    refine ⟨id, fun hused => ?_⟩
    rw [hstore]
    exact hused
  · rename_i rows hstore
    rw [usedRow?, ends_bind, ends_bind]
    refine (request_honest .get).mono (fun failed m hm => ?_) fun _ _ h => h
    obtain ⟨-, hkeeps, -⟩ := hm
    split
    · -- a missed row is reported as if it were not there
      exact ⟨hkeeps, fun hused => by cases hused⟩
    · exact (fail_never _ _ _ _).mono (fun _ _ h => h.elim) fun _ _ h => h
    · refine ⟨hkeeps, fun hused => ?_⟩
      rw [hstore]
      show rows.contains name = true
      rwa [Std.TreeMap.contains_eq_isSome_getElem?, ← Std.TreeMap.get?_eq_getElem?]

/-! ### Claiming -/

/-- In memory a name that has been added is held. -/
theorem has_add (sets : NameSets) (kind : NameKind) (name : Text) :
    (sets.add kind name).has name = true := by
  have hheld : Store.has (.memory (sets.add kind name)) name = true := by
    refine Store.has_iff.2 ⟨kind, ?_⟩
    show ((sets.setNames kind _).names kind).contains name = true
    rw [Store.names_setNames, if_pos rfl]
    exact Std.TreeSet.contains_insert_self
  exact hheld

/-- After a save that has not failed there is a row for the name, and so there is if the save has
been refused on that ground. -/
theorem saveRow_held (hs : s.Honest) (hstore : s.shared.store = .table rows) :
    Ends (saveRow rows name kind display) s
      (fun failed s' => s'.Honest ∧
        ((∀ f ∈ failed, (f.isTableFault && f.isConditional) = true) →
          s'.shared.store.has name = true))
      (fun _ _ => True) := by
  rw [saveRow, ends_bind]
  refine (request_honest .save).mono (fun failed m hm => ?_) fun _ _ h => h
  obtain ⟨hfailed, hkeeps, hlook⟩ := hm
  have hhonest := hkeeps hs
  cases failed with
  | some f =>
    refine ⟨hhonest, fun hrefused => ?_⟩
    exact absurd (hrefused f rfl)
      (by rw [(hs rows hstore).next hfailed.symm]; exact Bool.false_ne_true)
  | none =>
    by_cases hrow : rows.contains name = true
    · simp only [hrow, if_true, ends_pure]
      refine ⟨hhonest, fun _ => ?_⟩
      rw [hlook.store, hstore]
      exact hrow
    · simp only [hrow, Bool.false_eq_true, if_false]
      rw [ends_bind, ends_get, ends_bind, Task.setStore, ends_modify, ends_pure]
      exact ⟨fun _ _ => hhonest rows (hlook.store.trans hstore),
        fun _ => Std.TreeMap.contains_insert_self⟩

theorem claimRow_held (hs : s.Honest) (hstore : s.shared.store = .table rows) :
    Ends (claimRow rows name kind display) s
      (fun _ s' => s'.Honest ∧ s'.shared.store.has name = true) (fun _ _ => True) := by
  have hnote : ∀ (m : Session) (message : String) (won : Bool), m.Honest →
      m.shared.store.has name = true →
      Ends (do noteDebug message (nameContext name kind.word); return won) m
        (fun _ s' => s'.Honest ∧ s'.shared.store.has name = true) (fun _ _ => True) := by
    intro m message won hm hheld
    rw [ends_bind]
    refine (note_honest _ hm).mono (fun _ m' hm' => ⟨hm'.1, ?_⟩) fun _ _ h => h
    rw [hm'.2.store]
    exact hheld
  rw [claimRow, ends_bind]
  refine (saveRow_held hs hstore).mono (fun failed m hm => ?_) fun _ _ h => h
  obtain ⟨hhonest, hheld⟩ := hm
  -- the save has inserted the row, or has been refused since the row is there, or the claim fails
  cases failed with
  | none => exact hnote m _ true hhonest (hheld fun f hf => by cases hf)
  | some f =>
    dsimp only
    split
    · rename_i hrefused
      refine hnote m _ false hhonest (hheld fun f' hf' => ?_)
      rwa [← Option.some.inj hf']
    · exact (fail_never _ _ _ _).mono (fun _ _ h => h.elim) fun _ _ h => h

theorem insertNew_held (hs : s.Honest) :
    Ends (insertNew kind name display) s
      (fun _ s' => s'.Honest ∧ s'.shared.store.has name = true) (fun _ _ => True) := by
  rw [insertNew, ends_bind, ends_get]
  split
  · rename_i sets hstore
    split
    · rename_i hhas
      rw [ends_bind]
      refine (note_honest _ hs).mono (fun _ m hm => ⟨hm.1, ?_⟩) fun _ _ h => h
      rw [hm.2.store, hstore]
      exact hhas
    · rw [ends_bind, Task.setStore, ends_modify]
      refine ⟨fun rows hrows => ?_, has_add sets kind name⟩
      cases hrows
  · rename_i rows hstore
    exact claimRow_held hs hstore

/-- What another worker takes leaves the table as honest as it was. -/
theorem yieldTo_honest (theft : Theft) (hs : s.Honest) :
    Ends (yieldTo theft) s (fun _ s' => s'.Honest) (fun _ _ => True) := by
  rw [yieldTo, ends_modify]
  dsimp only
  split
  · exact hs
  · intro rows' hrows
    cases hstore : s.shared.store with
    | memory sets =>
      rw [hstore] at hrows
      cases hrows
    | table rows => exact hs rows hstore

/-- After a claim the name is held, whether the claim was won or lost. -/
theorem claim_held (kind : NameKind) (name : Text) (display : Option Text) (hs : s.Honest) :
    Ends (claim kind name display) s
      (fun _ s' => s'.Honest ∧ s'.shared.store.has name = true) (fun _ _ => True) := by
  rw [claim, interfere, ends_bind, ends_bind, ends_get]
  dsimp only
  split
  · trivial
  · split
    · -- another worker takes the name, and then it is claimed all the same
      rename_i theft _
      let c : Contention :=
        { s.worker.contention with stolen := s.worker.contention.stolen.erase theft }
      rw [ends_bind, ends_set]
      exact (yieldTo_honest (s := withContention s c) theft hs).mono
        (fun _ _ hm => insertNew_held hm) fun _ _ h => h
    · exact insertNew_held hs

end Registry

end Namesake
