import Namesake.Proofs.Outcome
import Namesake.Proofs.Registry.Growth
import Namesake.Registry.Claim

/-!
# What a claim does

Looking a name up changes nothing that a resolver depends on. A claim that is won inserts the
claimed name and nothing else; a claim that is lost or that fails inserts nothing, except that
another worker may have taken the name.

## Main definitions

* `Session.Looks` — from one state to another nothing but the log and the outage changes
* `Session.Inserts` — a name that nobody holds is inserted
* `Session.Meanwhile` — other workers take some names that they were about to take
* `Store.Open` — a claim of the name cannot take it from its holder

## Main results

* `Registry.isUsed_ends` — a name that is free may be claimed
* `Registry.claim_ends` — what a claim does, whatever its end
-/

open Namesake.Task

namespace Namesake

namespace Outage

variable {o : Outage} {request : StoreRequest} {failure : Failure} {f : Fault}

/-- A request that fails does so as it was going to, and after it none is going to fail. -/
theorem of_next (h : o.next request = some f) :
    (∃ failure ∈ o, failure.request = request ∧ failure.fault = f) ∧ o.after request = none := by
  cases o with
  | none => cases h
  | some failure =>
    simp only [next] at h
    split at h
    · rename_i hnow
      refine ⟨⟨failure, rfl, hnow.1, Option.some.inj h⟩, ?_⟩
      simp only [after, Failure.after, hnow, if_true]
    · cases h

/-- What is going to fail after a request was going to fail before it, and in the same way. -/
theorem of_mem_after (h : failure ∈ o.after request) :
    ∃ failure' ∈ o, failure'.request = failure.request ∧ failure'.fault = failure.fault := by
  cases o with
  | none => cases h
  | some failure' =>
    refine ⟨failure', rfl, ?_⟩
    simp only [after, Failure.after] at h
    split at h
    · split at h
      · cases h
      · obtain rfl := Option.some.inj h
        exact ⟨rfl, rfl⟩
    · obtain rfl := Option.some.inj h
      exact ⟨rfl, rfl⟩

end Outage

/-- From the first state to the second nothing changes but the log and what is going to fail. -/
structure Session.Looks (s s' : Session) : Prop where
  store : s'.shared.store = s.shared.store
  now : s'.shared.now = s.shared.now
  worker : s'.worker = s.worker

/-- A name that nobody holds is inserted, and nothing changes besides but the log and what is going
to fail. -/
structure Session.Inserts (s s' : Session) (kind : NameKind) (name : Text) (display : Option Text) :
    Prop where
  free : s.shared.store.has name = false
  store : s'.shared.store = s.shared.store.insert kind name display s.shared.now
  now : s'.shared.now = s.shared.now
  worker : s'.worker = s.worker

/-- Other workers take names that they were about to take. -/
structure Session.Meanwhile (s s' : Session) (taken : List Theft) : Prop where
  stolen : taken ⊆ s.worker.contention.stolen
  left : s'.worker.contention.stolen ⊆ s.worker.contention.stolen
  store : Store.Taken s.shared.now s.shared.store taken s'.shared.store
  now : s'.shared.now = s.shared.now

/-- The caches of the worker are the same in both states. -/
structure Session.SameCaches (s s' : Session) : Prop where
  suffixes : s'.worker.suffixes = s.worker.suffixes
  truncations : s'.worker.truncations = s.worker.truncations

/-- Others may take names, while the caches of the worker stay as they are. -/
structure Session.Yields (s s' : Session) : Prop where
  meanwhile : ∃ taken, s.Meanwhile s' taken
  caches : s.SameCaches s'

/-- A claim of the name cannot take it from its holder. In memory the name has to be free for that,
while a table refuses a name that is held by itself. -/
def Store.Open : Store → Text → Prop
  | .memory sets, name => sets.has name = false
  | .table _, _ => True

namespace Session

variable {s s' s'' : Session} {taken more : List Theft} {kind : NameKind} {name : Text}
variable {display : Option Text}

theorem Looks.refl (s : Session) : s.Looks s :=
  ⟨rfl, rfl, rfl⟩

theorem Looks.trans (h : s.Looks s') (h' : s'.Looks s'') : s.Looks s'' :=
  ⟨h'.store.trans h.store, h'.now.trans h.now, h'.worker.trans h.worker⟩

theorem Looks.sameCaches (h : s.Looks s') : s.SameCaches s' :=
  ⟨by rw [h.worker], by rw [h.worker]⟩

theorem Looks.meanwhile (h : s.Looks s') : s.Meanwhile s' [] where
  stolen := List.nil_subset _
  left := by rw [h.worker]; exact List.Subset.refl _
  store := by rw [h.store]; exact .none
  now := h.now

theorem Inserts.sameCaches (h : s.Inserts s' kind name display) : s.SameCaches s' :=
  ⟨by rw [h.worker], by rw [h.worker]⟩

/-- The insertion of a name may be looked at before and after. -/
theorem Inserts.of_looks {s₁ s₂ : Session} (h : s.Looks s₁) (h' : s₁.Inserts s₂ kind name display)
    (h'' : s₂.Looks s') : s.Inserts s' kind name display where
  free := by rw [← h.store]; exact h'.free
  store := by rw [h''.store, h'.store, h.store, h.now]
  now := h''.now.trans (h'.now.trans h.now)
  worker := h''.worker.trans (h'.worker.trans h.worker)

theorem Meanwhile.trans (h : s.Meanwhile s' taken) (h' : s'.Meanwhile s'' more) :
    s.Meanwhile s'' (taken ++ more) where
  stolen := List.append_subset.2 ⟨h.stolen, List.Subset.trans h'.stolen h.left⟩
  left := List.Subset.trans h'.left h.left
  store := h.store.append (h.now ▸ h'.store)
  now := h'.now.trans h.now

theorem Looks.yields (h : s.Looks s') : s.Yields s' :=
  ⟨⟨[], h.meanwhile⟩, h.sameCaches⟩

/-- Whoever has yielded may look around. -/
theorem Yields.looks (h : s.Yields s') (h' : s'.Looks s'') : s.Yields s'' := by
  obtain ⟨taken, hmeanwhile⟩ := h.meanwhile
  refine ⟨⟨taken, hmeanwhile.stolen, ?_, ?_, h'.now.trans hmeanwhile.now⟩, ?_, ?_⟩
  · rw [h'.worker]
    exact hmeanwhile.left
  · rw [h'.store]
    exact hmeanwhile.store
  · rw [h'.worker, h.caches.suffixes]
  · rw [h'.worker, h.caches.truncations]

theorem SameCaches.refl (s : Session) : s.SameCaches s :=
  ⟨rfl, rfl⟩

theorem SameCaches.trans (h : s.SameCaches s') (h' : s'.SameCaches s'') : s.SameCaches s'' :=
  ⟨h'.suffixes.trans h.suffixes, h'.truncations.trans h.truncations⟩

end Session

namespace Registry

variable {α : Type} {s : Session} {rows : Table} {kind : NameKind} {name : Text}
variable {display : Option Text}

/-! ### Looking -/

/-- A log entry changes nothing else. -/
theorem note_ends (e : LogEntry) :
    Ends (Task.note e) s (fun _ s' => s.Looks s') (fun _ _ => False) := by
  rw [Task.note, ends_modify]
  split
  · exact .refl s
  · exact ⟨rfl, rfl, rfl⟩

theorem noteDebug_ends (message : String) (context : Fields) :
    Ends (noteDebug message context) s (fun _ s' => s.Looks s') (fun _ _ => False) :=
  note_ends _

theorem request_ends (r : StoreRequest) :
    Ends (Task.request r) s (fun _ s' => s.Looks s') (fun _ _ => False) := by
  rw [Task.request, ends_bind, ends_get, ends_bind, ends_set, ends_pure]
  exact ⟨rfl, rfl, rfl⟩

/-- A failed operation only leaves its traces in the log. -/
theorem fail_ends (logged operation : String) (context : Fields) (f : Fault) :
    Ends (fail logged operation context f : Task α) s (fun _ _ => False)
      (fun _ s' => s.Looks s') := by
  unfold fail
  split
  · rw [ends_bind, ends_get, ends_bind]
    refine (note_ends _).mono (fun _ s₁ h₁ => ?_) (fun _ _ h => h.elim)
    rw [ends_bind]
    refine (note_ends _).mono (fun _ s₂ h₂ => ?_) (fun _ _ h => h.elim)
    exact h₁.trans h₂
  · exact .refl s

theorem usedRow?_ends (rows : Table) (name : Text) :
    Ends (usedRow? rows name) s (fun _ s' => s.Looks s') (fun _ s' => s.Looks s') := by
  rw [usedRow?, ends_bind]
  refine (request_ends _).mono (fun r s₁ h₁ => ?_) (fun _ _ h => h.elim)
  split
  · exact h₁
  · exact (fail_ends _ _ _ _).mono (fun _ _ h => h.elim) (fun _ _ h₂ => h₁.trans h₂)
  · exact h₁

/-- Asking for a name changes nothing, and a name that is free may be claimed. -/
theorem isUsed_ends (name : Text) :
    Ends (isUsed name) s
      (fun used s' => s.Looks s' ∧ (used = false → s.shared.store.Open name))
      (fun _ s' => s.Looks s') := by
  rw [isUsed, ends_bind, ends_get]
  split
  · rename_i sets hs
    rw [ends_pure]
    exact ⟨.refl s, fun h => by rw [hs]; exact h⟩
  · -- whatever the table answers, it will check the name again when it is claimed
    rename_i rows hs
    rw [ends_bind]
    refine (usedRow?_ends rows name).mono (fun _ s₁ h₁ => ?_) (fun _ _ h => h)
    rw [ends_pure]
    exact ⟨h₁, fun _ => by rw [hs]; trivial⟩

/-! ### Claiming -/

/-- A row is inserted only under a name that has none. -/
theorem saveRow_ends (hs : s.shared.store = .table rows) :
    Ends (saveRow rows name kind display) s
      (fun r s' => match r with
        | none => s.Inserts s' kind name display
        | some _ => s.Looks s')
      (fun _ _ => False) := by
  rw [saveRow, ends_bind]
  refine (request_ends _).mono (fun r s₁ h₁ => ?_) (fun _ _ h => h.elim)
  cases r with
  | some f => exact h₁
  | none =>
    by_cases hrow : rows.contains name = true
    · simp only [hrow, if_true, ends_pure]
      exact h₁
    · simp only [hrow, Bool.false_eq_true, if_false]
      rw [ends_bind, ends_get, ends_bind, Task.setStore, ends_modify, ends_pure]
      exact {
        free := by rw [hs]; exact Bool.eq_false_iff.2 hrow
        store := by rw [hs, ← h₁.now]; rfl
        now := h₁.now
        worker := h₁.worker }

/-- A claim of a row inserts it, or it changes nothing. -/
theorem claimRow_ends (hs : s.shared.store = .table rows) :
    Ends (claimRow rows name kind display) s
      (fun won s' => if won then s.Inserts s' kind name display else s.Looks s')
      (fun _ s' => s.Looks s') := by
  rw [claimRow, ends_bind]
  refine (saveRow_ends hs).mono (fun r s₁ h₁ => ?_) (fun _ _ h => h.elim)
  cases r with
  | none =>
    rw [ends_bind]
    refine (noteDebug_ends _ _).mono (fun _ s₂ h₂ => ?_) (fun _ _ h => h.elim)
    exact h₁.of_looks (.refl s) h₂
  | some f =>
    -- the row was not inserted: the claim is lost if somebody has the name, and fails otherwise
    simp only
    split
    · rw [ends_bind]
      refine (noteDebug_ends _ _).mono (fun _ s₂ h₂ => ?_) (fun _ _ h => h.elim)
      exact h₁.trans h₂
    · exact (fail_ends _ _ _ _).mono (fun _ _ h => h.elim) (fun _ _ h₂ => h₁.trans h₂)

theorem setStore_ends {sets : NameSets} (hs : s.shared.store = .memory sets)
    (hfree : sets.has name = false) :
    Ends (Task.setStore (.memory (sets.add kind name))) s
      (fun _ s' => s.Inserts s' kind name display) (fun _ _ => False) := by
  rw [Task.setStore, ends_modify]
  exact ⟨by rw [hs]; exact hfree, by rw [hs]; rfl, rfl, rfl⟩

/-- An open name is inserted for a kind, or nothing changes. -/
theorem insertNew_ends (ho : s.shared.store.Open name) :
    Ends (insertNew kind name display) s
      (fun won s' => if won then s.Inserts s' kind name display else s.Looks s')
      (fun _ s' => s.Looks s') := by
  rw [insertNew, ends_bind, ends_get]
  split
  · rename_i sets hs
    have hfree : sets.has name = false := by rwa [hs] at ho
    simp only [hfree, Bool.false_eq_true, if_false, ends_bind]
    exact (setStore_ends hs hfree).mono (fun _ _ h => h) (fun _ _ h => h.elim)
  · rename_i rows hs
    exact claimRow_ends hs

/-- A name that somebody holds is not inserted. -/
theorem insertNew_loses (hheld : s.shared.store.has name = true) :
    Ends (insertNew kind name display) s
      (fun won s' => won = false ∧ s.Looks s') (fun _ s' => s.Looks s') := by
  rw [insertNew, ends_bind, ends_get]
  split
  · rename_i sets hs
    have hhas : sets.has name = true := by rwa [hs] at hheld
    simp only [hhas, if_true]
    rw [ends_bind]
    exact (noteDebug_ends _ _).mono (fun _ _ h => ⟨rfl, h⟩) fun _ _ h => h.elim
  · rename_i rows hs
    refine (claimRow_ends hs).mono (fun won s' h => ?_) fun _ _ h => h
    cases won with
    | true =>
      -- only a free name could have been inserted
      have hfree := Session.Inserts.free h
      rw [hheld] at hfree
      cases hfree
    | false => exact ⟨rfl, h⟩

/-- The session with another contention for the claims of its worker. -/
def withContention (s : Session) (c : Contention) : Session :=
  { s with worker := { s.worker with contention := c } }

theorem looks_of_contention {c : Contention} {s' : Session}
    (hc : c.stolen ⊆ s.worker.contention.stolen) (h : (withContention s c).Looks s') :
    s.Yields s' where
  meanwhile :=
    ⟨[], List.nil_subset _, by rw [h.worker]; exact hc, by rw [h.store]; exact .none, h.now⟩
  caches := ⟨by rw [h.worker]; rfl, by rw [h.worker]; rfl⟩

theorem inserts_of_contention {c : Contention} {s' : Session} {theft : Theft}
    (htheft : theft ∈ s.worker.contention.stolen) (hc : c.stolen ⊆ s.worker.contention.stolen)
    (h : (withContention s c).Inserts s' theft.kind theft.name none) : s.Yields s' where
  meanwhile := by
    refine ⟨[theft], by simpa using htheft, by rw [h.worker]; exact hc, ?_, h.now⟩
    rw [h.store]
    exact .one h.free
  caches := ⟨by rw [h.worker]; rfl, by rw [h.worker]; rfl⟩

/-- Another worker takes a name, unless somebody holds it already. Somebody does after that. -/
theorem yieldTo_ends {theft : Theft} {c : Contention} (htheft : theft ∈ s.worker.contention.stolen)
    (hc : c.stolen ⊆ s.worker.contention.stolen) :
    Ends (yieldTo theft) (withContention s c)
      (fun _ s' => s.Yields s' ∧ s'.shared.store.has theft.name = true) (fun _ _ => False) := by
  rw [yieldTo, ends_modify]
  dsimp only
  split
  · rename_i hheld
    exact ⟨looks_of_contention hc (.refl _), hheld⟩
  · rename_i hfree
    rw [Bool.not_eq_true] at hfree
    exact ⟨inserts_of_contention htheft hc ⟨hfree, rfl, rfl, rfl⟩,
      (Store.has_insert hfree).2 (Or.inr rfl)⟩

/-- Before a name is claimed another worker may take it; otherwise nothing has changed. -/
theorem interfere_ends (name : Text) :
    Ends (interfere name) s
      (fun _ s' => s' = s ∨ s.Yields s' ∧ s'.shared.store.has name = true)
      (fun _ s' => s.Yields s') := by
  rw [interfere, ends_bind, ends_get]
  dsimp only
  split
  · exact (Session.Looks.refl s).yields
  · split
    · -- the theft is over before the other worker takes the name
      rename_i theft htheft
      obtain rfl : theft.name = name := by simpa using List.find?_some htheft
      rw [ends_bind, ends_set]
      exact (yieldTo_ends (List.mem_of_find?_eq_some htheft) List.erase_subset).mono
        (fun _ _ h => Or.inr h) fun _ _ h => h.elim
    · exact Or.inl rfl

/-- A claim of an open name that is won inserts the name. Otherwise the name is at most taken by
another worker. -/
theorem claim_ends (ho : s.shared.store.Open name) :
    Ends (claim kind name display) s
      (fun won s' => if won then s.Inserts s' kind name display else s.Yields s')
      (fun _ s' => s.Yields s') := by
  rw [claim, ends_bind]
  refine (interfere_ends name).mono (fun _ s₁ h₁ => ?_) (fun _ _ h => h)
  rcases h₁ with rfl | ⟨hyields, hheld⟩
  · refine (insertNew_ends ho).mono (fun won s₂ h₂ => ?_) (fun _ _ h₂ => h₂.yields)
    cases won with
    | true => exact h₂
    | false => exact Session.Looks.yields h₂
  · -- the other worker was faster
    refine (insertNew_loses hheld).mono (fun won s₂ h₂ => ?_) (fun _ _ h₂ => hyields.looks h₂)
    obtain ⟨rfl, hlooks⟩ := h₂
    exact hyields.looks hlooks

end Registry

end Namesake
