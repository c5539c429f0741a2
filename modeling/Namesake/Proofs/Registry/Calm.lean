import Namesake.Proofs.Registry.Claim

/-!
# A registry that nobody disturbs

Where no request to the table is going to fail and no other worker is about to take a name, the
registry answers exactly by what its store holds: a look-up says whether the name is held, a claim
is won if nobody holds the name, and a name is given back only by the kind that holds it. Nothing
else changes but the log.

## Main definitions

* `Session.Answered` — the store answers every request
* `Session.Calm` — nobody interferes, and no request is going to fail
* `Session.Quiet` — and no claim is going to fail either
* `Session.Rests` — from one state to another nothing but the log changes
* `Store.erase` — a store without a name of one kind

## Main results

* `Registry.isUsed_answered`, `Registry.claim_uncontested` — looking a name up, and claiming a name
  that nobody else is about to take
* `Registry.isUsed_calm`, `Registry.claim_calm` — the same in a calm session
* `Registry.discard_calm`, `Registry.names_calm` — giving a name back, and going through the names
-/

open Namesake.Task

namespace Namesake

/-- The store answers every request: sets in memory need none, and no request to the table is going
to fail. -/
def Session.Answered (s : Session) : Prop :=
  ∀ rows, s.shared.store = .table rows → s.shared.outage = none

/-- No request is going to fail, and no other worker is about to take a name. -/
structure Session.Calm (s : Session) : Prop where
  outage : s.shared.outage = none
  stolen : s.worker.contention.stolen = []

/-- Besides, no claim is going to fail. -/
structure Session.Quiet (s : Session) : Prop extends s.Calm where
  failing : s.worker.contention.failing = []

/-- From the first state to the second nothing changes but the log. -/
structure Session.Rests (s s' : Session) : Prop where
  looks : s.Looks s'
  outage : s'.shared.outage = s.shared.outage

namespace Session

variable {s s' s'' : Session} {kind : NameKind} {name : Text} {display : Option Text}

theorem Rests.refl (s : Session) : s.Rests s :=
  ⟨.refl s, rfl⟩

theorem Rests.trans (h : s.Rests s') (h' : s'.Rests s'') : s.Rests s'' :=
  ⟨h.looks.trans h'.looks, h'.outage.trans h.outage⟩

/-- A session stays calm as long as what is going to happen stays the same. -/
theorem Calm.of_eq (h : s.Calm) (houtage : s'.shared.outage = s.shared.outage)
    (hworker : s'.worker = s.worker) : s'.Calm :=
  ⟨houtage.trans h.outage, by rw [hworker]; exact h.stolen⟩

theorem Quiet.of_eq (h : s.Quiet) (houtage : s'.shared.outage = s.shared.outage)
    (hworker : s'.worker = s.worker) : s'.Quiet :=
  ⟨h.toCalm.of_eq houtage hworker, by rw [hworker]; exact h.failing⟩

theorem Calm.answered (h : s.Calm) : s.Answered :=
  fun _ _ => h.outage

/-- A store goes on answering as long as it is the same, and as long as the same is going to fail.
-/
theorem Answered.of_eq (h : s.Answered) (hstore : s'.shared.store = s.shared.store)
    (houtage : s'.shared.outage = s.shared.outage) : s'.Answered :=
  fun rows hrows => houtage.trans (h rows (hstore.symm.trans hrows))

theorem Answered.rests (h : s.Answered) (h' : s.Rests s') : s'.Answered :=
  h.of_eq h'.looks.store h'.outage

theorem Calm.rests (h : s.Calm) (h' : s.Rests s') : s'.Calm :=
  h.of_eq h'.outage h'.looks.worker

end Session

/-- No two kinds have the same word. -/
theorem NameKind.word_inj {k kind : NameKind} : k.word = kind.word ↔ k = kind := by
  cases k <;> cases kind <;> decide

/-! ### A name less -/

namespace Store

variable {store : Store} {kind k : NameKind} {name n : Text}

/-- The store without a name of one kind. A table keeps the row of a name that another kind holds.
-/
def erase (store : Store) (kind : NameKind) (name : Text) : Store :=
  match store with
  | memory sets => .memory (sets.discard kind name)
  | table rows =>
    if (rows.get? name).any fun row => row.kind = kind then .table (rows.erase name)
    else .table rows

/-- A kind that gives a name back holds one name less, and no other kind does. -/
theorem hasAs_erase :
    (store.erase kind name).hasAs k n = true ↔
      store.hasAs k n = true ∧ ¬ (k = kind ∧ n = name) := by
  cases store with
  | memory sets =>
    simp only [erase, hasAs, NameSets.discard, names_setNames]
    split
    · rename_i hk
      subst hk
      rw [Std.TreeSet.contains_erase, Bool.and_eq_true, bne_iff_ne, ne_eq,
        Std.LawfulEqCmp.compare_eq_iff_eq, and_comm, @eq_comm _ name]
      simp
    · simp [*]
  | table rows =>
    simp only [erase, Std.TreeMap.get?_eq_getElem?]
    split
    · -- the kind holds the name, so no other kind does
      rename_i hheld
      simp only [hasAs, Std.TreeMap.get?_eq_getElem?, Std.TreeMap.getElem?_erase]
      by_cases hn : name = n
      · subst hn
        cases hrow : rows[name]? with
        | none => simp
        | some row =>
          have hkind : row.kind = kind := by simpa [hrow] using hheld
          simp [hkind, eq_comm]
      · simp [hn, Ne.symm hn]
    · rename_i hheld
      refine iff_self_and.2 ?_
      rintro hk ⟨rfl, rfl⟩
      exact hheld hk

end Store

namespace Registry

variable {s : Session} {kind : NameKind} {name : Text} {display : Option Text} {rows : Table}

/-! ### Looking -/

theorem note_rests (e : LogEntry) :
    Ends (Task.note e) s (fun _ s' => s.Rests s') (fun _ _ => False) := by
  rw [Task.note, ends_modify]
  split
  · exact .refl s
  · exact ⟨⟨rfl, rfl, rfl⟩, rfl⟩

theorem request_answered (houtage : s.shared.outage = none) (request : StoreRequest) :
    Ends (Task.request request) s (fun f s' => f = none ∧ s.Rests s') (fun _ _ => False) := by
  rw [Task.request, ends_bind, ends_get, ends_bind, ends_set, ends_pure, houtage]
  exact ⟨rfl, ⟨rfl, rfl, rfl⟩, houtage.symm⟩

theorem usedRow?_answered (houtage : s.shared.outage = none) (rows : Table) (name : Text) :
    Ends (usedRow? rows name) s (fun row s' => row = rows.get? name ∧ s.Rests s')
      (fun _ _ => False) := by
  rw [usedRow?, ends_bind]
  refine (request_answered houtage .get).mono (fun f s₁ h₁ => ?_) (fun _ _ h => h)
  obtain ⟨rfl, hrest⟩ := h₁
  exact ⟨rfl, hrest⟩

/-- A look-up says whether the name is held. -/
theorem isUsed_answered (hs : s.Answered) (name : Text) :
    Ends (isUsed name) s (fun used s' => used = s.shared.store.has name ∧ s.Rests s')
      (fun _ _ => False) := by
  rw [isUsed, ends_bind, ends_get]
  split
  · rename_i sets hstore
    exact ⟨by rw [hstore]; rfl, .refl s⟩
  · rename_i rows hstore
    rw [ends_bind]
    refine (usedRow?_answered (hs rows hstore) rows name).mono (fun row s₁ h₁ => ?_)
      (fun _ _ h => h)
    obtain ⟨rfl, hrest⟩ := h₁
    refine ⟨?_, hrest⟩
    rw [hstore, Store.has, Std.TreeMap.contains_eq_isSome_getElem?, Std.TreeMap.get?_eq_getElem?]

theorem isUsed_calm (hs : s.Calm) (name : Text) :
    Ends (isUsed name) s (fun used s' => used = s.shared.store.has name ∧ s.Rests s')
      (fun _ _ => False) :=
  isUsed_answered hs.answered name

/-- A look-up for one kind says whether that kind holds the name. -/
theorem has_calm (hs : s.Calm) (kind : NameKind) (name : Text) :
    Ends (has kind name) s (fun held s' => held = s.shared.store.hasAs kind name ∧ s.Rests s')
      (fun _ _ => False) := by
  rw [has, ends_bind, ends_get]
  split
  · rename_i sets hstore
    exact ⟨by rw [hstore]; rfl, .refl s⟩
  · rename_i rows hstore
    rw [ends_bind]
    refine (usedRow?_answered hs.outage rows name).mono (fun row s₁ h₁ => ?_) (fun _ _ h => h)
    obtain ⟨rfl, hrest⟩ := h₁
    exact ⟨by rw [hstore]; rfl, hrest⟩

/-- Whoever goes through the names of a kind meets those that the store holds for it. -/
theorem names_calm (hs : s.Calm) (kind : NameKind) :
    Ends (names kind) s (fun l s' => l = s.shared.store.names kind ∧ s.Rests s')
      (fun _ _ => False) := by
  rw [names, ends_bind, ends_get]
  split
  · rename_i sets hstore
    exact ⟨by rw [hstore]; rfl, .refl s⟩
  · rename_i rows hstore
    rw [scanNames, ends_bind]
    refine (request_answered hs.outage .scan).mono (fun f s₁ h₁ => ?_) (fun _ _ h => h)
    obtain ⟨rfl, hrest⟩ := h₁
    exact ⟨by rw [hstore]; rfl, hrest⟩

theorem count_calm (hs : s.Calm) (kind : NameKind) :
    Ends (count kind) s (fun n s' => n = (s.shared.store.names kind).length ∧ s.Rests s')
      (fun _ _ => False) := by
  rw [count, ends_bind]
  refine (names_calm hs kind).mono (fun l s₁ h₁ => ?_) (fun _ _ h => h)
  obtain ⟨rfl, hrest⟩ := h₁
  exact ⟨rfl, hrest⟩

/-! ### Changing the store -/

/-- How a claim ends that nobody disturbs: it is won if nobody holds the name. -/
inductive Claimed (s s' : Session) (kind : NameKind) (name : Text) (display : Option Text) :
    Bool → Prop
  | won : s.Inserts s' kind name display → s'.shared.outage = s.shared.outage →
      Claimed s s' kind name display true
  | lost : s.shared.store.has name = true → s.Rests s' → Claimed s s' kind name display false

theorem saveRow_answered (houtage : s.shared.outage = none)
    (hstore : s.shared.store = .table rows) :
    Ends (saveRow rows name kind display) s
      (fun f s' => if rows.contains name then
          f = some (.table .put "Failed to put item" (some (.str conditionalCode))) ∧ s.Rests s'
        else
          f = none ∧ s.Inserts s' kind name display ∧ s'.shared.outage = s.shared.outage)
      (fun _ _ => False) := by
  rw [saveRow, ends_bind]
  refine (request_answered houtage .save).mono (fun f s₁ h₁ => ?_) (fun _ _ h => h)
  obtain ⟨rfl, hrest⟩ := h₁
  dsimp only
  by_cases hrow : rows.contains name = true
  · rw [if_pos hrow, ends_pure, if_pos hrow]
    exact ⟨rfl, hrest⟩
  · rw [if_neg hrow, ends_bind, ends_get, ends_bind, Task.setStore, ends_modify, ends_pure,
      if_neg hrow]
    refine ⟨rfl, ⟨?_, ?_, hrest.looks.now, hrest.looks.worker⟩, hrest.outage⟩
    · rw [hstore]
      exact Bool.eq_false_iff.2 hrow
    · rw [hstore, ← hrest.looks.now]
      rfl

theorem claimRow_answered (houtage : s.shared.outage = none)
    (hstore : s.shared.store = .table rows) :
    Ends (claimRow rows name kind display) s (fun won s' => Claimed s s' kind name display won)
      (fun _ _ => False) := by
  rw [claimRow, ends_bind]
  refine (saveRow_answered houtage hstore).mono (fun f s₁ h₁ => ?_) (fun _ _ h => h)
  have hhas : s.shared.store.has name = rows.contains name := by rw [hstore]; rfl
  by_cases hrow : rows.contains name = true
  · rw [if_pos hrow] at h₁
    obtain ⟨rfl, hrest⟩ := h₁
    -- the fault is the one that says that the row is there
    dsimp only
    rw [if_pos (by decide), ends_bind]
    refine (note_rests _).mono (fun _ s₂ h₂ => ?_) (fun _ _ h => h)
    exact .lost (hhas.trans hrow) (hrest.trans h₂)
  · rw [if_neg hrow] at h₁
    obtain ⟨rfl, hins, houtage⟩ := h₁
    dsimp only
    rw [ends_bind]
    refine (note_rests _).mono (fun _ s₂ h₂ => ?_) (fun _ _ h => h)
    exact .won (hins.of_looks (.refl s) h₂.looks) (h₂.outage.trans houtage)

/-- A claim that nobody interferes with is won if nobody holds the name. -/
theorem insertNew_answered (hs : s.Answered) :
    Ends (insertNew kind name display) s (fun won s' => Claimed s s' kind name display won)
      (fun _ _ => False) := by
  rw [insertNew, ends_bind, ends_get]
  split
  · rename_i sets hstore
    have hhas : s.shared.store.has name = sets.has name := by rw [hstore]; rfl
    by_cases hheld : sets.has name = true
    · rw [if_pos hheld, ends_bind]
      refine (note_rests _).mono (fun _ s₁ h₁ => ?_) (fun _ _ h => h)
      exact .lost (hhas.trans hheld) h₁
    · rw [if_neg hheld, ends_bind, Task.setStore, ends_modify, ends_pure]
      rw [Bool.not_eq_true] at hheld
      refine .won ⟨hhas.trans hheld, ?_, rfl, rfl⟩ rfl
      rw [hstore]
      rfl
  · rename_i rows hstore
    exact claimRow_answered (hs rows hstore) hstore

/-- A claim of a name that nobody else is about to take is won if nobody holds the name, unless the
claims of the name fail. -/
theorem claim_uncontested (hs : s.Answered)
    (hstolen : ∀ theft ∈ s.worker.contention.stolen, theft.name ≠ name) :
    Ends (claim kind name display) s (fun won s' => Claimed s s' kind name display won)
      (fun f s' => name ∈ s.worker.contention.failing ∧ s' = s ∧
        ∃ message details, f = .store message details) := by
  rw [claim, interfere, ends_bind, ends_bind, ends_get]
  dsimp only
  split
  · rename_i hfailing
    exact ⟨List.contains_iff_mem.1 hfailing, rfl, _, _, rfl⟩
  · have hnone : (s.worker.contention.stolen.find? fun t => t.name = name) = none :=
      List.find?_eq_none.2 fun theft htheft => by simpa using hstolen theft htheft
    rw [hnone]
    exact (insertNew_answered hs).mono (fun _ _ h => h) (fun _ _ h => h.elim)

theorem claim_calm (hs : s.Calm) :
    Ends (claim kind name display) s (fun won s' => Claimed s s' kind name display won)
      (fun f s' => name ∈ s.worker.contention.failing ∧ s' = s ∧
        ∃ message details, f = .store message details) :=
  claim_uncontested hs.answered fun theft htheft => by
    rw [hs.stolen] at htheft
    cases htheft

/-- A name is given back if the kind holds it. -/
theorem discard_calm (hs : s.Calm) (kind : NameKind) (name : Text) :
    Ends (discard kind name) s
      (fun _ s' => s'.shared.store = s.shared.store.erase kind name ∧
        s'.shared.outage = s.shared.outage ∧ s'.worker = s.worker)
      (fun _ _ => False) := by
  rw [discard, ends_bind, ends_get]
  split
  · rename_i sets hstore
    rw [Task.setStore, ends_modify, hstore]
    exact ⟨rfl, rfl, rfl⟩
  · rename_i rows hstore
    rw [ends_discard, releaseRow, ends_bind]
    refine (request_answered hs.outage .delete).mono (fun f s₁ h₁ => ?_) (fun _ _ h => h)
    obtain ⟨rfl, hrest⟩ := h₁
    rw [hstore, Store.erase]
    cases hrow : rows.get? name with
    | none => exact ⟨hrest.looks.store.trans hstore, hrest.outage, hrest.looks.worker⟩
    | some row =>
      simp only [NameKind.word_inj, Option.any_some, decide_eq_true_eq]
      by_cases hkind : row.kind = kind
      · rw [if_pos hkind, if_pos hkind, ends_bind, Task.setStore, ends_modify]
        exact ⟨rfl, hrest.outage, hrest.looks.worker⟩
      · rw [if_neg hkind, if_neg hkind, ends_pure]
        exact ⟨hrest.looks.store.trans hstore, hrest.outage, hrest.looks.worker⟩

end Registry

end Namesake
