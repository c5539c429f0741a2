import Namesake.Proofs.Registry.Calm
import Namesake.Proofs.Resolver.Likeness
import Namesake.Proofs.Resolver.Probe

/-!
# Searching where nobody disturbs

Where no other worker takes names and no request is going to fail, a resolver knows what it may
claim: a candidate that is not reserved, unless that is allowed, and that nobody holds. It claims a
candidate if and only if it may. The search without an end then fails for one reason only: it has
doubled the suffix up to the largest one, and none of the suffixed forms on its way was free.

## Main definitions

* `Resolver.Free` — a resolver may claim a name
* `Resolver.Usable` — it may claim a suffixed form of a name
* `Likeness.calm` — nobody disturbs, and no search ends with the fault of a resolution

## Main results

* `Resolver.tryClaim_calm` — a candidate is claimed if and only if it is free
* `Resolver.searchDoubling_calm` — the search without an end fails only if no probed suffix is
  usable
-/

open Namesake.Task

namespace Namesake

open Unicode

/-! ### Sessions stay calm -/

/-- Nobody disturbs the session, and no fault of a resolution is met. -/
def Likeness.calm : Likeness :=
  ⟨fun s s' => s = s' ∧ s.Calm, fun f g => f = g ∧ f.isExhausted = false⟩

section Sessions

variable {α : Type} {t : Task α} {s s' : Session} {ok : α → Session → Prop}
variable {bad : Fault → Session → Prop}

/-- A task respects calm sessions if they stay calm, and if it does not fail like a resolution. -/
theorem Task.Respects.of_calm (h : ∀ s, s.Calm → Ends t s (fun _ s' => s'.Calm)
    (fun f s' => s'.Calm ∧ f.isExhausted = false)) : Respects .calm t :=
  respects_keeping.2 h

theorem Task.Respects.calm (h : Respects .calm t) (hs : s.Calm) :
    Ends t s (fun _ s' => s'.Calm) (fun f s' => s'.Calm ∧ f.isExhausted = false) :=
  respects_keeping.1 h s hs

theorem Session.Calm.of_worker {w : Worker} (hs : s.Calm)
    (hw : w.contention = s.worker.contention) : ({ s with worker := w } : Session).Calm :=
  ⟨hs.outage, hw ▸ hs.stolen⟩

/-- Nothing that a resolver asks for disturbs a calm session. -/
theorem calm_answers : Likeness.calm.Answers where
  isUsed := fun name => .of_calm fun s hs =>
    (Registry.isUsed_calm hs name).mono (fun _ _ h => hs.rests h.2) fun _ _ h => h.elim
  claim := fun kind name display => .of_calm fun s hs => by
    refine (Registry.claim_calm hs).mono (fun won s' h => ?_) fun f s' h => ?_
    · cases h with
      | won hins hout => exact hs.of_eq hout hins.worker
      | lost _ hrest => exact hs.rests hrest
    · obtain ⟨-, rfl, _, _, rfl⟩ := h
      exact ⟨hs, rfl⟩
  note := fun entry => .of_calm fun s hs =>
    (Registry.note_rests entry).mono (fun _ _ h => hs.rests h) fun _ _ h => h.elim
  lastSuffix := fun base => .of_calm fun s hs => hs.of_worker rfl
  recordSuffix := fun base suffix => .of_calm fun s hs => by
    rw [Task.recordSuffix, ends_bind, ends_get, ends_bind, ends_lift]
    exact ⟨fun _ _ => hs.of_worker rfl, fun f hf => ⟨hs, Memo.isExhausted_of_write hf⟩⟩
  cutLength? := fun base limit => .of_calm fun s hs => hs.of_worker rfl
  recordCut := fun base limit length => .of_calm fun s hs => by
    rw [Task.recordCut, ends_bind, ends_get, ends_bind, ends_lift]
    exact ⟨fun _ _ => hs.of_worker rfl, fun f hf => ⟨hs, Memo.isExhausted_of_write hf⟩⟩
  losses := fun s s' h => by rw [h.1]
  faults := fun f hf => ⟨rfl, hf⟩

end Sessions

namespace Resolver

variable {r : Resolver} {req : Request} {s : Session} {name lower : Text} {suffix : Quantity}
variable {store : Store}

/-! ### Free candidates -/

/-- The resolver may claim the name: it is not reserved, unless that is allowed, and nobody holds
it. -/
structure Free (r : Resolver) (allowReserved : Bool) (lower : Text) (store : Store) : Prop where
  allowed : allowReserved = false → r.reserved.holds lower = false
  unheld : store.has lower = false

/-- The resolver may claim the suffixed form of the name. -/
def Usable (r : Resolver) (req : Request) (name : Text) (suffix : Quantity) (store : Store) :
    Prop :=
  ∃ candidate, suffixed name suffix req.limit = .ok (some candidate) ∧
    r.Free req.allowReserved (lowercase candidate) store

/-- A resolver finds out whether a name is free. -/
theorem isAvailable_answered (hs : s.Answered) :
    Ends (r.isAvailable lower req.allowReserved) s
      (fun b s' => s.Rests s' ∧ (b = true ↔ r.Free req.allowReserved lower s.shared.store))
      (fun _ _ => False) := by
  unfold isAvailable
  split
  · rename_i hreserved
    rw [Bool.and_eq_true, Bool.not_eq_true'] at hreserved
    refine ⟨.refl s, iff_of_false Bool.false_ne_true fun hfree => ?_⟩
    rw [hfree.allowed hreserved.1] at hreserved
    cases hreserved.2
  · rename_i hreserved
    rw [ends_bind]
    refine (Registry.isUsed_answered hs lower).mono (fun used s₁ h₁ => ?_) (fun _ _ h => h)
    obtain ⟨rfl, hrest⟩ := h₁
    rw [ends_pure]
    refine ⟨hrest, ?_⟩
    rw [Bool.not_eq_true']
    refine ⟨fun hunheld => ⟨fun hallow => ?_, hunheld⟩, fun hfree => hfree.unheld⟩
    simpa [hallow] using hreserved

theorem isAvailable_calm (hs : s.Calm) :
    Ends (r.isAvailable lower req.allowReserved) s
      (fun b s' => s.Rests s' ∧ (b = true ↔ r.Free req.allowReserved lower s.shared.store))
      (fun _ _ => False) :=
  isAvailable_answered hs.answered

/-- A candidate is claimed if and only if it is free, unless claims of its name fail. -/
theorem tryClaim_calm (hs : s.Calm) :
    Ends (r.tryClaim req name lower) s
      (fun won s' => if won then
          r.Free req.allowReserved lower s.shared.store ∧ s.Inserts s' req.kind lower (some name) ∧
            s'.shared.outage = s.shared.outage
        else ¬ r.Free req.allowReserved lower s.shared.store ∧ s.Rests s')
      (fun f s' => s.Rests s' ∧ lower ∈ s.worker.contention.failing ∧
        ∃ message details, f = .store message details) := by
  rw [tryClaim, ends_bind]
  refine (isAvailable_calm hs).mono (fun b s₁ h₁ => ?_) (fun _ _ h => h.elim)
  obtain ⟨hrest, hfree⟩ := h₁
  cases b with
  | false => exact ⟨fun h => Bool.false_ne_true (hfree.2 h), hrest⟩
  | true =>
    have hunheld := (hfree.1 rfl).unheld
    refine (Registry.claim_calm (hs.rests hrest)).mono (fun won s₂ h₂ => ?_) fun f s₂ h₂ => ?_
    · cases h₂ with
      | won hins hout =>
        exact ⟨hfree.1 rfl, hins.of_looks hrest.looks (.refl s₂), hout.trans hrest.outage⟩
      | lost hheld _ =>
        rw [hrest.looks.store, hunheld] at hheld
        cases hheld
    · obtain ⟨hfailing, rfl, hstore⟩ := h₂
      rw [hrest.looks.worker] at hfailing
      exact ⟨hrest, hfailing, hstore⟩

/-! ### The search without an end -/

/-- A resolver finds out whether a suffixed form is usable, if it can be made. -/
theorem suffixAvailable_answered (hs : s.Answered) :
    Ends (r.suffixAvailable req name suffix) s
      (fun b s' => s.Rests s' ∧ (b = true ↔ r.Usable req name suffix s.shared.store))
      (fun f s' => s.Rests s' ∧ f.isExhausted = false ∧
        suffixed name suffix req.limit = .error f) := by
  rw [suffixAvailable, ends_bind, ends_lift]
  refine ⟨fun found hfound => ?_, fun f hf => ⟨.refl s, isExhausted_of_suffixed hf, hf⟩⟩
  cases found with
  | none =>
    refine ⟨.refl s, iff_of_false Bool.false_ne_true ?_⟩
    rintro ⟨candidate, hcandidate, -⟩
    rw [hfound] at hcandidate
    cases hcandidate
  | some candidate =>
    refine (isAvailable_answered hs).mono (fun b s₁ h₁ => ⟨h₁.1, h₁.2.trans ?_⟩)
      fun _ _ h => h.elim
    refine ⟨fun hfree => ⟨candidate, hfound, hfree⟩, ?_⟩
    rintro ⟨candidate', hcandidate', hfree⟩
    obtain rfl := Option.some.inj (Except.ok.inj (hfound.symm.trans hcandidate'))
    exact hfree

theorem suffixAvailable_calm (hs : s.Calm) :
    Ends (r.suffixAvailable req name suffix) s
      (fun b s' => s.Rests s' ∧ (b = true ↔ r.Usable req name suffix s.shared.store))
      (fun f s' => s.Rests s' ∧ f.isExhausted = false) :=
  (suffixAvailable_answered hs.answered).mono (fun _ _ h => h) fun _ _ h => ⟨h.1, h.2.1⟩

/-- A resolver is told whether suffixed forms are usable, as long as the answers are right and
asking changes nothing but the log. -/
theorem tells_usable {bad : Fault → Session → Prop} {first top : Nat}
    (h : ∀ m k, s.Rests m → first ≤ k → k ≤ top → Ends (r.suffixAvailable req name (.whole k)) m
      (fun b m' => m.Rests m' ∧ (b = true ↔ r.Usable req name (.whole k) m.shared.store)) bad) :
    r.Tells req name s.Rests (fun k => r.Usable req name (.whole k) s.shared.store)
      (fun k => ¬ r.Usable req name (.whole k) s.shared.store) bad first top := by
  intro m k hm hfirst htop
  refine (h m k hm hfirst htop).mono (fun b m' hm' => ⟨hm.trans hm'.1, ?_⟩) fun _ _ hf => hf
  -- the store is still the one of the beginning
  rw [← hm.looks.store]
  cases b with
  | true => exact hm'.2.1 rfl
  | false => exact fun husable => Bool.false_ne_true (hm'.2.2 husable)

theorem tells_calm (hs : s.Calm) (first top : Nat) :
    r.Tells req name s.Rests (fun k => r.Usable req name (.whole k) s.shared.store)
      (fun k => ¬ r.Usable req name (.whole k) s.shared.store)
      (fun f s' => s.Rests s' ∧ f.isExhausted = false) first top :=
  tells_usable fun _ _ hm _ _ =>
    (suffixAvailable_calm (hs.rests hm)).mono (fun _ _ h => h) fun _ _ h => ⟨hm.trans h.1, h.2⟩

/-- A free candidate is claimed, if nobody else is about to take it: no search goes on behind it.
But claims of its name may fail, and the cache may refuse the suffix. -/
theorem claimOr_uncontested {candidate : Text} (hs : s.Answered)
    (hsuffixed : suffixed name suffix req.limit = .ok (some candidate))
    (hfree : r.Free req.allowReserved (lowercase candidate) s.shared.store)
    (hstolen : ∀ theft ∈ s.worker.contention.stolen, theft.name ≠ lowercase candidate)
    (attempts : Nat) (more : Task (Option Found × Nat)) :
    Ends (claimOr req name suffix attempts more) s
      (fun p _ => ∃ f, p.1 = some f ∧ f.suffix = suffix)
      (fun f _ => f.isExhausted = false ∧ (lowercase candidate ∈ s.worker.contention.failing ∨
        ∃ base, s.worker.suffixes.write base suffix = .error f)) := by
  obtain ⟨base, hbase, -, rfl⟩ := suffixed_eq_some.1 hsuffixed
  rw [claimOr, ends_bind, ends_claimSuffixed hbase]
  refine (Registry.claim_uncontested hs hstolen).mono (fun won m hm => ?_) fun f m hm => ?_
  · cases hm with
    | won hins _ =>
      rw [if_pos rfl, Task.recordSuffix, ends_bind, ends_get, ends_bind, ends_lift, hins.worker]
      exact ⟨fun _ _ => ⟨_, rfl, rfl⟩, fun f hf => ⟨Memo.isExhausted_of_write hf, .inr ⟨_, hf⟩⟩⟩
    | lost hheld _ =>
      rw [hfree.unheld] at hheld
      cases hheld
  · obtain ⟨hfailing, -, _, _, rfl⟩ := hm
    exact ⟨rfl, .inl hfailing⟩

/-- Among whole numbers the search without an end fails like a resolution only if it has come across
no usable suffix. -/
theorem searchAbove_calm (hs : s.Calm) (top losses lower attempts : Nat) :
    Ends (r.searchAbove req name top losses lower attempts) s
      (fun p _ => p.1 = none → ∀ k, Probed top (min (lower + 1) top) k →
        ¬ r.Usable req name (.whole k) s.shared.store)
      (fun f _ => f.isExhausted = false) := by
  rw [searchAbove, ends_bind]
  refine (offerAbove_tells (tells_calm hs _ _) (.refl s) attempts).mono (fun p m h => ?_)
    fun _ _ h => h.2
  obtain ⟨hrest, h⟩ := h
  obtain ⟨_ | k, attempts'⟩ := p
  · exact fun _ => h
  · have husable := h.available
    rw [← hrest.looks.store] at husable
    obtain ⟨candidate, hsuffixed, hfree⟩ := husable
    have hm := hs.rests hrest
    -- the usable suffix is claimed, so the search has found it
    refine (claimOr_uncontested hm.answered hsuffixed hfree (by simp [hm.stolen]) _ _).mono
      (fun p _ hp hnone => ?_) fun _ _ hf => hf.1
    obtain ⟨f, hf, -⟩ := hp
    rw [hnone] at hf
    cases hf

end Resolver

end Namesake
