import Namesake.Proofs.Resolver.Log
import Namesake.Proofs.Resolver.Mirror

/-!
# What a more verbose log adds

Entries of the lowest level are kept only if that is asked for. A resolver that keeps them does
nothing else differently: whatever calls are made, on whatever store, with whatever requests failing
and whatever names being taken by others, they end in the same way, the store and the caches are
left the same, and the entries of the shorter log are those of the longer one above the lowest
level.

## Main definitions

* `Journal.Silences` — the second journal leaves out what the first keeps of the lowest level
* `Team.verbose` — the team whose members keep entries of the lowest level, or do not
* `Team.Journals` — teams that differ in nothing but related journals

## Main results

* `Team.outcomes_journals` — any number of calls end alike, whatever is written
* `Team.verbosity_only_adds_entries` — what a more verbose log adds
-/

open Namesake.Task

namespace Namesake

/-! ### Two journals -/

/-- The entries above the lowest level. -/
def LogEntry.aboveDebug (entries : List LogEntry) : List LogEntry :=
  entries.filter fun e => e.level ≠ .debug

/-- Since both journals held `log`, the first has kept every entry, and the second those above the
lowest level. -/
def Journal.Silences (log : List LogEntry) (j j' : Journal) : Prop :=
  ∃ entries, j = ⟨true, log ++ entries⟩ ∧ j' = ⟨false, log ++ LogEntry.aboveDebug entries⟩

/-- One more entry is kept by the second journal if it is above the lowest level, and by the first
in any case. -/
theorem Journal.isKept_silences (log : List LogEntry) : Journal.IsKept (Journal.Silences log) := by
  rintro e _ _ ⟨entries, rfl, rfl⟩
  refine ⟨entries ++ [e], ?_, ?_⟩
  · simp [note, List.append_assoc]
  · by_cases hlevel : e.level = .debug
    · simp [note, LogEntry.aboveDebug, hlevel]
    · simp [note, LogEntry.aboveDebug, hlevel, List.append_assoc]

/-! ### Two teams -/

namespace Team

/-- The team with another journal. -/
def withJournal (t : Team) (j : Journal) : Team :=
  { t with shared := { t.shared with debug := j.debug, log := j.log } }

/-- The journal of a team. -/
def journal (t : Team) : Journal :=
  ⟨t.shared.debug, t.shared.log⟩

/-- The teams differ in nothing but their journals, which are related. -/
def Journals (R : Journal → Journal → Prop) (t t' : Team) : Prop :=
  ∃ j, t' = t.withJournal j ∧ R t.journal j

variable {R : Journal → Journal → Prop} {t t' : Team}

/-- A call ends alike, whatever is written, and the teams differ again in nothing else. -/
theorem call_journals (hR : Journal.IsKept R) (h : t.Journals R t') (c : Call) :
    t.outcome c = t'.outcome c ∧ (t.call c).2.Journals R (t'.call c).2 := by
  obtain ⟨j, rfl, hj⟩ := h
  have hmembers : (t.withJournal j).members = t.members := rfl
  rw [call_snd, call_snd, outcome, outcome, hmembers]
  cases t.members[c.member]? with
  | none => exact ⟨rfl, j, rfl, hj⟩
  | some member =>
    obtain ⟨r, w⟩ := member
    -- the member works in sessions that differ as the teams do
    have hsession : (t.withJournal j).session c w = (t.session c w).withJournal j := rfl
    have hlike : (Likeness.journals R (t.session c w).frame).sessions (t.session c w)
        ((t.session c w).withJournal j) := ⟨j, rfl, hj, rfl⟩
    have halike := r.resolve_journals hR c.request _ _ hlike
    obtain ⟨hout, j', hleft, hj', -⟩ := halike.outcome_eq fun _ _ hfg => hfg
    dsimp only
    rw [Option.map_some, Option.map_some, hsession, ← hout, hleft]
    exact ⟨rfl, j', rfl, hj'⟩

/-- Any number of calls end alike, whatever is written, and the teams differ again in nothing else.
-/
theorem outcomes_journals (hR : Journal.IsKept R) (h : t.Journals R t') (calls : List Call) :
    t.outcomes calls = t'.outcomes calls ∧ (t.run calls).2.Journals R (t'.run calls).2 := by
  induction calls generalizing t t' with
  | nil => exact ⟨rfl, h⟩
  | cons c calls ih =>
    obtain ⟨hout, hcall⟩ := call_journals hR h c
    obtain ⟨houts, hrun⟩ := ih hcall
    exact ⟨by rw [outcomes, outcomes, hout, houts], hrun⟩

/-- The team whose members keep entries of the lowest level, or do not. -/
def verbose (t : Team) (debug : Bool) : Team :=
  { t with shared := { t.shared with debug } }

/-- Whether entries of the lowest level are kept or not, any number of calls end in the same way,
whatever the store is, whatever requests fail and whatever names others take. The store and the
caches of the members are the same in the end. What is written while entries of the lowest level are
left out is what is written while they are kept, without them and in the same order. -/
theorem verbosity_only_adds_entries (t : Team) (calls : List Call) :
    (t.verbose true).outcomes calls = (t.verbose false).outcomes calls ∧
      ((t.verbose true).run calls).2.shared.store = ((t.verbose false).run calls).2.shared.store ∧
      ((t.verbose true).run calls).2.members = ((t.verbose false).run calls).2.members ∧
      ∃ entries,
        ((t.verbose true).run calls).2.shared.log = t.shared.log ++ entries ∧
        ((t.verbose false).run calls).2.shared.log =
          t.shared.log ++ entries.filter fun e => e.level ≠ .debug := by
  -- before the first call neither has kept an entry
  have hbefore : (t.verbose true).Journals (Journal.Silences t.shared.log) (t.verbose false) :=
    ⟨⟨false, t.shared.log⟩, rfl, [], by simp [journal, verbose], by simp [LogEntry.aboveDebug]⟩
  obtain ⟨houts, j, hteam, entries, hkept, hsilent⟩ :=
    outcomes_journals (Journal.isKept_silences t.shared.log) hbefore calls
  refine ⟨houts, ?_, ?_, entries, ?_, ?_⟩
  · rw [hteam]
    rfl
  · rw [hteam]
    rfl
  · exact congrArg Journal.log hkept
  · rw [hteam]
    exact congrArg Journal.log hsilent

end Team

end Namesake
