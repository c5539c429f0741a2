import Namesake.Proofs.Registry.Mirror
import Namesake.Proofs.Resolver.Likeness
import Namesake.Proofs.Resolver.Team

/-!
# Resolvers on a mirror

Resolvers see of a store only what the registry answers. So they do the same on sets in memory and
on a table that mirrors them: each of them gives the same names, and comes to the same faults, and
leaves a mirror behind.

## Main definitions

* `Call.Quiet` — a call with which nobody interferes
* `Team.outcome`, `Team.outcomes` — how a call ends for the caller, and how any number of them end
* `Team.Mirrors` — the same resolvers, one time on sets in memory and one time on their mirror

## Main results

* `Resolver.resolve_mirrors` — a request ends alike on sets and on their mirror
* `Team.outcomes_mirrors` — so does any sequence of calls
* `Store.table_refines_memory` — a table does as the sets do that it mirrors
-/

open Namesake.Task

namespace Namesake

/-! ### One resolution -/

section Sessions

variable {s s' : Session}

/-- Both workers may change their caches in the same way. -/
theorem Session.Mirrors.mapWorker (h : s.Mirrors Eq s') {f : Worker → Worker}
    (hf : ∀ w, (f w).contention = w.contention) :
    ({ s with worker := f s.worker } : Session).Mirrors Eq { s' with worker := f s'.worker } where
  store := h.store
  quiet := ⟨⟨h.quiet.outage, by rw [hf]; exact h.quiet.stolen⟩, by rw [hf]; exact h.quiet.failing⟩
  quiet' := ⟨⟨h.quiet'.outage, by rw [hf]; exact h.quiet'.stolen⟩,
    by rw [hf]; exact h.quiet'.failing⟩
  workers := congrArg f h.workers

theorem note_respects (entry : LogEntry) : Respects (.mirror Eq) (Task.note entry) := fun _ _ h =>
  .of_ends (Registry.note_rests entry) (Registry.note_rests entry) fun _ _ _ _ hm hm' =>
    ⟨rfl, h.rests hm hm'⟩

theorem lastSuffix_respects (base : Text) : Respects (.mirror Eq) (Task.lastSuffix base) :=
  .modifyGet fun _ _ h => ⟨congrArg (fun w => (SuffixCache.last w.suffixes base).1) h.workers,
    h.mapWorker (f := fun w => { w with suffixes := (SuffixCache.last w.suffixes base).2 })
      fun _ => rfl⟩

theorem cutLength?_respects (base : Text) (limit : Limit) :
    Respects (.mirror Eq) (Task.cutLength? base limit) :=
  .modifyGet fun _ _ h =>
    ⟨congrArg (fun w => (TruncationCache.cutLength? w.truncations base limit).1) h.workers,
    h.mapWorker (f := fun w =>
      { w with truncations := (TruncationCache.cutLength? w.truncations base limit).2 })
      fun _ => rfl⟩

theorem recordSuffix_respects (base : Text) (suffix : Quantity) :
    Respects (.mirror Eq) (Task.recordSuffix base suffix) := by
  refine .get fun s s' h => ?_
  rw [show s.worker = s'.worker from h.workers]
  refine ((Respects.lift fun _ _ => rfl) s s' h).bind fun suffixes m m' hm => ?_
  exact ⟨rfl, hm.mapWorker (f := fun w => { w with suffixes }) fun _ => rfl⟩

theorem recordCut_respects (base : Text) (limit : Limit) (length : Nat) :
    Respects (.mirror Eq) (Task.recordCut base limit length) := by
  refine .get fun s s' h => ?_
  rw [show s.worker = s'.worker from h.workers]
  refine ((Respects.lift fun _ _ => rfl) s s' h).bind fun truncations m m' hm => ?_
  exact ⟨rfl, hm.mapWorker (f := fun w => { w with truncations }) fun _ => rfl⟩

/-- Whatever a resolver asks, sets and their mirror answer alike. -/
theorem mirror_answers : (Likeness.mirror Eq).Answers where
  isUsed := Registry.isUsed_respects
  claim := Registry.claim_respects
  note := note_respects
  lastSuffix := lastSuffix_respects
  recordSuffix := recordSuffix_respects
  cutLength? := cutLength?_respects
  recordCut := recordCut_respects
  losses := fun s s' h => by
    unfold Resolver.pendingLosses
    rw [h.quiet.stolen, h.quiet'.stolen, h.quiet.outage, h.quiet'.outage]
  faults := fun _ _ => rfl

/-- A request ends alike on sets and on their mirror: with the same result or with the same fault.
-/
theorem Resolver.resolve_mirrors (r : Resolver) (req : Request) (h : s.Mirrors Eq s') :
    outcome (r.resolve req) s = outcome (r.resolve req) s' ∧
      (left (r.resolve req) s).Mirrors Eq (left (r.resolve req) s') :=
  (resolve_respects mirror_answers r req (fun _ _ => rfl) s s' h).outcome_eq fun _ _ hfg => hfg

end Sessions

/-! ### Any number of resolutions -/

/-- A call with which nobody interferes. -/
structure Call.Quiet (c : Call) : Prop where
  outage : c.outage = none
  contention : c.contention = .none

namespace Team

/-- How a call ends for the caller. A call of nobody has no end. -/
def outcome (t : Team) (c : Call) : Option (Except Fault ResolvedName) :=
  t.members[c.member]?.map fun (r, w) => Task.outcome (r.resolve c.request) (t.session c w)

/-- How any number of calls end for their callers, one after the other. -/
def outcomes : Team → List Call → List (Option (Except Fault ResolvedName))
  | _, [] => []
  | t, c :: calls => t.outcome c :: outcomes (t.call c).2 calls

/-- The same resolvers with the same caches, on sets in memory and on their mirror. -/
structure Mirrors (t t' : Team) : Prop where
  store : t.shared.store.Mirrors t'.shared.store
  members : t.members = t'.members

variable {t t' : Team} {c : Call} {w : Worker}

theorem Mirrors.session (h : t.Mirrors t') (hc : c.Quiet) :
    (t.session c w).Mirrors Eq (t'.session c w) where
  store := h.store
  quiet := ⟨⟨hc.outage, congrArg Contention.stolen hc.contention⟩,
    congrArg Contention.failing hc.contention⟩
  quiet' := ⟨⟨hc.outage, congrArg Contention.stolen hc.contention⟩,
    congrArg Contention.failing hc.contention⟩
  workers := rfl

/-- The team behind a call has the store and the caches that the resolution has left behind. -/
theorem call_snd (t : Team) (c : Call) :
    (t.call c).2 = match t.members[c.member]? with
      | none => t
      | some (r, w) => ⟨(left (r.resolve c.request) (t.session c w)).shared,
          t.members.set c.member (r, (left (r.resolve c.request) (t.session c w)).worker)⟩ := by
  unfold call left
  cases t.members[c.member]? with
  | none => rfl
  | some member =>
    dsimp only
    cases member.1.resolve c.request (t.session c member.2) <;> rfl

/-- A call ends alike, and the mirror stays one. -/
theorem call_mirrors (h : t.Mirrors t') (hc : c.Quiet) :
    t.outcome c = t'.outcome c ∧ (t.call c).2.Mirrors (t'.call c).2 := by
  rw [call_snd, call_snd, outcome, outcome, ← h.members]
  cases t.members[c.member]? with
  | none => exact ⟨rfl, h⟩
  | some member =>
    obtain ⟨r, w⟩ := member
    obtain ⟨hout, hleft⟩ := r.resolve_mirrors c.request (h.session hc)
    refine ⟨congrArg some hout, hleft.store, ?_⟩
    exact congrArg (fun w => t.members.set c.member (r, w)) hleft.workers

/-- Any number of calls end alike, and the mirror stays one. -/
theorem outcomes_mirrors (h : t.Mirrors t') {calls : List Call} (hcalls : ∀ c ∈ calls, c.Quiet) :
    t.outcomes calls = t'.outcomes calls ∧ (t.run calls).2.Mirrors (t'.run calls).2 := by
  induction calls generalizing t t' with
  | nil => exact ⟨rfl, h⟩
  | cons c calls ih =>
    obtain ⟨hout, hcall⟩ := call_mirrors h (hcalls c List.mem_cons_self)
    obtain ⟨houts, hrun⟩ := ih hcall fun d hd => hcalls d (List.mem_cons_of_mem c hd)
    exact ⟨by rw [outcomes, outcomes, hout, houts], hrun⟩

end Team

/-! ### Sets and tables -/

namespace Store

/-- Sets without a common name have a mirror, and every mirror does as they do. Whatever operations
of the registry are performed on both, one after the other, both answer them in the same way; and
whatever resolvers are called, one after the other, their calls end in the same way. In the end each
kind holds the same names in the table as in the sets. -/
theorem table_refines_memory {sets : NameSets} (h : (Store.memory sets).Disjoint) :
    (∃ rows, Mirrors (.memory sets) (.table rows)) ∧
      ∀ rows, Mirrors (.memory sets) (.table rows) →
        (∀ (s s' : Session) (ops : List Registry.Op), s.Quiet → s'.Quiet →
          s.shared.store = .memory sets → s'.shared.store = .table rows →
          ∃ answers m m', ops.mapM Registry.perform s = .ok answers m ∧
            ops.mapM Registry.perform s' = .ok answers m' ∧
            m.shared.store.Mirrors m'.shared.store) ∧
        ∀ (t t' : Team) (calls : List Call), t.members = t'.members →
          t.shared.store = .memory sets → t'.shared.store = .table rows →
          (∀ c ∈ calls, c.Quiet) →
          t.outcomes calls = t'.outcomes calls ∧
            (t.run calls).2.shared.store.Mirrors (t'.run calls).2.shared.store := by
  refine ⟨exists_mirror h, fun rows hrows => ⟨fun s s' ops hs hs' hsets htable => ?_,
    fun t t' calls hmembers hsets htable hcalls => ?_⟩⟩
  · rw [← hsets, ← htable] at hrows
    have hmirror : s.Mirrors (fun _ _ => True) s' := ⟨hrows, hs, hs', trivial⟩
    obtain ⟨answers, m, m', hrun, hrun', hm⟩ := Registry.mapM_perform_mirrors hmirror ops
    exact ⟨answers, m, m', hrun, hrun', hm.store⟩
  · rw [← hsets, ← htable] at hrows
    obtain ⟨houts, hmirror⟩ := Team.outcomes_mirrors ⟨hrows, hmembers⟩ hcalls
    exact ⟨houts, hmirror.store⟩

/-- The usual resolver alone on a store. -/
def alone (store : Store) : Team :=
  ⟨(Session.idle store none).shared, [(.standard, .standard)]⟩

/-- A user and a group in memory. -/
def annAndTeam : NameSets :=
  (NameSets.empty.add .username "ann".toList).add .groupName "team".toList

/-- They are given back by both kinds, and the free one is claimed by the other kind. -/
def exchange : List Registry.Op :=
  [.claim .groupName "ann".toList none, .discard .groupName "ann".toList,
    .has .username "ann".toList, .discard .username "ann".toList,
    .claim .groupName "ann".toList (some "Ann".toList), .names .groupName, .count .username]

/-- A mirror of the two answers as the sets do, and gives a resolver the same names. -/
theorem table_refines_memory_ann :
    (Store.memory annAndTeam).Disjoint ∧
      ∃ rows m m', exchange.mapM Registry.perform (.idle (.memory annAndTeam) none) =
          .ok [.truth false, .done, .truth true, .done, .truth true,
            .names ["ann".toList, "team".toList], .number 0] m ∧
        exchange.mapM Registry.perform (.idle (.table rows) none) =
          .ok [.truth false, .done, .truth true, .done, .truth true,
            .names ["ann".toList, "team".toList], .number 0] m' ∧
        m.shared.store.Mirrors m'.shared.store ∧
        (alone (.memory annAndTeam)).outcomes [⟨0, .ann, .none, none, ""⟩] =
          (alone (.table rows)).outcomes [⟨0, .ann, .none, none, ""⟩] := by
  have hann : (fresh.insert .username "ann".toList none "").Disjoint :=
    mirrors_fresh.disjoint.insert (by decide +kernel)
  have hteam : ((fresh.insert .username "ann".toList none "").insert .groupName "team".toList none
      "").Disjoint := hann.insert (by decide +kernel)
  have hdisjoint : (Store.memory annAndTeam).Disjoint := hteam
  obtain ⟨⟨rows, hrows⟩, hrefines⟩ := table_refines_memory hdisjoint
  obtain ⟨hops, hcalls⟩ := hrefines rows hrows
  have hquiet : ∀ store, (Session.idle store none).Quiet := fun _ => ⟨⟨rfl, rfl⟩, rfl⟩
  obtain ⟨answers, m, m', hrun, hrun', hm⟩ := hops (.idle (.memory annAndTeam) none)
    (.idle (.table rows) none) exchange (hquiet _) (hquiet _) rfl rfl
  have hanswers : result? (exchange.mapM Registry.perform) (.idle (.memory annAndTeam) none) =
      some [.truth false, .done, .truth true, .done, .truth true,
        .names ["ann".toList, "team".toList], .number 0] := by decide +kernel
  obtain ⟨m₁, hrun₁⟩ := result?_eq_some.1 hanswers
  obtain ⟨rfl, rfl⟩ : _ = answers ∧ m₁ = m := by simpa [hrun] using hrun₁.symm
  refine ⟨hdisjoint, rows, m₁, m', hrun, hrun', hm, ?_⟩
  have hcall : Call.Quiet ⟨0, .ann, .none, none, ""⟩ := ⟨rfl, rfl⟩
  exact (hcalls (alone (.memory annAndTeam)) (alone (.table rows)) [⟨0, .ann, .none, none, ""⟩]
    rfl rfl rfl fun c hc => List.mem_singleton.1 hc ▸ hcall).1

end Store

end Namesake
