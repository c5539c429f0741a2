import Namesake.Proofs.Resolver.Mirror
import Namesake.Proofs.Resolver.Settled

/-!
# Caches make no difference

Two resolvers for ASCII names are made from settings that differ in the capacities of their caches
alone, and each of them works alone on a store of its own. The stores are equal at the beginning.
Whatever the resolvers are asked for under one limit, the store settles what a request comes to, so
both come to the same, and the stores are equal again. The one condition is that no linear search of
either of them gives up before its course has ended.

## Main definitions

* `SameOutcome` — two requests end alike for their callers
* `Team.Patient` — no linear search in any of the calls uses up its attempts

## Main results

* `Resolver.resolve_agrees` — one request ends alike, whatever the right hints
* `Team.outcomes_of_capacities` — any number of calls end alike, whatever the capacities
-/

open Namesake.Task

namespace Namesake

open Unicode

/-- Two requests under a limit end alike: with the same result, or without one because of the same
fallback name. Where suffixes may have more digits than may be written, both may end with the fault
that says so. -/
inductive SameOutcome (n : Int) : Except Fault ResolvedName → Except Fault ResolvedName → Prop
  | result (res : ResolvedName) : SameOutcome n (.ok res) (.ok res)
  | exhausted (kind fallback attempts attempts' : Json) :
      SameOutcome n (.error (.exhausted kind fallback attempts))
        (.error (.exhausted kind fallback attempts'))
  | unwritable : maxDigits + 2 ≤ n.toNat →
      SameOutcome n (.error tooManyDigits) (.error tooManyDigits)

/-! ### Capacities -/

/-- A cache for any number of entries begins without one. -/
theorem Memo.holds_ofCapacity {κ ν : Type} {P : κ → ν → Prop} {capacity : Int} {m : Memo κ ν}
    (h : Memo.ofCapacity (.int capacity) = .ok m) : m.Holds P := by
  unfold Memo.ofCapacity at h
  obtain ⟨q, hq, h⟩ := Resolver.bind_eq_ok.1 h
  obtain rfl : .whole capacity = q := Except.ok.inj hq
  rw [show (0 : Quantity) = .whole 0 from rfl, Quantity.lt_whole] at h
  split at h
  · cases h
  · rename_i hnonneg
    obtain rfl := Except.ok.inj h
    rw [decide_eq_true_eq, not_lt] at hnonneg
    unfold Memo.ofRoom
    rw [show (0 : Quantity) = .whole 0 from rfl, show (1 : Quantity) = .whole 1 from rfl,
      Quantity.same_whole, Quantity.lt_whole]
    by_cases hzero : capacity = 0
    · rw [if_pos (by simpa using hzero)]
      exact fun e he => by cases he
    · rw [if_neg (by simpa using hzero), if_neg (by rw [decide_eq_true_eq]; omega)]
      exact fun e he => by cases he

namespace Resolver

variable {settings settings' : ResolverSettings} {r r' : Resolver} {w w' : Worker} {req : Request}
variable {s s' : Session} {allow : Bool} {n : Int} {store : Store}
variable {o : Except Fault (Option ResolvedName)}
variable {sources : List (Text × Bool)}

/-- The capacities of the caches have no effect on the resolver that accepted settings give. -/
theorem build_capacities {suffixes suffixes' truncations truncations' : Json}
    (h : build { settings with
      suffixCacheSize := suffixes, truncationCacheSize := truncations } = .ok (r, w))
    (h' : build { settings with
      suffixCacheSize := suffixes', truncationCacheSize := truncations' } = .ok (r', w')) :
    r' = { r with settings := r'.settings } := by
  replace h := build_gives h
  replace h' := build_gives h'
  have hlimit := Except.ok.inj (h'.limit.symm.trans h.limit)
  have hattempts := Except.ok.inj (h'.maxAttempts.symm.trans h.maxAttempts)
  have hpolicy := Except.ok.inj (h'.policy.symm.trans h.policy)
  have hreserved := Except.ok.inj (h'.reserved.symm.trans h.reserved)
  have husername := h'.fallbackUsername
  have hgroupName := h'.fallbackGroupName
  rw [hpolicy, hreserved, hlimit] at husername hgroupName
  replace husername := Except.ok.inj (husername.symm.trans h.fallbackUsername)
  replace hgroupName := Except.ok.inj (hgroupName.symm.trans h.fallbackGroupName)
  cases r
  cases r'
  dsimp only at hlimit hattempts hpolicy hreserved husername hgroupName ⊢
  subst hlimit hattempts hpolicy hreserved husername hgroupName
  rfl

/-! ### The same request -/

theorem barred_settings (x : ResolverSettings) :
    ({ r with settings := x } : Resolver).Barred allow store = r.Barred allow store := by
  funext lower
  exact propext (not_congr ⟨fun h => ⟨h.allowed, h.unheld⟩, fun h => ⟨h.allowed, h.unheld⟩⟩)

theorem Falls.withSettings (x : ResolverSettings) (h : r.Falls req n store sources o) :
    ({ r with settings := x } : Resolver).Falls req n store sources o := by
  induction h with
  | nil => exact .nil
  | found hends => exact .found (by rwa [barred_settings])
  | dead hends _ ih => exact .dead (by rwa [barred_settings]) ih
  | unwritable hends => exact .unwritable (by rwa [barred_settings])

/-- What a request comes to does not depend on the settings beside the parts of the resolver. -/
theorem Settles.withSettings (x : ResolverSettings) (h : r.Settles req n store o) :
    ({ r with settings := x } : Resolver).Settles req n store o := by
  cases h with
  | plain hfree => exact .plain ⟨hfree.allowed, hfree.unheld⟩
  | searched hbarred hfalls => exact .searched (by rwa [barred_settings]) (hfalls.withSettings x)

/-- Two faults of a request that comes to no result are alike. -/
theorem Lapse.same {fallback : Text} {f f' : Fault} (h : Lapse req n fallback o f)
    (h' : Lapse req n fallback o f') : SameOutcome n (.error f) (.error f') := by
  cases h with
  | exhausted _ hroom =>
    cases h' with
    | exhausted _ _ => exact .exhausted ..
    | doubled hnone => exact absurd hroom (not_lt.2 hnone)
  | doubled hnone =>
    cases h' with
    | exhausted _ hroom => exact absurd hroom (not_lt.2 hnone)
    | doubled _ =>
      have hroom := digitBound_le_maxSuffix_iff.1 hnone
      exact .unwritable (by omega)
  | unwritable hroom =>
    cases h' with
    | unwritable _ => exact .unwritable hroom

/-- One request ends alike, whatever the caches remember, as long as their hints are right. -/
theorem resolve_agrees (hr : r.Prepared) (hascii : r.policy.unicode = false)
    (hr' : r' = { r with settings := r'.settings }) (hlimit : req.limit = .whole n)
    (hs : r.Tracks req.allowReserved n s) (hs' : r'.Tracks req.allowReserved n s')
    (hstore : s.shared.store = s'.shared.store) (hnow : s.shared.now = s'.shared.now)
    (hpatient : r.Patient req s) (hpatient' : r'.Patient req s') :
    SameOutcome n (outcome (r.resolve req) s) (outcome (r'.resolve req) s') ∧
      r.Tracks req.allowReserved n (left (r.resolve req) s) ∧
      r'.Tracks req.allowReserved n (left (r'.resolve req) s') ∧
      (left (r.resolve req) s).shared.store = (left (r'.resolve req) s').shared.store := by
  have hends := resolve_settles hr hascii hlimit hs hpatient
  have hends' : Ends (r'.resolve req) s'
      (fun res m => r.Settles req n s.shared.store (.ok (some res)) ∧
        r'.Moves req n s' m (some (res.name, res.nameLower)))
      (fun f m => ∃ o, r.Settles req n s.shared.store o ∧
        Lapse req n (r.fallbackText req n) o f ∧ r'.Moves req n s' m none) := by
    generalize r'.settings = x at hr'
    subst hr'
    refine (resolve_settles (r := { r with settings := x }) (fun kind => hr kind) hascii hlimit hs'
      hpatient').mono (fun res m h => ?_) fun f m h => ?_
    · rw [hstore]
      exact ⟨h.1.withSettings r.settings, h.2⟩
    · obtain ⟨o, hsettles, h⟩ := h
      rw [hstore]
      exact ⟨o, hsettles.withSettings r.settings, h⟩
  unfold Ends at hends hends'
  unfold outcome left
  cases hrun : r.resolve req s with
  | ok res m =>
    cases hrun' : r'.resolve req s' with
    | ok res' m' =>
      rw [hrun] at hends
      rw [hrun'] at hends'
      obtain rfl := Option.some.inj (Except.ok.inj (hends.1.unique hends'.1))
      refine ⟨.result res, hends.2.tracks, hends'.2.tracks, ?_⟩
      rw [hends.2.store, hends'.2.store, hstore, hnow]
    | error f' m' =>
      rw [hrun] at hends
      rw [hrun'] at hends'
      obtain ⟨o, hsettles, hlapse, -⟩ := hends'
      obtain rfl := hends.1.unique hsettles
      cases hlapse
  | error f m =>
    rw [hrun] at hends
    obtain ⟨o, hsettles, hlapse, hmoves⟩ := hends
    cases hrun' : r'.resolve req s' with
    | ok res' m' =>
      rw [hrun'] at hends'
      obtain rfl := hsettles.unique hends'.1
      cases hlapse
    | error f' m' =>
      rw [hrun'] at hends'
      obtain ⟨o', hsettles', hlapse', hmoves'⟩ := hends'
      obtain rfl := hsettles.unique hsettles'
      refine ⟨hlapse.same hlapse', hmoves.tracks, hmoves'.tracks, ?_⟩
      rw [hmoves.store, hmoves'.store]
      exact hstore

end Resolver

/-! ### Any number of requests -/

namespace Team

variable {settings : ResolverSettings} {r r' : Resolver} {w w' : Worker} {t t' : Team} {c : Call}
variable {shared shared' : Shared} {n : Int} {allow : Bool}

/-- No linear search in any of the calls uses up its attempts. -/
def Patient : Team → List Call → Prop
  | _, [] => True
  | t, c :: calls =>
    (∀ m ∈ t.members[c.member]?, m.1.Patient c.request (t.session c m.2)) ∧
      Patient (t.call c).2 calls

instance decidablePatient : (t : Team) → (calls : List Call) → Decidable (t.Patient calls)
  | _, [] => instDecidableTrue
  | t, c :: calls =>
    have := decidablePatient (t.call c).2 calls
    inferInstanceAs (Decidable (_ ∧ _))

/-- A resolver alone, whose hints are right. -/
structure Alone (r : Resolver) (allow : Bool) (n : Int) (t : Team) (w : Worker) : Prop where
  members : t.members = [(r, w)]
  tracks : ∀ c : Call, c.Quiet → r.Tracks allow n (t.session c w)

/-- It is alone, and its hints are right, after a call as well. -/
theorem Alone.of_tracks {s : Session} (h : r.Tracks allow n s) :
    Alone r allow n ⟨s.shared, [(r, s.worker)]⟩ s.worker where
  members := rfl
  tracks := fun _ hc => h.of_eq
    ⟨⟨hc.outage, congrArg Contention.stolen hc.contention⟩,
      congrArg Contention.failing hc.contention⟩
    rfl rfl rfl

/-- So it is at the beginning, without any hints. -/
theorem Alone.of_gives {suffixes truncations : Int} (h : Resolver.Gives settings r w)
    (hsuffixes : settings.suffixCacheSize = .int suffixes)
    (htruncations : settings.truncationCacheSize = .int truncations) (shared : Shared)
    (allow : Bool)
    (n : Int) : Alone r allow n ⟨shared, [(r, w)]⟩ w where
  members := rfl
  tracks := fun _ hc => ⟨⟨⟨hc.outage, congrArg Contention.stolen hc.contention⟩,
    congrArg Contention.failing hc.contention⟩, Memo.holds_ofCapacity (hsuffixes ▸ h.suffixes),
    Memo.holds_ofCapacity (htruncations ▸ h.truncations)⟩

/-- A call of either of the two ends alike, and leaves equal stores behind. -/
theorem call_agrees (hr : r.Prepared) (hascii : r.policy.unicode = false)
    (hr' : r' = { r with settings := r'.settings }) (h : t.Alone r allow n w)
    (h' : t'.Alone r' allow n w') (hstore : t.shared.store = t'.shared.store) (hc : c.Quiet)
    (hlimit : c.request.limit = .whole n) (hallow : c.request.allowReserved = allow)
    (hpatient : ∀ m ∈ t.members[c.member]?, m.1.Patient c.request (t.session c m.2))
    (hpatient' : ∀ m ∈ t'.members[c.member]?, m.1.Patient c.request (t'.session c m.2)) :
    Option.Rel (SameOutcome n) (t.outcome c) (t'.outcome c) ∧
      (∃ w, (t.call c).2.Alone r allow n w) ∧ (∃ w, (t'.call c).2.Alone r' allow n w) ∧
      (t.call c).2.shared.store = (t'.call c).2.shared.store := by
  subst hallow
  rw [call_snd, call_snd, outcome, outcome]
  rw [h.members] at hpatient ⊢
  rw [h'.members] at hpatient' ⊢
  cases hmember : c.member with
  | succ i => exact ⟨.none, ⟨w, h⟩, ⟨w', h'⟩, hstore⟩
  | zero =>
    rw [hmember] at hpatient hpatient'
    obtain ⟨hsame, htracks, htracks', hstores⟩ := Resolver.resolve_agrees hr hascii hr' hlimit
      (h.tracks c hc) (h'.tracks c hc) hstore rfl (hpatient _ rfl) (hpatient' _ rfl)
    exact ⟨.some hsame, ⟨_, .of_tracks htracks⟩, ⟨_, .of_tracks htracks'⟩, hstores⟩

theorem outcomes_agree (hr : r.Prepared) (hascii : r.policy.unicode = false)
    (hr' : r' = { r with settings := r'.settings }) {calls : List Call}
    (hcalls : ∀ c ∈ calls, c.Quiet ∧ c.request.limit = .whole n ∧ c.request.allowReserved = allow)
    (h : t.Alone r allow n w) (h' : t'.Alone r' allow n w')
    (hstore : t.shared.store = t'.shared.store) (hpatient : t.Patient calls)
    (hpatient' : t'.Patient calls) :
    List.Forall₂ (Option.Rel (SameOutcome n)) (t.outcomes calls) (t'.outcomes calls) ∧
      (t.run calls).2.shared.store = (t'.run calls).2.shared.store := by
  induction calls generalizing t t' w w' with
  | nil => exact ⟨.nil, hstore⟩
  | cons c calls ih =>
    obtain ⟨hc, hlimit, hallow⟩ := hcalls c List.mem_cons_self
    obtain ⟨hsame, ⟨_, hcall⟩, ⟨_, hcall'⟩, hstores⟩ :=
      call_agrees hr hascii hr' h h' hstore hc hlimit hallow hpatient.1 hpatient'.1
    obtain ⟨houts, hrun⟩ :=
      ih (fun d hd => hcalls d (List.mem_cons_of_mem c hd)) hcall hcall' hstores
      hpatient.2 hpatient'.2
    exact ⟨.cons hsame houts, hrun⟩

/-- Two resolvers for ASCII names are made from settings that differ in nothing but the capacities
of the caches, and each of them works alone on a store of its own. If the stores are equal, and
nobody disturbs, all requests under one limit end alike, and the stores are equal again, provided
that no linear search of either of them uses up its attempts. -/
theorem outcomes_of_capacities {suffixes truncations suffixes' truncations' : Int}
    (hascii : settings.unicodeNames.truthy = false)
    (hbuild : Resolver.build { settings with
      suffixCacheSize := .int suffixes, truncationCacheSize := .int truncations } = .ok (r, w))
    (hbuild' : Resolver.build { settings with
      suffixCacheSize := .int suffixes', truncationCacheSize := .int truncations' } = .ok (r', w'))
    (hstore : shared.store = shared'.store) {calls : List Call}
    (hcalls : ∀ c ∈ calls, c.Quiet ∧ c.request.limit = .whole n ∧ c.request.allowReserved = allow)
    (hpatient : Patient ⟨shared, [(r, w)]⟩ calls)
    (hpatient' : Patient ⟨shared', [(r', w')]⟩ calls) :
    List.Forall₂ (Option.Rel (SameOutcome n)) (outcomes ⟨shared, [(r, w)]⟩ calls)
        (outcomes ⟨shared', [(r', w')]⟩ calls) ∧
      (run ⟨shared, [(r, w)]⟩ calls).2.shared.store =
        (run ⟨shared', [(r', w')]⟩ calls).2.shared.store := by
  have hgives := Resolver.build_gives hbuild
  have hunicode : r.policy.unicode = false := by
    rw [hgives.unicode]
    exact hascii
  exact outcomes_agree (Resolver.build_spec hbuild).1 hunicode
    (Resolver.build_capacities hbuild hbuild') hcalls (.of_gives hgives rfl rfl shared allow n)
    (.of_gives (Resolver.build_gives hbuild') rfl rfl shared' allow n) hstore hpatient hpatient'

/-- Settings for ASCII names and for caches of these capacities. -/
def plainSettings (suffixes truncations : Int) : ResolverSettings :=
  { unicodeNames := .bool false, suffixCacheSize := .int suffixes,
    truncationCacheSize := .int truncations }

/-- The resolver that they give. -/
def plain (suffixes truncations : Int) : Resolver :=
  { Resolver.standard with
    policy := ⟨false, none⟩, settings := plainSettings suffixes truncations }

/-- What it keeps for itself at the beginning. -/
def plainWorker (suffixes truncations : Nat) : Worker :=
  ⟨.none, .bounded (.empty suffixes), .bounded (.empty truncations)⟩

/-- A request for a name of six characters. -/
def annabel : Call :=
  ⟨0, ⟨.username, .str "Annabel", .str "user", .whole 6, false, rfl⟩, .none, none, ""⟩

/-- Without caches the third call tries what the second one has tried, cuts the name again, and ends
alike. -/
theorem outcomes_of_capacities_annabel :
    Resolver.build (plainSettings 0 0) = .ok (plain 0 0, plainWorker 0 0) ∧
    Resolver.build (plainSettings 9 9) = .ok (plain 9 9, plainWorker 9 9) ∧
    (outcomes ⟨(Session.idle .fresh none).shared, [(plain 0 0, plainWorker 0 0)]⟩
        [annabel, annabel, annabel]).map (fun o => (o.bind Except.toOption).map (·.name)) =
      [some "Annabe".toList, some "Anna_1".toList, some "Anna_2".toList] ∧
    List.Forall₂ (Option.Rel (SameOutcome 6))
      (outcomes ⟨(Session.idle .fresh none).shared, [(plain 0 0, plainWorker 0 0)]⟩
        [annabel, annabel, annabel])
      (outcomes ⟨(Session.idle .fresh none).shared, [(plain 9 9, plainWorker 9 9)]⟩
        [annabel, annabel, annabel]) := by
  have hcalls : ∀ c ∈ [annabel, annabel, annabel],
      c.Quiet ∧ c.request.limit = .whole 6 ∧ c.request.allowReserved = false := by
    intro c hc
    obtain rfl : c = annabel := by simpa using hc
    exact ⟨⟨rfl, rfl⟩, rfl, rfl⟩
  have hascii : (plainSettings 0 0).unicodeNames.truthy = false := rfl
  have hbuild : Resolver.build (plainSettings 0 0) = .ok (plain 0 0, plainWorker 0 0) := rfl
  have hbuild' : Resolver.build (plainSettings 9 9) = .ok (plain 9 9, plainWorker 9 9) := rfl
  refine ⟨hbuild, hbuild', by decide +kernel, ?_⟩
  exact (outcomes_of_capacities hascii hbuild hbuild' rfl hcalls (by decide +kernel)
    (by decide +kernel)).1

end Team

end Namesake
