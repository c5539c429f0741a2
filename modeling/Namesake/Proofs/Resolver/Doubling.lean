import Namesake.Proofs.Registry.Honest
import Namesake.Proofs.Resolver.Exhaustion
import Namesake.Proofs.Resolver.Numeral
import Namesake.Proofs.Resolver.Team

/-!
# The suffix that the search without an end finds

Doubling stops at a usable suffix, after one that is not, and bisecting goes on between such
suffixes until they are neighbours. So the suffix that is found is the first one above the last
suffix that the cache gave, or the suffix before it cannot be used. It need not be the lowest usable
one, since usable and unusable suffixes may alternate. The search begins again above each suffix
that it has lost to another worker; but what is lost is held from then on, so the same is true of
the suffix that it finds in the end. Where no suffix is lost, and exactly the suffixes of an initial
segment cannot be used, the lowest usable one is found.

## Main definitions

* `Resolver.FindsAbove` — what the search has found above a suffix
* `Resolver.Uncontested` — no claim of a suffixed form is going to be lost, and none is going to
  fail

## Main results

* `Resolver.searchAbove_finds` — the search above a suffix ends on one whose predecessor is unusable
* `Resolver.searchDoubling_lowest` — and on the lowest one, if the unusable ones are an initial
  segment
-/

open Namesake.Task

namespace Namesake

open Unicode

namespace Resolver

variable {r : Resolver} {req : Request} {s s' m : Session} {name lower : Text} {suffix : Quantity}
variable {a b : Store} {l top : Nat} {f : Found}

/-! ### While other workers take names -/

/-- What is usable while a store has grown was so before. -/
theorem Usable.of_grows (hgrows : Store.Grows a b) (h : r.Usable req name suffix b) :
    r.Usable req name suffix a := by
  obtain ⟨candidate, hsuffixed, hallowed, hunheld⟩ := h
  refine ⟨candidate, hsuffixed, hallowed, Bool.eq_false_iff.2 fun hheld => ?_⟩
  rw [hgrows.has hheld] at hunheld
  cases hunheld

/-- A resolver is told that it may not have a name only if it may not. -/
theorem isAvailable_held :
    Ends (r.isAvailable lower req.allowReserved) s
      (fun available s' => (s.Honest → s'.Honest) ∧
        (available = false → ¬ r.Free req.allowReserved lower s.shared.store))
      (fun _ _ => True) := by
  unfold isAvailable
  split
  · rename_i hreserved
    rw [Bool.and_eq_true, Bool.not_eq_true'] at hreserved
    refine ⟨id, fun _ hfree => ?_⟩
    rw [hfree.allowed hreserved.1] at hreserved
    cases hreserved.2
  · rw [ends_bind]
    refine (Registry.isUsed_held lower).mono (fun used m hm => ⟨hm.1, fun hused hfree => ?_⟩)
      fun _ _ h => h
    have hheld := hm.2 (by simpa using hused)
    rw [hfree.unheld] at hheld
    cases hheld

theorem suffixAvailable_held (suffix : Quantity) :
    Ends (r.suffixAvailable req name suffix) s
      (fun available s' => (s.Honest → s'.Honest) ∧
        (available = false → ¬ r.Usable req name suffix s.shared.store))
      (fun _ _ => True) := by
  rw [suffixAvailable, ends_bind, ends_lift]
  refine ⟨fun found hfound => ?_, fun _ _ => trivial⟩
  have hcandidate : r.Usable req name suffix s.shared.store →
      ∃ candidate, found = some candidate ∧
        r.Free req.allowReserved (lowercase candidate) s.shared.store := by
    rintro ⟨candidate, hsuffixed, hfree⟩
    exact ⟨candidate, Except.ok.inj (hfound.symm.trans hsuffixed), hfree⟩
  cases found with
  | none =>
    refine ⟨id, fun _ husable => ?_⟩
    obtain ⟨candidate, hnone, -⟩ := hcandidate husable
    cases hnone
  | some candidate =>
    refine isAvailable_held.mono (fun available m hm => ⟨hm.1, fun hsays husable => ?_⟩)
      fun _ _ h => h
    obtain ⟨candidate', hsome, hfree⟩ := hcandidate husable
    obtain rfl := Option.some.inj hsome
    exact hm.2 hsays hfree

/-- What a resolver is told of suffixed forms while the table is honest. -/
theorem tells_honest (s : Session) (first top : Nat) :
    r.Tells req name (fun m => s.Looks m ∧ m.Honest)
      (fun k => r.Offers req name (.whole k) s.shared.store)
      (fun k => ¬ r.Usable req name (.whole k) s.shared.store) (fun _ _ => True) first top := by
  rintro m k ⟨hlook, hhonest⟩ - -
  refine ((suffixAvailable_ends (.whole k)).and (suffixAvailable_held (.whole k))).mono
    (fun available m' h => ⟨⟨hlook.trans h.1.1, h.2.1 hhonest⟩, ?_⟩) fun _ _ _ => trivial
  rw [← hlook.store]
  cases available with
  | true => exact h.1.2 rfl
  | false => exact h.2.2 rfl

/-- The suffixed form on offer that is claimed is the one that was asked for. If its claim is lost
it is not usable any more. -/
theorem claimSuffixed_held (hs : s.Honest) (hoffer : r.Offers req name suffix s.shared.store) :
    Ends (claimSuffixed req name suffix) s
      (fun found s' => match found with
        | some f => f.suffix = suffix ∧ f.nameLower = lowercase f.name ∧
            suffixed name suffix req.limit = .ok (some f.name)
        | none => s'.Honest ∧ ¬ r.Usable req name suffix s'.shared.store)
      (fun _ _ => True) := by
  obtain ⟨base, hbase, hne, -⟩ := hoffer.exists_base
  have hsuffixed : suffixed name suffix req.limit = .ok (some (base ++ suffixTail suffix)) :=
    suffixed_eq_some.2 ⟨base, hbase, hne, rfl⟩
  rw [ends_claimSuffixed hbase]
  refine (Registry.claim_held _ _ _ hs).mono (fun won m hm => ?_) fun _ _ h => h
  cases won with
  | true => exact ends_iff.2 ⟨fun _ _ _ => ⟨rfl, rfl, hsuffixed⟩, fun _ _ _ => trivial⟩
  | false =>
    refine ⟨hm.1, ?_⟩
    rintro ⟨candidate, hcandidate, hfree⟩
    obtain rfl := Option.some.inj (Except.ok.inj (hsuffixed.symm.trans hcandidate))
    rw [hfree.unheld] at hm
    cases hm.2

/-- Between two sessions the search behind a name has found a candidate with the suffix `k`, above
the suffix `l`. The suffix was usable when it was claimed, and now the one before it is not usable,
unless `k` is the first one. -/
structure FindsAbove (r : Resolver) (req : Request) (name : Text) (l top : Nat) (s s' : Session)
    (f : Found) (k : Nat) : Prop where
  suffix : f.suffix = .whole k
  above : l < k
  le_top : k ≤ top
  claimed : ∃ m m', s.Waits False m ∧ r.Usable req name (.whole k) m.shared.store ∧
    m.Inserts m' req.kind f.nameLower (some f.name) ∧ m'.Remembers False s'
  least : k = l + 1 ∨ ¬ r.Usable req name (.whole (k - 1 : Nat)) s'.shared.store

theorem FindsAbove.waits {k : Nat} (hwait : s.Waits False m)
    (h : r.FindsAbove req name l top m s' f k) :
    r.FindsAbove req name l top s s' f k := by
  obtain ⟨m₁, m₂, hwait', hclaimed⟩ := h.claimed
  exact { h with claimed := ⟨m₁, m₂, hwait.trans hwait', hclaimed⟩ }

/-- What doubling and bisecting above a suffix have ended on lies above `l`, and it follows `l` or
an unusable suffix, if that is so of the suffix that they began with. -/
theorem IsLowest.follows {yes : Nat → Prop} {lower k : Nat} (hroom : l < top) (hl : l ≤ lower)
    (hle : lower ≤ top) (hfloor : lower = l ∨ ¬ r.Usable req name (.whole lower) a)
    (h : IsLowest yes (fun j => ¬ r.Usable req name (.whole j) a) (min (lower + 1) top) top k)
    (husable : r.Usable req name (.whole k) a) :
    l < k ∧ (k = l + 1 ∨ ¬ r.Usable req name (.whole (k - 1 : Nat)) a) := by
  have hfirst := h.first_le
  have htop := h.le_top
  rcases Nat.lt_or_eq_of_le hle with hlt | rfl
  · refine ⟨by omega, ?_⟩
    rcases h.least with hk | ⟨j, rfl, -, hj⟩
    · -- the first suffix follows the one that they began with
      obtain rfl : k = lower + 1 := by omega
      exact hfloor.imp (congrArg (· + 1)) id
    · exact .inr hj
  · -- the largest suffix, if it was lost before, cannot be usable again
    obtain rfl : k = lower := by omega
    rcases hfloor with rfl | hunusable
    · exact absurd hroom (Nat.lt_irrefl _)
    · exact absurd husable hunusable

/-- The suffix on offer is what the search finds, unless its claim is lost and more is done. -/
theorem claimOr_finds {k attempts : Nat} {more : Task (Option Found × Nat)} (hs : s.Honest)
    (hoffer : r.Offers req name (.whole k) s.shared.store) (hle : k ≤ top)
    (hfollows : r.Usable req name (.whole k) s.shared.store →
      l < k ∧ (k = l + 1 ∨ ¬ r.Usable req name (.whole (k - 1 : Nat)) s.shared.store))
    (hmore : ∀ m, m.Honest → ¬ r.Usable req name (.whole k) m.shared.store →
      Ends more m (fun p s' => ∀ f, p.1 = some f → ∃ k, r.FindsAbove req name l top m s' f k)
        (fun _ _ => True)) :
    Ends (claimOr req name (.whole k) attempts more) s
      (fun p s' => ∀ f, p.1 = some f → ∃ k, r.FindsAbove req name l top s s' f k)
      (fun _ _ => True) := by
  rw [claimOr, ends_bind]
  refine ((claimSuffixed_ends hoffer False.elim).and (claimSuffixed_held hs hoffer)).mono
    (fun found m hm => ?_) fun _ _ _ => trivial
  cases found with
  | none =>
    -- another worker has taken the name, so it is held from now on
    obtain ⟨hfinds, hhonest, hunusable⟩ := hm
    have hwait : s.Waits False m := hfinds
    refine (hmore m hhonest hunusable).mono (fun p s' hp f hf => ?_) fun _ _ h => h
    obtain ⟨j, hj⟩ := hp f hf
    exact ⟨j, hj.waits hwait⟩
  | some f =>
    obtain ⟨⟨hclaim, hsuits⟩, hsuffix, hlower, hsuffixed⟩ := hm
    intro f' hf'
    obtain rfl := Option.some.inj hf'
    -- before the insertion nobody held the name, and it was not reserved, unless that is allowed
    obtain ⟨m₁, m₂, hwait, hinserts, hremember⟩ := id hclaim
    have husable : r.Usable req name (.whole k) m₁.shared.store :=
      ⟨f.name, hsuffixed, hlower ▸ hsuits.allowed, hlower ▸ hinserts.free⟩
    -- so it was usable when the search came to it, and the suffix before it has not become so since
    obtain ⟨habove, hleast⟩ := hfollows (husable.of_grows hwait.grows)
    exact ⟨k, hsuffix, habove, hle, ⟨m₁, m₂, hwait, husable, hinserts, hremember⟩,
      hleast.imp_right fun hunusable husable => hunusable (husable.of_grows hclaim.grows)⟩

/-- If it begins at `l` or at an unusable suffix, the search goes on to a suffix that follows `l` or
an unusable one, however many claims are lost. -/
theorem searchAbove_finds {s : Session} {lower : Nat} (hroom : l < top) (hs : s.Honest)
    (hl : l ≤ lower) (hle : lower ≤ top)
    (hfloor : lower = l ∨ ¬ r.Usable req name (.whole lower) s.shared.store)
    (losses attempts : Nat) :
    Ends (r.searchAbove req name top losses lower attempts) s
      (fun p s' => ∀ f, p.1 = some f → ∃ k, r.FindsAbove req name l top s s' f k)
      (fun _ _ => True) := by
  rw [searchAbove, ends_bind]
  refine (offerAbove_tells (tells_honest s _ _) ⟨.refl s, hs⟩ attempts).mono (fun p m hm => ?_)
    fun _ _ h => h
  obtain ⟨⟨hlook, hhonest⟩, hp⟩ := hm
  obtain ⟨_ | k, attempts'⟩ := p
  · rintro f ⟨⟩
  · have hlowest : IsLowest _ _ _ _ k := hp
    have hoffer := hlowest.available
    have hlk : l ≤ k := by
      have hfirst := hlowest.first_le
      omega
    rw [← hlook.store] at hoffer
    have hfollows := hlowest.follows hroom hl hle hfloor
    rw [← hlook.store] at hfollows
    refine (claimOr_finds hhonest hoffer hlowest.le_top hfollows fun m' hm' hunusable => ?_).mono
      (fun p s' hp f hf => ?_) fun _ _ h => h
    · -- after a loss the search goes on above a suffix that is not usable any more
      cases losses with
      | zero =>
        rintro f ⟨⟩
      | succ losses =>
        exact searchAbove_finds hroom hm' hlk hlowest.le_top (.inr hunusable) losses attempts'
    · obtain ⟨j, hj⟩ := hp f hf
      exact ⟨j, hj.waits hlook.waits⟩

/-! ### While nobody disturbs -/

/-- No claim of the suffixed form is going to be lost, and none is going to fail. -/
def Uncontested (req : Request) (name : Text) (suffix : Quantity) (s : Session) : Prop :=
  ∀ candidate, suffixed name suffix req.limit = .ok (some candidate) →
    lowercase candidate ∉ s.worker.contention.failing ∧
      ∀ theft ∈ s.worker.contention.stolen, theft.name ≠ lowercase candidate

section Answered

variable {L : Int} {k : Nat}

/-- A store that answers says whether a suffixed form is usable, if the suffix can be written. -/
theorem suffixAvailable_sure (hs : s.Answered) (hlimit : req.limit = .whole L)
    (hk : k < digitBound) :
    Ends (r.suffixAvailable req name (.whole k)) s
      (fun b s' => s.Rests s' ∧ (b = true ↔ r.Usable req name (.whole k) s.shared.store))
      (fun _ _ => False) := by
  refine (suffixAvailable_answered hs).mono (fun _ _ h => h) fun f m hm => ?_
  have hfault := hm.2.2
  -- a whole limit is no obstacle
  rw [hlimit, suffixed, baseFor_of_writable (isWritable_iff_lt.2 hk), Limit.minus_whole,
    Limit.cut_whole] at hfault
  cases hfault

/-- A suffix for which the answer is yes can be written. -/
theorem lt_digitBound (h : result? (r.suffixAvailable req name (.whole k)) s = some true) :
    k < digitBound := by
  by_contra hlarge
  rw [suffixAvailable, suffixed_of_not_writable (mt isWritable_iff_lt.1 hlarge)] at h
  cases h

theorem result?_suffixAvailable (hs : s.Answered) (hlimit : req.limit = .whole L)
    (hk : k < digitBound) :
    result? (r.suffixAvailable req name (.whole k)) s = some true ↔
      r.Usable req name (.whole k) s.shared.store := by
  have hends : Ends (r.suffixAvailable req name (.whole k)) s _ _ :=
    suffixAvailable_sure hs hlimit hk
  obtain ⟨b, m, hrun, -, hb⟩ := hends.exists_ok
  rw [result?, hrun, Option.some.injEq]
  exact hb

/-- What a resolver is told of suffixed forms while the store answers. -/
theorem tells_answered (hs : s.Answered) (hlimit : req.limit = .whole L)
    (hwritable : top < digitBound)
    (first : Nat) :
    r.Tells req name s.Rests (fun k => r.Usable req name (.whole k) s.shared.store)
      (fun k => ¬ r.Usable req name (.whole k) s.shared.store) (fun _ _ => False) first top :=
  tells_usable fun _ _ hm _ hk =>
    suffixAvailable_sure (hs.rests hm) hlimit (Nat.lt_of_le_of_lt hk hwritable)

/-- Where exactly the suffixes above `k` are usable, the search finds the first of them. -/
theorem searchAbove_lowest (hs : s.Answered) (hlimit : req.limit = .whole L)
    (hwritable : top < digitBound) (hl : l ≤ k) (hk : k < top)
    (hsegment : ∀ j : Nat, l < j → j ≤ top →
      (r.Usable req name (.whole j) s.shared.store ↔ k < j))
    (hcontest : Uncontested req name (.whole (k + 1 : Nat)) s)
    (hcache : ∀ base, ∃ c, s.worker.suffixes.write base (.whole (k + 1 : Nat)) = .ok c)
    (losses attempts : Nat) :
    Ends (r.searchAbove req name top losses l attempts) s
      (fun p _ => ∃ f, p.1 = some f ∧ f.suffix = .whole (k + 1 : Nat)) (fun _ _ => False) := by
  rw [searchAbove, ends_bind]
  refine (offerAbove_tells (tells_answered hs hlimit hwritable _) (.refl s) attempts).mono
    (fun p m hm => ?_) fun _ _ h => h
  obtain ⟨hrest, hp⟩ := hm
  obtain ⟨_ | n, attempts'⟩ := p
  · -- the largest suffix is usable, and doubling comes across it
    have husable := (hsegment top (by omega) (Nat.le_refl _)).2 hk
    exact absurd husable (hp top (probed_top (by omega)))
  · have hlowest : IsLowest _ _ _ _ n := hp
    have hfirst := hlowest.first_le
    have htop := hlowest.le_top
    have husable := hlowest.available
    have habove := (hsegment n (by omega) htop).1 husable
    -- the suffix that it follows is not above `k`
    have hleast : n ≤ k + 1 := by
      rcases hlowest.least with hn | ⟨j, rfl, hj, hunusable⟩
      · omega
      · have hbelow := mt (hsegment j (by omega) (by omega)).2 hunusable
        omega
    obtain rfl : n = k + 1 := by omega
    -- its candidate is claimed, since nothing is in the way of that
    obtain ⟨candidate, hsuffixed, hfree⟩ := husable
    obtain ⟨hfailing, hstolen⟩ := hcontest candidate hsuffixed
    rw [← hrest.looks.worker] at hfailing hstolen hcache
    rw [← hrest.looks.store] at hfree
    refine (claimOr_uncontested (hs.rests hrest) hsuffixed hfree hstolen _ _).mono
      (fun _ _ h => h) fun f m' h => ?_
    rcases h.2 with hfails | ⟨base, hwrite⟩
    · exact hfailing hfails
    · obtain ⟨c, hc⟩ := hcache base
      rw [hc] at hwrite
      cases hwrite

end Answered

/-! ### The search behind a name -/

/-- The session after the last suffix behind a base has been read. -/
def afterReading (base : Text) (s : Session) : Session :=
  { s with worker := { s.worker with suffixes := (s.worker.suffixes.last base).2 } }

/-- Under a whole limit, and with a count in its cache, the search behind a name is one among whole
numbers that begins above the count. -/
theorem searchDoubling_whole {L : Int} (hlimit : req.limit = .whole L)
    (hlast : (s.worker.suffixes.last (lowercase name)).1 = .whole l) :
    r.searchDoubling req name s = r.searchAbove req name (maxSuffix L.toNat) (pendingLosses s) l 0
      (afterReading (lowercase name) s) := by
  have hread : Task.lastSuffix (lowercase name) s =
      .ok (.whole l) (afterReading (lowercase name) s) := by
    rw [← hlast]
    rfl
  rw [searchDoubling, hlimit, largestSuffix_whole]
  simp only [Task.lift, bind, EStateM.bind, pure, EStateM.pure, hread]
  rfl

/-- Let `l` be the last suffix that the cache gives for the name, below the largest one. As long as
no save is refused for a row that is not there, a suffix that the search finds lies above `l`, was
usable when it was claimed, and is the first one or follows one that is not usable when the search
ends, however many claims have been lost. Let exactly the suffixes up to `k` be unavailable. Then
the search finds the first one above `k`, if the store answers and the claim of that suffix is
neither lost nor fails. -/
theorem searchDoubling_lowest {L : Int} (hlimit : req.limit = .whole L)
    (hlast : (s.worker.suffixes.last (lowercase name)).1 = .whole l)
    (hroom : l < maxSuffix L.toNat) (r : Resolver) :
    (s.Honest → Ends (r.searchDoubling req name) s
      (fun p s' => ∀ f, p.1 = some f →
        ∃ k, r.FindsAbove req name l (maxSuffix L.toNat) s s' f k)
      (fun _ _ => True)) ∧
    ∀ k, l ≤ k → k < maxSuffix L.toNat →
      (∀ j : Nat, l < j → j ≤ maxSuffix L.toNat →
        (result? (r.suffixAvailable req name (.whole j)) s = some true ↔ k < j)) →
      s.Answered → Uncontested req name (.whole (k + 1 : Nat)) s →
      (∃ c, s.worker.suffixes = .bounded c) →
      ∃ f attempts s', r.searchDoubling req name s = .ok (some f, attempts) s' ∧
        f.suffix = .whole (k + 1 : Nat) := by
  have hrun := searchDoubling_whole (r := r) hlimit hlast
  constructor
  · intro hs
    have hread : (afterReading (lowercase name) s).Honest := hs
    have hwait : s.Waits False (afterReading (lowercase name) s) :=
      Session.Remembers.waits ⟨rfl, rfl, rfl, fun _ => False.elim⟩
    refine ends_iff.2 ⟨fun p s' hp f hf => ?_, fun _ _ _ => trivial⟩
    rw [hrun] at hp
    have hends : Ends (r.searchAbove req name (maxSuffix L.toNat) (pendingLosses s) l 0)
        (afterReading (lowercase name) s) _ _ :=
      searchAbove_finds hroom hread (Nat.le_refl l) (Nat.le_of_lt hroom) (.inl rfl) _ _
    obtain ⟨k, hk⟩ := hends.of_ok hp f hf
    exact ⟨k, hk.waits hwait⟩
  · rintro k hl hk hsegment hs hcontest ⟨c, hcache⟩
    have hwritable : maxSuffix L.toNat < digitBound :=
      lt_digitBound ((hsegment _ hroom (Nat.le_refl _)).2 hk)
    have husable : ∀ j : Nat, l < j → j ≤ maxSuffix L.toNat →
        (r.Usable req name (.whole j) s.shared.store ↔ k < j) := by
      intro j hj htop
      rw [← hsegment j hj htop, result?_suffixAvailable hs hlimit (by omega)]
    -- reading the cache changes neither the store nor what is going to happen
    have hanswered : (afterReading (lowercase name) s).Answered := hs
    have hwrite : ∀ base, ∃ c', (afterReading (lowercase name) s).worker.suffixes.write base
        (.whole (k + 1 : Nat)) = .ok c' := by
      intro base
      simp only [afterReading, hcache]
      exact ⟨_, rfl⟩
    have hends : Ends (r.searchAbove req name (maxSuffix L.toNat) (pendingLosses s) l 0)
        (afterReading (lowercase name) s) _ _ :=
      searchAbove_lowest hanswered hlimit hwritable hl hk husable hcontest hwrite _ _
    cases hsearch : r.searchDoubling req name s with
    | error f s' => exact (hends.of_error (hrun.symm.trans hsearch)).elim
    | ok p s' =>
      obtain ⟨found, attempts⟩ := p
      obtain ⟨f, rfl, hsuffix⟩ := hends.of_ok (hrun.symm.trans hsearch)
      exact ⟨f, attempts, s', rfl, hsuffix⟩

/-- A session in which the first three names behind the fallback name are held. -/
def stacked : Session :=
  .idle (.memory (["u_1", "u_2", "u_3"].foldl
    (fun sets name => sets.add .username name.toList) NameSets.empty)) none

/-- The fourth one is found, and it follows one that is held. -/
theorem searchDoubling_lowest_stacked :
    nameless.limit = .whole 3 ∧ (stacked.worker.suffixes.last "use".toList).1 = .whole 0 ∧
      0 < maxSuffix 3 ∧ stacked.Honest ∧
      ∃ f attempts s', hasty.searchDoubling nameless "use".toList stacked =
        .ok (some f, attempts) s' ∧
        f.suffix = .whole 4 ∧ hasty.FindsAbove nameless "use".toList 0 9 stacked s' f 4 := by
  have hsegment : ∀ j : Fin 10, 0 < j.val →
      (result? (hasty.suffixAvailable nameless "use".toList (.whole j.val)) stacked = some true ↔
        3 < j.val) := by decide +kernel
  have hhonest : stacked.Honest := fun _ _ => Outage.isHonest_none
  have hanswered : stacked.Answered := fun rows h => by cases h
  have hcontest : Uncontested nameless "use".toList (.whole (3 + 1 : Nat)) stacked :=
    fun candidate _ => ⟨List.not_mem_nil, fun theft h => by cases h⟩
  have hlast : (stacked.worker.suffixes.last (lowercase "use".toList)).1 = .whole (0 : Nat) := by
    decide +kernel
  have hlimit : nameless.limit = .whole 3 := rfl
  obtain ⟨hfinds, hlowest⟩ := searchDoubling_lowest hlimit hlast (by decide) hasty
  obtain ⟨f, attempts, s', hrun, hsuffix⟩ := hlowest 3 (by decide) (by decide)
    (fun j hj htop => hsegment ⟨j, Nat.lt_succ_of_le htop⟩ hj) hanswered hcontest ⟨_, rfl⟩
  obtain ⟨k, hk⟩ := (hfinds hhonest).of_ok hrun f rfl
  have hfour : (k : Int) = (4 : Nat) := Quantity.whole.inj (hk.suffix.symm.trans hsuffix)
  obtain rfl : k = 4 := Int.ofNat_inj.1 hfour
  exact ⟨hlimit, hlast, by decide, hhonest, f, attempts, s', hrun, hsuffix, hk⟩

end Resolver

end Namesake
