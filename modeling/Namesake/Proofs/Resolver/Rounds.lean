import Mathlib.Data.Nat.Size
import Namesake.Proofs.Resolver.Doubling
import Namesake.Proofs.Resolver.Losses

/-!
# The rounds of the search without an end

The search without an end begins again above each suffix whose claim it has lost. One round of it
takes one attempt, one more for each time that the suffix is doubled, and one more for each time
that the distance is halved; neither is done more often than the largest suffix has binary digits. A
suffix is claimed only after it has been found that nobody holds its candidate, so each loss has a
cause that will not come again. There are finitely many such causes, and the search comes to an end.

## Main definitions

* `Resolver.Untaken`, `Resolver.Cleared` — nobody holds a suffixed form, as far as it has been asked
  for
* `Resolver.Rounds` — the search that begins again after each loss, however many there are
* `Resolver.roundsCost` — the attempts of a search that loses some claims
* `Resolver.LosesIn` — the search without an end behind a name loses some claims

## Main results

* `Resolver.offerAbove_attempts` — the attempts of one round
* `Resolver.Rounds.attempts_le` — a search takes no more attempts than its rounds cost
* `Resolver.searchAbove_rounds`, `Resolver.searchDoubling_rounds` — the search is never cut off
-/

open Namesake.Task

namespace Namesake

open Unicode

namespace Resolver

variable {r : Resolver} {req : Request} {name : Text} {s m m' : Session}
variable {top k : Nat}

/-! ### The attempts of one round -/

/-- Doubling makes one more attempt for each time that the suffix is doubled, and stays below the
largest suffix. -/
theorem climb_attempts {lower upper attempts d : Nat} (hd : top ≤ upper * Nat.pow 2 d)
    (htop : upper ≤ top) :
    Results (r.climb req name top lower upper attempts) fun p =>
      p.2 ≤ attempts + d ∧ ∀ l u, p.1 = some (l, u) → u ≤ top := by
  rw [climb]
  refine .after fun available => ?_
  split
  · refine .pure ⟨Nat.le_add_right _ _, fun l u h => ?_⟩
    obtain ⟨-, rfl⟩ := Prod.mk.inj (Option.some.inj h)
    exact htop
  · split
    · rename_i hup
      cases d with
      | zero =>
        have hbelow : top ≤ upper * 1 := hd
        omega
      | succ d =>
        -- half as much is left to double afterwards
        rw [doubled_succ] at hd
        have hd' : top ≤ min (2 * upper) top * Nat.pow 2 d := by
          rw [Nat.min_def]
          split
          · exact hd
          · exact le_doubled top d
        intro s
        refine (climb_attempts hd' (Nat.min_le_right _ _) s).mono (fun p _ hp => ?_) fun _ _ h => h
        exact ⟨by omega, hp.2⟩
    · exact .pure ⟨Nat.le_add_right _ _, fun l u h => by cases h⟩
termination_by top - upper
decreasing_by omega

/-- Bisecting makes one more attempt for each time that the distance is halved. -/
theorem bisect_attempts {lower upper attempts d : Nat} (hd : upper - lower ≤ Nat.pow 2 d) :
    Results (r.bisect req name lower upper attempts) fun p => p.2 ≤ attempts + d := by
  rw [bisect]
  split
  · rename_i hfar
    cases d with
    | zero =>
      have hnear : upper - lower ≤ 1 := hd
      omega
    | succ d =>
      -- either half is at most half as far
      have hfar' : upper - lower ≤ Nat.pow 2 d * 2 := hd
      dsimp only
      refine .after fun available s => ?_
      cases available with
      | true =>
        have hhalf : (lower + upper) / 2 - lower ≤ Nat.pow 2 d := by omega
        exact (bisect_attempts hhalf s).mono (fun p _ hp => by omega) fun _ _ h => h
      | false =>
        have hhalf : upper - (lower + upper) / 2 ≤ Nat.pow 2 d := by omega
        exact (bisect_attempts hhalf s).mono (fun p _ hp => by omega) fun _ _ h => h
  · exact .pure (Nat.le_add_right _ _)
termination_by upper - lower
decreasing_by all_goals omega

/-- A round makes one attempt, and two for each binary digit of the largest suffix at most. -/
theorem offerAbove_attempts (lower attempts : Nat) :
    Results (r.offerAbove req name top lower attempts) fun p =>
      p.2 ≤ attempts + (1 + 2 * top.size) := by
  have hsize : top < Nat.pow 2 top.size := Nat.lt_size_self top
  -- doubling begins with one at least, unless there is no suffix at all
  have hclimb : top ≤ min (lower + 1) top * Nat.pow 2 top.size := by
    rcases Nat.eq_zero_or_pos top with rfl | hpos
    · exact Nat.zero_le _
    · exact Nat.le_trans (Nat.le_of_lt hsize) (Nat.le_mul_of_pos_left _ (by omega))
  rw [offerAbove]
  refine (climb_attempts hclimb (Nat.min_le_right _ _)).bind fun p hp => ?_
  obtain ⟨hcount, hle⟩ := hp
  obtain ⟨_ | ⟨l, u⟩, attempts'⟩ := p
  · exact .pure (by dsimp only at hcount ⊢; omega)
  · have hu : u ≤ top := hle l u rfl
    refine (bisect_attempts (d := top.size) (by omega)).bind fun q hq => .pure ?_
    dsimp only at hcount hq ⊢
    omega

/-! ### What is on offer -/

/-- Nobody holds the suffixed form of the name. -/
def Untaken (req : Request) (name : Text) (suffix : Quantity) (store : Store) : Prop :=
  ∃ base, baseFor name suffix req.limit = .ok base ∧
    store.has (lowercase (base ++ suffixTail suffix)) = false

/-- Between the two sessions it has been found that nobody holds the suffixed form of the name, or
else something has failed that will not fail again. -/
def Cleared (req : Request) (name : Text) (s m : Session) (k : Nat) : Prop :=
  Untaken req name (.whole k) s.shared.store ∨ pendingLosses m < pendingLosses s

theorem Cleared.asks (h : Cleared req name s m k) (hm : m.Asks m') : Cleared req name s m' k :=
  h.imp_right fun hfewer => Nat.lt_of_le_of_lt hm.wanes.pendingLosses_le hfewer

/-- A suffix that is called available has been cleared. -/
theorem suffixAvailable_cleared (hs : s.Asks m) (k : Nat) :
    Ends (r.suffixAvailable req name (.whole k)) m
      (fun available m' => m.Asks m' ∧ (available = true → Cleared req name s m' k))
      (fun _ _ => True) := by
  rw [suffixAvailable, ends_bind, ends_lift]
  refine ⟨fun found hfound => ?_, fun _ _ => trivial⟩
  cases found with
  | none => exact ⟨.refl m, fun h => by cases h⟩
  | some candidate =>
    obtain ⟨base, hbase, -, rfl⟩ := suffixed_eq_some.1 hfound
    dsimp only
    unfold isAvailable
    split
    · exact ⟨.refl m, fun h => by cases h⟩
    · rw [ends_bind]
      refine (Registry.isUsed_asks _).mono (fun used m' hm' => ?_) fun _ _ _ => trivial
      obtain ⟨hasks, hused⟩ := hm'
      refine ⟨hasks, fun hfree => ?_⟩
      rw [Bool.not_eq_true'] at hfree
      subst hfree
      rw [hs.looks.store] at hused
      rcases hused with hunheld | hfewer
      · exact .inl ⟨base, hbase, hunheld.symm⟩
      · exact .inr (Nat.lt_of_lt_of_le hfewer hs.wanes.pendingLosses_le)

/-- Doubling ends on a suffix that has been cleared. -/
theorem climb_cleared {m : Session} {lower upper attempts : Nat} (hs : s.Asks m) :
    Ends (r.climb req name top lower upper attempts) m
      (fun p m' => s.Asks m' ∧ ∀ l u, p.1 = some (l, u) → Cleared req name s m' u)
      (fun _ _ => True) := by
  rw [climb, ends_bind]
  refine (suffixAvailable_cleared hs upper).mono (fun available m₁ h₁ => ?_) fun _ _ h => h
  obtain ⟨hasks, hcleared⟩ := h₁
  replace hs := hs.trans hasks
  split
  · rename_i havailable
    refine ⟨hs, fun l u h => ?_⟩
    obtain ⟨-, rfl⟩ := Prod.mk.inj (Option.some.inj h)
    exact hcleared havailable
  · split
    · exact climb_cleared hs
    · exact ⟨hs, fun l u h => by cases h⟩
termination_by top - upper
decreasing_by omega

/-- Bisecting below a suffix that has been cleared ends on one. -/
theorem bisect_cleared {m : Session} {lower upper attempts : Nat} (hs : s.Asks m)
    (hupper : Cleared req name s m upper) :
    Ends (r.bisect req name lower upper attempts) m
      (fun p m' => s.Asks m' ∧ Cleared req name s m' p.1) (fun _ _ => True) := by
  rw [bisect]
  split
  · dsimp only
    rw [ends_bind]
    refine (suffixAvailable_cleared hs _).mono (fun available m₁ h₁ => ?_) fun _ _ h => h
    obtain ⟨hasks, hcleared⟩ := h₁
    -- either the middle has been cleared now, or the upper end is still
    cases available with
    | true => exact bisect_cleared (hs.trans hasks) (hcleared rfl)
    | false => exact bisect_cleared (hs.trans hasks) (hupper.asks hasks)
  · exact ⟨hs, hupper⟩
termination_by upper - lower
decreasing_by all_goals omega

/-- Doubling and bisecting above a suffix end on one that has been cleared. -/
theorem offerAbove_cleared (lower attempts : Nat) :
    Ends (r.offerAbove req name top lower attempts) s
      (fun p m => s.Asks m ∧ ∀ k, p.1 = some k → Cleared req name s m k) (fun _ _ => True) := by
  rw [offerAbove, ends_bind]
  refine (climb_cleared (.refl s)).mono (fun p m hm => ?_) fun _ _ h => h
  obtain ⟨hasks, hcleared⟩ := hm
  obtain ⟨_ | ⟨l, u⟩, attempts'⟩ := p
  · exact ⟨hasks, fun k h => by cases h⟩
  · dsimp only
    rw [ends_bind]
    refine (bisect_cleared hasks (hcleared l u rfl)).mono (fun q m' hm' => ⟨hm'.1, fun k hk => ?_⟩)
      fun _ _ h => h
    obtain rfl := Option.some.inj hk
    exact hm'.2

/-- If the claim of a suffix that has been cleared is lost, fewer claims can be lost afterwards. -/
theorem claimSuffixed_loses (hm : s.Asks m) (hcleared : Cleared req name s m k) :
    Ends (claimSuffixed req name (.whole k)) m
      (fun found m' => found = none → pendingLosses m' < pendingLosses s) (fun _ _ => True) := by
  cases hbase : baseFor name (.whole k) req.limit with
  | error f =>
    rw [claimSuffixed, hbase]
    trivial
  | ok base =>
    rw [ends_claimSuffixed hbase]
    refine Registry.claim_loses.mono (fun won m' hm' => ?_) fun _ _ _ => trivial
    obtain ⟨hwanes, hlost⟩ := hm'
    cases won with
    | true =>
      refine ends_iff.2 ⟨fun _ _ _ h => ?_, fun _ _ _ => trivial⟩
      cases h
    | false =>
      intro _
      have hbefore := hm.wanes.pendingLosses_le
      have hafter := hwanes.pendingLosses_le
      rcases hcleared with ⟨base', hbase', hunheld⟩ | hfewer
      · -- nobody held the name when it was asked for, and asking changes nothing
        obtain rfl := Except.ok.inj (hbase.symm.trans hbase')
        rw [← hm.looks.store] at hunheld
        rcases hlost rfl with hheld | hfewer
        · rw [hunheld] at hheld
          cases hheld
        · omega
      · omega

/-! ### Rounds -/

/-- The search above the suffix `lower`, among suffixes up to `top`, that begins again above each
suffix that it has lost, however many there are: after `attempts` attempts it begins in a session,
loses so many claims, and ends so. -/
inductive Rounds (r : Resolver) (req : Request) (name : Text) (top : Nat) :
    (lower attempts lost : Nat) → Session → EStateM.Result Fault Session (Option Found × Nat) → Prop
  /-- Doubling or bisecting fails. -/
  | failed {lower attempts : Nat} {s m : Session} {f : Fault}
      (hoffer : r.offerAbove req name top lower attempts s = .error f m) :
      Rounds r req name top lower attempts 0 s (.error f m)
  /-- The largest suffix is not available. -/
  | nothing {lower attempts used : Nat} {s m : Session}
      (hoffer : r.offerAbove req name top lower attempts s = .ok (none, used) m) :
      Rounds r req name top lower attempts 0 s (.ok (none, used) m)
  /-- The claim of the suffix fails. -/
  | refused {lower attempts used k : Nat} {s m m' : Session} {f : Fault}
      (hoffer : r.offerAbove req name top lower attempts s = .ok (some k, used) m)
      (hclaim : claimSuffixed req name (.whole k) m = .error f m') :
      Rounds r req name top lower attempts 0 s (.error f m')
  /-- The claim of the suffix is won. -/
  | won {lower attempts used k : Nat} {s m m' : Session} {found : Found}
      (hoffer : r.offerAbove req name top lower attempts s = .ok (some k, used) m)
      (hclaim : claimSuffixed req name (.whole k) m = .ok (some found) m') :
      Rounds r req name top lower attempts 0 s (.ok (some found, used) m')
  /-- The claim of the suffix is lost, and there is another round above it. -/
  | lost {lower attempts used k lost : Nat} {s m m' : Session}
      {o : EStateM.Result Fault Session (Option Found × Nat)}
      (hoffer : r.offerAbove req name top lower attempts s = .ok (some k, used) m)
      (hclaim : claimSuffixed req name (.whole k) m = .ok none m')
      (hrounds : Rounds r req name top k used lost m' o) :
      Rounds r req name top lower attempts (lost + 1) s o

/-- The attempts that a search among suffixes up to `top` may make while it loses some claims. -/
def roundsCost (top lost : Nat) : Nat :=
  (lost + 1) * (1 + 2 * top.size)

/-- A search makes no more attempts than its rounds cost. -/
theorem Rounds.attempts_le {lower attempts lost : Nat} {p : Option Found × Nat}
    (h : r.Rounds req name top lower attempts lost s (.ok p m)) :
    p.2 ≤ attempts + roundsCost top lost := by
  unfold roundsCost
  generalize hend : EStateM.Result.ok p m = o at h
  induction h with
  | failed | refused => cases hend
  | nothing hoffer =>
    obtain ⟨rfl, -⟩ := EStateM.Result.ok.inj hend
    have hround := (offerAbove_attempts _ _ _).of_ok hoffer
    rwa [Nat.zero_add, Nat.one_mul]
  | won hoffer _ =>
    obtain ⟨rfl, -⟩ := EStateM.Result.ok.inj hend
    have hround := (offerAbove_attempts _ _ _).of_ok hoffer
    rwa [Nat.zero_add, Nat.one_mul]
  | lost hoffer _ _ ih =>
    have hround := (offerAbove_attempts _ _ _).of_ok hoffer
    have hrest := ih hend
    rw [Nat.succ_mul]
    dsimp only at hround
    omega

/-- How a search ends, and how many claims it loses, is settled by where it begins. -/
theorem Rounds.unique {lower attempts lost lost' : Nat}
    {o o' : EStateM.Result Fault Session (Option Found × Nat)}
    (h : r.Rounds req name top lower attempts lost s o)
    (h' : r.Rounds req name top lower attempts lost' s o') : lost = lost' ∧ o = o' := by
  induction h generalizing lost' o' with
  | failed hoffer => cases h' <;> simp_all
  | nothing hoffer => cases h' <;> simp_all
  | refused hoffer hclaim => cases h' <;> simp_all
  | won hoffer hclaim => cases h' <;> simp_all
  | lost hoffer hclaim _ ih =>
    cases h' with
    | lost hoffer' hclaim' hrounds' =>
      -- both have lost the same suffix, and go on above it in the same session
      rw [hoffer] at hoffer'
      cases hoffer'
      rw [hclaim] at hclaim'
      cases hclaim'
      obtain ⟨rfl, rfl⟩ := ih hrounds'
      exact ⟨rfl, rfl⟩
    | _ => simp_all

/-- Where no more claims can be lost than the search allows for, it is never cut off. -/
theorem searchAbove_rounds {s : Session} {losses : Nat} (h : pendingLosses s ≤ losses)
    (lower attempts : Nat) :
    ∃ lost ≤ pendingLosses s, r.Rounds req name top lower attempts lost s
      (r.searchAbove req name top losses lower attempts s) := by
  rw [searchAbove]
  cases hoffer : r.offerAbove req name top lower attempts s with
  | error f m =>
    rw [run_bind_error hoffer]
    exact ⟨0, Nat.zero_le _, .failed hoffer⟩
  | ok p m =>
    obtain ⟨hasks, hcleared⟩ := (offerAbove_cleared lower attempts).of_ok hoffer
    rw [run_bind_ok hoffer]
    obtain ⟨_ | k, used⟩ := p
    · exact ⟨0, Nat.zero_le _, .nothing hoffer⟩
    · dsimp only
      rw [claimOr]
      cases hclaim : claimSuffixed req name (.whole k) m with
      | error f m' =>
        rw [run_bind_error hclaim]
        exact ⟨0, Nat.zero_le _, .refused hoffer hclaim⟩
      | ok found m' =>
        rw [run_bind_ok hclaim]
        cases found with
        | some found => exact ⟨0, Nat.zero_le _, .won hoffer hclaim⟩
        | none =>
          -- one loss less can follow, so the search still allows for the others
          have hfewer := (claimSuffixed_loses hasks (hcleared k rfl)).of_ok hclaim rfl
          cases losses with
          | zero => omega
          | succ losses =>
            have hleft : pendingLosses m' ≤ losses := by omega
            obtain ⟨lost, hlost, hrounds⟩ := searchAbove_rounds hleft k used
            exact ⟨lost + 1, by omega, .lost hoffer hclaim hrounds⟩

/-! ### The search behind a name -/

variable {n : Int}

/-- Under a whole limit the search without an end behind the name, begun in the session, ends as one
that begins again after each loss, and loses so many claims. -/
def LosesIn (r : Resolver) (req : Request) (n : Int) (name : Text) (m : Session) (lost : Nat) :
    Prop :=
  ∃ l : Nat, (m.worker.suffixes.last (lowercase name)).1 = .whole l ∧
    r.Rounds req name (maxSuffix n.toNat) l 0 lost (afterReading (lowercase name) m)
      (r.searchDoubling req name m)

/-- It comes to an end, however far the cache has counted. It loses no more claims than there are
names that others are about to take, and one more if a request is going to fail. -/
theorem searchDoubling_rounds (hlimit : req.limit = .whole n) (hm : m.worker.suffixes.Counting)
    (r : Resolver) (name : Text) : ∃ lost ≤ pendingLosses m, r.LosesIn req n name m lost := by
  obtain ⟨l, hl⟩ := (hm.last (lowercase name)).1
  -- reading the cache changes nothing about what is going to happen
  have hbegin : pendingLosses (afterReading (lowercase name) m) ≤ pendingLosses m := Nat.le_refl _
  obtain ⟨lost, hlost, hrounds⟩ := searchAbove_rounds hbegin l 0
  refine ⟨lost, hlost, l, hl, ?_⟩
  rw [searchDoubling_whole hlimit hl]
  exact hrounds

/-- It loses as many claims as it does. -/
theorem LosesIn.unique {lost lost' : Nat} (h : r.LosesIn req n name m lost)
    (h' : r.LosesIn req n name m lost') : lost = lost' := by
  obtain ⟨l, hl, hrounds⟩ := h
  obtain ⟨l', hl', hrounds'⟩ := h'
  have hsame : (l : Int) = l' := Quantity.whole.inj (hl.symm.trans hl')
  obtain rfl : l = l' := by omega
  exact (hrounds.unique hrounds').1

/-- It makes no more attempts than its rounds cost. -/
theorem LosesIn.attempts_le {lost : Nat} (h : r.LosesIn req n name m lost) :
    Ends (r.searchDoubling req name) m (fun p _ => p.2 ≤ roundsCost (maxSuffix n.toNat) lost)
      (fun _ _ => True) := by
  obtain ⟨l, -, hrounds⟩ := h
  refine ends_iff.2 ⟨fun p m' hrun => ?_, fun _ _ _ => trivial⟩
  rw [hrun] at hrounds
  have hcost := hrounds.attempts_le
  rwa [Nat.zero_add] at hcost

end Resolver

end Namesake
