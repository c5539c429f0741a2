import Namesake.Proofs.Resolver.Progress
import Namesake.Resolver.Resolve

/-!
# Probing candidates

Before a resolver claims a candidate it asks whether it may: whether the candidate is reserved, and
whether somebody holds it. Asking changes nothing, so what has been found out about a candidate is
still true when the candidate is claimed, however many others have been asked for in between.

## Main definitions

* `Resolver.MayClaim`, `Resolver.Offers` — a resolver may claim a name, or a suffixed form of it
* `Resolver.Probed` — the suffixes that doubling comes across
* `Resolver.Tells` — what a resolver is told that asks for suffixed forms
* `Resolver.IsLowest` — a suffix is available, but not the one before it, unless it is the first one

## Main results

* `Resolver.tryClaim_ends` — a candidate is claimed if the resolver may do so
* `Resolver.offerAbove_tells` — doubling and bisecting end on a lowest suffix, whatever is asked for
* `Resolver.offerAbove_ends`, `Resolver.offerRounded_ends` — doubling and bisecting end on an offer
-/

open Namesake.Task

namespace Namesake

open Unicode

namespace Resolver

variable {counting : Prop} {r : Resolver} {req : Request} {s : Session} {name lower : Text}

/-! ### Asking for a name -/

/-- The resolver may claim the name for the request: it is not reserved, unless that is allowed, and
nobody would lose it. -/
structure MayClaim (r : Resolver) (req : Request) (lower : Text) (store : Store) : Prop where
  allowed : req.allowReserved = false → r.reserved.holds lower = false
  opened : store.Open lower

/-- The resolver may claim the suffixed form of the name. -/
def Offers (r : Resolver) (req : Request) (name : Text) (suffix : Quantity) (store : Store) :
    Prop :=
  ∃ candidate, suffixed name suffix req.limit = .ok (some candidate) ∧
    r.MayClaim req (lowercase candidate) store

theorem isAvailable_ends :
    Ends (r.isAvailable lower req.allowReserved) s
      (fun b s' => s.Looks s' ∧ (b = true → r.MayClaim req lower s.shared.store))
      (fun _ s' => s.Looks s') := by
  unfold isAvailable
  split
  · exact ⟨.refl s, by simp⟩
  · rename_i hreserved
    rw [ends_bind]
    refine (Registry.isUsed_ends lower).mono (fun used s₁ h₁ => ?_) (fun _ _ h => h)
    rw [ends_pure]
    refine ⟨h₁.1, fun hb => ⟨fun ha => ?_, h₁.2 (by simpa using hb)⟩⟩
    simpa [ha] using hreserved

/-- A candidate is claimed if the resolver may claim it and no other worker is faster. -/
theorem tryClaim_ends :
    Ends (r.tryClaim req name lower) s
      (fun won s' => if won then
        (req.allowReserved = false → r.reserved.holds lower = false) ∧
          s.Claims counting s' req.kind lower name
        else s.Waits counting s')
      (fun _ s' => s.Waits counting s') := by
  rw [tryClaim, ends_bind]
  refine isAvailable_ends.mono (fun b s₁ h₁ => ?_) (fun _ _ h => h.waits)
  obtain ⟨hlook, hmay⟩ := h₁
  cases b with
  | false => exact hlook.waits
  | true =>
    -- asking has not changed the store, so the name is still open
    obtain ⟨hallowed, hopen⟩ := hmay rfl
    rw [← hlook.store] at hopen
    refine (Registry.claim_ends hopen).mono (fun won s₂ h₂ => ?_)
      (fun _ _ h₂ => hlook.waits.trans h₂.waits)
    cases won with
    | true => exact ⟨hallowed, hlook.waits.claims (Session.Inserts.claims h₂)⟩
    | false => exact hlook.waits.trans (Session.Yields.waits h₂)

/-! ### Asking for suffixed forms -/

/-- There is a base for a suffix that may be written, where the limit less the suffix cuts the name.
-/
theorem baseFor_eq_ok {suffix : Quantity} {limit : Limit} {base : Text} :
    baseFor name suffix limit = .ok base ↔
      isWritable suffix = true ∧ (limit.minus (suffixTail suffix).length).cut name = .ok base := by
  by_cases hwritable : isWritable suffix = true
  · rw [baseFor_of_writable hwritable]
    exact (and_iff_right hwritable).symm
  · rw [baseFor_of_not_writable hwritable]
    simp [hwritable]

/-- There is a suffixed form of a name if something is left of its base. -/
theorem suffixed_eq_some {suffix : Quantity} {limit : Limit} {candidate : Text} :
    suffixed name suffix limit = .ok (some candidate) ↔
      ∃ base, baseFor name suffix limit = .ok base ∧ base ≠ [] ∧
        candidate = base ++ suffixTail suffix := by
  rw [suffixed]
  cases hbase : baseFor name suffix limit with
  | error f => simp [bind, Except.bind]
  | ok base =>
    simp only [bind, Except.bind, pure, Except.pure, Except.ok.injEq, exists_eq_left']
    by_cases hempty : base = []
    · simp [hempty]
    · simp only [List.isEmpty_iff, hempty, if_false, Option.some.injEq, not_false_eq_true, ne_eq,
        true_and]
      exact eq_comm

/-- A suffixed form is claimed under its lower-case form, and if the claim is won, the suffix is
recorded. -/
theorem ends_claimSuffixed {suffix : Quantity} {base : Text} {ok : Option Found → Session → Prop}
    {bad : Fault → Session → Prop} (hbase : baseFor name suffix req.limit = .ok base) :
    Ends (claimSuffixed req name suffix) s ok bad ↔
      Ends (Registry.claim req.kind (lowercase (base ++ suffixTail suffix))
          (some (base ++ suffixTail suffix))) s
        (fun won m => if won = true then
            Ends (Task.recordSuffix (lowercase base) suffix) m
              (fun _ s' => ok
                (some ⟨base ++ suffixTail suffix, lowercase (base ++ suffixTail suffix),
                suffix⟩) s') bad
          else ok none m)
        bad := by
  rw [claimSuffixed, hbase, ends_bind]
  refine Iff.trans ends_bind (iff_of_eq (congrArg (Ends _ s · bad) ?_))
  funext won m
  cases won with
  | true => exact propext ends_bind
  | false => rfl

theorem suffixAvailable_ends (suffix : Quantity) :
    Ends (r.suffixAvailable req name suffix) s
      (fun b s' => s.Looks s' ∧ (b = true → r.Offers req name suffix s.shared.store))
      (fun _ s' => s.Looks s') := by
  rw [suffixAvailable, ends_bind, ends_lift]
  refine ⟨fun found hfound => ?_, fun _ _ => .refl s⟩
  cases found with
  | none => exact ⟨.refl s, by simp⟩
  | some candidate =>
    refine isAvailable_ends.mono (fun b s₁ h₁ => ?_) (fun _ _ h => h)
    exact ⟨h₁.1, fun hb => ⟨candidate, hfound, h₁.2 hb⟩⟩

/-! ### Doubling and bisecting -/

/-- The suffixes up to `top` that doubling comes across when it begins with `upper`. -/
def Probed (top upper k : Nat) : Prop :=
  ∃ i, k = min (upper * Nat.pow 2 i) top

/-- Doubling does not come down again. -/
theorem le_doubled (k i : Nat) : k ≤ k * Nat.pow 2 i :=
  Nat.le_mul_of_pos_right k (Nat.two_pow_pos i)

/-- Whoever doubles once more may as well begin with the double. -/
theorem doubled_succ (k i : Nat) : k * Nat.pow 2 (i + 1) = 2 * k * Nat.pow 2 i := by
  rw [show Nat.pow 2 (i + 1) = Nat.pow 2 i * 2 from rfl]
  ac_rfl

/-- Doubling begins with the first suffix and goes on with the next one. -/
theorem probed_iff {top upper k : Nat} (htop : upper ≤ top) :
    Probed top upper k ↔ k = upper ∨ Probed top (min (2 * upper) top) k := by
  have hzero : min (upper * Nat.pow 2 0) top = upper := by
    rw [show upper * Nat.pow 2 0 = upper from Nat.mul_one upper, Nat.min_eq_left htop]
  have hstep : ∀ i, min (upper * Nat.pow 2 (i + 1)) top =
      min (min (2 * upper) top * Nat.pow 2 i) top := by
    intro i
    rw [doubled_succ, ← Nat.mul_min_mul_right, Nat.min_assoc, Nat.min_eq_right (le_doubled top i)]
  constructor
  · rintro ⟨_ | i, rfl⟩
    · exact Or.inl hzero
    · exact Or.inr ⟨i, hstep i⟩
  · rintro (rfl | ⟨i, rfl⟩)
    · exact ⟨0, hzero.symm⟩
    · exact ⟨i + 1, (hstep i).symm⟩

/-- Doubling comes across the largest suffix in the end. -/
theorem probed_top {top upper : Nat} (hpos : 0 < upper) : Probed top upper top := by
  have htop : top ≤ upper * Nat.pow 2 top :=
    Nat.le_trans (Nat.le_of_lt Nat.lt_two_pow_self) (Nat.le_mul_of_pos_left _ hpos)
  exact ⟨top, (Nat.min_eq_right htop).symm⟩

/-- In a session in which `inv` holds, whoever asks for a suffix between `first` and `top` is told
what `yes` says of it or what `no` says of it, or fails as `bad` says. Asking leaves `inv` as it is.
-/
def Tells (r : Resolver) (req : Request) (name : Text) (inv : Session → Prop) (yes no : Nat → Prop)
    (bad : Fault → Session → Prop) (first top : Nat) : Prop :=
  ∀ s k, inv s → first ≤ k → k ≤ top →
    Ends (r.suffixAvailable req name (.whole k)) s
      (fun b s' => inv s' ∧ if b = true then yes k else no k) bad

/-- The suffix is available, and it is the first one or comes after one that is not available. -/
structure IsLowest (yes no : Nat → Prop) (first top k : Nat) : Prop where
  available : yes k
  le_top : k ≤ top
  least : k = first ∨ ∃ j, k = j + 1 ∧ first ≤ j ∧ no j

section Tells

variable {inv : Session → Prop} {yes no : Nat → Prop} {bad : Fault → Session → Prop}
  {first top : Nat}

/-- The lowest suffix is not below the first one. -/
theorem IsLowest.first_le {k : Nat} (h : IsLowest yes no first top k) : first ≤ k := by
  rcases h.least with rfl | ⟨j, rfl, hj, -⟩
  · exact Nat.le_refl k
  · exact Nat.le_succ_of_le hj

theorem Tells.mono {first' : Nat} (h : r.Tells req name inv yes no bad first top)
    (hfirst : first ≤ first') : r.Tells req name inv yes no bad first' top :=
  fun s k hs hk => h s k hs (Nat.le_trans hfirst hk)

/-- Doubling ends on an available suffix, which is the first one or comes after one that is not
available; or none of the suffixes that it comes across is. -/
theorem climb_tells {s : Session} {upper : Nat} (h : r.Tells req name inv yes no bad upper top)
    (hs : inv s) (htop : upper ≤ top) (hpos : 0 < top → 0 < upper) (lower attempts : Nat) :
    Ends (r.climb req name top lower upper attempts) s
      (fun p s' => inv s' ∧ match p.1 with
        | some (l, u) => yes u ∧ u ≤ top ∧ (l = lower ∧ u = upper ∨ no l ∧ upper ≤ l ∧ l < u)
        | none => ∀ k, Probed top upper k → no k)
      bad := by
  rw [climb, ends_bind]
  refine (h s upper hs (Nat.le_refl _) htop).mono (fun b m hm => ?_) fun _ _ hf => hf
  obtain ⟨hm, hsays⟩ := hm
  cases b with
  | true => exact ⟨hm, hsays, htop, .inl ⟨rfl, rfl⟩⟩
  | false =>
    have hno : no upper := hsays
    rw [if_neg Bool.false_ne_true]
    split
    · rename_i hup
      have hnext : upper ≤ min (2 * upper) top := Nat.le_of_lt hup
      refine (climb_tells (h.mono hnext) hm (Nat.min_le_right _ _) (by omega) upper
        (attempts + 1)).mono (fun p s' hp => ⟨hp.1, ?_⟩) fun _ _ hf => hf
      replace hp := hp.2
      obtain ⟨_ | ⟨l, u⟩, attempts'⟩ := p
      · intro k hk
        rcases (probed_iff htop).1 hk with rfl | hk
        · exact hno
        · exact hp k hk
      · -- the suffix before the one that it ends on is this one, or a later one
        obtain ⟨hyes, hle, ⟨rfl, rfl⟩ | ⟨hbefore, hfrom, hlt⟩⟩ := hp
        · exact ⟨hyes, hle, .inr ⟨hno, Nat.le_refl _, hup⟩⟩
        · exact ⟨hyes, hle, .inr ⟨hbefore, Nat.le_trans hnext hfrom, hlt⟩⟩
    · -- the largest suffix is reached, and doubling it once more changes nothing
      refine ⟨hm, fun k hk => ?_⟩
      obtain rfl : upper = top := by omega
      obtain ⟨i, rfl⟩ := hk
      rwa [Nat.min_eq_right (le_doubled upper i)]
termination_by top - upper
decreasing_by omega

/-- Between a suffix that is not available and one that is, bisecting ends on an available one that
comes after one that is not. -/
theorem bisect_tells {s : Session} {lower upper : Nat}
    (h : r.Tells req name inv yes no bad first top) (hs : inv s) (hfirst : first ≤ lower)
    (hlt : lower < upper) (htop : upper ≤ top) (hno : no lower) (hyes : yes upper)
    (attempts : Nat) :
    Ends (r.bisect req name lower upper attempts) s
      (fun p s' => inv s' ∧ IsLowest yes no first top p.1) bad := by
  rw [bisect]
  split
  · dsimp only
    rw [ends_bind]
    refine (h s _ hs (by omega) (by omega)).mono (fun b m hm => ?_) fun _ _ hf => hf
    obtain ⟨hm, hsays⟩ := hm
    -- either half is again between such suffixes
    cases b with
    | true => exact bisect_tells h hm hfirst (by omega) (by omega) hno hsays _
    | false => exact bisect_tells h hm (by omega) (by omega) htop hsays hyes _
  · exact ⟨hs, hyes, htop, .inr ⟨lower, by omega, hfirst, hno⟩⟩
termination_by upper - lower
decreasing_by all_goals omega

/-- Doubling and bisecting above a suffix end on the lowest available suffix next to one that is not
available; or none of the suffixes that doubling comes across is available. -/
theorem offerAbove_tells {lower : Nat}
    (h : r.Tells req name inv yes no bad (min (lower + 1) top) top) (hs : inv s) (attempts : Nat) :
    Ends (r.offerAbove req name top lower attempts) s
      (fun p s' => inv s' ∧ match p.1 with
        | some k => IsLowest yes no (min (lower + 1) top) top k
        | none => ∀ k, Probed top (min (lower + 1) top) k → no k)
      bad := by
  rw [offerAbove, ends_bind]
  refine (climb_tells h hs (Nat.min_le_right _ _) (by omega) lower _).mono (fun p m hp => ?_)
    fun _ _ hf => hf
  obtain ⟨hm, hp⟩ := hp
  obtain ⟨_ | ⟨l, u⟩, attempts'⟩ := p
  · exact ⟨hm, hp⟩
  · dsimp only
    rw [ends_bind]
    obtain ⟨hyes, hle, ⟨rfl, rfl⟩ | ⟨hno, hfrom, hlt⟩⟩ := hp
    · -- the first suffix is available, and there is nothing to bisect
      rw [bisect, dif_neg (by omega)]
      exact ⟨hm, hyes, hle, .inl rfl⟩
    · exact (bisect_tells h hm hfrom hlt hle hno hyes _).mono (fun _ _ hq => hq) fun _ _ hf => hf

end Tells

/-- A resolver that asks for a suffixed form is told that it is on offer, if it is available. -/
theorem tells_offers (s : Session) (first top : Nat) :
    r.Tells req name s.Looks (fun k => r.Offers req name (.whole k) s.shared.store) (fun _ => True)
      (fun _ s' => s.Looks s') first top := by
  intro m k hm _ _
  refine (suffixAvailable_ends (.whole k)).mono (fun b m' h => ⟨hm.trans h.1, ?_⟩)
    fun _ _ h => hm.trans h
  cases b with
  | true =>
    rw [← hm.store]
    exact h.2 rfl
  | false => trivial

/-- The suffix found above a suffix is on offer. -/
theorem offerAbove_ends (top lower attempts : Nat) :
    Ends (r.offerAbove req name top lower attempts) s
      (fun p s' => s.Looks s' ∧ ∀ suffix, p.1 = some suffix →
        r.Offers req name (.whole suffix) s.shared.store ∧ (0 < top → 0 < suffix))
      (fun _ s' => s.Looks s') := by
  refine (offerAbove_tells (tells_offers s _ _) (.refl s) attempts).mono (fun p s' h => ⟨h.1, ?_⟩)
    fun _ _ h => h
  intro suffix hsuffix
  have hlowest := h.2
  rw [hsuffix] at hlowest
  have hfirst := hlowest.first_le
  exact ⟨hlowest.available, fun _ => by omega⟩

/-! ### Doubling and bisecting among any numbers -/

/-- Doubling among any numbers ends on a suffix on offer. -/
theorem climbRounded_ends (top : Quantity) (fuel : Nat) (lower upper : Quantity) (attempts : Nat) :
    Ends (r.climbRounded req name top fuel lower upper attempts) s
      (fun p s' => s.Looks s' ∧ ∀ l u, p.1 = some (l, u) → r.Offers req name u s.shared.store)
      (fun _ s' => s.Looks s') := by
  induction fuel generalizing lower upper attempts s with
  | zero => exact ⟨.refl s, by simp⟩
  | succ fuel ih =>
    rw [climbRounded, ends_bind]
    refine (suffixAvailable_ends _).mono (fun b s₁ h₁ => ?_) (fun _ _ h => h)
    obtain ⟨hlook, hoffer⟩ := h₁
    cases b with
    | true =>
      refine ⟨hlook, fun l u hlu => ?_⟩
      obtain ⟨rfl, rfl⟩ : lower = l ∧ upper = u := by simpa using hlu
      exact hoffer rfl
    | false =>
      rw [if_neg Bool.false_ne_true]
      split
      · exact ⟨hlook, by simp⟩
      · refine (ih _ _ _).mono (fun p s₂ h₂ => ?_) (fun _ _ h => hlook.trans h)
        rw [hlook.store] at h₂
        exact ⟨hlook.trans h₂.1, h₂.2⟩

/-- Bisecting among any numbers below a suffix on offer ends on one. -/
theorem bisectRounded_ends (fuel : Nat) (lower : Quantity) {upper : Quantity} (attempts : Nat)
    (h : r.Offers req name upper s.shared.store) :
    Ends (r.bisectRounded req name fuel lower upper attempts) s
      (fun p s' => s.Looks s' ∧ r.Offers req name p.1 s.shared.store)
      (fun _ s' => s.Looks s') := by
  induction fuel generalizing lower upper attempts s with
  | zero => exact ⟨.refl s, h⟩
  | succ fuel ih =>
    rw [bisectRounded, ends_bind, ends_lift]
    refine ⟨fun _ _ => ?_, fun _ _ => .refl s⟩
    split
    · dsimp only
      rw [ends_bind]
      refine (suffixAvailable_ends _).mono (fun b s₁ h₁ => ?_) (fun _ _ h => h)
      obtain ⟨hlook, hoffer⟩ := h₁
      rw [← hlook.store] at h hoffer
      cases b with
      | true =>
        refine (ih _ _ (hoffer rfl)).mono (fun p s₂ h₂ => ?_) (fun _ _ h => hlook.trans h)
        rw [hlook.store] at h₂
        exact ⟨hlook.trans h₂.1, h₂.2⟩
      | false =>
        refine (ih _ _ h).mono (fun p s₂ h₂ => ?_) (fun _ _ h => hlook.trans h)
        rw [hlook.store] at h₂
        exact ⟨hlook.trans h₂.1, h₂.2⟩
    · exact ⟨.refl s, h⟩

theorem offerRounded_ends (top lower : Quantity) (attempts : Nat) :
    Ends (r.offerRounded req name top lower attempts) s
      (fun p s' => s.Looks s' ∧ ∀ suffix, p.1 = some suffix →
        r.Offers req name suffix s.shared.store)
      (fun _ s' => s.Looks s') := by
  rw [offerRounded, ends_bind]
  refine (climbRounded_ends _ _ _ _ _).mono (fun p s₁ h₁ => ?_) (fun _ _ h => h)
  obtain ⟨hlook, hclimb⟩ := h₁
  obtain ⟨_ | ⟨l, u⟩, attempts'⟩ := p
  · exact ⟨hlook, by simp⟩
  · have hoffer := hclimb l u rfl
    rw [← hlook.store] at hoffer
    dsimp only
    rw [ends_bind]
    refine (bisectRounded_ends _ _ _ hoffer).mono (fun p s₂ h₂ => ?_) (fun _ _ h => hlook.trans h)
    obtain ⟨hlook', hoffer'⟩ := h₂
    rw [hlook.store] at hoffer'
    refine ⟨hlook.trans hlook', fun suffix hsuffix => ?_⟩
    obtain rfl := Option.some.inj hsuffix
    exact hoffer'

end Resolver

end Namesake
