import Namesake.Proofs.Name.Cut
import Namesake.Proofs.Resolver.Probe

/-!
# What a search finds

Every search comes down from a name to bases of it, which are cuts of the name, and puts suffixes
behind them. It ends in one of three ways. It has found a candidate, and then exactly that candidate
is claimed; it has found none, and then no name is claimed; or it has failed. A search that fails
has claimed nothing either, except where a cache without room for an entry refuses to remember the
name that has just been claimed; that is no fault of the library's own.

## Main definitions

* `BaseOf` — a text may stand before a suffix in the search behind a name
* `Found.Suits` — a candidate is what the search behind a name may find
* `Session.Finds`, `Session.Fails` — the ends of a search

## Main results

* `Resolver.searchLinear_ends` — the ends of the linear search
* `Resolver.searchDoubling_ends` — the ends of the search without an end
-/

open Namesake.Task

namespace Namesake

open Unicode

/-! ### Bases and candidates -/

/-- The text is a base in the search behind a name: something is left of it, and under a whole limit
it is a cut of the name. -/
structure BaseOf (req : Request) (name base : Text) : Prop where
  nonempty : base ≠ []
  cut : req.limit.isWhole = true → base.IsCutOf name

/-- The candidate is one that the search behind a name may find. -/
structure Found.Suits (counting : Prop) (r : Resolver) (req : Request) (name : Text) (f : Found) :
    Prop where
  made : ∃ base, BaseOf req name base ∧ f.name = base ++ suffixTail f.suffix
  fits : ∀ n, req.limit = .whole n → (f.name.graphemeLength : Int) ≤ n
  allowed : req.allowReserved = false → r.reserved.holds f.nameLower = false
  counted : counting → f.suffix.IsSuffix

/-- A search ends with a candidate, which is claimed, or without one. -/
def Session.Finds (counting : Prop) (r : Resolver) (req : Request) (name : Text) (s s' : Session) :
    Option Found → Prop
  | some f => s.Claims counting s' req.kind f.nameLower f.name ∧ f.Suits counting r req name
  | none => s.Waits counting s'

/-- A search or a resolution fails. Nothing is claimed, unless the fault is not the library's own.
-/
def Session.Fails (counting : Prop) (s s' : Session) (kind : NameKind) (f : Fault) : Prop :=
  s.Waits counting s' ∨ f.isOwn = false ∧ ∃ lower name, s.Claims counting s' kind lower name

section Bases

variable {counting : Prop} {r : Resolver} {req : Request} {s s' s'' : Session} {kind : NameKind}
variable {name base base' : Text} {suffix : Quantity} {limit : Limit} {f : Fault}

theorem Session.Waits.finds {found : Option Found} (h : s.Waits counting s')
    (h' : s'.Finds counting r req name s'' found) : s.Finds counting r req name s'' found := by
  cases found with
  | none => exact h.trans h'
  | some f => exact ⟨h.claims h'.1, h'.2⟩

theorem Session.Waits.fails (h : s.Waits counting s') (h' : s'.Fails counting s'' kind f) :
    s.Fails counting s'' kind f := by
  rcases h' with h' | ⟨hown, lower, name, h'⟩
  · exact Or.inl (h.trans h')
  · exact Or.inr ⟨hown, lower, name, h.claims h'⟩

/-- A search that begins after others may have taken names ends as one that began before. -/
theorem Session.Waits.search {t : Task (Option Found × Nat)} (h : s.Waits counting s')
    (ht : Ends t s' (fun p s'' => s'.Finds counting r req name s'' p.1)
      (fun f s'' => s'.Fails counting s'' kind f)) :
    Ends t s' (fun p s'' => s.Finds counting r req name s'' p.1)
      (fun f s'' => s.Fails counting s'' kind f) :=
  ht.mono (fun _ _ hf => h.finds hf) (fun _ _ hf => h.fails hf)

theorem Quantity.isWhole_sub {a b : Quantity} (ha : a.isWhole = true) (hb : b.isWhole = true) :
    (a.sub b).isWhole = true := by
  cases a with
  | real x => cases ha
  | whole m =>
    cases b with
    | real x => cases hb
    | whole n => rfl

theorem BaseOf.refl (h : name ≠ []) : BaseOf req name name :=
  ⟨h, fun _ => .refl name⟩

/-- A base of a base is a base. -/
theorem BaseOf.trans (h : BaseOf req name base) (h' : BaseOf req base base') :
    BaseOf req name base' :=
  ⟨h'.nonempty, fun hwhole => (h'.cut hwhole).trans (h.cut hwhole)⟩

theorem BaseOf.ofCut (h : Limit.cut limit name = .ok base) (hbase : base ≠ [])
    (hlimit : req.limit.isWhole = true → limit.isWhole = true) : BaseOf req name base :=
  ⟨hbase, fun hwhole => Limit.isCutOf h hbase (hlimit hwhole)⟩

theorem BaseOf.suits {nameLower : Text} (hbase : BaseOf req name base)
    (hfits : ∀ n, req.limit = .whole n → ((base ++ suffixTail suffix).graphemeLength : Int) ≤ n)
    (hallowed : req.allowReserved = false → r.reserved.holds nameLower = false)
    (hcounted : counting → suffix.IsSuffix) :
    Found.Suits counting r req name ⟨base ++ suffixTail suffix, nameLower, suffix⟩ :=
  ⟨⟨base, hbase, rfl⟩, hfits, hallowed, hcounted⟩

/-- The base for a suffix leaves room for the suffix. -/
theorem baseFor_fits {n : Int} (h : baseFor name suffix (.whole n) = .ok base) (hbase : base ≠ []) :
    ((base ++ suffixTail suffix).graphemeLength : Int) ≤ n := by
  obtain ⟨-, hcut⟩ := Resolver.baseFor_eq_ok.1 h
  rw [Limit.minus_whole, Limit.cut_whole] at hcut
  obtain rfl := Except.ok.inj hcut
  have hlen := Text.graphemeLength_cutTo_le name (n - (suffixTail suffix).length)
  have happend := Text.graphemeLength_append_le
    (name.cutTo (n - (suffixTail suffix).length)) (suffixTail suffix)
  have hpos : (name.cutTo (n - (suffixTail suffix).length)).graphemeLength ≠ 0 := fun h0 =>
    hbase (Text.eq_nil_of_graphemeLength h0)
  omega

/-- A suffixed form on offer has a base. -/
theorem Resolver.Offers.exists_base {store : Store} (h : r.Offers req name suffix store) :
    ∃ base, baseFor name suffix req.limit = .ok base ∧ base ≠ [] ∧
      r.MayClaim req (lowercase (base ++ suffixTail suffix)) store := by
  obtain ⟨candidate, hsuffixed, hmay⟩ := h
  obtain ⟨base, hbase, hne, rfl⟩ := Resolver.suffixed_eq_some.1 hsuffixed
  exact ⟨base, hbase, hne, hmay⟩

end Bases

namespace Resolver

variable {counting : Prop} {r : Resolver} {req : Request} {s : Session} {name : Text}

/-! ### The linear search -/

/-- A candidate that has just been claimed is remembered, and is what the search has found. -/
theorem remember_ends {s m : Session} {uncut base lower : Text} {f : Found} {used : Nat}
    {suffix : Quantity} (hclaim : s.Claims counting m req.kind f.nameLower f.name)
    (hf : f.Suits counting r req name) (hsuffix : counting → suffix.IsCount) :
    Ends (do
        if lower ≠ uncut then Task.recordCut uncut req.limit base.graphemeLength
        Task.recordSuffix lower suffix
        return (some f, used))
      m (fun p s' => s.Finds counting r req name s' p.1)
      (fun e s' => s.Fails counting s' req.kind e) := by
  have hlast : ∀ {m' : Session}, m.Remembers counting m' →
      Ends (do Task.recordSuffix lower suffix; return (some f, used)) m'
        (fun p s' => s.Finds counting r req name s' p.1)
        (fun e s' => s.Fails counting s' req.kind e) := by
    intro m' hm
    rw [ends_bind]
    refine (recordSuffix_ends lower hsuffix).mono (fun _ s' h' => ?_) (fun e s' h' => ?_)
    · exact ⟨hclaim.remembers (hm.trans h'), hf⟩
    · exact Or.inr ⟨h'.2, _, _, hclaim.remembers (hm.trans h'.1)⟩
  by_cases hcut : lower ≠ uncut
  · simp only [if_pos hcut]
    rw [ends_bind]
    refine (recordCut_ends counting uncut req.limit _).mono (fun _ m' hm => ?_) (fun e s' h' => ?_)
    · exact hlast hm
    · exact Or.inr ⟨h'.2, _, _, hclaim.remembers h'.1⟩
  · simp only [if_neg hcut]
    exact hlast (Session.Looks.remembers (.refl m))

/-- From any base on, the linear search finds what suits the name that it began with. -/
theorem searchFrom_ends {uncut : Text}
    {budget : Nat} {base baseLower : Text} {suffix : Quantity} {used : Nat}
    {lastTried : Option (Text × Quantity)} (hs : s.Counts counting) (hbase : BaseOf req name base)
    (hsuffix : counting → suffix.IsSuffix)
    (hlast : ∀ b q, lastTried = some (b, q) → counting → q.IsCount) :
    Ends (r.searchFrom req uncut budget base baseLower suffix used lastTried) s
      (fun p s' => s.Finds counting r req name s' p.1)
      (fun f s' => s.Fails counting s' req.kind f) := by
  induction budget generalizing s base baseLower suffix used lastTried with
  | zero =>
    cases lastTried with
    | none => exact Session.Waits.refl s
    | some last =>
      rw [searchFrom, ends_bind]
      exact (recordSuffix_ends last.1 (hlast last.1 last.2 rfl)).mono (fun _ _ h => h.waits)
        (fun _ _ h => Or.inl h.1.waits)
  | succ budget ih =>
    by_cases hwritable : isWritable suffix = true
    swap
    · -- the suffix has too many digits: nothing has been claimed
      rw [searchFrom_of_not_writable hwritable]
      exact Or.inl (.refl s)
    rw [searchFrom_of_writable hwritable]
    dsimp only
    split
    · -- the candidate is too long: the search goes on behind a shorter base
      rw [ends_bind, ends_lift]
      refine ⟨fun cut hcut => ?_, fun _ _ => Or.inl (.refl s)⟩
      split
      · exact Session.Waits.refl s
      · rename_i hempty
        have hbase' : BaseOf req base cut :=
          .ofCut hcut (by simpa using hempty) fun hwhole =>
            Quantity.isWhole_sub rfl (Quantity.isWhole_sub rfl hwhole)
        rw [ends_bind]
        refine (lastSuffix_ends counting _).mono (fun last s₁ h₁ => ?_) (fun _ _ h => h.elim)
        exact h₁.1.waits.search
          (ih (h₁.1.counts hs) (hbase.trans hbase') (fun hc => (h₁.2 hs hc).next) hlast)
    · -- the candidate keeps the limit: it is claimed, or the next suffix is tried
      rename_i hroom
      rw [ends_bind]
      refine tryClaim_ends.mono (fun won s₁ h₁ => ?_) (fun _ _ h => Or.inl h)
      cases won with
      | true =>
        obtain ⟨hallowed, hclaim⟩ := h₁
        have hfits : ∀ n, req.limit = .whole n →
            ((base ++ suffixTail suffix).graphemeLength : Int) ≤ n := by
          intro n hn
          rw [hn, excessOf, lengthOf, Quantity.sub_whole, show (0 : Quantity) = .whole 0 from rfl,
            Quantity.lt_whole, decide_eq_true_eq] at hroom
          omega
        exact remember_ends hclaim (hbase.suits hfits hallowed hsuffix)
          fun hc => (hsuffix hc).isCount
      | false =>
        have hwait : s.Waits counting s₁ := h₁
        refine hwait.search
          (ih (hwait.counts hs) hbase (fun hc => (hsuffix hc).isCount.next) ?_)
        intro b q hbq hc
        obtain ⟨-, rfl⟩ := Prod.mk.inj (Option.some.inj hbq)
        exact (hsuffix hc).isCount

/-- The linear search behind a name finds what suits the name. -/
theorem searchLinear_ends (hs : s.Counts counting) (hname : name ≠ []) :
    Ends (r.searchLinear req name) s
      (fun p s' => s.Finds counting r req name s' p.1)
      (fun f s' => s.Fails counting s' req.kind f) := by
  rw [searchLinear]
  dsimp only
  rw [ends_bind]
  refine (cutLength?_ends counting _ _).mono (fun length? s₁ h₁ => ?_) (fun _ _ h => h.elim)
  rw [ends_bind]
  refine (lastSuffix_ends counting _).mono (fun last s₂ h₂ => ?_) (fun _ _ h => h.elim)
  have hwait : s.Waits counting s₂ := (h₁.trans h₂.1).waits
  refine hwait.search
    (searchFrom_ends (hwait.counts hs) ?_ (fun hc => (h₂.2 (h₁.counts hs) hc).next) ?_)
  · -- the search begins at the cut that was needed before, unless nothing is left of the name there
    cases length? with
    | none => exact .refl hname
    | some length =>
      dsimp only
      split
      · exact .refl hname
      · rename_i hempty
        have hne : name.cutTo length ≠ [] := by simpa using hempty
        exact ⟨hne, fun _ => Text.isCutOf_cutTo hne⟩
  · rintro b q ⟨⟩

/-! ### The search without an end -/

/-- The suffixed form on offer is claimed, unless another worker is faster. -/
theorem claimSuffixed_ends {suffix : Quantity} (hoffer : r.Offers req name suffix s.shared.store)
    (hsuffix : counting → suffix.IsSuffix) :
    Ends (claimSuffixed req name suffix) s
      (fun found s' => s.Finds counting r req name s' found)
      (fun f s' => s.Fails counting s' req.kind f) := by
  obtain ⟨base, hbase, hne, hmay⟩ := hoffer.exists_base
  rw [ends_claimSuffixed hbase]
  refine (Registry.claim_ends hmay.opened).mono (fun won s₁ h₁ => ?_) (fun _ _ h => Or.inl h.waits)
  cases won with
  | false => exact Session.Yields.waits h₁
  | true =>
    -- from here on the name is claimed, whatever becomes of the caches
    have hclaim : s.Claims counting s₁ req.kind _ _ := Session.Inserts.claims h₁
    have hfits : ∀ n, req.limit = .whole n →
        ((base ++ suffixTail suffix).graphemeLength : Int) ≤ n := by
      intro n hn
      rw [hn] at hbase
      exact baseFor_fits hbase hne
    have hof : BaseOf req name base :=
      .ofCut (baseFor_eq_ok.1 hbase).2 hne fun hwhole => Quantity.isWhole_sub hwhole rfl
    refine (recordSuffix_ends _ fun hc => (hsuffix hc).isCount).mono (fun _ s₂ h₂ => ?_)
      (fun _ s₂ h₂ => ?_)
    · exact ⟨hclaim.remembers h₂, hof.suits hfits hmay.allowed hsuffix⟩
    · exact Or.inr ⟨h₂.2, _, _, hclaim.remembers h₂.1⟩

/-- The suffixed form on offer is claimed, or else the search goes on. -/
theorem claimOr_ends {suffix : Quantity} {attempts : Nat} {more : Task (Option Found × Nat)}
    (hoffer : r.Offers req name suffix s.shared.store) (hsuffix : counting → suffix.IsSuffix)
    (hmore : ∀ m, Ends more m
      (fun p s' => m.Finds counting r req name s' p.1)
      (fun f s' => m.Fails counting s' req.kind f)) :
    Ends (claimOr req name suffix attempts more) s
      (fun p s' => s.Finds counting r req name s' p.1)
      (fun f s' => s.Fails counting s' req.kind f) := by
  rw [claimOr, ends_bind]
  refine (claimSuffixed_ends hoffer hsuffix).mono (fun found m hm => ?_) (fun _ _ h => h)
  cases found with
  | some f => exact hm
  | none =>
    -- the claim is lost, so nothing has been claimed yet
    have hwait : s.Waits counting m := hm
    exact hwait.search (hmore m)

/-- Among whole numbers the search without an end finds what suits the name. -/
theorem searchAbove_ends {s : Session} {top : Nat} (htop : counting → 0 < top)
    (losses lower attempts : Nat) :
    Ends (r.searchAbove req name top losses lower attempts) s
      (fun p s' => s.Finds counting r req name s' p.1)
      (fun f s' => s.Fails counting s' req.kind f) := by
  rw [searchAbove, ends_bind]
  refine (offerAbove_ends _ _ _).mono (fun p s₁ h₁ => ?_) (fun _ _ h => Or.inl h.waits)
  obtain ⟨hlook, hoffers⟩ := h₁
  obtain ⟨_ | suffix, attempts'⟩ := p
  · exact hlook.waits
  · obtain ⟨hoffer, hpos⟩ := hoffers suffix rfl
    rw [← hlook.store] at hoffer
    refine hlook.waits.search
      (claimOr_ends hoffer (fun hc => ⟨suffix, hpos (htop hc), rfl⟩) fun m => ?_)
    cases losses with
    | zero => exact Session.Waits.refl m
    | succ losses => exact searchAbove_ends htop losses suffix attempts'

/-- Among any numbers it does so too, only that these need not be counts. -/
theorem searchRounded_ends {s : Session} (hcounting : ¬ counting) (top : Quantity) (losses : Nat)
    (lower : Quantity) (attempts : Nat) :
    Ends (r.searchRounded req name top losses lower attempts) s
      (fun p s' => s.Finds counting r req name s' p.1)
      (fun f s' => s.Fails counting s' req.kind f) := by
  rw [searchRounded, ends_bind]
  refine (offerRounded_ends _ _ _).mono (fun p s₁ h₁ => ?_) (fun _ _ h => Or.inl h.waits)
  obtain ⟨hlook, hoffers⟩ := h₁
  obtain ⟨_ | suffix, attempts'⟩ := p
  · exact hlook.waits
  · have hoffer := hoffers suffix rfl
    rw [← hlook.store] at hoffer
    refine hlook.waits.search (claimOr_ends hoffer (fun hc => (hcounting hc).elim) fun m => ?_)
    cases losses with
    | zero => exact Session.Waits.refl m
    | succ losses => exact searchRounded_ends hcounting top losses suffix attempts'

theorem maxSuffix_pos {n : Nat} (h : minMaxLength ≤ n) : 0 < maxSuffix n := by
  have hpow : Nat.pow 10 1 ≤ Nat.pow 10 (n - 2) :=
    Nat.pow_le_pow_right (by decide) (show 1 ≤ n - 2 by unfold minMaxLength at h; omega)
  have hten : Nat.pow 10 1 = 10 := rfl
  unfold maxSuffix
  omega

/-- A limit leaves room for a suffix with too many digits if it does for one digit more than may be
written, besides the separator and one character of a base. -/
theorem digitBound_le_maxSuffix_iff {n : Nat} : digitBound ≤ maxSuffix n ↔ maxDigits + 2 < n := by
  unfold digitBound maxSuffix
  generalize maxDigits = m
  have hpos : 0 < Nat.pow 10 (n - 2) := Nat.pow_pos (by decide)
  have hlt : Nat.pow 10 m < Nat.pow 10 (n - 2) ↔ m < n - 2 :=
    Nat.pow_lt_pow_iff_right (by decide)
  rw [Nat.le_sub_one_iff_lt hpos, hlt]
  omega

/-- The search without an end behind a name finds what suits the name. It counts in whole numbers
under a whole limit, if its cache does. -/
theorem searchDoubling_ends (hcounting : counting → req.limit.isWhole = true)
    (hs : s.Counts counting) :
    Ends (r.searchDoubling req name) s
      (fun p s' => s.Finds counting r req name s' p.1)
      (fun f s' => s.Fails counting s' req.kind f) := by
  rw [searchDoubling, ends_bind, ends_lift]
  refine ⟨fun top htop => ?_, fun _ _ => Or.inl (.refl s)⟩
  rw [ends_bind]
  refine (lastSuffix_ends counting _).mono (fun lower s₁ h₁ => ?_) (fun _ _ h => h.elim)
  obtain ⟨hremember, hlower⟩ := h₁
  have hwait : s.Waits counting s₁ := hremember.waits
  rw [ends_bind, ends_get]
  dsimp only
  split
  · -- both are whole numbers: there is room for a first suffix
    rename_i top lower
    refine hwait.search (searchAbove_ends (fun hc => ?_) _ _ _)
    cases hlimit : req.limit with
    | real x =>
      have := hcounting hc
      rw [hlimit] at this
      cases this
    | whole n =>
      rw [hlimit, largestSuffix_whole] at htop
      obtain rfl := Quantity.whole.inj (Except.ok.inj htop)
      have hn := req.le_limit hlimit
      exact maxSuffix_pos (by omega)
  · -- one of them is not: the search does not count
    rename_i hmix
    refine hwait.search (searchRounded_ends (fun hc => ?_) _ _ _ _)
    obtain ⟨k, rfl⟩ := hlower hs hc
    cases hlimit : req.limit with
    | real x =>
      have := hcounting hc
      rw [hlimit] at this
      cases this
    | whole n =>
      rw [hlimit, largestSuffix_whole] at htop
      exact hmix _ _ (Except.ok.inj htop).symm rfl

end Resolver

end Namesake
