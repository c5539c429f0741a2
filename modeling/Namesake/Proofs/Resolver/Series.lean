import Namesake.Proofs.Resolver.Fresh
import Namesake.Proofs.Resolver.Trail

/-!
# Names in a series

Requests for names that are alike in lower case are answered one after the other with the name
itself, with the first suffix behind it, with the second one, and so on. One attempt is enough for
each of them, since the cache of suffixes knows how far the series has come. This goes on as long as
the names of the series are free and keep the limits of their requests.

A session within a series is described by the number of the name that comes next. A request moves it
on to the next number, and this is carried through a list of requests by induction on the list.

## Main definitions

* `seriesName`, `seriesSuffix` — the names of a series and their suffixes
* `ResolvedName.inSeries` — the result of a request in a series
* `Resolver.InSeries` — a request is answered with the name of its number, if that is free
* `Session.Reached` — how far a series has come in a session

## Main results

* `seriesName_injective` — a series does not come to the same name twice
* `Resolver.resolve_next` — a request is answered with the next name, and the series has come
  further
* `Resolver.resolve_in_series` — the requests to a new resolver are answered with the names of the
  series
-/

open Namesake.Task

namespace Namesake

open Unicode

/-! ### The names of a series -/

/-- The suffix of a name in a series. The first name has none. -/
def seriesSuffix : (i : Nat) → Option Quantity
  | 0 => none
  | i + 1 => some (.whole (i + 1 : Nat))

/-- The names of a series: the base, and then the base with one suffix after the other. -/
def seriesName (base : Text) (i : Nat) : Text :=
  base ++ (seriesSuffix i).elim [] suffixTail

/-- The result of a request that is given a name of a series. -/
def ResolvedName.inSeries (req : Request) (base : Text) (i : Nat) : ResolvedName :=
  ⟨seriesName base i, seriesName (lowercase base) i, req.kind, seriesSuffix i, false⟩

section Names

variable {base : Text} {i j : Nat}

@[simp] theorem seriesName_zero (base : Text) : seriesName base 0 = base :=
  List.append_nil base

@[simp] theorem seriesName_succ (base : Text) (i : Nat) :
    seriesName base (i + 1) = base ++ suffixTail (.whole (i + 1 : Nat)) := rfl

/-- The base is the beginning of every name of the series. -/
theorem isPrefix_seriesName (base : Text) (i : Nat) : base <+: seriesName base i :=
  List.prefix_append base _

theorem suffixTail_ne_nil (suffix : Quantity) : suffixTail suffix ≠ [] := by
  cases suffix <;> exact List.cons_ne_nil _ _

/-- Different numbers have different numerals. -/
theorem suffixTail_injective {j k : Nat} (h : suffixTail (.whole j) = suffixTail (.whole k)) :
    j = k := by
  rw [Resolver.suffixTail_whole, Resolver.suffixTail_whole] at h
  have hread := congrArg (Nat.ofDigitChars 10 · 0) (List.cons.inj h).2
  simpa using hread

/-- A series does not come to the same name twice. -/
theorem seriesName_injective (h : seriesName base i = seriesName base j) : i = j := by
  have htail : (seriesSuffix i).elim [] suffixTail = (seriesSuffix j).elim [] suffixTail :=
    List.append_cancel_left h
  cases i with
  | zero =>
    cases j with
    | zero => rfl
    | succ j => exact (suffixTail_ne_nil (.whole (j + 1 : Nat)) htail.symm).elim
  | succ i =>
    cases j with
    | zero => exact (suffixTail_ne_nil (.whole (i + 1 : Nat)) htail).elim
    | succ j => exact suffixTail_injective htail

end Names

/-! ### Sessions and requests of a series -/

/-- The next name of the series behind the base has this number. Nobody disturbs the session, the
cache of suffixes gives the number before, no cut of the base is remembered, and the base itself is
held as soon as the series has begun. -/
structure Session.Reached (t : Text) (i : Nat) (s : Session) : Prop where
  quiet : s.Quiet
  room : s.worker.suffixes.HasRoom
  last : (s.worker.suffixes.last t).1 = .whole (i - 1 : Nat)
  whole : ∀ limit, TruncationCache.cutLength? s.worker.truncations t limit =
    (none, s.worker.truncations)
  begun : 0 < i → s.shared.store.has t = true

/-- The series stays where it is as long as nothing but the log changes. -/
theorem Session.Reached.rests {s s' : Session} {t : Text} {i : Nat} (h : s.Reached t i)
    (hrest : s.Rests s') : s'.Reached t i where
  quiet := h.quiet.of_eq hrest.outage hrest.looks.worker
  room := by rw [hrest.looks.worker]; exact h.room
  last := by rw [hrest.looks.worker]; exact h.last
  whole := by rw [hrest.looks.worker]; exact h.whole
  begun := by rw [hrest.looks.store]; exact h.begun

/-- It stays where it is when a name is claimed. -/
theorem Session.Reached.inserts {s s' : Session} {t name : Text} {i : Nat} {kind : NameKind}
    {display : Option Text} (h : s.Reached t i) (hins : s.Inserts s' kind name display)
    (hout : s'.shared.outage = s.shared.outage) : s'.Reached t i where
  quiet := h.quiet.of_eq hout hins.worker
  room := by rw [hins.worker]; exact h.room
  last := by rw [hins.worker]; exact h.last
  whole := by rw [hins.worker]; exact h.whole
  begun := fun hi => by
    rw [hins.store]
    exact (Store.has_insert hins.free).2 (Or.inl (h.begun hi))

/-- The series has begun as soon as the base is held. -/
theorem Session.Reached.begin {s : Session} {t : Text} (h : s.Reached t 0)
    (hheld : s.shared.store.has t = true) : s.Reached t 1 where
  quiet := h.quiet
  room := h.room
  last := h.last
  whole := h.whole
  begun := fun _ => hheld

/-- A cache with room takes every entry in, and keeps its room. -/
theorem Memo.HasRoom.write {κ ν : Type} [DecidableEq κ] {c : Memo κ ν} (h : c.HasRoom) (key : κ)
    (value : ν) : ∃ c', c.write key value = .ok c' ∧ c'.HasRoom := by
  cases c with
  | cramped => exact h.elim
  | bounded c => exact ⟨_, rfl, h⟩

/-- A rule that no suffix escapes is one of the rules, so what it takes is reserved. -/
theorem ReservedNames.holds_of_defeatsSuffix {reserved : ReservedNames} {name : Text}
    (hrules : reserved.endless ⊆ reserved.wildcards) (h : reserved.defeatsSuffix name = true) :
    reserved.holds name = true := by
  obtain ⟨rule, hrule, hfits⟩ := List.any_eq_true.1 h
  rw [holds, Bool.or_eq_true]
  exact Or.inr (List.any_eq_true.2 ⟨rule, hrules hrule, hfits⟩)

namespace Resolver

variable {settings : ResolverSettings} {r : Resolver} {w : Worker} {req : Request}
  {reqs : List Request}
variable {s s' m : Session} {t base : Text} {i : Nat}

/-- The clean raw name of a request, before it is cut. -/
def rawText (r : Resolver) (req : Request) : Text :=
  r.policy.sanitize req.rawName

/-- A request in a series: its clean raw name in lower case is the base of the series, the name of
its number keeps its limit, and neither that name nor the base is kept from it. -/
structure InSeries (r : Resolver) (t : Text) (i : Nat) (req : Request) : Prop where
  nonempty : r.rawText req ≠ []
  lower : lowercase (r.rawText req) = t
  fits : ∃ n : Int, req.limit = .whole n ∧ ((seriesName (r.rawText req) i).graphemeLength : Int) ≤ n
  allowed : req.allowReserved = false →
    r.reserved.holds t = false ∧ r.reserved.holds (seriesName t i) = false

/-- A request in a series is for its whole raw name. -/
theorem InSeries.cleanName (h : r.InSeries t i req) : r.cleanName req = .ok (r.rawText req) := by
  obtain ⟨n, hlimit, hfit⟩ := h.fits
  have hmono := Text.graphemeLength_mono (isPrefix_seriesName (r.rawText req) i)
  rw [cleanName_text hlimit, cleanText]
  refine congrArg Except.ok (Text.cutTo_of_le ?_)
  change ((r.rawText req).graphemeLength : Int) ≤ n
  omega

/-! ### One request -/

/-- No cut of the base is remembered, and none is after asking. -/
theorem cutLength?_reached (hs : s.Reached t i) (limit : Limit) :
    Ends (Task.cutLength? t limit) s (fun length? s' => length? = none ∧ s' = s)
      (fun _ _ => False) := by
  rw [Task.cutLength?, ends_modifyGet, hs.whole]
  exact ⟨rfl, rfl⟩

/-- The cache gives the number before the next one, and goes on giving it. -/
theorem lastSuffix_reached (hs : s.Reached t i) :
    Ends (Task.lastSuffix t) s
      (fun last s' => last = .whole (i - 1 : Nat) ∧ s'.Reached t i ∧ s'.shared = s.shared)
      (fun _ _ => False) := by
  obtain ⟨hgives, hroom⟩ := SuffixCache.last_recalls s.worker.suffixes t
  rw [Task.lastSuffix, ends_modifyGet]
  exact ⟨hs.last, ⟨⟨⟨hs.quiet.outage, hs.quiet.stolen⟩, hs.quiet.failing⟩, hroom.2 hs.room,
    (hgives t).trans hs.last, hs.whole, hs.begun⟩, rfl⟩

/-- When the next number has been recorded, the series has come to the one behind it. -/
theorem recordSuffix_reached (hs : s.Reached t i) (hbegun : 0 < i) :
    Ends (Task.recordSuffix t (.whole i)) s
      (fun _ s' => s'.Reached t (i + 1) ∧ s'.shared = s.shared)
      (fun _ _ => False) := by
  obtain ⟨c, hc, hroom⟩ := hs.room.write t (.whole i)
  rw [Task.recordSuffix, ends_bind, ends_get, hc]
  exact ⟨⟨⟨⟨hs.quiet.outage, hs.quiet.stolen⟩, hs.quiet.failing⟩, hroom,
    SuffixCache.last_write hs.room hc, hs.whole, fun _ => hs.begun hbegun⟩, rfl⟩

/-- The search behind the base of a series finds the next name at its first attempt. -/
theorem searchLinear_next (hs : s.Reached t (i + 1)) (hreq : r.InSeries t (i + 1) req)
    (hpos : 0 < r.maxAttempts) (hunheld : s.shared.store.has (seriesName t (i + 1)) = false) :
    Ends (r.searchLinear req (r.rawText req)) s
      (fun p s' =>
        p = (some ⟨seriesName (r.rawText req) (i + 1), seriesName t (i + 1),
          .whole (i + 1 : Nat)⟩, 1) ∧
        s'.Reached t (i + 2) ∧
        ∀ name, s'.shared.store.has name = true ↔
          s.shared.store.has name = true ∨ name = seriesName t (i + 1))
      (fun f _ => f = tooManyDigits ∧ digitBound ≤ i + 1) := by
  obtain ⟨n, hlimit, hfit⟩ := hreq.fits
  obtain ⟨budget, hbudget⟩ := Nat.exists_eq_succ_of_ne_zero (Nat.pos_iff_ne_zero.1 hpos)
  have hfits : ¬ (0 : Quantity).lt
      (excessOf (r.rawText req ++ suffixTail (.whole (i + 1 : Nat))) req.limit) = true := by
    rw [hlimit, excessOf, lengthOf, Quantity.sub_whole, show (0 : Quantity) = .whole 0 from rfl,
      Quantity.lt_whole, decide_eq_true_eq, ← seriesName_succ]
    omega
  rw [searchLinear]
  dsimp only
  rw [hreq.lower, ends_bind]
  refine (cutLength?_reached hs req.limit).mono (fun length? m hm => ?_) fun _ _ hf => hf.elim
  obtain ⟨rfl, hm⟩ := hm
  dsimp only
  rw [hm, hreq.lower, ends_bind]
  refine (lastSuffix_reached hs).mono (fun last m hm => ?_) fun _ _ hf => hf.elim
  obtain ⟨rfl, hm, hshared⟩ := hm
  have hnext : (Quantity.whole (i + 1 - 1 : Nat)).next = .whole (i + 1 : Nat) := rfl
  rw [hbudget, hnext]
  by_cases hwritable : isWritable (.whole (i + 1 : Nat)) = true
  swap
  · rw [searchFrom_of_not_writable hwritable]
    exact ⟨rfl, Nat.le_of_not_lt (mt isWritable_iff_lt.2 hwritable)⟩
  rw [searchFrom_of_writable hwritable]
  dsimp only
  rw [if_neg hfits, ends_bind]
  have hfree : r.Free req.allowReserved (t ++ suffixTail (.whole (i + 1 : Nat))) m.shared.store :=
    ⟨fun hallow => (hreq.allowed hallow).2, by rw [hshared]; exact hunheld⟩
  refine (tryClaim_calm hm.quiet.toCalm).mono (fun won m₁ h₁ => ?_) fun f m₁ h₁ => ?_
  · cases won with
    | false => exact absurd hfree h₁.1
    | true =>
      obtain ⟨-, hins, hout⟩ := h₁
      -- no cut has been needed, so the suffix alone is recorded
      rw [if_pos rfl, if_neg (not_not_intro rfl), ends_bind]
      refine (recordSuffix_reached (hm.inserts hins hout) (Nat.succ_pos i)).mono (fun _ s' h' => ?_)
        fun _ _ hf => hf.elim
      obtain ⟨hreached, hshared'⟩ := h'
      refine ⟨rfl, hreached, fun name => ?_⟩
      rw [hshared', hins.store, Store.has_insert hins.free, hshared]
      rfl
  · -- no claim is going to fail
    rw [hm.quiet.failing] at h₁
    cases h₁.2.1

/-- A request in a series is answered with the name of its number if that is free, and the series
has come to the next number. Nothing else is claimed. It can only fail for a number with too many
digits. -/
theorem resolve_next (hrules : r.reserved.endless ⊆ r.reserved.wildcards) (hpos : 0 < r.maxAttempts)
    (hs : s.Reached t i) (hreq : r.InSeries t i req)
    (hunheld : s.shared.store.has (seriesName t i) = false) :
    Ends (r.resolve req) s
      (fun res s' => res = .inSeries req (r.rawText req) i ∧ s'.Reached t (i + 1) ∧
        ∀ name, s'.shared.store.has name = true ↔
          s.shared.store.has name = true ∨ name = seriesName t i)
      (fun f _ => f = tooManyDigits ∧ digitBound ≤ i) := by
  have hwhole : req.limit.isWhole = true := by
    obtain ⟨n, hlimit, -⟩ := hreq.fits
    rw [hlimit]
    rfl
  have hescapes : req.allowReserved = false → r.reserved.defeatsSuffix t = false := by
    intro hallow
    rw [← Bool.not_eq_true]
    intro hdefeats
    have hholds := ReservedNames.holds_of_defeatsSuffix hrules hdefeats
    rw [(hreq.allowed hallow).1] at hholds
    cases hholds
  have hopening := opening_quiet hs.quiet hwhole hreq.cleanName hreq.nonempty
  rw [hreq.lower] at hopening
  rw [resolve_eq, ends_bind]
  cases i with
  | zero =>
    -- the base itself is free
    rw [seriesName_zero] at hunheld
    have hfree : r.Free req.allowReserved t s.shared.store :=
      ⟨fun hallow => (hreq.allowed hallow).1, hunheld⟩
    refine hopening.mono (fun o m hm => ?_) fun _ _ hf => absurd hfree hf.1
    obtain ⟨-, ⟨fallback, rfl⟩, hins, hout⟩ | ⟨hbarred, -⟩ := hm
    · refine (finish_rests r req _ _ none false 0).mono (fun res s' h' => ?_) fun _ _ hf => hf.elim
      obtain ⟨rfl, hrest⟩ := h'
      have hheld : ∀ name, m.shared.store.has name = true ↔
          s.shared.store.has name = true ∨ name = t := fun name => by
        rw [hins.store]
        exact Store.has_insert hins.free
      refine ⟨?_, ?_, fun name => ?_⟩
      · rw [ResolvedName.inSeries, hreq.lower, seriesName_zero, seriesName_zero]
        rfl
      · exact ((hs.inserts hins hout).begin ((hheld t).2 (Or.inr rfl))).rests hrest
      · rw [hrest.looks.store, seriesName_zero]
        exact hheld name
    · exact absurd hfree hbarred
  | succ i =>
    -- the base is held, and the search goes on behind it
    have hbarred : ¬ r.Free req.allowReserved t s.shared.store := fun hfree => by
      have hheld := hs.begun (Nat.succ_pos i)
      rw [hfree.unheld] at hheld
      cases hheld
    refine hopening.mono (fun o m hm => ?_) fun f m hf => ?_
    · obtain ⟨hfree, -⟩ | ⟨-, hsearch⟩ := hm
      · exact absurd hfree hbarred
      · obtain ⟨fallback, p, m₀, hrest, hrun, rfl⟩ := hsearch hescapes
        rw [← hrest.looks.store] at hunheld
        obtain ⟨rfl, hreached, hheld⟩ :=
          (searchLinear_next (hs.rests hrest) hreq hpos hunheld).of_ok hrun
        refine (finish_rests r req _ _ _ false 1).mono (fun res s' h' => ?_) fun _ _ hf => hf.elim
        obtain ⟨rfl, hrest'⟩ := h'
        refine ⟨?_, hreached.rests hrest', fun name => ?_⟩
        · rw [ResolvedName.inSeries, hreq.lower]
          rfl
        · rw [hrest'.looks.store, hheld, hrest.looks.store]
    · obtain ⟨m₀, hrest, hrun⟩ := hf.2 hescapes
      rw [← hrest.looks.store] at hunheld
      exact (searchLinear_next (hs.rests hrest) hreq hpos hunheld).of_error hrun

/-! ### Any number of requests -/

/-- Requests in a series are answered with the names that follow, one after the other, as long as
the numbers may be written. -/
theorem resolveAll_in_series (hrules : r.reserved.endless ⊆ r.reserved.wildcards)
    (hpos : 0 < r.maxAttempts) (hs : s.Reached t i)
    (hreqs : ∀ k req, reqs[k]? = some req → r.InSeries t (i + k) req)
    (hunheld : ∀ k < reqs.length, s.shared.store.has (seriesName t (i + k)) = false) :
    Ends (reqs.mapM r.resolve) s
      (fun results _ => results = reqs.mapIdx fun k req => .inSeries req (r.rawText req) (i + k))
      (fun f _ => f = tooManyDigits ∧ digitBound < i + reqs.length) := by
  induction reqs generalizing s i with
  | nil => exact rfl
  | cons req reqs ih =>
    rw [List.mapM_cons, ends_bind]
    refine (resolve_next hrules hpos hs (hreqs 0 req rfl) (hunheld 0 (Nat.succ_pos _))).mono
      (fun res m hm => ?_) fun f _ hf =>
        ⟨hf.1, Nat.lt_of_le_of_lt hf.2 (Nat.lt_add_of_pos_right (Nat.succ_pos _))⟩
    obtain ⟨rfl, hreached, hheld⟩ := hm
    have hnumber : ∀ k, i + (k + 1) = i + 1 + k := fun k => by omega
    have hreqs' : ∀ k req, reqs[k]? = some req → r.InSeries t (i + 1 + k) req := fun k req hk => by
      rw [← hnumber]
      exact hreqs (k + 1) req hk
    have hunheld' : ∀ k < reqs.length, m.shared.store.has (seriesName t (i + 1 + k)) = false := by
      intro k hk
      rw [← Bool.not_eq_true, hheld, ← hnumber]
      rintro (hbefore | hname)
      · rw [hunheld (k + 1) (Nat.succ_lt_succ hk)] at hbefore
        cases hbefore
      · -- a later name of the series is another one
        have := seriesName_injective hname
        omega
    rw [ends_bind]
    refine (ih hreached hreqs' hunheld').mono (fun results s' h' => ?_) fun f _ hf =>
      ⟨hf.1, by rw [List.length_cons, hnumber]; exact hf.2⟩
    rw [h', ends_pure, List.mapIdx_cons]
    have hshift :
        (fun k (req : Request) => ResolvedName.inSeries req (r.rawText req) (i + (k + 1))) =
        fun k req => .inSeries req (r.rawText req) (i + 1 + k) := by
      funext k req
      rw [hnumber]
    rw [hshift]
    rfl

end Resolver

/-! ### The beginning of a series -/

/-- A fraction at which a quantity lies has a positive denominator. -/
theorem Quantity.den_pos {q : Quantity} {n : Int} {d : Nat} (h : q.place = .at n d) : 0 < d := by
  have hscale : ∀ (m : Nat) (e : Int), 0 < (Binary64.scaleBinary m 1 e).2 := fun m e => by
    unfold Binary64.scaleBinary
    split
    · rw [Nat.one_mul]
      exact Nat.pow_pos (by decide)
    · exact Nat.one_pos
  cases q with
  | whole n =>
    cases h
    exact Nat.one_pos
  | real x =>
    cases x with
    | finite negative m e =>
      cases h
      exact hscale m (-e)
    | infinite negative => cases negative <;> cases h
    | nan => cases h

/-- A quantity of one or more lies at a fraction of one or more, or above all of them. -/
theorem Quantity.place_of_one_le {q : Quantity} (h : (1 : Quantity).le q = true) :
    q.place = .above ∨ ∃ (n : Int) (d : Nat), q.place = .at n d ∧ 0 < d ∧ (d : Int) ≤ n := by
  have hplace : ((Place.at 1 1).lt q.place || (Place.at 1 1).same q.place) = true := h
  have hat : ∀ (n : Int) (d : Nat),
      ((Place.at 1 1).lt (.at n d) || (Place.at 1 1).same (.at n d)) = true → (d : Int) ≤ n := by
    intro n d h
    simp only [Place.lt, Place.same, Bool.or_eq_true, decide_eq_true_eq] at h
    omega
  cases hq : q.place with
  | «at» n d =>
    rw [hq] at hplace
    exact Or.inr ⟨n, d, rfl, Quantity.den_pos hq, hat n d hplace⟩
  | above => exact Or.inl rfl
  | below | nowhere =>
    rw [hq] at hplace
    cases hplace

/-- A cache for one entry or more has room. -/
theorem Memo.hasRoom_ofCapacity {κ ν : Type} {setting : Json} {size : Quantity} {c : Memo κ ν}
    (hsize : Limit.ofJson setting = .ok size) (hone : (1 : Quantity).le size = true)
    (h : Memo.ofCapacity setting = .ok c) : c.HasRoom := by
  obtain ⟨q, hq, rfl⟩ := Resolver.ofRoom_of_ofCapacity h
  obtain rfl := Except.ok.inj (hsize.symm.trans hq)
  have hzero : (0 : Quantity).place = .at 0 1 := rfl
  have hunit : (1 : Quantity).place = .at 1 1 := rfl
  rw [ofRoom, Quantity.same, Quantity.lt, Quantity.floor?, hzero, hunit]
  obtain hplace | ⟨n, d, hplace, hd, hn⟩ := Quantity.place_of_one_le hone
  · rw [hplace]
    exact Nat.pow_pos (by decide)
  · rw [hplace]
    have hsome : 0 < (n / d).toNat := by
      have := Int.le_ediv_of_mul_le (by omega : (0 : Int) < d) (by omega : 1 * (d : Int) ≤ n)
      omega
    rw [if_neg (by simp [Place.same]; omega), if_neg (by simp [Place.lt]; omega)]
    exact hsome

/-- A number of attempts of one or more allows one. -/
theorem Resolver.attemptsBelow_pos {q : Quantity} (hone : (1 : Quantity).le q = true) :
    0 < attemptsBelow q := by
  have hzero : (0 : Quantity).place = .at 0 1 := rfl
  rw [attemptsBelow, Quantity.ceil?, Quantity.lt, hzero]
  obtain hplace | ⟨n, d, hplace, hd, hn⟩ := Quantity.place_of_one_le hone
  · rw [hplace]
    exact Nat.pow_pos (by decide)
  · rw [hplace]
    have hsome : -n / d < 0 := Int.ediv_neg_of_neg_of_pos (by omega) (by omega)
    dsimp only
    omega

/-- No rule of a list that no suffix escapes is missing among the rules. -/
theorem ReservedNames.endless_subset (mention : Text) (rules : List Text) :
    (ofRules mention rules).endless ⊆ (ofRules mention rules).wildcards := by
  have hstep : ∀ reserved : ReservedNames, reserved.endless ⊆ reserved.wildcards →
      ∀ rule, (reserved.addRule rule).endless ⊆ (reserved.addRule rule).wildcards := by
    intro reserved h rule
    unfold addRule
    split
    · exact h
    · dsimp only
      split
      · dsimp only
        split
        · exact List.append_subset.2
            ⟨List.Subset.trans h (List.subset_append_left _ _), List.subset_append_right _ _⟩
        · exact List.Subset.trans h (List.subset_append_left _ _)
      · exact h
  have hbegin : (none.addExact mention).endless ⊆ (none.addExact mention).wildcards := by
    unfold addExact
    split <;> exact List.nil_subset _
  unfold ofRules
  generalize none.addExact mention = reserved at hbegin ⊢
  induction rules generalizing reserved with
  | nil => exact hbegin
  | cons rule rules ih => exact ih _ (hstep reserved hbegin rule)

namespace Resolver

variable {settings : ResolverSettings} {r : Resolver} {w : Worker} {shared : Shared} {t : Text}

/-- In accepted settings every rule that no suffix escapes is one of the rules. -/
theorem Gives.endless_subset (h : Gives settings r w) :
    r.reserved.endless ⊆ r.reserved.wildcards := by
  obtain ⟨mention, -, h'⟩ := bind_eq_ok.1 h.reserved
  obtain ⟨rules, -, h'⟩ := bind_eq_ok.1 h'
  rw [← Except.ok.inj h']
  exact ReservedNames.endless_subset mention rules

/-- A new cache remembers nothing. -/
theorem reads_ofCapacity {κ ν : Type} [DecidableEq κ] {setting : Json} {c : Memo κ ν}
    (h : Memo.ofCapacity setting = .ok c) (key : κ) : c.read? key = (none, c) := by
  obtain ⟨q, -, rfl⟩ := ofRoom_of_ofCapacity h
  unfold Memo.ofRoom
  split
  · rfl
  · split <;> rfl

/-- A new resolver is at the beginning of every series. -/
theorem Gives.reached (h : Gives settings r w) {size : Quantity}
    (hsize : Limit.ofJson settings.suffixCacheSize = .ok size)
    (hone : (1 : Quantity).le size = true)
    (houtage : shared.outage = none) (t : Text) : Session.Reached t 0 ⟨shared, w⟩ where
  quiet := ⟨⟨houtage, by rw [h.contention]; rfl⟩, by rw [h.contention]; rfl⟩
  room := Memo.hasRoom_ofCapacity hsize hone h.suffixes
  last := by
    rw [SuffixCache.last, Memo.readD, reads_ofCapacity h.suffixes]
    rfl
  whole := fun limit => reads_ofCapacity h.truncations _
  begun := fun h0 => absurd h0 (Nat.lt_irrefl 0)

/-- A new resolver with a cache of suffixes and at least one attempt, which nobody disturbs, is
asked for any number of names, one after the other, that are alike in lower case. As long as the
names of the series are free, keep the limits and are not kept back, the first request is given its
name as it is, and each further one is given its name with the number of the requests before it as
suffix. Only a list so long that its numbers can no longer be written ends with a fault. -/
theorem resolve_in_series {size attempts : Quantity} (hbuild : build settings = .ok (r, w))
    (hsize : Limit.ofJson settings.suffixCacheSize = .ok size)
    (hroom : (1 : Quantity).le size = true)
    (hattempts : Limit.ofJson settings.maxAttempts = .ok attempts)
    (hpositive : (1 : Quantity).le attempts = true) (houtage : shared.outage = none)
    {reqs : List Request} (hreqs : ∀ i req, reqs[i]? = some req → r.InSeries t i req)
    (hunheld : ∀ i < reqs.length, shared.store.has (seriesName t i) = false) :
    Ends (reqs.mapM r.resolve) ⟨shared, w⟩
      (fun results _ => results = reqs.mapIdx fun i req => .inSeries req (r.rawText req) i)
      (fun f _ => f = tooManyDigits ∧ digitBound < reqs.length) := by
  have hgives := build_gives hbuild
  have hpos : 0 < r.maxAttempts := by
    have hmax := hgives.maxAttempts
    rw [hattempts] at hmax
    rw [← Except.ok.inj hmax]
    exact attemptsBelow_pos hpositive
  have hreached := hgives.reached hsize hroom houtage t
  have hreqs' : ∀ k req, reqs[k]? = some req → r.InSeries t (0 + k) req := by simpa using hreqs
  have hunheld' : ∀ k < reqs.length, shared.store.has (seriesName t (0 + k)) = false := by
    simpa using hunheld
  have hends := resolveAll_in_series hgives.endless_subset hpos hreached hreqs' hunheld'
  simpa only [Nat.zero_add] using hends

/-- The settings of a resolver that makes one attempt, and whose cache of suffixes has room for one
entry. -/
def frugalSettings : ResolverSettings :=
  { maxAttempts := .int 1, suffixCacheSize := .int 1 }

/-- The resolver that they give. -/
def frugal : Resolver :=
  { standard with maxAttempts := 1, settings := frugalSettings }

/-- What it keeps for itself at the beginning. -/
def frugalWorker : Worker :=
  { Worker.standard with suffixes := .bounded (.empty 1) }

/-- Requests for one name in three spellings, the last one for a group. -/
def anns : List Request :=
  [.ann, { Request.ann with rawName := .str "ANN" },
    { Request.ann with rawName := .str "ann", kind := .groupName }]

/-- The three are given the name and its first two suffixes. -/
theorem resolve_in_series_anns :
    build frugalSettings = .ok (frugal, frugalWorker) ∧
      (∀ i req, anns[i]? = some req → frugal.InSeries "ann".toList i req) ∧
      Ends (anns.mapM frugal.resolve) ⟨(Session.idle .fresh none).shared, frugalWorker⟩
        (fun results _ =>
          results.map (·.name) = ["Ann".toList, "ANN_1".toList, "ann_2".toList] ∧
          results.map (·.suffix) = [none, some 1, some 2] ∧
          results.map (·.usedFallback) = [false, false, false])
        (fun _ _ => False) := by
  have hbuild : build frugalSettings = .ok (frugal, frugalWorker) := rfl
  have hraw : anns.map frugal.rawText = ["Ann".toList, "ANN".toList, "ann".toList] := by
    decide +kernel
  have hreqs : ∀ i req, anns[i]? = some req → frugal.InSeries "ann".toList i req := by
    intro i req hreq
    have htext : (anns.map frugal.rawText)[i]? = some (frugal.rawText req) := by
      rw [List.getElem?_map, hreq]
      rfl
    have hlimit : req.limit = .whole defaultMaxLength := by
      have hlimits : ∀ req ∈ anns, req.limit = .whole defaultMaxLength := by
        simp [anns, Request.ann]
      exact hlimits req (List.mem_of_getElem? hreq)
    rw [hraw] at htext
    have hnames : ∀ i < 3, ∀ x ∈ ["Ann".toList, "ANN".toList, "ann".toList][i]?,
        x ≠ [] ∧ lowercase x = "ann".toList ∧ (seriesName x i).graphemeLength ≤
          defaultMaxLength := by
      decide +kernel
    have hi : i < 3 := (List.getElem?_eq_some_iff.1 htext).1
    obtain ⟨hne, hlower, hfit⟩ := hnames i hi _ htext
    exact ⟨hne, hlower, ⟨_, hlimit, by exact_mod_cast hfit⟩, fun _ => ⟨rfl, rfl⟩⟩
  have hsize : Limit.ofJson frugalSettings.suffixCacheSize = .ok 1 := rfl
  have hattempts : Limit.ofJson frugalSettings.maxAttempts = .ok 1 := rfl
  have hunheld : ∀ i < anns.length,
      (Session.idle .fresh none).shared.store.has (seriesName "ann".toList i) = false := by
    decide +kernel
  have hends := resolve_in_series hbuild hsize rfl hattempts rfl rfl hreqs hunheld
  have hwritable : 3 < digitBound := isWritable_iff_lt.1 (isWritable_whole_iff.2 (by decide))
  refine ⟨hbuild, hreqs, hends.mono (fun results _ h => ?_) fun _ _ hf =>
    Nat.lt_asymm hwritable hf.2⟩
  subst h
  decide +kernel

end Resolver

end Namesake
