import Mathlib.Logic.Relation
import Namesake.Proofs.Name.Ascii
import Namesake.Proofs.Resolver.Names
import Namesake.Proofs.Resolver.Numeral

/-!
# The course of a linear search

A linear search that remembers nothing begins with a base and the first suffix. As long as the
candidate keeps the limit and is barred, the next suffix follows; when the candidate no longer keeps
the limit, the base is cut to make room, and counting begins anew. This is its course. It has at
most one end: a candidate that is not barred, a suffix next to which nothing is left of the base, or
a suffix that has too many digits to be written.

The second end says more than that the course has come to it. By then every suffixed form of the
base has been met on the way, each behind the longest cut that leaves room for its suffix, so all of
them are barred.

## Main definitions

* `Trial` — a base in lower case and the suffix that is tried behind it
* `Course.Step`, `Course` — from one trial to the next, and to any later one
* `Course.Halts`, `Course.Ends` — where a course leads no further, and where that behind a base ends

## Main results

* `Course.ends_unique` — a course has one end
* `Course.mono` — it leads on when more names are barred
* `Course.dead_end` — where it ends with nothing left, every suffixed form is barred
* `Course.limit_of_unwritable` — it comes to a suffix with too many digits only under a long limit
-/

open Relation

namespace Namesake

/-- A base in lower case, and the suffix that is tried behind it. -/
structure Trial where
  /-- The base. -/
  base : Text
  /-- The suffix. -/
  suffix : Nat

namespace Trial

/-- The suffixed base. -/
def candidate (p : Trial) : Text :=
  p.base ++ suffixTail (.whole p.suffix)

/-- The number of characters behind the base. -/
def room (suffix : Nat) : Nat :=
  (suffixTail (.whole suffix)).length

/-- The candidate keeps the limit. -/
def Fits (n : Int) (p : Trial) : Prop :=
  p.base.length + room p.suffix ≤ n

/-- The base, cut to make room for the suffix. -/
def shorter (n : Int) (p : Trial) : Text :=
  p.base.cutTo (n - room p.suffix)

/-- What comes behind a base is a numeral. -/
theorem narrow_tail (k : Nat) : Text.IsNarrow (suffixTail (.whole k)) := by
  rw [Resolver.suffixTail_whole]
  exact Text.narrow_numeral k

theorem room_eq (k : Nat) : room k = (Nat.toDigits 10 k).length + 1 := by
  rw [room, Resolver.suffixTail_whole, List.length_cons]

/-- Larger suffixes need no less room. -/
theorem room_mono {j k : Nat} (h : j ≤ k) : room j ≤ room k := by
  rw [room_eq, room_eq, Nat.add_le_add_iff_right,
    Nat.length_toDigits_le_iff (by decide) Nat.length_toDigits_pos]
  exact h.trans_lt ((Nat.length_toDigits_le_iff (by decide) Nat.length_toDigits_pos).1 le_rfl)

end Trial

/-- From a trial whose suffix may be written to the next: a barred candidate is passed over, and a
base without room is cut. -/
inductive Course.Step (n : Int) (barred : Text → Prop) : Trial → Trial → Prop
  | next {p : Trial} : p.suffix < digitBound → p.Fits n → barred p.candidate →
      Step n barred p ⟨p.base, p.suffix + 1⟩
  | shorten {p : Trial} : p.suffix < digitBound → ¬ p.Fits n → p.shorter n ≠ [] →
      Step n barred p ⟨p.shorter n, 1⟩

/-- From a trial to a later one. -/
abbrev Course (n : Int) (barred : Text → Prop) : Trial → Trial → Prop :=
  ReflTransGen (Course.Step n barred)

namespace Course

variable {n : Int} {barred barred' : Text → Prop} {p q : Trial} {b c : Text} {k : Nat}
variable {e e' : Except Fault (Option Trial)}

/-- A trial from which no step leads on: its candidate is not barred, nothing would be left of its
base, or its suffix may not be written. -/
inductive Halts (n : Int) (barred : Text → Prop) (p : Trial) : Except Fault (Option Trial) → Prop
  | free : p.suffix < digitBound → p.Fits n → ¬ barred p.candidate → Halts n barred p (.ok (some p))
  | dead : p.suffix < digitBound → ¬ p.Fits n → p.shorter n = [] → Halts n barred p (.ok none)
  | unwritable : digitBound ≤ p.suffix → Halts n barred p (.error tooManyDigits)

/-- Where the course behind a base ends. -/
def Ends (n : Int) (barred : Text → Prop) (b : Text) (e : Except Fault (Option Trial)) : Prop :=
  ∃ p, Course n barred ⟨b, 1⟩ p ∧ Halts n barred p e

/-! ### One end -/

theorem Step.unique : Relator.RightUnique (Step n barred) := by
  intro p q q' hq hq'
  cases hq with
  | next _ hfits _ =>
    cases hq' with
    | next => rfl
    | shorten _ hnot _ => exact absurd hfits hnot
  | shorten _ hnot _ =>
    cases hq' with
    | next _ hfits _ => exact absurd hfits hnot
    | shorten => rfl

theorem Halts.not_step (h : Halts n barred p e) (q : Trial) : ¬ Step n barred p q := by
  intro hstep
  cases h with
  | free _ hfits hfree =>
    cases hstep with
    | next _ _ hbarred => exact hfree hbarred
    | shorten _ hnot _ => exact hnot hfits
  | dead _ hnot hdead =>
    cases hstep with
    | next _ hfits _ => exact hnot hfits
    | shorten _ _ hne => exact hne hdead
  | unwritable hbound =>
    cases hstep with
    | next hlt _ _ => omega
    | shorten hlt _ _ => omega

/-- A course leads no further for one reason only. -/
theorem Halts.unique (h : Halts n barred p e) (h' : Halts n barred p e') : e = e' := by
  cases h with
  | free hlt hfits _ =>
    cases h' with
    | free => rfl
    | dead _ hnot _ => exact absurd hfits hnot
    | unwritable hbound => omega
  | dead hlt hnot _ =>
    cases h' with
    | free _ hfits _ => exact absurd hfits hnot
    | dead => rfl
    | unwritable hbound => omega
  | unwritable hbound =>
    cases h' with
    | free hlt _ _ => omega
    | dead hlt _ _ => omega
    | unwritable => rfl

/-- A course has one end. -/
theorem ends_unique (h : Ends n barred b e) (h' : Ends n barred b e') : e = e' := by
  obtain ⟨p, hp, hhalts⟩ := h
  obtain ⟨q, hq, hhalts'⟩ := h'
  -- of two trials on one course the later one is reached from the other by steps, if by any
  obtain rfl : p = q := by
    rcases ReflTransGen.total_of_right_unique Step.unique hp hq with hpq | hqp
    · rcases hpq.cases_head with rfl | ⟨m, hstep, -⟩
      · rfl
      · exact absurd hstep (hhalts.not_step m)
    · rcases hqp.cases_head with rfl | ⟨m, hstep, -⟩
      · rfl
      · exact absurd hstep (hhalts'.not_step m)
  exact hhalts.unique hhalts'

/-! ### Along a course -/

/-- A course leads on when more names are barred. -/
theorem mono (hbarred : ∀ t, barred t → barred' t) (h : Course n barred p q) :
    Course n barred' p q := by
  refine ReflTransGen.mono (fun p q hstep => ?_) _ _ h
  cases hstep with
  | next hlt hfits hp => exact .next hlt hfits (hbarred _ hp)
  | shorten hlt hnot hne => exact .shorten hlt hnot hne

/-- Wherever a course comes to, it has begun to count there. -/
theorem to_first (h : Course n barred ⟨b, 1⟩ p) : Course n barred ⟨b, 1⟩ ⟨p.base, 1⟩ := by
  induction h with
  | refl => exact .refl
  | tail hcourse hstep ih =>
    cases hstep with
    | next => exact ih
    | shorten hlt hnot hne => exact hcourse.tail (.shorten hlt hnot hne)

/-- And it has counted up to there. -/
theorem from_first (h : Course n barred ⟨b, 1⟩ p) : Course n barred ⟨p.base, 1⟩ p := by
  induction h with
  | refl => exact .refl
  | tail _ hstep ih =>
    cases hstep with
    | next hlt hfits hbarred => exact ih.tail (.next hlt hfits hbarred)
    | shorten => exact .refl

/-- What is left of the base on a course is a cut of it. -/
theorem isCutOf (h : Course n barred ⟨b, 1⟩ p) : p.base.IsCutOf b := by
  induction h with
  | refl => exact .refl b
  | tail _ hstep ih =>
    cases hstep with
    | next => exact ih
    | shorten _ _ hne => exact (Text.isCutOf_cutTo hne).trans ih

/-- Something is left of it. -/
theorem base_ne_nil (hb : b ≠ []) (h : Course n barred ⟨b, 1⟩ p) : p.base ≠ [] := by
  induction h with
  | refl => exact hb
  | tail _ hstep ih =>
    cases hstep with
    | next => exact ih
    | shorten _ _ hne => exact hne

/-- A course that has come to a suffix with too many digits has found room for the one before it. -/
theorem limit_of_unwritable {f : Fault} (hb : b ≠ []) (h : Ends n barred b (.error f)) :
    f = tooManyDigits ∧ maxDigits + 2 ≤ n.toNat := by
  obtain ⟨p, hp, hhalts⟩ := h
  cases hhalts with
  | unwritable hbound =>
    refine ⟨rfl, ?_⟩
    have hone := one_lt_digitBound
    obtain rfl | ⟨q, hq, hstep⟩ := hp.cases_tail
    · exact absurd hbound (by dsimp only; omega)
    · cases hstep with
      | shorten => exact absurd hbound (by dsimp only; omega)
      | next _ hfits _ =>
        have hdigits := maxDigits_le_length hbound
        have hbase := List.length_pos_iff.2 (base_ne_nil hb hq)
        rw [Trial.Fits, Trial.room_eq] at hfits
        omega

/-! ### Suffixed forms -/

/-- The base for a suffix: the longest cut that leaves room for it. -/
def baseAt (n : Int) (b : Text) (k : Nat) : Text :=
  b.cutTo (n - Trial.room k)

/-- The suffixed form is barred, or nothing is left of the base for it. -/
def Lost (n : Int) (barred : Text → Prop) (b : Text) (k : Nat) : Prop :=
  baseAt n b k = [] ∨ barred (baseAt n b k ++ suffixTail (.whole k))

/-- What is known about a trial on the course behind a base: it is about a cut of the base, the
candidates with smaller suffixes are barred, and so are the suffixed forms with longer bases. -/
structure Passed (n : Int) (barred : Text → Prop) (b : Text) (p : Trial) : Prop where
  cut : p.base.IsCutOf b
  below : ∀ k, 1 ≤ k → k < p.suffix → Trial.Fits n ⟨p.base, k⟩ ∧
    barred (Trial.candidate ⟨p.base, k⟩)
  longer : ∀ k, 1 ≤ k → p.base.length < (baseAt n b k).length → Lost n barred b k

/-- Larger suffixes have shorter bases. -/
theorem baseAt_isPrefix {j : Nat} (h : j ≤ k) : baseAt n b k <+: baseAt n b j :=
  Text.cutTo_mono (by have := Trial.room_mono h; omega)

/-- A cut that leaves room for a suffix is its base, unless the base is longer. -/
theorem eq_baseAt (hb : b.IsNarrow) (hc : c.IsCutOf b) (hfits : Trial.Fits n ⟨c, k⟩)
    (hlen : (baseAt n b k).length ≤ c.length) : baseAt n b k = c := by
  obtain ⟨m, -, rfl⟩ := hc
  have hroom : ((b.cutTo m).length : Int) ≤ n - Trial.room k := by
    dsimp only [Trial.Fits] at hfits
    omega
  have hself : (b.cutTo m).cutTo (n - Trial.room k) = b.cutTo m :=
    Text.cutTo_of_le (by rwa [Text.graphemeLength_narrow (hb.cutTo m)])
  have hbegin : b.cutTo m <+: baseAt n b k := by
    have hcut := Text.cutTo_cutTo b m (n - Trial.room k).toNat
    rw [Int.toNat_of_nonneg (by omega), hself] at hcut
    rw [hcut]
    exact Text.cutTo_mono (by omega)
  exact (hbegin.eq_of_length_le hlen).symm

/-- Where there is no room left for the suffix, the base is cut to the base for the suffix. -/
theorem shorter_eq_baseAt (hb : b.IsNarrow) (hcut : p.base.IsCutOf b) (hnot : ¬ p.Fits n) :
    p.shorter n = baseAt n b p.suffix := by
  obtain ⟨m, -, hbase⟩ := hcut
  unfold Trial.Fits at hnot
  unfold Trial.shorter baseAt
  by_cases hn : n - Trial.room p.suffix ≤ 0
  · rw [Text.cutTo_of_nonpos hn, Text.cutTo_of_nonpos hn]
  · have hlen := Text.graphemeLength_cutTo_le b m
    rw [Text.graphemeLength_narrow (hb.cutTo m), ← hbase, Int.toNat_natCast] at hlen
    have hcut := Text.cutTo_cutTo b m (n - Trial.room p.suffix).toNat
    rwa [Nat.min_eq_right (by omega), Int.toNat_of_nonneg (by omega), ← hbase] at hcut

/-- On its way a course has met the suffixed forms with all smaller suffixes. -/
theorem Passed.lost (hb : b.IsNarrow) (h : Passed n barred b p) (hk : 1 ≤ k) (hlt : k < p.suffix) :
    Lost n barred b k := by
  by_cases hlen : p.base.length < (baseAt n b k).length
  · exact h.longer k hk hlen
  · obtain ⟨hfits, hbarred⟩ := h.below k hk hlt
    refine Or.inr ?_
    rw [eq_baseAt hb h.cut hfits (by omega)]
    exact hbarred

theorem Passed.step (hb : b.IsNarrow) (h : Passed n barred b p) (hstep : Step n barred p q) :
    Passed n barred b q := by
  cases hstep with
  | next _ hfits hbarred =>
    refine ⟨h.cut, fun k hk hlt => ?_, h.longer⟩
    rcases Nat.lt_or_eq_of_le (Nat.le_of_lt_succ hlt) with hlt | rfl
    · exact h.below k hk hlt
    · exact ⟨hfits, hbarred⟩
  | shorten _ hnot hne =>
    refine ⟨(Text.isCutOf_cutTo hne).trans h.cut, fun k hk hlt => ?_, fun k hk hlen => ?_⟩
    · exact absurd hlt (by dsimp only; omega)
    · -- a longer base than this one belongs to a smaller suffix
      dsimp only at hlen
      rw [shorter_eq_baseAt hb h.cut hnot] at hlen
      refine h.lost hb hk (Nat.lt_of_not_le fun hle => ?_)
      have := (baseAt_isPrefix (n := n) (b := b) hle).length_le
      omega

theorem passed (hb : b.IsNarrow) (h : Course n barred ⟨b, 1⟩ p) : Passed n barred b p := by
  induction h with
  | refl =>
    refine ⟨.refl b, fun k hk hlt => ?_, fun k hk hlen => ?_⟩
    · exact absurd hlt (by dsimp only; omega)
    · have := (Text.cutTo_isPrefix b (n - Trial.room k)).length_le
      dsimp only [baseAt] at hlen
      omega
  | tail _ hstep ih => exact ih.step hb hstep

/-- Where the course ends with nothing left of the base, every suffixed form is lost. -/
theorem dead_end (hb : b.IsNarrow) (h : Ends n barred b (.ok none)) (hk : 1 ≤ k) :
    Lost n barred b k := by
  obtain ⟨p, hp, hhalts⟩ := h
  cases hhalts with
  | dead _ hnot hdead =>
    have hpassed := passed hb hp
    by_cases hlt : k < p.suffix
    · exact hpassed.lost hb hk hlt
    · -- there is even less room for the larger suffixes
      rw [shorter_eq_baseAt hb hpassed.cut hnot] at hdead
      have hprefix := baseAt_isPrefix (n := n) (b := b) (Nat.le_of_not_lt hlt)
      rw [hdead, List.prefix_nil] at hprefix
      exact Or.inl hprefix

end Course

end Namesake
