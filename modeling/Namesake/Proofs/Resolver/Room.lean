import Namesake.Proofs.Name.Whole
import Namesake.Proofs.Resolver.Escape
import Namesake.Proofs.Resolver.Series
import Namesake.Proofs.Resolver.Unwritable

/-!
# Room behind a name

A suffix takes room from the name that it is put behind. The name is cut, and trimmed where it is
cut, and something has to be left of it. Of a clean name one character is left wherever one may be
kept, except for a name that begins with a lone separator, which needs room for two. So the number
of digits alone decides which suffixes fit: those up to the one that leaves one character, or two.
The search without an end relies on this without measuring what it has put together.

It relies on something else besides: that every suffix can be written. Under a limit that leaves
room for more digits than a numeral may have, the search comes to suffixes for which there is a
base, and ends with a fault.

The fallback name of a request is chosen among names which have been cut before, and cut once more.
A limit leaves room for three characters, so something is left of it, and the last resort never has
to step in.

## Main definitions

* `Resolver.IsSuffixedForm` — what the search without an end gets for a suffix, if anything

## Main results

* `Resolver.suffixed_room` — which suffixes fit behind a clean name, and what comes of them
* `CharacterPolicy.Tidy.cut_roomy` — what a limit of any sort leaves of a clean name
* `Resolver.fallbackFor_cut` — the fallback name for a request is a cut of the one that is chosen
-/

open Namesake.Task

namespace Namesake

open Unicode

namespace Resolver

variable {p : CharacterPolicy} {raw : Json} {name candidate candidate' : Text} {j k : Nat} {n : Int}

/-! ### Suffixed forms -/

/-- The text is what the search without an end gets for the suffix under the limit `n`: the numeral
may be written, and something is left of the name before it. -/
def IsSuffixedForm (candidate name : Text) (k : Nat) (n : Int) : Prop :=
  suffixed name (.whole k) (.whole n) = .ok (some candidate)

theorem isSuffixedForm_iff : IsSuffixedForm candidate name k n ↔ k < digitBound ∧
    name.cutTo (n - Trial.room k) ≠ [] ∧
      candidate = name.cutTo (n - Trial.room k) ++ suffixTail (.whole k) :=
  suffixed_whole_eq_some

/-- A suffixed form keeps the limit, though it is not measured. -/
theorem IsSuffixedForm.graphemeLength_le (h : IsSuffixedForm candidate name k n) :
    (candidate.graphemeLength : Int) ≤ n := by
  obtain ⟨-, hne, rfl⟩ := isSuffixedForm_iff.1 h
  -- something is left of the base, so the suffix has not taken all the room
  have hroom : 0 < n - Trial.room k := by
    by_contra hnone
    exact hne (Text.cutTo_of_nonpos (by omega))
  have hbase := Text.graphemeLength_cutTo_le name (n - Trial.room k)
  have happend :=
    Text.graphemeLength_append_le (name.cutTo (n - Trial.room k)) (suffixTail (.whole k))
  rw [show (suffixTail (.whole k)).length = Trial.room k from rfl] at happend
  omega

/-- A numeral is found again behind the last separator of a text, so different suffixes make
different texts, whatever the bases. -/
theorem eq_of_append_suffixTail {t u : Text}
    (h : t ++ suffixTail (.whole j) = u ++ suffixTail (.whole k)) : j = k := by
  have hbehind : ∀ (t : Text) (k : Nat), (t ++ suffixTail (.whole k)).rtakeWhile (· ≠ '_') =
      Nat.toDigits 10 k := by
    intro t k
    have hdigits : ∀ c ∈ (Nat.toDigits 10 k).reverse, decide (c ≠ '_') = true := by
      intro c hc
      have hmem := toDigits_subset k (List.mem_reverse.1 hc)
      rw [decide_eq_true_eq]
      rintro rfl
      exact absurd hmem (by decide)
    rw [suffixTail_whole, List.rtakeWhile, List.reverse_append, List.reverse_cons,
      List.append_assoc,
      List.takeWhile_append_of_pos hdigits]
    simp
  -- what stands behind the last separator is the numeral, so both numerals are the same
  have hnumeral := congrArg (List.rtakeWhile (· ≠ '_')) h
  rw [hbehind, hbehind] at hnumeral
  refine suffixTail_injective ?_
  rw [suffixTail_whole, suffixTail_whole, hnumeral]

/-- So suffixed forms are different in lower case if their suffixes are. -/
theorem IsSuffixedForm.suffix_unique (h : IsSuffixedForm candidate name j n)
    (h' : IsSuffixedForm candidate' name k n)
    (hlower : lowercase candidate = lowercase candidate') :
    j = k := by
  obtain ⟨-, -, rfl⟩ := isSuffixedForm_iff.1 h
  obtain ⟨-, -, rfl⟩ := isSuffixedForm_iff.1 h'
  rw [lowercase_suffixed, lowercase_suffixed] at hlower
  exact eq_of_append_suffixTail hlower

/-! ### Suffixes that fit -/

/-- The largest suffix that fits behind a clean name: one character is left of the name, or two if
the first is a lone separator. -/
def fittingSuffix (name : Text) (limit : Nat) : Nat :=
  if name.graphemes.head? = some ['_'] then Nat.pow 10 (limit - 3) - 1
  else Nat.pow 10 (limit - 2) - 1

theorem fittingSuffix_of (h : name.graphemes.head? ≠ some ['_']) (limit : Nat) :
    fittingSuffix name limit = maxSuffix limit :=
  if_neg h

/-- No suffix fits beyond the largest one of the search without an end. -/
theorem fittingSuffix_le (name : Text) (limit : Nat) :
    fittingSuffix name limit ≤ maxSuffix limit := by
  have hle : Nat.pow 10 (limit - 3) ≤ Nat.pow 10 (limit - 2) :=
    Nat.pow_le_pow_right (by decide) (by omega)
  unfold fittingSuffix maxSuffix
  split <;> omega

/-- The positive numbers of at most so many digits. -/
theorem length_toDigits_le_iff (hk : 1 ≤ k) (width : Nat) :
    (Nat.toDigits 10 k).length ≤ width ↔ k ≤ Nat.pow 10 width - 1 := by
  rcases Nat.eq_zero_or_pos width with rfl | hwidth
  · have hpos : 0 < (Nat.toDigits 10 k).length := Nat.length_toDigits_pos
    have hone : Nat.pow 10 0 = 1 := rfl
    exact iff_of_false (by omega) (by omega)
  · have hbound : 0 < Nat.pow 10 width := Nat.pow_pos (by decide)
    have hless : (Nat.toDigits 10 k).length ≤ width ↔ k < Nat.pow 10 width :=
      Nat.length_toDigits_le_iff (by decide) hwidth
    rw [hless]
    omega

/-- The number of digits decides whether something is left of a clean name. -/
theorem cutTo_room_ne_nil_iff {limit : Nat} (hname : p.Tidy name) (hne : name ≠ [])
    (hlimit : 3 ≤ limit)
    (hk : 1 ≤ k) : name.cutTo (limit - Trial.room k) ≠ [] ↔ k ≤ fittingSuffix name limit := by
  have hdigits : 0 < (Nat.toDigits 10 k).length := Nat.length_toDigits_pos
  rw [Ne, hname.cutTo_eq_nil_iff hne, Trial.room_eq, fittingSuffix]
  by_cases hlone : name.graphemes.head? = some ['_']
  · rw [if_pos hlone, ← length_toDigits_le_iff hk]
    simp only [hlone, and_true]
    omega
  · rw [if_neg hlone, ← length_toDigits_le_iff hk]
    simp only [hlone, and_false, or_false]
    omega

/-- A suffix that may not be written ends the search, whatever name and session. -/
theorem suffixAvailable_unwritable (r : Resolver) (req : Request) (name : Text) (s : Session)
    (hk : digitBound ≤ k) : r.suffixAvailable req name (.whole k) s = .error tooManyDigits s := by
  have hunwritable : ¬ isWritable (.whole k) = true := mt isWritable_iff_lt.1 (Nat.not_lt.2 hk)
  rw [suffixAvailable, suffixed_of_not_writable hunwritable]
  rfl

/-- Behind a clean name those suffixes have a suffixed form which leave one character of the name,
or two where the first is a lone separator, and which may be written; a limit that leaves no room
for more digits than that allows them all. A suffixed form keeps the limit, and different suffixes
have forms that differ in lower case. A suffix that may not be written ends the search without an
end with a fault. -/
theorem suffixed_room {limit : Nat} (hname : p.sanitize raw ≠ []) (hlimit : 3 ≤ limit) :
    (∀ k, 1 ≤ k → ((∃ candidate, IsSuffixedForm candidate (p.sanitize raw) k limit) ↔
      k < digitBound ∧ k ≤ fittingSuffix (p.sanitize raw) limit)) ∧
    (limit ≤ maxDigits + 2 →
      ∀ k, 1 ≤ k → ((∃ candidate, IsSuffixedForm candidate (p.sanitize raw) k limit) ↔
        k ≤ fittingSuffix (p.sanitize raw) limit)) ∧
    (∀ k candidate, IsSuffixedForm candidate (p.sanitize raw) k limit →
      candidate.graphemeLength ≤ limit) ∧
    (∀ j k candidate candidate', IsSuffixedForm candidate (p.sanitize raw) j limit →
      IsSuffixedForm candidate' (p.sanitize raw) k limit →
        lowercase candidate = lowercase candidate' → j = k) ∧
    ∀ (r : Resolver) (req : Request) (s : Session) (k : Nat), digitBound ≤ k →
      r.suffixAvailable req (p.sanitize raw) (.whole k) s = .error tooManyDigits s := by
  have htidy := p.sanitize_tidy raw
  have hforms : ∀ k, 1 ≤ k → ((∃ candidate, IsSuffixedForm candidate (p.sanitize raw) k limit) ↔
      k < digitBound ∧ k ≤ fittingSuffix (p.sanitize raw) limit) := by
    intro k hk
    rw [← cutTo_room_ne_nil_iff htidy hname hlimit hk]
    simp only [isSuffixedForm_iff, exists_and_left, exists_eq, and_true]
  refine ⟨hforms, fun hwritable k hk => ?_, fun k candidate h => ?_,
    fun _ _ _ _ h h' => h.suffix_unique h', fun r req s _ hk =>
      suffixAvailable_unwritable r req _ s hk⟩
  · refine (hforms k hk).trans (and_iff_right_of_imp fun hfits => ?_)
    -- the bound on the digits says no more than that the suffix fits
    have hbound : maxSuffix limit < digitBound :=
      Nat.lt_of_not_le fun h => absurd (digitBound_le_maxSuffix_iff.1 h) (Nat.not_lt.2 hwritable)
    exact (hfits.trans (fittingSuffix_le _ _)).trans_lt hbound
  · exact_mod_cast h.graphemeLength_le

/-- A lone separator in front takes the room of a digit: four characters hold the suffix nine, but
not ten. -/
theorem suffixed_room_lone :
    (∃ candidate,
      IsSuffixedForm candidate (CharacterPolicy.sanitize ⟨true, none⟩ (.str "_ab")) 9 (4 : Nat)) ∧
    ¬ ∃ candidate,
      IsSuffixedForm candidate (CharacterPolicy.sanitize ⟨true, none⟩ (.str "_ab")) 10
        (4 : Nat) := by
  have hname : CharacterPolicy.sanitize ⟨true, none⟩ (.str "_ab") ≠ [] := by decide +kernel
  have hfitting : fittingSuffix (CharacterPolicy.sanitize ⟨true, none⟩ (.str "_ab")) 4 = 9 := by
    decide +kernel
  obtain ⟨-, hforms, -⟩ := suffixed_room hname (show 3 ≤ 4 by decide)
  refine ⟨(hforms (by decide) 9 (by decide)).2 (by rw [hfitting]), fun h => ?_⟩
  have hfits := (hforms (by decide) 10 (by decide)).1 h
  rw [hfitting] at hfits
  exact absurd hfits (by decide)

/-- A limit of 4303 characters leaves room for one digit more than may be written. The least suffix
with that many fits behind a name, but it has no suffixed form, and the search that comes to it ends
with a fault. -/
theorem suffixed_room_unwritable :
    numberless.policy.sanitize (.str "user") = "user".toList ∧ 1 ≤ digitBound ∧
    digitBound ≤ fittingSuffix "user".toList 4303 ∧
    (¬ ∃ candidate, IsSuffixedForm candidate "user".toList digitBound (4303 : Nat)) ∧
    numberless.suffixAvailable (numberless.ownRequest .username .null false) "user".toList
      (.whole digitBound) (.idle (.memory .empty) none) =
        .error tooManyDigits (.idle (.memory .empty) none) := by
  have hfirst : (Text.graphemes "user".toList).head? ≠ some ['_'] := by decide +kernel
  have hfits : digitBound ≤ maxSuffix 4303 := digitBound_le_maxSuffix_iff.2 (by decide)
  refine ⟨by decide +kernel, one_lt_digitBound.le, ?_, ?_,
    suffixAvailable_unwritable _ _ _ _ le_rfl⟩
  · rw [fittingSuffix_of hfirst]
    exact hfits
  · rintro ⟨candidate, hform⟩
    exact absurd (isSuffixedForm_iff.1 hform).1 (lt_irrefl _)

end Resolver

/-! ### Cuts at a limit that leaves room -/

section Cuts

variable {p : CharacterPolicy} {limit : Limit} {t u : Text}

/-- The whole part of a limit that is not too small is not too small either. -/
theorem Limit.le_floor (h : Limit.isShort limit = false) {m : Int} (hm : limit.floor? = some m) :
    (minMaxLength : Int) ≤ m := by
  unfold Quantity.floor? at hm
  cases hplace : limit.place with
  | «at» a d =>
    rw [hplace] at hm
    obtain rfl := Option.some.inj hm
    have hd : (0 : Int) < d := by exact_mod_cast Quantity.den_pos hplace
    rw [Limit.isShort, Quantity.lt, hplace] at h
    have hle : (minMaxLength : Int) * d ≤ a := by simpa [Quantity.place, Place.lt] using h
    exact Int.le_ediv_of_mul_le hd hle
  | below | above | nowhere =>
    rw [hplace] at hm
    cases hm

theorem Limit.not_le_zero (h : Limit.isShort limit = false) : limit.le 0 = false := by
  have hzero : (0 : Quantity).place = .at 0 1 := rfl
  rw [Limit.isShort, Quantity.lt] at h
  rw [Quantity.le, Quantity.lt, Quantity.same, hzero]
  cases hplace : limit.place with
  | «at» a d =>
    have hd := Quantity.den_pos hplace
    rw [hplace] at h
    have hle : 3 * (d : Int) ≤ a := by simpa [Quantity.place, Place.lt, minMaxLength] using h
    simp only [Place.lt, Place.same, Bool.or_eq_false_iff, decide_eq_false_iff_not]
    omega
  | below =>
    rw [hplace] at h
    cases h
  | above | nowhere => rfl

/-- So it keeps three characters of a text, if there are as many. -/
theorem Limit.exists_truncate_roomy (hroomy : Limit.isShort limit = false)
    (h : limit.truncate t = .ok u) : ∃ n : Int, minMaxLength ≤ n ∧ u = t.truncate n := by
  unfold Limit.truncate at h
  split at h
  · rename_i n
    exact ⟨n, Limit.le_of_not_short hroomy, (Except.ok.inj h).symm⟩
  · rw [Limit.not_le_zero hroomy, if_neg Bool.false_ne_true] at h
    split at h
    · cases h
    · split at h
      · rename_i n hfloor
        exact ⟨n, Limit.le_floor hroomy hfloor, (Except.ok.inj h).symm⟩
      · -- the limit lies above all numbers or nowhere among them, and the text stays as it is
        obtain rfl := Except.ok.inj h
        exact ⟨max minMaxLength t.graphemeLength, le_max_left _ _,
          (Text.truncate_of_le (le_max_right _ _)).symm⟩

/-- A clean name is cut to three characters or more by a limit that is not too small, of whatever
sort. -/
theorem CharacterPolicy.Tidy.cut_roomy (ht : p.Tidy t) (hroomy : Limit.isShort limit = false)
    (hcut : limit.cut t = .ok u) : ∃ n : Int, minMaxLength ≤ n ∧ u = t.cutTo n := by
  unfold Limit.cut at hcut
  split at hcut
  · obtain rfl := Except.ok.inj hcut
    exact ⟨max minMaxLength t.graphemeLength, le_max_left _ _,
      (Text.cutTo_of_le (le_max_right _ _)).symm⟩
  · obtain ⟨v, hv, hcut⟩ := Resolver.bind_eq_ok.1 hcut
    obtain rfl := Except.ok.inj hcut
    obtain ⟨n, hn, rfl⟩ := Limit.exists_truncate_roomy hroomy hv
    refine ⟨n, hn, ?_⟩
    by_cases hlen : (t.graphemeLength : Int) ≤ n
    · rw [Text.truncate_of_le hlen, Text.trimEnd_eq_self ht.ending, Text.cutTo_of_le hlen]
    · exact (Text.cutTo_of_lt (by omega)).symm

/-- So something is left of it. -/
theorem CharacterPolicy.Tidy.cut_ne_nil (ht : p.Tidy t) (hne : t ≠ [])
    (hroomy : Limit.isShort limit = false) (hcut : limit.cut t = .ok u) : u ≠ [] := by
  obtain ⟨n, hn, rfl⟩ := ht.cut_roomy hroomy hcut
  exact ht.cutTo_ne_nil hne (le_trans (by decide) hn)

end Cuts

/-! ### The fallback name -/

namespace Resolver

variable {settings : ResolverSettings} {r : Resolver} {w : Worker} {req : Request} {s s' : Session}

/-- The fallback name of a request is a cut of the one that is chosen, and something is left of it.
So the last resort does not step in. -/
theorem chosenFallback_of_fallbackFor (hr : r.Prepared) (h : r.fallbackFor req s = .ok name s') :
    ∃ chosen, r.chosenFallback req s = .ok chosen s' ∧ req.limit.cut chosen = .ok name ∧
      r.policy.Tidy name ∧ name ≠ [] := by
  unfold fallbackFor at h
  cases hchosen : r.chosenFallback req s with
  | error f m =>
    rw [run_bind_error hchosen] at h
    cases h
  | ok chosen m =>
    obtain ⟨-, husable⟩ := chosenFallback_ends.of_ok hchosen
    obtain ⟨htidy, hne⟩ := husable hr
    rw [run_bind_ok hchosen] at h
    cases hcut : req.limit.cut chosen with
    | error f =>
      rw [hcut] at h
      cases h
    | ok left =>
      have hleft := htidy.cut_ne_nil hne req.roomy hcut
      rw [hcut] at h
      have hname :
          EStateM.Result.ok (if left.isEmpty then lastResort else left) m = .ok name s' := h
      rw [if_neg (by simpa using hleft)] at hname
      cases hname
      exact ⟨chosen, rfl, hcut, htidy.cutAt hcut, hleft⟩

/-- A resolver that was accepted always has a fallback name for a request. It is a cut of the name
that is chosen, not the last resort in its place, whatever sort of limit the request has: something
is left of that name, and what is left ends in a letter, mark or number. A whole limit is kept. This
rests on clean names being so that a cut to two characters or more leaves something of them. -/
theorem fallbackFor_cut (hbuild : build settings = .ok (r, w)) :
    (∀ (req : Request) (s : Session) (n : Int), req.limit = .whole n →
      ∃ name s', r.fallbackFor req s = .ok name s' ∧ (name.graphemeLength : Int) ≤ n) ∧
    (∀ (req : Request) (s s' : Session) (name : Text), r.fallbackFor req s = .ok name s' →
      (∃ chosen, r.chosenFallback req s = .ok chosen s' ∧ req.limit.cut chosen = .ok name) ∧
        name ≠ [] ∧ ∃ body c, name = body ++ [c] ∧ (isLetter c ∨ isMark c ∨ isNumber c)) ∧
    ∀ (p : CharacterPolicy) (raw : Json) (n : Int), p.sanitize raw ≠ [] → 2 ≤ n →
      (p.sanitize raw).cutTo n ≠ [] := by
  have hprepared := (build_spec hbuild).1
  refine ⟨fun req s n hlimit => ?_, fun req s s' name h => ?_,
    fun p raw n hne hn => (p.sanitize_tidy raw).cutTo_ne_nil hne hn⟩
  · obtain ⟨name, s', h, -⟩ := (fallbackFor_text (r := r) (s := s) hlimit).exists_ok
    obtain ⟨-, -, hfits⟩ := fallbackFor_ends.of_ok h
    exact ⟨name, s', h, (hfits n hlimit hprepared).2⟩
  · obtain ⟨chosen, hchosen, hcut, htidy, hne⟩ := chosenFallback_of_fallbackFor hprepared h
    refine ⟨⟨chosen, hchosen, hcut⟩, hne, ?_⟩
    rcases name.eq_nil_or_concat with hnil | ⟨body, last, hlast⟩
    · exact absurd hnil hne
    · rw [List.concat_eq_append] at hlast
      refine ⟨body, last, hlast, isWord_iff.1 (htidy.ending last ?_)⟩
      rw [hlast]
      exact List.getLast?_concat

/-- A request with the smallest limit and without a usable fallback name gets what is left of the
configured one. -/
theorem fallbackFor_cut_smallest :
    build {} = .ok (.standard, .standard) ∧
      (∃ s', standard.fallbackFor ⟨.username, .null, .str ".-", .whole 3, false, rfl⟩ unused =
        .ok "use".toList s' ∧ (Text.graphemeLength "use".toList : Int) ≤ 3) ∧
      (CharacterPolicy.sanitize ⟨true, none⟩ (.str "_bcd")).cutTo 2 ≠ [] := by
  obtain ⟨hlong, -, hleft⟩ := fallbackFor_cut build_standard
  refine ⟨build_standard, ?_, hleft _ _ 2 (by decide +kernel) le_rfl⟩
  obtain ⟨name, s', hrun, hlen⟩ :=
    hlong ⟨.username, .null, .str ".-", .whole 3, false, rfl⟩ unused 3 rfl
  have hresult : result? (standard.fallbackFor ⟨.username, .null, .str ".-", .whole 3, false, rfl⟩)
      unused = some "use".toList := by decide +kernel
  obtain ⟨m, hm⟩ := result?_eq_some.1 hresult
  obtain ⟨rfl, -⟩ := EStateM.Result.ok.inj (hrun.symm.trans hm)
  exact ⟨s', hrun, hlen⟩

end Resolver

end Namesake
