import Mathlib.Data.List.Perm.Subperm
import Namesake.Proofs.Reserved.Endless
import Namesake.Proofs.Resolver.Exhaustion
import Namesake.Proofs.Resolver.Settled

/-!
# Fallback names that a suffix frees

A fallback name is refused if a rule that ends in a star takes it with the separator behind it,
since such a rule takes all suffixed forms of it. The question is asked about the whole name, and of
one rule at a time. But the candidates of the search without an end are made from cuts of the name,
and each of the rules may take some of them. So a name that has been accepted may have no suffixed
form that escapes the rules: under the limit three the rule `u_*` lets `use` pass and takes all of
its suffixed forms, and nine rules, one for each first digit of a number, let `user` pass and take
all suffixed forms of every name.

What escapes is found through the digits. A number whose digits are all alike contains one character
only. If that is the last literal of no rule, the rules take a cut with the number behind it only if
they take the cut with the bare separator. Fewer than nine rules leave such a digit. Then a name
escapes exactly if one of its cuts is not taken with the separator. Where the limit leaves room for
a suffix of one digit, the name itself is such a cut.

## Main definitions

* `ReservedNames.SparesDigit` — some digit is the last literal of no rule that ends in a star
* `Resolver.Escapes` — some suffixed form of a name is not taken by the rules that end in a star
* `Resolver.HasOutlet` — some cut of a name is not taken with the separator behind it

## Main results

* `Resolver.fallbackFor_escapes` — when the fallback name of a request escapes
* `Resolver.fallbackFor_escapes_cut` — a fallback name that is accepted and does not escape
* `Resolver.not_escapes_ninefold` — nine rules from which no name escapes
-/

open Namesake.Task

namespace Namesake

open Unicode

variable {reserved : ReservedNames} {t ds : Text} {c : Char}

namespace ReservedNames

/-- Some digit other than zero is the last literal of no rule that ends in a star. -/
def SparesDigit (reserved : ReservedNames) : Prop :=
  ∃ d, 1 ≤ d ∧ d ≤ 9 ∧ ∀ rule ∈ reserved.endless, Glob.lastLiteral? rule ≠ some (Nat.digitChar d)

/-! ### Rules and numerals -/

/-- A numeral behind a separator is its own form, whatever stands before it. -/
theorem nameForm_append_numeral (t : Text) (h : ds ⊆ numeralChars) :
    nameForm (t ++ '_' :: ds) = nameForm t ++ '_' :: ds := by
  have hchars : Text.isAscii ('_' :: numeralChars) = true := by decide
  have hlow : ∀ c ∈ '_' :: ds, c.toNat < 128 := fun c hc =>
    of_decide_eq_true (List.all_eq_true.1 hchars c (List.cons_subset_cons '_' h hc))
  have hascii : Text.isAscii (t ++ '_' :: ds) = t.isAscii := by
    have htail : Text.isAscii ('_' :: ds) = true :=
      List.all_eq_true.2 fun c hc => decide_eq_true (hlow c hc)
    unfold Text.isAscii at htail ⊢
    rw [List.all_append, htail, Bool.and_true]
  have hcomposed : IsComposed ('_' :: ds) := .of_low fun c hc => (hlow c hc).trans (by decide)
  unfold nameForm
  rw [hascii]
  split
  · rfl
  · rw [canonicalName, nfc_append (by decide), hcomposed, lowercase_append_numeral _ h]
    rfl

/-- The rules are asked about a text with a numeral through the text with the separator. -/
theorem defeatsSuffix_numeral_iff (t : Text) (h : ds ⊆ numeralChars) :
    reserved.defeatsSuffix (t ++ '_' :: ds) = true ↔
      ∃ rule ∈ reserved.endless, Glob.Matches rule ((nameForm t ++ ['_']) ++ ds) := by
  rw [defeatsSuffix, nameForm_append_numeral t h, List.append_cons]
  simp only [List.any_eq_true, Glob.fits_iff]

section Rules

variable (hend : ∀ rule ∈ reserved.endless, rule.getLast? = some '*')

include hend

/-- What is taken with the separator is taken with every numeral. -/
theorem defeatsSuffix_of_separator (h : ds ⊆ numeralChars)
    (htaken : reserved.defeatsSuffix (t ++ ['_']) = true) :
    reserved.defeatsSuffix (t ++ '_' :: ds) = true := by
  obtain ⟨rule, hrule, hmatch⟩ :=
    (defeatsSuffix_numeral_iff t (List.nil_subset numeralChars)).1 htaken
  rw [List.append_nil] at hmatch
  exact (defeatsSuffix_numeral_iff t h).2 ⟨rule, hrule, hmatch.append (hend rule hrule) ds⟩

/-- What is taken with a numeral that has no other digit than a spared one is taken with the
separator. -/
theorem separator_of_defeatsSuffix
    (hspare : ∀ rule ∈ reserved.endless, Glob.lastLiteral? rule ≠ some c)
    {width : Nat} (h : List.replicate width c ⊆ numeralChars)
    (htaken : reserved.defeatsSuffix (t ++ '_' :: List.replicate width c) = true) :
    reserved.defeatsSuffix (t ++ ['_']) = true := by
  obtain ⟨rule, hrule, hmatch⟩ := (defeatsSuffix_numeral_iff t h).1 htaken
  -- the numeral does not contain what the rule looks for last
  have hshort : Glob.Matches rule (nameForm t ++ ['_']) := by
    refine hmatch.of_append (hend rule hrule) fun d hd hmem => hspare rule hrule ?_
    rwa [← List.eq_of_mem_replicate hmem]
  refine (defeatsSuffix_numeral_iff t (List.nil_subset numeralChars)).2 ⟨rule, hrule, ?_⟩
  rwa [List.append_nil]

end Rules

/-- Each rule has one last literal at most, so fewer than nine rules spare one of nine digits. -/
theorem sparesDigit_of_length (h : reserved.endless.length < 9) : reserved.SparesDigit := by
  by_contra hnone
  have hdigits : (List.range' 1 9).map Nat.digitChar ⊆
      reserved.endless.filterMap Glob.lastLiteral? := by
    intro c hc
    obtain ⟨d, hd, rfl⟩ := List.mem_map.1 hc
    rw [List.mem_range'_1] at hd
    by_contra hfree
    exact hnone ⟨d, hd.1, by omega, fun rule hrule hlast =>
      hfree (List.mem_filterMap.2 ⟨rule, hrule, hlast⟩)⟩
  have hnodup : ((List.range' 1 9).map Nat.digitChar).Nodup := by decide
  have hle := (hnodup.subperm hdigits).length_le
  have hlasts := List.length_filterMap_le Glob.lastLiteral? reserved.endless
  rw [List.length_map, List.length_range'] at hle
  omega

end ReservedNames

/-- There is a number of every width whose digits are all alike. -/
theorem exists_numeral {d : Nat} (hd : 1 ≤ d) (hd' : d ≤ 9) (width : Nat) :
    ∃ k, 1 ≤ k ∧ Nat.toDigits 10 k = List.replicate (width + 1) (Nat.digitChar d) := by
  induction width with
  | zero => exact ⟨d, hd, Nat.toDigits_of_lt_base (by omega)⟩
  | succ width ih =>
    obtain ⟨k, hk, hdigits⟩ := ih
    refine ⟨k * 10 + d, by omega, ?_⟩
    rw [Nat.toDigits_of_base_le (by decide) (by omega), show (k * 10 + d) / 10 = k by omega,
      show (k * 10 + d) % 10 = d by omega, hdigits, ← List.replicate_succ']

namespace Resolver

variable {r : Resolver} {settings : ResolverSettings} {w : Worker} {req : Request} {s : Session}
variable {name : Text} {n : Int} {k : Nat}

/-! ### Escaping -/

/-- Some suffix that the search without an end may come to gives a suffixed form of the name that no
rule which ends in a star takes. -/
def Escapes (r : Resolver) (name : Text) (n : Int) : Prop :=
  ∃ k : Nat, 1 ≤ k ∧ k ≤ maxSuffix n.toNat ∧ isWritable (.whole k) = true ∧
    ∃ candidate, suffixed name (.whole k) (.whole n) = .ok (some candidate) ∧
      r.reserved.defeatsSuffix (lowercase candidate) = false

/-- Some cut of the name that leaves room for a suffix is not taken with the separator behind it. -/
def HasOutlet (r : Resolver) (name : Text) (n : Int) : Prop :=
  ∃ width : Nat, 1 ≤ width ∧ width ≤ maxDigits ∧ name.cutTo (n - (width + 1 : Nat)) ≠ [] ∧
    isTrapped r.reserved (name.cutTo (n - (width + 1 : Nat))) = false

/-- The rules are asked about a suffixed base through the base and the numeral. -/
theorem defeatsSuffix_suffixed (reserved : ReservedNames) (base : Text) (k : Nat) :
    reserved.defeatsSuffix (lowercase (base ++ suffixTail (.whole k))) =
      reserved.defeatsSuffix (lowercase base ++ '_' :: Nat.toDigits 10 k) := by
  rw [lowercase_suffixed, suffixTail_whole]

section Rules

variable (hend : ∀ rule ∈ r.reserved.endless, rule.getLast? = some '*')

include hend

/-- A suffixed form that escapes is made from a cut that is not taken with the separator. -/
theorem hasOutlet_of_escapes (h : r.Escapes name n) : r.HasOutlet name n := by
  obtain ⟨k, -, -, hwritable, candidate, hcandidate, hfree⟩ := h
  obtain ⟨-, hne, rfl⟩ := suffixed_whole_eq_some.1 hcandidate
  rw [Trial.room_eq] at hne hfree
  refine ⟨(Nat.toDigits 10 k).length, Nat.length_toDigits_pos, isWritable_whole_iff.1 hwritable,
    hne, ?_⟩
  rw [← Bool.not_eq_true] at hfree ⊢
  refine fun htrapped => hfree ?_
  rw [defeatsSuffix_suffixed]
  exact ReservedNames.defeatsSuffix_of_separator hend (toDigits_subset k) htrapped

/-- Behind such a cut the spared digit, as often as there is room for digits, makes a form that
escapes. -/
theorem escapes_of_hasOutlet (hspare : r.reserved.SparesDigit) (h : r.HasOutlet name n) :
    r.Escapes name n := by
  obtain ⟨width, hwidth, hdigits, hne, hfree⟩ := h
  obtain ⟨d, hd, hd', hlast⟩ := hspare
  obtain ⟨k, hk, hnumeral⟩ := exists_numeral hd hd' (width - 1)
  rw [Nat.sub_add_cancel hwidth] at hnumeral
  have hlength : (Nat.toDigits 10 k).length = width := by rw [hnumeral, List.length_replicate]
  have hroom : width + 2 ≤ n.toNat := by
    by_contra hshort
    exact hne (Text.cutTo_of_nonpos (by omega))
  have hbound : k < Nat.pow 10 (n.toNat - 2) := by
    have hle : (Nat.toDigits 10 k).length ≤ n.toNat - 2 := by omega
    exact (Nat.length_toDigits_le_iff (by decide) (by omega)).1 hle
  have hsubset : List.replicate width (Nat.digitChar d) ⊆ numeralChars :=
    hnumeral ▸ toDigits_subset k
  have hwritable : isWritable (.whole k) = true := isWritable_whole_iff.2 (by omega)
  refine ⟨k, hk, by unfold maxSuffix; omega, hwritable,
    name.cutTo (n - (width + 1 : Nat)) ++ suffixTail (.whole k), ?_, ?_⟩
  · rw [suffixed_whole_eq_some, Trial.room_eq, hlength]
    exact ⟨isWritable_iff_lt.1 hwritable, hne, rfl⟩
  · rw [← Bool.not_eq_true] at hfree ⊢
    refine fun htaken => hfree ?_
    rw [defeatsSuffix_suffixed, hnumeral] at htaken
    exact ReservedNames.separator_of_defeatsSuffix hend hlast hsubset htaken

end Rules

/-! ### The fallback name of a request -/

/-- A configured fallback name is not taken with the separator behind it. -/
theorem isTrapped_fallbackOf (hgives : Gives settings r w) (kind : NameKind) :
    isTrapped r.reserved (r.fallbackOf kind) = false := by
  cases kind with
  | username =>
    obtain ⟨_, -, -, -, hfree⟩ := prepareFallback_eq_ok hgives.fallbackUsername
    exact hfree
  | groupName =>
    obtain ⟨_, -, -, -, hfree⟩ := prepareFallback_eq_ok hgives.fallbackGroupName
    exact hfree

/-- The rules of an accepted resolver that are kept as ending in a star do so. -/
theorem getLast?_of_mem_reserved (hgives : Gives settings r w) :
    ∀ rule ∈ r.reserved.endless, rule.getLast? = some '*' := by
  have hreserved := hgives.reserved
  unfold ReservedNames.ofSettings at hreserved
  obtain ⟨mention, -, hreserved⟩ := bind_eq_ok.1 hreserved
  obtain ⟨rules, -, hreserved⟩ := bind_eq_ok.1 hreserved
  rw [← Except.ok.inj hreserved]
  exact fun rule => ReservedNames.getLast?_of_mem_endless

/-- The fallback name of a request is cut from a tidy one that is not taken with the separator
behind it. -/
theorem fallbackText_cut (hbuild : build settings = .ok (r, w)) (hlimit : req.limit = .whole n) :
    ∃ chosen, r.policy.Tidy chosen ∧ chosen ≠ [] ∧ isTrapped r.reserved chosen = false ∧
      r.fallbackText req n = chosen.cutTo n := by
  have hlong : (3 : Int) ≤ n := req.le_limit hlimit
  have hcut : ∀ chosen, r.policy.Tidy chosen → chosen ≠ [] →
      (if (chosen.cutTo n).isEmpty then lastResort else chosen.cutTo n) = chosen.cutTo n :=
    fun chosen htidy hne => if_neg fun hempty =>
      htidy.cutTo_ne_nil hne (by omega) (List.isEmpty_iff.1 hempty)
  obtain ⟨htidy, hne⟩ := (build_spec hbuild).1 req.kind
  unfold fallbackText
  dsimp only
  split
  · exact ⟨_, htidy, hne, isTrapped_fallbackOf (build_gives hbuild) req.kind, hcut _ htidy hne⟩
  · -- the request's own name is cut before the rules are asked about it
    rename_i hown
    simp only [Bool.or_eq_true, not_or, Bool.not_eq_true, List.isEmpty_eq_false_iff] at hown
    have hsanitize := CharacterPolicy.sanitize_tidy r.policy req.fallbackName
    have htidy : r.policy.Tidy ((r.policy.sanitize req.fallbackName).cutTo n) :=
      hsanitize.cut (Text.isCutOf_cutTo hown.2.1)
    exact ⟨_, htidy, hown.2.1, hown.2.2, hcut _ htidy hown.2.1⟩

/-- Where the fallback name leaves room for a suffix of one digit, nothing has been cut from it. -/
theorem hasOutlet_of_room (hbuild : build settings = .ok (r, w)) (hlimit : req.limit = .whole n)
    (hroom : ((r.fallbackText req n).graphemeLength : Int) + 2 ≤ n) :
    r.HasOutlet (r.fallbackText req n) n := by
  obtain ⟨chosen, htidy, hne, hfree, htext⟩ := fallbackText_cut hbuild hlimit
  rw [htext] at hroom ⊢
  have hwhole : (chosen.graphemeLength : Int) ≤ n := by
    -- a name that had to be cut would fill the limit up to one character
    by_contra hlong
    have hcut := htidy.le_graphemeLength_cutTo (Int.not_le.1 hlong)
    omega
  rw [Text.cutTo_of_le hwhole] at hroom ⊢
  have hkept : chosen.cutTo (n - (1 + 1 : Nat)) = chosen := Text.cutTo_of_le (by omega)
  exact ⟨1, Nat.le_refl 1, by decide, by rwa [hkept], by rwa [hkept]⟩

/-- A request gets a fallback name. If it escapes, the rules let some cut of it pass with the
separator. If the rules spare a digit, and fewer than nine rules do, the name escapes exactly then;
in particular it does wherever the limit leaves room for a suffix of one digit. -/
theorem fallbackFor_escapes (hbuild : build settings = .ok (r, w)) (hlimit : req.limit = .whole n)
    (s : Session) :
    ∃ fallback s', r.fallbackFor req s = .ok fallback s' ∧
      (r.Escapes fallback n → r.HasOutlet fallback n) ∧
      (r.reserved.SparesDigit →
        (r.HasOutlet fallback n → r.Escapes fallback n) ∧
        ((fallback.graphemeLength : Int) + 2 ≤ n → r.Escapes fallback n)) ∧
      (r.reserved.endless.length < 9 → r.reserved.SparesDigit) := by
  have hend := getLast?_of_mem_reserved (build_gives hbuild)
  obtain ⟨_, s', hrun, rfl, -⟩ := (fallbackFor_text (r := r) (s := s) hlimit).exists_ok
  exact ⟨_, s', hrun, hasOutlet_of_escapes hend, fun hspare =>
    ⟨escapes_of_hasOutlet hend hspare, fun hroom =>
      escapes_of_hasOutlet hend hspare (hasOutlet_of_room hbuild hlimit hroom)⟩,
    ReservedNames.sparesDigit_of_length⟩

/-! ### A rule about the cut name -/

/-- Settings with a limit that keep `u_*` back. -/
def ruledSettings (limit : Int) : ResolverSettings :=
  { maxLength := .int limit, reservedRules := .arr [.str "u_*"] }

/-- The resolver that they give under the usual limit. -/
def spacious : Resolver :=
  ⟨⟨true, none⟩, .ofRules [] ["u_*".toList], .whole 60, 500, "user".toList, "group".toList,
    ruledSettings 60, rfl⟩

/-- The resolver that they give under the smallest limit. -/
def cramped : Resolver :=
  { hasty with
    reserved := .ofRules [] ["u_*".toList], maxAttempts := 500, settings := ruledSettings 3 }

theorem build_spacious : build (ruledSettings 60) = .ok (spacious, .standard) := rfl

theorem build_cramped : build (ruledSettings 3) = .ok (cramped, .standard) := rfl

/-- A session without names. -/
def unused : Session :=
  .idle (.memory NameSets.empty) none

/-- Under the usual limit there is room for a suffix behind `user`, and one rule does not take all.
-/
theorem fallbackFor_escapes_whole :
    build (ruledSettings 60) = .ok (spacious, .standard) ∧ Request.ann.limit = .whole 60 ∧
      spacious.reserved.SparesDigit ∧ spacious.Escapes "user".toList 60 := by
  have hlimit : Request.ann.limit = .whole 60 := rfl
  obtain ⟨fallback, s', hrun, -, hescapes, hspares⟩ :=
    fallbackFor_escapes build_spacious hlimit unused
  have hspare : spacious.reserved.SparesDigit := hspares (by decide +kernel)
  have hresult : result? (spacious.fallbackFor .ann) unused =
      some "user".toList := by decide +kernel
  obtain ⟨m, hm⟩ := result?_eq_some.1 hresult
  obtain ⟨rfl, -⟩ := EStateM.Result.ok.inj (hrun.symm.trans hm)
  exact ⟨build_spacious, hlimit, hspare, (hescapes hspare).2 (by decide +kernel)⟩

/-- Under the smallest limit all candidates are `u` with a suffix. The rule takes them all, but not
the whole name `use` with the separator. -/
theorem fallbackFor_escapes_cut :
    build (ruledSettings 3) = .ok (cramped, .standard) ∧ nameless.limit = .whole 3 ∧
      result? (cramped.fallbackFor nameless) unused = some "use".toList ∧
      ¬ cramped.Escapes "use".toList 3 := by
  refine ⟨build_cramped, rfl, by decide +kernel, fun hescapes => ?_⟩
  obtain ⟨width, hwidth, -, hne, hfree⟩ :=
    hasOutlet_of_escapes (getLast?_of_mem_reserved (build_gives build_cramped)) hescapes
  by_cases hone : width = 1
  · subst hone
    exact absurd hfree (by decide +kernel)
  · exact hne (Text.cutTo_of_nonpos (by omega))

end Resolver

/-! ### A rule for each first digit -/

/-- The names with a separator and a positive number behind it are kept back by nine rules. -/
def ReservedNames.ninefold : ReservedNames :=
  .ofRules [] ((List.range' 1 9).map fun d => ['*', '_', Nat.digitChar d, '*'])

/-- A positive number does not begin with a zero. -/
theorem exists_leading {k : Nat} (hk : 1 ≤ k) :
    ∃ d rest, d ∈ List.range' 1 9 ∧ Nat.toDigits 10 k = Nat.digitChar d :: rest := by
  induction k using Nat.strong_induction_on with
  | _ k ih =>
    by_cases hlt : k < 10
    · exact ⟨k, [], List.mem_range'_1.2 ⟨hk, by omega⟩, Nat.toDigits_of_lt_base hlt⟩
    · obtain ⟨d, rest, hd, hdigits⟩ := ih (k / 10) (by omega) (by omega)
      refine ⟨d, rest ++ [Nat.digitChar (k % 10)], hd, ?_⟩
      rw [Nat.toDigits_of_base_le (by decide) (by omega), hdigits, List.cons_append]

theorem ReservedNames.defeatsSuffix_ninefold (t : Text) {k : Nat} (hk : 1 ≤ k) :
    ninefold.defeatsSuffix (t ++ '_' :: Nat.toDigits 10 k) = true := by
  have hrules : ∀ d ∈ List.range' 1 9, ['*', '_', Nat.digitChar d, '*'] ∈ ninefold.endless ∧
      Nat.digitChar d ≠ '*' := by
    decide +kernel
  obtain ⟨d, rest, hd, hdigits⟩ := exists_leading hk
  obtain ⟨hrule, hstar⟩ := hrules d hd
  refine (defeatsSuffix_numeral_iff t (toDigits_subset k)).2 ⟨_, hrule, ?_⟩
  rw [hdigits, List.append_assoc]
  exact .star _ (.char (by decide) (.char hstar (Glob.matches_star rest)))

/-- None of the nine rules takes `user` with the separator, and together they take all suffixed
forms of every name. So nine rules need not spare a digit. -/
theorem Resolver.not_escapes_ninefold {r : Resolver} (h : r.reserved = .ninefold) :
    isTrapped r.reserved lastResort = false ∧ ∀ name n, ¬ r.Escapes name n := by
  refine ⟨by rw [h]; decide +kernel, fun name n => ?_⟩
  rintro ⟨k, hk, -, -, candidate, hcandidate, hfree⟩
  obtain ⟨-, -, rfl⟩ := suffixed_whole_eq_some.1 hcandidate
  rw [defeatsSuffix_suffixed, h, ReservedNames.defeatsSuffix_ninefold _ hk] at hfree
  cases hfree

end Namesake
