import Namesake.Proofs.Reserved.Rules

/-!
# Rules that end in a star

A rule that ends in a star takes every continuation of what it takes. Before a name is rejected for
good, or a fallback at the start, such a rule is asked whether it takes the name with a bare
separator behind it. This one question stands for all suffixes: the rule takes the separated name
exactly if it takes it with every number behind. One direction is absorption by the star. For the
other one looks at the last character of the rule that is no star. Everything the rule asks for has
been found when it is found, so a continuation without this character does not help the rule, and
the numbers `1` and `2` have no character in common.

## Main definitions

* `Glob.lastLiteral?` — the last character of a rule that stands for itself

## Main results

* `Glob.Matches.append` — what follows a match is absorbed
* `Glob.Matches.of_append` — what does not contain the last literal is not needed for a match
* `ReservedNames.endless_separator` — the question about the separator is that about all numbers
-/

namespace Namesake

namespace Glob

variable {rule name s t u : Text} {c : Char}

/-- The last character of a rule that stands for itself. -/
def lastLiteral? (rule : Text) : Option Char :=
  (rule.filter (· ≠ '*')).getLast?

/-- A character before the last literal does not change which it is. -/
theorem lastLiteral?_cons_of_eq_some (h : lastLiteral? rule = some c) (d : Char) :
    lastLiteral? (d :: rule) = some c := by
  unfold lastLiteral? at h ⊢
  rw [List.filter_cons]
  split
  · rw [List.getLast?_cons, h]
    rfl
  · exact h

/-- A star takes everything. -/
theorem matches_star (name : Text) : Matches ['*'] name := by
  simpa using Matches.star name .nil

/-- The literals of a rule occur in what it matches. -/
theorem Matches.mem (h : Matches rule name) (hmem : c ∈ rule) (hc : c ≠ '*') : c ∈ name := by
  induction h with
  | nil => exact hmem
  | star run _ ih => exact List.mem_append_right _ (ih (List.mem_of_ne_of_mem hc hmem))
  | char _ _ ih =>
    rcases List.mem_cons.1 hmem with rfl | hmem
    · exact List.mem_cons_self
    · exact List.mem_cons_of_mem _ (ih hmem)

theorem Matches.mem_of_lastLiteral? (h : Matches rule name) (hlast : lastLiteral? rule = some c) :
    c ∈ name := by
  have hmem : c ∈ rule.filter (· ≠ '*') := List.mem_of_getLast? hlast
  exact h.mem (List.mem_filter.1 hmem).1 (of_decide_eq_true (List.mem_filter.1 hmem).2)

/-- The star at the end of a rule absorbs what follows a match. -/
theorem Matches.append (h : Matches rule s) (hend : rule.getLast? = some '*') (t : Text) :
    Matches rule (s ++ t) := by
  induction h with
  | nil => cases hend
  | @star run rule name _ ih =>
    rw [List.append_assoc]
    cases rule with
    | nil => exact matches_star _
    | cons d rule => exact .star run (ih (by rwa [List.getLast?_cons_cons] at hend))
  | @char c rule name hc _ ih =>
    cases rule with
    | nil => exact absurd (Option.some.inj hend) hc
    | cons d rule => exact .char hc (ih (by rwa [List.getLast?_cons_cons] at hend))

/-- If its last literal does not occur in a continuation, a rule that ends in a star does not need
the continuation for a match. -/
theorem Matches.of_append (h : Matches rule (s ++ t)) (hend : rule.getLast? = some '*')
    (hlast : ∀ c, lastLiteral? rule = some c → c ∉ t) : Matches rule s := by
  induction rule generalizing s t with
  | nil => cases hend
  | cons d rule ih =>
    have hrest : ∀ u, u ⊆ t → ∀ c, lastLiteral? rule = some c → c ∉ u := fun u hu c hc hmem =>
      hlast c (lastLiteral?_cons_of_eq_some hc d) (hu hmem)
    cases rule with
    | nil =>
      obtain rfl : d = '*' := Option.some.inj hend
      exact matches_star s
    | cons e rule =>
      rw [List.getLast?_cons_cons] at hend
      generalize hname : s ++ t = name at h
      cases h with
      | @star run _ rest h =>
        -- the star ends before the continuation begins, or within it
        obtain ⟨s', rfl, rfl⟩ | ⟨t', rfl, rfl⟩ := List.append_eq_append_iff.1 hname.symm
        · exact .star run (ih h hend (hrest t (List.Subset.refl t)))
        · have hnil : Matches (e :: rule) [] :=
            ih h hend (hrest rest (List.subset_append_right _ _))
          simpa using Matches.star s hnil
      | @char _ _ rest hd h =>
        cases s with
        | nil =>
          -- the rule has found nothing yet, so its last literal would be in the continuation
          obtain rfl : t = d :: rest := hname
          obtain ⟨c, hc⟩ : ∃ c, lastLiteral? (d :: e :: rule) = some c := by
            rw [lastLiteral?, List.filter_cons_of_pos (by simpa using hd)]
            exact ⟨_, List.getLast?_cons⟩
          exact absurd ((Matches.char hd h).mem_of_lastLiteral? hc) (hlast c hc)
        | cons d' s =>
          obtain ⟨rfl, rfl⟩ := List.cons.inj hname
          exact .char hd (ih h hend (hrest t (List.Subset.refl t)))

/-- A rule that ends in a star and takes two continuations of a name that have no character in
common takes the name itself. -/
theorem Matches.of_disjoint (ht : Matches rule (s ++ t)) (hu : Matches rule (s ++ u))
    (hend : rule.getLast? = some '*') (h : ∀ c ∈ t, c ∉ u) : Matches rule s := by
  by_cases hlast : ∃ c, lastLiteral? rule = some c ∧ c ∈ t
  · obtain ⟨c, hc, hmem⟩ := hlast
    refine hu.of_append hend fun d hd => ?_
    obtain rfl : c = d := Option.some.inj (hc.symm.trans hd)
    exact h c hmem
  · exact ht.of_append hend fun c hc hmem => hlast ⟨c, hc, hmem⟩

end Glob

namespace ReservedNames

variable {mention rule : Text} {rules : List Text}

theorem getLast?_of_mem_endless (h : rule ∈ (ofRules mention rules).endless) :
    rule.getLast? = some '*' := by
  obtain ⟨_, -, hend, rfl⟩ := (ofRules_mem mention rules rule).2.2.1 h
  exact hend

/-- A collected rule that ends in a star matches a text with a separator behind it exactly if it
matches the text with a separator and any positive number behind it, and with a text it matches all
its continuations; the matcher decides what the regular expression of the rule takes. -/
theorem endless_separator (h : rule ∈ (ofRules mention rules).endless) (s : Text) :
    (∃ p, Pattern.parse (Glob.expression rule) = .ok p ∧
      ∀ t, p.dotAll.fullMatch t = true ↔ Glob.fits rule t = true) ∧
    (Glob.fits rule (s ++ ['_']) = true ↔
      ∀ n ≥ 1, Glob.fits rule (s ++ '_' :: Text.ofNat n) = true) ∧
    (Glob.fits rule s = true → ∀ t, Glob.fits rule (s ++ t) = true) := by
  have hend : rule.getLast? = some '*' := getLast?_of_mem_endless h
  have hsplit : ∀ n, s ++ '_' :: Text.ofNat n = (s ++ ['_']) ++ Text.ofNat n := fun n =>
    List.append_cons s '_' (Text.ofNat n)
  simp only [Glob.fits_iff, hsplit]
  refine ⟨Glob.expression_takes_iff rule, ⟨fun hs n _ => hs.append hend _, fun hall => ?_⟩,
    fun hs t => hs.append hend t⟩
  have hone : Glob.Matches rule ((s ++ ['_']) ++ ['1']) := hall 1 (by decide)
  have htwo : Glob.Matches rule ((s ++ ['_']) ++ ['2']) := hall 2 (by decide)
  exact hone.of_disjoint htwo hend (by simp)

/-- The rule `a*_*` asks for nothing behind the separator, so no number escapes it. -/
theorem endless_separator_inner :
    "a*_*".toList ∈ (ofRules [] [" A*_* ".toList]).endless ∧
      ∀ n ≥ 1, Glob.fits "a*_*".toList ("anna".toList ++ '_' :: Text.ofNat n) = true := by
  have hmem : "a*_*".toList ∈ (ofRules [] [" A*_* ".toList]).endless := by decide +kernel
  exact ⟨hmem, (endless_separator hmem "anna".toList).2.1.1 (by decide +kernel)⟩

end ReservedNames

end Namesake
