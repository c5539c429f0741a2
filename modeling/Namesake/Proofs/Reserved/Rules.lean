import Namesake.Proofs.Reserved.Expression
import Namesake.Reserved.Rules

/-!
# What a list of rules reserves

The reserved names are collected from a mention and a list of rules, one after the other. A name is
reserved if it is one of the names that come from them without a star, or if one of the rules with a
star matches it; a blank mention and blank rules add nothing.

## Main results

* `ReservedNames.ofRules_mem` — where the names and rules come from
* `ReservedNames.holds_ofRules_iff` — which names are reserved
* `ReservedNames.holds_spec` — the same, with what the regular expressions of the rules take
-/

namespace Namesake.ReservedNames

open Unicode

variable {r : ReservedNames} {mention rule form name : Text} {rules : List Text}

/-- A rule with a star in it is not blank. -/
theorem not_blank_of_mem (h : '*' ∈ ruleForm rule) : trimBlanks rule ≠ [] := by
  intro hblank
  rw [ruleForm, hblank] at h
  cases h

/-! ### Collecting -/

/-- What one more single name adds. -/
theorem addExact_mem (r : ReservedNames) (name form : Text) :
    ((r.addExact name).exact.contains form = true ↔ r.exact.contains form = true ∨
        trimBlanks name ≠ [] ∧ ruleForm name = form) ∧
      (r.addExact name).wildcards = r.wildcards ∧ (r.addExact name).endless = r.endless := by
  unfold addExact
  split
  · rename_i hblank
    rw [List.isEmpty_iff] at hblank
    exact ⟨by simp [hblank], rfl, rfl⟩
  · rename_i hblank
    rw [List.isEmpty_iff] at hblank
    refine ⟨?_, rfl, rfl⟩
    rw [Std.TreeSet.contains_insert]
    simp [hblank, or_comm]

/-- What one more rule adds: a name, or a rule with a star. -/
theorem addRule_mem (r : ReservedNames) (rule form : Text) :
    ((r.addRule rule).exact.contains form = true ↔ r.exact.contains form = true ∨
        trimBlanks rule ≠ [] ∧ '*' ∉ ruleForm rule ∧ ruleForm rule = form) ∧
      (form ∈ (r.addRule rule).wildcards ↔ form ∈ r.wildcards ∨
        '*' ∈ ruleForm rule ∧ ruleForm rule = form) ∧
      (form ∈ (r.addRule rule).endless ↔ form ∈ r.endless ∨
        (ruleForm rule).getLast? = some '*' ∧ ruleForm rule = form) := by
  have hlast : '*' ∉ ruleForm rule → (ruleForm rule).getLast? ≠ some '*' := mt List.mem_of_getLast?
  unfold addRule
  split
  · rename_i hblank
    rw [List.isEmpty_iff] at hblank
    have hnone : '*' ∉ ruleForm rule := fun h => not_blank_of_mem h hblank
    exact ⟨by simp [hblank], by simp [hnone], by simp [hlast hnone]⟩
  · rename_i hblank
    rw [List.isEmpty_iff] at hblank
    dsimp only
    split
    · rename_i hstar
      rw [List.contains_iff_mem] at hstar
      refine ⟨by simp [hstar], by simp [hstar, eq_comm], ?_⟩
      dsimp only
      split
      · rename_i hend
        simp [hend, eq_comm]
      · rename_i hend
        simp [hend]
    · rename_i hstar
      rw [List.contains_iff_mem] at hstar
      refine ⟨?_, by simp [hstar], by simp [hlast hstar]⟩
      rw [Std.TreeSet.contains_insert]
      simp [hblank, hstar, or_comm]

/-- Where the single names, the rules with a star and those among them that end in one come from. -/
theorem ofRules_mem (mention : Text) (rules : List Text) (form : Text) :
    ((ofRules mention rules).exact.contains form = true ↔
        trimBlanks mention ≠ [] ∧ ruleForm mention = form ∨
        ∃ rule ∈ rules, trimBlanks rule ≠ [] ∧ '*' ∉ ruleForm rule ∧ ruleForm rule = form) ∧
      (form ∈ (ofRules mention rules).wildcards ↔
        ∃ rule ∈ rules, '*' ∈ ruleForm rule ∧ ruleForm rule = form) ∧
      (form ∈ (ofRules mention rules).endless ↔
        ∃ rule ∈ rules, (ruleForm rule).getLast? = some '*' ∧ ruleForm rule = form) := by
  have hrules : ∀ r : ReservedNames,
      ((rules.foldl addRule r).exact.contains form = true ↔ r.exact.contains form = true ∨
          ∃ rule ∈ rules, trimBlanks rule ≠ [] ∧ '*' ∉ ruleForm rule ∧ ruleForm rule = form) ∧
        (form ∈ (rules.foldl addRule r).wildcards ↔ form ∈ r.wildcards ∨
          ∃ rule ∈ rules, '*' ∈ ruleForm rule ∧ ruleForm rule = form) ∧
        (form ∈ (rules.foldl addRule r).endless ↔ form ∈ r.endless ∨
          ∃ rule ∈ rules, (ruleForm rule).getLast? = some '*' ∧ ruleForm rule = form) := by
    -- what has been collected before a rule stays, so the start is arbitrary
    induction rules with
    | nil => intro r; simp
    | cons rule rules ih =>
      intro r
      obtain ⟨hexact, hwildcards, hendless⟩ := addRule_mem r rule form
      obtain ⟨hexact', hwildcards', hendless'⟩ := ih (r.addRule rule)
      simp only [List.foldl_cons, List.mem_cons, exists_eq_or_imp]
      exact ⟨by rw [hexact', hexact, or_assoc], by rw [hwildcards', hwildcards, or_assoc],
        by rw [hendless', hendless, or_assoc]⟩
  obtain ⟨hexact, hwildcards, hendless⟩ := addExact_mem none mention form
  obtain ⟨hexact', hwildcards', hendless'⟩ := hrules (none.addExact mention)
  have hnone : none.exact.contains form = false := Std.TreeSet.contains_emptyc
  unfold ofRules
  refine ⟨?_, ?_, ?_⟩
  · rw [hexact', hexact, hnone]
    simp
  · rw [hwildcards', hwildcards]
    simp [none]
  · rw [hendless', hendless]
    simp [none]

/-! ### Which names are reserved -/

/-- A name is reserved by a mention or a rule without a star that has its form, or by a rule with a
star that matches its form. -/
theorem holds_ofRules_iff : (ofRules mention rules).holds name = true ↔
    trimBlanks mention ≠ [] ∧ ruleForm mention = nameForm name ∨
      (∃ rule ∈ rules, trimBlanks rule ≠ [] ∧ '*' ∉ ruleForm rule ∧ ruleForm rule = nameForm name) ∨
      ∃ rule ∈ rules, '*' ∈ ruleForm rule ∧ Glob.Matches (ruleForm rule) (nameForm name) := by
  have hwild : (∃ form ∈ (ofRules mention rules).wildcards, Glob.fits form (nameForm name) = true) ↔
      ∃ rule ∈ rules, '*' ∈ ruleForm rule ∧ Glob.Matches (ruleForm rule) (nameForm name) := by
    constructor
    · rintro ⟨form, hform, hfits⟩
      obtain ⟨rule, hrule, hstar, rfl⟩ := (ofRules_mem mention rules form).2.1.1 hform
      exact ⟨rule, hrule, hstar, Glob.fits_iff.1 hfits⟩
    · rintro ⟨rule, hrule, hstar, hmatch⟩
      exact ⟨_, (ofRules_mem mention rules _).2.1.2 ⟨rule, hrule, hstar, rfl⟩,
        Glob.fits_iff.2 hmatch⟩
  rw [holds, Bool.or_eq_true, List.any_eq_true, hwild, (ofRules_mem mention rules _).1, or_assoc]

/-- No suffix escapes a rule that ends in a star, if it matches the form of the name. -/
theorem defeatsSuffix_ofRules_iff : (ofRules mention rules).defeatsSuffix name = true ↔
    ∃ rule ∈ rules, (ruleForm rule).getLast? = some '*' ∧
      Glob.Matches (ruleForm rule) (nameForm name) := by
  rw [defeatsSuffix, List.any_eq_true]
  constructor
  · rintro ⟨form, hform, hfits⟩
    obtain ⟨rule, hrule, hend, rfl⟩ := (ofRules_mem mention rules form).2.2.1 hform
    exact ⟨rule, hrule, hend, Glob.fits_iff.1 hfits⟩
  · rintro ⟨rule, hrule, hend, hmatch⟩
    exact ⟨_, (ofRules_mem mention rules _).2.2.2 ⟨rule, hrule, hend, rfl⟩, Glob.fits_iff.2 hmatch⟩

/-- A name is reserved exactly if its form is that of the mention or of a rule without a star,
neither of them blank, or if a rule with a star matches its form; and no suffix escapes a rule
exactly if such a rule ends in a star. A rule is turned into the text of a regular expression, by
escaping it and replacing the escaped star, and what this text denotes, with a dot that takes line
ends as well, takes exactly what the rule matches: a star takes any run of characters, and every
other character itself. -/
theorem holds_spec (mention : Text) (rules : List Text) (name : Text) :
    ((ofRules mention rules).holds name = true ↔
        trimBlanks mention ≠ [] ∧ ruleForm mention = nameForm name ∨
        (∃ rule ∈ rules, trimBlanks rule ≠ [] ∧ '*' ∉ ruleForm rule ∧
          ruleForm rule = nameForm name) ∨
        ∃ rule ∈ rules, '*' ∈ ruleForm rule ∧ Glob.Matches (ruleForm rule) (nameForm name)) ∧
      ((ofRules mention rules).defeatsSuffix name = true ↔
        ∃ rule ∈ rules, (ruleForm rule).getLast? = some '*' ∧
          Glob.Matches (ruleForm rule) (nameForm name)) ∧
      ∀ rule : Text, Glob.expression rule =
          Text.replaceAll (Glob.escape ['*']) ['.', '*'] (Glob.escape rule) ∧
        ∃ p, Pattern.parse (Glob.expression rule) = .ok p ∧
          ∀ t, p.dotAll.fullMatch t = true ↔ Glob.Matches rule t :=
  ⟨holds_ofRules_iff, defeatsSuffix_ofRules_iff, fun rule =>
    ⟨Glob.expression_eq_replaceAll rule, Glob.expression_takes_iff rule⟩⟩

/-- A blank rule is skipped, so it does not reserve the empty name, although its form is empty. -/
theorem holds_spec_blank :
    ¬ ((ofRules "here".toList ["  ".toList]).holds [] = true ↔
      ruleForm "here".toList = nameForm [] ∨
        (∃ rule ∈ ["  ".toList], '*' ∉ ruleForm rule ∧ ruleForm rule = nameForm []) ∨
        ∃ rule ∈ ["  ".toList], '*' ∈ ruleForm rule ∧
          Glob.Matches (ruleForm rule) (nameForm [])) := by
  have hform : ruleForm "  ".toList = [] := by decide +kernel
  have hholds : (ofRules "here".toList ["  ".toList]).holds [] = false := by decide +kernel
  rw [hholds]
  intro h
  have hstar : '*' ∉ ruleForm "  ".toList := by
    rw [hform]
    exact List.not_mem_nil
  exact Bool.false_ne_true (h.2 (.inr (.inl ⟨_, List.mem_singleton_self _, hstar, hform⟩)))

end Namesake.ReservedNames
