import Namesake.Proofs.Reserved.Rules
import Namesake.Proofs.Unicode.Composition
import Namesake.Proofs.Unicode.Lowercase

/-!
# The spellings that a name on the list reserves

A rule is composed and brought into lower case once, when the list is read. A name is composed and
brought into lower case by whoever asks, and then both are done again. The two ways meet if doing
both once more leaves the form of the rule as it is; then the rule reserves every spelling of
itself. They do not meet where a small letter joins a mark that the capital does not join.

## Main results

* `ReservedNames.nameForm_canonicalName` — the form in which a name in comparison form is compared
* `ReservedNames.not_mem_ruleForm` — no star comes into a rule
* `ReservedNames.holds_spelling` — when a name on the list reserves all of its spellings
-/

namespace Namesake.ReservedNames

open Unicode

variable {mention p s : Text} {rules : List Text}

/-! ### No star comes into a rule -/

theorem star_not_listed : ∀ row ∈ decompositionRows, '*'.toNat ∉ row.2 := by
  decide +kernel

theorem mem_of_mem_trimBlanks {c : Char} {t : Text} (h : c ∈ trimBlanks t) : c ∈ t := by
  unfold trimBlanks at h
  -- blanks are dropped from both ends, the second time in reverse
  have hback := (List.dropWhile_sublist isBlank).subset (List.mem_reverse.1 h)
  exact (List.dropWhile_sublist isBlank).subset (List.mem_reverse.1 hback)

/-- A rule without a star has none in its form: neither composing nor lower case makes one. -/
theorem not_mem_ruleForm (h : '*' ∉ p) : '*' ∉ ruleForm p := by
  intro hstar
  have hnfc : '*' ∈ nfc (trimBlanks p) := (of_mem_lowercase hstar).1.resolve_right (by decide)
  exact h (mem_of_mem_trimBlanks (mem_of_mem_nfc (by decide) star_not_listed hnfc))

/-! ### Two ways to a form -/

/-- A composed text in lower case is its own comparison form. -/
theorem canonicalName_of_composed {t : Text} (h : IsComposed (canonicalName t)) :
    canonicalName (canonicalName t) = canonicalName t := by
  rw [canonicalName, h]
  exact lowercase_lowercase _

/-- The form in which a name in comparison form is compared is the comparison form of it, also where
nothing is done because the name is ASCII. -/
theorem nameForm_canonicalName (s : Text) :
    nameForm (canonicalName s) = canonicalName (canonicalName s) := by
  unfold nameForm
  split
  · rename_i hascii
    refine (canonicalName_of_composed (.of_low fun c hc => ?_)).symm
    have := of_decide_eq_true (List.all_eq_true.1 hascii c hc)
    omega
  · rfl

/-- All spellings of a rule have one form, which is the comparison form of the rule's form. -/
theorem nameForm_of_spelling (h : nfc (canonicalName s) = nfc (canonicalName (trimBlanks p))) :
    nameForm (canonicalName s) = canonicalName (ruleForm p) := by
  rw [nameForm_canonicalName, canonicalName, h]
  rfl

/-- A mention, or a rule without a star, reserves every name that is compared in the form of it. -/
theorem holds_of_ruleForm_eq (hp : p = mention ∨ p ∈ rules ∧ '*' ∉ p) (hblank : trimBlanks p ≠ [])
    (h : ruleForm p = nameForm s) : (ofRules mention rules).holds s = true := by
  rw [holds_ofRules_iff]
  rcases hp with rfl | ⟨hmem, hstar⟩
  · exact .inl ⟨hblank, h⟩
  · exact .inr (.inl ⟨p, hmem, hblank, not_mem_ruleForm hstar, h⟩)

/-- A name on the list that is no wildcard and not blank reserves every text that is equal to it up
to case and canonical equivalence, if composing its form and bringing it into lower case once more
leaves the form as it is; this is so if the form is composed. Otherwise the name alone, as the
mention or as a rule, reserves none of them. -/
theorem holds_spelling (hp : p = mention ∨ p ∈ rules ∧ '*' ∉ p) (hblank : trimBlanks p ≠ [])
    (hs : nfc (canonicalName s) = nfc (canonicalName (trimBlanks p))) :
    (canonicalName (ruleForm p) = ruleForm p →
        (ofRules mention rules).holds (canonicalName s) = true) ∧
      ((ofRules p []).holds (canonicalName s) = true ↔ canonicalName (ruleForm p) = ruleForm p) ∧
      ('*' ∉ p → ((ofRules [] [p]).holds (canonicalName s) = true ↔
        canonicalName (ruleForm p) = ruleForm p)) ∧
      (IsComposed (ruleForm p) → canonicalName (ruleForm p) = ruleForm p) := by
  have hform := nameForm_of_spelling hs
  refine ⟨fun hstable => ?_, ?_, fun hstar => ?_, canonicalName_of_composed⟩
  · exact holds_of_ruleForm_eq hp hblank (hstable.symm.trans hform.symm)
  · rw [holds_ofRules_iff, hform]
    simp only [hblank, List.not_mem_nil, ne_eq, not_false_eq_true, true_and, false_and,
      exists_false,
      or_false]
    exact eq_comm
  · have hmention : trimBlanks [] = [] := rfl
    rw [holds_ofRules_iff, hform]
    simp only [hmention, hblank, not_mem_ruleForm hstar, List.mem_singleton, exists_eq_left, ne_eq,
      not_true_eq_false, not_false_eq_true, true_and, false_and, or_false, false_or]
    exact eq_comm

/-- The rule `Jürgen` reserves the name also where it is written in capitals and with a mark of its
own. -/
theorem holds_spelling_capitals :
    ("Jürgen".toList = [] ∨ "Jürgen".toList ∈ ["Jürgen".toList] ∧ '*' ∉ "Jürgen".toList) ∧
      trimBlanks "Jürgen".toList ≠ [] ∧
      nfc (canonicalName "JU\u0308RGEN".toList) = nfc (canonicalName (trimBlanks "Jürgen".toList)) ∧
      (ofRules [] ["Jürgen".toList]).holds (canonicalName "JU\u0308RGEN".toList) = true := by
  have hp : "Jürgen".toList = [] ∨ "Jürgen".toList ∈ ["Jürgen".toList] ∧ '*' ∉ "Jürgen".toList :=
    .inr ⟨List.mem_singleton_self _, by decide⟩
  have hblank : trimBlanks "Jürgen".toList ≠ [] := by decide +kernel
  have hs : nfc (canonicalName "JU\u0308RGEN".toList) =
      nfc (canonicalName (trimBlanks "Jürgen".toList)) := by decide +kernel
  exact ⟨hp, hblank, hs, (holds_spelling hp hblank hs).1 (by decide +kernel)⟩

/-- A capital `H` does not join the line below it and a small one does. So the rule reserves neither
the name in lower case nor itself. -/
theorem holds_spelling_fails :
    '*' ∉ "H\u0331".toList ∧ trimBlanks "H\u0331".toList ≠ [] ∧
      nfc (canonicalName "h\u0331".toList) = nfc (canonicalName (trimBlanks "H\u0331".toList)) ∧
      (ofRules [] ["H\u0331".toList]).holds (canonicalName "h\u0331".toList) = false ∧
      (ofRules [] ["H\u0331".toList]).holds (canonicalName (trimBlanks "H\u0331".toList)) =
        false := by
  refine ⟨by decide, by decide +kernel, by decide +kernel, by decide +kernel, by decide +kernel⟩

end Namesake.ReservedNames
