import Namesake.Proofs.Policy.Pattern
import Namesake.Reserved.Glob

/-!
# Wildcard rules as regular expressions

A wildcard rule becomes a regular expression by changes of its text alone: what has a meaning there
is escaped, and then each escaped star is replaced by `.*`. That could go wrong where a rule has
backslashes of its own, but it does not: an escaped backslash is never half of an escaped star. Read
as a pattern whose dot takes line ends as well, the expression takes exactly the names that the rule
matches.

## Main definitions

* `Text.replaceAll` — a text with all occurrences of a part replaced
* `Glob.escape` — a rule in which every character stands for itself
* `Pattern.dotAll` — a pattern whose dot takes line ends as well

## Main results

* `Glob.expression_eq_replaceAll` — the expression is the escaped rule with its stars replaced
* `Glob.parse_expression` — the pattern that it denotes
* `Glob.expression_takes_iff` — that pattern takes what the rule matches
-/

namespace Namesake

/-! ### Escaping and replacing -/

/-- The text with all occurrences of the old part replaced by the new one, from the left. -/
def Text.replaceAll (old new t : Text) : Text :=
  List.intercalate new (Text.splitOn old t)

/-- The pattern whose dot takes line ends as well. -/
def Pattern.dotAll : Pattern → Pattern
  | .one (.complement (.single '\n')) => .one (.complement (.union []))
  | .seq p q => .seq p.dotAll q.dotAll
  | .alt p q => .alt p.dotAll q.dotAll
  | .star p => .star p.dotAll
  | p => p

namespace Glob

/-- The rule with a backslash before whatever has a meaning in a regular expression, the star
included. -/
def escape (rule : Text) : Text :=
  rule.flatMap fun c => if isSpecial c then ['\\', c] else [c]

variable {c : Char} {rule name t : Text}

theorem isSpecial_star : isSpecial '*' = true := by decide

theorem escape_cons (c : Char) (rule : Text) :
    escape (c :: rule) = (if isSpecial c then ['\\', c] else [c]) ++ escape rule :=
  List.flatMap_cons

theorem expression_cons (c : Char) (rule : Text) :
    expression (c :: rule) =
      (if c = '*' then ['.', '*'] else if isSpecial c then ['\\', c] else [c]) ++ expression rule :=
  List.flatMap_cons

/-- An escaped rule does not begin with a star. -/
theorem head?_escape (rule : Text) : (escape rule).head? ≠ some '*' := by
  cases rule with
  | nil => simp [escape]
  | cons c rule =>
    rw [escape_cons]
    split
    · simp
    · rename_i hc
      intro h
      obtain rfl := Option.some.inj h
      exact hc isSpecial_star

/-- What is put before the first piece is put before the joined text. -/
theorem intercalate_consToHead (new : Text) (c : Char) {ps : List Text} (h : ps ≠ []) :
    List.intercalate new (Text.consToHead c ps) = c :: List.intercalate new ps := by
  cases ps with
  | nil => exact absurd rfl h
  | cons p ps => cases ps <;> simp [Text.consToHead, List.intercalate]

theorem pieces_ne_nil (sep : Text) (skip : Nat) (t : Text) : Text.pieces sep skip t ≠ [] := by
  induction t generalizing skip with
  | nil => cases skip <;> simp [Text.pieces]
  | cons c t ih =>
    cases skip with
    | succ skip => exact ih skip
    | zero =>
      unfold Text.pieces
      split
      · simp
      · cases Text.pieces sep 0 t <;> simp [Text.consToHead]

/-- An occurrence is replaced, and the rest of the text after it. -/
theorem replaceAll_occurrence (new : Text) (t : Text) :
    Text.replaceAll ['\\', '*'] new ('\\' :: '*' :: t) =
      new ++ Text.replaceAll ['\\', '*'] new t := by
  have hpieces := pieces_ne_nil ['\\', '*'] 0 t
  unfold Text.replaceAll Text.splitOn
  rw [Text.pieces, if_pos (by simp)]
  change List.intercalate new ([] :: Text.pieces ['\\', '*'] 0 t) = _
  cases h : Text.pieces ['\\', '*'] 0 t with
  | nil => exact absurd h hpieces
  | cons p ps => simp [List.intercalate]

/-- Elsewhere a character stays. -/
theorem replaceAll_cons (new : Text) (h : ¬ (c = '\\' ∧ t.head? = some '*')) :
    Text.replaceAll ['\\', '*'] new (c :: t) = c :: Text.replaceAll ['\\', '*'] new t := by
  have hsep : List.isPrefixOf ['\\', '*'] (c :: t) = false := by
    rw [← Bool.not_eq_true, List.isPrefixOf_iff_prefix]
    rintro ⟨u, hu⟩
    obtain ⟨rfl, rfl⟩ := List.cons.inj hu
    exact h ⟨rfl, rfl⟩
  unfold Text.replaceAll Text.splitOn
  rw [Text.pieces, if_neg (by simp [hsep]), intercalate_consToHead _ _ (pieces_ne_nil _ _ _)]

/-- The expression is the escaped rule with its escaped stars replaced: no backslash of the rule is
taken for that of a star. -/
theorem expression_eq_replaceAll (rule : Text) :
    expression rule = Text.replaceAll (escape ['*']) ['.', '*'] (escape rule) := by
  rw [show escape ['*'] = ['\\', '*'] from by decide]
  induction rule with
  | nil => rfl
  | cons c rule ih =>
    -- what comes next does not begin with a star, so any character before it stays
    have hkeep : ∀ d : Char, Text.replaceAll ['\\', '*'] ['.', '*'] (d :: escape rule) =
        d :: expression rule := by
      intro d
      rw [replaceAll_cons _ fun h => head?_escape rule h.2, ih]
    rw [expression_cons, escape_cons]
    by_cases hstar : c = '*'
    · subst hstar
      rw [if_pos rfl, if_pos isSpecial_star]
      exact (congrArg (['.', '*'] ++ ·) ih).trans (replaceAll_occurrence _ _).symm
    · rw [if_neg hstar]
      split
      · -- the backslash before the character is not that of a star
        have hback : Text.replaceAll ['\\', '*'] ['.', '*'] ('\\' :: c :: escape rule) =
            '\\' :: Text.replaceAll ['\\', '*'] ['.', '*'] (c :: escape rule) :=
          replaceAll_cons _ fun h => hstar (Option.some.inj h.2)
        exact (hback.trans (congrArg ('\\' :: ·) (hkeep c))).symm
      · exact (hkeep c).symm

example : expression "\\*.".toList = "\\\\.*\\.".toList := by decide

/-! ### The pattern -/

/-- What a character of a rule becomes. -/
def item (c : Char) : Pattern :=
  if c = '*' then .star (.one (.complement (.single '\n'))) else .one (.single c)

/-- The pattern for a rule: what its characters become, one after the other. -/
def pattern (rule : Text) : Pattern :=
  rule.foldr (fun c rest => .seq (item c) rest) .empty

/-- What has a meaning in a regular expression is neither a letter nor a digit. -/
theorem not_isAlphanum_of_isSpecial (h : isSpecial c = true) : c.isAlphanum = false := by
  have hall : "()[]\x7b\x7d?*+-|^$\\.&~# \t\n\r\x0b\x0c".toList.all (fun c => !c.isAlphanum) =
      true := by
    decide
  simpa using List.all_eq_true.1 hall c (by simpa [isSpecial] using h)

/-- A character behind a backslash stands for itself, unless it is a letter or a digit. -/
theorem escape?_eq_single (hc : c.isAlphanum = false) (rest : Text) :
    Pattern.escape? (c :: rest) = some (.single c, 1) := by
  unfold Pattern.escape?
  split
  · rename_i h
    obtain ⟨rfl, -⟩ := List.cons.inj h
    cases hc
  · rename_i h
    obtain ⟨rfl, -⟩ := List.cons.inj h
    cases hc
  · rename_i h
    obtain ⟨rfl, -⟩ := List.cons.inj h
    rw [hc]
    rfl
  · rename_i h
    cases h

/-- Reading the expression of a rule puts what its characters become into the group, one after the
other. -/
theorem parseFrom_expression (position : Nat) (items : List Pattern) (rule : Text) :
    Pattern.parseFrom position 0 ⟨none, items⟩ [] (expression rule) =
      .ok (Pattern.Group.pattern ⟨none, (rule.map item).reverse ++ items⟩) := by
  induction rule generalizing position items with
  | nil => rfl
  | cons c rule ih =>
    have hitems : ((c :: rule).map item).reverse ++ items =
        (rule.map item).reverse ++ item c :: items := by simp
    rw [hitems, expression_cons]
    by_cases hstar : c = '*'
    · subst hstar
      exact ih (position + 2) (item '*' :: items)
    · have hitem : item c = .one (.single c) := if_neg hstar
      rw [if_neg hstar, hitem]
      split
      · rename_i hc
        have hescape := escape?_eq_single (not_isAlphanum_of_isSpecial hc) (expression rule)
        have hread : Pattern.parseFrom position 0 ⟨none, items⟩ [] ('\\' :: c :: expression rule) =
            Pattern.parseFrom (position + 2) 0 ⟨none, .one (.single c) :: items⟩ []
              (expression rule) := by
          rw [Pattern.parseFrom, hescape]
          rfl
        exact hread.trans (ih (position + 2) _)
      · rename_i hc
        refine Eq.trans ?_ (ih (position + 1) _)
        show Pattern.parseFrom position 0 _ [] (c :: expression rule) = _
        rw [Pattern.parseFrom]
        · rfl
        -- no other character has a meaning of its own
        all_goals
          rintro rfl
          exact hc (by decide)

/-- The pattern that the expression of a rule denotes. -/
theorem parse_expression (rule : Text) : Pattern.parse (expression rule) = .ok (pattern rule) := by
  have hread := parseFrom_expression 0 [] rule
  rw [List.append_nil] at hread
  refine hread.trans (congrArg Except.ok ?_)
  show List.foldl (fun rest p => .seq p rest) .empty (rule.map item).reverse = pattern rule
  rw [List.foldl_reverse, List.foldr_map]
  rfl

/-! ### What it takes -/

/-- A repeated dot takes any run of characters. -/
theorem takes_star_any (run : Text) :
    (Pattern.star (.one (.complement (.union [])))).Takes run := by
  induction run with
  | nil => exact .done
  | cons c run ih => exact .again (t := [c]) (.one rfl) ih

/-- With a dot that takes line ends as well, the pattern of a rule takes exactly the names that the
rule matches. -/
theorem pattern_takes_iff : (pattern rule).dotAll.Takes name ↔ Matches rule name := by
  induction rule generalizing name with
  | nil =>
    constructor
    · rintro ⟨⟩
      exact .nil
    · rintro ⟨⟩
      exact .empty
  | cons c rule ih =>
    have hpattern : (pattern (c :: rule)).dotAll = .seq (item c).dotAll (pattern rule).dotAll := rfl
    rw [hpattern, Pattern.takes_seq_iff]
    by_cases hstar : c = '*'
    · subst hstar
      constructor
      · rintro ⟨run, rest, rfl, -, hrest⟩
        exact .star run (ih.1 hrest)
      · intro h
        cases h with
        | star run h => exact ⟨run, _, rfl, takes_star_any run, ih.2 h⟩
        | char hne _ => exact absurd rfl hne
    · have hitem : (item c).dotAll = .one (.single c) := by
        rw [item, if_neg hstar]
        rfl
      rw [hitem]
      constructor
      · rintro ⟨_, rest, rfl, hone, hrest⟩
        cases hone with
        | one hd =>
          obtain rfl := of_decide_eq_true hd
          exact .char hstar (ih.1 hrest)
      · intro h
        cases h with
        | star run h => exact absurd rfl hstar
        | char _ h => exact ⟨[c], _, rfl, .one (decide_eq_true rfl), ih.2 h⟩

/-- So the text of the expression denotes what the matcher decides. -/
theorem expression_takes_iff (rule : Text) : ∃ p, Pattern.parse (expression rule) = .ok p ∧
    ∀ name, p.dotAll.fullMatch name = true ↔ Matches rule name :=
  ⟨pattern rule, parse_expression rule, fun _ => Pattern.fullMatch_iff.trans pattern_takes_iff⟩

end Glob

end Namesake
