import Namesake.Text

/-!
# Wildcards

In a wildcard rule a star stands for any run of characters, also an empty one, and every other
character for itself. What stands before the first star is compared character by character. The rest
of a rule is matched from its end: for what is left of it the matcher keeps, for each place of the
name, whether the rest of the name from there matches.

## Main definitions

* `Glob.Matches` — what it means that a rule matches a name
* `Glob.fits` — whether a rule matches a name
* `Glob.expression` — the rule as a regular expression, as diagnostics show it

## Main results

* `Glob.fits_iff` — `fits` decides `Matches`
-/

namespace Namesake.Glob

/-- The rule matches the whole name: a star takes any run of characters, and every other character
of the rule takes itself. -/
inductive Matches : Text → Text → Prop
  | nil : Matches [] []
  | star (run : Text) {rule name : Text} : Matches rule name → Matches ('*' :: rule) (run ++ name)
  | char {c : Char} {rule name : Text} : c ≠ '*' → Matches rule name →
      Matches (c :: rule) (c :: name)

/-- Does the first of some places hold? -/
def first : List Bool → Bool
  | [] => false
  | here :: _ => here

/-- For each place of a name: whether one of the places from there on holds. -/
def reachable : List Bool → List Bool
  | [] => []
  | here :: rest =>
    let later := reachable rest
    (here || first later) :: later

/-- For each place of a name: whether the character there is `c` and the place behind it holds. -/
def behind (c : Char) : Text → List Bool → List Bool
  | [], _ => [false]
  | d :: name, places => (d = c && first places.tail) :: behind c name places.tail

/-- For each place of the name, the one behind its last character included: whether the rule matches
the name from there. -/
def places : Text → Text → List Bool
  | [], name => List.replicate name.length false ++ [true]
  | c :: rule, name =>
    if c = '*' then reachable (places rule name) else behind c name (places rule name)

/-- Does the rule match the whole name? A single star at the end takes whatever is left. -/
def fits : (rule name : Text) → Bool
  | [], name => name.isEmpty
  | c :: rule, name =>
    if c = '*' then rule.isEmpty || first (places ('*' :: rule) name)
    else
      match name with
      | [] => false
      | d :: rest => d = c && fits rule rest

/-- The characters that have a meaning of their own in a regular expression, blanks included. -/
def isSpecial (c : Char) : Bool :=
  "()[]\x7b\x7d?*+-|^$\\.&~# \t\n\r\x0b\x0c".toList.contains c

/-- The rule as a regular expression: a star becomes `.*` and every other character stands for
itself, with a backslash where it would have a meaning. -/
def expression (rule : Text) : Text :=
  rule.flatMap fun c =>
    if c = '*' then ['.', '*'] else if isSpecial c then ['\\', c] else [c]

@[simp] theorem tail_reachable (l : List Bool) : (reachable l).tail = reachable l.tail := by
  cases l <;> rfl

/-- Behind the last character there is nothing more. -/
theorem tail_places_nil (rule : Text) : (places rule []).tail = [] := by
  induction rule with
  | nil => rfl
  | cons c rule ih =>
    simp only [places]
    split
    · rw [tail_reachable, ih]; rfl
    · rfl

/-- The places of a name without its first character are the places behind that character. -/
theorem tail_places_cons (rule : Text) (d : Char) (name : Text) :
    (places rule (d :: name)).tail = places rule name := by
  induction rule with
  | nil => simp [places, List.replicate_succ]
  | cons c rule ih =>
    simp only [places]
    split
    · rw [tail_reachable, ih]
    · simp only [behind, List.tail_cons, ih]

theorem first_reachable (l : List Bool) :
    first (reachable l) = (first l || first (reachable l.tail)) := by
  cases l <;> rfl

/-- A single star matches from any place on. -/
theorem first_places_star (name : Text) : first (places ['*'] name) = true := by
  induction name with
  | nil => rfl
  | cons d name ih =>
    have h : first (reachable (places [] name)) = true := by simpa [places] using ih
    rw [places, if_pos rfl, first_reachable, tail_places_cons, h, Bool.or_true]

/-- Comparing the characters before the first star changes nothing. -/
theorem fits_eq_first_places (rule name : Text) : fits rule name = first (places rule name) := by
  induction rule generalizing name with
  | nil => cases name <;> simp [fits, places, first, List.replicate_succ]
  | cons c rule ih =>
    by_cases hc : c = '*'
    · subst hc
      cases rule with
      | nil => simp [fits, first_places_star]
      | cons => simp [fits]
    · cases name with
      | nil => simp [fits, places, hc, behind, first]
      | cons d name => simp [fits, places, hc, behind, first, tail_places_cons, ih]

@[simp] theorem fits_nil_nil : fits [] [] = true := rfl

@[simp] theorem fits_nil_cons (d : Char) (name : Text) : fits [] (d :: name) = false := rfl

@[simp] theorem fits_star_nil (rule : Text) : fits ('*' :: rule) [] = fits rule [] := by
  have h : first (reachable []) = false := rfl
  rw [fits_eq_first_places, places, if_pos rfl, first_reachable, tail_places_nil, h, Bool.or_false,
    fits_eq_first_places]

theorem fits_star_cons (rule : Text) (d : Char) (name : Text) :
    fits ('*' :: rule) (d :: name) = (fits rule (d :: name) || fits ('*' :: rule) name) := by
  simp only [fits_eq_first_places, places, if_true]
  rw [first_reachable, tail_places_cons]

theorem fits_char_nil {c : Char} (hc : c ≠ '*') (rule : Text) : fits (c :: rule) [] = false := by
  simp [fits, hc]

theorem fits_char_cons {c : Char} (hc : c ≠ '*') (rule : Text) (d : Char) (name : Text) :
    fits (c :: rule) (d :: name) = (d = c && fits rule name) := by
  simp [fits, hc]

/-- Every run of characters is skipped by a star. -/
theorem fits_star_append {rule name : Text} (h : fits rule name = true) (run : Text) :
    fits ('*' :: rule) (run ++ name) = true := by
  induction run with
  | nil =>
    cases name with
    | nil => simpa using h
    | cons d name => simp [fits_star_cons, h]
  | cons d run ih => simp [fits_star_cons, ih]

/-- What a star skips is a run of characters before a place where the rest of the rule matches. -/
theorem exists_of_fits_star {rule name : Text} (h : fits ('*' :: rule) name = true) :
    ∃ run rest, name = run ++ rest ∧ fits rule rest = true := by
  induction name with
  | nil => exact ⟨[], [], rfl, by simpa using h⟩
  | cons d name ih =>
    rw [fits_star_cons, Bool.or_eq_true] at h
    rcases h with h | h
    · exact ⟨[], d :: name, rfl, h⟩
    · obtain ⟨run, rest, rfl, hr⟩ := ih h
      exact ⟨d :: run, rest, rfl, hr⟩

/-- The matcher finds exactly the matches. -/
theorem fits_iff {rule name : Text} : fits rule name = true ↔ Matches rule name := by
  constructor
  · intro h
    induction rule generalizing name with
    | nil =>
      cases name with
      | nil => exact .nil
      | cons d name => simp at h
    | cons c rule ih =>
      by_cases hc : c = '*'
      · subst hc
        obtain ⟨run, rest, rfl, hr⟩ := exists_of_fits_star h
        exact .star run (ih hr)
      · cases name with
        | nil => simp [fits_char_nil hc] at h
        | cons d name =>
          rw [fits_char_cons hc, Bool.and_eq_true, decide_eq_true_eq] at h
          obtain ⟨rfl, h⟩ := h
          exact .char hc (ih h)
  · intro h
    induction h with
    | nil => rfl
    | star run _ ih => exact fits_star_append ih run
    | char hc _ ih => simp [fits_char_cons hc, ih]

end Namesake.Glob
