import Namesake.Proofs.Unicode.Decomposition

/-!
# Canonical order

In every run of marks the combining classes do not fall: that is the order into which decomposing a
text sorts them. Sorting changes nothing where they are in order already, and marks of different
classes may come in either order before they are sorted.

## Main definitions

* `Ordered` — in every run of marks the classes do not fall
* `IsDecomposed` — a list is in canonical order and no character of it decomposes
* `expand` — the characters of a text, spelled out but not sorted

## Main results

* `sortMarks_pass` — a mark may as well come from in front of marks of smaller class
* `sortMarks_append_starter` — nothing is sorted past a starter
* `decompose_isDecomposed` — decomposing makes a list decomposed
-/

namespace Namesake.Unicode

variable {b k : Nat} {c : Char} {x y : Classed} {l m : List Classed}

/-! ### Canonical order -/

/-- In every run of marks the classes do not fall. Before the list there is a mark of class `k`, or
a starter if it is zero. -/
def Ordered : (k : Nat) → List Classed → Prop
  | _, [] => True
  | k, x :: rest => (x.cls = 0 ∨ k ≤ x.cls) ∧ Ordered x.cls rest

theorem Ordered.mono (h : Ordered k l) (hb : b ≤ k) : Ordered b l := by
  cases l with
  | nil => trivial
  | cons x l => exact ⟨h.1.imp_right hb.trans, h.2⟩

theorem sink_ordered (h : Ordered k l) (hx : x.cls = 0 ∨ k ≤ x.cls) : Ordered k (sink x l) := by
  induction l generalizing k with
  | nil => exact ⟨hx, trivial⟩
  | cons y l ih =>
    rw [sink]
    split_ifs with hy
    · exact ⟨h.1, ih h.2 (Or.inr (by omega))⟩
    · exact ⟨hx, by omega, h.2⟩

/-- Sorting puts the marks into order. -/
theorem sortMarks_ordered (l : List Classed) : Ordered 0 (sortMarks l) := by
  induction l with
  | nil => trivial
  | cons x l ih => exact sink_ordered ih (Or.inr (Nat.zero_le _))

theorem sink_of_ordered (h : Ordered x.cls l) : sink x l = x :: l := by
  cases l with
  | nil => rfl
  | cons y l =>
    have := h.1
    rw [sink, if_neg (by omega)]

/-- Marks in order stay where they are. -/
theorem sortMarks_of_ordered (h : Ordered k l) : sortMarks l = l := by
  induction l generalizing k with
  | nil => rfl
  | cons x l ih => rw [sortMarks, ih h.2, sink_of_ordered h.2]

theorem sink_perm (x : Classed) (l : List Classed) : (sink x l).Perm (x :: l) := by
  induction l with
  | nil => exact .refl _
  | cons y l ih =>
    rw [sink]
    split_ifs
    · exact (ih.cons y).trans (.swap x y l)
    · exact .refl _

/-- Sorting neither adds nor loses a mark. -/
theorem sortMarks_perm (l : List Classed) : (sortMarks l).Perm l := by
  induction l with
  | nil => exact .refl _
  | cons x l ih => exact (sink_perm x _).trans (ih.cons x)

/-- Two marks of different classes may be sorted in either order. -/
theorem sink_comm (hy : 0 < y.cls) (hxy : y.cls < x.cls) :
    sink x (sink y l) = sink y (sink x l) := by
  induction l with
  | nil => simp [sink, hy, hxy, Nat.not_lt_of_lt hxy]
  | cons z l ih =>
    by_cases hz : 0 < z.cls ∧ z.cls < y.cls
    · have hzx : 0 < z.cls ∧ z.cls < x.cls := ⟨hz.1, hz.2.trans hxy⟩
      simp only [sink, if_pos hz, if_pos hzx, ih]
    · by_cases hzx : 0 < z.cls ∧ z.cls < x.cls
      · simp only [sink, if_neg hz, if_pos hzx, if_pos (And.intro hy hxy)]
      · have hx : ¬ (0 < x.cls ∧ x.cls < y.cls) := fun h => Nat.lt_asymm h.2 hxy
        simp only [sink, if_neg hz, if_neg hzx, if_pos (And.intro hy hxy), if_neg hx]

/-- What is in front is sorted into what is sorted behind. -/
theorem sortMarks_append (l m : List Classed) :
    sortMarks (l ++ m) = l.foldr sink (sortMarks m) := by
  induction l with
  | nil => rfl
  | cons x l ih => rw [List.cons_append, sortMarks, ih, List.foldr_cons]

/-- So a mark may as well come from in front of marks of smaller class. -/
theorem sortMarks_pass (h : ∀ y ∈ l, 0 < y.cls ∧ y.cls < x.cls) (m : List Classed) :
    sortMarks (x :: (l ++ m)) = sortMarks (l ++ x :: m) := by
  induction l with
  | nil => rfl
  | cons y l ih =>
    obtain ⟨hy, hyx⟩ := h y List.mem_cons_self
    calc sortMarks (x :: (y :: l ++ m))
        = sink y (sortMarks (x :: (l ++ m))) := sink_comm hy hyx
      _ = sortMarks (y :: l ++ x :: m) := by
        rw [ih fun z hz => h z (List.mem_cons_of_mem y hz)]
        rfl

/-- Nothing is sorted past a starter. -/
theorem sortMarks_append_starter (l m : List Classed) (hx : x.cls = 0) :
    sortMarks (l ++ x :: m) = sortMarks l ++ x :: sortMarks m := by
  have hsink : ∀ y : Classed, ∀ l r : List Classed, sink y (l ++ x :: r) = sink y l ++ x :: r := by
    intro y l r
    induction l with
    | nil => simp [sink, hx]
    | cons z l ih =>
      rw [List.cons_append, sink, sink, ih]
      split_ifs <;> rfl
  induction l with
  | nil =>
    show sink x (sortMarks m) = x :: sortMarks m
    cases sortMarks m with
    | nil => rfl
    | cons z r => rw [sink, if_neg (by omega)]
  | cons y l ih => rw [List.cons_append, sortMarks, ih, hsink, sortMarks]

/-! ### Decomposed lists -/

/-- The class is that of the character, and the character does not decompose. -/
def Classed.Full (x : Classed) : Prop :=
  x = .of x.char ∧ canonical x.char = [x.char]

/-- The list is in canonical order, and no character of it decomposes. -/
structure IsDecomposed (l : List Classed) : Prop where
  ordered : Ordered 0 l
  full : ∀ x ∈ l, x.Full

/-- The characters of a text, spelled out but not sorted. -/
def expand (t : Text) : List Classed :=
  (t.flatMap canonical).map .of

theorem decompose_eq (t : Text) : decompose t = sortMarks (expand t) := rfl

@[simp] theorem expand_append (t u : Text) : expand (t ++ u) = expand t ++ expand u := by
  simp [expand]

theorem expand_cons (c : Char) (t : Text) : expand (c :: t) = expand [c] ++ expand t :=
  expand_append [c] t

theorem expand_of_full (h : canonical c = [c]) : expand [c] = [.of c] := by
  simp [expand, h]

/-- Decomposing makes a list decomposed. -/
theorem decompose_isDecomposed (t : Text) : IsDecomposed (decompose t) where
  ordered := sortMarks_ordered _
  full := fun x hx => by
    obtain ⟨c, hc, rfl⟩ := List.mem_map.1 ((sortMarks_perm _).mem_iff.1 hx)
    obtain ⟨d, -, hc⟩ := List.mem_flatMap.1 hc
    exact ⟨rfl, canonical_of_mem hc⟩

end Namesake.Unicode
