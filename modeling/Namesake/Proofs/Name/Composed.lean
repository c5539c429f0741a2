import Namesake.Proofs.Name.Steps
import Namesake.Proofs.Unicode.Composition

/-!
# Clean names are composed

A raw name is composed before it is cleaned, and cleaning leaves it composed: what is taken out of
the text is replaced by a separator or was at one of its ends, and nothing ever joins a separator.
So no clean name has a second spelling.

## Main results

* `isApart_of_isSeparator` — nothing joins a separator
* `CharacterPolicy.wideMask_composed` — in the wide alphabet the masked text is composed
* `IsComposed.isPiecewise` — the steps behind keep it so
-/

namespace Namesake

open Unicode

variable {c : Char} {t u : Text} {p : CharacterPolicy}

/-- No composite begins with a separator. -/
theorem isSeparator_joiner : ∀ row ∈ compositionRows, ∀ pair ∈ row.2,
    isSeparator (Char.ofNat pair.1) = false := by
  decide +kernel

/-- Nothing joins a separator. -/
theorem isApart_of_isSeparator (h : isSeparator c = true) : IsApart c := by
  have hlow : c.toNat < 0xC0 := by
    simp only [isSeparator, Bool.or_eq_true, decide_eq_true_eq] at h
    rcases h with (rfl | rfl) | rfl <;> decide
  refine isApart_of_not_listed hlow fun row hrow pair hpair heq => ?_
  have hjoiner := isSeparator_joiner row hrow pair hpair
  rw [heq, Char.ofNat_toNat, h] at hjoiner
  cases hjoiner

namespace Unicode.IsComposed

/-- Where pieces of a text are replaced by a separator, it stays composed. -/
theorem replace (f : Text → Bool) {pieces : List Text} (h : IsComposed (u ++ pieces.flatten)) :
    IsComposed (u ++ (pieces.map fun g => if f g then g else ['_']).flatten) := by
  induction pieces generalizing u with
  | nil => exact h
  | cons g pieces ih =>
    rw [List.flatten_cons] at h
    rw [List.map_cons, List.flatten_cons]
    split
    · rw [← List.append_assoc] at h ⊢
      exact ih h
    · have hrest : IsComposed ([] ++ pieces.flatten) := h.of_append_right.of_append_right
      exact h.of_append_left.between (isApart_of_isSeparator rfl) (ih hrest)

/-- The same for single characters. -/
theorem replaceChars (f : Char → Bool) (h : IsComposed t) :
    IsComposed (t.map fun c => if f c then c else '_') := by
  have hpieces : (t.map fun c => if f c then c else '_') =
      ((t.map fun c => [c]).map fun g => if g.all f then g else ['_']).flatten := by
    clear h
    induction t with
    | nil => rfl
    | cons c t ih =>
      rw [List.map_cons, List.map_cons, List.map_cons, List.flatten_cons, ← ih, List.all_cons,
        List.all_nil, Bool.and_true]
      split <;> rfl
  rw [hpieces]
  refine replace (u := []) (fun g => g.all f) ?_
  rw [List.nil_append, ← List.flatMap_def, List.flatMap_singleton']
  exact h

/-- Being composed is a piecewise property, for nothing joins a separator. -/
theorem isPiecewise : IsPiecewise IsComposed where
  separator := nil.between (isApart_of_isSeparator rfl) nil
  before := fun _ h => h.of_append_left
  behind := fun _ h => h.of_append_right.of_cons
  meet := fun _ _ hs hu ht =>
    hu.of_append_left.between (isApart_of_isSeparator hs) ht.of_append_right.of_cons

end Unicode.IsComposed

namespace CharacterPolicy

/-- In the wide alphabet the masked text is composed. -/
theorem wideMask_composed (hp : p.unicode = true) (t : Text) : IsComposed (p.mask t) := by
  have hspelling : IsComposed (p.spelling t) := by
    rw [spelling, if_pos hp]
    exact isComposed_nfc t
  have hmasked := hspelling.replaceChars p.admits
  unfold mask
  dsimp only
  split
  · rename_i allow _
    refine IsComposed.replace (u := []) (fun g => isPlainCluster g || allow g) ?_
    rw [List.nil_append, Text.graphemes, flatten_clusters]
    exact hmasked
  · exact hmasked

end CharacterPolicy

end Namesake
