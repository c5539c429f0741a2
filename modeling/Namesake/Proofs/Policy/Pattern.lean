import Namesake.Policy.Pattern

/-!
# What a pattern takes

Matching by derivatives never looks at more than one character of a text at a time. What a pattern
takes is said here without them, by the ways in which a text can be put together, and both say the
same.

## Main definitions

* `Pattern.Takes` — the pattern matches the whole text

## Main results

* `Pattern.takes_derive_iff` — a derivative takes what may follow the character
* `Pattern.fullMatch_iff` — `fullMatch` decides `Takes`
-/

namespace Namesake.Pattern

variable {p q : Pattern} {c : Char} {t u : Text}

/-- The pattern matches the whole text. -/
inductive Takes : Pattern → Text → Prop
  | empty : Takes .empty []
  | one {s : CharSet} {c : Char} : s.contains c = true → Takes (.one s) [c]
  | seq {p q : Pattern} {t u : Text} : Takes p t → Takes q u → Takes (.seq p q) (t ++ u)
  | left {p q : Pattern} {t : Text} : Takes p t → Takes (.alt p q) t
  | right {p q : Pattern} {t : Text} : Takes q t → Takes (.alt p q) t
  | done {p : Pattern} : Takes (.star p) []
  | again {p : Pattern} {t u : Text} : Takes p t → Takes (.star p) u → Takes (.star p) (t ++ u)

theorem takes_seq_iff : (seq p q).Takes t ↔ ∃ u v, t = u ++ v ∧ p.Takes u ∧ q.Takes v := by
  constructor
  · rintro (_ | _ | ⟨hp, hq⟩)
    exact ⟨_, _, rfl, hp, hq⟩
  · rintro ⟨u, v, rfl, hp, hq⟩
    exact .seq hp hq

theorem takes_alt_iff : (alt p q).Takes t ↔ p.Takes t ∨ q.Takes t := by
  constructor
  · rintro (_ | _ | _ | h | h)
    · exact .inl h
    · exact .inr h
  · rintro (h | h)
    · exact .left h
    · exact .right h

/-- A repetition that takes a character begins with a member that takes it. -/
theorem takes_star_cons_iff :
    (star p).Takes (c :: t) ↔ ∃ u v, t = u ++ v ∧ p.Takes (c :: u) ∧ (star p).Takes v := by
  constructor
  · intro h
    generalize hstar : star p = r at h
    generalize htext : c :: t = text at h
    induction h with
    | @again q u v hp hq _ ih =>
      obtain rfl := star.inj hstar
      cases u with
      -- a member that takes nothing is passed over
      | nil => exact ih rfl htext
      | cons d u =>
        obtain ⟨rfl, rfl⟩ := List.cons.inj htext
        exact ⟨u, v, rfl, hp, hq⟩
    | done => cases htext
    | _ => cases hstar
  · rintro ⟨u, v, rfl, hp, hq⟩
    exact .again hp hq

theorem nullable_iff : p.nullable = true ↔ p.Takes [] := by
  induction p with
  | never => exact iff_of_false Bool.false_ne_true nofun
  | empty => exact iff_of_true rfl .empty
  | one s => exact iff_of_false Bool.false_ne_true nofun
  | seq p q ihp ihq =>
    rw [nullable, Bool.and_eq_true, ihp, ihq, takes_seq_iff]
    constructor
    · rintro ⟨hp, hq⟩
      exact ⟨[], [], rfl, hp, hq⟩
    · rintro ⟨u, v, huv, hp, hq⟩
      obtain ⟨rfl, rfl⟩ := List.append_eq_nil_iff.1 huv.symm
      exact ⟨hp, hq⟩
  | alt p q ihp ihq => rw [nullable, Bool.or_eq_true, ihp, ihq, takes_alt_iff]
  | star p => exact iff_of_true rfl .done

/-- The derivative takes what may follow the character. -/
theorem takes_derive_iff : (p.derive c).Takes t ↔ p.Takes (c :: t) := by
  induction p generalizing t with
  | never => exact iff_of_false nofun nofun
  | empty => exact iff_of_false nofun nofun
  | one s =>
    rw [derive]
    split
    · rename_i hs
      constructor
      · rintro ⟨⟩
        exact .one hs
      · rintro ⟨⟩
        exact .empty
    · rename_i hs
      refine iff_of_false nofun ?_
      rintro ⟨⟩
      exact hs ‹_›
  | seq p q ihp ihq =>
    -- the character is the first one of the first part, or this part is empty
    have hseq : (seq (p.derive c) q).Takes t ↔
        ∃ u v, t = u ++ v ∧ p.Takes (c :: u) ∧ q.Takes v := by
      simp only [takes_seq_iff, ihp]
    have hsplit : (seq p q).Takes (c :: t) ↔
        (∃ u v, t = u ++ v ∧ p.Takes (c :: u) ∧ q.Takes v) ∨ p.Takes [] ∧ q.Takes (c :: t) := by
      rw [takes_seq_iff]
      constructor
      · rintro ⟨u, v, huv, hp, hq⟩
        rcases List.cons_eq_append_iff.1 huv with ⟨rfl, rfl⟩ | ⟨u, rfl, rfl⟩
        · exact .inr ⟨hp, hq⟩
        · exact .inl ⟨u, v, rfl, hp, hq⟩
      · rintro (⟨u, v, rfl, hp, hq⟩ | ⟨hp, hq⟩)
        · exact ⟨c :: u, v, rfl, hp, hq⟩
        · exact ⟨[], c :: t, rfl, hp, hq⟩
    rw [derive, hsplit, ← nullable_iff]
    split
    · rename_i hnull
      rw [takes_alt_iff, hseq, ihq, and_iff_right hnull]
    · rename_i hnull
      rw [hseq, or_iff_left fun h => hnull h.1]
  | alt p q ihp ihq => rw [derive, takes_alt_iff, takes_alt_iff, ihp, ihq]
  | star p ih => simp only [derive, takes_seq_iff, takes_star_cons_iff, ih]

/-- Matching by derivatives finds exactly what the pattern takes. -/
theorem fullMatch_iff : p.fullMatch t = true ↔ p.Takes t := by
  induction t generalizing p with
  | nil => exact nullable_iff
  | cons c t ih => rw [fullMatch, ih, takes_derive_iff]

end Namesake.Pattern
