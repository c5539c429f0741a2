import Mathlib.Data.List.Chain
import Namesake.Name.Sanitize
import Namesake.Proofs.Name.Cut

/-!
# The steps of cleaning

Behind the alphabet everything that cleaning does is done to separators: what may not lead or end a
name is a separator, an extension is cut off at its point, and runs of separators are joined. So a
property that looks at a text piece by piece between the separators survives all these steps at
once.

## Main definitions

* `IsPiecewise` — such a property of texts

## Main results

* `isSeparator_of_not_leads`, `isSeparator_of_not_isWord` — what is dropped at both ends is a
  separator
* `hideExtension_cases` — what becomes of an extension
* `IsPiecewise.clean` — piecewise properties survive the steps
-/

namespace Namesake

open Unicode

/-! ### Characters -/

section Characters

variable {c : Char} {p : CharacterPolicy}

/-- The separators of names. -/
theorem isSeparator_iff : isSeparator c = true ↔ c = '.' ∨ c = '_' ∨ c = '-' := by
  simp [isSeparator, or_assoc]

theorem isWord_iff : isWord c = true ↔ isLetter c = true ∨ isMark c = true ∨ isNumber c = true := by
  simp [isWord, or_assoc]

theorem isWord_of_isSeparator (h : isSeparator c = true) : isWord c = false := by
  rcases isSeparator_iff.1 h with rfl | rfl | rfl <;> decide +kernel

theorem toNat_lt_of_isAsciiWord (h : isAsciiWord c = true) : c.toNat < 128 := by
  simp only [isAsciiWord, Bool.or_eq_true, Bool.and_eq_true, decide_eq_true_eq, Char.le_def,
    UInt32.le_iff_toNat_le] at h
  have hA : ('Z'.val.toNat = 90 ∧ 'z'.val.toNat = 122 ∧ '9'.val.toNat = 57) := by decide
  have hc : c.toNat = c.val.toNat := rfl
  omega

theorem isWord_of_ascii : ∀ n < 128, isAsciiWord (Char.ofNat n) = true →
    isWord (Char.ofNat n) = true := by
  decide +kernel

/-- The ASCII letters and digits are letters and numbers. -/
theorem isWord_of_isAsciiWord (h : isAsciiWord c = true) : isWord c = true := by
  have hword := isWord_of_ascii c.toNat (toNat_lt_of_isAsciiWord h)
  rw [Char.ofNat_toNat] at hword
  exact hword h

theorem admits_of_isSeparator (h : isSeparator c = true) : p.admits c = true := by
  rw [CharacterPolicy.admits, h, Bool.true_or]

theorem admits_of_isAsciiWord (h : isAsciiWord c = true) : p.admits c = true := by
  rw [CharacterPolicy.admits, h, isWord_of_isAsciiWord h, ite_self, Bool.or_true]

theorem leads_of_isAsciiWord (h : isAsciiWord c = true) : p.leads c = true := by
  rw [CharacterPolicy.leads, h, isWord_of_isAsciiWord h, Bool.or_true, ite_self]

/-- The alphabet, class by class. -/
theorem admits_iff : p.admits c = true ↔ c = '.' ∨ c = '_' ∨ c = '-' ∨
    if p.unicode then isLetter c = true ∨ isMark c = true ∨ isNumber c = true
    else isAsciiWord c = true := by
  rw [CharacterPolicy.admits, Bool.or_eq_true, isSeparator_iff, or_assoc, or_assoc]
  cases p.unicode <;> simp [isWord_iff]

/-- What may lead, class by class. -/
theorem leads_iff : p.leads c = true ↔
    if p.unicode then c = '_' ∨ isLetter c = true ∨ isMark c = true ∨ isNumber c = true
    else isAsciiWord c = true := by
  rw [CharacterPolicy.leads]
  cases p.unicode <;> simp [isWord_iff]

/-- Whatever is in the alphabet and no separator is a letter, mark or number. -/
theorem isWord_of_admits (h : p.admits c = true) (hc : isSeparator c = false) :
    isWord c = true := by
  rw [CharacterPolicy.admits, hc, Bool.false_or] at h
  split at h
  · exact h
  · exact isWord_of_isAsciiWord h

/-- A character that may lead is a letter, mark or number, or else `_` in the wide alphabet. -/
theorem isWord_of_leads (h : p.leads c = true) : isWord c = true ∨ p.unicode = true ∧ c = '_' := by
  unfold CharacterPolicy.leads at h
  by_cases hp : p.unicode = true
  · rw [if_pos hp, Bool.or_eq_true, decide_eq_true_eq] at h
    exact h.symm.imp id fun hc => ⟨hp, hc⟩
  · rw [if_neg hp] at h
    exact Or.inl (isWord_of_isAsciiWord h)

/-- No separator but `_` may lead. -/
theorem eq_of_leads (h : p.leads c = true) (hc : isSeparator c = true) : c = '_' := by
  rcases isWord_of_leads h with hword | ⟨-, rfl⟩
  · rw [isWord_of_isSeparator hc] at hword
    cases hword
  · rfl

/-- Whatever is in the alphabet and no separator may lead. -/
theorem leads_of_admits (h : p.admits c = true) (hc : isSeparator c = false) :
    p.leads c = true := by
  rw [CharacterPolicy.admits, hc, Bool.false_or] at h
  unfold CharacterPolicy.leads
  split_ifs at h ⊢ with hp
  · rw [h, Bool.or_true]
  · exact h

/-- What is dropped in front of a name is a separator. -/
theorem isSeparator_of_not_leads (h : p.admits c = true) (hc : p.leads c = false) :
    isSeparator c = true := by
  by_contra hsep
  rw [leads_of_admits h (by simpa using hsep)] at hc
  cases hc

/-- What is dropped at the end of a name is a separator. -/
theorem isSeparator_of_not_isWord (h : p.admits c = true) (hc : isWord c = false) :
    isSeparator c = true := by
  by_contra hsep
  rw [isWord_of_admits h (by simpa using hsep)] at hc
  cases hc

end Characters

/-- The masked text has no characters beyond the alphabet. -/
theorem CharacterPolicy.mask_admitted (p : CharacterPolicy) (t : Text) :
    ∀ c ∈ p.mask t, p.admits c = true := by
  have hmap : ∀ c ∈ (p.spelling t).map (fun c => if p.admits c then c else '_'),
      p.admits c = true := by
    intro c hc
    obtain ⟨d, -, rfl⟩ := List.mem_map.1 hc
    by_cases hd : p.admits d = true
    · rw [if_pos hd]
      exact hd
    · rw [if_neg hd]
      exact admits_of_isSeparator rfl
  unfold CharacterPolicy.mask
  dsimp only
  -- a list of admitted clusters replaces some of them by a separator, and changes nothing else
  split
  · intro c hc
    obtain ⟨g, hg, hcg⟩ := List.mem_flatten.1 hc
    obtain ⟨g', hg', rfl⟩ := List.mem_map.1 hg
    split at hcg
    · refine hmap c ?_
      rw [← flatten_clusters ((p.spelling t).map _)]
      exact List.mem_flatten_of_mem hg' hcg
    · obtain rfl := List.mem_singleton.1 hcg
      exact admits_of_isSeparator rfl
  · exact hmap

/-! ### Extensions -/

section Extensions

variable {t ext : Text} {c : Char}

theorem isAsciiWord_extension : ∀ word ∈ confusingExtensions,
    (word.all fun letter => isAsciiWord letter && isAsciiWord letter.toUpper) = true := by
  decide +kernel

theorem isWord_of_matchesLetter {letter : Char} (h : matchesLetter letter c = true)
    (hletter : (isAsciiWord letter && isAsciiWord letter.toUpper) = true) : isWord c = true := by
  rw [Bool.and_eq_true] at hletter
  simp only [matchesLetter, Bool.or_eq_true, Bool.and_eq_true, decide_eq_true_eq] at h
  rcases h with ((rfl | rfl) | ⟨-, rfl⟩) | ⟨-, rfl⟩
  · exact isWord_of_isAsciiWord hletter.1
  · exact isWord_of_isAsciiWord hletter.2
  · decide +kernel
  · decide +kernel

/-- An extension has letters alone. -/
theorem isWord_of_isConfusingExtension (h : isConfusingExtension ext = true) :
    ∀ c ∈ ext, isWord c = true := by
  obtain ⟨word, hword, hspells⟩ := List.any_eq_true.1 h
  have hletters := List.all_eq_true.1 (isAsciiWord_extension word hword)
  clear h hword
  induction word generalizing ext with
  | nil =>
    cases ext with
    | nil => simp
    | cons d ext => cases hspells
  | cons letter word ih =>
    cases ext with
    | nil => simp
    | cons d ext =>
      obtain ⟨hd, hrest⟩ : matchesLetter letter d = true ∧ spells word ext = true := by
        simpa [spells] using hspells
      intro c hc
      rcases List.mem_cons.1 hc with rfl | hc
      · exact isWord_of_matchesLetter hd (hletters letter List.mem_cons_self)
      · exact ih hrest (fun l hl => hletters l (List.mem_cons_of_mem _ hl)) c hc

theorem isSeparator_of_isConfusingExtension (h : isConfusingExtension ext = true) (hc : c ∈ ext) :
    isSeparator c = false := by
  rw [← Bool.not_eq_true]
  intro hsep
  have hword := isWord_of_isConfusingExtension h c hc
  rw [isWord_of_isSeparator hsep] at hword
  cases hword

theorem ne_nil_of_isConfusingExtension (h : isConfusingExtension ext = true) : ext ≠ [] := by
  rintro rfl
  exact absurd h (by decide)

/-- The text ends in an extension. -/
def Text.EndsInExtension (t : Text) : Prop :=
  ∃ stem ext, t = stem ++ '.' :: ext ∧ isConfusingExtension ext = true

/-- An extension is replaced with its point, and nothing else is. -/
theorem hideExtension_append (h : isConfusingExtension ext = true) (stem : Text) :
    hideExtension (stem ++ '.' :: ext) = stem ++ ['_'] := by
  induction stem with
  | nil => simp [hideExtension, h]
  | cons c stem ih =>
    -- the rest has a point in it, so it is no extension itself
    have hrest : isConfusingExtension (stem ++ '.' :: ext) = false := by
      rw [← Bool.not_eq_true]
      intro hext
      have := isSeparator_of_isConfusingExtension (c := '.') hext (by simp)
      cases this
    simp [hideExtension, hrest, ih]

theorem hideExtension_eq_self (h : ¬ t.EndsInExtension) : hideExtension t = t := by
  induction t with
  | nil => rfl
  | cons c t ih =>
    have hc : ¬ (c = '.' ∧ isConfusingExtension t = true) := by
      rintro ⟨rfl, hext⟩
      exact h ⟨[], t, rfl, hext⟩
    have ht : ¬ Text.EndsInExtension t := by
      rintro ⟨stem, ext, rfl, hext⟩
      exact h ⟨c :: stem, ext, rfl, hext⟩
    simp [hideExtension, hc, ih ht]

theorem mem_hideExtension (h : c ∈ hideExtension t) : c ∈ t ∨ c = '_' := by
  induction t with
  | nil => exact Or.inl h
  | cons d t ih =>
    unfold hideExtension at h
    split at h
    · exact Or.inr (List.mem_singleton.1 h)
    · rcases List.mem_cons.1 h with rfl | h
      · exact Or.inl List.mem_cons_self
      · exact (ih h).imp (List.mem_cons_of_mem d) id

/-- Either there is no extension and nothing changes, or there is one and it goes. -/
theorem hideExtension_cases (t : Text) :
    ¬ t.EndsInExtension ∧ hideExtension t = t ∨
      ∃ stem ext, t = stem ++ '.' :: ext ∧ isConfusingExtension ext = true ∧
        hideExtension t = stem ++ ['_'] := by
  by_cases h : t.EndsInExtension
  · obtain ⟨stem, ext, rfl, hext⟩ := h
    exact Or.inr ⟨stem, ext, rfl, hext, hideExtension_append hext stem⟩
  · exact Or.inl ⟨h, hideExtension_eq_self h⟩

end Extensions

/-! ### Both ends -/

section Ends

variable {t u : Text} {c : Char} {p : CharacterPolicy}

/-- A beginning of a text begins with the same character. -/
theorem mem_head?_of_isPrefix (h : u <+: t) (hc : c ∈ u.head?) : c ∈ t.head? := by
  obtain ⟨x, rfl⟩ := h
  rw [List.head?_append, Option.mem_def.1 hc]
  rfl

/-- An extension stands behind something, so hiding it does not change what leads. -/
theorem head?_hideExtension (h : ∀ c ∈ t.head?, p.leads c = true) :
    (hideExtension t).head? = t.head? := by
  cases t with
  | nil => rfl
  | cons d t =>
    have hd : d ≠ '.' := by
      rintro rfl
      exact absurd (eq_of_leads (h '.' rfl) rfl) (by decide)
    simp [hideExtension, hd]

namespace CharacterPolicy

/-- What may not lead is dropped. -/
theorem leads_led (p : CharacterPolicy) (t : Text) :
    ∀ c ∈ (t.dropWhile fun c => !p.leads c).head?, p.leads c = true := by
  intro c hc
  have h := List.head?_dropWhile_not (fun c => !p.leads c) t
  rw [Option.mem_def.1 hc] at h
  simpa using h

/-- Hiding an extension brings in no character beyond the alphabet. -/
theorem admits_hidden (p : CharacterPolicy) (t : Text) :
    ∀ c ∈ hideExtension ((p.mask t).dropWhile fun c => !p.leads c), p.admits c = true := by
  intro c hc
  rcases mem_hideExtension hc with hc | rfl
  · exact p.mask_admitted t c ((List.dropWhile_sublist _).subset hc)
  · exact admits_of_isSeparator rfl

/-- What leads is left in its place up to the last step. -/
theorem leads_trimmed (p : CharacterPolicy) (t : Text) :
    ∀ c ∈ (hideExtension ((p.mask t).dropWhile fun c => !p.leads c)).trimEnd.head?,
      p.leads c = true := by
  intro c hc
  apply leads_led p (p.mask t) c
  rw [← head?_hideExtension (leads_led p (p.mask t))]
  exact mem_head?_of_isPrefix (Text.trimEnd_isPrefix _) hc

end CharacterPolicy

end Ends

/-! ### Piecewise properties -/

/-- A property that looks at a text piece by piece between the separators: it holds of the text
before a separator and of the text behind it, and which separator it is does not matter. -/
structure IsPiecewise (P : Text → Prop) : Prop where
  separator : P ['_']
  before {u t : Text} {s : Char} (hs : isSeparator s = true) (h : P (u ++ s :: t)) : P u
  behind {u t : Text} {s : Char} (hs : isSeparator s = true) (h : P (u ++ s :: t)) : P t
  /-- What is before one separator and what is behind another may meet at a third. -/
  meet {u v w t : Text} {a b s : Char} (ha : isSeparator a = true) (hb : isSeparator b = true)
    (hs : isSeparator s = true) (hu : P (u ++ a :: v)) (ht : P (w ++ b :: t)) : P (u ++ s :: t)

namespace IsPiecewise

variable {P : Text → Prop} {p : CharacterPolicy} {t u : Text}

theorem dropLeading (hP : IsPiecewise P) (hchars : ∀ c ∈ t, p.admits c = true) (h : P t) :
    P (t.dropWhile fun c => !p.leads c) := by
  induction t with
  | nil => exact h
  | cons c t ih =>
    by_cases hc : p.leads c = true
    · simpa [hc] using h
    · have hsep := isSeparator_of_not_leads (hchars c List.mem_cons_self) (by simpa using hc)
      have hrest : P (t.dropWhile fun c => !p.leads c) :=
        ih (fun d hd => hchars d (List.mem_cons_of_mem c hd)) (hP.behind (u := []) hsep h)
      simpa [hc] using hrest

theorem hideExtension (hP : IsPiecewise P) (h : P t) : P (hideExtension t) := by
  rcases hideExtension_cases t with ⟨-, hself⟩ | ⟨stem, ext, rfl, -, hcut⟩
  · rwa [hself]
  · rw [hcut]
    exact hP.meet (w := []) rfl rfl rfl h hP.separator

theorem trimEnd (hP : IsPiecewise P) (hchars : ∀ c ∈ t, p.admits c = true) (h : P t) :
    P t.trimEnd := by
  induction t using List.reverseRecOn with
  | nil => exact h
  | append_singleton t c ih =>
    rw [Text.trimEnd_eq_rdropWhile, List.rdropWhile_concat]
    split
    · rename_i hc
      have hsep := isSeparator_of_not_isWord (hchars c (by simp)) (by simpa using hc)
      exact ih (fun d hd => hchars d (List.mem_append_left _ hd)) (hP.before hsep h)
    · exact h

/-- A run of separators leaves one of them behind, between what is on either side of it. -/
theorem collapseFrom (hP : IsPiecewise P) :
    (P (u ++ t) → P (u ++ Namesake.collapseFrom none t)) ∧
      ∀ s, isSeparator s = true → P (u ++ s :: t) → P (u ++ Namesake.collapseFrom (some s) t) := by
  induction t generalizing u with
  | nil => exact ⟨id, fun s _ h => h⟩
  | cons c t ih =>
    simp only [Namesake.collapseFrom]
    by_cases hc : isSeparator c = true
    · -- the separator begins a run, or joins the one under way, which will leave another one
      simp only [if_pos hc]
      refine ⟨ih.2 c hc, fun s hs h => ih.2 '_' rfl ?_⟩
      exact hP.meet (w := u ++ [s]) hs hc rfl h (by simpa using h)
    · -- the character goes to what is already there, and the run in front of it with it
      simp only [if_neg hc]
      refine ⟨fun h => ?_, fun s _ h => ?_⟩
      · have := (ih (u := u ++ [c])).1
        simp only [List.append_assoc, List.cons_append, List.nil_append] at this
        exact this h
      · have := (ih (u := u ++ [s, c])).1
        simp only [List.append_assoc, List.cons_append, List.nil_append] at this
        exact this h

theorem collapse (hP : IsPiecewise P) (h : P t) : P (collapse t) :=
  (hP.collapseFrom (u := [])).1 h

/-- What is piecewise true of the masked text is true of the clean one. -/
theorem clean (hP : IsPiecewise P) (h : P (p.mask t)) : P (p.clean t) := by
  have hled := hP.dropLeading (p.mask_admitted t) h
  have htrimmed := hP.trimEnd (p.admits_hidden t) (hP.hideExtension hled)
  exact hP.collapse htrimmed

end IsPiecewise

end Namesake
