import Namesake.Proofs.Name.Steps

/-!
# Names of admitted clusters

A list of admitted clusters is asked about the clusters of the masked text, and the text is changed
after that. Still a clean name has no other clusters than plain ASCII and those on the list: a list
that admits no cluster with a separator in it leaves every separator on its own, so cleaning takes
whole clusters away and puts separators in their place, and nothing joins these.

## Main definitions

* `Text.IsVetted` — every cluster of a text is plain ASCII or on the list

## Main results

* `Text.isPiecewise_isVetted` — the steps of cleaning keep a text vetted
* `CharacterPolicy.restrict_vetted` — the list makes it so
* `CharacterPolicy.sanitize_vetted` — so every clean name is vetted
-/

namespace Namesake

open Unicode

variable {allow : Text → Bool} {p : CharacterPolicy} {s t u : Text}

/-- Separators are plain characters. -/
theorem traits_of_isSeparator {s : Char} (h : isSeparator s = true) : Traits.of s = .plain := by
  rcases isSeparator_iff.1 h with rfl | rfl | rfl <;> decide +kernel

/-- An element that is always alone in its piece separates the pieces around it. -/
theorem exists_pieces {gs : List Text} {s : Char} (halone : ∀ g ∈ gs, s ∈ g → g = [s])
    (h : gs.flatten = u ++ s :: t) :
    ∃ before behind, gs = before ++ [s] :: behind ∧ before.flatten = u ∧ behind.flatten = t := by
  rcases List.flatten_eq_append_iff.1 h with
    ⟨before, rest, rfl, rfl, hrest⟩ | ⟨before, front, c, back, behind, rfl, rfl, hback⟩
  · -- a piece begins with the element
    obtain ⟨empty, back, behind, rfl, hempty, rfl⟩ := List.flatten_eq_cons_iff.1 hrest.symm
    obtain rfl : back = [] := by simpa using halone (s :: back) (by simp) (by simp)
    refine ⟨before ++ empty, behind, by simp, ?_, by simp⟩
    rw [List.flatten_append, List.flatten_eq_nil_iff.2 hempty, List.append_nil]
  · -- it is inside a piece, which cannot be
    obtain ⟨rfl, rfl⟩ : s = c ∧ t = back ++ behind.flatten := by simpa using hback
    have hpiece := halone (front ++ s :: back) (by simp) (by simp)
    obtain ⟨rfl, rfl⟩ : front = [] ∧ back = [] := by
      simpa [List.append_eq_cons_iff] using hpiece
    exact ⟨before, behind, by simp, by simp, by simp⟩

namespace Text

/-- Every cluster of the text is plain ASCII or on the list. -/
def IsVetted (allow : Text → Bool) (t : Text) : Prop :=
  ∀ g ∈ t.graphemes, CharacterPolicy.isPlainCluster g = true ∨ allow g = true

/-- A text is vetted if it can be put together from such clusters. -/
theorem isVetted_iff : IsVetted allow t ↔ ∃ gs : List Text, gs.flatten = t ∧ Segmented .start gs ∧
    ∀ g ∈ gs, CharacterPolicy.isPlainCluster g = true ∨ allow g = true := by
  constructor
  · intro h
    exact ⟨t.graphemes, flatten_clusters t, segmented_clusters t, h⟩
  · rintro ⟨gs, hflat, hsegmented, hgs⟩
    rw [IsVetted, graphemes, clusters_eq_iff.2 ⟨hflat, hsegmented⟩]
    exact hgs

/-- The list admits no cluster with a separator in it. Of other texts it may say anything. -/
def SparesSeparators (allow : Text → Bool) : Prop :=
  ∀ t : Text, ∀ g ∈ t.graphemes, ∀ c ∈ g, isSeparator c = true → allow g = false

/-- So a separator in a vetted text is a cluster of its own, and the text falls apart there. -/
theorem IsVetted.pieces (hallow : SparesSeparators allow) {s : Char} (hs : isSeparator s = true)
    (h : IsVetted allow (u ++ s :: t)) :
    ∃ before behind : List Text, before.flatten = u ∧ behind.flatten = t ∧
      Segmented .start before ∧ (Context.start.after u).joins .plain = false ∧
      Segmented .plain behind ∧
      ∀ g ∈ before ++ behind, CharacterPolicy.isPlainCluster g = true ∨ allow g = true := by
  -- a cluster with the separator in it is not on the list, so it is a single character
  have halone : ∀ g ∈ (u ++ s :: t).graphemes, s ∈ g → g = [s] := by
    intro g hg hsg
    rcases h g hg with hplain | hlisted
    · unfold CharacterPolicy.isPlainCluster at hplain
      split at hplain
      · rw [List.mem_singleton.1 hsg]
      · cases hplain
    · rw [hallow _ g hg s hsg hs] at hlisted
      cases hlisted
  obtain ⟨before, behind, hpieces, rfl, rfl⟩ := exists_pieces halone (flatten_clusters _)
  have hgs : ∀ g ∈ before ++ [s] :: behind,
      CharacterPolicy.isPlainCluster g = true ∨ allow g = true := hpieces ▸ h
  have hsegmented : Segmented .start (before ++ [s] :: behind) :=
    hpieces ▸ segmented_clusters _
  obtain ⟨hbefore, hseparator, hbehind⟩ := segmented_append.1 hsegmented
  rw [Context.after_cons, traits_of_isSeparator hs, Context.step_plain,
    Context.after_nil] at hbehind
  have hjoins := hseparator.1
  rw [traits_of_isSeparator hs] at hjoins
  refine ⟨before, behind, rfl, rfl, hbefore, hjoins, hbehind, fun g hg => hgs g ?_⟩
  rcases List.mem_append.1 hg with hg | hg
  · exact List.mem_append_left _ hg
  · exact List.mem_append_right _ (List.mem_cons_of_mem _ hg)

/-- Being vetted is a piecewise property. -/
theorem isPiecewise_isVetted (hallow : SparesSeparators allow) : IsPiecewise (IsVetted allow) where
  separator := by
    have hsingle : graphemes ['_'] = [['_']] := by decide +kernel
    intro g hg
    rw [hsingle, List.mem_singleton] at hg
    subst hg
    exact Or.inl rfl
  before := by
    intro u t s hs h
    obtain ⟨before, behind, rfl, -, hbefore, -, -, hgs⟩ := h.pieces hallow hs
    exact isVetted_iff.2 ⟨before, rfl, hbefore, fun g hg => hgs g (List.mem_append_left _ hg)⟩
  behind := by
    intro u t s hs h
    obtain ⟨before, behind, -, rfl, -, -, hbehind, hgs⟩ := h.pieces hallow hs
    exact isVetted_iff.2
      ⟨behind, rfl, hbehind.at_start, fun g hg => hgs g (List.mem_append_right _ hg)⟩
  meet := by
    intro u v w t a b s ha hb hs hu ht
    obtain ⟨before, _, rfl, -, hbefore, hjoins, -, hgs⟩ := hu.pieces hallow ha
    obtain ⟨_, behind, -, rfl, -, -, hbehind, hgs'⟩ := ht.pieces hallow hb
    refine isVetted_iff.2 ⟨before ++ [s] :: behind, by simp, ?_, fun g hg => ?_⟩
    · apply segmented_append.2
      refine ⟨hbefore, ⟨?_, trivial⟩, ?_⟩
      · rwa [traits_of_isSeparator hs]
      · rwa [Context.after_cons, traits_of_isSeparator hs, Context.step_plain, Context.after_nil]
    · rcases List.mem_append.1 hg with hg | hg
      · exact hgs g (List.mem_append_left _ hg)
      · rcases List.mem_cons.1 hg with rfl | hg
        · exact Or.inl (by simp [CharacterPolicy.isPlainCluster, hs])
        · exact hgs' g (List.mem_append_right _ hg)

end Text

namespace CharacterPolicy

theorem isInner_of_admits {c : Char} (h : p.admits c = true) :
    (Traits.of c).cls.isInner = true := by
  by_cases hc : isSeparator c = true
  · rw [traits_of_isSeparator hc]
    rfl
  · exact isInner_of_isWord (isWord_of_admits h (by simpa using hc))

/-- What is left of a text when the list has been asked about its clusters. -/
theorem restrict_vetted (hchars : ∀ c ∈ t, p.admits c = true) :
    (restrict allow t).IsVetted allow := by
  apply Text.isVetted_iff.2
  refine ⟨_, rfl, ?_, ?_⟩
  · refine (segmented_clusters t).replace (traits_of_isSeparator rfl) _
      (fun g hg c hc => ?_) (.inl rfl)
    apply isInner_of_admits (hchars c ?_)
    rw [← flatten_clusters t]
    exact List.mem_flatten_of_mem hg hc
  · intro g hg
    obtain ⟨g, -, rfl⟩ := List.mem_map.1 hg
    split
    · rename_i hlisted
      simpa using hlisted
    · exact Or.inl rfl

/-- Every cluster of a clean name is a single character of plain ASCII or on the list of admitted
clusters, if this is in force and has no cluster with a separator in it. -/
theorem sanitize_vetted (hunicode : p.unicode = true) (hlist : p.allow = some allow)
    (hspares : ∀ t : Text, ∀ g ∈ t.graphemes, ∀ c ∈ g, (c = '.' ∨ c = '_' ∨ c = '-') →
      allow g = false)
    (raw : Json) :
    ∀ g ∈ (p.sanitize raw).graphemes,
      (∃ c, g = [c] ∧ (isAsciiWord c = true ∨ c = '_' ∨ c = '.' ∨ c = '-')) ∨ allow g = true := by
  have hallow : Text.SparesSeparators allow := fun t g hg c hc hs =>
    hspares t g hg c hc (isSeparator_iff.1 hs)
  have hmask : (p.mask (rawText raw)).IsVetted allow := by
    rw [mask, allowInForce, if_pos hunicode, hlist]
    apply restrict_vetted (p := p)
    intro c hc
    obtain ⟨d, -, rfl⟩ := List.mem_map.1 hc
    split
    · assumption
    · exact admits_of_isSeparator rfl
  intro g hg
  rcases (Text.isPiecewise_isVetted hallow).clean hmask g hg with hplain | hlisted
  · refine Or.inl ?_
    unfold isPlainCluster at hplain
    split at hplain
    · rename_i c
      refine ⟨c, rfl, ?_⟩
      rw [Bool.or_eq_true, isSeparator_iff] at hplain
      rcases hplain with (h | h | h) | h <;> simp [h]
    · cases hplain
  · exact Or.inr hlisted

/-- With `ü` alone on the list an ideograph makes way for a separator, and a composed `ü` stays. -/
theorem sanitize_vetted_umlaut :
    (∀ t : Text, ∀ g ∈ t.graphemes, ∀ c ∈ g, (c = '.' ∨ c = '_' ∨ c = '-') →
        (g == ['ü']) = false) ∧
      (mk true (some (· == ['ü']))).sanitize (.str "李Ju\u0308rgen.x") = "_Jürgen.x".toList ∧
      ∀ g ∈ ((mk true (some (· == ['ü']))).sanitize (.str "李Ju\u0308rgen.x")).graphemes,
        (∃ c, g = [c] ∧ (isAsciiWord c = true ∨ c = '_' ∨ c = '.' ∨ c = '-')) ∨
          (g == ['ü']) = true := by
  have hspares : ∀ t : Text, ∀ g ∈ t.graphemes, ∀ c ∈ g, (c = '.' ∨ c = '_' ∨ c = '-') →
      (g == ['ü']) = false := by
    intro t g _ c hc hsep
    rw [beq_eq_false_iff_ne]
    rintro rfl
    obtain rfl := List.mem_singleton.1 hc
    revert hsep
    decide
  exact ⟨hspares, by decide +kernel, sanitize_vetted rfl rfl hspares _⟩

end CharacterPolicy

end Namesake
