import Mathlib.Data.List.Chain
import Namesake.Proofs.Name.Composed

/-!
# The shape of names

A clean name has only characters of the alphabet, no two separators next to each other, a first
character that may lead and a last one that is a letter, mark or number, and it is composed.
Cleaning makes this shape out of anything, and it survives all that is done to a name afterwards: it
is cut, and a numeral is put behind it.

## Main definitions

* `CharacterPolicy.Tidy` — a text has the shape of a name, unless it is empty

## Main results

* `CharacterPolicy.sanitize_tidy` — the clean form of anything is tidy
* `CharacterPolicy.sanitize_shape` — which characters it has, and where
* `CharacterPolicy.Tidy.cut` — a tidy name stays tidy when it is cut
* `CharacterPolicy.Tidy.numbered` — and when a numeral is put behind it
* `CharacterPolicy.Tidy.le_graphemeLength_cutTo` — a cut is shorter than it may be by one character
  at most
-/

namespace Namesake

open Unicode

/-! ### The shape -/

/-- The text has the shape of a name, unless it is empty. -/
structure CharacterPolicy.Tidy (p : CharacterPolicy) (t : Text) : Prop where
  admitted : ∀ c ∈ t, p.admits c = true
  apart : t.IsChain fun a b => ¬ (isSeparator a = true ∧ isSeparator b = true)
  leading : ∀ c ∈ t.head?, p.leads c = true
  ending : t.EndsInWord
  composed : IsComposed t

namespace CharacterPolicy

variable {p : CharacterPolicy} {c : Char} {s t u : Text} {pending : Option Char}

/-! ### Cleaning -/

/-- The masked text is composed in either alphabet: that of ASCII has nothing to join. -/
theorem mask_composed (p : CharacterPolicy) (t : Text) : IsComposed (p.mask t) := by
  by_cases hp : p.unicode = true
  · exact wideMask_composed hp t
  · refine .of_low fun c hc => ?_
    have hadmits := mask_admitted p t c hc
    rw [admits, if_neg hp, Bool.or_eq_true] at hadmits
    rcases hadmits with hsep | hword
    · exact (isApart_of_isSeparator hsep).1
    · exact (toNat_lt_of_isAsciiWord hword).trans (by decide)

theorem mem_collapseFrom (h : c ∈ collapseFrom pending t) : c ∈ pending ∨ c ∈ t ∨ c = '_' := by
  induction t generalizing pending with
  | nil => exact Or.inl (Option.mem_toList.1 h)
  | cons d t ih =>
    unfold collapseFrom at h
    split at h
    · rcases ih h with hc | hc | hc
      · obtain rfl := Option.some.inj hc
        split
        · exact Or.inr (Or.inr rfl)
        · exact Or.inr (Or.inl List.mem_cons_self)
      · exact Or.inr (Or.inl (List.mem_cons_of_mem d hc))
      · exact Or.inr (Or.inr hc)
    · rcases List.mem_append.1 h with hc | hc
      · exact Or.inl (Option.mem_toList.1 hc)
      · rcases List.mem_cons.1 hc with rfl | hc
        · exact Or.inr (Or.inl List.mem_cons_self)
        · rcases ih hc with hc | hc | hc
          · cases hc
          · exact Or.inr (Or.inl (List.mem_cons_of_mem d hc))
          · exact Or.inr (Or.inr hc)

/-- No two separators are left next to each other. -/
theorem isChain_collapseFrom (pending : Option Char) (t : Text) :
    (collapseFrom pending t).IsChain fun a b =>
      ¬ (isSeparator a = true ∧ isSeparator b = true) := by
  induction t generalizing pending with
  | nil => cases pending <;> simp [collapseFrom]
  | cons d t ih =>
    unfold collapseFrom
    split
    · -- a separator waits for the end of its run
      exact ih _
    · rename_i hd
      have hrest := (ih none).cons (x := d) fun y _ h => hd h.1
      cases pending with
      | none => exact hrest
      | some s =>
        refine hrest.cons fun y hy h => ?_
        obtain rfl := Option.some.inj hy
        exact hd h.2

/-- What leads is left in its place, or it becomes `_` together with what follows. -/
theorem leading_collapseFrom (hpending : ∀ s ∈ pending, s = '_' ∧ p.leads '_' = true)
    (h : pending = none → ∀ c ∈ t.head?, p.leads c = true) :
    ∀ c ∈ (collapseFrom pending t).head?, p.leads c = true := by
  induction t generalizing pending with
  | nil =>
    intro c hc
    cases pending with
    | none => cases hc
    | some s =>
      obtain ⟨rfl, hleads⟩ := hpending s rfl
      obtain rfl := Option.some.inj hc
      exact hleads
  | cons d t ih =>
    unfold collapseFrom
    split
    · rename_i hd
      refine ih (fun s hs => ?_) (fun hnone => by cases hnone)
      obtain rfl := Option.some.inj hs
      cases pending with
      | none =>
        have hleads := h rfl d rfl
        obtain rfl := eq_of_leads hleads hd
        exact ⟨rfl, hleads⟩
      | some s => exact ⟨rfl, (hpending s rfl).2⟩
    · intro c hc
      cases pending with
      | none =>
        obtain rfl := Option.some.inj hc
        exact h rfl d rfl
      | some s =>
        obtain ⟨rfl, hleads⟩ := hpending s rfl
        obtain rfl := Option.some.inj hc
        exact hleads

theorem endsInWord_cons (hc : isWord c = true) (h : t.EndsInWord) : Text.EndsInWord (c :: t) := by
  cases t with
  | nil =>
    intro d hd
    obtain rfl := Option.some.inj hd
    exact hc
  | cons d t =>
    intro e he
    rw [List.getLast?_cons_cons] at he
    exact h e he

theorem endsInWord_of_cons (h : Text.EndsInWord (c :: t)) : t.EndsInWord := by
  cases t with
  | nil =>
    intro d hd
    cases hd
  | cons d t =>
    intro e he
    refine h e ?_
    rwa [List.getLast?_cons_cons]

/-- What ends a name is no separator, so joining separators does not change it. -/
theorem endsInWord_collapseFrom (hchars : ∀ c ∈ t, p.admits c = true) (hlast : t.EndsInWord)
    (hpending : t = [] → pending = none) : (collapseFrom pending t).EndsInWord := by
  induction t generalizing pending with
  | nil =>
    rw [hpending rfl]
    exact hlast
  | cons d t ih =>
    have hchars' : ∀ c ∈ t, p.admits c = true := fun c hc => hchars c (List.mem_cons_of_mem d hc)
    have hlast' := endsInWord_of_cons hlast
    unfold collapseFrom
    split
    · rename_i hd
      refine ih hchars' hlast' fun hnil => ?_
      -- a separator does not end the text, so something follows it
      subst hnil
      have hword := hlast d rfl
      rw [isWord_of_isSeparator hd] at hword
      cases hword
    · rename_i hd
      rw [Bool.not_eq_true] at hd
      have hrest : Text.EndsInWord (d :: collapseFrom none t) :=
        endsInWord_cons (isWord_of_admits (hchars d List.mem_cons_self) hd)
          (ih hchars' hlast' fun _ => rfl)
      intro e he
      rw [List.getLast?_append_of_ne_nil _ (List.cons_ne_nil _ _)] at he
      exact hrest e he

/-- The clean form of a text is tidy. -/
theorem clean_tidy (p : CharacterPolicy) (t : Text) : p.Tidy (p.clean t) where
  admitted := by
    intro c hc
    rcases mem_collapseFrom hc with h | h | rfl
    · cases h
    · exact admits_hidden p t c ((Text.trimEnd_isPrefix _).subset h)
    · exact admits_of_isSeparator rfl
  apart := isChain_collapseFrom none _
  leading := leading_collapseFrom (fun s hs => by cases hs) fun _ => leads_trimmed p t
  ending := by
    have hchars : ∀ c ∈ Text.trimEnd _, p.admits c = true := fun c hc =>
      admits_hidden p t c ((Text.trimEnd_isPrefix _).subset hc)
    exact endsInWord_collapseFrom hchars (Text.trimEnd_endsInWord _) fun _ => rfl
  composed := IsComposed.isPiecewise.clean (mask_composed p t)

/-- The clean form of anything is tidy. -/
theorem sanitize_tidy (p : CharacterPolicy) (raw : Json) : p.Tidy (p.sanitize raw) :=
  clean_tidy p _

/-- What becomes of a raw name, character class by character class: nothing, or a text of letters,
marks, numbers and lone separators that ends in no separator and begins with none but `_`. The
narrow alphabet has the letters and numbers of ASCII alone, and there no separator leads. -/
theorem sanitize_shape (p : CharacterPolicy) (raw : Json) :
    p.sanitize raw = [] ∨
      (∀ c ∈ p.sanitize raw, c = '.' ∨ c = '_' ∨ c = '-' ∨
        if p.unicode then isLetter c ∨ isMark c ∨ isNumber c else isAsciiWord c) ∧
      (∀ before a b behind, p.sanitize raw = before ++ a :: b :: behind →
        ¬ (isSeparator a ∧ isSeparator b)) ∧
      (∃ c rest, p.sanitize raw = c :: rest ∧
        if p.unicode then c = '_' ∨ isLetter c ∨ isMark c ∨ isNumber c else isAsciiWord c) ∧
      ∃ body c, p.sanitize raw = body ++ [c] ∧ (isLetter c ∨ isMark c ∨ isNumber c) := by
  have htidy := p.sanitize_tidy raw
  generalize p.sanitize raw = t at htidy ⊢
  rcases t.eq_nil_or_concat with hnil | ⟨body, last, hlast⟩
  · exact Or.inl hnil
  rw [List.concat_eq_append] at hlast
  refine Or.inr ⟨fun c hc => ?_, fun before a b behind ht => ?_, ?_, body, last, hlast, ?_⟩
  · exact admits_iff.1 (htidy.admitted c hc)
  · have hpair : (before ++ a :: b :: behind).IsChain _ := ht ▸ htidy.apart
    exact (List.isChain_cons_cons.1 hpair.right_of_append).1
  · have hne : t ≠ [] := hlast ▸ List.concat_ne_nil last body
    obtain ⟨c, rest, rfl⟩ := List.exists_cons_of_ne_nil hne
    exact ⟨c, rest, rfl, leads_iff.1 (htidy.leading c rfl)⟩
  · refine isWord_iff.1 (htidy.ending last ?_)
    rw [hlast]
    exact List.getLast?_concat

/-! ### Cutting -/

theorem Tidy.of_prefix (h : p.Tidy t) (hu : u <+: t) (hending : u.EndsInWord) : p.Tidy u where
  admitted := fun c hc => h.admitted c (hu.subset hc)
  apart := h.apart.prefix hu
  leading := fun c hc => h.leading c (mem_head?_of_isPrefix hu hc)
  ending := hending
  composed := h.composed.of_infix hu.isInfix

/-- A tidy name stays tidy when it is cut. -/
theorem Tidy.cut (h : p.Tidy t) (hu : u.IsCutOf t) : p.Tidy u :=
  h.of_prefix hu.isPrefix (hu.endsInWord h.ending)

/-- So it does when it is cut at a limit of any sort. -/
theorem Tidy.cutAt (h : p.Tidy t) {limit : Limit} (hu : limit.cut t = .ok u) : p.Tidy u :=
  h.of_prefix (Limit.cut_spec hu).1 ((Limit.cut_spec hu).2 h.ending)

/-- No two separators of a tidy name stand together. So one cluster at most is trimmed from a cut.
-/
theorem Tidy.le_graphemeLength_cutTo (h : p.Tidy t) {n : Int} (hn : n < (t.graphemeLength : Int)) :
    n ≤ (t.cutTo n).graphemeLength + 1 := by
  obtain ⟨x, hx, htrimmed⟩ := Text.exists_trimmed (t.truncate n)
  have hbegin : (t.truncate n).trimEnd ++ x <+: t := hx ▸ Text.truncate_isPrefix t n
  have hsep : ∀ c ∈ x, isSeparator c = true := by
    intro c hc
    by_contra hsep
    have hword := isWord_of_admits (h.admitted c (hbegin.subset (List.mem_append_right _ hc)))
      (by simpa using hsep)
    rw [htrimmed c hc] at hword
    cases hword
  have hsingle : x.length ≤ 1 := by
    cases x with
    | nil => exact Nat.zero_le 1
    | cons a x =>
      cases x with
      | nil => exact Nat.le_refl 1
      | cons b x =>
        have hchain := h.apart.prefix hbegin
        have hpair := (List.isChain_cons_cons.1 hchain.right_of_append).1
        exact absurd ⟨hsep a (by simp), hsep b (by simp)⟩ hpair
  have hcut := (Text.graphemes_truncate t n).2.2.2.2.2
  have happend := Text.graphemeLength_append_le (t.truncate n).trimEnd x
  rw [← hx] at happend
  rw [Text.cutTo_of_lt hn]
  omega

/-- So something is left of a tidy name wherever two characters may be kept. -/
theorem Tidy.cutTo_ne_nil (h : p.Tidy t) (ht : t ≠ []) {n : Int} (hn : 2 ≤ n) : t.cutTo n ≠ [] := by
  by_cases hlen : (t.graphemeLength : Int) ≤ n
  · rwa [Text.cutTo_of_le hlen]
  · intro hnil
    have hle := h.le_graphemeLength_cutTo (Int.not_le.1 hlen)
    rw [hnil, show Text.graphemeLength [] = 0 from rfl] at hle
    omega

/-! ### Words of ASCII letters and digits -/

/-- A word of ASCII letters and digits is tidy in every alphabet. -/
theorem tidy_of_isAsciiWord (h : ∀ c ∈ t, isAsciiWord c = true) : p.Tidy t where
  admitted := fun c hc => admits_of_isAsciiWord (h c hc)
  apart := by
    refine List.Pairwise.isChain (List.pairwise_of_forall_mem_list fun a ha _ _ hab => ?_)
    have := isWord_of_isAsciiWord (h a ha)
    rw [isWord_of_isSeparator hab.1] at this
    cases this
  leading := fun c hc => leads_of_isAsciiWord (h c (List.mem_of_mem_head? hc))
  ending := fun c hc => isWord_of_isAsciiWord (h c (List.mem_of_mem_getLast? hc))
  composed := .of_low fun c hc => (toNat_lt_of_isAsciiWord (h c hc)).trans (by decide)

theorem isAsciiWord_of_isDigit (h : c.isDigit = true) : isAsciiWord c = true := by
  simp only [Char.isDigit, Bool.and_eq_true, decide_eq_true_eq] at h
  simp only [isAsciiWord, Bool.or_eq_true, Bool.and_eq_true, decide_eq_true_eq]
  exact Or.inr h

/-- A tidy name stays tidy when a tidy word is put behind it, after the separator of suffixes. -/
theorem Tidy.append (h : p.Tidy t) (ht : t ≠ []) (hu : p.Tidy u)
    (hword : ∀ c ∈ u.head?, isWord c = true) (hne : u ≠ []) : p.Tidy (t ++ '_' :: u) where
  admitted := by
    intro c hc
    rcases List.mem_append.1 hc with hc | hc
    · exact h.admitted c hc
    · rcases List.mem_cons.1 hc with rfl | hc
      · exact admits_of_isSeparator rfl
      · exact hu.admitted c hc
  apart := by
    refine h.apart.append (hu.apart.cons fun y hy hab => ?_) fun x hx y _ hab => ?_
    · have := hword y hy
      rw [isWord_of_isSeparator hab.2] at this
      cases this
    · have := h.ending x hx
      rw [isWord_of_isSeparator hab.1] at this
      cases this
  leading := by
    rw [List.head?_append_of_ne_nil _ ht]
    exact h.leading
  ending := by
    intro c hc
    refine hu.ending c ?_
    rwa [List.getLast?_append_of_ne_nil _ (List.cons_ne_nil _ _),
      show '_' :: u = ['_'] ++ u from rfl, List.getLast?_append_of_ne_nil _ hne] at hc
  composed := h.composed.between (isApart_of_isSeparator rfl) hu.composed

/-- A tidy name stays tidy when a numeral is put behind it. -/
theorem Tidy.numbered (h : p.Tidy t) (ht : t ≠ []) (n : Nat) :
    p.Tidy (t ++ '_' :: Nat.toDigits 10 n) := by
  have hdigit : ∀ c ∈ Nat.toDigits 10 n, isAsciiWord c = true := fun c hc =>
    isAsciiWord_of_isDigit (Nat.isDigit_of_mem_toDigits (by decide) (by decide) hc)
  refine h.append ht (tidy_of_isAsciiWord hdigit) (fun c hc => ?_) Nat.toDigits_ne_nil
  exact isWord_of_isAsciiWord (hdigit c (List.mem_of_mem_head? hc))

end CharacterPolicy

end Namesake
