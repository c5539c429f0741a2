import Namesake.Proofs.Name.Shape

/-!
# What cleaning leaves alone

A text that has the shape of a name already, and ends in no extension, is left as it is. No other
text is: no step makes a text longer, so what one step takes away the next one cannot put back.

An extension is looked for once, and after that the end of the text is taken away. So a clean name
may end in an extension after all: the one that stood in front of what was taken away.

## Main definitions

* `Text.EndsBehindPoint` — a point behind a letter, and how the text ends behind it
* `IsShed` — what is taken away at the end of a text
* `CharacterPolicy.IsClean` — the rules for clean names

## Main results

* `CharacterPolicy.sanitize_eq_self_iff` — which names cleaning leaves alone
* `CharacterPolicy.sanitize_endsInExtension_iff` — which clean names end in an extension
-/

namespace Namesake

open Unicode

variable {p : CharacterPolicy} {c : Char} {t u ext tail : Text} {pending : Option Char}

/-! ### Runs of separators -/

theorem length_collapseFrom_le (pending : Option Char) (t : Text) :
    (collapseFrom pending t).length ≤ pending.toList.length + t.length := by
  induction t generalizing pending with
  | nil => simp [collapseFrom]
  | cons c t ih =>
    unfold collapseFrom
    split
    · have hrest := ih (some (if pending.isSome then '_' else c))
      simp at hrest ⊢
      omega
    · have hrest := ih none
      simp at hrest ⊢
      omega

/-- Single separators stay, so where there are no others nothing changes. -/
theorem collapseFrom_of_apart (hpending : ∀ s ∈ pending, isSeparator s = true)
    (h : (pending.toList ++ t).IsChain fun a b => ¬ (isSeparator a = true ∧ isSeparator b = true)) :
    collapseFrom pending t = pending.toList ++ t := by
  induction t generalizing pending with
  | nil => simp [collapseFrom]
  | cons c t ih =>
    unfold collapseFrom
    split
    · rename_i hc
      cases pending with
      | none => simpa using @ih (some c) (by simpa using hc) (by simpa using h)
      | some s => exact absurd ⟨hpending s rfl, hc⟩ (List.isChain_cons_cons.1 h).1
    · have htail : (c :: t).IsChain _ := h.right_of_append
      rw [@ih none (by simp) (by simpa using htail.tail)]
      rfl

theorem collapse_of_apart
    (h : t.IsChain fun a b => ¬ (isSeparator a = true ∧ isSeparator b = true)) : collapse t = t :=
  collapseFrom_of_apart (by simp) h

/-- A letter ends whatever run is under way. -/
theorem collapseFrom_append (hc : isSeparator c = false) (t u : Text) :
    collapseFrom pending (t ++ c :: u) = collapseFrom pending t ++ c :: collapse u := by
  induction t generalizing pending with
  | nil => simp [collapseFrom, hc, collapse]
  | cons d t ih =>
    rw [List.cons_append, collapseFrom, collapseFrom]
    split
    · exact ih
    · simp [ih]

/-- A run of separators leaves something behind. -/
theorem exists_separator_of_pending {s : Char} (hs : isSeparator s = true) (t : Text) :
    ∃ c ∈ collapseFrom (some s) t, isSeparator c = true := by
  induction t generalizing s with
  | nil => exact ⟨s, by simp [collapseFrom], hs⟩
  | cons c t ih =>
    unfold collapseFrom
    split
    · exact ih (s := '_') rfl
    · exact ⟨s, by simp, hs⟩

/-- Where no separator is left there was none. -/
theorem collapse_eq_self_of_words (h : ∀ c ∈ collapse t, isSeparator c = false) :
    collapse t = t := by
  induction t with
  | nil => rfl
  | cons c t ih =>
    unfold collapse collapseFrom at h ⊢
    by_cases hc : isSeparator c = true
    · rw [if_pos hc] at h
      obtain ⟨d, hd, hsep⟩ := exists_separator_of_pending hc t
      rw [h d hd] at hsep
      cases hsep
    · rw [if_neg hc] at h ⊢
      have := ih fun d hd => h d (List.mem_cons_of_mem c hd)
      rw [Option.toList_none, List.nil_append]
      exact congrArg (c :: ·) this

/-! ### Points -/

/-- The text has a point behind a letter, and `rest` behind that. -/
def Text.EndsBehindPoint (t rest : Text) : Prop :=
  ∃ stem c, isSeparator c = false ∧ t = stem ++ c :: '.' :: rest

/-- A single point in the joined text was a single point. It may be the one that is under way. -/
theorem of_collapseFrom_eq {stem : Text} (hext : ∀ c ∈ ext, isSeparator c = false)
    (h : collapseFrom pending t = stem ++ '.' :: ext) :
    t.EndsBehindPoint ext ∨ pending.toList ++ t = '.' :: ext := by
  induction t generalizing pending stem with
  | nil =>
    right
    cases pending with
    | none => simp [collapseFrom] at h
    | some s =>
      cases stem with
      | nil => simpa [collapseFrom] using h
      | cons d stem => simp [collapseFrom] at h
  | cons c t ih =>
    unfold collapseFrom at h
    by_cases hc : isSeparator c = true
    · rw [if_pos hc] at h
      rcases ih h with ⟨stem, d, hd, rfl⟩ | hpoint
      · exact Or.inl ⟨c :: stem, d, hd, rfl⟩
      · right
        cases pending with
        | none => simpa using hpoint
        | some s => simp at hpoint
    · rw [if_neg hc] at h
      -- the point is behind the letter, unless the letter begins the extension
      have hbehind : ∀ stem, c :: collapse t = stem ++ '.' :: ext →
          Text.EndsBehindPoint (c :: t) ext := by
        intro stem hstem
        cases stem with
        | nil =>
          obtain ⟨rfl, -⟩ : c = '.' ∧ collapse t = ext := by simpa using hstem
          exact absurd rfl hc
        | cons d stem =>
          obtain ⟨rfl, hrest⟩ : c = d ∧ collapse t = stem ++ '.' :: ext := by simpa using hstem
          rcases ih hrest with ⟨stem, d, hd, rfl⟩ | hpoint
          · exact ⟨c :: stem, d, hd, rfl⟩
          · exact ⟨[], c, by simpa using hc, by simpa using hpoint⟩
      cases pending with
      | none => exact Or.inl (hbehind stem h)
      | some s =>
        cases stem with
        | nil =>
          obtain ⟨rfl, rfl⟩ : s = '.' ∧ c :: collapse t = ext := by simpa [collapse] using h
          have hwords : collapse t = t :=
            collapse_eq_self_of_words fun d hd => hext d (List.mem_cons_of_mem c hd)
          rw [hwords]
          exact Or.inr rfl
        | cons d stem =>
          obtain ⟨-, hrest⟩ : s = d ∧ c :: collapse t = stem ++ '.' :: ext := by
            simpa [collapse] using h
          exact Or.inl (hbehind stem hrest)

theorem Text.EndsBehindPoint.endsInExtension (h : t.EndsBehindPoint ext)
    (hext : isConfusingExtension ext = true) : t.EndsInExtension := by
  obtain ⟨stem, c, -, rfl⟩ := h
  exact ⟨stem ++ [c], ext, by simp, hext⟩

/-- A joined text ends in an extension exactly if the text had it behind a single point. -/
theorem endsInExtension_collapse_iff (hlead : ∀ c ∈ t.head?, p.leads c = true) :
    (collapse t).EndsInExtension ↔
      ∃ ext, isConfusingExtension ext = true ∧ t.EndsBehindPoint ext := by
  constructor
  · rintro ⟨stem, ext, heq, hext⟩
    have hwords : ∀ c ∈ ext, isSeparator c = false := fun c hc =>
      isSeparator_of_isConfusingExtension hext hc
    rcases of_collapseFrom_eq hwords heq with hpoint | hpoint
    · exact ⟨ext, hext, hpoint⟩
    · -- then the point leads the text, and it may not
      rw [Option.toList_none, List.nil_append] at hpoint
      have := eq_of_leads (hlead '.' (by rw [hpoint]; rfl)) rfl
      cases this
  · rintro ⟨ext, hext, stem, c, hc, rfl⟩
    have hpoint : collapse ('.' :: ext) = '.' :: ext := by
      apply collapse_of_apart
      apply List.Pairwise.isChain
      refine List.pairwise_cons.2
        ⟨fun d hd h => ?_, List.pairwise_of_forall_mem_list fun d hd _ _ h => ?_⟩
      · rw [isSeparator_of_isConfusingExtension hext hd] at h
        cases h.2
      · rw [isSeparator_of_isConfusingExtension hext hd] at h
        cases h.1
    rw [collapse, collapseFrom_append hc, hpoint]
    exact ⟨collapse stem ++ [c], ext, by simp [collapse], hext⟩

/-! ### The end of a text -/

theorem Text.EndsInExtension.endsInWord (h : t.EndsInExtension) : t.EndsInWord := by
  obtain ⟨stem, ext, rfl, hext⟩ := h
  intro c hc
  rw [List.append_cons,
    List.getLast?_append_of_ne_nil _ (ne_nil_of_isConfusingExtension hext)] at hc
  exact isWord_of_isConfusingExtension hext c (List.mem_of_mem_getLast? hc)

/-- A text that ends in a separator ends in no extension. -/
theorem not_endsInExtension_concat {s : Char} (hs : isSeparator s = true) (t : Text) :
    ¬ Text.EndsInExtension (t ++ [s]) := by
  intro h
  have := h.endsInWord s List.getLast?_concat
  rw [isWord_of_isSeparator hs] at this
  cases this

/-- What is trimmed behind an extension is a run of separators. -/
theorem endsBehindPoint_trimEnd_iff (hchars : ∀ c ∈ t, p.admits c = true)
    (hext : isConfusingExtension ext = true) :
    t.trimEnd.EndsBehindPoint ext ↔
      ∃ seps, (∀ c ∈ seps, isSeparator c = true) ∧ t.EndsBehindPoint (ext ++ seps) := by
  constructor
  · rintro ⟨stem, c, hc, heq⟩
    obtain ⟨seps, ht, hseps⟩ := Text.exists_trimmed t
    refine ⟨seps, fun d hd => ?_, stem, c, hc, ?_⟩
    · apply isSeparator_of_not_isWord (hchars d ?_) (hseps d hd)
      rw [ht]
      exact List.mem_append_right _ hd
    · rw [heq] at ht
      simpa using ht
  · rintro ⟨seps, hseps, stem, c, hc, rfl⟩
    have hpoint : Text.EndsBehindPoint (stem ++ c :: '.' :: ext) ext := ⟨stem, c, hc, rfl⟩
    have htrim := Text.trimEnd_append (fun d hd => isWord_of_isSeparator (hseps d hd))
      (stem ++ c :: '.' :: ext)
    rw [Text.trimEnd_eq_self (hpoint.endsInExtension hext).endsInWord] at htrim
    rw [show stem ++ c :: '.' :: (ext ++ seps) = stem ++ c :: '.' :: ext ++ seps by simp, htrim]
    exact hpoint

/-- What is taken away at the end of a text: separators, and an extension behind them, or at least
one of the two. -/
def IsShed (tail : Text) : Prop :=
  ∃ seps, (∀ c ∈ seps, isSeparator c = true) ∧
    (tail = seps ∧ seps ≠ [] ∨ ∃ ext, isConfusingExtension ext = true ∧ tail = seps ++ '.' :: ext)

/-- A point that is still there when an extension has been hidden was there before, and something is
to be taken away behind it. -/
theorem exists_shed_of_hideExtension (hext : isConfusingExtension ext = true) {seps : Text}
    (hseps : ∀ c ∈ seps, isSeparator c = true)
    (h : (hideExtension t).EndsBehindPoint (ext ++ seps)) :
    ∃ tail, IsShed tail ∧ t.EndsBehindPoint (ext ++ tail) := by
  rcases hideExtension_cases t with ⟨hnone, hself⟩ | ⟨front, last, rfl, hlast, hcut⟩
  · rw [hself] at h
    refine ⟨seps, ⟨seps, hseps, Or.inl ⟨rfl, ?_⟩⟩, h⟩
    rintro rfl
    rw [List.append_nil] at h
    exact hnone (h.endsInExtension hext)
  · -- the separator that stands for the hidden extension is the last one
    rw [hcut] at h
    rcases seps.eq_nil_or_concat with rfl | ⟨seps, s, rfl⟩
    · rw [List.append_nil] at h
      exact absurd (h.endsInExtension hext) (not_endsInExtension_concat rfl front)
    · rw [List.concat_eq_append] at hseps h
      obtain ⟨stem, c, hc, heq⟩ := h
      have heq : front ++ ['_'] = stem ++ c :: '.' :: (ext ++ seps) ++ [s] := by simpa using heq
      obtain ⟨rfl, -⟩ := List.append_inj' heq rfl
      refine ⟨seps ++ '.' :: last, ⟨seps, fun d hd => hseps d (by simp [hd]), Or.inr ?_⟩, ?_⟩
      · exact ⟨last, hlast, rfl⟩
      · exact ⟨stem, c, hc, by simp⟩

/-- And with something to be taken away behind it the point stays when an extension is hidden. -/
theorem hideExtension_of_shed (hshed : IsShed tail) (h : t.EndsBehindPoint (ext ++ tail)) :
    ∃ seps, (∀ c ∈ seps, isSeparator c = true) ∧
      (hideExtension t).EndsBehindPoint (ext ++ seps) := by
  obtain ⟨seps, hseps, htail⟩ := hshed
  obtain ⟨stem, c, hc, rfl⟩ := h
  rcases htail with ⟨rfl, hne⟩ | ⟨last, hlast, rfl⟩
  · -- the text ends in a separator, so no extension is hidden
    rcases tail.eq_nil_or_concat with rfl | ⟨tail, s, rfl⟩
    · exact absurd rfl hne
    · rw [List.concat_eq_append] at hseps ⊢
      have hnone :=
        not_endsInExtension_concat (hseps s (by simp)) (stem ++ c :: '.' :: (ext ++ tail))
      refine ⟨tail ++ [s], hseps, stem, c, hc, ?_⟩
      simpa using hideExtension_eq_self hnone
  · refine ⟨seps ++ ['_'], fun d hd => ?_, stem, c, hc, ?_⟩
    · rcases List.mem_append.1 hd with hd | hd
      · exact hseps d hd
      · rw [List.mem_singleton.1 hd]
        rfl
    · simpa using hideExtension_append hlast (stem ++ c :: '.' :: (ext ++ seps))

/-! ### Clean names -/

namespace CharacterPolicy

/-- Nothing is dropped behind a character that may lead. -/
theorem endsBehindPoint_dropWhile_iff (hchars : ∀ c ∈ t, p.admits c = true) :
    Text.EndsBehindPoint (t.dropWhile fun c => !p.leads c) tail ↔ t.EndsBehindPoint tail := by
  constructor
  · rintro ⟨stem, c, hc, heq⟩
    refine ⟨t.takeWhile (fun c => !p.leads c) ++ stem, c, hc, ?_⟩
    conv_lhs => rw [← List.takeWhile_append_dropWhile (p := fun c => !p.leads c) (l := t), heq]
    rw [List.append_assoc]
  · rintro ⟨stem, c, hc, rfl⟩
    have hlead : p.leads c = true := leads_of_admits (hchars c (by simp)) hc
    rw [List.dropWhile_append]
    split
    · exact ⟨[], c, hc, by simp [hlead]⟩
    · exact ⟨_, c, hc, rfl⟩

/-- A clean name ends in an extension exactly if this stood behind a letter and something else
behind it was taken away at the end: separators, or a second extension. -/
theorem sanitize_endsInExtension_iff (p : CharacterPolicy) (raw : Json) :
    (p.sanitize raw).EndsInExtension ↔
      ∃ stem c ext tail, p.mask (rawText raw) = stem ++ c :: '.' :: (ext ++ tail) ∧
        isSeparator c = false ∧ isConfusingExtension ext = true ∧ IsShed tail := by
  have htrimmed := p.leads_trimmed (rawText raw)
  rw [sanitize, clean, endsInExtension_collapse_iff htrimmed]
  constructor
  · rintro ⟨ext, hext, hpoint⟩
    obtain ⟨seps, hseps, hpoint⟩ := (endsBehindPoint_trimEnd_iff (p.admits_hidden _) hext).1 hpoint
    obtain ⟨tail, hshed, hpoint⟩ := exists_shed_of_hideExtension hext hseps hpoint
    obtain ⟨stem, c, hc, hmask⟩ := (endsBehindPoint_dropWhile_iff (p.mask_admitted _)).1 hpoint
    exact ⟨stem, c, ext, tail, hmask, hc, hext, hshed⟩
  · rintro ⟨stem, c, ext, tail, hmask, hc, hext, hshed⟩
    have hpoint := (endsBehindPoint_dropWhile_iff (p.mask_admitted _)).2 ⟨stem, c, hc, hmask⟩
    have hhidden := hideExtension_of_shed hshed hpoint
    exact ⟨ext, hext, (endsBehindPoint_trimEnd_iff (p.admits_hidden _) hext).2 hhidden⟩

/-- Cleaning looks for an extension before it takes away what ends the name, so it bares the one in
front of a mark. -/
theorem sanitize_bares_extension :
    (mk true none).sanitize (.str "avatar.png!") = "avatar.png".toList ∧
      ((mk true none).sanitize (.str "avatar.png!")).EndsInExtension := by
  have hclean : (mk true none).sanitize (.str "avatar.png!") = "avatar.png".toList := by
    decide +kernel
  refine ⟨hclean, "avatar".toList, "png".toList, ?_, by decide +kernel⟩
  rw [hclean]
  rfl

/-! ### Names that stay -/

/-- Without a list of admitted clusters a text that is spelled in the alphabet is not masked. -/
theorem mask_eq_self (hlist : p.allowInForce = none) (hspelling : p.spelling t = t)
    (hchars : ∀ c ∈ t, p.admits c = true) : p.mask t = t := by
  rw [mask, hspelling, hlist]
  dsimp only
  conv_rhs => rw [← List.map_id t]
  apply List.map_congr_left
  intro c hc
  rw [if_pos (hchars c hc), id]

theorem dropWhile_eq_self_of_leads (hlead : ∀ c ∈ t.head?, p.leads c = true) :
    (t.dropWhile fun c => !p.leads c) = t := by
  cases t with
  | nil => rfl
  | cons c t => simp [hlead c rfl]

/-- A text that has the shape of a name and ends in no extension is left as it is. -/
theorem clean_eq_self (hmask : p.mask t = t)
    (hapart : t.IsChain fun a b => ¬ (isSeparator a = true ∧ isSeparator b = true))
    (hlead : ∀ c ∈ t.head?, p.leads c = true) (hlast : t.EndsInWord)
    (hext : ¬ t.EndsInExtension) : p.clean t = t := by
  rw [clean, hmask, dropWhile_eq_self_of_leads hlead, hideExtension_eq_self hext,
    Text.trimEnd_eq_self hlast, collapse_of_apart hapart]

/-- A text that ends in an extension becomes shorter, for no step puts anything in. -/
theorem not_endsInExtension_of_clean_eq (hmask : p.mask t = t) (h : p.clean t = t) :
    ¬ t.EndsInExtension := by
  rintro ⟨stem, ext, rfl, hext⟩
  have hlead : ∀ c ∈ (stem ++ '.' :: ext).head?, p.leads c = true := h ▸ (p.clean_tidy _).leading
  have hclean : p.clean (stem ++ '.' :: ext) = collapse (Text.trimEnd (stem ++ ['_'])) := by
    rw [clean, hmask, dropWhile_eq_self_of_leads hlead, hideExtension_append hext]
  have hcollapse := length_collapseFrom_le none (Text.trimEnd (stem ++ ['_']))
  have htrim := (Text.trimEnd_isPrefix (stem ++ ['_'])).length_le
  have hne := List.length_pos_iff.2 (ne_nil_of_isConfusingExtension hext)
  have hlength := congrArg List.length (h.symm.trans hclean)
  simp only [collapse, List.length_append, List.length_cons, List.length_nil,
    Option.toList_none] at hcollapse htrim hlength
  omega

/-- The text is a clean name. -/
structure IsClean (p : CharacterPolicy) (t : Text) : Prop where
  /-- It has only characters of the alphabet. -/
  alphabet : ∀ c ∈ t, c = '.' ∨ c = '_' ∨ c = '-' ∨
    if p.unicode then isLetter c ∨ isMark c ∨ isNumber c else isAsciiWord c
  /-- No two separators stand next to each other. -/
  apart : ∀ before a b behind, t = before ++ a :: b :: behind → ¬ (isSeparator a ∧ isSeparator b)
  /-- It begins with a letter, mark or number, or with `_` in the wide alphabet. -/
  first : ∃ c rest, t = c :: rest ∧
    if p.unicode then c = '_' ∨ isLetter c ∨ isMark c ∨ isNumber c else isAsciiWord c
  /-- It ends in a letter, mark or number. -/
  last : ∃ body c, t = body ++ [c] ∧ (isLetter c ∨ isMark c ∨ isNumber c)
  /-- It does not look like the name of a file. -/
  noExtension : ¬ t.EndsInExtension

theorem Tidy.isClean (h : p.Tidy t) (hne : t ≠ []) (hext : ¬ t.EndsInExtension) : p.IsClean t where
  alphabet := fun c hc => admits_iff.1 (h.admitted c hc)
  apart := fun _ _ _ _ ht => List.isChain_iff_forall_rel_of_append_cons_cons.1 h.apart ht
  first := by
    obtain ⟨c, rest, rfl⟩ := List.exists_cons_of_ne_nil hne
    exact ⟨c, rest, rfl, leads_iff.1 (h.leading c rfl)⟩
  last := by
    rcases t.eq_nil_or_concat with rfl | ⟨body, c, rfl⟩
    · exact absurd rfl hne
    · rw [List.concat_eq_append] at h ⊢
      exact ⟨body, c, rfl, isWord_iff.1 (h.ending c List.getLast?_concat)⟩
  noExtension := hext

theorem IsClean.admits (h : p.IsClean t) : ∀ c ∈ t, p.admits c = true :=
  fun c hc => admits_iff.2 (h.alphabet c hc)

/-- A clean name is left as it is. -/
theorem IsClean.clean_eq (h : p.IsClean t) (hmask : p.mask t = t) : p.clean t = t := by
  obtain ⟨c, rest, hfirst, hlead⟩ := h.first
  obtain ⟨body, d, hlast, hword⟩ := h.last
  refine clean_eq_self hmask ?_ ?_ ?_ h.noExtension
  · apply List.isChain_iff_forall_rel_of_append_cons_cons.2
    intro a b before behind ht
    exact h.apart before a b behind ht
  · intro e he
    rw [hfirst] at he
    obtain rfl := Option.some.inj he
    exact leads_iff.2 hlead
  · intro e he
    rw [hlast, List.getLast?_concat] at he
    obtain rfl := Option.some.inj he
    exact isWord_iff.2 hword

/-- Cleaning leaves a text alone exactly if it is empty or a clean name, provided that the text is
in the composed form of its alphabet and that no list of admitted clusters is in force. -/
theorem sanitize_eq_self_iff (hlist : p.allowInForce = none) (s : String)
    (hspelling : p.spelling s.toList = s.toList) :
    p.sanitize (.str s) = s.toList ↔ s.toList = [] ∨ p.IsClean s.toList := by
  have hclean : p.sanitize (.str s) = p.clean s.toList := rfl
  rw [hclean]
  constructor
  · -- whatever cleaning returns has the shape of a name, so a text that it returns had it before
    intro h
    have htidy : p.Tidy s.toList := h ▸ p.clean_tidy s.toList
    have hmask := mask_eq_self hlist hspelling htidy.admitted
    by_cases hne : s.toList = []
    · exact Or.inl hne
    · exact Or.inr (htidy.isClean hne (not_endsInExtension_of_clean_eq hmask h))
  · rintro (hnil | h)
    · rw [hnil] at hspelling ⊢
      rw [clean, mask_eq_self hlist hspelling (by simp)]
      rfl
    · exact h.clean_eq (mask_eq_self hlist hspelling h.admits)

/-- A name with lone separators in it, one of them a point with no extension behind it, is a clean
name and stays. -/
theorem sanitize_eq_self_iff_dotted :
    (mk true none).allowInForce = none ∧
      (mk true none).spelling "_Jürgen.x-2".toList = "_Jürgen.x-2".toList ∧
      ((mk true none).sanitize (.str "_Jürgen.x-2") = "_Jürgen.x-2".toList ↔
        "_Jürgen.x-2".toList = [] ∨ (mk true none).IsClean "_Jürgen.x-2".toList) ∧
      (mk true none).sanitize (.str "_Jürgen.x-2") = "_Jürgen.x-2".toList := by
  have hspelling : (mk true none).spelling "_Jürgen.x-2".toList = "_Jürgen.x-2".toList := by
    decide +kernel
  exact ⟨rfl, hspelling, sanitize_eq_self_iff rfl _ hspelling, by decide +kernel⟩

end CharacterPolicy

end Namesake
