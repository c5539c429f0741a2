import Namesake.Proofs.Name.Ascii
import Namesake.Proofs.Name.Vetted

/-!
# What a cut does to the characters of a name

A name is cut between two clusters, but what the cut lays bare at the end is trimmed code point by
code point. Mostly this takes a separator that is a cluster of its own, and what is left are whole
clusters. There are letters, though, that attach to what is behind them, and a separator behind such
a letter is in one cluster with it. A cut behind this cluster leaves the letter and takes the
separator.

## Main definitions

* `Text.TornAt` — a cluster ends in a separator and has more before it

## Main results

* `CharacterPolicy.Tidy.cutTo_torn` — a cut behind such a cluster takes the separator alone
* `CharacterPolicy.Tidy.cutTo_whole_iff` — every other cut leaves whole clusters
* `CharacterPolicy.Tidy.cutTo_eq_nil_iff` — which cuts leave nothing
* `CharacterPolicy.sanitize_cut` — so this is said of clean names
-/

namespace Namesake

open Unicode

/-- The `n`-th cluster of the text ends in a separator and has more before it. -/
def Text.TornAt (t : Text) (n : Nat) : Prop :=
  ∃ before x c behind, t.graphemes = before ++ (x ++ [c]) :: behind ∧ before.length + 1 = n ∧
    x ≠ [] ∧ isSeparator c = true

namespace CharacterPolicy

variable {p : CharacterPolicy} {c : Char} {t u x : Text} {before behind : List Text} {g : Text}

/-- What is before a separator in a name ends in a letter, mark or number. -/
theorem Tidy.endsInWord_before (h : p.Tidy (u ++ c :: t)) (hc : isSeparator c = true) :
    u.EndsInWord := by
  intro d hd
  obtain ⟨v, rfl⟩ := List.getLast?_eq_some_iff.1 hd
  have happart := h.apart
  rw [List.append_assoc] at happart
  have hpair := List.rel_of_isChain_cons_cons happart.right_of_append
  exact isWord_of_admits (h.admitted d (by simp)) (by simpa [hc] using hpair)

theorem flatten_graphemes {gs : List Text} (h : t.graphemes = gs) : gs.flatten = t :=
  h ▸ flatten_clusters t

theorem flatten_take_between (h : t.graphemes = before ++ g :: behind) :
    (t.graphemes.take (before.length + 1)).flatten = before.flatten ++ g := by
  have htake : t.graphemes.take (before.length + 1) = before ++ [g] := by
    rw [h, List.append_cons]
    exact List.take_left' (by simp)
  rw [htake, List.flatten_append, List.flatten_singleton]

/-- What a cluster is without its last character is neither the whole cluster nor nothing, so it
does not end any number of clusters. -/
theorem flatten_take_ne (h : t.graphemes = before ++ (x ++ [c]) :: behind) (hx : x ≠ []) {k : Nat}
    (hk : k ≤ before.length + 1) : (t.graphemes.take k).flatten ≠ before.flatten ++ x := by
  have hpos := List.length_pos_of_ne_nil hx
  intro hflat
  have hlength := congrArg List.length hflat
  rcases Nat.lt_or_ge before.length k with hlt | hle
  · obtain rfl : k = before.length + 1 := by omega
    rw [flatten_take_between h] at hlength
    simp only [List.length_append, List.length_singleton] at hlength
    omega
  · have hsplit := congrArg (·.flatten.length) (List.take_append_drop k before)
    rw [h, List.take_append_of_le_length hle, List.length_append] at hlength
    simp only [List.flatten_append, List.length_append] at hsplit
    omega

/-- A cut between two clusters, with what it lays bare. -/
theorem cutTo_between (h : t.graphemes = before ++ g :: behind) (hbehind : behind ≠ []) :
    t.cutTo (before.length + 1 : Nat) = Text.trimEnd (before.flatten ++ g) := by
  have hlength : t.graphemeLength = before.length + 1 + behind.length := by
    rw [Text.graphemeLength_eq_length, h, List.length_append, List.length_cons]
    omega
  have hpos := List.length_pos_of_ne_nil hbehind
  rw [Text.cutTo_of_lt (by omega), Text.truncate_eq, Int.toNat_natCast, flatten_take_between h]

/-- Behind a cluster that ends in a separator a cut takes the separator alone, whatever is before it
in the cluster; and this can only be letters that attach to what is behind them. -/
theorem Tidy.cutTo_torn (h : p.Tidy t) (hclusters : t.graphemes = before ++ (x ++ [c]) :: behind)
    (hc : isSeparator c = true) :
    t.cutTo (before.length + 1 : Nat) = before.flatten ++ x ∧ ∀ d ∈ x, breakClass d = .prepend := by
  have hsegmented : Segmented .start (before ++ (x ++ [c]) :: behind) :=
    hclusters ▸ segmented_clusters t
  have ht : t = before.flatten ++ x ++ c :: behind.flatten := by
    rw [← flatten_graphemes hclusters]
    simp
  have hbehind : behind ≠ [] := by
    -- no name ends in a separator
    rintro rfl
    have hword := h.ending c (by rw [ht]; simp)
    rw [isWord_of_isSeparator hc] at hword
    cases hword
  refine ⟨?_, (segmented_append.1 hsegmented).2.1.prepend (traits_of_isSeparator hc)⟩
  have htrim : ∀ d ∈ [c], isWord d = false := fun d hd => by
    rw [List.mem_singleton.1 hd]
    exact isWord_of_isSeparator hc
  rw [cutTo_between hclusters hbehind, ← List.append_assoc, Text.trimEnd_append htrim]
  exact Text.trimEnd_eq_self ((ht ▸ h).endsInWord_before hc)

/-- Behind any other cluster a cut leaves whole clusters. -/
theorem Tidy.cutTo_whole (h : p.Tidy t) (hclusters : t.graphemes = before ++ g :: behind)
    (hbehind : behind ≠ []) (hwhole : ∀ x c, x ≠ [] → isSeparator c = true → g ≠ x ++ [c]) :
    ∃ k ≤ before.length + 1, t.cutTo (before.length + 1 : Nat) = (t.graphemes.take k).flatten := by
  have hsegmented : Segmented .start (before ++ g :: behind) := hclusters ▸ segmented_clusters t
  have hg : g ≠ [] := by
    rintro rfl
    exact (segmented_append.1 hsegmented).2.1
  obtain ⟨x, c, rfl⟩ : ∃ x c, g = x ++ [c] :=
    ⟨g.dropLast, g.getLast hg, (List.dropLast_append_getLast hg).symm⟩
  by_cases hc : isSeparator c = true
  · -- the separator is a cluster of its own, and goes
    obtain rfl : x = [] := by
      by_contra hx
      exact hwhole x c hx hc rfl
    refine ⟨before.length, Nat.le_succ _, ?_⟩
    rw [(h.cutTo_torn hclusters hc).1, hclusters, List.take_left, List.append_nil]
  · refine ⟨before.length + 1, Nat.le_refl _, ?_⟩
    rw [cutTo_between hclusters hbehind, flatten_take_between hclusters]
    refine Text.trimEnd_eq_self fun d hd => ?_
    rw [← List.append_assoc, List.getLast?_concat, Option.mem_some_iff] at hd
    subst hd
    refine isWord_of_admits (h.admitted _ ?_) (by simpa using hc)
    rw [← flatten_graphemes hclusters]
    simp

/-- A cut leaves the first clusters of a name, or all of it, except behind a cluster that ends in a
separator and has more before it. -/
theorem Tidy.cutTo_whole_iff (h : p.Tidy t) (n : Nat) :
    (t.cutTo n = t ∨ ∃ k ≤ n, t.cutTo n = (t.graphemes.take k).flatten) ↔ ¬ t.TornAt n := by
  constructor
  · rintro hwhole ⟨before, x, c, behind, hclusters, rfl, hx, hc⟩
    rw [(h.cutTo_torn hclusters hc).1] at hwhole
    rcases hwhole with hall | ⟨k, hk, hfirst⟩
    · have hflat := congrArg List.length (flatten_graphemes hclusters)
      rw [← hall] at hflat
      simp only [List.flatten_append, List.flatten_cons, List.length_append,
        List.length_singleton] at hflat
      omega
    · exact flatten_take_ne hclusters hx hk hfirst.symm
  · intro hwhole
    by_cases hn : t.graphemes.length ≤ n
    · exact .inl (Text.cutTo_of_le (by rw [Text.graphemeLength_eq_length]; omega))
    · cases n with
      | zero => exact .inr ⟨0, Nat.le_refl 0, Text.cutTo_of_nonpos (Int.le_refl 0)⟩
      | succ n =>
        -- the cut is behind the cluster `g`, whose last character decides
        obtain ⟨g, before, behind, hclusters, hlength⟩ : ∃ g before behind,
            t.graphemes = before ++ g :: behind ∧ before.length = n :=
          ⟨t.graphemes[n], t.graphemes.take n, t.graphemes.drop (n + 1),
            by rw [← List.drop_eq_getElem_cons, List.take_append_drop],
            by rw [List.length_take]; omega⟩
        subst hlength
        have hbehind : behind ≠ [] := by
          rintro rfl
          rw [hclusters] at hn
          simp at hn
        refine .inr (h.cutTo_whole hclusters hbehind fun x c hx hc hg => ?_)
        exact hwhole ⟨before, x, c, behind, hg ▸ hclusters, rfl, hx, hc⟩

/-- In the narrow alphabet every character is a cluster, so none is torn. -/
theorem Tidy.not_tornAt (h : p.Tidy t) (hp : p.unicode = false) (n : Nat) : ¬ t.TornAt n := by
  rintro ⟨before, x, c, behind, hclusters, -, hx, -⟩
  have hmem : x ++ [c] ∈ t.graphemes := by simp [hclusters]
  rw [Text.graphemes_of_isPlain (h.isNarrow hp).isPlain, List.mem_map] at hmem
  obtain ⟨d, -, hd⟩ := hmem
  have hlength := congrArg List.length hd
  have hpos := List.length_pos_of_ne_nil hx
  simp only [List.length_append, List.length_singleton] at hlength
  omega

/-! ### Cuts that leave nothing -/

/-- A piece of a name that begins the name and has no letter, mark or number is the separator that
may lead: any other separator would stand next to it. -/
theorem Tidy.eq_separator (h : p.Tidy (u ++ t)) (hu : u ≠ []) (hseps : ∀ c ∈ u, isWord c = false) :
    u = ['_'] := by
  have hsep : ∀ c ∈ u, isSeparator c = true := by
    intro c hc
    by_contra hsep
    have hword := isWord_of_admits (h.admitted c (List.mem_append_left t hc)) (by simpa using hsep)
    rw [hseps c hc] at hword
    cases hword
  obtain ⟨c, u, rfl⟩ := List.exists_cons_of_ne_nil hu
  obtain rfl := eq_of_leads (h.leading c rfl) (hsep c List.mem_cons_self)
  cases u with
  | nil => rfl
  | cons d u =>
    have hpair := List.rel_of_isChain_cons_cons h.apart
    exact absurd ⟨hsep '_' (by simp), hsep d (by simp)⟩ hpair

/-- A cut to one character leaves nothing exactly of the names whose first character is a lone
separator. -/
theorem Tidy.cutTo_one_eq_nil_iff (h : p.Tidy t) (ht : t ≠ []) :
    t.cutTo 1 = [] ↔ t.graphemes.head? = some ['_'] := by
  cases hclusters : t.graphemes with
  | nil => exact absurd (flatten_graphemes hclusters).symm ht
  | cons g behind =>
    have htext : t = g ++ behind.flatten := (flatten_graphemes hclusters).symm
    have hg : g ≠ [] := by
      have hsegmented : Segmented .start (g :: behind) := hclusters ▸ segmented_clusters t
      rintro rfl
      exact hsegmented.1
    rw [List.head?_cons, Option.some.injEq]
    by_cases hbehind : behind = []
    · -- a name of one character ends in a letter, mark or number, and nothing is cut from it
      have hone : t.graphemeLength = 1 := by
        rw [Text.graphemeLength_eq_length, hclusters, hbehind]
        rfl
      rw [Text.cutTo_of_le (by omega)]
      refine iff_of_false ht ?_
      rintro rfl
      have hword := h.ending '_' (by rw [htext, hbehind]; rfl)
      rw [isWord_of_isSeparator rfl] at hword
      cases hword
    · have hfront : t.graphemes = [] ++ g :: behind := hclusters
      have hcut : t.cutTo 1 = g.trimEnd := cutTo_between hfront hbehind
      rw [hcut]
      constructor
      · intro hnil
        obtain ⟨x, hx, htrimmed⟩ := Text.exists_trimmed g
        rw [hnil, List.nil_append] at hx
        subst hx
        exact (htext ▸ h).eq_separator hg htrimmed
      · rintro rfl
        refine Text.trimEnd_append (fun c hc => ?_) []
        obtain rfl := List.mem_singleton.1 hc
        exact isWord_of_isSeparator rfl

/-- So a cut leaves nothing of a name only where it keeps no character, or the lone separator at the
beginning. -/
theorem Tidy.cutTo_eq_nil_iff (h : p.Tidy t) (ht : t ≠ []) (n : Int) :
    t.cutTo n = [] ↔ n ≤ 0 ∨ n = 1 ∧ t.graphemes.head? = some ['_'] := by
  by_cases hneg : n ≤ 0
  · exact iff_of_true (Text.cutTo_of_nonpos hneg) (Or.inl hneg)
  · by_cases hone : n = 1
    · subst hone
      simp [h.cutTo_one_eq_nil_iff ht]
    · exact iff_of_false (h.cutTo_ne_nil ht (by omega)) (by omega)

/-! ### Clean names -/

/-- A clean name is cut between two of its clusters: what a cut leaves is the first clusters, no
more than it may, or all of the name. The one exception is a cut behind a cluster that ends in a
separator and has more before it. It takes the separator alone and leaves the rest of the cluster,
which is nothing but letters that attach to what is behind them. In the narrow alphabet there are
none. -/
theorem sanitize_cut (p : CharacterPolicy) (raw : Json) (n : Nat) :
    (((p.sanitize raw).cutTo n = p.sanitize raw ∨
        ∃ k ≤ n, (p.sanitize raw).cutTo n = ((p.sanitize raw).graphemes.take k).flatten) ↔
      ¬ (p.sanitize raw).TornAt n) ∧
    (∀ before x c behind, (p.sanitize raw).graphemes = before ++ (x ++ [c]) :: behind →
      isSeparator c = true →
        (p.sanitize raw).cutTo (before.length + 1 : Nat) = before.flatten ++ x ∧
        ∀ d ∈ x, breakClass d = .prepend) ∧
    (p.unicode = false → ¬ (p.sanitize raw).TornAt n) := by
  have htidy := p.sanitize_tidy raw
  exact ⟨htidy.cutTo_whole_iff n, fun _ _ _ _ hclusters hc => htidy.cutTo_torn hclusters hc,
    fun hp => htidy.not_tornAt hp n⟩

/-- The sign `ൎ` is a letter that attaches to what is behind it. Cut behind the third cluster, which
is this letter with the separator, the name keeps the letter and loses the separator. -/
theorem sanitize_cut_splits :
    (mk true none).sanitize (.str "ab\u0d4e_c") = "ab\u0d4e_c".toList ∧
      Text.graphemes "ab\u0d4e_c".toList = [['a'], ['b'], "\u0d4e_".toList, ['c']] ∧
      Text.cutTo "ab\u0d4e_c".toList (3 : Nat) = "ab\u0d4e".toList ∧
      ¬ (Text.cutTo "ab\u0d4e_c".toList (3 : Nat) = "ab\u0d4e_c".toList ∨ ∃ k ≤ 3,
        Text.cutTo "ab\u0d4e_c".toList (3 : Nat) =
          ((Text.graphemes "ab\u0d4e_c".toList).take k).flatten) := by
  have hname : (mk true none).sanitize (.str "ab\u0d4e_c") =
      "ab\u0d4e_c".toList := by decide +kernel
  have hclusters : Text.graphemes "ab\u0d4e_c".toList =
      [['a'], ['b'], "\u0d4e_".toList, ['c']] := by
    decide +kernel
  have htidy : (mk true none).Tidy "ab\u0d4e_c".toList := hname ▸ sanitize_tidy _ _
  refine ⟨hname, hclusters, by decide +kernel, fun hwhole => ?_⟩
  exact (htidy.cutTo_whole_iff 3).1 hwhole
    ⟨[['a'], ['b']], ['\u0d4e'], '_', [['c']], hclusters, rfl, by simp, rfl⟩

end CharacterPolicy

end Namesake
