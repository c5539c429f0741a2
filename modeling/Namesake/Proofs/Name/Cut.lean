import Mathlib.Data.List.DropRight
import Mathlib.Logic.Relation
import Namesake.Name.Limit
import Namesake.Proofs.Unicode.Segments

/-!
# Measuring and cutting names

A cut name is a beginning of the name: the longest one that has no more characters than it may have
and ends in a letter, mark or number. This says everything about cuts, so cutting once more is
cutting to the smaller of the two lengths, and a suffix of ASCII characters adds at most its own
length.

## Main definitions

* `Text.EndsInWord` — the text is empty or ends in a letter, mark or number
* `Text.IsCutOf` — the text is a name cut to a positive length
* `Text.CutsTo` — one cut leads from a text to another

## Main results

* `Text.graphemes_truncate` — a text is cut between two clusters, and keeps the first ones
* `Text.prefix_truncate_iff` — the first characters of a text are its longest beginning that is
  short enough
* `Text.graphemeLength_cutTo_le` — a cut name keeps the length
* `Text.graphemeLength_append_le` — what is put behind a name adds at most its own length
* `Text.cutTo_cutTo`, `Text.cutTo_min` — two cuts are one cut
* `Text.cutTo_of_cuts` — what any number of cuts leave is the cut to its own length
-/

namespace Namesake.Text

open Unicode

variable {p t u v x y : Text} {n : Int}

/-! ### Measuring -/

/-- In a plain text every character is a cluster. -/
theorem graphemes_of_isPlain (h : t.isPlain = true) : t.graphemes = t.map fun c => [c] := by
  simp only [isPlain, isAscii, Bool.and_eq_true, List.all_eq_true, decide_eq_true_eq,
    Bool.not_eq_true', List.contains_eq_mem, decide_eq_false_iff_not] at h
  apply clusters_eq_iff.2
  constructor
  · rw [← List.flatMap_def, List.flatMap_singleton']
  · apply segmented_of_isLone rfl
    intro c hc
    exact isLone_traits (h.1 c hc) fun hcr => h.2 (hcr ▸ hc)

/-- The length of a name is the number of its clusters, also where it is worked out without them. -/
theorem graphemeLength_eq_length (t : Text) : t.graphemeLength = t.graphemes.length := by
  unfold graphemeLength
  by_cases hplain : t.isPlain = true
  · rw [if_pos hplain, graphemes_of_isPlain hplain, List.length_map]
  · rw [if_neg hplain]

theorem graphemeLength_eq (t : Text) : t.graphemeLength = clusterCount .start t :=
  graphemeLength_eq_length t

theorem graphemeLength_append_le (t x : Text) :
    (t ++ x).graphemeLength ≤ t.graphemeLength + x.length := by
  rw [graphemeLength_eq, graphemeLength_eq, clusterCount_append]
  exact Nat.add_le_add_left (clusterCount_le_length _ x) _

theorem graphemeLength_mono (h : p <+: t) : p.graphemeLength ≤ t.graphemeLength := by
  obtain ⟨x, rfl⟩ := h
  rw [graphemeLength_eq, graphemeLength_eq, clusterCount_append]
  exact Nat.le_add_right _ _

/-- A text is cut between two clusters, also where it is cut without looking for them. -/
theorem truncate_eq (t : Text) (n : Int) :
    t.truncate n = (t.graphemes.take n.toNat).flatten := by
  unfold truncate
  by_cases hn : n ≤ 0
  · rw [if_pos hn, Int.toNat_of_nonpos hn]
    rfl
  · rw [if_neg hn]
    by_cases hplain : t.isPlain = true
    · rw [if_pos hplain, graphemes_of_isPlain hplain, ← List.map_take, ← List.flatMap_def,
        List.flatMap_singleton']
    · rw [if_neg hplain]

/-- The first `n` characters of a text are the longest of its beginnings that have no more. -/
theorem prefix_truncate_iff :
    p <+: t.truncate n ↔ p <+: t ∧ p.graphemeLength ≤ n.toNat := by
  rw [truncate_eq, graphemeLength_eq, ← prefix_take_iff]
  cases t with
  | nil => rfl
  | cons c t =>
    rw [graphemes, clusters, splitCluster_of_not_joins (joins_start _)]
    rfl

/-- The clusters make up the text, and their number is its length. A text is cut to the first `n` of
them, to none for a negative `n`, and they are the clusters of the cut text: so this has as many
characters as it may have and the text has. In a plain text the clusters are the characters. -/
theorem graphemes_truncate (t : Text) (n : Int) :
    t.graphemes.flatten = t ∧ t.graphemeLength = t.graphemes.length ∧
      (t.isPlain = true → t.graphemes = t.map fun c => [c]) ∧
      t.truncate n = (t.graphemes.take (max n 0).toNat).flatten ∧
      (t.truncate n).graphemes = t.graphemes.take (max n 0).toNat ∧
      ((t.truncate n).graphemeLength : Int) = min (max n 0) t.graphemeLength := by
  have hn : (max n 0).toNat = n.toNat := by omega
  have hcut : (t.truncate n).graphemes = t.graphemes.take n.toNat := by
    rw [truncate_eq]
    exact clusters_take t n.toNat
  refine ⟨flatten_clusters t, graphemeLength_eq_length t, graphemes_of_isPlain, ?_, ?_, ?_⟩
  · rw [hn, truncate_eq]
  · rw [hn, hcut]
  · rw [graphemeLength_eq_length, graphemeLength_eq_length, hcut, List.length_take]
    omega

theorem truncate_isPrefix (t : Text) (n : Int) : t.truncate n <+: t :=
  (prefix_truncate_iff.1 List.prefix_rfl).1

theorem graphemeLength_truncate_le (t : Text) (n : Int) :
    (t.truncate n).graphemeLength ≤ n.toNat :=
  (prefix_truncate_iff.1 List.prefix_rfl).2

/-- Nothing is cut from a text that is short enough. -/
theorem truncate_of_le (h : (t.graphemeLength : Int) ≤ n) : t.truncate n = t := by
  have ht : t <+: t.truncate n := prefix_truncate_iff.2 ⟨List.prefix_rfl, by omega⟩
  exact (truncate_isPrefix t n).eq_of_length_le ht.length_le

theorem eq_nil_of_graphemeLength (h : t.graphemeLength = 0) : t = [] := by
  have ht : t <+: t.truncate 0 := prefix_truncate_iff.2 ⟨List.prefix_rfl, h.le⟩
  exact List.prefix_nil.1 ht

/-! ### The end of a name -/

/-- The text is empty or ends in a letter, mark or number. -/
def EndsInWord (t : Text) : Prop :=
  ∀ c ∈ t.getLast?, isWord c = true

theorem trimEnd_eq_rdropWhile (t : Text) : t.trimEnd = t.rdropWhile fun c => !isWord c := rfl

theorem trimEnd_isPrefix (t : Text) : t.trimEnd <+: t :=
  List.rdropWhile_prefix _ t

theorem trimEnd_endsInWord (t : Text) : t.trimEnd.EndsInWord := by
  intro c hc
  obtain ⟨hne, rfl⟩ := List.mem_getLast?_eq_getLast hc
  have h := List.rdropWhile_last_not (fun c => !isWord c) t hne
  rwa [Bool.not_eq_true', Bool.not_eq_false] at h

theorem trimEnd_eq_self (h : t.EndsInWord) : t.trimEnd = t := by
  apply List.rdropWhile_eq_self_iff.2
  intro hne
  simpa using h _ (List.getLast?_eq_getLast_of_ne_nil hne)

/-- What is no letter, mark or number is trimmed. -/
theorem trimEnd_append (h : ∀ c ∈ x, isWord c = false) (t : Text) :
    trimEnd (t ++ x) = t.trimEnd := by
  unfold trimEnd
  rw [List.reverse_append, List.dropWhile_append_of_pos]
  intro c hc
  simp [h c (List.mem_reverse.1 hc)]

/-- And nothing else is. -/
theorem exists_trimmed (t : Text) : ∃ x, t = t.trimEnd ++ x ∧ ∀ c ∈ x, isWord c = false := by
  refine ⟨t.rtakeWhile fun c => !isWord c, List.rdropWhile_append_rtakeWhile.symm, fun c hc => ?_⟩
  simpa using List.mem_rtakeWhile_imp hc

/-- Nothing is trimmed of a beginning that ends in a letter, mark or number. -/
theorem prefix_trimEnd (hp : p.EndsInWord) (h : p <+: t) : p <+: t.trimEnd := by
  obtain ⟨x, rfl⟩ := h
  -- the text is trimmed character by character from its end, and never into the beginning
  induction x using List.reverseRecOn with
  | nil => simp [trimEnd_eq_self hp]
  | append_singleton x c ih =>
    rw [← List.append_assoc, trimEnd_eq_rdropWhile, List.rdropWhile_concat]
    split
    · exact ih
    · rw [List.append_assoc]
      exact List.prefix_append p _

theorem trimEnd_eq_of_between (hx : x.trimEnd = u) (huy : u <+: y) (hyx : y <+: x) :
    y.trimEnd = u := by
  have hu : u <+: y.trimEnd := prefix_trimEnd (hx ▸ trimEnd_endsInWord x) huy
  have hy : y.trimEnd <+: u :=
    hx ▸ prefix_trimEnd (trimEnd_endsInWord y) ((trimEnd_isPrefix y).trans hyx)
  exact hy.eq_of_length_le hu.length_le

/-! ### Cutting -/

theorem cutTo_of_le (h : (t.graphemeLength : Int) ≤ n) : t.cutTo n = t :=
  if_pos h

theorem cutTo_of_lt (h : n < (t.graphemeLength : Int)) : t.cutTo n = (t.truncate n).trimEnd :=
  if_neg (by omega)

theorem cutTo_isPrefix (t : Text) (n : Int) : t.cutTo n <+: t := by
  unfold cutTo
  split
  · exact List.prefix_rfl
  · exact (trimEnd_isPrefix _).trans (truncate_isPrefix t n)

theorem cutTo_endsInWord (h : t.EndsInWord) (n : Int) : (t.cutTo n).EndsInWord := by
  unfold cutTo
  split
  · exact h
  · exact trimEnd_endsInWord _

theorem graphemeLength_cutTo_le (t : Text) (n : Int) : (t.cutTo n).graphemeLength ≤ n.toNat := by
  unfold cutTo
  split
  · omega
  · exact (graphemeLength_mono (trimEnd_isPrefix _)).trans (graphemeLength_truncate_le t n)

/-- A name cut twice is cut to the smaller length. -/
theorem cutTo_cutTo (t : Text) (m n : Nat) : (t.cutTo m).cutTo n = t.cutTo (min m n : Nat) := by
  by_cases hm : t.graphemeLength ≤ m
  · rw [cutTo_of_le (show (t.graphemeLength : Int) ≤ m by omega)]
    by_cases hn : t.graphemeLength ≤ n
    · rw [cutTo_of_le (by omega), cutTo_of_le (by omega)]
    · rw [Nat.min_eq_right (by omega)]
  · have hm' : (m : Int) < t.graphemeLength := by omega
    have hlen := graphemeLength_cutTo_le t m
    have hbegin := cutTo_isPrefix t m
    rw [cutTo_of_lt hm'] at hlen hbegin ⊢
    rw [cutTo_of_lt (show ((min m n : Nat) : Int) < t.graphemeLength by omega)]
    by_cases hn : (t.truncate m).trimEnd.graphemeLength ≤ n
    · -- the second cut finds nothing to cut away
      rw [cutTo_of_le (by omega)]
      refine (trimEnd_eq_of_between rfl ?_ ?_).symm
      · exact prefix_truncate_iff.2 ⟨hbegin, by omega⟩
      · refine prefix_truncate_iff.2 ⟨truncate_isPrefix t _, ?_⟩
        have := graphemeLength_truncate_le t (min m n : Nat)
        omega
    · -- the second cut lies within what the first one left
      rw [cutTo_of_lt (by omega), Nat.min_eq_right (by omega)]
      congr 1
      have hcut : ((t.truncate m).trimEnd).truncate n <+: t.truncate n :=
        prefix_truncate_iff.2
          ⟨(truncate_isPrefix _ n).trans hbegin, graphemeLength_truncate_le _ n⟩
      have hle := graphemeLength_truncate_le t n
      refine hcut.eq_of_length_le (List.IsPrefix.length_le ?_)
      refine prefix_truncate_iff.2 ⟨?_, hle⟩
      rcases List.prefix_or_prefix_of_prefix (truncate_isPrefix t n) hbegin with h | h
      · exact h
      · have := graphemeLength_mono h
        omega

/-- Nothing is left of a name that is cut to nothing. -/
theorem cutTo_of_nonpos (h : n ≤ 0) : t.cutTo n = [] := by
  refine eq_nil_of_graphemeLength ?_
  have := graphemeLength_cutTo_le t n
  omega

/-- Two cuts are one, whatever the two lengths. -/
theorem cutTo_min (t : Text) (m n : Int) : (t.cutTo m).cutTo n = t.cutTo (min m n) := by
  by_cases hn : n ≤ 0
  · rw [cutTo_of_nonpos hn, cutTo_of_nonpos (by omega)]
  · by_cases hm : m ≤ 0
    · -- the first cut leaves nothing for the second one
      rw [cutTo_of_nonpos hm, cutTo_of_nonpos (show min m n ≤ 0 by omega)]
      exact List.prefix_nil.1 (cutTo_isPrefix [] n)
    · have hcut := cutTo_cutTo t m.toNat n.toNat
      have hmin : ((min m.toNat n.toNat : Nat) : Int) = min m n := by omega
      rwa [hmin, Int.toNat_of_nonneg (by omega), Int.toNat_of_nonneg (by omega)] at hcut

/-- A cut is the cut to its own length. -/
theorem cutTo_graphemeLength (t : Text) (n : Int) :
    t.cutTo (t.cutTo n).graphemeLength = t.cutTo n := by
  by_cases hn : n ≤ 0
  · rw [cutTo_of_nonpos hn]
    exact cutTo_of_nonpos (by simp [graphemeLength, isPlain, isAscii])
  · have hle := graphemeLength_cutTo_le t n
    have hcut := cutTo_min t n (t.cutTo n).graphemeLength
    rw [Int.min_eq_right (by omega), cutTo_of_le (Int.le_refl _)] at hcut
    exact hcut.symm

/-- One cut leads from the first text to the second. -/
def CutsTo (t u : Text) : Prop :=
  ∃ n : Int, u = t.cutTo n

theorem CutsTo.refl (t : Text) : t.CutsTo t :=
  ⟨t.graphemeLength, (cutTo_of_le (Int.le_refl _)).symm⟩

/-- Any number of cuts are one cut. -/
theorem cutsTo_of_cuts (h : Relation.ReflTransGen CutsTo t u) : t.CutsTo u := by
  induction h with
  | refl => exact .refl t
  | tail _ hlast ih =>
    obtain ⟨m, rfl⟩ := ih
    obtain ⟨n, rfl⟩ := hlast
    exact ⟨min m n, cutTo_min t m n⟩

/-- What is left after any number of cuts is the cut to its own length. -/
theorem cutTo_of_cuts (h : Relation.ReflTransGen CutsTo t u) : t.cutTo u.graphemeLength = u := by
  obtain ⟨n, rfl⟩ := cutsTo_of_cuts h
  exact cutTo_graphemeLength t n

/-- A shorter cut is a beginning of a longer one. -/
theorem cutTo_mono {m : Int} (h : m ≤ n) : t.cutTo m <+: t.cutTo n := by
  rw [← Int.min_eq_right h, ← cutTo_min]
  exact cutTo_isPrefix _ m

/-- The text is the name, cut to a positive length. -/
def IsCutOf (u t : Text) : Prop :=
  ∃ k : Nat, 1 ≤ k ∧ u = t.cutTo k

theorem IsCutOf.refl (t : Text) : t.IsCutOf t :=
  ⟨t.graphemeLength + 1, by omega, (cutTo_of_le (by omega)).symm⟩

theorem IsCutOf.trans : v.IsCutOf u → u.IsCutOf t → v.IsCutOf t := by
  rintro ⟨m, hm, rfl⟩ ⟨n, hn, rfl⟩
  refine ⟨min n m, by omega, ?_⟩
  exact cutTo_cutTo t n m

/-- A cut that leaves something is a cut to a positive length. -/
theorem isCutOf_cutTo (h : t.cutTo n ≠ []) : (t.cutTo n).IsCutOf t := by
  by_cases hn : 1 ≤ n
  · exact ⟨n.toNat, by omega, by rw [Int.toNat_of_nonneg (by omega)]⟩
  · have := graphemeLength_cutTo_le t n
    exact absurd (eq_nil_of_graphemeLength (by omega)) h

theorem IsCutOf.cutTo_eq (h : u.IsCutOf t) : t.cutTo u.graphemeLength = u := by
  obtain ⟨m, -, rfl⟩ := h
  exact cutTo_graphemeLength t m

theorem IsCutOf.isPrefix (h : u.IsCutOf t) : u <+: t := by
  obtain ⟨k, -, rfl⟩ := h
  exact cutTo_isPrefix t k

theorem IsCutOf.endsInWord (h : u.IsCutOf t) (ht : t.EndsInWord) : u.EndsInWord := by
  obtain ⟨k, -, rfl⟩ := h
  exact cutTo_endsInWord ht k

end Namesake.Text

namespace Namesake.Limit

variable {limit : Limit} {t u : Text}

/-! ### Cutting at a limit -/

/-- A limit of any sort keeps the first characters of the text, as many as some whole number says.
-/
theorem exists_truncate (h : limit.truncate t = .ok u) : ∃ n : Int, u = t.truncate n := by
  unfold truncate at h
  split at h
  · rename_i n
    exact ⟨n, (Except.ok.inj h).symm⟩
  · split at h
    · exact ⟨0, (Except.ok.inj h).symm⟩
    · split at h
      · cases h
      · split at h
        · rename_i n _
          exact ⟨n, (Except.ok.inj h).symm⟩
        · obtain rfl := Except.ok.inj h
          exact ⟨t.graphemeLength, (Text.truncate_of_le (Int.le_refl _)).symm⟩

/-- A limit of any sort leaves a beginning of the text. -/
theorem truncate_isPrefix (h : limit.truncate t = .ok u) : u <+: t := by
  obtain ⟨n, rfl⟩ := exists_truncate h
  exact Text.truncate_isPrefix t n

/-- A name cut at a limit of any sort is a beginning of the name, and ends in a letter, mark or
number if the name does. -/
theorem cut_spec (h : limit.cut t = .ok u) : u <+: t ∧ (t.EndsInWord → u.EndsInWord) := by
  unfold cut at h
  split at h
  · obtain rfl := Except.ok.inj h
    exact ⟨List.prefix_rfl, id⟩
  · cases htruncate : limit.truncate t with
    | error f =>
      rw [htruncate] at h
      cases h
    | ok v =>
      rw [htruncate] at h
      obtain rfl := Except.ok.inj h
      exact ⟨(Text.trimEnd_isPrefix v).trans (truncate_isPrefix htruncate),
        fun _ => Text.trimEnd_endsInWord v⟩

/-- A whole limit cuts a name to a length, and a limit of any sort cuts a name so that ends in a
letter, mark or number. -/
theorem cutsTo (h : limit.cut t = .ok u) (hend : limit.isWhole = true ∨ t.EndsInWord) :
    t.CutsTo u := by
  cases limit with
  | whole n =>
    rw [cut_whole] at h
    exact ⟨n, (Except.ok.inj h).symm⟩
  | real x =>
    have ht : t.EndsInWord := hend.resolve_left (by simp [Quantity.isWhole])
    unfold cut at h
    split at h
    · obtain rfl := Except.ok.inj h
      exact .refl t
    · cases htruncate : truncate (.real x) t with
      | error f =>
        rw [htruncate] at h
        cases h
      | ok v =>
        rw [htruncate] at h
        obtain rfl := Except.ok.inj h
        obtain ⟨n, rfl⟩ := exists_truncate htruncate
        by_cases hn : (t.graphemeLength : Int) ≤ n
        · -- nothing is cut away, so nothing is laid bare at the end
          rw [Text.truncate_of_le hn, Text.trimEnd_eq_self ht]
          exact .refl t
        · exact ⟨n, (Text.cutTo_of_lt (by omega)).symm⟩

/-- What a cut at a whole limit leaves is a cut to a positive length. -/
theorem isCutOf (h : limit.cut t = .ok u) (hu : u ≠ []) (hwhole : limit.isWhole = true) :
    u.IsCutOf t := by
  cases limit with
  | real x => cases hwhole
  | whole n =>
    rw [cut_whole] at h
    obtain rfl := Except.ok.inj h
    exact Text.isCutOf_cutTo hu

end Namesake.Limit
