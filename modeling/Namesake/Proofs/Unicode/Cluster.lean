import Namesake.Unicode.Cluster

/-!
# Clusters of a text and of its beginnings

The segmentation reads a text from the left, so the clusters of a beginning of a text are clusters
of the text, except that the last one may be cut short. How many clusters a beginning has therefore
says how far into the text it reaches, and that is all that is needed of the segmentation wherever
names are measured and cut.

## Main definitions

* `clusterCount` — the number of clusters that begin in a text behind a given context
* `Context.after` — the context behind a text

## Main results

* `flatten_clusters` — the clusters of a text make up the text
* `clusterCount_append` — the counts of two pieces add up
* `prefix_take_iff` — the beginnings that have at most `n` clusters are the beginnings of the first
  `n` clusters
* `joins_of_isLone`, `isLone_traits` — the ASCII characters never join each other, but for the
  carriage return
-/

namespace Namesake.Unicode

variable {ctx : Context} {c : Char} {p t : Text} {n : Nat}

/-- The context behind a text. -/
def Context.after (ctx : Context) (t : Text) : Context :=
  t.foldl (fun ctx c => ctx.step (Traits.of c)) ctx

/-- The number of clusters that begin in a text behind a given context. -/
def clusterCount (ctx : Context) (t : Text) : Nat :=
  (splitCluster ctx t).2.length

/-! ### Reading one character -/

theorem splitCluster_of_joins (h : ctx.joins (Traits.of c) = true) (t : Text) :
    splitCluster ctx (c :: t) =
      (c :: (splitCluster (ctx.step (Traits.of c)) t).1,
        (splitCluster (ctx.step (Traits.of c)) t).2) := by
  simp [splitCluster, h]

theorem splitCluster_of_not_joins (h : ctx.joins (Traits.of c) = false) (t : Text) :
    splitCluster ctx (c :: t) =
      ([], (c :: (splitCluster (ctx.step (Traits.of c)) t).1) ::
        (splitCluster (ctx.step (Traits.of c)) t).2) := by
  simp [splitCluster, h]

@[simp] theorem clusterCount_nil : clusterCount ctx [] = 0 := rfl

/-- A character begins a cluster unless it joins the one before it. -/
theorem clusterCount_cons (ctx : Context) (c : Char) (t : Text) :
    clusterCount ctx (c :: t) = clusterCount (ctx.step (Traits.of c)) t +
      if ctx.joins (Traits.of c) then 0 else 1 := by
  unfold clusterCount
  cases h : ctx.joins (Traits.of c) with
  | true => rw [splitCluster_of_joins h]; rfl
  | false => rw [splitCluster_of_not_joins h]; rfl

/-- Nothing joins the start of a text. -/
theorem joins_start (t : Traits) : Context.start.joins t = false := by
  simp [Context.joins, Context.start]

/-! ### What the clusters make up -/

theorem flatten_splitCluster (ctx : Context) (t : Text) :
    (splitCluster ctx t).1 ++ (splitCluster ctx t).2.flatten = t := by
  induction t generalizing ctx with
  | nil => rfl
  | cons c t ih =>
    cases h : ctx.joins (Traits.of c) with
    | true =>
      rw [splitCluster_of_joins h, List.cons_append, ih]
    | false =>
      rw [splitCluster_of_not_joins h, List.nil_append, List.flatten_cons, List.cons_append, ih]

/-- The clusters of a text make up the text, for nothing joins its start. -/
theorem flatten_clusters (t : Text) : (clusters t).flatten = t := by
  have h := flatten_splitCluster .start t
  cases t with
  | nil => rfl
  | cons c t =>
    rw [splitCluster_of_not_joins (joins_start _)] at h
    rw [clusters, splitCluster_of_not_joins (joins_start _)]
    exact h

/-! ### Counting -/

/-- The clusters that begin in two pieces add up. -/
theorem clusterCount_append (ctx : Context) (p t : Text) :
    clusterCount ctx (p ++ t) = clusterCount ctx p + clusterCount (ctx.after p) t := by
  induction p generalizing ctx with
  | nil => simp [Context.after]
  | cons c p ih =>
    rw [List.cons_append, clusterCount_cons, clusterCount_cons, ih, Context.after, Context.after,
      List.foldl_cons]
    omega

theorem clusterCount_le_length (ctx : Context) (t : Text) : clusterCount ctx t ≤ t.length := by
  induction t generalizing ctx with
  | nil => exact Nat.le_refl 0
  | cons c t ih =>
    have := ih (ctx.step (Traits.of c))
    rw [clusterCount_cons, List.length_cons]
    split <;> omega

/-- Among the beginnings of a text those with at most `n` clusters are the beginnings of its first
`n` clusters. -/
theorem prefix_take_iff :
    p <+: (splitCluster ctx t).1 ++ ((splitCluster ctx t).2.take n).flatten ↔
      p <+: t ∧ clusterCount ctx p ≤ n := by
  induction t generalizing ctx p n with
  | nil =>
    have hnil : (splitCluster ctx []).1 ++ ((splitCluster ctx []).2.take n).flatten = [] := by
      simp [splitCluster]
    rw [hnil, List.prefix_nil]
    exact ⟨by rintro rfl; simp, And.left⟩
  | cons c t ih =>
    cases p with
    | nil => simp
    | cons d p =>
      rw [clusterCount_cons, List.cons_prefix_cons]
      cases h : ctx.joins (Traits.of c) with
      | true =>
        -- the character belongs to a cluster that is under way and is not counted
        rw [splitCluster_of_joins h, List.cons_append, List.cons_prefix_cons, ih, and_assoc]
        refine and_congr_right fun hd => ?_
        rw [hd, h, if_pos rfl, Nat.add_zero]
      | false =>
        rw [splitCluster_of_not_joins h, List.nil_append]
        -- the character begins a cluster, which takes up one of the `n`
        cases n with
        | zero =>
          refine iff_of_false (by simp) ?_
          rintro ⟨⟨rfl, -⟩, hcount⟩
          simp [h] at hcount
        | succ n =>
          rw [List.take_succ_cons, List.flatten_cons, List.cons_append, List.cons_prefix_cons, ih,
            and_assoc]
          refine and_congr_right fun hd => ?_
          rw [hd, h]
          simp

/-! ### Plain text -/

/-- Does a character of the class neither join the one before it nor make the next one join? -/
def BreakClass.isLone : BreakClass → Bool
  | .other | .lineFeed | .control => true
  | _ => false

/-- Is the character one that never joins another of the kind? -/
def Traits.isLone (t : Traits) : Bool :=
  t.cls.isLone && !t.pictograph && t.role = .none

theorem joins_of_isLone {t : Traits} (hctx : ctx.last.isLone = true) (ht : t.isLone = true) :
    ctx.joins t = false := by
  obtain ⟨last, run, flag, linked⟩ := ctx
  obtain ⟨cls, pictograph, role⟩ := t
  obtain ⟨⟨hcls, hpict⟩, hrole⟩ : (cls.isLone = true ∧ pictograph = false) ∧ role = .none := by
    simpa [Traits.isLone] using ht
  subst hpict hrole
  cases last <;> cases cls <;> simp_all [BreakClass.isLone, Context.joins]

theorem isLone_last_step {t : Traits} (ht : t.isLone = true) (ctx : Context) :
    (ctx.step t).last.isLone = true := by
  simp only [Traits.isLone, Bool.and_eq_true] at ht
  exact ht.1.1

/-- Behind a character that makes nothing join it, each of them begins a cluster. -/
theorem clusterCount_of_isLone (hctx : ctx.last.isLone = true)
    (h : ∀ c ∈ t, (Traits.of c).isLone = true) : clusterCount ctx t = t.length := by
  induction t generalizing ctx with
  | nil => rfl
  | cons c t ih =>
    have hc : (Traits.of c).isLone = true := h c List.mem_cons_self
    rw [clusterCount_cons, joins_of_isLone hctx hc,
      ih (isLone_last_step hc ctx) fun d hd => h d (List.mem_cons_of_mem c hd)]
    rfl

/-- Behind any context each of them does, but perhaps the first one. -/
theorem length_le_clusterCount (h : ∀ c ∈ t, (Traits.of c).isLone = true) (ctx : Context) :
    t.length ≤ clusterCount ctx t + 1 := by
  cases t with
  | nil => exact Nat.zero_le _
  | cons c t =>
    have hlast := isLone_last_step (h c List.mem_cons_self) ctx
    rw [clusterCount_cons, clusterCount_of_isLone hlast fun d hd => h d (List.mem_cons_of_mem c hd),
      List.length_cons]
    omega

/-- The ASCII characters never join each other, except for the carriage return. -/
theorem isLone_of_ascii : ∀ n < 128, n ≠ 13 → (Traits.of (Char.ofNat n)).isLone = true := by
  decide +kernel

theorem isLone_traits (hascii : c.toNat < 128) (hc : c ≠ '\r') : (Traits.of c).isLone = true := by
  have h := isLone_of_ascii c.toNat hascii fun h => hc (by rw [← Char.ofNat_toNat c, h])
  rwa [Char.ofNat_toNat] at h

end Namesake.Unicode
