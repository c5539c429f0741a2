import Namesake.Proofs.Unicode.Cluster
import Namesake.Unicode.Category

/-!
# Texts in pieces

A list of pieces is the list of the clusters of a text exactly when each piece begins with a
character that does not join what is before it and goes on with characters that do. So the clusters
of a text can be known without reading it: whoever puts pieces together has the clusters of the
whole, if this holds where they meet.

What the rules remember of a text matters at the meeting points alone, and it seldom does. A
character that attaches to nothing makes them forget all that is before it, unless it is half of a
flag.

## Main definitions

* `Joined` — every character of a text joins the one before it
* `IsCluster` — a text is one cluster behind a given context
* `Segmented` — a list of pieces is a list of clusters, one behind the other
* `Traits.plain`, `Context.plain` — a character that neither attaches nor is attached to

## Main results

* `clusters_eq_iff` — the clusters of a text are the only pieces of this kind
* `clusters_take` — the first clusters of a text are the clusters of what they make up
* `Segmented.replace` — clusters may be replaced by plain characters
* `IsCluster.prepend` — what stands before a plain character in a cluster
-/

namespace Namesake.Unicode

variable {ctx ctx' : Context} {c : Char} {t u : Text} {gs hs : List Text}

/-- Every character of the text joins the one before it. -/
def Joined : Context → Text → Prop
  | _, [] => True
  | ctx, c :: t => ctx.joins (Traits.of c) = true ∧ Joined (ctx.step (Traits.of c)) t

/-- The text is one cluster: its first character joins nothing, and every further one joins. -/
def IsCluster (ctx : Context) : Text → Prop
  | [] => False
  | c :: t => ctx.joins (Traits.of c) = false ∧ Joined (ctx.step (Traits.of c)) t

/-- The pieces are clusters, one behind the other. -/
def Segmented : Context → List Text → Prop
  | _, [] => True
  | ctx, g :: gs => IsCluster ctx g ∧ Segmented (ctx.after g) gs

@[simp] theorem Context.after_nil (ctx : Context) : ctx.after [] = ctx := rfl

@[simp] theorem Context.after_cons (ctx : Context) (c : Char) (t : Text) :
    ctx.after (c :: t) = (ctx.step (Traits.of c)).after t := rfl

theorem Context.after_append (ctx : Context) (t u : Text) :
    ctx.after (t ++ u) = (ctx.after t).after u :=
  List.foldl_append ..

/-! ### The only pieces -/

/-- What the scan makes of a text: the rest of a cluster, and then clusters. -/
theorem segmented_splitCluster (ctx : Context) (t : Text) :
    Joined ctx (splitCluster ctx t).1 ∧
      Segmented (ctx.after (splitCluster ctx t).1) (splitCluster ctx t).2 := by
  induction t generalizing ctx with
  | nil => exact ⟨trivial, trivial⟩
  | cons c t ih =>
    obtain ⟨hjoined, hsegmented⟩ := ih (ctx.step (Traits.of c))
    cases h : ctx.joins (Traits.of c) with
    | true =>
      rw [splitCluster_of_joins h]
      exact ⟨⟨h, hjoined⟩, hsegmented⟩
    | false =>
      rw [splitCluster_of_not_joins h]
      exact ⟨trivial, ⟨h, hjoined⟩, hsegmented⟩

/-- Characters that join go to the cluster that is under way. -/
theorem splitCluster_append (h : Joined ctx u) (t : Text) :
    splitCluster ctx (u ++ t) =
      (u ++ (splitCluster (ctx.after u) t).1, (splitCluster (ctx.after u) t).2) := by
  induction u generalizing ctx with
  | nil => rfl
  | cons c u ih => rw [List.cons_append, splitCluster_of_joins h.1, ih h.2]; rfl

/-- Pieces that are clusters are found again. -/
theorem splitCluster_flatten (h : Segmented ctx gs) : splitCluster ctx gs.flatten = ([], gs) := by
  induction gs generalizing ctx with
  | nil => rfl
  | cons g gs ih =>
    obtain ⟨hg, hgs⟩ := h
    cases g with
    | nil => exact hg.elim
    | cons c g =>
      have hrest : splitCluster ((ctx.step (Traits.of c)).after g) gs.flatten = ([], gs) := ih hgs
      rw [List.flatten_cons, List.cons_append, splitCluster_of_not_joins hg.1,
        splitCluster_append hg.2, hrest, List.append_nil]

theorem segmented_clusters (t : Text) : Segmented .start (clusters t) := by
  have h := (segmented_splitCluster .start t).2
  cases t with
  | nil => trivial
  | cons c t =>
    rw [splitCluster_of_not_joins (joins_start _)] at h
    rw [clusters, splitCluster_of_not_joins (joins_start _)]
    exact h

/-- The clusters of a text are the only pieces that make it up and are clusters, one behind the
other. -/
theorem clusters_eq_iff : clusters t = gs ↔ gs.flatten = t ∧ Segmented .start gs := by
  constructor
  · rintro rfl
    exact ⟨flatten_clusters t, segmented_clusters t⟩
  · rintro ⟨rfl, h⟩
    rw [clusters, splitCluster_flatten h]

/-- Two runs of pieces, one behind the other. -/
theorem segmented_append :
    Segmented ctx (gs ++ hs) ↔ Segmented ctx gs ∧ Segmented (ctx.after gs.flatten) hs := by
  induction gs generalizing ctx with
  | nil => simp [Segmented]
  | cons g gs ih =>
    rw [List.cons_append, Segmented, Segmented, ih, List.flatten_cons, Context.after_append,
      and_assoc]

/-- The first clusters of a text are the clusters of what they make up: nothing behind a cluster has
a say in where it ends. -/
theorem clusters_take (t : Text) (n : Nat) :
    clusters ((clusters t).take n).flatten = (clusters t).take n := by
  have h := segmented_clusters t
  rw [← List.take_append_drop n (clusters t)] at h
  exact clusters_eq_iff.2 ⟨rfl, (segmented_append.1 h).1⟩

/-- Characters that never join are clusters of their own. -/
theorem segmented_of_isLone (hctx : ctx.last.isLone = true)
    (h : ∀ c ∈ t, (Traits.of c).isLone = true) : Segmented ctx (t.map fun c => [c]) := by
  induction t generalizing ctx with
  | nil => trivial
  | cons c t ih =>
    have hc : (Traits.of c).isLone = true := h c List.mem_cons_self
    refine ⟨⟨joins_of_isLone hctx hc, trivial⟩, ih ?_ fun d hd => h d (List.mem_cons_of_mem c hd)⟩
    simp only [Traits.isLone, Bool.and_eq_true] at hc
    exact hc.1.1

/-! ### Plain characters -/

/-- The traits of a character that attaches to nothing and that little attaches to. -/
def Traits.plain : Traits :=
  ⟨.other, false, .none⟩

/-- The context behind such a character. -/
def Context.plain : Context :=
  ⟨.other, .none, false, false⟩

/-- Behind a plain character nothing is remembered of what was before it. -/
@[simp] theorem Context.step_plain (ctx : Context) : ctx.step .plain = .plain := by
  obtain ⟨last, run, flag, linked⟩ := ctx
  cases run <;> rfl

/-- A plain character joins nothing but a sign that attaches to what is behind it. -/
theorem joins_plain_iff : ctx.joins .plain = true ↔ ctx.last = .prepend := by
  obtain ⟨last, run, flag, linked⟩ := ctx
  cases last <;> simp [Context.joins, Traits.plain]

/-- What is segmented behind a plain character is segmented at the start of a text. -/
theorem Segmented.at_start (h : Segmented .plain gs) : Segmented .start gs := by
  cases gs with
  | nil => trivial
  | cons g gs =>
    obtain ⟨hg, hgs⟩ := h
    cases g with
    | nil => exact hg.elim
    | cons c g => exact ⟨⟨joins_start _, hg.2⟩, hgs⟩

/-! ### Replacing clusters -/

/-- Is the class one of a character inside a word? Line ends, controls, the joiner and the letters
of flags are not. -/
def BreakClass.isInner : BreakClass → Bool
  | .carriageReturn | .lineFeed | .control | .joiner | .regional => false
  | _ => true

/-- Are two ranges of code points apart? They are compared by Booleans, which are evaluated fast. -/
def areApart (lo hi : Nat) (range : Nat × Nat) : Bool :=
  range.2.blt lo || hi.blt range.1

/-- The characters that are no inner ones are neither letters nor marks nor numbers. -/
theorem outer_rows_apart : (breakRows.all fun row => row.2.2.isInner ||
    [letters, marks, numbers].flatten.all (areApart row.1 row.2.1)) = true := by
  decide +kernel

/-- A class is listed for the character, or it is of no special class. -/
theorem breakClassIn_cases (rows : List (Nat × Nat × BreakClass)) (n : Nat) :
    breakClassIn rows n = .other ∨
      ∃ row ∈ rows, (row.1 ≤ n ∧ n ≤ row.2.1) ∧ breakClassIn rows n = row.2.2 := by
  induction rows with
  | nil => exact Or.inl rfl
  | cons row rows ih =>
    obtain ⟨lo, hi, k⟩ := row
    unfold breakClassIn
    split
    · exact Or.inl rfl
    · split
      · exact Or.inr ⟨(lo, hi, k), List.mem_cons_self, by dsimp only; omega, rfl⟩
      · rcases ih with h | ⟨row, hrow, hn⟩
        · exact Or.inl h
        · exact Or.inr ⟨row, List.mem_cons_of_mem _ hrow, hn⟩

/-- If all rows of the other classes are apart from the ranges, the characters in the ranges are of
these classes. -/
theorem breakClass_of_mem {f : BreakClass → Bool} {ranges : List (Nat × Nat)} {range : Nat × Nat}
    (hrows : (breakRows.all fun row => f row.2.2 || ranges.all (areApart row.1 row.2.1)) = true)
    (hother : f .other = true) (hsyllable : f .openSyllable = true ∧ f .closedSyllable = true)
    (hrange : range ∈ ranges) (hc : range.1 ≤ c.toNat ∧ c.toNat ≤ range.2) :
    f (breakClass c) = true := by
  unfold breakClass
  dsimp only
  split
  · -- a Hangul syllable, which is in no row
    split
    · exact hsyllable.1
    · exact hsyllable.2
  · rcases breakClassIn_cases breakRows c.toNat with hnone | ⟨row, hrow, hn, hk⟩
    · rw [hnone]
      exact hother
    · have hrow := List.all_eq_true.1 hrows row hrow
      rw [Bool.or_eq_true, List.all_eq_true] at hrow
      rw [hk]
      refine hrow.resolve_right fun hapart => ?_
      have := hapart range hrange
      simp only [areApart, Bool.or_eq_true, Nat.blt_eq] at this
      omega

/-- Letters, marks and numbers are inner characters. -/
theorem isInner_of_isWord (h : isWord c = true) : (Traits.of c).cls.isInner = true := by
  obtain ⟨range, hrange, hc⟩ : ∃ range ∈ [letters, marks, numbers].flatten,
      range.1 ≤ c.toNat ∧ c.toNat ≤ range.2 := by
    simp only [isWord, isLetter, isMark, isNumber, Bool.or_eq_true] at h
    rcases h with (h | h) | h <;>
      obtain ⟨lo, hi, hmem, hlo, hhi⟩ := RangeTable.exists_of_contains h <;>
      exact ⟨(lo, hi), by simp [hmem], hlo, hhi⟩
  exact breakClass_of_mem outer_rows_apart rfl ⟨rfl, rfl⟩ hrange hc

/-- Does a character of the class attach to whatever is before it in a word? -/
def BreakClass.attaches : BreakClass → Bool
  | .extend | .joiner | .spacing => true
  | _ => false

/-- In a word a character joins what it attaches to, and what attaches to it. -/
theorem joins_of_attaches {traits : Traits} (hlast : ctx.last.isInner = true)
    (hinner : traits.cls.isInner = true)
    (h : traits.cls.attaches = true ∨ ctx.last = .prepend) : ctx.joins traits = true := by
  obtain ⟨last, run, flag, linked⟩ := ctx
  obtain ⟨cls, pictograph, role⟩ := traits
  cases last <;> cases cls <;> simp_all [BreakClass.isInner, BreakClass.attaches, Context.joins]

/-- Behind a plain character nothing joins that does not attach. -/
theorem joins_plain_of_not_attaches {traits : Traits} (h : traits.cls.attaches = false) :
    Context.plain.joins traits = false := by
  obtain ⟨cls, pictograph, role⟩ := traits
  cases cls <;> simp_all [BreakClass.attaches, Context.joins, Context.plain]

/-- Only what attaches can be a mark inside a conjunct. -/
theorem conjunctRole_ne_extend {k : BreakClass} (h : k.attaches = false) (c : Char) :
    conjunctRole c k ≠ .extend := by
  unfold conjunctRole
  split
  · simp
  · cases k with
    | extend | joiner => cases h
    | other => dsimp only; split <;> simp
    | _ => simp

/-- A character in a word that does not attach makes the rules forget what they remember. -/
theorem step_eq_of_not_attaches (hinner : (Traits.of c).cls.isInner = true)
    (h : (Traits.of c).cls.attaches = false) :
    ctx.step (Traits.of c) = ctx'.step (Traits.of c) := by
  have hrole : (Traits.of c).role ≠ .extend := conjunctRole_ne_extend h c
  generalize Traits.of c = traits at h hinner hrole
  obtain ⟨last, run, flag, linked⟩ := ctx
  obtain ⟨last', run', flag', linked'⟩ := ctx'
  obtain ⟨cls, pictograph, role⟩ := traits
  cases cls <;> cases role <;>
    simp_all [BreakClass.isInner, BreakClass.attaches, Context.step, PictographRun.step,
      linkedAfter]

theorem last_after_isInner (hctx : ctx.last.isInner = true)
    (h : ∀ c ∈ t, (Traits.of c).cls.isInner = true) : (ctx.after t).last.isInner = true := by
  induction t generalizing ctx with
  | nil => exact hctx
  | cons c t ih =>
    rw [Context.after_cons]
    exact ih (h c List.mem_cons_self) fun d hd => h d (List.mem_cons_of_mem c hd)

/-- In a word clusters may be replaced by plain characters: the others stay clusters, and so do the
new pieces. What is before a piece is then what was there, or a plain character. -/
theorem Segmented.replace {s : Char} (hplain : Traits.of s = .plain) (f : Text → Bool)
    (h : Segmented ctx gs) (hinner : ∀ g ∈ gs, ∀ c ∈ g, (Traits.of c).cls.isInner = true)
    (hctx : ctx' = ctx ∨ ctx' = .plain ∧ ctx.last.isInner = true) :
    Segmented ctx' (gs.map fun g => if f g then g else [s]) := by
  induction gs generalizing ctx ctx' with
  | nil => trivial
  | cons g gs ih =>
    obtain ⟨hg, hgs⟩ := h
    have hrest : ∀ g ∈ gs, ∀ c ∈ g, (Traits.of c).cls.isInner = true :=
      fun g hg => hinner g (List.mem_cons_of_mem _ hg)
    cases g with
    | nil => exact hg.elim
    | cons c g =>
      have hchars := hinner (c :: g) List.mem_cons_self
      have hc := hchars c List.mem_cons_self
      have hlast : (ctx.after (c :: g)).last.isInner = true := by
        rw [Context.after_cons]
        exact last_after_isInner hc fun d hd => hchars d (List.mem_cons_of_mem c hd)
      rw [List.map_cons]
      split
      · -- the cluster is kept
        rcases hctx with rfl | ⟨rfl, hctx⟩
        · exact ⟨hg, ih hgs hrest (.inl rfl)⟩
        · have hattach : (Traits.of c).cls.attaches = false := by
            rw [← Bool.not_eq_true]
            intro hattach
            have := joins_of_attaches hctx hc (.inl hattach)
            rw [hg.1] at this
            cases this
          have hstep : Context.plain.step (Traits.of c) = ctx.step (Traits.of c) :=
            step_eq_of_not_attaches hc hattach
          refine ⟨⟨joins_plain_of_not_attaches hattach, hstep ▸ hg.2⟩, ih hgs hrest (.inl ?_)⟩
          rw [Context.after_cons, Context.after_cons, hstep]
      · -- it is replaced, and nothing is before the new piece that a plain character would join
        have hopen : ctx'.joins .plain = false := by
          rw [← Bool.not_eq_true, joins_plain_iff]
          intro hprepend
          rcases hctx with rfl | ⟨rfl, hctx⟩
          · have := joins_of_attaches (hprepend ▸ rfl) hc (.inr hprepend)
            rw [hg.1] at this
            cases this
          · cases hprepend
        refine ⟨⟨hplain ▸ hopen, trivial⟩, ih hgs hrest (.inr ⟨?_, hlast⟩)⟩
        rw [Context.after_cons, hplain, Context.step_plain, Context.after_nil]

/-! ### Clusters that end in a plain character -/

/-- No character that attaches to what is behind it is a pictograph. -/
theorem prepend_rows_apart : (breakRows.all fun row => row.2.2 != .prepend ||
    pictographs.all (areApart row.1 row.2.1)) = true := by
  decide +kernel

theorem isPictograph_of_prepend (h : breakClass c = .prepend) : isPictograph c = false := by
  rw [← Bool.not_eq_true]
  intro hpictograph
  obtain ⟨lo, hi, hmem, hrange⟩ := RangeTable.exists_of_contains hpictograph
  have hclass :=
    breakClass_of_mem (f := (· != .prepend)) prepend_rows_apart rfl ⟨rfl, rfl⟩ hmem hrange
  exact bne_iff_ne.1 hclass h

/-- Such a character joins nothing but another one. -/
theorem last_of_joins_prepend (h : (Traits.of c).cls = .prepend)
    (hjoins : ctx.joins (Traits.of c) = true) : ctx.last = .prepend := by
  have hpictograph : (Traits.of c).pictograph = false := isPictograph_of_prepend h
  have hrole : (Traits.of c).role ≠ .consonant := by
    show conjunctRole c (breakClass c) ≠ .consonant
    rw [show breakClass c = .prepend from h]
    unfold conjunctRole
    dsimp only
    split <;> simp
  generalize Traits.of c = traits at h hjoins hpictograph hrole
  obtain ⟨last, run, flag, linked⟩ := ctx
  obtain ⟨cls, pictograph, role⟩ := traits
  cases last <;> simp_all [Context.joins]

/-- Before a plain character that joins there are none but characters that attach to what is behind
them. -/
theorem Joined.prepend {s : Char} (hplain : Traits.of s = .plain) (h : Joined ctx (t ++ [s])) :
    ctx.last = .prepend ∧ ∀ c ∈ t, breakClass c = .prepend := by
  induction t generalizing ctx with
  | nil => exact ⟨joins_plain_iff.1 (hplain ▸ h.1), fun c hc => by cases hc⟩
  | cons c t ih =>
    obtain ⟨hlast, ht⟩ := ih h.2
    have hc : (Traits.of c).cls = .prepend := hlast
    exact ⟨last_of_joins_prepend hc h.1, List.forall_mem_cons.2 ⟨hc, ht⟩⟩

/-- A cluster that ends in a plain character has nothing else but such characters before it. -/
theorem IsCluster.prepend {s : Char} (hplain : Traits.of s = .plain)
    (h : IsCluster ctx (t ++ [s])) : ∀ c ∈ t, breakClass c = .prepend := by
  cases t with
  | nil => exact fun c hc => by cases hc
  | cons c t =>
    obtain ⟨hlast, ht⟩ := Joined.prepend hplain h.2
    exact List.forall_mem_cons.2 ⟨hlast, ht⟩

end Namesake.Unicode
