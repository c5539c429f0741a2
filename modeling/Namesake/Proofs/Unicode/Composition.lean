import Namesake.Proofs.Unicode.Order

/-!
# What the composed form keeps

Composing loses nothing: the decomposition of a composed text is the one it was composed from. So
composing again changes nothing, and a text can be called composed if it is its own composed form.
Every piece of a composed text is composed. Put together, two composed texts need not be, for the
second may begin with a mark that joins the end of the first; but nothing joins in front of a
character of ASCII, and nothing joins behind one that has no composites.

## Main definitions

* `Joining` — what joining a starter with the marks behind it does, step by step
* `IsComposed` — a text is its own composed form

## Main results

* `decompose_compose` — composing loses nothing
* `isComposed_nfc` — the composed form is composed
* `IsComposed.of_infix` — the pieces of a composed text are composed
* `IsComposed.append`, `IsComposed.cons` — where composed texts may be put together
-/

namespace Namesake.Unicode

variable {b k : Nat} {c s p : Char} {x y : Classed} {l m rest : List Classed}
variable {kept out t u : Text}

/-! ### Joining one starter -/

/-- The marks that are kept behind a starter, last first: none of them decomposes, and their classes
do not rise from `k` on. -/
def Kept : (k : Nat) → Text → Prop
  | _, [] => True
  | k, c :: rest =>
    (canonical c = [c] ∧ 0 < combiningClass c ∧ combiningClass c ≤ k) ∧ Kept (combiningClass c) rest

/-- The class of the last of them. -/
def lastClass : Text → Nat
  | [] => 0
  | c :: _ => combiningClass c

theorem Kept.mono (h : Kept k kept) (hb : k ≤ b) : Kept b kept := by
  cases kept with
  | nil => trivial
  | cons c kept => exact ⟨⟨h.1.1, h.1.2.1, h.1.2.2.trans hb⟩, h.2⟩

theorem Kept.lastClass_le (h : Kept k kept) : lastClass kept ≤ k := by
  cases kept with
  | nil => exact Nat.zero_le k
  | cons c kept => exact h.1.2.2

theorem Kept.lastClass (h : Kept k kept) : Kept (lastClass kept) kept := by
  cases kept with
  | nil => trivial
  | cons c kept => exact ⟨⟨h.1.1, h.1.2.1, Nat.le_refl _⟩, h.2⟩

theorem Kept.of_mem (h : Kept k kept) (hc : c ∈ kept) :
    canonical c = [c] ∧ 0 < combiningClass c ∧ combiningClass c ≤ k := by
  induction kept generalizing k with
  | nil => cases hc
  | cons d kept ih =>
    rcases List.mem_cons.1 hc with rfl | hc
    · exact h.1
    · exact (ih h.2 hc).imp_right fun hcls => hcls.imp_right fun hle => hle.trans h.1.2.2

/-- Some of the first of them may be left. -/
theorem Kept.drop (h : Kept k kept) (n : Nat) : Kept k (kept.drop n) := by
  induction kept generalizing k n with
  | nil => simpa using h
  | cons c kept ih =>
    cases n with
    | zero => exact h
    | succ n => exact (ih h.2 n).mono h.1.2.2

theorem Kept.expand (h : Kept k kept) : expand kept.reverse = kept.reverse.map .of := by
  have hfull : ∀ c ∈ kept.reverse, canonical c = [c] := fun c hc =>
    (h.of_mem (List.mem_reverse.1 hc)).1
  rw [Unicode.expand, List.flatMap_congr hfull]
  simp

/-- What the next character makes of the starter, if it reaches it and joins it. -/
def joined? (s : Char) (kept : Text) (x : Classed) : Option Char :=
  if kept.isEmpty || lastClass kept < x.cls then composite? s x.char else none

/-- A character that joins comes past marks of smaller class alone. -/
theorem reaches_of_joined (h : joined? s kept x = some p) :
    (kept = [] ∨ lastClass kept < x.cls) ∧ composite? s x.char = some p := by
  unfold joined? at h
  split_ifs at h with hreach
  simpa using And.intro hreach h

/-- It joins also if some of the first of these are not there. -/
theorem joined_drop (hkept : Kept k kept) (h : joined? s kept x = some p) (n : Nat) :
    joined? s (kept.drop n) x = some p := by
  obtain ⟨hreach, hp⟩ := reaches_of_joined h
  have hdrop : kept.drop n = [] ∨ lastClass (kept.drop n) < x.cls := by
    rcases hreach with rfl | hlt
    · exact Or.inl List.drop_nil
    · exact Or.inr (((hkept.lastClass.drop n).lastClass_le).trans_lt hlt)
  unfold joined?
  rw [if_pos (by simpa using hdrop), hp]

/-- Joining a starter `s` with what follows, step by step. The marks `kept` have been passed, and
what follows is in order behind a character of class `b`. -/
inductive Joining : (s : Char) → (kept : Text) → (b : Nat) → List Classed → (out : Text) → Prop
  | done {s : Char} {kept : Text} {b : Nat} (hkept : Kept b kept) :
      Joining s kept b [] (s :: kept.reverse)
  /-- The next character joins. -/
  | join {s p : Char} {kept out : Text} {b : Nat} {x : Classed} {rest : List Classed}
      (hkept : Kept b kept) (hx : x.Full) (hb : x.cls = 0 ∨ b ≤ x.cls)
      (h : joined? s kept x = some p)
      (hrest : Joining p kept x.cls rest out) : Joining s kept b (x :: rest) out
  /-- The next starter begins. -/
  | start {s : Char} {kept out : Text} {b : Nat} {x : Classed} {rest : List Classed}
      (hkept : Kept b kept) (hx : x.Full) (hzero : x.cls = 0) (h : joined? s kept x = none)
      (hrest : Joining x.char [] 0 rest out) :
        Joining s kept b (x :: rest) (s :: (kept.reverse ++ out))
  /-- The next mark is kept. -/
  | keep {s : Char} {kept out : Text} {b : Nat} {x : Classed} {rest : List Classed}
      (hkept : Kept b kept) (hx : x.Full) (hpos : 0 < x.cls) (hb : b ≤ x.cls)
      (h : joined? s kept x = none) (hrest : Joining s (x.char :: kept) x.cls rest out) :
      Joining s kept b (x :: rest) out

theorem Classed.Full.cls (h : x.Full) : combiningClass x.char = x.cls := by
  rw [h.1]
  rfl

theorem joinFrom_cons (s : Char) (kept : Text) (x : Classed) (rest : List Classed) :
    joinFrom s kept (lastClass kept) (x :: rest) =
      match joined? s kept x with
      | some p => joinFrom p kept (lastClass kept) rest
      | none =>
        if x.cls = 0 then s :: (kept.reverse ++ joinFrom x.char [] 0 rest)
        else joinFrom s (x.char :: kept) x.cls rest :=
  rfl

/-- Joining is done in these steps. -/
theorem joining_joinFrom (hkept : Kept b kept) (hrest : Ordered b rest)
    (hfull : ∀ x ∈ rest, x.Full) :
    Joining s kept b rest (joinFrom s kept (lastClass kept) rest) := by
  induction rest generalizing s kept b with
  | nil => exact .done hkept
  | cons x rest ih =>
    obtain ⟨hx, hrest⟩ := hrest
    obtain ⟨hxfull, hfull⟩ := List.forall_mem_cons.1 hfull
    rw [joinFrom_cons]
    cases h : joined? s kept x with
    | some p =>
      -- marks have been passed only if what joins is a mark behind them in the order
      have hkept' : Kept x.cls kept := by
        rcases (reaches_of_joined h).1 with rfl | hlt
        · trivial
        · exact hkept.lastClass.mono hlt.le
      exact .join hkept hxfull hx h (ih hkept' hrest hfull)
    | none =>
      dsimp only
      split_ifs with hzero
      · rw [hzero] at hrest
        exact .start hkept hxfull hzero h (ih trivial hrest hfull)
      · have hb : b ≤ x.cls := by omega
        have hkept' : Kept x.cls (x.char :: kept) := by
          rw [Kept, hxfull.cls]
          exact ⟨⟨hxfull.2, by omega, Nat.le_refl _⟩, hkept.mono hb⟩
        have hlast : lastClass (x.char :: kept) = x.cls := hxfull.cls
        rw [← hlast]
        exact .keep hkept hxfull (by omega) hb h (ih hkept' hrest hfull)

namespace Joining

/-- The steps determine what comes out. -/
theorem eq (h : Joining s kept b rest out) : joinFrom s kept (lastClass kept) rest = out := by
  induction h with
  | done => rfl
  | join _ _ _ h _ ih =>
    rw [joinFrom_cons, h]
    exact ih
  | start _ _ hzero h _ ih =>
    rw [joinFrom_cons, h]
    exact (if_pos hzero).trans (congrArg _ (congrArg _ ih))
  | keep _ hx hpos _ h _ ih =>
    rw [joinFrom_cons, h]
    rw [lastClass, hx.cls] at ih
    exact (if_neg (by omega)).trans ih

theorem ordered (h : Joining s kept b rest out) : Ordered b rest := by
  induction h with
  | done => trivial
  | join _ _ hb _ _ ih => exact ⟨hb, ih⟩
  | start _ _ hzero _ _ ih => exact ⟨Or.inl hzero, hzero ▸ ih⟩
  | keep _ _ _ hb _ _ ih => exact ⟨Or.inr hb, ih⟩

theorem full (h : Joining s kept b rest out) : ∀ x ∈ rest, x.Full := by
  induction h with
  | done => exact fun x hx => by cases hx
  | join _ hx _ _ _ ih => exact List.forall_mem_cons.2 ⟨hx, ih⟩
  | start _ hx _ _ _ ih => exact List.forall_mem_cons.2 ⟨hx, ih⟩
  | keep _ hx _ _ _ _ ih => exact List.forall_mem_cons.2 ⟨hx, ih⟩

/-- What is in order behind a mark is in order behind one of smaller class. -/
theorem weaken (h : Joining s kept k rest out) (hkept : Kept b kept) (hb : b ≤ k) :
    Joining s kept b rest out := by
  cases h with
  | done => exact .done hkept
  | join _ hx hle h hrest => exact .join hkept hx (hle.imp_right hb.trans) h hrest
  | start _ hx hzero h hrest => exact .start hkept hx hzero h hrest
  | keep _ hx hpos hle h hrest => exact .keep hkept hx hpos (hb.trans hle) h hrest

/-- Nothing is lost: sorted again, what comes out decomposes into what went in. -/
theorem sortMarks_expand (h : Joining s kept b rest out) :
    sortMarks (expand out) = sortMarks (expand [s] ++ (kept.reverse.map .of ++ rest)) := by
  induction h with
  | done hkept => rw [expand_cons, hkept.expand, List.append_nil]
  | @join s p kept _ _ x _ hkept hx _ h _ ih =>
    obtain ⟨hreach, hp⟩ := reaches_of_joined h
    have hexpand : expand [p] = expand [s] ++ [x] := by
      simp [expand, canonical_of_composite hp, ← hx.1]
    have hpass : ∀ y ∈ kept.reverse.map Classed.of, 0 < y.cls ∧ y.cls < x.cls := by
      intro y hy
      obtain ⟨c, hc, rfl⟩ := List.mem_map.1 hy
      have hc := List.mem_reverse.1 hc
      obtain ⟨-, hpos, hle⟩ := hkept.lastClass.of_mem hc
      exact ⟨hpos, hle.trans_lt (hreach.resolve_left (List.ne_nil_of_mem hc))⟩
    rw [ih, hexpand, List.append_assoc, List.singleton_append, sortMarks_append,
      sortMarks_pass hpass,
      ← sortMarks_append]
  | start hkept hx _ _ _ ih =>
    rw [expand_cons, expand_append, hkept.expand, sortMarks_append, sortMarks_append, ih,
      expand_of_full hx.2, ← hx.1, ← sortMarks_append, ← sortMarks_append]
    rfl
  | keep hkept hx _ _ _ _ ih =>
    rw [ih, List.reverse_cons, List.map_append, List.map_singleton, ← hx.1, List.append_assoc]
    rfl

/-- The first `n + 1` characters of what comes out come from a part of what went in: the marks
behind them are left out, and the starters, but not what has joined. -/
theorem take (h : Joining s kept b rest out) (n : Nat) :
    ∃ rest', Joining s (kept.drop (kept.length - n)) b rest' (out.take (n + 1)) := by
  induction h generalizing n with
  | @done s kept b hkept =>
    refine ⟨[], ?_⟩
    rw [List.take_succ_cons, List.take_reverse]
    exact .done (hkept.drop _)
  | join hkept hx hb h _ ih =>
    obtain ⟨rest', hrest'⟩ := ih n
    exact ⟨_, .join (hkept.drop _) hx hb (joined_drop hkept h _) hrest'⟩
  | @start s kept out b x rest hkept hx hzero h _ ih =>
    rw [List.take_succ_cons]
    by_cases hn : n ≤ kept.length
    · refine ⟨[], ?_⟩
      rw [List.take_append_of_le_length (by rwa [List.length_reverse]), List.take_reverse]
      exact .done (hkept.drop _)
    · obtain ⟨m, rfl⟩ : ∃ m, n = kept.length + (m + 1) := ⟨n - kept.length - 1, by omega⟩
      obtain ⟨rest', hrest'⟩ := ih m
      have hdrop : kept.length - (kept.length + (m + 1)) = 0 := by omega
      have htake : (kept.reverse ++ out).take (kept.length + (m + 1)) =
          kept.reverse ++ out.take (m + 1) := by
        rw [← List.length_reverse, List.take_length_add_append]
      rw [List.drop_nil] at hrest'
      rw [hdrop, htake]
      exact ⟨_, .start hkept hx hzero h hrest'⟩
  | @keep s kept out b x rest hkept hx hpos hb h _ ih =>
    obtain ⟨rest', hrest'⟩ := ih n
    by_cases hn : n ≤ kept.length
    · -- the mark itself is left out
      rw [List.length_cons, Nat.sub_add_comm hn, List.drop_succ_cons] at hrest'
      exact ⟨rest', hrest'.weaken (hkept.drop _) hb⟩
    · have hdrop : kept.length - n = 0 := by omega
      have hdrop' : (x.char :: kept).length - n = 0 := by
        rw [List.length_cons]
        omega
      rw [hdrop'] at hrest'
      rw [hdrop]
      exact ⟨_, .keep hkept hx hpos hb h hrest'⟩

/-- What comes out behind the first character comes from a part of what went in as well. -/
theorem tail (h : Joining s kept b rest out) :
    ∃ s' m, Ordered (lastClass kept) m ∧ (∀ x ∈ m, x.Full) ∧
      out = s' :: (kept.reverse ++ compose m) := by
  induction h with
  | @done s kept b hkept =>
    exact ⟨s, [], trivial, fun x hx => (by cases hx), by rw [compose, List.append_nil]⟩
  | join _ _ _ _ _ ih => exact ih
  | @start s kept out b x rest hkept hx hzero h hrest ih =>
    refine ⟨s, x :: rest, ⟨Or.inl hzero, hzero ▸ hrest.ordered⟩,
      List.forall_mem_cons.2 ⟨hx, hrest.full⟩, ?_⟩
    rw [compose, if_pos hzero, ← hrest.eq]
    rfl
  | @keep s kept out b x rest hkept hx hpos hb h hrest ih =>
    obtain ⟨s', m, hm, hfull, rfl⟩ := ih
    rw [lastClass, hx.cls] at hm
    refine ⟨s', x :: m, ⟨Or.inr (hkept.lastClass_le.trans hb), hm⟩,
      List.forall_mem_cons.2 ⟨hx, hfull⟩, ?_⟩
    rw [compose, if_neg (by omega), List.reverse_cons, List.append_assoc, List.singleton_append]

end Joining

/-! ### Composing -/

/-- What an element in front composes to. -/
theorem compose_mark (hx : 0 < x.cls) (l : List Classed) :
    compose (x :: l) = x.char :: compose l := by
  rw [compose, if_neg (by omega)]

theorem joining_compose (hx : x.cls = 0) (hrest : Ordered 0 rest) (hfull : ∀ y ∈ rest, y.Full) :
    Joining x.char [] 0 rest (compose (x :: rest)) := by
  rw [compose, if_pos hx]
  exact joining_joinFrom trivial hrest hfull

/-- Composing loses nothing. -/
theorem decompose_compose (h : IsDecomposed l) : decompose (compose l) = l := by
  have hsort : sortMarks (expand (compose l)) = sortMarks l := by
    obtain ⟨hordered, hfull⟩ := h
    induction l with
    | nil => rfl
    | cons x l ih =>
      obtain ⟨hx, hrest⟩ := List.forall_mem_cons.1 hfull
      by_cases hzero : x.cls = 0
      · rw [(joining_compose hzero (hzero ▸ hordered.2) hrest).sortMarks_expand,
          expand_of_full hx.2,
          ← hx.1]
        rfl
      · rw [compose_mark (by omega), expand_cons, expand_of_full hx.2, ← hx.1,
          List.singleton_append,
          sortMarks, ih (hordered.2.mono (Nat.zero_le _)) hrest, sortMarks]
  rw [decompose_eq, hsort, sortMarks_of_ordered h.ordered]

/-- The first characters of a composed form come from a part of what it was composed from. -/
theorem compose_take (hordered : Ordered k l) (hfull : ∀ x ∈ l, x.Full) (n : Nat) :
    ∃ l', Ordered k l' ∧ (∀ x ∈ l', x.Full) ∧ compose l' = (compose l).take n := by
  induction l generalizing k n with
  | nil => exact ⟨[], trivial, hfull, by simp [compose]⟩
  | cons x l ih =>
    obtain ⟨hx, hrest⟩ := List.forall_mem_cons.1 hfull
    cases n with
    | zero => exact ⟨[], trivial, fun y hy => (by cases hy), rfl⟩
    | succ n =>
      by_cases hzero : x.cls = 0
      · obtain ⟨rest', htake⟩ := (joining_compose hzero (hzero ▸ hordered.2) hrest).take n
        rw [List.drop_nil] at htake
        refine ⟨x :: rest', ⟨Or.inl hzero, hzero ▸ htake.ordered⟩,
          List.forall_mem_cons.2 ⟨hx, htake.full⟩, ?_⟩
        rw [compose, if_pos hzero]
        exact htake.eq
      · obtain ⟨l', hordered', hfull', htake⟩ := ih hordered.2 hrest n
        refine ⟨x :: l', ⟨hordered.1, hordered'⟩, List.forall_mem_cons.2 ⟨hx, hfull'⟩, ?_⟩
        rw [compose_mark (by omega), compose_mark (by omega), htake, List.take_succ_cons]

/-- So does what is behind the first character. -/
theorem compose_tail (h : IsDecomposed l) (ht : compose l = c :: t) :
    ∃ m, IsDecomposed m ∧ compose m = t := by
  obtain ⟨hordered, hfull⟩ := h
  cases l with
  | nil => cases ht
  | cons x l =>
    obtain ⟨hx, hrest⟩ := List.forall_mem_cons.1 hfull
    by_cases hzero : x.cls = 0
    · obtain ⟨s', m, hm, hfull', hout⟩ := (joining_compose hzero (hzero ▸ hordered.2) hrest).tail
      rw [ht] at hout
      exact ⟨m, ⟨hm, hfull'⟩, (List.cons.inj hout).2.symm⟩
    · rw [compose_mark (by omega)] at ht
      exact ⟨l, ⟨hordered.2.mono (Nat.zero_le _), hrest⟩, (List.cons.inj ht).2⟩

/-! ### Composed texts -/

/-- The text is its own composed form. -/
def IsComposed (t : Text) : Prop :=
  nfc t = t

instance (t : Text) : Decidable (IsComposed t) :=
  inferInstanceAs (Decidable (nfc t = t))

theorem isComposed_compose (h : IsDecomposed l) : IsComposed (compose l) :=
  congrArg compose (decompose_compose h)

/-- The composed form of a text decomposes as the text does. -/
theorem decompose_nfc (t : Text) : decompose (nfc t) = decompose t :=
  decompose_compose (decompose_isDecomposed t)

/-- A character that does not decompose and is part of no decomposition is not made by composing. -/
theorem mem_of_mem_nfc (hlow : c.toNat < 0xC0) (hrows : ∀ row ∈ decompositionRows, c.toNat ∉ row.2)
    (h : c ∈ nfc t) : c ∈ t := by
  have hexpand : ∀ {u : Text}, Classed.of c ∈ decompose u ↔ c ∈ u.flatMap canonical := by
    intro u
    rw [decompose_eq, (sortMarks_perm _).mem_iff, expand]
    exact List.mem_map_of_injective fun _ _ h => congrArg Classed.char h
  have hmem : c ∈ t.flatMap canonical := by
    rw [← hexpand, ← decompose_nfc, hexpand]
    exact List.mem_flatMap.2 ⟨c, h, by rw [canonical_of_lt hlow]; exact List.mem_singleton_self c⟩
  obtain ⟨d, hd, hc⟩ := List.mem_flatMap.1 hmem
  rwa [eq_of_mem_canonical hlow hrows hc] at hd

/-- Composing again changes nothing. -/
theorem isComposed_nfc (t : Text) : IsComposed (nfc t) :=
  isComposed_compose (decompose_isDecomposed t)

namespace IsComposed

theorem nil : IsComposed [] := rfl

theorem of_cons (h : IsComposed (c :: t)) : IsComposed t := by
  obtain ⟨m, hm, rfl⟩ := compose_tail (decompose_isDecomposed _) h
  exact isComposed_compose hm

theorem of_append_right (h : IsComposed (t ++ u)) : IsComposed u := by
  induction t with
  | nil => exact h
  | cons c t ih => exact ih h.of_cons

theorem of_append_left (h : IsComposed (t ++ u)) : IsComposed t := by
  obtain ⟨hordered, hfull⟩ := decompose_isDecomposed (t ++ u)
  obtain ⟨l', hordered', hfull', htake⟩ := compose_take hordered hfull t.length
  have hcompose : compose (decompose (t ++ u)) = t ++ u := h
  rw [hcompose, List.take_left] at htake
  rw [← htake]
  exact isComposed_compose ⟨hordered', hfull'⟩

/-- The pieces of a composed text are composed. -/
theorem of_infix (h : IsComposed t) (hu : u <:+: t) : IsComposed u := by
  obtain ⟨a, b, rfl⟩ := hu
  exact h.of_append_left.of_append_right

end IsComposed

/-! ### Putting texts together -/

theorem combiningClass_of_lt (h : c.toNat < 0x300) : combiningClass c = 0 := by
  rw [combiningClass, classRanges]
  exact if_pos h

/-- A character that does not decompose and is below the first mark is a starter. -/
theorem cls_of_lt (h : c.toNat < 0xC0) : (Classed.of c).cls = 0 :=
  combiningClass_of_lt (Nat.lt_trans h (by decide))

theorem composite?_of_lt (h : c.toNat < 0x300) (s : Char) : composite? s c = none := by
  rw [composite?]
  exact if_pos h

/-- What is below the first mark does not join what is before it. -/
theorem joinFrom_append (hzero : x.cls = 0) (hx : x.char.toNat < 0x300) (s : Char) (kept : Text)
    (last : Nat) (l m : List Classed) :
    joinFrom s kept last (l ++ x :: m) = joinFrom s kept last l ++ compose (x :: m) := by
  induction l generalizing s kept last with
  | nil =>
    rw [List.nil_append, joinFrom, joinFrom, composite?_of_lt hx, ite_self, compose]
    simp [hzero]
  | cons y l ih =>
    rw [List.cons_append, joinFrom, joinFrom]
    split
    · exact ih _ _ _
    · split_ifs
      · rw [ih, List.cons_append, List.append_assoc]
      · exact ih _ _ _

theorem compose_append (hzero : x.cls = 0) (hx : x.char.toNat < 0x300) (l m : List Classed) :
    compose (l ++ x :: m) = compose l ++ compose (x :: m) := by
  induction l with
  | nil => rfl
  | cons y l ih =>
    rw [List.cons_append, compose, compose]
    split_ifs
    · exact joinFrom_append hzero hx _ _ _ _ _
    · rw [ih, List.cons_append]

/-- Such a character is its own decomposition, and nothing is sorted past it. -/
theorem decompose_cons (hc : c.toNat < 0xC0) (t : Text) :
    decompose (c :: t) = .of c :: decompose t := by
  rw [decompose_eq, expand_cons, expand_of_full (canonical_of_lt hc)]
  exact sortMarks_append_starter [] (expand t) (cls_of_lt hc)

/-- The composed form of a text is that of its two parts if the second begins with such a character.
-/
theorem nfc_append (hc : c.toNat < 0xC0) (t u : Text) :
    nfc (t ++ c :: u) = nfc t ++ nfc (c :: u) := by
  have hdecompose : decompose (t ++ c :: u) = decompose t ++ decompose (c :: u) := by
    rw [decompose_cons hc, decompose_eq, expand_append, expand_cons, expand_of_full
      (canonical_of_lt hc)]
    exact sortMarks_append_starter _ _ (cls_of_lt hc)
  rw [nfc, hdecompose, decompose_cons hc, compose_append (cls_of_lt hc)
    (Nat.lt_trans hc (by decide)),
    nfc, nfc, decompose_cons hc]

/-- The character does not decompose and has no composites. -/
def IsApart (c : Char) : Prop :=
  c.toNat < 0xC0 ∧ ∀ d, composite? c d = none

theorem isApart_of_not_listed (hc : c.toNat < 0xC0)
    (h : ∀ row ∈ compositionRows, ∀ pair ∈ row.2, pair.1 ≠ c.toNat) : IsApart c := by
  refine ⟨hc, fun d => ?_⟩
  have hjoin : Hangul.join? c.toNat d.toNat = none := by
    have hlead : ¬ Hangul.leadBase ≤ c.toNat := by
      unfold Hangul.leadBase
      omega
    have hsyllable : ¬ Hangul.isSyllable c.toNat = true := by
      rw [isSyllable_iff]
      omega
    rw [Hangul.join?, if_neg fun h => hlead h.1, if_neg fun h => hsyllable h.1]
  rw [composite?]
  split_ifs
  · rfl
  · rw [hjoin, Option.map_eq_none_iff, Option.eq_none_iff_forall_ne_some]
    intro n hn
    obtain ⟨row, hrow, -, hpair⟩ := mem_of_mem_joinersIn (mem_of_joinIn hn)
    exact h row hrow _ hpair rfl

/-- Nothing joins a character without composites. -/
theorem joinFrom_apart (hs : ∀ d, composite? s d = none) (kept : Text) (last : Nat)
    (l : List Classed) :
    joinFrom s kept last l = s :: (kept.reverse ++ compose l) := by
  induction l generalizing kept last with
  | nil => rw [joinFrom, compose, List.append_nil]
  | cons x l ih =>
    rw [joinFrom, hs, ite_self, compose]
    split_ifs
    · rfl
    · rw [ih, List.reverse_cons, List.append_assoc, List.singleton_append]

theorem nfc_cons (hc : IsApart c) (t : Text) : nfc (c :: t) = c :: nfc t := by
  rw [nfc, decompose_cons hc.1, compose, if_pos (cls_of_lt hc.1)]
  exact joinFrom_apart hc.2 [] 0 _

namespace IsComposed

/-- Nothing joins what is before a character of ASCII. -/
theorem append (ht : IsComposed t) (hu : IsComposed u) (h : ∀ c ∈ u.head?, c.toNat < 0xC0) :
    IsComposed (t ++ u) := by
  cases u with
  | nil => rwa [List.append_nil]
  | cons c u =>
    rw [IsComposed, nfc_append (h c rfl), ht, hu]

/-- Nothing joins a character without composites. -/
theorem cons (hc : IsApart c) (h : IsComposed t) : IsComposed (c :: t) := by
  rw [IsComposed, nfc_cons hc, h]

/-- Such a character may be put between any two texts. -/
theorem between (hc : IsApart c) (ht : IsComposed t) (hu : IsComposed u) :
    IsComposed (t ++ c :: u) :=
  ht.append (hu.cons hc) fun d hd => by
    obtain rfl := Option.some.inj hd
    exact hc.1

/-- Text that has no characters but such as do not decompose and are below the first mark. -/
theorem of_low (h : ∀ c ∈ t, c.toNat < 0xC0) : IsComposed t := by
  induction t with
  | nil => rfl
  | cons c t ih =>
    have hrest : ∀ d ∈ t, d.toNat < 0xC0 := fun d hd => h d (List.mem_cons_of_mem c hd)
    have hsingle : IsComposed [c] := by
      have hc := h c List.mem_cons_self
      rw [IsComposed, nfc, decompose_cons hc, compose, if_pos (cls_of_lt hc)]
      rfl
    exact hsingle.append (ih hrest) fun d hd => hrest d (List.mem_of_mem_head? hd)

end IsComposed

end Namesake.Unicode
