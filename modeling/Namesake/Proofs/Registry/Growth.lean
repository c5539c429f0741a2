import Mathlib.Logic.Relation
import Namesake.Registry.Session

/-!
# How a store grows

While names are resolved a store only grows, and only by names that nobody holds: a resolver inserts
the name that it has won, and other workers insert the names that they take. From one such insertion
everything follows that a whole run keeps: who holds a name goes on to hold it, and no name comes to
be held by both kinds.

## Main definitions

* `Store.Disjoint` — no name is held by both kinds
* `Store.AddsNew`, `Store.Grows` — one insertion of a name that nobody holds, and any number of them
* `Store.Taken` — other workers take some names one after the other

## Main results

* `Store.hasAs_insert` — after an insertion exactly one name more is held, by one kind
* `Store.Grows.has`, `Store.Grows.disjoint` — names stay held, and kinds stay apart
* `Store.Taken.hasAs_iff` — names that others have taken are held, besides the earlier ones
-/

namespace Namesake.Store

variable {store a b c : Store} {kind k : NameKind} {name n : Text} {display : Option Text}
variable {now : String} {taken : List Theft} {theft : Theft}

/-- No name is held by both kinds. -/
def Disjoint (store : Store) : Prop :=
  ∀ name, ¬ (store.hasAs .username name = true ∧ store.hasAs .groupName name = true)

/-- A name is taken if one of the kinds holds it. -/
theorem has_iff : store.has n = true ↔ ∃ k, store.hasAs k n = true := by
  cases store with
  | memory sets =>
    simp only [has, hasAs, NameSets.has, Bool.or_eq_true]
    constructor
    · rintro (h | h)
      · exact ⟨.username, h⟩
      · exact ⟨.groupName, h⟩
    · rintro ⟨_ | _, h⟩
      · exact Or.inl h
      · exact Or.inr h
  | table rows =>
    simp only [has, hasAs, Std.TreeMap.contains_eq_isSome_getElem?, Std.TreeMap.get?_eq_getElem?]
    cases rows[n]? <;> simp

theorem hasAs_eq_false (h : store.has n = false) (k : NameKind) : store.hasAs k n = false := by
  rw [← Bool.not_eq_true] at h ⊢
  exact fun hk => h (has_iff.2 ⟨k, hk⟩)

/-! ### One more name -/

theorem names_setNames (sets : NameSets) (kind k : NameKind) (names : TextSet) :
    (sets.setNames kind names).names k = if k = kind then names else sets.names k := by
  cases kind <;> cases k <;> rfl

/-- After the insertion of a name that nobody holds, one kind holds one more name. -/
theorem hasAs_insert (h : store.has name = false) :
    (store.insert kind name display now).hasAs k n = true ↔
      store.hasAs k n = true ∨ (k = kind ∧ n = name) := by
  cases store with
  | memory sets =>
    simp only [insert, hasAs, NameSets.add, names_setNames]
    -- only the set of one kind has changed
    split
    · rename_i hk
      rw [hk, Std.TreeSet.contains_insert, Bool.or_eq_true, beq_iff_eq,
        Std.LawfulEqCmp.compare_eq_iff_eq, or_comm, @eq_comm _ name]
      simp
    · simp [*]
  | table rows =>
    -- a row that stood under the name would be lost here, and its kind with it
    have hfree : rows[name]? = none := by
      rw [← Option.not_isSome_iff_eq_none, ← Std.TreeMap.contains_eq_isSome_getElem?,
        Bool.not_eq_true]
      exact h
    simp only [insert, hasAs, Std.TreeMap.get?_eq_getElem?, Std.TreeMap.getElem?_insert]
    by_cases hn : name = n
    · subst hn
      simp only [Std.ReflCmp.compare_self, if_true, Option.any_some, decide_eq_true_eq, hfree,
        Option.any_none, Bool.false_eq_true, and_true, false_or]
      exact eq_comm
    · simp [hn, Ne.symm hn]

theorem has_insert (h : store.has name = false) :
    (store.insert kind name display now).has n = true ↔ store.has n = true ∨ n = name := by
  simp only [has_iff, hasAs_insert h]
  constructor
  · rintro ⟨k, hk | ⟨-, rfl⟩⟩
    · exact Or.inl ⟨k, hk⟩
    · exact Or.inr rfl
  · rintro (⟨k, hk⟩ | rfl)
    · exact ⟨k, Or.inl hk⟩
    · exact ⟨kind, Or.inr ⟨rfl, rfl⟩⟩

/-- A table with one more name has the row of the name. -/
theorem get?_insert {rows : Table} (h : store.insert kind name display now = table rows) :
    rows.get? name = some ⟨kind, display, now⟩ := by
  cases store with
  | memory sets => cases h
  | table old =>
    cases h
    rw [Std.TreeMap.get?_eq_getElem?, Std.TreeMap.getElem?_insert_self]

/-- Kinds that hold no name together hold none together with a name that nobody held. -/
theorem Disjoint.insert (hd : store.Disjoint) (h : store.has name = false) :
    (store.insert kind name display now).Disjoint := by
  intro n
  rw [hasAs_insert h, hasAs_insert h]
  -- each kind holds the name from before or has been given it; nobody held it before, so not both
  rintro ⟨hu | ⟨hu, rfl⟩, hg | ⟨hg, hn⟩⟩
  · exact hd n ⟨hu, hg⟩
  · simp [hn, hasAs_eq_false h] at hu
  · simp [hasAs_eq_false h] at hg
  · exact absurd (hu.trans hg.symm) (by decide)

/-! ### Any number of names -/

/-- The second store has one name more, which nobody holds in the first. -/
def AddsNew (a b : Store) : Prop :=
  ∃ kind name display now, a.has name = false ∧ b = a.insert kind name display now

/-- The second store has some names more, each of them inserted when nobody held it. -/
abbrev Grows : Store → Store → Prop :=
  Relation.ReflTransGen AddsNew

theorem Grows.insert (h : a.has name = false) : Grows a (a.insert kind name display now) :=
  .single ⟨kind, name, display, now, h, rfl⟩

/-- Names stay taken. -/
theorem Grows.has (h : Grows a b) (hn : a.has n = true) : b.has n = true := by
  induction h with
  | refl => exact hn
  | tail _ hstep ih =>
    obtain ⟨kind, name, display, now, hfree, rfl⟩ := hstep
    exact (has_insert hfree).2 (Or.inl ih)

/-- Kinds that are apart stay apart. -/
theorem Grows.disjoint (h : Grows a b) (hd : a.Disjoint) : b.Disjoint := by
  induction h with
  | refl => exact hd
  | tail _ hstep ih =>
    obtain ⟨kind, name, display, now, hfree, rfl⟩ := hstep
    exact ih.insert hfree

/-! ### What other workers take -/

/-- Other workers take the names one after the other, each of them when nobody holds it. -/
inductive Taken (now : String) (a : Store) : List Theft → Store → Prop
  | none : Taken now a [] a
  | more {taken : List Theft} {b : Store} {theft : Theft} :
      Taken now a taken b → b.has theft.name = false →
        Taken now a (taken ++ [theft]) (b.insert theft.kind theft.name .none now)

theorem Taken.one (h : a.has theft.name = false) :
    Taken now a [theft] (a.insert theft.kind theft.name .none now) :=
  Taken.more .none h

theorem Taken.append {more : List Theft} (h : Taken now a taken b) (h' : Taken now b more c) :
    Taken now a (taken ++ more) c := by
  induction h' with
  | none => simpa using h
  | more _ hfree ih =>
    rw [← List.append_assoc]
    exact ih.more hfree

theorem Taken.grows (h : Taken now a taken b) : Grows a b := by
  induction h with
  | none => exact .refl
  | more _ hfree ih => exact ih.trans (Grows.insert hfree)

/-- Besides the earlier names exactly the taken ones are held, each by the kind that it was taken
for. -/
theorem Taken.hasAs_iff (h : Taken now a taken b) :
    b.hasAs k n = true ↔ a.hasAs k n = true ∨ ⟨n, k⟩ ∈ taken := by
  induction h with
  | none => simp
  | @more _ _ theft _ hfree ih =>
    rw [hasAs_insert hfree, ih, List.mem_append, List.mem_singleton, or_assoc]
    cases theft
    simp [and_comm]

end Namesake.Store
