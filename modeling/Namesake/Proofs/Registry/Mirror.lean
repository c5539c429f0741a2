import Mathlib.Data.List.Sort
import Namesake.Proofs.Likeness
import Namesake.Proofs.Registry.Calm

/-!
# Sets in memory, and their mirror in a table

A table mirrors the sets of a store in memory if each kind holds the same names in both. Whatever
the registry is asked for then, in whatever order, both stores give the same answers, and the table
goes on to mirror the sets: they differ in how a name is claimed and given back, but not in what
becomes of it. Only sets without a common name have a mirror, since a table has one row for a name.

## Main definitions

* `Store.Mirrors` — the one store is in memory, the other is a table, and both hold the same names
* `Registry.Op`, `Registry.Answer` — what the registry may be asked for, and what it answers
* `Registry.perform` — one of these, in a session

## Main results

* `Store.exists_mirror` — sets without a common name have a mirror
* `Registry.perform_respects` — an operation is answered alike, and the mirror stays one
* `Registry.mapM_perform_mirrors` — so is any sequence of operations
-/

open Namesake.Task

namespace Namesake

/-! ### Mirrors -/

namespace Store

variable {store a b : Store} {kind k : NameKind} {name n : Text} {display : Option Text}
variable {now now' : String}

/-- The first store is in memory and the second one a table, and each kind holds the same names in
both. -/
structure Mirrors (a b : Store) : Prop where
  memory : ∃ sets, a = .memory sets
  table : ∃ rows, b = .table rows
  hasAs : ∀ kind name, a.hasAs kind name = b.hasAs kind name

theorem Mirrors.has (h : Mirrors a b) (name : Text) : a.has name = b.has name := by
  rw [Bool.eq_iff_iff, has_iff, has_iff]
  simp only [h.hasAs]

/-- Both stores get a name that nobody holds. -/
theorem Mirrors.insert (h : Mirrors a b) (hfree : a.has name = false) :
    Mirrors (a.insert kind name display now) (b.insert kind name display now') where
  memory := by
    obtain ⟨sets, rfl⟩ := h.memory
    exact ⟨_, rfl⟩
  table := by
    obtain ⟨rows, rfl⟩ := h.table
    exact ⟨_, rfl⟩
  hasAs := fun k n => by
    rw [Bool.eq_iff_iff, hasAs_insert hfree, hasAs_insert ((h.has name).symm.trans hfree), h.hasAs]

/-- A kind gives a name back in both stores. -/
theorem Mirrors.erase (h : Mirrors a b) (kind : NameKind) (name : Text) :
    Mirrors (a.erase kind name) (b.erase kind name) where
  memory := by
    obtain ⟨sets, rfl⟩ := h.memory
    exact ⟨_, rfl⟩
  table := by
    obtain ⟨rows, rfl⟩ := h.table
    unfold Store.erase
    dsimp only
    split
    · exact ⟨_, rfl⟩
    · exact ⟨_, rfl⟩
  hasAs := fun k n => by
    rw [Bool.eq_iff_iff, hasAs_erase, hasAs_erase, h.hasAs]

/-- In a table no name is held by both kinds. -/
theorem disjoint_table (rows : Table) : Disjoint (.table rows) := by
  rintro name ⟨hu, hg⟩
  rw [hasAs] at hu hg
  cases hrow : rows.get? name with
  | none =>
    rw [hrow] at hu
    cases hu
  | some row =>
    rw [hrow, Option.any_some, decide_eq_true_eq] at hu hg
    exact absurd (hu.symm.trans hg) (by decide)

/-- Sets that have a mirror have no name in common. -/
theorem Mirrors.disjoint (h : Mirrors a b) : a.Disjoint := by
  obtain ⟨rows, rfl⟩ := h.table
  intro name
  rw [h.hasAs, h.hasAs]
  exact disjoint_table rows name

theorem Disjoint.kind_unique (h : store.Disjoint) (hk : store.hasAs k name = true)
    (hkind : store.hasAs kind name = true) : k = kind := by
  cases k with
  | username =>
    cases kind with
    | username => rfl
    | groupName => exact (h name ⟨hk, hkind⟩).elim
  | groupName =>
    cases kind with
    | username => exact (h name ⟨hkind, hk⟩).elim
    | groupName => rfl

/-- The names that a kind holds are met by going through them. -/
theorem mem_names : n ∈ store.names kind ↔ store.hasAs kind n = true := by
  cases store with
  | memory sets =>
    rw [names, hasAs, Std.TreeSet.mem_toList, Std.TreeSet.mem_iff_contains]
  | table rows =>
    simp only [names, Table.names, hasAs, List.mem_filterMap, Std.TreeMap.get?_eq_getElem?,
      Option.any_eq_true, decide_eq_true_eq, Option.ite_none_right_eq_some, Option.some.injEq]
    constructor
    · rintro ⟨e, he, hkind, rfl⟩
      exact ⟨e.2, Std.TreeMap.mem_toList_iff_getElem?_eq_some.1 he, hkind⟩
    · rintro ⟨row, hrow, hkind⟩
      exact ⟨(n, row), Std.TreeMap.mem_toList_iff_getElem?_eq_some.2 hrow, hkind, rfl⟩

/-- They are met in order. -/
theorem names_ordered (store : Store) (kind : NameKind) :
    (store.names kind).Pairwise fun a b => compare a b = .lt := by
  cases store with
  | memory sets => exact Std.TreeSet.ordered_toList
  | table rows =>
    refine List.Pairwise.filterMap _ (fun a b hab x hx y hy => ?_) Std.TreeMap.ordered_keys_toList
    simp only [Option.ite_none_right_eq_some, Option.some.injEq] at hx hy
    obtain ⟨-, rfl⟩ := hx
    obtain ⟨-, rfl⟩ := hy
    exact hab

/-- Going through the names of a kind meets the same ones in the same order. -/
theorem Mirrors.names (h : Mirrors a b) (kind : NameKind) : a.names kind = b.names kind := by
  have : Std.Irrefl fun a b : Text => compare a b = .lt := ⟨fun a h => by simp at h⟩
  have : Std.Antisymm fun a b : Text => compare a b = .lt :=
    ⟨fun a b hab hba => (Std.OrientedCmp.not_lt_of_lt hab hba).elim⟩
  refine List.Pairwise.eq_of_mem_iff (names_ordered a kind) (names_ordered b kind) fun n => ?_
  rw [mem_names, mem_names, h.hasAs]

theorem hasAs_fresh (kind : NameKind) (name : Text) : fresh.hasAs kind name = false := by
  cases kind <;> exact Std.TreeSet.contains_emptyc

/-- An empty table mirrors empty sets. -/
theorem mirrors_fresh : Mirrors fresh (.table ∅) :=
  ⟨⟨_, rfl⟩, ⟨_, rfl⟩, fun kind name => by rw [hasAs_fresh]; simp [hasAs]⟩

/-- The row under which a mirror keeps a name of a kind. -/
def mirrorRow (kind : NameKind) (name : Text) : Text × Row :=
  (name, ⟨kind, none, ""⟩)

/-- The rows for the names of all kinds. -/
def mirrorRows (sets : NameSets) : List (Text × Row) :=
  NameKind.all.flatMap fun kind => (sets.names kind).toList.map (mirrorRow kind)

theorem mem_mirrorRows {sets : NameSets} {e : Text × Row} :
    e ∈ mirrorRows sets ↔
      ∃ kind name, (Store.memory sets).hasAs kind name = true ∧ mirrorRow kind name = e := by
  have hall : ∀ kind, kind ∈ NameKind.all := fun kind => by cases kind <;> decide
  simp only [mirrorRows, List.mem_flatMap, List.mem_map, hall, true_and]
  exact exists_congr fun kind => exists_congr fun name =>
    and_congr_left' (@mem_names (.memory sets) kind name)

/-- Sets without a common name give every name one row. -/
theorem mirrorRows_distinct {sets : NameSets} (h : (Store.memory sets).Disjoint) :
    (mirrorRows sets).Pairwise fun a b => ¬ compare a.1 b.1 = .eq := by
  have hkind : ∀ kind, ((sets.names kind).toList.map (mirrorRow kind)).Pairwise
      fun a b => ¬ compare a.1 b.1 = .eq := by
    intro kind
    have hnames : (sets.names kind).toList.Pairwise fun a b => ¬ compare a b = .eq :=
      Std.TreeSet.distinct_toList
    rwa [List.pairwise_map]
  rw [mirrorRows, NameKind.all, List.flatMap_cons, List.flatMap_cons, List.flatMap_nil,
    List.append_nil, List.pairwise_append]
  refine ⟨hkind .username, hkind .groupName, fun a ha b hb heq => ?_⟩
  obtain ⟨u, hu, rfl⟩ := List.mem_map.1 ha
  obtain ⟨g, hg, rfl⟩ := List.mem_map.1 hb
  obtain rfl : u = g := Std.LawfulEqCmp.compare_eq_iff_eq.1 heq
  exact h u ⟨mem_names.1 hu, mem_names.1 hg⟩

/-- Sets without a common name have a mirror. -/
theorem exists_mirror {sets : NameSets} (h : (Store.memory sets).Disjoint) :
    ∃ rows, Mirrors (.memory sets) (.table rows) := by
  refine ⟨.ofList (mirrorRows sets), ⟨_, rfl⟩, ⟨_, rfl⟩, fun kind name => ?_⟩
  rw [Bool.eq_iff_iff, hasAs.eq_2, Std.TreeMap.get?_eq_getElem?]
  by_cases hname : (Store.memory sets).has name = true
  · obtain ⟨k, hk⟩ := has_iff.1 hname
    rw [Std.TreeMap.getElem?_ofList_of_mem Std.ReflCmp.compare_self (mirrorRows_distinct h)
      (mem_mirrorRows.2 ⟨k, name, hk, rfl⟩), Option.any_some, decide_eq_true_eq]
    constructor
    · exact h.kind_unique hk
    · rintro rfl
      exact hk
  · rw [Bool.not_eq_true] at hname
    rw [hasAs_eq_false hname, Std.TreeMap.getElem?_ofList_of_contains_eq_false]
    · simp
    · rw [← Bool.not_eq_true, List.contains_iff_mem, List.mem_map]
      rintro ⟨e, he, rfl⟩
      obtain ⟨k, name, hk, rfl⟩ := mem_mirrorRows.1 he
      rw [show (mirrorRow k name).1 = name from rfl, ← Bool.not_eq_true] at hname
      exact hname (has_iff.2 ⟨k, hk⟩)

end Store

/-! ### Operations -/

/-- What the registry may be asked for. -/
inductive Registry.Op where
  /-- Claim a name for a kind. -/
  | claim (kind : NameKind) (name : Text) (display : Option Text)
  /-- Does either kind have the name? -/
  | isUsed (name : Text)
  /-- Does the kind have the name? -/
  | has (kind : NameKind) (name : Text)
  /-- Remove a name from those of a kind. -/
  | discard (kind : NameKind) (name : Text)
  /-- Go through the names of a kind in order. -/
  | names (kind : NameKind)
  /-- Count the names of a kind. -/
  | count (kind : NameKind)

/-- What the registry answers. -/
inductive Registry.Answer where
  | truth (b : Bool)
  | names (l : List Text)
  | number (n : Nat)
  | done
  deriving DecidableEq, Repr

/-- One operation, with its answer. -/
def Registry.perform : Op → Task Answer
  | .claim kind name display => return .truth (← claim kind name display)
  | .isUsed name => return .truth (← isUsed name)
  | .has kind name => return .truth (← has kind name)
  | .discard kind name => do
    discard kind name
    return .done
  | .names kind => return .names (← names kind)
  | .count kind => return .number (← count kind)

/-- Two sessions that nobody disturbs, the first with a store in memory and the second with its
mirror. Of their workers a condition `W` holds. -/
structure Session.Mirrors (W : Worker → Worker → Prop) (s s' : Session) : Prop where
  store : s.shared.store.Mirrors s'.shared.store
  quiet : s.Quiet
  quiet' : s'.Quiet
  workers : W s.worker s'.worker

/-- Sessions are alike if one mirrors the other. -/
def Likeness.mirror (W : Worker → Worker → Prop) : Likeness :=
  ⟨Session.Mirrors W, Eq⟩

section Sessions

variable {α : Type} {W : Worker → Worker → Prop} {s s' m m' : Session} {kind : NameKind}
  {name : Text}
variable {display : Option Text} {won won' : Bool}

theorem Session.Mirrors.rests (h : s.Mirrors W s') (hm : s.Rests m) (hm' : s'.Rests m') :
    m.Mirrors W m' where
  store := by rw [hm.looks.store, hm'.looks.store]; exact h.store
  quiet := h.quiet.of_eq hm.outage hm.looks.worker
  quiet' := h.quiet'.of_eq hm'.outage hm'.looks.worker
  workers := by rw [hm.looks.worker, hm'.looks.worker]; exact h.workers

/-- A claim is won in both sessions or in none. -/
theorem Session.Mirrors.claimed (h : s.Mirrors W s')
    (hm : Registry.Claimed s m kind name display won)
    (hm' : Registry.Claimed s' m' kind name display won') : won = won' ∧ m.Mirrors W m' := by
  have hhas := h.store.has name
  cases hm with
  | won hins hout =>
    cases hm' with
    | won hins' hout' =>
      refine ⟨rfl, ?_, h.quiet.of_eq hout hins.worker, h.quiet'.of_eq hout' hins'.worker, ?_⟩
      · rw [hins.store, hins'.store]
        exact h.store.insert hins.free
      · rw [hins.worker, hins'.worker]
        exact h.workers
    | lost hheld _ =>
      rw [hins.free, hheld] at hhas
      cases hhas
  | lost hheld hrest =>
    cases hm' with
    | won hins' _ =>
      rw [hins'.free, hheld] at hhas
      cases hhas
    | lost _ hrest' => exact ⟨rfl, h.rests hrest hrest'⟩

/-- Sessions that answer alike, and change nothing else, go on to mirror each other. -/
theorem Session.Mirrors.alike (h : s.Mirrors W s') {t : Task α} {x y : α}
    (ht : Ends t s (fun a m => a = x ∧ s.Rests m) (fun _ _ => False))
    (ht' : Ends t s' (fun a m => a = y ∧ s'.Rests m) (fun _ _ => False)) (hxy : x = y) :
    Alike (.mirror W) t t s s' := by
  refine .of_ends ht ht' fun a m b m' hm hm' => ?_
  obtain ⟨rfl, hrest⟩ := hm
  obtain ⟨rfl, hrest'⟩ := hm'
  exact ⟨hxy, h.rests hrest hrest'⟩

end Sessions

namespace Registry

variable {W : Worker → Worker → Prop}

theorem isUsed_respects (name : Text) : Respects (.mirror W) (isUsed name) := fun _ _ h =>
  h.alike (isUsed_calm h.quiet.toCalm name) (isUsed_calm h.quiet'.toCalm name) (h.store.has name)

theorem has_respects (kind : NameKind) (name : Text) : Respects (.mirror W) (has kind name) :=
  fun _ _ h => h.alike (has_calm h.quiet.toCalm kind name) (has_calm h.quiet'.toCalm kind name)
    (h.store.hasAs kind name)

theorem names_respects (kind : NameKind) : Respects (.mirror W) (names kind) := fun _ _ h =>
  h.alike (names_calm h.quiet.toCalm kind) (names_calm h.quiet'.toCalm kind) (h.store.names kind)

theorem count_respects (kind : NameKind) : Respects (.mirror W) (count kind) :=
  (names_respects kind).bind fun l => .pure l.length

theorem claim_respects (kind : NameKind) (name : Text) (display : Option Text) :
    Respects (.mirror W) (claim kind name display) := by
  intro s s' h
  have hends : ∀ {s : Session}, s.Quiet →
      Ends (claim kind name display) s (fun won m => Claimed s m kind name display won)
        (fun _ _ => False) := fun hs =>
    (claim_calm hs.toCalm).mono (fun _ _ hm => hm) fun _ _ hf => by simp [hs.failing] at hf
  exact .of_ends (hends h.quiet) (hends h.quiet') fun _ _ _ _ hm hm' => h.claimed hm hm'

theorem discard_respects (kind : NameKind) (name : Text) :
    Respects (.mirror W) (discard kind name) := by
  intro s s' h
  refine .of_ends (discard_calm h.quiet.toCalm kind name)
    (discard_calm h.quiet'.toCalm kind name) ?_
  rintro _ m _ m' ⟨hstore, hout, hworker⟩ ⟨hstore', hout', hworker'⟩
  refine ⟨rfl, ?_, h.quiet.of_eq hout hworker, h.quiet'.of_eq hout' hworker', ?_⟩
  · rw [hstore, hstore']
    exact h.store.erase kind name
  · rw [hworker, hworker']
    exact h.workers

/-- Both stores give the same answer to an operation, and the mirror stays one. -/
theorem perform_respects (op : Op) : Respects (.mirror W) (perform op) := by
  cases op with
  | claim kind name display => exact (claim_respects kind name display).bind fun _ => .pure _
  | isUsed name => exact (isUsed_respects name).bind fun _ => .pure _
  | has kind name => exact (has_respects kind name).bind fun _ => .pure _
  | discard kind name => exact (discard_respects kind name).bind fun _ => .pure _
  | names kind => exact (names_respects kind).bind fun _ => .pure _
  | count kind => exact (count_respects kind).bind fun _ => .pure _

/-- In a session that nobody disturbs every operation is answered. -/
theorem perform_quiet {s : Session} (hs : s.Quiet) (op : Op) :
    Ends (perform op) s (fun _ m => m.Quiet) (fun _ _ => False) := by
  have hrest : ∀ {m}, s.Rests m → m.Quiet := fun hm => hs.of_eq hm.outage hm.looks.worker
  cases op with
  | claim kind name display =>
    refine ends_bind.2 ((claim_calm hs.toCalm).mono (fun won m hm => ?_) fun _ _ hf => ?_)
    · cases hm with
      | won hins hout => exact hs.of_eq hout hins.worker
      | lost _ hm => exact hrest hm
    · simp [hs.failing] at hf
  | isUsed name => exact ends_bind.2 ((isUsed_calm hs.toCalm name).mono (fun _ _ hm => hrest hm.2)
      fun _ _ h => h)
  | has kind name => exact ends_bind.2 ((has_calm hs.toCalm kind name).mono
      (fun _ _ hm => hrest hm.2) fun _ _ h => h)
  | discard kind name => exact ends_bind.2 ((discard_calm hs.toCalm kind name).mono
      (fun _ _ hm => hs.of_eq hm.2.1 hm.2.2) fun _ _ h => h)
  | names kind => exact ends_bind.2 ((names_calm hs.toCalm kind).mono (fun _ _ hm => hrest hm.2)
      fun _ _ h => h)
  | count kind => exact ends_bind.2 ((count_calm hs.toCalm kind).mono (fun _ _ hm => hrest hm.2)
      fun _ _ h => h)

theorem mapM_perform_quiet {s : Session} (hs : s.Quiet) (ops : List Op) :
    Ends (ops.mapM perform) s (fun _ m => m.Quiet) (fun _ _ => False) := by
  induction ops generalizing s with
  | nil => exact hs
  | cons op ops ih =>
    rw [List.mapM_cons, ends_bind]
    refine (perform_quiet hs op).mono (fun _ m hm => ?_) fun _ _ h => h
    rw [ends_bind]
    exact (ih hm).mono (fun _ _ hm' => hm') fun _ _ h => h

/-- Whatever operations are performed one after the other, both stores answer them, in the same way,
and the mirror stays one. -/
theorem mapM_perform_mirrors {s s' : Session} (h : s.Mirrors W s') (ops : List Op) :
    ∃ answers m m', ops.mapM perform s = .ok answers m ∧ ops.mapM perform s' = .ok answers m' ∧
      m.Mirrors W m' := by
  have halike : Alike (.mirror W) (ops.mapM perform) (ops.mapM perform) s s' :=
    Respects.mapM perform_respects ops s s' h
  obtain ⟨answers, m, hrun, -⟩ := (mapM_perform_quiet h.quiet ops).exists_ok
  unfold Alike at halike
  cases hrun' : ops.mapM perform s' with
  | error f m' =>
    rw [hrun, hrun'] at halike
    exact halike.elim
  | ok answers' m' =>
    rw [hrun, hrun'] at halike
    obtain ⟨rfl, hm⟩ := halike
    exact ⟨answers, m, m', hrun, rfl, hm⟩

end Registry

end Namesake
