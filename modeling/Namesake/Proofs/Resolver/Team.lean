import Namesake.Proofs.Resolver.Build

/-!
# Resolvers on one store

Several resolvers share a store, each with its own alphabet, limits, reserved names and caches. They
are called one after the other in any order, and while one of them works, other workers may take the
very names that it is about to claim. A call adds its own name to the store or nothing, and only
names that nobody holds, so whatever the order of the calls, no name is given twice.

## Main definitions

* `Team`, `Call` — resolvers on one store, and a call of one of them
* `Award` — an answered call, with the store as it was when the call began
* `Team.call`, `Team.run` — a call, and any number of them

## Main results

* `Resolver.resolve_adds_its_name` — what one resolution adds to the store
* `Team.run_awards_distinct` — no name is given twice, and none that is held
-/

open Namesake.Task

namespace Namesake

/-! ### One resolution -/

section Sessions

variable {counting : Prop} {s s' : Session} {kind : NameKind} {lower name : Text}

theorem Session.Waits.grows (h : s.Waits counting s') :
    Store.Grows s.shared.store s'.shared.store := by
  obtain ⟨taken, hmeanwhile⟩ := h.meanwhile
  exact hmeanwhile.store.grows

/-- The store behind a claim is the one before it with the names that others have taken, and with
the claimed name. -/
theorem Session.Claims.store (h : s.Claims counting s' kind lower name) :
    ∃ taken between, taken ⊆ s.worker.contention.stolen ∧
      Store.Taken s.shared.now s.shared.store taken between ∧ between.has lower = false ∧
      s'.shared.store = between.insert kind lower (some name) s.shared.now := by
  obtain ⟨m, m', hwait, hins, hrem⟩ := h
  obtain ⟨taken, hmeanwhile⟩ := hwait.meanwhile
  refine ⟨taken, m.shared.store, hmeanwhile.stolen, hmeanwhile.store, hins.free, ?_⟩
  rw [hrem.store, hins.store, hmeanwhile.now]

theorem Session.Claims.grows (h : s.Claims counting s' kind lower name) :
    Store.Grows s.shared.store s'.shared.store := by
  obtain ⟨taken, between, -, htaken, hfree, hstore⟩ := h.store
  rw [hstore]
  exact htaken.grows.trans (Store.Grows.insert hfree)

/-- Nobody held the claimed name before. -/
theorem Session.Claims.free (h : s.Claims counting s' kind lower name) :
    s.shared.store.has lower = false := by
  obtain ⟨taken, between, -, htaken, hfree, -⟩ := h.store
  rw [← Bool.not_eq_true] at hfree ⊢
  exact fun hheld => hfree (htaken.grows.has hheld)

/-- The claimed name is held afterwards. -/
theorem Session.Claims.held (h : s.Claims counting s' kind lower name) :
    s'.shared.store.has lower = true := by
  obtain ⟨taken, between, -, -, hfree, hstore⟩ := h.store
  rw [hstore]
  exact (Store.has_insert hfree).2 (Or.inr rfl)

/-- A resolution that fails lets the store grow, too. -/
theorem Session.Fails.grows {f : Fault} (h : s.Fails counting s' kind f) :
    Store.Grows s.shared.store s'.shared.store := by
  rcases h with h | ⟨-, lower, name, h⟩
  · exact h.grows
  · exact h.grows

end Sessions

namespace Resolver

variable {r : Resolver} {req : Request} {s : Session}

/-- Whatever the caches remember, a resolution ends with a claimed name, or it fails. -/
theorem resolve_ends_any (r : Resolver) (req : Request) (s : Session) :
    Ends (r.resolve req) s
      (fun res s' => s.Claims False s' req.kind res.nameLower res.name)
      (fun f s' => s.Fails False s' req.kind f) :=
  (resolve_ends False.elim False.elim).mono (fun _ _ ⟨_, _, _, h, _⟩ => h) (fun _ _ h => h)

/-- A resolution that ends with a fault of the library adds nothing to the store, and one that ends
with a result adds its name for the kind of the request, and nothing else; a table records how the
name is displayed. In both cases other workers may have added names that they were about to take. -/
theorem resolve_adds_its_name (r : Resolver) (req : Request) (s : Session) :
    (∀ f s', r.resolve req s = .error f s' → f.isOwn = true →
      ∃ taken, taken ⊆ s.worker.contention.stolen ∧
        Store.Taken s.shared.now s.shared.store taken s'.shared.store ∧
        ∀ kind name, s'.shared.store.hasAs kind name = true ↔
          s.shared.store.hasAs kind name = true ∨ ⟨name, kind⟩ ∈ taken) ∧
    (∀ res s', r.resolve req s = .ok res s' →
      ∃ taken between, taken ⊆ s.worker.contention.stolen ∧
        Store.Taken s.shared.now s.shared.store taken between ∧
        between.has res.nameLower = false ∧
        s'.shared.store =
          between.insert req.kind res.nameLower (some res.name) s.shared.now ∧
        (∀ kind name, s'.shared.store.hasAs kind name = true ↔
          s.shared.store.hasAs kind name = true ∨ ⟨name, kind⟩ ∈ taken ∨
            kind = req.kind ∧ name = res.nameLower) ∧
        ∀ rows, s'.shared.store = .table rows →
          rows.get? res.nameLower = some ⟨req.kind, some res.name, s.shared.now⟩) := by
  have hends := resolve_ends_any r req s
  constructor
  · intro f s' hrun hown
    rcases hends.of_error hrun with hwait | ⟨hforeign, -⟩
    · obtain ⟨taken, hmeanwhile⟩ := hwait.meanwhile
      exact ⟨taken, hmeanwhile.stolen, hmeanwhile.store,
        fun kind name => hmeanwhile.store.hasAs_iff⟩
    · -- only a foreign fault may follow a claim
      rw [hown] at hforeign
      cases hforeign
  · intro res s' hrun
    have hclaim := hends.of_ok hrun
    obtain ⟨taken, between, hstolen, htaken, hfree, hstore⟩ := hclaim.store
    refine ⟨taken, between, hstolen, htaken, hfree, hstore, fun kind name => ?_,
      fun rows hrows => ?_⟩
    · rw [hstore, Store.hasAs_insert hfree, htaken.hasAs_iff, or_assoc]
    · rw [hrows] at hstore
      exact Store.get?_insert hstore.symm

/-- On an empty store the request of a user for a free name adds the name for users. If the table
refuses to save it, nothing is added. -/
theorem resolve_adds_its_name_ann :
    (∃ res s', Resolver.standard.resolve Request.ann (.idle .fresh none) = .ok res s' ∧
      ∀ kind name, s'.shared.store.hasAs kind name = true ↔
        kind = .username ∧ name = "ann".toList) ∧
    (∃ f s', Resolver.standard.resolve Request.ann
        (.idle (.table ∅) (some ⟨.save, .table .put "no answer" none, 0⟩)) = .error f s' ∧
      f.isOwn = true ∧ ∀ kind name, s'.shared.store.hasAs kind name = false) := by
  constructor
  · have hres : result? (Resolver.standard.resolve Request.ann) (.idle .fresh none) =
        some ⟨"Ann".toList, "ann".toList, .username, none, false⟩ := by decide +kernel
    obtain ⟨s', hrun⟩ := result?_eq_some.1 hres
    refine ⟨_, s', hrun, fun kind name => ?_⟩
    obtain ⟨taken, between, hstolen, -, -, -, hheld, -⟩ :=
      (resolve_adds_its_name _ _ _).2 _ _ hrun
    obtain rfl : taken = [] := List.subset_nil.1 hstolen
    have hempty : Store.fresh.hasAs kind name = false := by
      cases kind <;> exact Std.TreeSet.contains_emptyc
    rw [hheld]
    simp [Session.idle, hempty, Request.ann]
  · have hfault : (fault? (Resolver.standard.resolve Request.ann)
        (.idle (.table ∅) (some ⟨.save, .table .put "no answer" none, 0⟩))).map Fault.isOwn =
          some true := by decide +kernel
    obtain ⟨f, hf, hown⟩ := Option.map_eq_some_iff.1 hfault
    obtain ⟨s', hrun⟩ := fault?_eq_some.1 hf
    refine ⟨f, s', hrun, hown, fun kind name => ?_⟩
    obtain ⟨taken, hstolen, -, hheld⟩ := (resolve_adds_its_name _ _ _).1 _ _ hrun hown
    obtain rfl : taken = [] := List.subset_nil.1 hstolen
    rw [← Bool.not_eq_true, hheld]
    simp [Session.idle, Store.hasAs]

end Resolver

/-! ### Any number of resolutions -/

/-- Resolvers on one store. -/
structure Team where
  /-- What they share. -/
  shared : Shared
  /-- The resolvers, each with what it keeps for itself. -/
  members : List (Resolver × Worker)

/-- A call of a member of a team. -/
structure Call where
  /-- The place of the member in the team. -/
  member : Nat
  /-- What it is asked for. -/
  request : Request
  /-- What other workers do to its claims. -/
  contention : Contention
  /-- The store request that is going to fail. -/
  outage : Outage
  /-- The time of the call. -/
  now : String

/-- A call that has been answered with a name. -/
structure Award where
  /-- The store when the call began. -/
  before : Store
  /-- The answer. -/
  result : ResolvedName

namespace Team

/-- The session in which a member works on a call. -/
def session (t : Team) (c : Call) (w : Worker) : Session :=
  ⟨{ t.shared with outage := c.outage, now := c.now }, { w with contention := c.contention }⟩

/-- One call, and the team that it leaves behind. A call of nobody does nothing. -/
def call (t : Team) (c : Call) : Option Award × Team :=
  match t.members[c.member]? with
  | none => (none, t)
  | some (r, w) =>
    match r.resolve c.request (t.session c w) with
    | .ok result s =>
      (some ⟨t.shared.store, result⟩, ⟨s.shared, t.members.set c.member (r, s.worker)⟩)
    | .error _ s => (none, ⟨s.shared, t.members.set c.member (r, s.worker)⟩)

/-- Any number of calls, one after the other: the awards in their order, and the team at the end. -/
def run : Team → List Call → List Award × Team
  | t, [] => ([], t)
  | t, c :: calls =>
    (((t.call c).1.toList ++ (run (t.call c).2 calls).1), (run (t.call c).2 calls).2)

variable {t : Team} {c : Call} {calls : List Call} {a : Award}

/-- A call lets the store grow. Its award is a name that nobody held when the call began, and that
is held when it ends. -/
theorem call_spec (t : Team) (c : Call) :
    Store.Grows t.shared.store (t.call c).2.shared.store ∧
      ∀ a, (t.call c).1 = some a → a.before = t.shared.store ∧
        t.shared.store.has a.result.nameLower = false ∧
        (t.call c).2.shared.store.has a.result.nameLower = true := by
  unfold call
  cases t.members[c.member]? with
  | none => exact ⟨.refl, by simp⟩
  | some member =>
    obtain ⟨r, w⟩ := member
    have hends := Resolver.resolve_ends_any r c.request (t.session c w)
    dsimp only
    cases hrun : r.resolve c.request (t.session c w) with
    | error f s =>
      -- even a call that fails may have let others add names
      exact ⟨(hends.of_error hrun).grows, by simp⟩
    | ok result s =>
      have hclaim := hends.of_ok hrun
      refine ⟨hclaim.grows, fun a ha => ?_⟩
      obtain rfl := Option.some.inj ha
      exact ⟨rfl, hclaim.free, hclaim.held⟩

/-- A run lets the store grow. Each award is a name that nobody held when its call began, and by
then the store had only grown. -/
theorem run_spec (t : Team) (calls : List Call) :
    Store.Grows t.shared.store (t.run calls).2.shared.store ∧
      ∀ a ∈ (t.run calls).1, Store.Grows t.shared.store a.before ∧
        a.before.has a.result.nameLower = false := by
  induction calls generalizing t with
  | nil => exact ⟨.refl, by simp [run]⟩
  | cons c calls ih =>
    obtain ⟨hgrow, haward⟩ := call_spec t c
    obtain ⟨hgrow', hrest⟩ := ih (t.call c).2
    refine ⟨hgrow.trans hgrow', fun a ha => ?_⟩
    rcases List.mem_append.1 ha with ha | ha
    · obtain ⟨hbefore, hfree, -⟩ := haward a (Option.mem_toList.1 ha)
      rw [hbefore]
      exact ⟨.refl, hfree⟩
    · obtain ⟨hbefore, hfree⟩ := hrest a ha
      exact ⟨hgrow.trans hbefore, hfree⟩

/-- Whatever the order of the calls, no name is given twice. -/
theorem run_nodup (t : Team) (calls : List Call) :
    ((t.run calls).1.map fun a => a.result.nameLower).Nodup := by
  induction calls generalizing t with
  | nil => exact List.nodup_nil
  | cons c calls ih =>
    obtain ⟨-, haward⟩ := call_spec t c
    obtain ⟨-, hrest⟩ := run_spec (t.call c).2 calls
    rw [run, List.map_append]
    cases hcall : (t.call c).1 with
    | none => exact ih _
    | some a =>
      refine List.nodup_cons.2 ⟨fun hmem => ?_, ih _⟩
      -- the first name is held from its call on, so no later call gives it again
      obtain ⟨b, hb, hsame⟩ := List.mem_map.1 hmem
      obtain ⟨hbefore, hfree⟩ := hrest b hb
      obtain ⟨-, -, hheld⟩ := haward a hcall
      rw [hsame, hbefore.has hheld] at hfree
      cases hfree

/-- Whatever the order of the calls, no name is given twice, no name is given that either kind held
when the call began, and the names of users and of groups stay apart. -/
theorem run_awards_distinct (t : Team) (calls : List Call) :
    ((t.run calls).1.map fun a => a.result.nameLower).Nodup ∧
      (∀ a ∈ (t.run calls).1, ∀ kind, a.before.hasAs kind a.result.nameLower = false) ∧
      (t.shared.store.Disjoint → (t.run calls).2.shared.store.Disjoint) := by
  obtain ⟨hgrow, hawards⟩ := run_spec t calls
  refine ⟨run_nodup t calls, fun a ha kind => ?_, hgrow.disjoint⟩
  exact Store.hasAs_eq_false (hawards a ha).2 kind

/-- Two resolvers on an empty store: one with the usual settings, and one for short ASCII names. -/
def pair : Team :=
  ⟨(Session.idle .fresh none).shared,
    [(.standard, .standard),
      (⟨⟨false, none⟩, .none, .whole 5, 500, "user".toList, "group".toList,
        { maxLength := .int 5, unicodeNames := .bool false }, rfl⟩, .standard)]⟩

/-- Calls of both, all for the same name. In the second call another worker is faster once. -/
def pairCalls : List Call :=
  [⟨0, .ann, .none, none, ""⟩,
    ⟨1, ⟨.groupName, .str "Ann", .str "group", .whole 5, false, rfl⟩,
      ⟨[⟨"ann_1".toList, .groupName⟩], []⟩, none, ""⟩,
    ⟨0, .ann, .none, none, ""⟩]

/-- The three calls are answered with three names, and nobody's names become somebody else's. -/
theorem run_awards_distinct_pair :
    ((pair.run pairCalls).1.map fun a => a.result.nameLower) =
        ["ann".toList, "ann_2".toList, "ann_3".toList] ∧
      pair.shared.store.Disjoint ∧ (pair.run pairCalls).2.shared.store.Disjoint := by
  have hdisjoint : pair.shared.store.Disjoint := by
    rintro name ⟨hheld, -⟩
    have hempty : pair.shared.store.hasAs .username name = false := Std.TreeSet.contains_emptyc
    rw [hempty] at hheld
    cases hheld
  exact ⟨by decide +kernel, hdisjoint, (run_awards_distinct pair pairCalls).2.2 hdisjoint⟩

end Team

end Namesake
