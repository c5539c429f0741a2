import Namesake.Proofs.Resolver.Names
import Namesake.Proofs.Resolver.Opening
import Namesake.Proofs.Resolver.Settled

/-!
# Requests that do not meet

Requests for different names that are all free do not get in each other's way. Each of them is given
the clean raw name as it is, since the names that the others claim differ from it even in lower
case, whatever they look like; no search is needed, so the caches have no say. What the store holds
in the end is therefore the same in whatever order the requests are made.

## Main definitions

* `Store.Equiv` — two stores hold the same
* `Store.insertAll` — a store with the names of some requests
* `Resolver.Fresh` — the requests are for different names, which are all free
* `ResolvedName.plain` — the result of a request that is given its name as it is

## Main results

* `Resolver.resolve_fresh` — a request for a free name is given the name, and claims it
* `Resolver.Fresh.insert` — what is claimed for one of the requests leaves the others free
* `Resolver.resolve_in_any_order` — in whatever order the requests are made, each of them is given
  its name, and the store holds the same in the end
-/

open Namesake.Task

namespace Namesake

open Unicode

/-! ### Stores that hold the same -/

namespace Store

variable {a b c : Store} {kind k : NameKind} {name n : Text} {display d : Option Text}
variable {now : String} {reqs order : List Request} {names : Request → Text}

/-- The two stores hold the same: in memory each kind has the same names, and in a table the same
names have the same rows. -/
inductive Equiv : Store → Store → Prop
  | memory {sets sets' : NameSets} :
      (∀ kind, (sets.names kind).Equiv (sets'.names kind)) → sets.others = sets'.others →
        Equiv (.memory sets) (.memory sets')
  | table {rows rows' : Table} : Std.TreeMap.Equiv rows rows' → Equiv (.table rows) (.table rows')

@[refl] theorem Equiv.refl (store : Store) : store.Equiv store := by
  cases store with
  | memory sets => exact .memory (fun _ => .rfl) rfl
  | table rows => exact .table .rfl

theorem Equiv.trans (h : a.Equiv b) (h' : b.Equiv c) : a.Equiv c := by
  cases h with
  | memory hnames hothers =>
    cases h' with
    | memory hnames' hothers' =>
      exact .memory (fun kind => (hnames kind).trans (hnames' kind)) (hothers.trans hothers')
  | table hrows =>
    cases h' with
    | table hrows' => exact .table (hrows.trans hrows')

theorem names_add (sets : NameSets) :
    (sets.add kind name).names k =
      if k = kind then (sets.names kind).insert name else sets.names k :=
  names_setNames ..

theorem others_add (sets : NameSets) : (sets.add kind name).others = sets.others := by
  cases kind <;> rfl

theorem Equiv.insert (h : a.Equiv b) :
    (a.insert kind name display now).Equiv (b.insert kind name display now) := by
  cases h with
  | memory hnames hothers =>
    refine .memory (fun k => ?_) (by rw [others_add, others_add, hothers])
    rw [names_add, names_add]
    split
    · exact (hnames kind).insert name
    · exact hnames k
  | table hrows => exact .table (hrows.insert name _)

/-- Of two different names either may be inserted first. -/
theorem insert_comm (a : Store) (hne : name ≠ n) :
    ((a.insert kind name display now).insert k n d now).Equiv
      ((a.insert k n d now).insert kind name display now) := by
  cases a with
  | memory sets =>
    refine .memory (fun kind' => ?_) (by simp only [others_add])
    refine .of_forall_contains_eq fun x => ?_
    simp only [names_add]
    -- only names of one kind can meet
    by_cases hk : kind' = k <;> by_cases hkind : kind' = kind
    · subst hk hkind
      simp only [if_true, Std.TreeSet.contains_insert, Bool.or_left_comm]
    · subst hk
      simp only [if_true, if_neg hkind, if_neg (Ne.symm hkind)]
    · subst hkind
      simp only [if_true, if_neg hk, if_neg (Ne.symm hk)]
    · simp only [if_neg hk, if_neg hkind]
  | table rows =>
    refine .table (.of_forall_constGet?_eq fun x => ?_)
    simp only [Std.TreeMap.getElem?_insert, Std.LawfulEqCmp.compare_eq_iff_eq]
    -- the row under a name is the one that was inserted for that name
    by_cases hx : n = x
    · subst hx
      simp [hne]
    · simp [hx]

/-- The store with the names of the requests, inserted one after the other. -/
def insertAll (store : Store) (names : Request → Text) (now : String) (reqs : List Request) :
    Store :=
  reqs.foldl
    (fun store req => store.insert req.kind (lowercase (names req)) (some (names req)) now) store

theorem insertAll_cons (req : Request) : a.insertAll names now (req :: reqs) =
    (a.insert req.kind (lowercase (names req)) (some (names req)) now).insertAll names now reqs :=
  rfl

theorem Equiv.insertAll (h : a.Equiv b) (reqs : List Request) :
    (a.insertAll names now reqs).Equiv (b.insertAll names now reqs) := by
  induction reqs generalizing a b with
  | nil => exact h
  | cons req reqs ih => exact ih h.insert

/-- Names that differ in lower case may be inserted in any order. -/
theorem insertAll_perm (hperm : order.Perm reqs)
    (hdistinct : (reqs.map fun req => lowercase (names req)).Nodup) (a : Store) :
    (a.insertAll names now order).Equiv (a.insertAll names now reqs) := by
  induction hperm generalizing a with
  | nil => exact .refl a
  | cons req _ ih => exact ih (List.nodup_cons.1 hdistinct).2 _
  | swap first second rest =>
    have hne : lowercase (names second) ≠ lowercase (names first) := by
      intro heq
      exact (List.nodup_cons.1 hdistinct).1 (List.mem_cons.2 (Or.inl heq.symm))
    exact (insert_comm a hne).insertAll rest
  | trans _ hperm' ih ih' =>
    exact (ih ((hperm'.map _).nodup_iff.2 hdistinct) a).trans (ih' hdistinct a)

end Store

/-! ### Requests -/

/-- The result of a request that is given a name as it is. -/
def ResolvedName.plain (req : Request) (name : Text) : ResolvedName :=
  ⟨name, lowercase name, req.kind, none, false⟩

namespace Resolver

variable {r : Resolver} {req : Request} {reqs order : List Request} {names : Request → Text}
variable {s : Session} {store : Store} {name : Text} {now : String}

/-- The names are the clean raw names of the requests, cut at their limits; none of them is empty,
no two of them are alike in lower case, and all of them are free. -/
structure Fresh (r : Resolver) (names : Request → Text) (reqs : List Request) (store : Store) :
    Prop where
  whole : ∀ req ∈ reqs, req.limit.isWhole = true
  clean : ∀ req ∈ reqs, r.cleanName req = .ok (names req)
  nonempty : ∀ req ∈ reqs, names req ≠ []
  distinct : (reqs.map fun req => lowercase (names req)).Nodup
  free : ∀ req ∈ reqs, r.Free req.allowReserved (lowercase (names req)) store

/-- A name stays free when another one is inserted. -/
theorem Free.insert {allow : Bool} {lower : Text} (h : r.Free allow lower store) {kind : NameKind}
    {display : Option Text} (hunheld : store.has name = false) (hne : lower ≠ name) :
    r.Free allow lower (store.insert kind name display now) := by
  refine ⟨h.allowed, ?_⟩
  have hunheld' := h.unheld
  rw [← Bool.not_eq_true] at hunheld' ⊢
  rw [Store.has_insert hunheld]
  rintro (hheld | heq)
  · exact hunheld' hheld
  · exact hne heq

/-- What is claimed for one of the requests leaves the names of the others free. -/
theorem Fresh.insert (h : r.Fresh names (req :: reqs) store) (now : String) :
    r.Fresh names reqs
      (store.insert req.kind (lowercase (names req)) (some (names req)) now) where
  whole := fun other hother => h.whole other (List.mem_cons_of_mem req hother)
  clean := fun other hother => h.clean other (List.mem_cons_of_mem req hother)
  nonempty := fun other hother => h.nonempty other (List.mem_cons_of_mem req hother)
  distinct := (List.nodup_cons.1 h.distinct).2
  free := fun other hother => by
    refine (h.free other (List.mem_cons_of_mem req hother)).insert
      (h.free req List.mem_cons_self).unheld fun heq => ?_
    exact (List.nodup_cons.1 h.distinct).1 (List.mem_map.2 ⟨other, hother, heq⟩)

theorem Fresh.perm (h : r.Fresh names reqs store) (hperm : order.Perm reqs) :
    r.Fresh names order store where
  whole := fun req hreq => h.whole req (hperm.mem_iff.1 hreq)
  clean := fun req hreq => h.clean req (hperm.mem_iff.1 hreq)
  nonempty := fun req hreq => h.nonempty req (hperm.mem_iff.1 hreq)
  distinct := (hperm.map _).nodup_iff.2 h.distinct
  free := fun req hreq => h.free req (hperm.mem_iff.1 hreq)

/-- How a request for a name begins where nobody disturbs. The name is claimed if it is free.
Otherwise a suffix is looked for behind it, unless a reserved rule takes all its suffixes. -/
theorem opening_quiet (hs : s.Quiet) (hwhole : req.limit.isWhole = true)
    (hclean : r.cleanName req = .ok name) (hne : name ≠ []) :
    Ends (r.opening req) s
      (fun o m =>
        (r.Free req.allowReserved (lowercase name) s.shared.store ∧
          (∃ fallback, o = ⟨fallback, name, false, some (name, lowercase name, none), 0⟩) ∧
          s.Inserts m req.kind (lowercase name) (some name) ∧ m.shared.outage = s.shared.outage) ∨
        (¬ r.Free req.allowReserved (lowercase name) s.shared.store ∧
          ((req.allowReserved = false → r.reserved.defeatsSuffix (lowercase name) = false) →
            ∃ fallback p m₀, s.Rests m₀ ∧ r.searchLinear req name m₀ = .ok p m ∧
              o = ⟨fallback, name, false,
                p.1.map fun f => (f.name, f.nameLower, some f.suffix), p.2⟩)))
      (fun f m => ¬ r.Free req.allowReserved (lowercase name) s.shared.store ∧
        ((req.allowReserved = false → r.reserved.defeatsSuffix (lowercase name) = false) →
          ∃ m₀, s.Rests m₀ ∧ r.searchLinear req name m₀ = .error f m)) := by
  obtain ⟨n, hlimit⟩ := Limit.eq_whole hwhole
  have hempty : name.isEmpty = false := by simpa using hne
  rw [opening, ends_bind]
  refine (fallbackFor_text hlimit).mono (fun fallback m hm => ?_) fun _ _ hf => hf.elim
  obtain ⟨-, hrest⟩ := hm
  have hquiet : m.Quiet := hs.of_eq hrest.outage hrest.looks.worker
  rw [hclean, ends_bind, ends_lift]
  refine ⟨fun clean h => ?_, fun _ hf => by cases hf⟩
  obtain rfl := Except.ok.inj h
  simp only [hempty, Bool.false_eq_true, if_false]
  rw [ends_bind]
  refine (tryClaim_calm hquiet.toCalm).mono (fun won m₁ h₁ => ?_) fun f m₁ h₁ => ?_
  · rw [hrest.looks.store] at h₁
    cases won with
    | true =>
      obtain ⟨hfree, hins, hout⟩ := h₁
      exact .inl ⟨hfree, ⟨fallback, rfl⟩, hins.of_looks hrest.looks (.refl m₁),
        hout.trans hrest.outage⟩
    | false =>
      obtain ⟨hbarred, hrest'⟩ := h₁
      simp only [Bool.not_false, Bool.true_and, Bool.or_false, Bool.false_eq_true, if_false]
      by_cases htrapped : (!req.allowReserved && r.reserved.defeatsSuffix (lowercase name)) = true
      · -- a rule that takes all suffixes is excluded
        have hsome : ¬ (req.allowReserved = false →
            r.reserved.defeatsSuffix (lowercase name) = false) := by
          simpa using htrapped
        rw [if_pos htrapped, ends_bind]
        exact (ends_self _ m₁).mono (fun p m' _ => .inr ⟨hbarred, fun h => absurd h hsome⟩)
          fun f m' _ => ⟨hbarred, fun h => absurd h hsome⟩
      · rw [if_neg htrapped, Bool.eq_false_iff.2 htrapped, ends_bind]
        exact (ends_self _ m₁).mono
          (fun p m' hrun => .inr
            ⟨hbarred, fun _ => ⟨fallback, p, m₁, hrest.trans hrest', hrun, rfl⟩⟩)
          fun f m' hrun => ⟨hbarred, fun _ => ⟨m₁, hrest.trans hrest', hrun⟩⟩
  · -- no claim is going to fail
    rw [hquiet.failing] at h₁
    cases h₁.2.1

/-- When a request ends with a name, nothing but the log changes any more. -/
theorem finish_rests (r : Resolver) (req : Request) (name lower : Text) (suffix : Option Quantity)
    (usedFallback : Bool) (attempts : Nat) :
    Ends (r.finish req name lower suffix usedFallback attempts) s
      (fun res s' => res = ⟨name, lower, req.kind, suffix, usedFallback⟩ ∧ s.Rests s')
      (fun _ _ => False) := by
  rw [finish, ends_bind]
  exact (Registry.note_rests _).mono (fun _ _ h => ⟨rfl, h⟩) fun _ _ hf => hf

/-- A request for a free name is given the name as it is. It claims the name, and changes nothing
else in the store. -/
theorem resolve_fresh (hs : s.Quiet) (hwhole : req.limit.isWhole = true)
    (hclean : r.cleanName req = .ok name) (hne : name ≠ [])
    (hfree : r.Free req.allowReserved (lowercase name) s.shared.store) :
    Ends (r.resolve req) s
      (fun res s' => res = .plain req name ∧ s'.Quiet ∧ s'.shared.now = s.shared.now ∧
        s'.shared.store =
          s.shared.store.insert req.kind (lowercase name) (some name) s.shared.now)
      (fun _ _ => False) := by
  rw [resolve_eq, ends_bind]
  refine (opening_quiet hs hwhole hclean hne).mono (fun o m hm => ?_) fun _ _ hf => hf.1 hfree
  obtain ⟨-, ⟨fallback, rfl⟩, hins, hout⟩ | ⟨hbarred, -⟩ := hm
  · refine (finish_rests r req name (lowercase name) none false 0).mono (fun res s' h' => ?_)
      fun _ _ hf => hf
    obtain ⟨rfl, hrest⟩ := h'
    refine ⟨rfl, ?_, ?_, ?_⟩
    · exact (hs.of_eq hout hins.worker).of_eq hrest.outage hrest.looks.worker
    · rw [hrest.looks.now, hins.now]
    · rw [hrest.looks.store, hins.store]
  · exact absurd hfree hbarred

/-- The requests are given their names one after the other. -/
theorem resolveAll_fresh (hs : s.Quiet) (hfresh : r.Fresh names reqs s.shared.store) :
    Ends (reqs.mapM r.resolve) s
      (fun results s' => results = reqs.map (fun req => .plain req (names req)) ∧
        s'.shared.store = s.shared.store.insertAll names s.shared.now reqs)
      (fun _ _ => False) := by
  induction reqs generalizing s with
  | nil => exact ⟨rfl, rfl⟩
  | cons req reqs ih =>
    rw [List.mapM_cons, ends_bind]
    refine (resolve_fresh hs (hfresh.whole req List.mem_cons_self)
      (hfresh.clean req List.mem_cons_self) (hfresh.nonempty req List.mem_cons_self)
      (hfresh.free req List.mem_cons_self)).mono (fun res m hm => ?_) fun _ _ hf => hf
    obtain ⟨rfl, hquiet, hnow, hstore⟩ := hm
    have hrest : r.Fresh names reqs m.shared.store := hstore ▸ hfresh.insert s.shared.now
    rw [ends_bind]
    refine (ih hquiet hrest).mono (fun results s' h' => ?_) fun _ _ hf => hf
    obtain ⟨rfl, hstore'⟩ := h'
    refine ⟨rfl, ?_⟩
    rw [hstore', hnow, hstore, Store.insertAll_cons]

/-- Requests for different names that are all free are each given their name as it is, in whatever
order they are made and whatever the caches remember, and the store holds the same in the end. -/
theorem resolve_in_any_order (hs : s.Quiet) (hfresh : r.Fresh names reqs s.shared.store)
    (hperm : order.Perm reqs) :
    Ends (order.mapM r.resolve) s
      (fun results s' => results = order.map (fun req => .plain req (names req)) ∧
        s'.shared.store.Equiv (s.shared.store.insertAll names s.shared.now reqs))
      (fun _ _ => False) := by
  refine (resolveAll_fresh hs (hfresh.perm hperm)).mono (fun results s' h' => ?_) fun _ _ hf => hf
  obtain ⟨rfl, hstore⟩ := h'
  refine ⟨rfl, ?_⟩
  rw [hstore]
  exact Store.insertAll_perm hperm hfresh.distinct _

/-- The request of a group for a name that looks like a suffixed form of the one that Ann asks for.
-/
def numbered : Request :=
  ⟨.groupName, .str "ann_1", .str "group", .whole 7, false, rfl⟩

/-- It is given beside it, in either order. -/
theorem resolve_in_any_order_numbered :
    (Session.idle (.table ∅) none).Quiet ∧
      ∃ names : Request → Text, standard.Fresh names [.ann, numbered] (.table ∅) ∧
        Ends ([numbered, .ann].mapM standard.resolve) (.idle (.table ∅) none)
          (fun results s' =>
            results = [.plain numbered "ann_1".toList, .plain .ann "Ann".toList] ∧
              s'.shared.store.Equiv ((Store.table ∅).insertAll names "" [.ann, numbered]))
          (fun _ _ => False) := by
  have hs : (Session.idle (.table ∅) none).Quiet := ⟨⟨rfl, rfl⟩, rfl⟩
  obtain ⟨names, hann, hnumbered⟩ : ∃ names : Request → Text,
      names .ann = "Ann".toList ∧ names numbered = "ann_1".toList :=
    ⟨fun req => if req.kind = .username then "Ann".toList else "ann_1".toList, if_pos rfl,
      if_neg (by decide)⟩
  have hfresh : standard.Fresh names [.ann, numbered] (.table ∅) := by
    constructor
    all_goals simp only [List.forall_mem_cons, List.not_mem_nil, false_implies, implies_true,
      and_true, List.map_cons, List.map_nil, hann, hnumbered]
    case whole => exact ⟨rfl, rfl⟩
    case clean =>
      have hclean : standard.cleanText .ann defaultMaxLength = "Ann".toList := by decide +kernel
      have hclean' : standard.cleanText numbered 7 = "ann_1".toList := by decide +kernel
      rw [← hclean, ← hclean']
      exact ⟨cleanName_text rfl, cleanName_text rfl⟩
    case nonempty => decide
    case distinct => decide +kernel
    case free => exact ⟨⟨fun _ => rfl, rfl⟩, ⟨fun _ => rfl, rfl⟩⟩
  have hperm : [numbered, .ann].Perm [.ann, numbered] := .swap .ann numbered []
  have hends := resolve_in_any_order hs hfresh hperm
  rw [List.map_cons, List.map_cons, List.map_nil, hann, hnumbered] at hends
  exact ⟨hs, names, hfresh, hends⟩

end Resolver

end Namesake
