import Namesake.Proofs.Resolver.Calm
import Namesake.Proofs.Resolver.Names

/-!
# When no name is left

A resolution gives up only after the search without an end behind the fallback name has failed. That
search does not try every suffix: it doubles the suffix up to the largest one. So where nobody
disturbs, a resolution that gives up has come across unusable suffixes only, with the largest one
among them; but a usable suffix between two of these is passed over.

## Main definitions

* `Session.Idles` — nothing has been claimed so far
* `Resolver.Missed` — doubling behind a name comes across no usable suffix

## Main results

* `Resolver.resolve_exhausted` — a resolution that gives up has come across no usable suffix
* `Resolver.exhausted_beside_usable` — though there may be one
-/

open Namesake.Task

namespace Namesake

/-! ### Nothing has been claimed -/

/-- Between the two states nothing has been claimed, and nobody has disturbed. -/
structure Session.Idles (s m : Session) : Prop where
  calm : m.Calm
  store : m.shared.store = s.shared.store
  counting : m.worker.suffixes.Counting

section Sessions

variable {counting : Prop} {s m m' : Session} {a b : Store} {now : String}

theorem Session.Idles.rests (h : s.Idles m) (hm : m.Rests m') : s.Idles m' where
  calm := h.calm.rests hm
  store := hm.looks.store.trans h.store
  counting := by rw [hm.looks.worker]; exact h.counting

theorem Store.Taken.eq_of_nil {taken : List Theft} (h : Store.Taken now a taken b)
    (htaken : taken = []) : b = a := by
  cases h with
  | none => rfl
  | more => simp at htaken

/-- In a calm session nobody takes a name while a resolver waits. -/
theorem Session.Waits.store_eq (h : s.Waits counting m) (hs : s.Calm) :
    m.shared.store = s.shared.store := by
  obtain ⟨taken, hmeanwhile⟩ := h.meanwhile
  refine hmeanwhile.store.eq_of_nil (List.subset_nil.1 ?_)
  rw [← hs.stolen]
  exact hmeanwhile.stolen

end Sessions

namespace Resolver

variable {r : Resolver} {req : Request} {s m : Session} {name fallback : Text} {n : Int}

/-- A linear search that finds nothing has claimed nothing. -/
theorem searchLinear_idles (h : s.Idles m) (hname : name ≠ []) :
    Ends (r.searchLinear req name) m (fun p m' => p.1 = none → s.Idles m')
      (fun f _ => f.isExhausted = false) := by
  have hcounts : m.Counts True := fun _ => h.counting
  have hcalm := searchLinear_respects calm_answers.toAnswersSearches r req name
  refine ((searchLinear_ends hcounts hname).and (hcalm.calm h.calm)).mono (fun p m' h' hp => ?_)
    fun _ _ h' => h'.2.2
  obtain ⟨hfinds, hcalm⟩ := h'
  rw [hp] at hfinds
  have hwait : m.Waits True m' := hfinds
  exact ⟨hcalm, (hwait.store_eq h.calm).trans h.store, hwait.counts hcounts trivial⟩

/-! ### Giving up -/

/-- From some suffix on, doubling behind the name comes across no usable suffix up to `top`. -/
def Missed (r : Resolver) (req : Request) (name : Text) (top : Nat) (store : Store) : Prop :=
  ∃ last, ∀ k, Probed top (last + 1) k → ¬ r.Usable req name (.whole k) store

/-- It makes no difference if doubling begins above the largest suffix. -/
theorem probed_min {top upper k : Nat} : Probed top (min upper top) k ↔ Probed top upper k := by
  have hmin : ∀ i, min (min upper top * Nat.pow 2 i) top = min (upper * Nat.pow 2 i) top := by
    intro i
    rw [← Nat.mul_min_mul_right, Nat.min_assoc, Nat.min_eq_right (le_doubled top i)]
  simp only [Probed, hmin]

/-- A resolution that gives up says so for the fallback name, and doubling has missed it. -/
def GivesUp (r : Resolver) (req : Request) (fallback : Text) (top : Nat) (store : Store)
    (f : Fault) : Prop :=
  f.isExhausted = true →
    (∃ attempts, f = .exhausted (.str req.kind.word) (textJson fallback) attempts) ∧
      r.Missed req fallback top store

theorem givesUp_of_other {f : Fault} {top : Nat} {store : Store} (h : f.isExhausted = false) :
    r.GivesUp req fallback top store f := fun hf => by
  rw [h] at hf
  cases hf

/-- The search without an end fails only if doubling behind the name misses it. -/
theorem searchDoubling_calm (h : s.Idles m) (hlimit : req.limit = .whole n) :
    Ends (r.searchDoubling req name) m
      (fun p _ => p.1 = none → r.Missed req name (maxSuffix n.toNat) s.shared.store)
      (fun f _ => f.isExhausted = false) := by
  rw [searchDoubling, ends_bind, hlimit, largestSuffix_whole, ends_lift]
  refine ⟨fun top htop => ?_, fun _ hf => by cases hf⟩
  obtain rfl := Except.ok.inj htop
  rw [ends_bind]
  refine ((lastSuffix_ends True _).and ((calm_answers.lastSuffix _).calm h.calm)).mono
    (fun last m' h' => ?_) fun _ _ h' => h'.1.elim
  obtain ⟨⟨hremember, hlast⟩, hcalm⟩ := h'
  obtain ⟨k, rfl⟩ := hlast (fun _ => h.counting) trivial
  rw [ends_bind, ends_get]
  refine (searchAbove_calm hcalm _ _ _ _).mono (fun p _ hp hnone => ?_) fun _ _ hf => hf
  rw [hremember.store, h.store] at hp
  exact ⟨k, fun j hj => hp hnone j (probed_min.2 hj)⟩

theorem resolveByDoubling_calm (h : s.Idles m) (hlimit : req.limit = .whole n) (attempts : Nat) :
    Ends (r.resolveByDoubling req fallback attempts) m (fun _ _ => True)
      (fun f _ => r.GivesUp req fallback (maxSuffix n.toNat) s.shared.store f) := by
  rw [resolveByDoubling, ends_bind]
  refine (Registry.note_rests _).mono (fun _ m₁ h₁ => ?_) fun _ _ hf => hf.elim
  rw [ends_bind]
  refine (searchDoubling_calm (h.rests h₁) hlimit).mono (fun p m₂ hp => ?_)
    fun _ _ hf => givesUp_of_other hf
  obtain ⟨_ | f, more⟩ := p
  · dsimp only
    rw [ends_bind]
    refine (Registry.note_rests _).mono (fun _ _ _ => ?_) fun _ _ hf => hf.elim
    exact fun _ => ⟨⟨_, rfl⟩, hp rfl⟩
  · exact (finish_ends _ _ _ _).mono (fun _ _ _ => trivial) fun _ _ hf => hf.elim

theorem resolveBySuffix_calm (h : s.Idles m) (hlimit : req.limit = .whole n) (hname : name ≠ [])
    (hfallback : fallback ≠ []) (usedFallback : Bool) :
    Ends (r.resolveBySuffix req name fallback usedFallback) m (fun _ _ => True)
      (fun f _ => r.GivesUp req fallback (maxSuffix n.toNat) s.shared.store f) := by
  have hfound : ∀ {m : Session} {f : Found} {usedFallback : Bool} {attempts : Nat},
      Ends (r.finish req f.name f.nameLower (some f.suffix) usedFallback attempts) m
        (fun _ _ => True)
        (fun f _ => r.GivesUp req fallback (maxSuffix n.toNat) s.shared.store f) :=
    (finish_ends _ _ _ _).mono (fun _ _ _ => trivial) fun _ _ hf => hf.elim
  rw [resolveBySuffix, ends_bind]
  refine (searchLinear_idles h hname).mono (fun p m₁ h₁ => ?_) fun _ _ hf => givesUp_of_other hf
  obtain ⟨_ | f, attempts⟩ := p
  · dsimp only
    split
    · exact resolveByDoubling_calm (h₁ rfl) hlimit _
    · rw [ends_bind]
      refine (Registry.note_rests _).mono (fun _ m₂ h₂ => ?_) fun _ _ hf => hf.elim
      rw [ends_bind]
      refine (searchLinear_idles ((h₁ rfl).rests h₂) hfallback).mono (fun p m₃ h₃ => ?_)
        fun _ _ hf => givesUp_of_other hf
      obtain ⟨_ | f, more⟩ := p
      · exact resolveByDoubling_calm (h₃ rfl) hlimit _
      · exact hfound
  · exact hfound

theorem resolve_calm (hs : s.Calm) (hcounting : s.worker.suffixes.Counting)
    (hlimit : req.limit = .whole n) :
    Ends (r.resolve req) s (fun _ _ => True) (fun f _ => f.isExhausted = true →
      ∃ fallback m, r.fallbackFor req s = .ok fallback m ∧
        r.GivesUp req fallback (maxSuffix n.toNat) s.shared.store f) := by
  rw [resolve, ends_bind]
  refine ((fallbackFor_ends.and (ends_self _ s)).and
    ((fallbackFor_respects calm_answers r req).calm hs)).mono (fun fallback m h => ?_)
    fun f _ h hf => by rw [h.2.2] at hf; cases hf
  obtain ⟨⟨⟨hlook, hfallback, -⟩, hrun⟩, hcalm⟩ := h
  have hidle : s.Idles m := ⟨hcalm, hlook.store, by rw [hlook.worker]; exact hcounting⟩
  rw [ends_bind, ends_lift]
  refine ⟨fun clean hclean => ?_, fun f hf h => ?_⟩
  · obtain ⟨hname, -⟩ := startName_spec hclean hfallback
    dsimp only
    generalize (if clean.isEmpty then fallback else clean) = name at hname ⊢
    generalize clean.isEmpty = usedFallback at hname ⊢
    rw [ends_bind]
    refine ((tryClaim_calm hcalm).mono (fun won m₁ h₁ => ?_) fun f m₁ h₁ hf => ?_)
    · cases won with
      | true => exact (finish_ends _ _ _ _).mono (fun _ _ _ => trivial) fun _ _ hf => hf.elim
      | false =>
        have hidle₁ := hidle.rests h₁.2
        have hgo : ∀ {name : Text} {usedFallback : Bool}, name ≠ [] →
            Ends (r.resolveBySuffix req name fallback usedFallback) m₁ (fun _ _ => True)
              (fun f _ => f.isExhausted = true →
                ∃ fallback m, r.fallbackFor req s = .ok fallback m ∧
                  r.GivesUp req fallback (maxSuffix n.toNat) s.shared.store f) := fun hne =>
          (resolveBySuffix_calm hidle₁ hlimit hne hfallback _).mono (fun _ _ _ => trivial)
            fun f _ hf _ => ⟨fallback, m, hrun, hf⟩
        rw [if_neg Bool.false_ne_true]
        split
        · exact hgo hfallback
        · exact hgo hname.nonempty
    · -- a claim that fails is a fault of the store
      obtain ⟨-, -, _, _, rfl⟩ := h₁
      cases hf
  · rw [isExhausted_of_cleanName hf] at h
    cases h

/-- Where nobody disturbs, a resolution gives up only if doubling behind the fallback name has come
across no usable suffix; the largest suffix is one of those that it comes across. So no suffix at
all is usable, if the largest one is usable whenever some suffix is. -/
theorem resolve_exhausted (hs : s.Calm) (hcounting : s.worker.suffixes.Counting)
    (hlimit : req.limit = .whole n) {f : Fault} {s' : Session}
    (hrun : r.resolve req s = .error f s') (hf : f.isExhausted = true) :
    ∃ fallback m attempts last, r.fallbackFor req s = .ok fallback m ∧
      f = .exhausted (.str req.kind.word) (textJson fallback) attempts ∧
      (∀ i, ¬ r.Usable req fallback
        (.whole (min ((last + 1) * Nat.pow 2 i) (maxSuffix n.toNat) : Nat)) s.shared.store) ∧
      ¬ r.Usable req fallback (.whole (maxSuffix n.toNat)) s.shared.store ∧
      ((∀ k : Nat, r.Usable req fallback (.whole k) s.shared.store →
          r.Usable req fallback (.whole (maxSuffix n.toNat)) s.shared.store) →
        ∀ k : Nat, ¬ r.Usable req fallback (.whole k) s.shared.store) := by
  obtain ⟨fallback, m, hfallback, hgives⟩ :=
    (resolve_calm hs hcounting hlimit).of_error hrun hf
  obtain ⟨⟨attempts, hfault⟩, last, hmissed⟩ := hgives hf
  have htop := hmissed _ (probed_top (Nat.succ_pos last))
  exact ⟨fallback, m, attempts, last, hfallback, hfault, fun i => hmissed _ ⟨i, rfl⟩, htop,
    fun hgap k hk => htop (hgap k hk)⟩

/-- The settings of a resolver for names of three characters that tries one candidate only before it
doubles. -/
def hastySettings : ResolverSettings :=
  { maxLength := .int 3, maxAttempts := .int 1 }

/-- The resolver that they give. -/
def hasty : Resolver :=
  ⟨⟨true, none⟩, .none, .whole 3, 1, "use".toList, "gro".toList, hastySettings, rfl⟩

theorem build_hasty : build hastySettings = .ok (hasty, .standard) := rfl

/-- A user without a name. -/
def nameless : Request :=
  ⟨.username, .null, .str "use", .whole 3, false, rfl⟩

/-- Of the names behind the fallback name those are held that doubling comes across. -/
def sparse : Session :=
  .idle (.memory (["use", "u_1", "u_2", "u_4", "u_8", "u_9"].foldl
    (fun sets name => sets.add .username name.toList) NameSets.empty)) none

theorem sparse_calm : sparse.Calm :=
  ⟨rfl, rfl⟩

theorem resolve_nameless_sparse :
    ∃ f s', hasty.resolve nameless sparse = .error f s' ∧ f.isExhausted = true := by
  have hfault : (fault? (hasty.resolve nameless) sparse).map Fault.isExhausted = some true := by
    decide +kernel
  obtain ⟨f, hf, hexhausted⟩ := Option.map_eq_some_iff.1 hfault
  obtain ⟨s', hrun⟩ := fault?_eq_some.1 hf
  exact ⟨f, s', hrun, hexhausted⟩

/-- The resolution gives up, and the largest suffix is not usable. -/
theorem resolve_exhausted_sparse :
    sparse.Calm ∧ sparse.worker.suffixes.Counting ∧ nameless.limit = .whole 3 ∧
      ∃ f s', hasty.resolve nameless sparse = .error f s' ∧ f.isExhausted = true ∧
        ¬ hasty.Usable nameless "use".toList 9 sparse.shared.store := by
  obtain ⟨f, s', hrun, hf⟩ := resolve_nameless_sparse
  have hcounting : sparse.worker.suffixes.Counting := fun e he => by cases he
  obtain ⟨fallback, m, -, -, hfallback, -, -, htop, -⟩ :=
    resolve_exhausted sparse_calm hcounting rfl hrun hf
  have hresult : result? (hasty.fallbackFor nameless) sparse = some "use".toList := by
    decide +kernel
  obtain ⟨m', hm'⟩ := result?_eq_some.1 hresult
  obtain ⟨rfl, -⟩ := EStateM.Result.ok.inj (hfallback.symm.trans hm')
  exact ⟨sparse_calm, hcounting, rfl, f, s', hrun, hf, htop⟩

/-- A resolution may give up beside a usable suffix: the third suffixed form of the fallback name is
neither reserved nor held. -/
theorem exhausted_beside_usable :
    build hastySettings = .ok (hasty, .standard) ∧ sparse.Calm ∧
      result? (hasty.fallbackFor nameless) sparse = some "use".toList ∧
      (∃ f s', hasty.resolve nameless sparse = .error f s' ∧ f.isExhausted = true) ∧
      (1 ≤ 3 ∧ 3 ≤ Nat.pow 10 (3 - 2) - 1) ∧
      hasty.Usable nameless "use".toList 3 sparse.shared.store := by
  have hwritable : isWritable 3 = true := by decide +kernel
  have hsuffixed : suffixed "use".toList 3 nameless.limit = .ok (some "u_3".toList) :=
    suffixed_eq_some.2 ⟨"u".toList, baseFor_eq_ok.2 ⟨hwritable, rfl⟩, by decide, rfl⟩
  refine ⟨build_hasty, sparse_calm, by decide +kernel, resolve_nameless_sparse, by decide, ?_⟩
  exact ⟨"u_3".toList, hsuffixed, fun _ => by decide +kernel, by decide +kernel⟩

end Resolver

end Namesake
