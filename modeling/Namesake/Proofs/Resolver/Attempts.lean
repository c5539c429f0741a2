import Namesake.Proofs.Resolver.Opening
import Namesake.Proofs.Resolver.Rounds
import Namesake.Proofs.Resolver.Trail

/-!
# How many attempts a request makes

A linear search ends when its attempts are used up, and a request makes two of them at most. Only
then, behind the fallback name, is the search without an end begun. It makes as many attempts as its
rounds cost, one round more than it loses claims to other workers. So the attempts that a request
reports are bounded, whether it ends with a name or with the fault that none is left.

## Main definitions

* `Resolver.ComesTo` — what a request comes to
* `Resolver.Reports` — the log tells of a result and of the attempts that it has taken
* `Resolver.Affords` — a request may make so many attempts

## Main results

* `Resolver.searchLinear_attempts` — the attempts of a linear search
* `Resolver.resolve_comesTo` — a request makes two linear searches at most before the search without
  an end
* `Resolver.resolve_attempts` — a request reports no more attempts than are allowed for
-/

open Namesake.Task

namespace Namesake

open Unicode

namespace Resolver

variable {r : Resolver} {req : Request} {s m : Session} {n : Int}

/-! ### Linear searches -/

/-- A linear search makes no more attempts than it may. -/
theorem searchLinear_attempts (r : Resolver) (req : Request) (name : Text) :
    Results (r.searchLinear req name) fun p => p.2 ≤ r.maxAttempts := by
  intro s
  refine (searchLinear_trail r req name s).mono (fun p s' h => ?_) fun _ _ h => h
  cases h with
  | found _ _ _ _ hused => exact hused
  | spent _ _ _ => exact Nat.le_refl _
  | emptied _ _ _ hused => exact hused

/-! ### What a request comes to -/

/-- What a request comes to in the end: it fails on the way; or a name has been found, with no more
attempts than two linear searches may make; or after so many attempts the search without an end is
begun. -/
inductive ComesTo (r : Resolver) (req : Request) (s : Session) :
    EStateM.Result Fault Session ResolvedName → Prop
  | failed {f : Fault} {m : Session} (hf : s.Blames f) : ComesTo r req s (.error f m)
  | found {name lower : Text} {suffix : Option Quantity} {usedFallback : Bool} {attempts : Nat}
      {m : Session} (hattempts : attempts ≤ 2 * r.maxAttempts) :
      ComesTo r req s (r.finish req name lower suffix usedFallback attempts m)
  | doubling {fallback : Text} {attempts : Nat} {m : Session}
      (hattempts : attempts ≤ 2 * r.maxAttempts) (hwanes : s.Wanes m)
      (hcounting : m.worker.suffixes.Counting) :
      ComesTo r req s (r.resolveByDoubling req fallback attempts m)

/-- The beginning of a request makes no more attempts than one linear search. -/
theorem opening_attempts (r : Resolver) (req : Request) :
    Results (r.opening req) fun o => o.attempts ≤ r.maxAttempts := by
  rw [opening]
  refine .after fun fallback => .after fun clean => ?_
  dsimp only
  refine .after fun won => ?_
  split
  · exact .pure (Nat.zero_le _)
  · exact (searchLinear_attempts r req _).bind fun p hp => .pure hp

/-- As long as no name has been found, the cache goes on counting. -/
theorem opening_counting (hs : s.worker.suffixes.Counting) :
    Ends (r.opening req) s
      (fun o m => o.fallback ≠ [] ∧ (o.found = none → m.worker.suffixes.Counting))
      (fun _ _ => True) := by
  have hcounts : s.Counts True := fun _ => hs
  rw [opening, ends_bind]
  refine fallbackFor_ends.mono (fun fallback m hm => ?_) fun _ _ _ => trivial
  obtain ⟨hlook, hfallback, -⟩ := hm
  rw [ends_bind, ends_lift]
  refine ⟨fun clean hclean => ?_, fun _ _ => trivial⟩
  have hname := (startName_spec hclean hfallback).1.nonempty
  dsimp only
  rw [ends_bind]
  refine (@tryClaim_ends True _ _ _ _ _).mono (fun won m₁ h₁ => ?_) fun _ _ _ => trivial
  cases won with
  | true => exact ⟨hfallback, fun h => by cases h⟩
  | false =>
    have hwait : s.Waits True m₁ := hlook.waits.trans h₁
    have hbase : ∀ trapped : Bool,
        (if trapped then fallback else if clean.isEmpty then fallback else clean) ≠ [] := by
      intro trapped
      cases trapped with
      | true => exact hfallback
      | false => exact hname
    rw [if_neg Bool.false_ne_true, ends_bind]
    refine (searchLinear_ends (hwait.counts hcounts) (hbase _)).mono
      (fun p m₂ h₂ => ⟨hfallback, fun hp => ?_⟩) fun _ _ _ => trivial
    obtain ⟨found, attempts⟩ := p
    obtain rfl : found = none := Option.map_eq_none_iff.1 hp
    have hwait' : m₁.Waits True m₂ := h₂
    exact hwait'.counts (hwait.counts hcounts) trivial

/-- After a beginning that has found no name, the request makes one more linear search at most
before the search without an end is begun. -/
theorem proceed_comesTo {o : Opening} (hwanes : s.Wanes m) (hattempts : o.attempts ≤ r.maxAttempts)
    (hfallback : o.fallback ≠ []) (hcounting : o.found = none → m.worker.suffixes.Counting) :
    r.ComesTo req s (r.proceed req o m) := by
  rw [proceed]
  cases hfound : o.found with
  | some found =>
    -- the request has found its name at once
    obtain ⟨name, lower, suffix⟩ := found
    refine .found ?_
    omega
  | none =>
    have hcounts : m.Counts True := fun _ => hcounting hfound
    dsimp only
    split
    · -- the search has been made behind the fallback name already
      refine .doubling ?_ hwanes (hcounting hfound)
      omega
    · obtain ⟨m₁, hrun₁, hrest⟩ : ∃ m₁,
          r.note .warning "Suffix search exhausted, using fallback name"
            (searchContext req "base" o.base o.attempts) m = .ok () m₁ ∧ m.Rests m₁ :=
        ⟨_, rfl, Registry.note_rests _⟩
      rw [run_bind_ok hrun₁]
      -- the second linear search, behind the fallback name
      have hrespects := searchLinear_respects (waning_answers s).toAnswersSearches r req o.fallback
      have hends := respects_keeping.1 hrespects m₁ (hwanes.trans hrest.asks.wanes)
      have hcounts₁ := hrest.looks.sameCaches.counts hcounts
      cases hrun₂ : r.searchLinear req o.fallback m₁ with
      | error f m₂ =>
        rw [run_bind_error hrun₂]
        exact .failed (hends.of_error hrun₂).2
      | ok p m₂ =>
        have hmore := (searchLinear_attempts r req o.fallback m₁).of_ok hrun₂
        have hfinds := (searchLinear_ends hcounts₁ hfallback).of_ok hrun₂
        rw [run_bind_ok hrun₂]
        obtain ⟨_ | found, more⟩ := p
        · have hwait : m₁.Waits True m₂ := hfinds
          refine .doubling ?_ (hends.of_ok hrun₂) (hwait.counts hcounts₁ trivial)
          dsimp only at hmore
          omega
        · refine .found ?_
          dsimp only at hmore
          omega

theorem resolve_comesTo (hs : s.worker.suffixes.Counting) (r : Resolver) (req : Request) :
    r.ComesTo req s (r.resolve req s) := by
  have hanswers := waning_answers s
  have hrespects := opening_respects hanswers.toAnswersSearches r req
    (fallbackFor_respects hanswers r req)
  have hends := respects_keeping.1 hrespects s (.refl s)
  rw [resolve_eq]
  cases hrun : r.opening req s with
  | error f m =>
    rw [run_bind_error hrun]
    exact .failed (hends.of_error hrun).2
  | ok o m =>
    rw [run_bind_ok hrun]
    obtain ⟨hfallback, hcounting⟩ := (opening_counting hs).of_ok hrun
    exact proceed_comesTo (hends.of_ok hrun) ((opening_attempts r req s).of_ok hrun) hfallback
      hcounting

/-! ### What is reported -/

/-- The entry about a resolved name and the attempts that it has taken. -/
def resolution (r : Resolver) (req : Request) (res : ResolvedName) (attempts : Nat) : LogEntry :=
  ⟨.debug, r.settings.service, s!"Resolved {req.kind.word}",
    LogEvent.resolutionFields (.str req.kind.word) req.rawName (textJson res.name)
      (.int attempts) ++
      [("suffix", ResolvedName.suffixJson res.suffix), ("used_fallback", .bool res.usedFallback)]⟩

/-- The last entry in the log is about the result and so many attempts, if entries of the lowest
level are kept. -/
def Reports (r : Resolver) (req : Request) (res : ResolvedName) (attempts : Nat) (s' : Session) :
    Prop :=
  s'.shared.debug = true → s'.shared.log.getLast? = some (r.resolution req res attempts)

/-- A request that ends with a name reports its attempts. -/
theorem finish_reports (name lower : Text) (suffix : Option Quantity) (usedFallback : Bool)
    (attempts : Nat) :
    Ends (r.finish req name lower suffix usedFallback attempts) m
      (fun res s' => r.Reports req res attempts s') (fun _ _ => False) := by
  rw [finish, ends_bind, note, Task.note, ends_modify, ends_pure]
  intro hdebug
  split
  · rename_i hquiet
    rw [if_pos hquiet, hquiet.2] at hdebug
    cases hdebug
  · exact List.getLast?_concat

/-- A request may make so many attempts: those of two linear searches, and if the search without an
end behind the fallback name has been begun, those of its rounds besides. -/
def Affords (r : Resolver) (req : Request) (n : Int) (s : Session) (attempts : Nat) : Prop :=
  attempts ≤ 2 * r.maxAttempts ∨
    ∃ fallback before m₀ m lost, r.resolve req s = r.resolveByDoubling req fallback before m₀ ∧
      r.note .warning "Fallback suffix search exhausted, doubling suffix"
        (searchContext req "base" fallback before) m₀ = .ok () m ∧
      r.LosesIn req n fallback m lost ∧ lost ≤ pendingLosses s ∧
      attempts ≤ 2 * r.maxAttempts + roundsCost (maxSuffix n.toNat) lost

/-- What the search without an end comes to is afforded, if the request has come down to it. -/
theorem resolveByDoubling_affords {fallback : Text} {before : Nat} {m₀ : Session}
    (hlimit : req.limit = .whole n)
    (hrun : r.resolve req s = r.resolveByDoubling req fallback before m₀)
    (hbefore : before ≤ 2 * r.maxAttempts) (hwanes : s.Wanes m₀)
    (hcounting : m₀.worker.suffixes.Counting) :
    Ends (r.resolveByDoubling req fallback before) m₀
      (fun res s' => ∃ attempts, r.Reports req res attempts s' ∧ r.Affords req n s attempts)
      (fun f _ => f.isExhausted = true → s.Foresees f ∨ ∃ fallback attempts,
        f = .exhausted (.str req.kind.word) (textJson fallback) (.int (attempts : Nat)) ∧
          r.Affords req n s attempts) := by
  rw [resolveByDoubling, ends_bind]
  refine ((Registry.note_rests _).and (ends_self _ m₀)).mono (fun _ m hm => ?_)
    fun _ _ h => h.1.elim
  obtain ⟨hrest, hnote⟩ := hm
  replace hwanes := hwanes.trans hrest.asks.wanes
  rw [← hrest.looks.worker] at hcounting
  obtain ⟨lost, hlost, hloses⟩ := searchDoubling_rounds hlimit hcounting r fallback
  have hafford : ∀ more, more ≤ roundsCost (maxSuffix n.toNat) lost →
      r.Affords req n s (before + more) := fun more hmore =>
    .inr ⟨fallback, before, m₀, m, lost, hrun, hnote, hloses,
      Nat.le_trans hlost hwanes.pendingLosses_le, Nat.add_le_add hbefore hmore⟩
  -- the search itself does not fail like a resolution
  have hrespects := searchDoubling_respects (waning_answers s).toAnswersSearches r req fallback
  rw [ends_bind]
  refine (hloses.attempts_le.and (respects_keeping.1 hrespects m hwanes)).mono (fun p m₁ h₁ => ?_)
    fun f m₁ h₁ hexhausted => .inl (h₁.2.2 hexhausted)
  obtain ⟨hmore, -⟩ := h₁
  obtain ⟨_ | found, more⟩ := p
  · dsimp only
    rw [ends_bind]
    refine (Registry.note_rests _).mono (fun _ _ _ => ?_) fun _ _ h => h.elim
    exact fun _ => .inr ⟨fallback, before + more, rfl, hafford more hmore⟩
  · exact (finish_reports _ _ _ _ _).mono (fun _ _ h => ⟨_, h, hafford more hmore⟩)
      fun _ _ h => h.elim

/-- A request ends, and its attempts are bounded, whatever its session. A linear search makes no
more attempts than it may. The search without an end comes to an end after so many losses, and makes
no more attempts than its rounds cost: for each of them one, and two for each binary digit of the
largest suffix. So neither a result nor the fault of a resolution that has found no suffix is
reported with more attempts than two linear searches and these rounds may make, unless the store
itself fails with such a fault. -/
theorem resolve_attempts (hlimit : req.limit = .whole n) (hs : s.worker.suffixes.Counting)
    (r : Resolver) :
    (∀ name, Results (r.searchLinear req name) fun p => p.2 ≤ r.maxAttempts) ∧
    (∀ (name : Text) (m : Session), m.worker.suffixes.Counting →
      (∃! lost, r.LosesIn req n name m lost) ∧
      ∀ lost, r.LosesIn req n name m lost → lost ≤ pendingLosses m ∧
        Ends (r.searchDoubling req name) m
          (fun p _ => p.2 ≤ (lost + 1) * (1 + 2 * (Nat.pow 10 (n.toNat - 2) - 1).size))
          (fun _ _ => True)) ∧
    Ends (r.resolve req) s
      (fun res s' => ∃ attempts, r.Reports req res attempts s' ∧ r.Affords req n s attempts)
      (fun f _ => f.isExhausted = true → s.Foresees f ∨ ∃ fallback attempts,
        f = .exhausted (.str req.kind.word) (textJson fallback) (.int (attempts : Nat)) ∧
          r.Affords req n s attempts) := by
  refine ⟨searchLinear_attempts r req, fun name m hm => ?_, ?_⟩
  · obtain ⟨lost, hlost, hloses⟩ := searchDoubling_rounds hlimit hm r name
    refine ⟨⟨lost, hloses, fun lost' h => h.unique hloses⟩, fun lost' h => ⟨?_, h.attempts_le⟩⟩
    rwa [h.unique hloses]
  · have hcomes := resolve_comesTo hs r req
    generalize hrun : r.resolve req s = o at hcomes
    -- only the last of these runs the search without an end
    cases hcomes with
    | failed hf =>
      refine ends_iff.2 ⟨fun res s' h => ?_, fun f s' h hexhausted => ?_⟩
      · rw [hrun] at h
        cases h
      · rw [hrun] at h
        obtain ⟨rfl, -⟩ := EStateM.Result.error.inj h
        exact .inl (hf hexhausted)
    | found hattempts =>
      rw [ends_congr hrun]
      exact (finish_reports _ _ _ _ _).mono (fun _ _ h => ⟨_, h, .inl hattempts⟩)
        fun _ _ h => h.elim
    | doubling hattempts hwanes hcounting =>
      rw [ends_congr hrun]
      exact resolveByDoubling_affords hlimit hrun hattempts hwanes hcounting

/-- A session in which the fallback name and its first suffixed form are held, and another worker is
about to take the second one. Every entry is kept in the log. -/
def contested : Session :=
  ⟨⟨.memory (["use", "u_1"].foldl (fun sets name => sets.add .username name.toList) NameSets.empty),
      none, [], true, "used-names", ""⟩,
    { Worker.standard with contention := ⟨[⟨"u_2".toList, .username⟩], []⟩ }⟩

/-- The second suffixed form is lost, and the third one is found in another round. It takes one
attempt of a linear search, two in the first round, and one in the second. -/
theorem resolve_attempts_contested :
    nameless.limit = .whole 3 ∧ contested.worker.suffixes.Counting ∧
      ∃ res s', hasty.resolve nameless contested = .ok res s' ∧ res.name = "u_3".toList ∧
        hasty.Reports nameless res 4 s' ∧ hasty.Affords nameless 3 contested 4 := by
  have hcounting : contested.worker.suffixes.Counting := fun e he => by cases he
  let told : LogEntry → Option Int := fun e => (e.context.lookup "attempts").bind Json.int?
  have hcomputed : Ends (hasty.resolve nameless) contested
      (fun res s' => res.name = "u_3".toList ∧ s'.shared.debug = true ∧
        s'.shared.log.getLast?.bind told = some 4)
      (fun _ _ => False) := by
    decide +kernel
  obtain ⟨-, -, hends⟩ := resolve_attempts (rfl : nameless.limit = .whole 3) hcounting hasty
  cases hrun : hasty.resolve nameless contested with
  | error f s' => exact (hcomputed.of_error hrun).elim
  | ok res s' =>
    obtain ⟨hname, hdebug, htold⟩ := hcomputed.of_ok hrun
    obtain ⟨attempts, hreports, haffords⟩ := hends.of_ok hrun
    -- the entry tells how many attempts there were
    rw [hreports hdebug] at htold
    have hattempts : (attempts : Int) = 4 := Option.some.inj htold
    obtain rfl : attempts = 4 := by omega
    exact ⟨rfl, hcounting, res, s', rfl, hname, hreports, haffords⟩

end Resolver

end Namesake
