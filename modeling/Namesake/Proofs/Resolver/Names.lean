import Namesake.Proofs.Resolver.Build

/-!
# What names resolutions give

Whatever a resolver is asked for, and whatever its caches and the store hold, the name that it gives
is not empty and keeps the limit of the request. The name is a cut of the clean raw name or of the
fallback name, alone or with a counted suffix behind it, and it has the shape of a clean name all
the same.

## Main definitions

* `Resolver.Works` — the sessions in which a resolver works

## Main results

* `Resolver.resolve_fits` — the name is not empty and keeps the limit
* `Resolver.resolve_wellFormed` — where the name comes from, and what shape it has
-/

open Namesake.Task

namespace Namesake

/-- A limit that is a whole number is the limit at that number. -/
theorem Limit.eq_whole {limit : Limit} (h : limit.isWhole = true) : ∃ n, limit = .whole n := by
  cases limit with
  | whole n => exact ⟨n, rfl⟩
  | real x => cases h

namespace Resolver

variable {settings : ResolverSettings} {r : Resolver} {w : Worker} {req : Request}
variable {s s' : Session} {res : ResolvedName} {n : Int} {base : Text} {q : Quantity}

/-- The suffix of a count is its decimal numeral behind the separator. -/
theorem suffixTail_whole (k : Nat) : suffixTail (.whole k) = '_' :: Nat.toDigits 10 k := by
  show suffixSeparator :: Text.ofNat k = _
  rw [Text.ofNat_eq_toDigits]
  rfl

/-! ### Length -/

/-- A name is at least as long as its base, of which something is left. -/
theorem ne_nil_of_suits {counting : Prop} {fallback : Text}
    (h : res.Suits counting r req fallback) : res.name ≠ [] := by
  obtain ⟨base, hbase, hname⟩ := h.made
  rw [hname]
  exact List.append_ne_nil_of_left_ne_nil hbase.nonempty _

/-- In every state of the caches and of the store an accepted resolver gives names that are not
empty and keep the limit of the request. -/
theorem resolve_fits (hbuild : build settings = .ok (r, w)) (hlimit : req.limit = .whole n)
    (hrun : r.resolve req s = .ok res s') :
    res.name ≠ [] ∧ (res.name.graphemeLength : Int) ≤ n := by
  obtain ⟨fallback, m, hfallback, -, hsuits⟩ :=
    (resolve_ends False.elim (fun h => h.elim)).of_ok hrun
  obtain ⟨-, -, hfit⟩ := fallbackFor_ends.of_ok hfallback
  exact ⟨ne_nil_of_suits hsuits, hsuits.fits n hlimit (hfit n hlimit (build_spec hbuild).1).2⟩

/-- Under the smallest limit the fallback name is cut to make room for the suffix. -/
theorem resolve_fits_smallest :
    build {} = .ok (.standard, .standard) ∧
    ∃ res s', Resolver.standard.resolve
        ⟨.username, .null, .str "user", .whole minMaxLength, false, rfl⟩
        (.idle (.memory (NameSets.empty.add .username "use".toList)) none) = .ok res s' ∧
      res.name = "u_1".toList ∧ res.name ≠ [] ∧
        (res.name.graphemeLength : Int) ≤ minMaxLength := by
  have hres : result? (Resolver.standard.resolve
      ⟨.username, .null, .str "user", .whole minMaxLength, false, rfl⟩)
      (.idle (.memory (NameSets.empty.add .username "use".toList)) none) =
        some ⟨"u_1".toList, "u_1".toList, .username, some 1, true⟩ := by decide +kernel
  obtain ⟨s', hrun⟩ := result?_eq_some.1 hres
  exact ⟨build_standard, _, s', hrun, rfl, resolve_fits build_standard rfl hrun⟩

/-! ### Shape -/

/-- The sessions in which a resolver works that began with the given caches. Between two requests
anything may happen to what it shares with others; its caches are those that the last request has
left behind. -/
inductive Works (r : Resolver) (w : Worker) : Session → Prop
  | start (shared : Shared) (contention : Contention) : Works r w ⟨shared, { w with contention }⟩
  | request {s : Session} {req : Request} (shared : Shared) (contention : Contention) :
      Works r w s → req.limit.isWhole = true →
        Works r w ⟨shared, { (left (r.resolve req) s).worker with contention }⟩

/-- A resolution leaves a cache of counts behind if it finds one. -/
theorem resolve_counting (hlimit : req.limit.isWhole = true) (h : s.worker.suffixes.Counting) :
    (left (r.resolve req) s).worker.suffixes.Counting := by
  have hs : s.Counts True := fun _ => h
  refine Ends.left (q := fun s' => s'.worker.suffixes.Counting) ?_
  refine (resolve_ends (fun _ => hlimit) hs).mono (fun res s' h' => ?_) (fun f s' h' => ?_)
  · obtain ⟨fallback, m, -, hclaim, -⟩ := h'
    exact hclaim.counts hs trivial
  · rcases h' with hwait | ⟨-, lower, name, hclaim⟩
    · exact hwait.counts hs trivial
    · exact hclaim.counts hs trivial

/-- A resolver that began with a cache of counts never has another. -/
theorem Works.counting (h : r.Works w s) (hw : w.suffixes.Counting) :
    s.worker.suffixes.Counting := by
  induction h with
  | start shared contention => exact hw
  | request shared contention _ hlimit ih => exact resolve_counting hlimit ih

/-- What a result is made of: a base that is a cut of the source, and a counted suffix if there is
any. -/
theorem made_of_suits {fallback : Text} (h : res.Suits True r req fallback)
    (hlimit : req.limit = .whole n) :
    ∃ base : Text, base ≠ [] ∧ base.IsCutOf (r.sourceOf req fallback res.usedFallback) ∧
      (res.suffix = none ∧ res.name = base ∨ ∃ k : Nat, 1 ≤ k ∧ res.suffix = some (.whole k) ∧
        res.name = base ++ '_' :: Nat.toDigits 10 k) := by
  obtain ⟨base, hbase, hname⟩ := h.made
  refine ⟨base, hbase.nonempty, hbase.cut (by rw [hlimit]; rfl), ?_⟩
  cases hsuffix : res.suffix with
  | none =>
    rw [hsuffix] at hname
    exact Or.inl ⟨rfl, hname.trans (List.append_nil base)⟩
  | some q =>
    obtain ⟨k, hk, rfl⟩ := h.counted trivial q hsuffix
    rw [hsuffix] at hname
    exact Or.inr ⟨k, hk, rfl, hname.trans (congrArg _ (suffixTail_whole k))⟩

/-- The name of a result has the shape of a name if what it is made from has. -/
theorem tidy_of_suits {fallback : Text} (h : res.Suits True r req fallback)
    (hlimit : req.limit = .whole n)
    (hsource : r.policy.Tidy (r.sourceOf req fallback res.usedFallback)) :
    r.policy.Tidy res.name := by
  obtain ⟨base, hne, hcut, hname⟩ := made_of_suits h hlimit
  rcases hname with ⟨-, hname⟩ | ⟨k, -, -, hname⟩
  · rw [hname]
    exact hsource.cut hcut
  · rw [hname]
    exact (hsource.cut hcut).numbered hne k

theorem sourceOf_tidy {fallback : Text} (h : r.policy.Tidy fallback) (usedFallback : Bool) :
    r.policy.Tidy (r.sourceOf req fallback usedFallback) := by
  unfold sourceOf
  split
  · exact h
  · exact CharacterPolicy.sanitize_tidy r.policy req.rawName

/-- A resolver with usable fallback names gives names that have the shape of names. -/
theorem resolve_tidy (hr : r.Prepared) (hs : s.worker.suffixes.Counting)
    (hlimit : req.limit = .whole n)
    (hrun : r.resolve req s = .ok res s') : r.policy.Tidy res.name := by
  have hcounts : s.Counts True := fun _ => hs
  have hwhole : True → req.limit.isWhole = true := fun _ => by rw [hlimit]; rfl
  obtain ⟨fallback, m, hfallback, -, hsuits⟩ := (resolve_ends hwhole hcounts).of_ok hrun
  obtain ⟨-, -, hfit⟩ := fallbackFor_ends.of_ok hfallback
  exact tidy_of_suits hsuits hlimit (sourceOf_tidy (hfit n hlimit hr).1 _)

/-- Whenever an accepted resolver gives a name, the name is a cut of the clean raw name or of the
fallback name for the request, with nothing or with a counted suffix behind it. It has only
characters of the alphabet, no two separators next to each other, a letter, mark or number at its
end, and one at its beginning or a `_` in the wide alphabet; and it is not reserved unless that is
allowed. -/
theorem resolve_wellFormed (hbuild : build settings = .ok (r, w)) (hworks : r.Works w s)
    (hlimit : req.limit = .whole n) (hrun : r.resolve req s = .ok res s') :
    ∃ fallback m, r.fallbackFor req s = .ok fallback m ∧
      (∃ base : Text, base ≠ [] ∧
        base.IsCutOf (if res.usedFallback then fallback else r.policy.sanitize req.rawName) ∧
        (res.suffix = none ∧ res.name = base ∨ ∃ k : Nat, 1 ≤ k ∧ res.suffix = some (.whole k) ∧
          res.name = base ++ '_' :: Nat.toDigits 10 k)) ∧
      (∀ c ∈ res.name, r.policy.admits c = true) ∧
      (res.name.IsChain fun a b => ¬ (isSeparator a = true ∧ isSeparator b = true)) ∧
      (∀ c ∈ res.name.getLast?, Unicode.isWord c = true) ∧
      (∀ c ∈ res.name.head?, Unicode.isWord c = true ∨ r.policy.unicode = true ∧ c = '_') ∧
      (req.allowReserved = false → r.reserved.holds res.nameLower = false) := by
  obtain ⟨hprepared, hw⟩ := build_spec hbuild
  have hs : s.Counts True := fun _ => hworks.counting hw
  have hwhole : True → req.limit.isWhole = true := fun _ => by rw [hlimit]; rfl
  obtain ⟨fallback, m, hfallback, -, hsuits⟩ := (resolve_ends hwhole hs).of_ok hrun
  obtain ⟨-, -, hfit⟩ := fallbackFor_ends.of_ok hfallback
  have htidy : r.policy.Tidy res.name :=
    tidy_of_suits hsuits hlimit (sourceOf_tidy (hfit n hlimit hprepared).1 _)
  refine ⟨fallback, m, hfallback, made_of_suits hsuits hlimit, htidy.admitted, htidy.apart,
    htidy.ending, fun c hc => isWord_of_leads (htidy.leading c hc), hsuits.allowed⟩

/-- A name that is held is given with the first suffix. -/
theorem resolve_wellFormed_ann :
    build {} = .ok (.standard, .standard) ∧
    ∃ s res s', Resolver.standard.Works .standard s ∧
      Resolver.standard.resolve Request.ann s = .ok res s' ∧ res.name = "Ann_1".toList ∧
      (∃ base : Text, base ≠ [] ∧ base.IsCutOf (Resolver.standard.policy.sanitize (.str "Ann")) ∧
        ∃ k : Nat, 1 ≤ k ∧ res.suffix = some (.whole k) ∧
          res.name = base ++ '_' :: Nat.toDigits 10 k) ∧
      ∀ c ∈ res.name.getLast?, Unicode.isWord c = true := by
  let s : Session := .idle (.memory (NameSets.empty.add .username "ann".toList)) none
  have hres : result? (Resolver.standard.resolve Request.ann) s =
      some ⟨"Ann_1".toList, "ann_1".toList, .username, some 1, false⟩ := by decide +kernel
  obtain ⟨s', hrun⟩ := result?_eq_some.1 hres
  have hworks : Resolver.standard.Works .standard s := .start s.shared .none
  obtain ⟨fallback, m, -, ⟨base, hne, hcut, hmade⟩, -, -, hlast, -⟩ :=
    resolve_wellFormed build_standard hworks rfl hrun
  refine ⟨build_standard, s, _, s', hworks, hrun, rfl, ⟨base, hne, hcut, ?_⟩, hlast⟩
  exact hmade.resolve_left fun h => by cases h.1

end Resolver

end Namesake
