import Namesake.Proofs.Resolver.Hints

/-!
# What a request comes to

With ASCII names, under a whole limit and where nobody disturbs, it is settled by the store alone
what a request comes to. The name is claimed as it is if it is free. Otherwise the names behind
which to search are gone through, and the first whose course does not end with nothing left of the
name tells: it ends at a free candidate, which gives the result, or at a suffix with too many
digits, which gives a fault. If all of the courses are dead, there is no result: the search without
an end comes across suffixed forms of the fallback name alone, and the course behind it has met all
of them. The caches have no say in this, as long as no linear search gives up before its course has
ended.

## Main definitions

* `Resolver.fallbackText`, `Resolver.sources` — the names behind which a request searches
* `Resolver.Falls`, `Resolver.Settles` — what the searches, and the request, come to
* `Resolver.searches`, `Resolver.Patient` — the linear searches of a request, and that none gives up
* `Resolver.Lapse`, `Resolver.Lapses` — the fault of a request without a result

## Main results

* `Resolver.Settles.unique` — a request comes to one result at most
* `Resolver.resolve_settles` — a resolution that is patient ends as the store has settled it
-/

open Namesake.Task

namespace Namesake

open Unicode

namespace Resolver

variable {r : Resolver} {req : Request} {s s' m : Session} {allow : Bool} {n : Int} {store : Store}
variable {x fallback : Text} {o o' : Except Fault (Option ResolvedName)} {k : Nat} {f : Fault}

/-! ### The names of a request -/

/-- The fallback name for a request under a whole limit. -/
def fallbackText (r : Resolver) (req : Request) (n : Int) : Text :=
  let own := (r.policy.sanitize req.fallbackName).cutTo n
  let chosen :=
    if r.asksConfigured req || (own.isEmpty || isTrapped r.reserved own) then r.fallbackOf req.kind
    else own
  if (chosen.cutTo n).isEmpty then lastResort else chosen.cutTo n

/-- The clean raw name of a request under a whole limit. -/
def cleanText (r : Resolver) (req : Request) (n : Int) : Text :=
  (r.policy.sanitize req.rawName).cutTo n

/-- The name that a request is given if it is free. -/
def startText (r : Resolver) (req : Request) (n : Int) : Text :=
  if (r.cleanText req n).isEmpty then r.fallbackText req n else r.cleanText req n

/-- The names behind which to search, each of them with whether it is the fallback name. -/
def sourcesBehind (x fallback : Text) (usedFallback : Bool) : List (Text × Bool) :=
  (x, usedFallback) :: if usedFallback then [] else [(fallback, true)]

/-- The names behind which a request searches if its name is not free. -/
def sources (r : Resolver) (req : Request) (n : Int) : List (Text × Bool) :=
  let clean := r.cleanText req n
  let usedFallback :=
    clean.isEmpty || (!req.allowReserved && r.reserved.defeatsSuffix (lowercase clean))
  sourcesBehind (if usedFallback then r.fallbackText req n else clean) (r.fallbackText req n)
    usedFallback

theorem fallbackFor_text (hlimit : req.limit = .whole n) :
    Ends (r.fallbackFor req) s (fun name s' => name = r.fallbackText req n ∧ s.Rests s')
      (fun _ _ => False) := by
  have hcut : ∀ {m : Session} {chosen : Text}, s.Rests m →
      Ends (do
          let name ← Task.lift (Limit.cut (.whole n) chosen)
          return if name.isEmpty then lastResort else name) m
        (fun name s' => name = (if (chosen.cutTo n).isEmpty then lastResort else chosen.cutTo n) ∧
          s.Rests s')
        (fun _ _ => False) := by
    intro m chosen hm
    rw [Limit.cut_whole, ends_bind, ends_lift]
    refine ⟨fun name hname => ?_, fun _ hf => by cases hf⟩
    obtain rfl := Except.ok.inj hname
    exact ⟨rfl, hm⟩
  rw [fallbackFor, chosenFallback, fallbackText, hlimit, ends_bind]
  by_cases hasks : r.asksConfigured req = true
  · simp only [hasks, ↓reduceIte, Bool.true_or, ends_pure]
    exact hcut (.refl s)
  · rw [if_neg hasks, ends_bind, prepare, Limit.cut_whole, ends_lift]
    refine ⟨fun own hown => ?_, fun _ hf => by cases hf⟩
    obtain rfl := Except.ok.inj hown
    rw [Bool.eq_false_iff.2 hasks, Bool.false_or]
    split
    · rw [ends_bind]
      refine (Registry.note_rests _).mono (fun _ m hm => ?_) fun _ _ hf => hf
      exact hcut hm
    · exact hcut (.refl s)

theorem cleanName_text (hlimit : req.limit = .whole n) :
    r.cleanName req = .ok (r.cleanText req n) := by
  unfold cleanName cleanText
  dsimp only
  split
  · rename_i hempty
    rw [List.isEmpty_iff.1 hempty, List.prefix_nil.1 (Text.cutTo_isPrefix [] n)]
    rfl
  · rw [hlimit, Limit.cut_whole]

theorem narrow_cleanText (hascii : r.policy.unicode = false) (req : Request) (n : Int) :
    (r.cleanText req n).IsNarrow :=
  ((CharacterPolicy.sanitize_tidy r.policy req.rawName).isNarrow hascii).cutTo n

/-! ### What is settled -/

/-- What the searches behind the names come to, one after the other: the first that comes to a
candidate gives the result, and the first that comes to a suffix with too many digits the fault. -/
inductive Falls (r : Resolver) (req : Request) (n : Int) (store : Store) :
    List (Text × Bool) → Except Fault (Option ResolvedName) → Prop
  | nil : Falls r req n store [] (.ok none)
  | found {x : Text} {usedFallback : Bool} {rest : List (Text × Bool)} {p : Trial} :
      Course.Ends n (r.Barred req.allowReserved store) (lowercase x) (.ok (some p)) →
      Falls r req n store ((x, usedFallback) :: rest) (.ok (some ⟨(p.found x).name,
        (p.found x).nameLower, req.kind, some (p.found x).suffix, usedFallback⟩))
  | dead {x : Text} {usedFallback : Bool} {rest : List (Text × Bool)}
      {o : Except Fault (Option ResolvedName)} :
      Course.Ends n (r.Barred req.allowReserved store) (lowercase x) (.ok none) →
      Falls r req n store rest o → Falls r req n store ((x, usedFallback) :: rest) o
  | unwritable {x : Text} {usedFallback : Bool} {rest : List (Text × Bool)} {f : Fault} :
      Course.Ends n (r.Barred req.allowReserved store) (lowercase x) (.error f) →
      Falls r req n store ((x, usedFallback) :: rest) (.error f)

theorem Falls.unique {sources : List (Text × Bool)} (h : r.Falls req n store sources o)
    (h' : r.Falls req n store sources o') : o = o' := by
  induction h with
  | nil =>
    cases h'
    rfl
  | found hp =>
    cases h' with
    | found hq =>
      obtain rfl := Option.some.inj (Except.ok.inj (Course.ends_unique hp hq))
      rfl
    | dead hq _ => cases Course.ends_unique hp hq
    | unwritable hq => cases Course.ends_unique hp hq
  | dead hp _ ih =>
    cases h' with
    | found hq => cases Course.ends_unique hp hq
    | dead _ hrest => exact ih hrest
    | unwritable hq => cases Course.ends_unique hp hq
  | unwritable hp =>
    cases h' with
    | found hq => cases Course.ends_unique hp hq
    | dead hq _ => cases Course.ends_unique hp hq
    | unwritable hq =>
      obtain rfl := Except.error.inj (Course.ends_unique hp hq)
      rfl

/-- What a request comes to. -/
inductive Settles (r : Resolver) (req : Request) (n : Int) (store : Store) :
    Except Fault (Option ResolvedName) → Prop
  | plain : r.Free req.allowReserved (lowercase (r.startText req n)) store →
      Settles r req n store (.ok (some ⟨r.startText req n, lowercase (r.startText req n), req.kind,
        none, (r.cleanText req n).isEmpty⟩))
  | searched {o : Except Fault (Option ResolvedName)} :
      r.Barred req.allowReserved store (lowercase (r.startText req n)) →
      r.Falls req n store (r.sources req n) o → Settles r req n store o

/-- A request comes to one result at most. -/
theorem Settles.unique (h : r.Settles req n store o) (h' : r.Settles req n store o') : o = o' := by
  cases h with
  | plain hfree =>
    cases h' with
    | plain => rfl
    | searched hbarred _ => exact absurd hfree hbarred
  | searched hbarred hfalls =>
    cases h' with
    | plain hfree => exact absurd hfree hbarred
    | searched _ hfalls' => exact hfalls.unique hfalls'

/-! ### Where the course behind the fallback name is dead -/

/-- The fault of a request that comes to no result. It is that of the search which comes to a suffix
with too many digits. If none does, the request is exhausted, unless doubling comes to such a
suffix. -/
inductive Lapse (req : Request) (n : Int) (fallback : Text) :
    Except Fault (Option ResolvedName) → Fault → Prop
  | exhausted (attempts : Json) : maxSuffix n.toNat < digitBound →
      Lapse req n fallback (.ok none)
        (.exhausted (.str req.kind.word) (textJson fallback) attempts)
  | doubled : digitBound ≤ maxSuffix n.toNat → Lapse req n fallback (.ok none) tooManyDigits
  | unwritable : maxDigits + 2 ≤ n.toNat →
      Lapse req n fallback (.error tooManyDigits) tooManyDigits

theorem suffixed_whole (hk : k < digitBound) (x : Text) (n : Int) :
    suffixed x (.whole k) (.whole n) = .ok (if (x.cutTo (n - Trial.room k)).isEmpty then none
      else some (x.cutTo (n - Trial.room k) ++ suffixTail (.whole k))) := by
  rw [suffixed, baseFor_of_writable (isWritable_iff_lt.2 hk), Limit.minus_whole, Limit.cut_whole]
  rfl

theorem suffixed_whole_eq_some {candidate : Text} :
    suffixed x (.whole k) (.whole n) = .ok (some candidate) ↔ k < digitBound ∧
      x.cutTo (n - Trial.room k) ≠ [] ∧
        candidate = x.cutTo (n - Trial.room k) ++ suffixTail (.whole k) := by
  by_cases hk : k < digitBound
  · rw [suffixed_whole hk, Except.ok.injEq, ← List.isEmpty_eq_false_iff]
    cases (x.cutTo (n - Trial.room k)).isEmpty <;> simp [hk, eq_comm]
  · rw [suffixed_of_not_writable (mt isWritable_iff_lt.1 hk)]
    simp [hk]

/-- A suffixed form that the course has met is not usable. -/
theorem not_usable_of_lost (hlimit : req.limit = .whole n) (hx : x.IsNarrow)
    (h : Course.Lost n (r.Barred req.allowReserved store) (lowercase x) k) :
    ¬ r.Usable req x (.whole k) store := by
  rintro ⟨candidate, hcandidate, hfree⟩
  rw [hlimit] at hcandidate
  obtain ⟨-, hne, rfl⟩ := suffixed_whole_eq_some.1 hcandidate
  have hbase : lowercase (x.cutTo (n - Trial.room k)) = Course.baseAt n (lowercase x) k :=
    Text.lowercase_cutTo hx _
  rw [lowercase_suffixed, hbase] at hfree
  rcases h with hnil | hbarred
  · rw [hnil, ← List.length_eq_zero_iff, Text.length_lowercase (hx.cutTo _),
      List.length_eq_zero_iff] at hbase
    exact hne hbase
  · exact hbarred hfree

theorem suffixAvailable_unusable (hs : s.Calm) (hlimit : req.limit = .whole n)
    (h : ¬ r.Usable req x (.whole k) s.shared.store) :
    Ends (r.suffixAvailable req x (.whole k)) s
      (fun b s' => b = false ∧ k < digitBound ∧ s.Rests s')
      (fun f s' => f = tooManyDigits ∧ digitBound ≤ k ∧ s.Rests s') := by
  rw [suffixAvailable, ends_bind, ends_lift]
  by_cases hk : k < digitBound
  · rw [hlimit, suffixed_whole hk]
    refine ⟨fun found hfound => ?_, fun _ hf => by cases hf⟩
    cases found with
    | none => exact ⟨rfl, hk, .refl s⟩
    | some candidate =>
      refine (isAvailable_calm hs).mono (fun b s' h' => ⟨?_, hk, h'.1⟩) fun _ _ hf => hf.elim
      refine Bool.eq_false_iff.2 fun hb => h ⟨candidate, ?_, h'.2.1 hb⟩
      rw [hlimit, suffixed_whole hk, hfound]
  · rw [suffixed_of_not_writable (mt isWritable_iff_lt.1 hk)]
    refine ⟨fun _ h => (by cases h), fun f hf => ?_⟩
    exact ⟨(Except.error.inj hf).symm, Nat.le_of_not_lt hk, .refl s⟩

/-- A resolver that asks for suffixed forms none of which is usable is told so, or that the suffix
may not be written. -/
theorem tells_unusable (hs : s.Calm) (hlimit : req.limit = .whole n)
    (h : ∀ k : Nat, 1 ≤ k → ¬ r.Usable req x (.whole k) s.shared.store) {first : Nat}
    (hfirst : 0 < first) (top : Nat) :
    r.Tells req x s.Rests (fun _ => False) (· < digitBound)
      (fun f s' => f = tooManyDigits ∧ digitBound ≤ top ∧ s.Rests s') first top := by
  intro m k hm hk hktop
  have hunusable := h k (by omega)
  rw [← hm.looks.store] at hunusable
  refine (suffixAvailable_unusable (hs.rests hm) hlimit hunusable).mono (fun b m' h' => ?_)
    fun f m' h' => ⟨h'.1, h'.2.1.trans hktop, hm.trans h'.2.2⟩
  obtain ⟨rfl, hwritable, hrest⟩ := h'
  exact ⟨hm.trans hrest, hwritable⟩

/-- Where the course behind a name is dead, the search without an end behind it finds nothing. -/
theorem searchDoubling_dead (hlimit : req.limit = .whole n) (hs : r.Tracks req.allowReserved n s)
    (hx : x.IsNarrow)
    (hdead : Course.Ends n (r.Barred req.allowReserved s.shared.store) (lowercase x) (.ok none)) :
    Ends (r.searchDoubling req x) s
      (fun p s' => p.1 = none ∧ maxSuffix n.toNat < digitBound ∧ r.Moves req n s s' none)
      (fun f s' => f = tooManyDigits ∧ digitBound ≤ maxSuffix n.toNat ∧
        r.Moves req n s s' none) := by
  have hn := req.le_limit hlimit
  rw [searchDoubling, ends_bind, hlimit, largestSuffix_whole, ends_lift]
  refine ⟨fun top htop => ?_, fun _ hf => by cases hf⟩
  obtain rfl := Except.ok.inj htop
  rw [ends_bind]
  refine (lastSuffix_tracks hs (lowercase x)).mono (fun last m hm => ?_) fun _ _ hf => hf.elim
  obtain ⟨htracks, hshared, k, rfl, -⟩ := hm
  have hunusable : ∀ k : Nat, 1 ≤ k → ¬ r.Usable req x (.whole k) m.shared.store := fun k hk => by
    rw [hshared]
    exact not_usable_of_lost hlimit hx (Course.dead_end hx.lowercase hdead hk)
  have hmoves : ∀ {m' : Session}, m.Rests m' → r.Moves req n s m' none := fun hrest =>
    ⟨htracks.rests hrest, by rw [hrest.looks.store, hshared]; rfl, by rw [hrest.looks.now, hshared]⟩
  have htop := maxSuffix_pos (n := n.toNat) (by omega)
  rw [ends_bind, ends_get]
  dsimp only
  rw [searchAbove, ends_bind]
  refine (offerAbove_tells (tells_unusable htracks.quiet.toCalm hlimit hunusable (by omega) _)
    (.refl m) _).mono (fun p m' h' => ?_) fun f m' h' => ⟨h'.1, h'.2.1, hmoves h'.2.2⟩
  obtain ⟨hrest, h'⟩ := h'
  obtain ⟨_ | _, attempts⟩ := p
  · -- doubling has come to the largest suffix
    exact ⟨rfl, h' _ (probed_top (by omega)), hmoves hrest⟩
  · exact h'.available.elim

/-- And a resolution that comes to it has no result. -/
theorem resolveByDoubling_dead (hlimit : req.limit = .whole n)
    (hs : r.Tracks req.allowReserved n s) (hf : fallback.IsNarrow)
    (hdead :
      Course.Ends n (r.Barred req.allowReserved s.shared.store) (lowercase fallback) (.ok none))
    (attempts : Nat) :
    Ends (r.resolveByDoubling req fallback attempts) s (fun _ _ => False)
      (fun f s' => Lapse req n fallback (.ok none) f ∧ r.Moves req n s s' none) := by
  rw [resolveByDoubling, ends_bind]
  refine (Registry.note_rests _).mono (fun _ m hm => ?_) fun _ _ hf => hf.elim
  rw [← hm.looks.store] at hdead
  rw [ends_bind]
  refine (searchDoubling_dead hlimit (hs.rests hm) hf hdead).mono (fun p m' h' => ?_)
    fun f m' h' => ?_
  · obtain ⟨_ | _, more⟩ := p
    · dsimp only
      rw [ends_bind]
      refine (Registry.note_rests _).mono (fun _ m'' hm'' => ?_) fun _ _ hf => hf.elim
      exact ⟨.exhausted _ h'.2.1, (h'.2.2.of_looks hm.looks).rests hm''⟩
    · cases h'.1
  · obtain ⟨rfl, hbound, hmoves⟩ := h'
    exact ⟨.doubled hbound, hmoves.of_looks hm.looks⟩

/-! ### Patience -/

/-- Is the linear search behind a name patient, and if it finds nothing, the one behind the fallback
name? A search is patient if it finds something or has attempts left. -/
def isPatientBehind (r : Resolver) (req : Request) (name fallback : Text) (usedFallback : Bool) :
    Task Bool := do
  let (found, attempts) ← r.searchLinear req name
  if found.isSome then return true
  else if attempts < r.maxAttempts then
    if usedFallback then return true
    else
      r.note .warning "Suffix search exhausted, using fallback name"
        (searchContext req "base" name attempts)
      let (found, more) ← r.searchLinear req fallback
      return found.isSome || more < r.maxAttempts
  else return false

/-- Are all linear searches of a request patient? There are none if the name is free as it is. -/
def isPatient (r : Resolver) (req : Request) : Task Bool := do
  let fallback ← r.fallbackFor req
  let clean ← Task.lift (r.cleanName req)
  let usedFallback := clean.isEmpty
  let name := if usedFallback then fallback else clean
  if ← r.tryClaim req name (lowercase name) then return true
  else if !usedFallback && !req.allowReserved && r.reserved.defeatsSuffix (lowercase name) then
    r.isPatientBehind req fallback fallback true
  else r.isPatientBehind req name fallback usedFallback

/-- No linear search of the request uses up its attempts. -/
def Patient (r : Resolver) (req : Request) (s : Session) : Prop :=
  Ends (r.isPatient req) s (fun b _ => b = true) (fun _ _ => True)

instance (r : Resolver) (req : Request) (s : Session) : Decidable (r.Patient req s) :=
  inferInstanceAs (Decidable (Ends ..))

/-! ### Resolutions -/

/-- What the searches behind a name have found is the result of the resolution. -/
theorem finish_found {f : Found} {usedFallback : Bool} (rest : List (Text × Bool))
    (hfollows : r.Follows req n x s m (.ok (some f))) (attempts : Nat) :
    Ends (r.finish req f.name f.nameLower (some f.suffix) usedFallback attempts) m
      (fun res s' => r.Falls req n s.shared.store ((x, usedFallback) :: rest) (.ok (some res)) ∧
        r.Moves req n s s' (some (res.name, res.nameLower)))
      (fun _ _ => False) := by
  obtain ⟨⟨_ | _ | p, hends, hfound⟩, hmoves⟩ := hfollows
  · cases hfound
  · cases hfound
  · obtain rfl := Option.some.inj (Except.ok.inj hfound)
    rw [finish, ends_bind]
    refine (Registry.note_rests _).mono (fun _ s' h' => ?_) fun _ _ hf => hf
    exact ⟨.found hends, hmoves.rests h'⟩

/-- A search that finds nothing has come to the dead end of its course, and nothing has been
claimed. -/
theorem Follows.dead (h : r.Follows req n x s m (.ok none)) :
    Course.Ends n (r.Barred req.allowReserved s.shared.store) (lowercase x) (.ok none) ∧
      r.Moves req n s m none := by
  obtain ⟨⟨_ | _ | p, hends, hfound⟩, hmoves⟩ := h
  · cases hfound
  · exact ⟨hends, hmoves⟩
  · cases hfound

/-- The searches behind the names have come to no result. There is a fault, and nothing has been
claimed. -/
def Lapses (r : Resolver) (req : Request) (n : Int) (fallback : Text) (sources : List (Text × Bool))
    (s : Session) (f : Fault) (s' : Session) : Prop :=
  ∃ o, r.Falls req n s.shared.store sources o ∧ Lapse req n fallback o f ∧ r.Moves req n s s' none

/-- A search that fails has come to a suffix with too many digits. -/
theorem Follows.lapses (h : r.Follows req n x s m (.error f)) (hx : x.IsNarrow) (hne : x ≠ [])
    (fallback : Text) (usedFallback : Bool) (rest : List (Text × Bool)) :
    r.Lapses req n fallback ((x, usedFallback) :: rest) s f m := by
  obtain ⟨⟨_ | _ | p, hends, hfault⟩, hmoves⟩ := h
  · obtain rfl := Except.error.inj hfault
    have hlower : lowercase x ≠ [] := by
      rwa [← List.length_pos_iff, Text.length_lowercase hx, List.length_pos_iff]
    obtain ⟨rfl, hroom⟩ := Course.limit_of_unwritable hlower hends
    exact ⟨_, .unwritable hends, .unwritable hroom, hmoves⟩
  · cases hfault
  · cases hfault

/-- With the course behind the fallback name dead, nothing is found behind any further name. -/
theorem resolveByDoubling_falls (hlimit : req.limit = .whole n) (hf : fallback.IsNarrow)
    (hfollows : r.Follows req n fallback s m (.ok none)) (attempts : Nat) :
    Ends (r.resolveByDoubling req fallback attempts) m (fun _ _ => False)
      (r.Lapses req n fallback [(fallback, true)] s) := by
  obtain ⟨hdead, hmoves⟩ := hfollows.dead
  refine (resolveByDoubling_dead hlimit hmoves.tracks hf (by rwa [hmoves.store]) attempts).mono
    (fun _ _ h => h) fun f s' h' => ?_
  exact ⟨_, .dead hdead .nil, h'.1, hmoves.trans h'.2⟩

/-- The search behind the fallback name that follows a search behind another name. -/
theorem searchFallback_falls (hlimit : req.limit = .whole n) (hs : r.Tracks req.allowReserved n s)
    (hf : fallback.IsNarrow) (hfne : fallback ≠ []) (attempts : Nat)
    (hpatient : Ends (r.searchLinear req fallback) s
      (fun q _ => (q.1.isSome || decide (q.2 < r.maxAttempts)) = true) fun _ _ => True) :
    Ends (do
        let (found, more) ← r.searchLinear req fallback
        match found with
        | some f => r.finish req f.name f.nameLower (some f.suffix) true (attempts + more)
        | none => r.resolveByDoubling req fallback (attempts + more)) s
      (fun res s' => r.Falls req n s.shared.store [(fallback, true)] (.ok (some res)) ∧
        r.Moves req n s s' (some (res.name, res.nameLower)))
      (r.Lapses req n fallback [(fallback, true)] s) := by
  rw [ends_bind]
  refine ((searchLinear_course hlimit hf hfne hs).and hpatient).mono (fun q m hq => ?_)
    fun _ _ h => h.1.lapses hf hfne fallback true []
  obtain ⟨found, more⟩ := q
  obtain ⟨hfollows, hpatient⟩ := hq
  cases found with
  | some f =>
    exact (finish_found [] (hfollows fun h => by cases h) _).mono (fun _ _ h => h)
      fun _ _ h => h.elim
  | none =>
    have hleft : more < r.maxAttempts := by simpa using hpatient
    exact (resolveByDoubling_falls hlimit hf (hfollows fun _ => hleft) _).mono (fun _ _ h => h.elim)
      fun _ _ h => h

theorem resolveBySuffix_falls (hlimit : req.limit = .whole n) (hs : r.Tracks req.allowReserved n s)
    (hx : x.IsNarrow) (hxne : x ≠ []) (hf : fallback.IsNarrow) (hfne : fallback ≠ [])
    {usedFallback : Bool} (hused : usedFallback = true → x = fallback)
    (hpatient : Ends (r.isPatientBehind req x fallback usedFallback) s (fun b _ => b = true)
      fun _ _ => True) :
    Ends (r.resolveBySuffix req x fallback usedFallback) s
      (fun res s' =>
        r.Falls req n s.shared.store (sourcesBehind x fallback usedFallback) (.ok (some res)) ∧
          r.Moves req n s s' (some (res.name, res.nameLower)))
      (r.Lapses req n fallback (sourcesBehind x fallback usedFallback) s) := by
  rw [isPatientBehind, ends_bind] at hpatient
  rw [resolveBySuffix, ends_bind]
  refine ((searchLinear_course hlimit hx hxne hs).and hpatient).mono (fun q m hq => ?_)
    fun _ _ h => h.1.lapses hx hxne fallback usedFallback _
  obtain ⟨found, attempts⟩ := q
  obtain ⟨hfollows, hrest⟩ := hq
  cases found with
  | some f =>
    exact (finish_found _ (hfollows fun h => by cases h) _).mono (fun _ _ h => h)
      fun _ _ h => h.elim
  | none =>
    dsimp only at hrest ⊢
    rw [Option.isSome_none, if_neg Bool.false_ne_true] at hrest
    split at hrest
    · rename_i hleft
      replace hfollows := hfollows fun _ => hleft
      cases usedFallback with
      | true =>
        obtain rfl := hused rfl
        rw [if_pos rfl]
        exact (resolveByDoubling_falls hlimit hf hfollows _).mono (fun _ _ h => h.elim)
          fun _ _ h => h
      | false =>
        obtain ⟨hdead, hmoves⟩ := hfollows.dead
        rw [if_neg Bool.false_ne_true, ends_bind] at hrest ⊢
        refine ((Registry.note_rests _).and hrest).mono (fun _ m₁ h₁ => ?_) fun _ _ hf => hf.1.elim
        obtain ⟨hnote, hrest⟩ := h₁
        replace hmoves := hmoves.rests hnote
        rw [ends_bind] at hrest
        refine (searchFallback_falls hlimit hmoves.tracks hf hfne attempts hrest).mono
          (fun res s' h => ?_) fun e s' h => ?_
        · rw [hmoves.store] at h
          exact ⟨.dead hdead h.1, hmoves.trans h.2⟩
        · obtain ⟨o, hfalls, hlapse, hmoves'⟩ := h
          rw [hmoves.store] at hfalls
          exact ⟨o, .dead hdead hfalls, hlapse, hmoves.trans hmoves'⟩
    · cases hrest

/-- Wherever the search begins, it comes to what the names fall to behind which it goes on. -/
theorem resolveBySuffix_settles (hlimit : req.limit = .whole n)
    (hs : r.Tracks req.allowReserved n m) (hrest : s.Rests m)
    (hbarred : r.Barred req.allowReserved s.shared.store (lowercase (r.startText req n)))
    (hx : x.IsNarrow) (hxne : x ≠ []) (hf : (r.fallbackText req n).IsNarrow)
    (hfne : r.fallbackText req n ≠ []) {usedFallback : Bool}
    (hused : usedFallback = true → x = r.fallbackText req n)
    (hsources : sourcesBehind x (r.fallbackText req n) usedFallback = r.sources req n)
    (hpatient : Ends (r.isPatientBehind req x (r.fallbackText req n) usedFallback) m
      (fun b _ => b = true) fun _ _ => True) :
    Ends (r.resolveBySuffix req x (r.fallbackText req n) usedFallback) m
      (fun res s' => r.Settles req n s.shared.store (.ok (some res)) ∧
        r.Moves req n s s' (some (res.name, res.nameLower)))
      (fun f s' => ∃ o, r.Settles req n s.shared.store o ∧
        Lapse req n (r.fallbackText req n) o f ∧ r.Moves req n s s' none) := by
  refine (resolveBySuffix_falls hlimit hs hx hxne hf hfne hused hpatient).mono
    (fun res s' h => ?_) fun f s' h => ?_
  · rw [hsources, hrest.looks.store] at h
    exact ⟨.searched hbarred h.1, h.2.of_looks hrest.looks⟩
  · obtain ⟨o, hfalls, hlapse, hmoves⟩ := h
    rw [hsources, hrest.looks.store] at hfalls
    exact ⟨o, .searched hbarred hfalls, hlapse, hmoves.of_looks hrest.looks⟩

/-- A resolution that is patient ends as the store has settled it, and claims the name that it
gives. -/
theorem resolve_settles (hr : r.Prepared) (hascii : r.policy.unicode = false)
    (hlimit : req.limit = .whole n) (hs : r.Tracks req.allowReserved n s)
    (hpatient : r.Patient req s) :
    Ends (r.resolve req) s
      (fun res s' => r.Settles req n s.shared.store (.ok (some res)) ∧
        r.Moves req n s s' (some (res.name, res.nameLower)))
      (fun f s' => ∃ o, r.Settles req n s.shared.store o ∧
        Lapse req n (r.fallbackText req n) o f ∧ r.Moves req n s s' none) := by
  rw [Patient, isPatient, ends_bind] at hpatient
  rw [resolve, ends_bind]
  refine ((fallbackFor_ends.and (fallbackFor_text hlimit)).and hpatient).mono
    (fun fallback m hm => ?_) fun _ _ hf => hf.1.2.elim
  obtain ⟨⟨⟨-, hfne, hshape⟩, rfl, hrest⟩, hpatient⟩ := hm
  have hf := (hshape n hlimit hr).1.isNarrow hascii
  have hclean := narrow_cleanText hascii req n
  have htracks := hs.rests hrest
  rw [cleanName_text hlimit, ends_bind, ends_lift] at hpatient
  replace hpatient := hpatient.1 _ rfl
  rw [cleanName_text hlimit, ends_bind, ends_lift]
  refine ⟨fun clean h => ?_, fun _ hf => by cases hf⟩
  obtain rfl := Except.ok.inj h
  dsimp only at hpatient ⊢
  rw [ends_bind] at hpatient ⊢
  refine ((tryClaim_calm htracks.quiet.toCalm).and hpatient).mono (fun won m₁ h₁ => ?_)
    fun f m₁ h₁ => ?_
  · obtain ⟨hwon, hpatient⟩ := h₁
    cases won with
    | true =>
      obtain ⟨hfree, hins, hout⟩ := hwon
      rw [if_pos rfl, finish, ends_bind]
      refine (Registry.note_rests _).mono (fun _ s' h' => ?_) fun _ _ hf => hf.elim
      rw [hrest.looks.store] at hfree
      have hmoves : r.Moves req n m m₁ (some (r.startText req n, lowercase (r.startText req n))) :=
        ⟨htracks.inserts hins hout, hins.store, hins.now⟩
      exact ⟨.plain hfree, (hmoves.rests h').of_looks hrest.looks⟩
    | false =>
      obtain ⟨hbarred, hrest₁⟩ := hwon
      rw [hrest.looks.store] at hbarred
      replace hrest := hrest.trans hrest₁
      replace htracks := htracks.rests hrest₁
      rw [if_neg Bool.false_ne_true] at hpatient ⊢
      cases hempty : (r.cleanText req n).isEmpty with
      | true =>
        simp only [hempty, Bool.not_true, Bool.false_and, Bool.false_eq_true, ↓reduceIte]
          at hpatient ⊢
        exact resolveBySuffix_settles hlimit htracks hrest hbarred hf hfne hf hfne (fun _ => rfl)
          (by simp [sources, hempty]) hpatient
      | false =>
        simp only [hempty, Bool.not_false, Bool.true_and, Bool.false_eq_true, ↓reduceIte]
          at hpatient ⊢
        split
        · -- the rule that takes the name leaves only the fallback name
          rename_i hdefeat
          rw [if_pos hdefeat] at hpatient
          exact resolveBySuffix_settles hlimit htracks hrest hbarred hf hfne hf hfne (fun _ => rfl)
            (by simp [sources, hempty, hdefeat]) hpatient
        · rename_i hdefeat
          rw [if_neg hdefeat] at hpatient
          have hne : r.cleanText req n ≠ [] := fun h => by
            rw [h] at hempty
            cases hempty
          exact resolveBySuffix_settles hlimit htracks hrest hbarred hclean hne hf hfne
            (fun h => by cases h)
            (by simp [sources, hempty, hdefeat]) hpatient
  · rw [htracks.quiet.failing] at h₁
    exact absurd h₁.1.2.1 List.not_mem_nil

end Resolver

end Namesake
