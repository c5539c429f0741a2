import Namesake.Proofs.Resolver.Trail
import Namesake.Proofs.Unicode.Lowercase

/-!
# What a cut is remembered by

A linear search comes down from a name by one cut after another, and remembers no more of them than
the length of the base at which it has found a candidate. That is enough: any number of cuts are one
cut, and a cut is the cut to its own length. So the next search for the name comes to the very same
base at once.

## Main definitions

* `Resolver.Stored` — the cache of cuts has taken in the length of a base that a search has arrived
  at

## Main results

* `TruncationCache.cutLength?_record` — the cache gives the length that it has taken in
* `Resolver.Trail.cuts` — a search arrives at a base by cuts of the name
* `Resolver.searchLinear_recall` — what a search leaves in the cache leads to its base again
-/

open Namesake.Task

namespace Namesake

open Unicode

namespace TruncationCache

variable {c c' : TruncationCache} {base : Text} {limit : Limit} {length : Nat}

/-- Reading leaves as much room as there is. -/
theorem hasRoom_cutLength? : (c.cutLength? base limit).2.HasRoom ↔ c.HasRoom := by
  cases c with
  | cramped => exact Iff.rfl
  | bounded c =>
    simp only [cutLength?, Memo.read?, Memo.HasRoom, Recency.read?]
    split <;> rfl

/-- What has been recorded of a cut is what the cache gives. -/
theorem cutLength?_record (hroom : c.HasRoom) (h : c.record base limit length = .ok c') :
    (c'.cutLength? base limit).1 = some length := by
  cases c with
  | cramped => cases h
  | bounded c =>
    obtain rfl := Except.ok.inj h
    simp only [cutLength?, Memo.read?, Recency.read?, Recency.peek?_write hroom]

end TruncationCache

namespace Resolver

variable {r : Resolver} {req : Request} {name base : Text} {s m m' : Session}
variable {probed : List (Text × Quantity)} {used : Nat} {suffix : Quantity}

/-! ### The way to a base -/

/-- A search arrives at a base by cuts of the name, and something is left of it after a cut. -/
theorem Trail.cuts (hend : req.limit.isWhole = true ∨ name.EndsInWord)
    (h : r.Trail req name s probed used base suffix m) :
    Relation.ReflTransGen Text.CutsTo name base ∧ (base ≠ name → base ≠ []) := by
  induction h with
  | @start length? last m m' hcut hlast =>
    cases length? with
    | none => exact ⟨.refl, fun h => absurd rfl h⟩
    | some length =>
      rw [firstBase]
      split
      · exact ⟨.refl, fun h => absurd rfl h⟩
      · rename_i hempty
        exact ⟨.single ⟨length, rfl⟩, fun _ => by simpa using hempty⟩
  | miss htrail hfits hmissed ih => exact ih
  | @cut probed used base shorter suffix last m m' htrail hlong hcut hleft hlast ih =>
    obtain ⟨n, rfl⟩ := Text.cutsTo_of_cuts ih.1
    -- a limit that is no whole number cuts what ends in a word, and so does what is left of it
    have hcuts : (name.cutTo n).CutsTo shorter := Limit.cutsTo hcut (hend.imp
      (fun hwhole => Quantity.isWhole_sub rfl (Quantity.isWhole_sub rfl hwhole))
      fun hword => Text.cutTo_endsInWord hword n)
    exact ⟨ih.1.tail hcuts, fun _ => hleft⟩

/-- The length of a base leads a search to the base at once. -/
theorem Trail.firstBase_eq (hend : req.limit.isWhole = true ∨ name.EndsInWord)
    (h : r.Trail req name s probed used base suffix m) :
    firstBase name (some base.graphemeLength) = base := by
  obtain ⟨hcuts, hleft⟩ := h.cuts hend
  have hcut := Text.cutTo_of_cuts hcuts
  rw [firstBase, hcut]
  split
  · rename_i hempty
    by_contra hne
    exact hleft (Ne.symm hne) (List.isEmpty_iff.1 hempty)
  · rfl

/-- Only the name itself has the lower-case form of the name, among the bases that a search arrives
at. -/
theorem Trail.lowercase_ne (hend : req.limit.isWhole = true ∨ name.EndsInWord)
    (h : r.Trail req name s probed used base suffix m) :
    lowercase base ≠ lowercase name ↔ base ≠ name := by
  obtain ⟨n, rfl⟩ := Text.cutsTo_of_cuts (h.cuts hend).1
  exact not_congr ⟨eq_of_prefix_of_lowercase (Text.cutTo_isPrefix name n), congrArg lowercase⟩

/-! ### What the cache takes in -/

/-- A search for the name that began in the session `s` has stored a cut: into the cache, which was
`c` and is `c'` now, it has put the length of a base that it has arrived at and that is not the name
itself. -/
def Stored (r : Resolver) (req : Request) (name : Text) (s : Session) (c c' : TruncationCache)
    (base : Text) : Prop :=
  (∃ probed used suffix m, r.Trail req name s probed used base suffix m) ∧ base ≠ name ∧
    c.record (lowercase name) req.limit base.graphemeLength = .ok c'

/-- A claim leaves the cache of cuts as it is, whatever its end. -/
theorem tryClaim_truncations (lower : Text) :
    Ends (r.tryClaim req name lower) m
      (fun _ m' => m'.worker.truncations = m.worker.truncations)
      (fun _ m' => m'.worker.truncations = m.worker.truncations) := by
  rw [tryClaim, ends_bind]
  refine isAvailable_ends.mono (fun available m₁ h₁ => ?_) fun _ _ h => h.sameCaches.truncations
  obtain ⟨hlook, hmay⟩ := h₁
  cases available with
  | false => exact hlook.sameCaches.truncations
  | true =>
    have hopen := (hmay rfl).2
    rw [← hlook.store] at hopen
    refine (Registry.claim_ends hopen).mono (fun won m₂ h₂ => ?_) fun _ _ h₂ =>
      (hlook.sameCaches.trans (Session.Yields.caches h₂)).truncations
    cases won with
    | true => exact (hlook.sameCaches.trans (Session.Inserts.sameCaches h₂)).truncations
    | false => exact (hlook.sameCaches.trans (Session.Yields.caches h₂)).truncations

theorem recordSuffix_truncations (lower : Text) (suffix : Quantity) :
    Ends (Task.recordSuffix lower suffix) m
      (fun _ m' => m'.worker.truncations = m.worker.truncations)
      (fun _ m' => m'.worker.truncations = m.worker.truncations) := by
  rw [Task.recordSuffix, ends_bind, ends_get, ends_bind, ends_lift]
  exact ⟨fun _ _ => rfl, fun _ _ => rfl⟩

/-- A search that has claimed a candidate behind a base stores the base, unless it is the name
itself. It may still fail behind that. -/
theorem remember_stored (hend : req.limit.isWhole = true ∨ name.EndsInWord) (f : Found)
    (htrail : r.Trail req name s probed used base suffix m) {attempts : Nat} {m' : Session} :
    Ends (do
        if lowercase base ≠ lowercase name then
          Task.recordCut (lowercase name) req.limit base.graphemeLength
        Task.recordSuffix (lowercase base) suffix
        return (some f, attempts))
      m' (fun p s' => p.1 = some f ∧
        (base = name ∧ s'.worker.truncations = m'.worker.truncations ∨
          r.Stored req name s m'.worker.truncations s'.worker.truncations base))
      (fun _ s' => s'.worker.truncations = m'.worker.truncations ∨
        r.Stored req name s m'.worker.truncations s'.worker.truncations base) := by
  -- the suffix is recorded last, in a cache of its own
  have hlast : ∀ m₁ : Session,
      Ends (do Task.recordSuffix (lowercase base) suffix; return (some f, attempts)) m₁
        (fun p s' => p.1 = some f ∧ s'.worker.truncations = m₁.worker.truncations)
        (fun _ s' => s'.worker.truncations = m₁.worker.truncations) := by
    intro m₁
    rw [ends_bind]
    exact (recordSuffix_truncations _ _).mono (fun _ _ h => ⟨rfl, h⟩) fun _ _ h => h
  by_cases hcut : lowercase base ≠ lowercase name
  · have hne := (htrail.lowercase_ne hend).1 hcut
    simp only [if_pos hcut]
    rw [ends_bind, Task.recordCut, ends_bind, ends_get, ends_bind, ends_lift]
    refine ⟨fun c hc => ?_, fun _ _ => .inl rfl⟩
    have hstored : r.Stored req name s m'.worker.truncations c base :=
      ⟨⟨_, _, _, _, htrail⟩, hne, hc⟩
    exact (hlast _).mono (fun p s' h => ⟨h.1, .inr (by rw [h.2]; exact hstored)⟩)
      fun _ s' h => .inr (by rw [h]; exact hstored)
  · have heq : base = name := by
      by_contra hne
      exact hcut ((htrail.lowercase_ne hend).2 hne)
    simp only [if_neg hcut]
    exact (hlast m').mono (fun p s' h => ⟨h.1, .inl ⟨heq, h.2⟩⟩) fun _ _ h => .inl h

/-- From wherever a search has come, it leaves the cache of cuts as it is or stores a base in it,
and it stores the base behind which it finds a candidate unless that is the name itself. -/
theorem searchFrom_stored (hend : req.limit.isWhole = true ∨ name.EndsInWord)
    {budget attempts : Nat}
    {lastTried : Option (Text × Quantity)} (htrail : r.Trail req name s probed used base suffix m) :
    Ends (r.searchFrom req (lowercase name) budget base (lowercase base) suffix attempts
        lastTried) m
      (fun p s' => match p.1 with
        | some f => ∃ base, f.name = base ++ suffixTail f.suffix ∧
            (base = name ∧ s'.worker.truncations = m.worker.truncations ∨
              r.Stored req name s m.worker.truncations s'.worker.truncations base)
        | none => s'.worker.truncations = m.worker.truncations)
      (fun _ s' => s'.worker.truncations = m.worker.truncations ∨
        ∃ base, r.Stored req name s m.worker.truncations s'.worker.truncations base) := by
  -- a turn cuts the base, misses a candidate or wins one, and only the last stores anything
  induction budget generalizing probed used base suffix m attempts lastTried with
  | zero =>
    cases lastTried with
    | none => exact rfl
    | some last =>
      rw [searchFrom, ends_bind]
      exact (recordSuffix_truncations _ _).mono (fun _ _ h => h) fun _ _ h => .inl h
  | succ budget ih =>
    by_cases hwritable : isWritable suffix = true
    swap
    · rw [searchFrom_of_not_writable hwritable]
      exact .inl rfl
    rw [searchFrom_of_writable hwritable]
    dsimp only
    split
    · rename_i hlong
      rw [ends_bind, ends_lift]
      refine ⟨fun shorter hcut => ?_, fun _ _ => .inl rfl⟩
      split
      · exact rfl
      · rename_i hleft
        rw [ends_bind]
        refine (ends_self (Task.lastSuffix (lowercase shorter)) m).mono (fun last m' hlast => ?_)
          fun _ _ h => by cases h
        have hsame : m'.worker.truncations = m.worker.truncations := by
          obtain ⟨-, rfl⟩ := EStateM.Result.ok.inj hlast
          rfl
        rw [← hsame]
        exact ih (.cut htrail hlong hcut (by simpa using hleft) hlast)
    · rename_i hfits
      rw [ends_bind]
      refine ((tryClaim_truncations _).and (ends_self _ m)).mono (fun won m' h => ?_)
        fun _ _ h => .inl h.1
      obtain ⟨hsame, hrun⟩ := h
      rw [← hsame]
      cases won with
      | true =>
        refine (remember_stored hend _ htrail).mono (fun p s' h' => ?_) fun _ _ h' =>
          h'.imp_right fun hstored => ⟨base, hstored⟩
        rw [h'.1]
        exact ⟨base, rfl, h'.2⟩
      | false => exact ih (.miss htrail hfits hrun)

/-- What has been stored leads the next search for the name to the base at once, if there is room.
-/
theorem Stored.recall {c c' : TruncationCache} (hend : req.limit.isWhole = true ∨ name.EndsInWord)
    (h : r.Stored req name s c c' base) :
    name.cutTo base.graphemeLength = base ∧
      (c.HasRoom → (c'.cutLength? (lowercase name) req.limit).1 = some base.graphemeLength ∧
        firstBase name (c'.cutLength? (lowercase name) req.limit).1 = base) := by
  obtain ⟨⟨_, _, _, _, htrail⟩, -, hrecord⟩ := h
  refine ⟨Text.cutTo_of_cuts (htrail.cuts hend).1, fun hroom => ?_⟩
  have hgives := TruncationCache.cutLength?_record hroom hrecord
  exact ⟨hgives, by rw [hgives]; exact htrail.firstBase_eq hend⟩

/-- Two cuts are one cut, and what any number of cuts leave is the cut to its own length. A search
arrives at no base but by cuts of the name. So where it finds a candidate behind a base that is not
the name itself, the length of the base is what the cache gives afterwards, if it has room, and
cutting the name to that length gives the base: there the next search for the name begins. Where it
finds none, it leaves the cache as it is; where it fails, it may have stored such a base before. -/
theorem searchLinear_recall (hend : req.limit.isWhole = true ∨ name.EndsInWord) (r : Resolver)
    (s : Session) :
    (∀ (t : Text) (m n : Int), (t.cutTo m).cutTo n = t.cutTo (min m n)) ∧
      (∀ t u : Text, Relation.ReflTransGen Text.CutsTo t u → t.cutTo u.graphemeLength = u) ∧
      (∀ probed used base suffix m, r.Trail req name s probed used base suffix m →
        Relation.ReflTransGen Text.CutsTo name base) ∧
      Ends (r.searchLinear req name) s
        (fun p s' => match p.1 with
          | some f => ∃ base, f.name = base ++ suffixTail f.suffix ∧ (base ≠ name →
              name.cutTo base.graphemeLength = base ∧ (s.worker.truncations.HasRoom →
                (s'.worker.truncations.cutLength? (lowercase name) req.limit).1 =
                  some base.graphemeLength ∧
                firstBase name (s'.worker.truncations.cutLength? (lowercase name) req.limit).1 =
                  base))
          | none => s'.worker.truncations =
              (s.worker.truncations.cutLength? (lowercase name) req.limit).2)
        (fun _ s' => s'.worker.truncations =
            (s.worker.truncations.cutLength? (lowercase name) req.limit).2 ∨
          ∃ base, name.cutTo base.graphemeLength = base ∧
            r.Stored req name s (s.worker.truncations.cutLength? (lowercase name) req.limit).2
              s'.worker.truncations base) := by
  refine ⟨Text.cutTo_min, fun t u => Text.cutTo_of_cuts, fun _ _ _ _ _ h => (h.cuts hend).1, ?_⟩
  rw [searchLinear]
  dsimp only
  rw [ends_bind]
  -- both caches are read first, and reading them does not fail
  refine (ends_self _ s).mono (fun length? m hcut => ?_) fun _ _ h => by cases h
  rw [ends_bind]
  refine (ends_self _ m).mono (fun last m' hlast => ?_) fun _ _ h => by cases h
  have hstart : r.Trail req name s [] 0 (firstBase name length?) last.next m' := .start hcut hlast
  have hread : m'.worker.truncations =
      (s.worker.truncations.cutLength? (lowercase name) req.limit).2 := by
    obtain ⟨-, rfl⟩ := EStateM.Result.ok.inj hcut
    obtain ⟨-, rfl⟩ := EStateM.Result.ok.inj hlast
    rfl
  rw [← hread]
  refine (searchFrom_stored hend hstart).mono (fun p s' h => ?_) fun _ s' h =>
    h.imp_right (Exists.imp fun base hstored => ⟨(hstored.recall hend).1, hstored⟩)
  obtain ⟨found, attempts⟩ := p
  cases found with
  | none => exact h
  | some f =>
    obtain ⟨base, hname, hbase⟩ := h
    refine ⟨base, hname, fun hne => ?_⟩
    rcases hbase with ⟨heq, -⟩ | hstored
    · exact absurd heq hne
    · obtain ⟨hcuts, hgives⟩ := hstored.recall hend
      refine ⟨hcuts, fun hroom => hgives ?_⟩
      rw [hread]
      exact TruncationCache.hasRoom_cutLength?.2 hroom

/-- A request under which no more than two letters stand before the first suffix. -/
def brief : Request :=
  ⟨.username, .str "anna", .str "user", .whole 4, false, rfl⟩

/-- The name `anna` is cut to `an`, and the cache then gives two for it. -/
theorem searchLinear_recall_brief :
    brief.limit.isWhole = true ∧ (Session.idle (.memory .empty) none).worker.truncations.HasRoom ∧
      ∃ s', standard.searchLinear brief "anna".toList (.idle (.memory .empty) none) =
          .ok (some ⟨"an_1".toList, "an_1".toList, .whole 1⟩, 2) s' ∧
        (s'.worker.truncations.cutLength? "anna".toList (.whole 4)).1 = some 2 ∧
        firstBase "anna".toList (some 2) = "an".toList := by
  have hroom : (Session.idle (.memory .empty) none).worker.truncations.HasRoom :=
    Nat.succ_pos _
  have hresult : result? (standard.searchLinear brief "anna".toList) (.idle (.memory .empty) none) =
      some (some ⟨"an_1".toList, "an_1".toList, .whole 1⟩, 2) := by decide +kernel
  obtain ⟨s', hrun⟩ := result?_eq_some.1 hresult
  have hend : brief.limit.isWhole = true ∨ Text.EndsInWord "anna".toList := .inl rfl
  have hrecall := searchLinear_recall hend standard (.idle (.memory .empty) none)
  obtain ⟨base, hname, hstored⟩ := hrecall.2.2.2.of_ok hrun
  obtain rfl : "an".toList = base := List.append_cancel_right hname
  obtain ⟨-, hgives⟩ := hstored (by decide)
  obtain ⟨hlength, hfirst⟩ := hgives hroom
  have hlower : lowercase "anna".toList = "anna".toList := by decide +kernel
  rw [hlower] at hlength hfirst
  exact ⟨rfl, hroom, s', hrun, hlength, hlength ▸ hfirst⟩

end Resolver

end Namesake
