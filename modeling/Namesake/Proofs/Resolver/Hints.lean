import Namesake.Proofs.Resolver.Calm
import Namesake.Proofs.Resolver.Course

/-!
# What a resolver remembers is on the course

The caches of a resolver are hints where to go on: the suffix cache says how far a base has been
counted, and the truncation cache says to which cut of a base the search has come. A hint is right
if the course of the search behind the base leads there, over barred candidates only. Names stay
held, so a hint that is right stays right; and whatever is forgotten or never kept, a search that
follows right hints ends where its course ends.

## Main definitions

* `Memo.Holds` — every entry of a cache is as a condition says
* `Resolver.Barred` — a resolver may not claim a name
* `Resolver.Tracks` — the hints of a session are right
* `Trial.found` — what a search behind a name finds at a trial
* `Resolver.Follows` — a search has ended where its course ends

## Main results

* `Resolver.searchLinear_course` — a linear search that is patient ends where its course ends
-/

open Namesake.Task

namespace Namesake

open Unicode

/-! ### Entries -/

namespace Memo

variable {κ ν : Type} {P Q : κ → ν → Prop} {m : Memo κ ν}

/-- Every entry is as the condition says, and there is room for entries, or for none at all. -/
def Holds (P : κ → ν → Prop) : Memo κ ν → Prop
  | bounded c => ∀ e ∈ c.entries, P e.1 e.2
  | cramped => False

theorem Holds.mono (h : m.Holds P) (hPQ : ∀ key value, P key value → Q key value) : m.Holds Q := by
  cases m with
  | bounded c => exact fun e he => hPQ e.1 e.2 (h e he)
  | cramped => exact h

variable [DecidableEq κ]

/-- What is read is as the condition says, and reading only changes the order of the entries. -/
theorem Holds.read (h : m.Holds P) (key : κ) :
    (∀ value ∈ (m.read? key).1, P key value) ∧ (m.read? key).2.Holds P := by
  cases m with
  | cramped => exact h.elim
  | bounded c =>
    simp only [read?, Recency.read?]
    cases hpeek : c.peek? key with
    | none => exact ⟨fun value hvalue => (by cases hvalue), h⟩
    | some value =>
      obtain ⟨e, he, rfl⟩ := Option.map_eq_some_iff.1 hpeek
      obtain rfl : e.1 = key := by simpa using List.find?_some he
      have hentry := h e (List.mem_of_find?_eq_some he)
      refine ⟨fun v hv => Option.some.inj hv ▸ hentry, fun e' he' => ?_⟩
      rcases List.mem_cons.1 he' with rfl | he'
      · exact hentry
      · exact h e' (List.mem_filter.1 he').1

/-- Writing what is as the condition says may drop entries, and does not fail. -/
theorem Holds.write (h : m.Holds P) (key : κ) (value : ν) (hvalue : P key value) :
    ∃ m', m.write key value = .ok m' ∧ m'.Holds P := by
  cases m with
  | cramped => exact h.elim
  | bounded c =>
    refine ⟨_, rfl, fun e he => ?_⟩
    rcases List.mem_cons.1 (List.mem_of_mem_take he) with rfl | he
    · exact hvalue
    · exact h e (List.mem_filter.1 he).1

end Memo

/-- What the search behind a name finds at a trial. -/
def Trial.found (x : Text) (p : Trial) : Found :=
  ⟨x.take p.base.length ++ suffixTail (.whole p.suffix), p.candidate, .whole p.suffix⟩

namespace Resolver

variable {r : Resolver} {req : Request} {s s' : Session} {allow : Bool} {n : Int} {store : Store}
variable {kind : NameKind} {name : Text} {display : Option Text} {base : Text} {k : Nat}

/-! ### Hints -/

/-- The resolver may not claim the name. -/
def Barred (r : Resolver) (allow : Bool) (store : Store) (lower : Text) : Prop :=
  ¬ r.Free allow lower store

/-- A name that is barred stays barred when a free name is inserted. -/
theorem Barred.insert {lower : Text} {now : String} (h : r.Barred allow store lower)
    (hfree : store.has name = false) :
    r.Barred allow (store.insert kind name display now) lower := by
  refine fun hlower => h ⟨hlower.allowed, ?_⟩
  have hunheld := hlower.unheld
  rw [← Bool.not_eq_true, Store.has_insert hfree, not_or] at hunheld
  exact Bool.eq_false_iff.2 hunheld.1

/-- Nobody disturbs the session, and its hints are right: the course behind a base leads over the
last suffix that is remembered for it, and to the cut that is remembered for it under the limit. -/
structure Tracks (r : Resolver) (allow : Bool) (n : Int) (s : Session) : Prop where
  quiet : s.Quiet
  suffixes : s.worker.suffixes.Holds fun base q => ∃ k : Nat, q = .whole k ∧
    Course n (r.Barred allow s.shared.store) ⟨base, 1⟩ ⟨base, k + 1⟩
  truncations : s.worker.truncations.Holds fun key length => key.2 = .whole n →
    key.1.cutTo length ≠ [] ∧
      Course n (r.Barred allow s.shared.store) ⟨key.1, 1⟩ ⟨key.1.cutTo length, 1⟩

/-- Hints are right in any session with the same caches and the same store. -/
theorem Tracks.of_eq (h : r.Tracks allow n s) (hquiet : s'.Quiet)
    (hsuffixes : s'.worker.suffixes = s.worker.suffixes)
    (htruncations : s'.worker.truncations = s.worker.truncations)
    (hstore : s'.shared.store = s.shared.store) : r.Tracks allow n s' where
  quiet := hquiet
  suffixes := by rw [hsuffixes, hstore]; exact h.suffixes
  truncations := by rw [htruncations, hstore]; exact h.truncations

theorem Tracks.rests (h : r.Tracks allow n s) (hm : s.Rests s') : r.Tracks allow n s' :=
  h.of_eq (h.quiet.of_eq hm.outage hm.looks.worker) (by rw [hm.looks.worker])
    (by rw [hm.looks.worker]) hm.looks.store

/-- Hints stay right when a free name is inserted. -/
theorem Tracks.inserts (h : r.Tracks allow n s) (hins : s.Inserts s' kind name display)
    (hout : s'.shared.outage = s.shared.outage) : r.Tracks allow n s' where
  quiet := h.quiet.of_eq hout hins.worker
  suffixes := by
    rw [hins.worker, hins.store]
    refine h.suffixes.mono fun base q => ?_
    rintro ⟨k, rfl, hcourse⟩
    exact ⟨k, rfl, hcourse.mono fun _ hbarred => hbarred.insert hins.free⟩
  truncations := by
    rw [hins.worker, hins.store]
    refine h.truncations.mono fun key length hkey hn => ?_
    exact ⟨(hkey hn).1, (hkey hn).2.mono fun _ hbarred => hbarred.insert hins.free⟩

/-- What the suffix cache says for a base is right. -/
theorem lastSuffix_tracks (h : r.Tracks allow n s) (base : Text) :
    Ends (Task.lastSuffix base) s
      (fun q s' => r.Tracks allow n s' ∧ s'.shared = s.shared ∧ ∃ k : Nat, q = .whole k ∧
        Course n (r.Barred allow s.shared.store) ⟨base, 1⟩ ⟨base, k + 1⟩)
      (fun _ _ => False) := by
  obtain ⟨hvalue, hcache⟩ := h.suffixes.read base
  rw [Task.lastSuffix, ends_modifyGet]
  refine ⟨⟨⟨⟨h.quiet.outage, h.quiet.stolen⟩, h.quiet.failing⟩, hcache, h.truncations⟩, rfl, ?_⟩
  simp only [SuffixCache.last, Memo.readD]
  cases hread : (s.worker.suffixes.read? base).1 with
  | none => exact ⟨0, rfl, .refl⟩
  | some q => exact hvalue q hread

theorem cutLength?_tracks (h : r.Tracks allow n s) (base : Text) :
    Ends (Task.cutLength? base (.whole n)) s
      (fun length? s' => r.Tracks allow n s' ∧ s'.shared = s.shared ∧ ∀ length ∈ length?,
        base.cutTo length ≠ [] ∧
          Course n (r.Barred allow s.shared.store) ⟨base, 1⟩ ⟨base.cutTo length, 1⟩)
      (fun _ _ => False) := by
  obtain ⟨hvalue, hcache⟩ := h.truncations.read (base, .whole n)
  have hread : TruncationCache.cutLength? s.worker.truncations base (.whole n) =
      s.worker.truncations.read? (base, .whole n) := by
    rw [TruncationCache.cutLength?, Quantity.normal_whole]
  rw [Task.cutLength?, ends_modifyGet, hread]
  refine ⟨⟨⟨⟨h.quiet.outage, h.quiet.stolen⟩, h.quiet.failing⟩, h.suffixes, hcache⟩, rfl, ?_⟩
  exact fun length hlength => hvalue length hlength rfl

theorem recordSuffix_tracks (h : r.Tracks allow n s)
    (hcourse : Course n (r.Barred allow s.shared.store) ⟨base, 1⟩ ⟨base, k + 1⟩) :
    Ends (Task.recordSuffix base (.whole k)) s
      (fun _ s' => r.Tracks allow n s' ∧ s'.shared = s.shared) (fun _ _ => False) := by
  obtain ⟨cache, hwrite, hcache⟩ := h.suffixes.write base (.whole k) ⟨k, rfl, hcourse⟩
  rw [Task.recordSuffix, ends_bind, ends_get, ends_bind, hwrite, ends_lift]
  refine ⟨fun c hc => ?_, fun _ hf => by cases hf⟩
  obtain rfl := Except.ok.inj hc
  exact ⟨⟨⟨⟨h.quiet.outage, h.quiet.stolen⟩, h.quiet.failing⟩, hcache, h.truncations⟩, rfl⟩

/-- Whatever is recorded, there is room for it, or it is dropped. -/
theorem recordSuffix_kept (h : r.Tracks allow n s) (base : Text) (suffix : Quantity) :
    Ends (Task.recordSuffix base suffix) s (fun _ _ => True) (fun _ _ => False) := by
  have hany : s.worker.suffixes.Holds fun _ _ => True := h.suffixes.mono fun _ _ _ => trivial
  obtain ⟨cache, hwrite, -⟩ := hany.write base suffix trivial
  rw [Task.recordSuffix, ends_bind, ends_get, ends_bind, hwrite, ends_lift]
  exact ⟨fun _ _ => trivial, fun _ hf => by cases hf⟩

theorem recordCut_tracks (h : r.Tracks allow n s) {length : Nat} (hne : base.cutTo length ≠ [])
    (hcourse : Course n (r.Barred allow s.shared.store) ⟨base, 1⟩ ⟨base.cutTo length, 1⟩) :
    Ends (Task.recordCut base (.whole n) length) s
      (fun _ s' => r.Tracks allow n s' ∧ s'.shared = s.shared) (fun _ _ => False) := by
  obtain ⟨cache, hwrite, hcache⟩ :=
    h.truncations.write (base, .whole n) length fun _ => ⟨hne, hcourse⟩
  have hrecord : TruncationCache.record s.worker.truncations base (.whole n) length =
      .ok cache := by
    rw [TruncationCache.record, Quantity.normal_whole]
    exact hwrite
  rw [Task.recordCut, ends_bind, ends_get, ends_bind, hrecord, ends_lift]
  refine ⟨fun c hc => ?_, fun _ hf => by cases hf⟩
  obtain rfl := Except.ok.inj hc
  exact ⟨⟨⟨⟨h.quiet.outage, h.quiet.stolen⟩, h.quiet.failing⟩, h.suffixes, hcache⟩, rfl⟩

/-! ### The linear search -/

/-- From the first session to the second a name has been claimed in lower case, or none has, and the
hints are right. -/
structure Moves (r : Resolver) (req : Request) (n : Int) (s s' : Session)
    (claimed : Option (Text × Text)) : Prop where
  tracks : r.Tracks req.allowReserved n s'
  store : s'.shared.store = claimed.elim s.shared.store fun (name, lower) =>
    s.shared.store.insert req.kind lower (some name) s.shared.now
  now : s'.shared.now = s.shared.now

variable {claimed : Option (Text × Text)} {m : Session}

/-- It makes no difference that the store was looked at before. -/
theorem Moves.of_looks (h : r.Moves req n m s' claimed) (hm : s.Looks m) :
    r.Moves req n s s' claimed :=
  ⟨h.tracks, by rw [h.store, hm.store, hm.now], h.now.trans hm.now⟩

/-- Nor that a cache was read before. -/
theorem Moves.of_shared (h : r.Moves req n m s' claimed) (hm : m.shared = s.shared) :
    r.Moves req n s s' claimed :=
  ⟨h.tracks, by rw [h.store, hm], h.now.trans (by rw [hm])⟩

/-- Nor that a search has found nothing before. -/
theorem Moves.trans (h : r.Moves req n s m none) (h' : r.Moves req n m s' claimed) :
    r.Moves req n s s' claimed :=
  ⟨h'.tracks, by rw [h'.store, h.store, h.now]; rfl, h'.now.trans h.now⟩

/-- Nor that an entry is written to the log behind. -/
theorem Moves.rests (h : r.Moves req n s m claimed) (hm : m.Rests s') :
    r.Moves req n s s' claimed :=
  ⟨h.tracks.rests hm, hm.looks.store.trans h.store, hm.looks.now.trans h.now⟩

/-- What the search behind a name has come to: a candidate, nothing, or a fault. -/
structure Follows (r : Resolver) (req : Request) (n : Int) (x : Text) (s s' : Session)
    (out : Except Fault (Option Found)) : Prop where
  ends : ∃ e, Course.Ends n (r.Barred req.allowReserved s.shared.store) (lowercase x) e ∧
    out = e.map (Option.map (Trial.found x))
  moves : r.Moves req n s s' (out.toOption.join.map fun f => (f.name, f.nameLower))

theorem Follows.of_looks {x : Text} {out : Except Fault (Option Found)}
    (h : r.Follows req n x m s' out) (hm : s.Looks m) : r.Follows req n x s s' out :=
  ⟨by rw [← hm.store]; exact h.ends, h.moves.of_looks hm⟩

theorem Follows.of_shared {x : Text} {out : Except Fault (Option Found)}
    (h : r.Follows req n x m s' out) (hm : m.shared = s.shared) : r.Follows req n x s s' out :=
  ⟨by rw [← hm]; exact h.ends, h.moves.of_shared hm⟩

section Search

variable {x : Text} {p : Trial}

theorem excessOf_numbered (hname : name.IsNarrow) (n : Int) (k : Nat) :
    excessOf (name ++ suffixTail (.whole k)) (.whole n) =
      .whole (name.length + Trial.room k - n) := by
  have hnumbered : Text.IsNarrow (name ++ suffixTail (.whole k)) :=
    hname.append (Trial.narrow_tail k)
  rw [excessOf, lengthOf, Quantity.sub_whole, Text.graphemeLength_narrow hnumbered,
    List.length_append, Int.natCast_add]
  rfl

/-- The candidate exceeds the limit if there is no room for its suffix. -/
theorem excess_pos_iff (hname : name.IsNarrow) (hlen : name.length = p.base.length) :
    (0 : Quantity).lt (excessOf (name ++ suffixTail (.whole p.suffix)) (.whole n)) = true ↔
      ¬ p.Fits n := by
  rw [excessOf_numbered hname, show (0 : Quantity) = .whole 0 from rfl, Quantity.lt_whole,
    decide_eq_true_eq, Trial.Fits, ← hlen]
  omega

/-- Then it is cut to make room. -/
theorem cut_excess (hname : name.IsNarrow) (n : Int) (k : Nat) :
    Limit.cut ((lengthOf name).sub (excessOf (name ++ suffixTail (.whole k)) (.whole n))) name =
      .ok (name.cutTo (n - Trial.room k)) := by
  rw [excessOf_numbered hname, lengthOf, Quantity.sub_whole, Limit.cut_whole,
    Text.graphemeLength_narrow hname]
  congr 2
  omega

/-- A name is as long as its lower-case form, so it is the beginning of that length. -/
theorem eq_take (hx : x.IsNarrow) (hname : name <+: x) (hbase : lowercase name = p.base) :
    name.length = p.base.length ∧ name = x.take p.base.length := by
  have hlen : name.length = p.base.length := by
    rw [← hbase, Text.length_lowercase (hx.sublist hname.subset)]
  exact ⟨hlen, by rw [← hlen]; exact List.prefix_iff_eq_take.1 hname⟩

/-- What has just been claimed is remembered: the cut to which the search has come, and how far it
has counted there. -/
theorem remember_tracks (hx : x.IsNarrow) {used : Nat} {f : Found}
    (hs : r.Tracks req.allowReserved n s)
    (hcourse : Course n (r.Barred req.allowReserved s.shared.store) ⟨lowercase x, 1⟩
      ⟨p.base, p.suffix + 1⟩)
    (hlen : name.length = p.base.length) (hname : name.IsNarrow) (hne : p.base ≠ []) :
    Ends (do
        if p.base ≠ lowercase x then Task.recordCut (lowercase x) (.whole n) name.graphemeLength
        Task.recordSuffix p.base (.whole p.suffix)
        return (some f, used))
      s (fun q s' => r.Tracks req.allowReserved n s' ∧ s'.shared = s.shared ∧ q = (some f, used))
      (fun _ _ => False) := by
  have hlast : ∀ {m : Session}, r.Tracks req.allowReserved n m → m.shared = s.shared →
      Ends (do Task.recordSuffix p.base (.whole p.suffix); return (some f, used)) m
        (fun q s' => r.Tracks req.allowReserved n s' ∧ s'.shared = s.shared ∧ q = (some f, used))
        (fun _ _ => False) := by
    intro m hm hshared
    rw [ends_bind]
    rw [← hshared] at hcourse
    refine (recordSuffix_tracks hm hcourse.from_first).mono (fun _ s' h' => ?_) fun _ _ h => h
    exact ⟨h'.1, h'.2.trans hshared, rfl⟩
  by_cases hcut : p.base ≠ lowercase x
  · -- the cut is one of the base to its own length
    have hbase : (lowercase x).cutTo name.graphemeLength = p.base := by
      have hself := hcourse.isCutOf.cutTo_eq
      rwa [Text.graphemeLength_narrow (hx.lowercase.sublist hcourse.isCutOf.isPrefix.subset),
        ← hlen, ← Text.graphemeLength_narrow hname] at hself
    simp only [if_pos hcut]
    rw [ends_bind]
    refine (recordCut_tracks hs (by rwa [hbase]) (by rw [hbase]; exact hcourse.to_first)).mono
      (fun _ m hm => hlast hm.1 hm.2) fun _ _ h => h
  · simp only [if_neg hcut]
    exact hlast hs rfl

/-- From a trial on its course, a linear search that is patient ends where the course ends. -/
theorem searchFrom_course (hlimit : req.limit = .whole n) (hx : x.IsNarrow) {budget used : Nat}
    {lastTried : Option (Text × Quantity)} (hs : r.Tracks req.allowReserved n s)
    (hname : name <+: x)
    (hbase : lowercase name = p.base) (hne : p.base ≠ [])
    (hcourse : Course n (r.Barred req.allowReserved s.shared.store) ⟨lowercase x, 1⟩ p)
    (hused : used + budget = r.maxAttempts) :
    Ends (r.searchFrom req (lowercase x) budget name p.base (.whole p.suffix) used lastTried) s
      (fun q s' => (q.1 = none → q.2 < r.maxAttempts) → r.Follows req n x s s' (.ok q.1))
      (fun f s' => r.Follows req n x s s' (.error f)) := by
  induction budget generalizing s p name used lastTried with
  | zero =>
    -- a search that has used up its attempts is not patient
    have hover : ∀ {s' : Session}, ((none : Option Found) = none → used < r.maxAttempts) →
        r.Follows req n x s s' (.ok none) := fun h => absurd (h rfl) (by omega)
    cases lastTried with
    | none => exact hover
    | some last =>
      rw [searchFrom, ends_bind]
      exact (recordSuffix_kept hs last.1 last.2).mono (fun _ _ _ => hover) fun _ _ h => h.elim
  | succ budget ih =>
    have hnarrow : name.IsNarrow := hx.sublist hname.subset
    obtain ⟨hlen, htake⟩ := eq_take hx hname hbase
    by_cases hlt : p.suffix < digitBound
    swap
    · -- the suffix may not be written, and there the course ends
      rw [searchFrom_of_not_writable (mt isWritable_iff_lt.1 hlt)]
      exact ⟨⟨_, ⟨p, hcourse, .unwritable (Nat.le_of_not_lt hlt)⟩, rfl⟩, hs, rfl, rfl⟩
    rw [searchFrom_of_writable (isWritable_iff_lt.2 hlt), hlimit]
    dsimp only
    by_cases hfits : p.Fits n
    · -- the candidate keeps the limit: it is claimed, or the next suffix is tried
      rw [if_neg (by rw [excess_pos_iff hnarrow hlen]; exact not_not.2 hfits), ends_bind]
      refine (tryClaim_calm hs.quiet.toCalm).mono (fun won m hm => ?_) fun f m hm => ?_
      · cases won with
        | true =>
          obtain ⟨hfree, hins, hout⟩ := hm
          have hheld : m.shared.store.has p.candidate = true := by
            rw [hins.store]
            exact (Store.has_insert hins.free).2 (Or.inr rfl)
          have hbarred : r.Barred req.allowReserved m.shared.store p.candidate := fun h => by
            rw [h.unheld] at hheld
            cases hheld
          -- in the new store the course leads on over the claimed candidate
          have hcourse' : Course n (r.Barred req.allowReserved m.shared.store)
              ⟨lowercase x, 1⟩ p := by
            rw [hins.store]
            exact hcourse.mono fun _ h => h.insert hins.free
          refine (remember_tracks hx (hs.inserts hins hout)
            (hcourse'.tail (.next hlt hfits hbarred)) hlen
            hnarrow hne).mono (fun q s' h' _ => ?_) fun _ _ h => h.elim
          obtain ⟨htracks, hshared, rfl⟩ := h'
          refine ⟨⟨_, ⟨p, hcourse, .free hlt hfits fun h => h hfree⟩, ?_⟩, htracks, ?_, ?_⟩
          · rw [Except.map, Option.map_some, Trial.found, ← htake]
            rfl
          · rw [hshared, hins.store]
            rfl
          · rw [hshared, hins.now]
        | false =>
          obtain ⟨hbarred, hrest⟩ := hm
          have hnext : (Quantity.whole p.suffix).next = .whole (p.suffix + 1 : Nat) :=
            Quantity.next_whole _
          rw [if_neg Bool.false_ne_true, hnext]
          have hcourse' := hcourse.tail (.next hlt hfits hbarred)
          rw [← hrest.looks.store] at hcourse'
          refine (ih (p := ⟨p.base, p.suffix + 1⟩) (hs.rests hrest) hname hbase hne hcourse'
            (by omega)).mono (fun q s' hq hp => ?_) fun _ _ hf => hf.of_looks hrest.looks
          exact (hq hp).of_looks hrest.looks
      · rw [hs.quiet.failing] at hm
        exact absurd hm.2.1 (List.not_mem_nil)
    · rw [if_pos ((excess_pos_iff hnarrow hlen).2 hfits), cut_excess hnarrow, ends_bind, ends_lift]
      have hshorter : lowercase (name.cutTo (n - Trial.room p.suffix)) = p.shorter n := by
        rw [Text.lowercase_cutTo hnarrow, hbase]
        rfl
      refine ⟨fun cut hcut => ?_, fun _ hf => by cases hf⟩
      obtain rfl := Except.ok.inj hcut
      by_cases hempty : (name.cutTo (n - Trial.room p.suffix)).isEmpty = true
      · -- nothing is left of the base
        rw [if_pos hempty]
        rw [List.isEmpty_iff] at hempty
        rw [hempty] at hshorter
        exact fun _ => ⟨⟨_, ⟨p, hcourse, .dead hlt hfits hshorter.symm⟩, rfl⟩, hs, rfl, rfl⟩
      · have hcutNarrow : (name.cutTo (n - Trial.room p.suffix)).IsNarrow := hnarrow.cutTo _
        have hne' : p.shorter n ≠ [] := by
          rw [← hshorter, ← List.length_pos_iff, Text.length_lowercase hcutNarrow,
            List.length_pos_iff]
          exact fun h => hempty (List.isEmpty_iff.2 h)
        rw [if_neg hempty, hshorter, ends_bind]
        -- the hint for the shorter base is on the course behind it, which continues this one
        refine (lastSuffix_tracks hs (p.shorter n)).mono (fun last m hm => ?_) fun _ _ h => h.elim
        obtain ⟨htracks, hshared, k, rfl, hcounted⟩ := hm
        have hcourse' := (hcourse.tail (.shorten hlt hfits hne')).trans hcounted
        rw [← hshared] at hcourse'
        rw [Quantity.next_whole]
        refine (ih (p := ⟨p.shorter n, k + 1⟩) htracks ((Text.cutTo_isPrefix _ _).trans hname)
          hshorter
          hne' hcourse' (by omega)).mono (fun q s' hq hp => ?_) fun _ _ hf => hf.of_shared hshared
        exact (hq hp).of_shared hshared

/-- A linear search that is patient ends where the course behind its name ends, whatever the caches
remember. -/
theorem searchLinear_course (hlimit : req.limit = .whole n) (hx : x.IsNarrow) (hne : x ≠ [])
    (hs : r.Tracks req.allowReserved n s) :
    Ends (r.searchLinear req x) s
      (fun q s' => (q.1 = none → q.2 < r.maxAttempts) → r.Follows req n x s s' (.ok q.1))
      (fun f s' => r.Follows req n x s s' (.error f)) := by
  -- wherever the search starts, it goes on behind the last suffix that is remembered there
  have hstart : ∀ {m : Session} {name : Text}, r.Tracks req.allowReserved n m →
      m.shared = s.shared → name <+: x → lowercase name ≠ [] →
      Course n (r.Barred req.allowReserved s.shared.store) ⟨lowercase x, 1⟩ ⟨lowercase name, 1⟩ →
      Ends (do
          let last ← Task.lastSuffix (lowercase name)
          r.searchFrom req (lowercase x) r.maxAttempts name (lowercase name) last.next 0 none) m
        (fun q s' => (q.1 = none → q.2 < r.maxAttempts) → r.Follows req n x s s' (.ok q.1))
        (fun f s' => r.Follows req n x s s' (.error f)) := by
    intro m name hm hshared hname hlower hcourse
    rw [ends_bind]
    refine (lastSuffix_tracks hm (lowercase name)).mono (fun last m' hm' => ?_) fun _ _ h => h.elim
    obtain ⟨htracks, hshared', k, rfl, hcounted⟩ := hm'
    rw [hshared] at hcounted
    replace hshared := hshared'.trans hshared
    rw [Quantity.next_whole]
    have hcourse' := hcourse.trans hcounted
    rw [← hshared] at hcourse'
    refine (searchFrom_course (p := ⟨lowercase name, k + 1⟩) hlimit hx htracks hname rfl hlower
      hcourse'
      (Nat.zero_add _)).mono (fun q s' hq hp => ?_) fun _ _ hf => hf.of_shared hshared
    exact (hq hp).of_shared hshared
  have hlowerNe : ∀ {t : Text}, t.IsNarrow → t ≠ [] → lowercase t ≠ [] := fun ht h => by
    rwa [← List.length_pos_iff, Text.length_lowercase ht, List.length_pos_iff]
  rw [searchLinear, hlimit, ends_bind]
  refine (cutLength?_tracks hs (lowercase x)).mono (fun length? m hm => ?_) fun _ _ h => h.elim
  obtain ⟨htracks, hshared, hlength⟩ := hm
  cases length? with
  | none => exact hstart htracks hshared (List.prefix_refl x) (hlowerNe hx hne) .refl
  | some length =>
    obtain ⟨hcutNe, hcourse⟩ := hlength length rfl
    rw [← Text.lowercase_cutTo hx] at hcutNe hcourse
    have hempty : (x.cutTo length).isEmpty = false := by
      cases h : x.cutTo length with
      | nil => exact absurd (by rw [h]; rfl) hcutNe
      | cons => rfl
    simp only [hempty, Bool.false_eq_true, ↓reduceIte]
    exact hstart htracks hshared (Text.cutTo_isPrefix _ _) hcutNe hcourse

end Search

end Resolver

end Namesake
