import Namesake.Proofs.Registry.Honest
import Namesake.Proofs.Resolver.Build
import Namesake.Proofs.Resolver.Search

/-!
# The trail of a linear search

A linear search probes the suffixed forms of a base one after the other. Where a form is too long it
comes down to a cut of the base, and goes on behind the last suffix that the cache gives for the
cut. Its trail tells how far it has come and what it has probed. So it misses no candidate: whatever
suffix it arrives at, between the last one that the cache gave for the base at the beginning and
this one every form was reserved, or is held, or has been lost to another worker. A search ends when
it has claimed a candidate, when it has used up its attempts, or when nothing would be left of the
base; only in the first case is anything claimed, and in the second the cache remembers the last
probe.

## Main definitions

* `Memo.HasRoom`, `Session.Recalls` — the cache of suffixes gives what it gave before
* `Resolver.PassedOver` — why a candidate has been passed over
* `Resolver.Trail` — how far a search has come
* `Resolver.Arrived` — what is true wherever a search arrives
* `Resolver.TrailEnds` — the ends of a search

## Main results

* `Resolver.Trail.arrived` — a search arrives at a suffix only if every one below it has been passed
  over
* `Resolver.searchFrom_trail` — a search ends where its trail ends
* `Resolver.searchLinear_least` — a linear search finds the least suffix, or claims nothing
-/

open Namesake.Task

namespace Namesake

open Unicode

/-! ### What a cache goes on giving -/

namespace Recency

variable {κ ν : Type} [DecidableEq κ]

/-- Reading an entry moves it, but no value changes. -/
theorem peek?_read? (c : Recency κ ν) (key k : κ) : (c.read? key).2.peek? k = c.peek? k := by
  rw [read?]
  cases hpeek : c.peek? key with
  | none => rfl
  | some value =>
    dsimp only
    by_cases hk : key = k
    · subst hk
      rw [hpeek]
      simp [peek?]
    · -- the entries of other keys stand as they stood
      have hothers : (c.others key).find? (fun e => e.1 = k) =
          c.entries.find? fun e => e.1 = k := by
        rw [others, List.find?_filter]
        congr 1
        funext e
        by_cases he : e.1 = k
        · simp [he, Ne.symm hk]
        · simp [he]
      simp [peek?, hk, hothers]

/-- A written entry is there, if there is room for any. -/
theorem peek?_write {c : Recency κ ν} (h : 0 < c.capacity) (key : κ) (value : ν) :
    (c.write key value).peek? key = some value := by
  obtain ⟨n, hn⟩ := Nat.exists_eq_succ_of_ne_zero (Nat.pos_iff_ne_zero.1 h)
  simp [peek?, write, hn]

end Recency

/-- There is room for an entry. -/
def Memo.HasRoom {κ ν : Type} : Memo κ ν → Prop
  | .bounded c => 0 < c.capacity
  | .cramped => False

/-- Reading a cache of suffixes changes nothing about what it gives, nor about its room. -/
theorem SuffixCache.last_recalls (c : SuffixCache) (base : Text) :
    (∀ b, ((c.last base).2.last b).1 = (c.last b).1) ∧ ((c.last base).2.HasRoom ↔ c.HasRoom) := by
  cases c with
  | cramped => exact ⟨fun _ => rfl, Iff.rfl⟩
  | bounded c =>
    have hgives : ∀ (c : Recency Text Quantity) b, (SuffixCache.last (.bounded c) b).1 =
        (c.peek? b).getD 0 := by
      intro c b
      simp only [SuffixCache.last, Memo.readD, Memo.read?, Recency.read?]
      cases c.peek? b <;> rfl
    have hleft : (SuffixCache.last (.bounded c) base).2 = .bounded (c.read? base).2 := rfl
    rw [hleft]
    constructor
    · intro b
      rw [hgives, hgives, Recency.peek?_read?]
    · have hcapacity : (c.read? base).2.capacity = c.capacity := by
        rw [Recency.read?]
        split <;> rfl
      rw [Memo.HasRoom, Memo.HasRoom, hcapacity]

/-- What has been written into a cache of suffixes is what it gives. -/
theorem SuffixCache.last_write {c c' : SuffixCache} {base : Text} {suffix : Quantity}
    (hroom : c.HasRoom) (h : Memo.write c base suffix = .ok c') : (c'.last base).1 = suffix := by
  cases c with
  | cramped => exact hroom.elim
  | bounded c =>
    obtain rfl := Except.ok.inj h
    simp only [SuffixCache.last, Memo.readD, Memo.read?, Recency.read?,
      Recency.peek?_write hroom, Option.getD_some]

/-- The cache of suffixes gives what it gave before, and has room if it had room before. -/
structure Session.Recalls (s s' : Session) : Prop where
  last : ∀ base, (s'.worker.suffixes.last base).1 = (s.worker.suffixes.last base).1
  room : s'.worker.suffixes.HasRoom ↔ s.worker.suffixes.HasRoom

namespace Session

/-- The cache of suffixes gives whole numbers. -/
def GivesWhole (s : Session) : Prop :=
  ∀ base, ∃ last : Int, (s.worker.suffixes.last base).1 = .whole last

variable {s s' s'' : Session}

theorem SameCaches.recalls (h : s.SameCaches s') : s.Recalls s' :=
  ⟨fun base => by rw [h.suffixes], by rw [h.suffixes]⟩

theorem Recalls.trans (h : s.Recalls s') (h' : s'.Recalls s'') : s.Recalls s'' :=
  ⟨fun base => (h'.last base).trans (h.last base), h'.room.trans h.room⟩

end Session

/-- What a search is given for a base, and what it leaves of its session. -/
theorem lastSuffix_recalls (base : Text) (s : Session) :
    Ends (Task.lastSuffix base) s
      (fun last s' => last = (s.worker.suffixes.last base).1 ∧ s.Recalls s' ∧ s.Waits False s')
      (fun _ _ => False) := by
  obtain ⟨hlast, hroom⟩ := SuffixCache.last_recalls s.worker.suffixes base
  have hgives : Ends (Task.lastSuffix base) s
      (fun last s' => last = (s.worker.suffixes.last base).1 ∧ s.Recalls s') (fun _ _ => False) :=
    ⟨rfl, hlast, hroom⟩
  exact ((lastSuffix_ends False base).and hgives).mono
    (fun _ _ h => ⟨h.2.1, h.2.2, h.1.1.waits⟩) fun _ _ h => h.1

namespace Resolver

variable {r : Resolver} {req : Request} {name base : Text} {s s' m m' : Session} {j : Int}

/-! ### Candidates that are passed over -/

/-- The form under which a suffixed base is claimed. -/
def keyOf (base : Text) (suffix : Quantity) : Text :=
  lowercase base ++ suffixTail suffix

/-- Why no candidate has been had from a base and a suffix between the two sessions: it is reserved,
or it is held, or its claim has been lost in the meantime. -/
inductive PassedOver (r : Resolver) (req : Request) (base : Text) (suffix : Quantity)
    (s s' : Session) :
    Prop
  | reserved (hallow : req.allowReserved = false)
      (hholds : r.reserved.holds (keyOf base suffix) = true)
  | used (hheld : s'.shared.store.has (keyOf base suffix) = true)
  | lost {m m' : Session} (hbefore : s.Waits False m)
      (hclaim : Registry.claim req.kind (keyOf base suffix) (some (base ++ suffixTail suffix)) m =
        .ok false m')
      (hafter : m'.Waits False s')

/-- What has been passed over stays so. -/
theorem PassedOver.later {suffix : Quantity} (h : r.PassedOver req base suffix s m)
    (hwait : m.Waits False s') : r.PassedOver req base suffix s s' := by
  cases h with
  | reserved hallow hholds => exact .reserved hallow hholds
  | used hheld =>
    obtain ⟨taken, hmeanwhile⟩ := hwait.meanwhile
    exact .used (hmeanwhile.store.grows.has hheld)
  | lost hbefore hclaim hafter => exact .lost hbefore hclaim (hafter.trans hwait)

/-- A candidate that is not had has been passed over for one of the three reasons. The caches are
left as they are, whether it is had or not. -/
theorem tryClaim_passedOver (r : Resolver) (req : Request) (base : Text) (suffix : Quantity)
    (m : Session) :
    Ends (r.tryClaim req (base ++ suffixTail suffix) (keyOf base suffix)) m
      (fun won m' => m.Recalls m' ∧ (won = false → m.Waits False m' ∧
        ∀ s : Session, s.Waits False m → r.PassedOver req base suffix s m'))
      (fun _ _ => True) := by
  rw [tryClaim, isAvailable, ends_bind]
  split
  · -- a reserved name is not asked for
    rename_i hreserved
    rw [Bool.and_eq_true, Bool.not_eq_true'] at hreserved
    refine ⟨(Session.SameCaches.refl m).recalls, fun _ => ⟨.refl m, fun s _ => ?_⟩⟩
    exact .reserved hreserved.1 hreserved.2
  · rw [ends_bind]
    refine ((Registry.isUsed_ends _).and (Registry.isUsed_held _)).mono (fun used m₁ h₁ => ?_)
      fun _ _ _ => trivial
    obtain ⟨⟨hlook, hopen⟩, -, hheld⟩ := h₁
    cases used with
    | true =>
      refine ⟨hlook.sameCaches.recalls, fun _ => ⟨hlook.waits, fun s _ => .used ?_⟩⟩
      rw [hlook.store]
      exact hheld rfl
    | false =>
      have hopen' := hopen rfl
      rw [← hlook.store] at hopen'
      refine ((Registry.claim_ends hopen').and (ends_self _ m₁)).mono (fun won m₂ h₂ => ?_)
        fun _ _ _ => trivial
      obtain ⟨hends, hrun⟩ := h₂
      -- the claim leaves the caches alone, whoever wins
      cases won with
      | true =>
        have hins : Session.Inserts m₁ m₂ _ _ _ := hends
        exact ⟨(hlook.sameCaches.trans hins.sameCaches).recalls, fun h => by cases h⟩
      | false =>
        have hyield : m₁.Yields m₂ := hends
        refine ⟨(hlook.sameCaches.trans hyield.caches).recalls, fun _ =>
          ⟨hlook.waits.trans hyield.waits, fun s hs => ?_⟩⟩
        exact .lost (hs.trans hlook.waits) hrun (.refl m₂)

/-! ### Trails -/

/-- Where a search behind a name begins: at the cut that was needed before, if anything is left
there. -/
def firstBase (name : Text) : (length? : Option Nat) → Text
  | some length => if (name.cutTo length).isEmpty then name else name.cutTo length
  | none => name

/-- The suffixed base is longer than the request allows. -/
def Overflows (req : Request) (base : Text) (suffix : Quantity) : Prop :=
  (0 : Quantity).lt (excessOf (base ++ suffixTail suffix) req.limit) = true

/-- What is left of a base where its suffixed form is too long. -/
def shorten (req : Request) (base : Text) (suffix : Quantity) : Except Fault Text :=
  Limit.cut ((lengthOf base).sub (excessOf (base ++ suffixTail suffix) req.limit)) base

/-- How far a linear search behind a name has come that began in the session `s`: it has probed
suffixed bases, in this order, has used some attempts, and has arrived at a base and a suffix in
another session. -/
inductive Trail (r : Resolver) (req : Request) (name : Text) (s : Session) :
    (probed : List (Text × Quantity)) → (used : Nat) → (base : Text) → (suffix : Quantity) →
      Session → Prop
  /-- It begins behind the last suffix that the cache gives for the first base. -/
  | start {length? : Option Nat} {last : Quantity} {m m' : Session}
      (hcut : Task.cutLength? (lowercase name) req.limit s = .ok length? m)
      (hlast : Task.lastSuffix (lowercase (firstBase name length?)) m = .ok last m') :
      Trail r req name s [] 0 (firstBase name length?) last.next m'
  /-- It goes on behind a probe that has not been had. -/
  | miss {probed : List (Text × Quantity)} {used : Nat} {base : Text} {suffix : Quantity}
      {m m' : Session} (htrail : Trail r req name s probed used base suffix m)
      (hfits : ¬ Overflows req base suffix)
      (hmissed : r.tryClaim req (base ++ suffixTail suffix) (keyOf base suffix) m = .ok false m') :
      Trail r req name s (probed ++ [(lowercase base, suffix)]) (used + 1) base suffix.next m'
  /-- It goes on behind a shorter base where the suffixed base is too long. -/
  | cut {probed : List (Text × Quantity)} {used : Nat} {base shorter : Text}
      {suffix last : Quantity} {m m' : Session}
      (htrail : Trail r req name s probed used base suffix m)
      (hlong : Overflows req base suffix) (hcut : shorten req base suffix = .ok shorter)
      (hleft : shorter ≠ []) (hlast : Task.lastSuffix (lowercase shorter) m = .ok last m') :
      Trail r req name s probed (used + 1) shorter last.next m'

/-- What is true wherever a search arrives: the base is a cut of the name, nothing has been claimed,
the cache gives what it gave, and every suffix between the one that it gave for the base and the one
that the search has arrived at has been passed over. -/
structure Arrived (r : Resolver) (req : Request) (name : Text) (s : Session) (base : Text)
    (suffix : Quantity) (m : Session) : Prop where
  cut : base.IsCutOf name
  waits : s.Waits False m
  recalls : s.Recalls m
  least : ∃ last n : Int, (s.worker.suffixes.last (lowercase base)).1 = .whole last ∧
    suffix = .whole n ∧ last < n ∧ ∀ j, last < j → j < n → r.PassedOver req base (.whole j) s m

/-- Behind the suffix that the cache gives for a base nothing has been passed over yet. -/
theorem Arrived.fresh {last : Quantity} (hwhole : s.GivesWhole) (hcut : base.IsCutOf name)
    (hwait : s.Waits False m) (hrecall : s.Recalls m)
    (hlast : Task.lastSuffix (lowercase base) m = .ok last m') :
    r.Arrived req name s base last.next m' := by
  obtain ⟨rfl, hrecall', hwait'⟩ := (lastSuffix_recalls (lowercase base) m).of_ok hlast
  obtain ⟨last, hgiven⟩ := hwhole (lowercase base)
  rw [hrecall.last, hgiven]
  refine ⟨hcut, hwait.trans hwait', hrecall.trans hrecall', last, last + 1, hgiven, rfl,
    Int.lt_succ last, fun j hj hj' => ?_⟩
  omega

/-- A probe that has not been had is one more that has been passed over. -/
theorem Arrived.miss {suffix : Quantity} (h : r.Arrived req name s base suffix m)
    (hmissed : r.tryClaim req (base ++ suffixTail suffix) (keyOf base suffix) m = .ok false m') :
    r.Arrived req name s base suffix.next m' := by
  obtain ⟨hrecall, hends⟩ := (tryClaim_passedOver r req base suffix m).of_ok hmissed
  obtain ⟨hwait, hmiss⟩ := hends rfl
  obtain ⟨last, n, hgiven, rfl, hlast, hbelow⟩ := h.least
  refine ⟨h.cut, h.waits.trans hwait, h.recalls.trans hrecall, last, n + 1, hgiven, rfl, by omega,
    fun j hj hj' => ?_⟩
  by_cases hn : j = n
  · subst hn
    exact hmiss s h.waits
  · -- the store has only grown since
    exact (hbelow j hj (by omega)).later hwait

/-- Wherever a search arrives, it has passed over every candidate below. -/
theorem Trail.arrived {probed : List (Text × Quantity)} {used : Nat} {suffix : Quantity} {L : Int}
    (hlimit : req.limit = .whole L) (hwhole : s.GivesWhole)
    (h : r.Trail req name s probed used base suffix m) : r.Arrived req name s base suffix m := by
  induction h with
  | @start length? last m m' hcut hlast =>
    have hremember := (cutLength?_ends False (lowercase name) req.limit).of_ok hcut
    have hcaches : s.Recalls m := by
      obtain ⟨-, rfl⟩ := EStateM.Result.ok.inj hcut
      exact ⟨fun _ => rfl, Iff.rfl⟩
    refine .fresh hwhole ?_ hremember.waits hcaches hlast
    -- the first base is the name or a cut of which something is left
    cases length? with
    | none => exact .refl name
    | some length =>
      rw [firstBase]
      split
      · exact .refl name
      · rename_i hempty
        exact Text.isCutOf_cutTo (by simpa using hempty)
  | miss htrail hfits hmissed ih => exact ih.miss hmissed
  | cut htrail hlong hcut hleft hlast ih =>
    have hwholeLimit : req.limit.isWhole = true := by rw [hlimit]; rfl
    have hcut' := Limit.isCutOf hcut hleft
      (Quantity.isWhole_sub rfl (Quantity.isWhole_sub rfl hwholeLimit))
    exact .fresh hwhole (hcut'.trans ih.cut) ih.waits ih.recalls hlast

/-! ### The ends of a search -/

/-- The ends of a linear search that may use `total` attempts. It has claimed the candidate that it
has arrived at; or its attempts are used up, and the last probe is what the cache gives for its
base; or nothing would be left of the base. -/
inductive TrailEnds (r : Resolver) (req : Request) (name : Text) (s : Session) (total : Nat) :
    Option Found × Nat → Session → Prop
  | found {probed : List (Text × Quantity)} {used : Nat} {base : Text} {suffix : Quantity}
      {m m' s' : Session} (htrail : Trail r req name s probed used base suffix m)
      (hfits : ¬ Overflows req base suffix)
      (hwon : r.tryClaim req (base ++ suffixTail suffix) (keyOf base suffix) m = .ok true m')
      (hremember : m'.Remembers False s') (hused : used < total) :
      TrailEnds r req name s total
        (some ⟨base ++ suffixTail suffix, keyOf base suffix, suffix⟩, used + 1) s'
  | spent {probed : List (Text × Quantity)} {base : Text} {suffix : Quantity} {m s' : Session}
      (htrail : Trail r req name s probed total base suffix m) (hremember : m.Remembers False s')
      (hlast : ∀ b q, probed.getLast? = some (b, q) → m.worker.suffixes.HasRoom →
        (s'.worker.suffixes.last b).1 = q) :
      TrailEnds r req name s total (none, total) s'
  | emptied {probed : List (Text × Quantity)} {used : Nat} {base : Text} {suffix : Quantity}
      {m : Session} (htrail : Trail r req name s probed used base suffix m)
      (hlong : Overflows req base suffix) (hcut : shorten req base suffix = .ok [])
      (hused : used < total) :
      TrailEnds r req name s total (none, used + 1) m

/-- What is recorded is what the cache gives afterwards, if it has room. -/
theorem recordSuffix_gives (base : Text) (suffix : Quantity) (m : Session) :
    Ends (Task.recordSuffix base suffix) m
      (fun _ s' => m.Remembers False s' ∧
        (m.worker.suffixes.HasRoom → (s'.worker.suffixes.last base).1 = suffix))
      (fun _ _ => True) := by
  have hgives : Ends (Task.recordSuffix base suffix) m
      (fun _ s' => m.worker.suffixes.HasRoom → (s'.worker.suffixes.last base).1 = suffix)
      (fun _ _ => True) := by
    rw [Task.recordSuffix, ends_bind, ends_get, ends_bind, ends_lift]
    exact ⟨fun c hc hroom => SuffixCache.last_write hroom hc, fun _ _ => trivial⟩
  exact ((recordSuffix_ends base False.elim).and hgives).mono (fun _ _ h => ⟨h.1, h.2⟩)
    fun _ _ h => h.2

/-- Whatever is remembered of a candidate, it is what the search has found. -/
theorem remember_found (uncut lower : Text) (suffix : Quantity) (length used : Nat)
    (limit : Limit) (f : Found) (m : Session) :
    Ends (do
        if lower ≠ uncut then Task.recordCut uncut limit length
        Task.recordSuffix lower suffix
        return (some f, used))
      m (fun p s' => p = (some f, used) ∧ m.Remembers False s') (fun _ _ => True) := by
  have hlast : ∀ {m' : Session}, m.Remembers False m' →
      Ends (do Task.recordSuffix lower suffix; return (some f, used)) m'
        (fun p s' => p = (some f, used) ∧ m.Remembers False s') (fun _ _ => True) := by
    intro m' hm
    rw [ends_bind]
    exact (recordSuffix_ends lower False.elim).mono (fun _ s' h' => ⟨rfl, hm.trans h'⟩)
      fun _ _ _ => trivial
  by_cases hcut : lower ≠ uncut
  · simp only [if_pos hcut]
    rw [ends_bind]
    exact (recordCut_ends False uncut limit length).mono (fun _ m' hm => hlast hm)
      fun _ _ _ => trivial
  · simp only [if_neg hcut]
    exact hlast (Session.Looks.remembers (.refl m))

/-- From wherever its trail has come, a linear search goes on to one of its ends. -/
theorem searchFrom_trail {uncut : Text} {budget used total : Nat} {suffix : Quantity}
    {probed : List (Text × Quantity)} (htrail : r.Trail req name s probed used base suffix m)
    (htotal : used + budget = total) :
    Ends (r.searchFrom req uncut budget base (lowercase base) suffix used probed.getLast?) m
      (fun p s' => r.TrailEnds req name s total p s') (fun _ _ => True) := by
  induction budget generalizing probed used base suffix m with
  | zero =>
    obtain rfl : used = total := htotal
    cases hprobed : probed.getLast? with
    | none =>
      exact .spent htrail (Session.Looks.remembers (.refl m)) fun b q h => by
        rw [hprobed] at h
        cases h
    | some last =>
      rw [searchFrom, ends_bind]
      refine (recordSuffix_gives last.1 last.2 m).mono (fun _ s' h => ?_) fun _ _ h => h
      refine .spent htrail h.1 fun b q hbq hroom => ?_
      obtain rfl := Option.some.inj (hprobed.symm.trans hbq)
      exact h.2 hroom
  | succ budget ih =>
    by_cases hwritable : isWritable suffix = true
    swap
    · rw [searchFrom_of_not_writable hwritable]
      trivial
    rw [searchFrom_of_writable hwritable]
    dsimp only
    split
    · -- the suffixed base is too long, and the trail goes on behind a cut of it
      rename_i hlong
      rw [ends_bind, ends_lift]
      refine ⟨fun shorter hcut => ?_, fun _ _ => trivial⟩
      split
      · rename_i hempty
        rw [List.isEmpty_iff] at hempty
        subst hempty
        exact .emptied htrail hlong hcut (by omega)
      · rename_i hleft
        rw [ends_bind]
        refine (ends_self (Task.lastSuffix (lowercase shorter)) m).mono (fun last m' hlast => ?_)
          fun _ _ _ => trivial
        have hne : shorter ≠ [] := by simpa using hleft
        exact ih (.cut htrail hlong hcut hne hlast) (by omega)
    · rename_i hfits
      rw [ends_bind]
      refine (ends_self (r.tryClaim req (base ++ suffixTail suffix) (keyOf base suffix)) m).mono
        (fun won m' hrun => ?_) fun _ _ _ => trivial
      cases won with
      | true =>
        refine (remember_found _ _ _ _ _ _ _ m').mono (fun p s' h => ?_) fun _ _ h => h
        obtain ⟨rfl, hremember⟩ := h
        exact .found htrail hfits hrun hremember (by omega)
      | false =>
        have hnext := ih (Trail.miss htrail hfits hrun) (by omega)
        rwa [List.getLast?_concat] at hnext

/-- A linear search goes along a trail that begins where the search begins. -/
theorem searchLinear_trail (r : Resolver) (req : Request) (name : Text) (s : Session) :
    Ends (r.searchLinear req name) s
      (fun p s' => r.TrailEnds req name s r.maxAttempts p s') (fun _ _ => True) := by
  rw [searchLinear]
  dsimp only
  rw [ends_bind]
  refine (ends_self _ s).mono (fun length? m hcut => ?_) fun _ _ _ => trivial
  rw [ends_bind]
  refine (ends_self _ m).mono (fun last m' hlast => ?_) fun _ _ _ => trivial
  have hstart : r.Trail req name s [] 0 (firstBase name length?) last.next m' := .start hcut hlast
  exact searchFrom_trail hstart (Nat.zero_add _)

/-- A linear search is one for the least suffix. If it finds a candidate, the base is a cut of the
name, the suffix is beyond the last one that the cache gave for the base, and every suffix in
between was reserved, is held, or was lost to another worker; the candidate keeps the limit. If it
finds none, it has claimed nothing. Then either nothing would have been left of the base, or all
attempts are used up, and the cache, if it has room, gives for the base of the last probe the suffix
of that probe. -/
theorem searchLinear_least {L : Int} (hlimit : req.limit = .whole L) (hwhole : s.GivesWhole)
    (r : Resolver) (name : Text) :
    Ends (r.searchLinear req name) s
      (fun p s' => match p with
        | (some f, attempts) => ∃ base last n m, base.IsCutOf name ∧
            (s.worker.suffixes.last (lowercase base)).1 = .whole last ∧ last < n ∧
            f = ⟨base ++ suffixTail (.whole n), keyOf base (.whole n), .whole n⟩ ∧
            s.Waits False m ∧ m.Claims False s' req.kind f.nameLower f.name ∧
            (∀ j, last < j → j < n → r.PassedOver req base (.whole j) s m) ∧
            (f.name.graphemeLength : Int) ≤ L ∧ attempts ≤ r.maxAttempts
        | (none, attempts) => s.Waits False s' ∧ ∃ probed used base suffix m,
            r.Trail req name s probed used base suffix m ∧
            (Overflows req base suffix ∧ shorten req base suffix = .ok [] ∧ attempts = used + 1 ∨
              attempts = r.maxAttempts ∧ used = r.maxAttempts ∧
                ∀ b q, probed.getLast? = some (b, q) → s.worker.suffixes.HasRoom →
                  (s'.worker.suffixes.last b).1 = q))
      (fun _ _ => True) := by
  refine (searchLinear_trail r req name s).mono (fun p s' h => ?_) fun _ _ h => h
  cases h with
  | @found probed used base suffix m m' _ htrail hfits hwon hremember hused =>
    have harrived := htrail.arrived hlimit hwhole
    obtain ⟨last, n, hgiven, rfl, hlast, hbelow⟩ := harrived.least
    have hclaim : m.Claims False m' req.kind (keyOf base (.whole n))
        (base ++ suffixTail (.whole n)) :=
      (tryClaim_ends.of_ok hwon).2
    refine ⟨base, last, n, m, harrived.cut, hgiven, hlast, rfl, harrived.waits,
      hclaim.remembers hremember, hbelow, ?_, hused⟩
    -- the candidate keeps the limit, since nothing of it was in excess
    rw [Overflows, hlimit, excessOf, lengthOf, Quantity.sub_whole,
      show (0 : Quantity) = .whole 0 from rfl, Quantity.lt_whole, decide_eq_true_eq] at hfits
    dsimp only
    omega
  | @spent probed base suffix m _ htrail hremember hlast =>
    have harrived := htrail.arrived hlimit hwhole
    -- on the way the cache has kept its room, so it has taken the last probe in
    refine ⟨harrived.waits.trans hremember.waits, probed, _, base, suffix, m, htrail,
      .inr ⟨rfl, rfl, fun b q hbq hroom => hlast b q hbq (harrived.recalls.room.2 hroom)⟩⟩
  | @emptied probed used base suffix _ htrail hlong hcut hused =>
    exact ⟨(htrail.arrived hlimit hwhole).waits, probed, used, base, suffix, s', htrail,
      .inl ⟨hlong, hcut, rfl⟩⟩

/-- A session in which a user and a group have taken a name and its first suffixed form. -/
def crowded : Session :=
  .idle (.memory ((NameSets.empty.add .username "ann".toList).add .groupName "ann_1".toList)) none

/-- The search behind the name finds the second suffix, since the first one has been passed over. -/
theorem searchLinear_least_crowded :
    Request.ann.limit = .whole defaultMaxLength ∧ crowded.GivesWhole ∧
      ∃ f m s', standard.searchLinear .ann "Ann".toList crowded = .ok (some f, 2) s' ∧
        f = ⟨"Ann_2".toList, "ann_2".toList, .whole 2⟩ ∧
        standard.PassedOver .ann "Ann".toList (.whole 1) crowded m ∧
        m.Claims False s' .username "ann_2".toList "Ann_2".toList := by
  have hwhole : crowded.GivesWhole := fun base => ⟨0, rfl⟩
  have hresult : result? (standard.searchLinear .ann "Ann".toList) crowded =
      some (some ⟨"Ann_2".toList, "ann_2".toList, .whole 2⟩, 2) := by decide +kernel
  obtain ⟨s', hrun⟩ := result?_eq_some.1 hresult
  have hleast := (searchLinear_least rfl hwhole standard "Ann".toList).of_ok hrun
  obtain ⟨base, last, n, m, -, hgiven, hlast, hfound, hwait, hclaim, hmissed, -⟩ := hleast
  obtain ⟨hname, -, hsuffix⟩ := Found.mk.inj hfound
  obtain rfl : 2 = n := Quantity.whole.inj hsuffix
  obtain rfl : 0 = last := Quantity.whole.inj hgiven
  obtain rfl : "Ann".toList = base := List.append_cancel_right hname
  exact ⟨rfl, hwhole, _, m, s', hrun, rfl, hmissed 1 (by decide) (by decide), hclaim⟩

end Resolver

end Namesake
