import Namesake.Proofs.Registry.Claim

/-!
# What a resolver does to its session

Between the beginning of a resolution and its end a resolver reads and writes its caches, while
other workers may take names, and it claims one name or none. Each of these is a relation between
the session before and the session after, and they compose.

A search continues behind the last suffix that its cache remembers. Whether that is a whole number
depends on what the cache was filled with, so it is carried along as the condition `counting`: if it
holds, the cache has whole numbers only.

## Main definitions

* `Session.Counts` — the suffix cache has whole numbers only, on a condition
* `Session.Remembers` — nothing changes but the caches, the log and what is going to fail
* `Session.Waits`, `Session.Claims` — no name is claimed, and exactly one is

## Main results

* `Session.Waits.trans`, `Session.Waits.claims`, `Session.Claims.remembers` — how they compose
* `lastSuffix_ends`, `recordSuffix_ends` — the cache of suffixes goes on counting
-/

open Namesake.Task

namespace Namesake

/-! ### Counting -/

/-- The number is a whole one, and not negative. -/
def Quantity.IsCount (q : Quantity) : Prop :=
  ∃ k : Nat, q = .whole k

/-- The number is a suffix that counting arrives at. -/
def Quantity.IsSuffix (q : Quantity) : Prop :=
  ∃ k : Nat, 0 < k ∧ q = .whole k

/-- The cache has nothing but counts. -/
def SuffixCache.Counting : SuffixCache → Prop
  | .bounded c => ∀ e ∈ c.entries, e.2.IsCount
  | .cramped => True

section Counting

variable {q : Quantity} {c c' : SuffixCache} {base : Text}

theorem Quantity.IsCount.next (h : q.IsCount) : q.next.IsSuffix := by
  obtain ⟨k, rfl⟩ := h
  exact ⟨k + 1, Nat.succ_pos k, rfl⟩

theorem Quantity.IsSuffix.isCount (h : q.IsSuffix) : q.IsCount := by
  obtain ⟨k, -, rfl⟩ := h
  exact ⟨k, rfl⟩

/-- What a cache of counts gives is a count, and reading leaves a cache of counts behind. -/
theorem SuffixCache.Counting.last (h : c.Counting) (base : Text) :
    (c.last base).1.IsCount ∧ (c.last base).2.Counting := by
  cases c with
  | cramped => exact ⟨⟨0, rfl⟩, trivial⟩
  | bounded c =>
    simp only [SuffixCache.last, Memo.readD, Memo.read?, Recency.read?]
    cases hpeek : c.peek? base with
    | none => exact ⟨⟨0, rfl⟩, h⟩
    | some q =>
      -- the entry that is read moves to the front
      obtain ⟨e, he, rfl⟩ := Option.map_eq_some_iff.1 hpeek
      have hq : e.2.IsCount := h e (List.mem_of_find?_eq_some he)
      refine ⟨hq, fun e' he' => ?_⟩
      rcases List.mem_cons.1 he' with rfl | he'
      · exact hq
      · exact h e' (List.mem_filter.1 he').1

/-- Writing a count leaves a cache of counts behind. -/
theorem SuffixCache.Counting.write (h : c.Counting) (hq : q.IsCount)
    (hw : Memo.write c base q = .ok c') : c'.Counting := by
  cases c with
  | cramped => cases hw
  | bounded c =>
    cases hw
    -- some entries may be forgotten, but only the written one is new
    intro e he
    rcases List.mem_cons.1 (List.mem_of_mem_take he) with rfl | he
    · exact hq
    · exact h e (List.mem_filter.1 he).1

end Counting

/-! ### What happens in a session -/

/-- On a condition the suffix cache has nothing but counts. -/
def Session.Counts (counting : Prop) (s : Session) : Prop :=
  counting → s.worker.suffixes.Counting

/-- From the first state to the second nothing changes but the caches, the log and what is going to
fail. -/
structure Session.Remembers (counting : Prop) (s s' : Session) : Prop where
  store : s'.shared.store = s.shared.store
  now : s'.shared.now = s.shared.now
  contention : s'.worker.contention = s.worker.contention
  counts : s.Counts counting → s'.Counts counting

/-- No name is claimed; others may take names. -/
structure Session.Waits (counting : Prop) (s s' : Session) : Prop where
  meanwhile : ∃ taken, s.Meanwhile s' taken
  counts : s.Counts counting → s'.Counts counting

/-- Exactly one name is claimed, after others may have taken names. -/
def Session.Claims (counting : Prop) (s s' : Session) (kind : NameKind) (lower name : Text) :
    Prop :=
  ∃ m m', s.Waits counting m ∧ m.Inserts m' kind lower (some name) ∧ m'.Remembers counting s'

namespace Session

variable {counting : Prop} {s s' s'' : Session} {taken : List Theft} {kind : NameKind}
variable {lower name : Text}

theorem SameCaches.counts (h : s.SameCaches s') (hs : s.Counts counting) : s'.Counts counting := by
  unfold Counts
  rw [h.suffixes]
  exact hs

theorem Looks.remembers (h : s.Looks s') : s.Remembers counting s' :=
  ⟨h.store, h.now, by rw [h.worker], h.sameCaches.counts⟩

theorem Remembers.trans (h : s.Remembers counting s') (h' : s'.Remembers counting s'') :
    s.Remembers counting s'' :=
  ⟨h'.store.trans h.store, h'.now.trans h.now, h'.contention.trans h.contention,
    fun hs => h'.counts (h.counts hs)⟩

theorem Remembers.waits (h : s.Remembers counting s') : s.Waits counting s' where
  meanwhile :=
    ⟨[], List.nil_subset _, by rw [h.contention]; exact List.Subset.refl _,
      by rw [h.store]; exact .none, h.now⟩
  counts := h.counts

theorem Looks.waits (h : s.Looks s') : s.Waits counting s' :=
  h.remembers.waits

theorem Yields.waits (h : s.Yields s') : s.Waits counting s' :=
  ⟨h.meanwhile, h.caches.counts⟩

theorem Waits.refl (s : Session) : s.Waits counting s :=
  (Looks.refl s).waits

theorem Waits.trans (h : s.Waits counting s') (h' : s'.Waits counting s'') :
    s.Waits counting s'' := by
  obtain ⟨_, hm⟩ := h.meanwhile
  obtain ⟨_, hm'⟩ := h'.meanwhile
  exact ⟨⟨_, hm.trans hm'⟩, fun hs => h'.counts (h.counts hs)⟩

theorem Waits.claims (h : s.Waits counting s') :
    s'.Claims counting s'' kind lower name → s.Claims counting s'' kind lower name
  | ⟨m, m', hm, hi, hr⟩ => ⟨m, m', h.trans hm, hi, hr⟩

theorem Claims.remembers (hr : s'.Remembers counting s'') :
    s.Claims counting s' kind lower name → s.Claims counting s'' kind lower name
  | ⟨m, m', hm, hi, hr'⟩ => ⟨m, m', hm, hi, hr'.trans hr⟩

theorem Claims.counts :
    s.Claims counting s' kind lower name → s.Counts counting → s'.Counts counting
  | ⟨_, _, hm, hi, hr⟩, hs => hr.counts (hi.sameCaches.counts (hm.counts hs))

theorem Inserts.claims (h : s.Inserts s' kind lower (some name)) :
    s.Claims counting s' kind lower name :=
  ⟨s, s', .refl s, h, (Looks.refl s').remembers⟩

end Session

/-! ### The caches -/

section Caches

variable {counting : Prop} {s : Session}

/-- What a search goes on from is a count, if the cache has nothing else. -/
theorem lastSuffix_ends (counting : Prop) (base : Text) :
    Ends (Task.lastSuffix base) s
      (fun q s' => s.Remembers counting s' ∧ (s.Counts counting → counting → q.IsCount))
      (fun _ _ => False) := by
  rw [Task.lastSuffix, ends_modifyGet]
  refine ⟨⟨rfl, rfl, rfl, fun hs hcounting => ?_⟩, fun hs hcounting => ?_⟩
  · exact (SuffixCache.Counting.last (hs hcounting) base).2
  · exact (SuffixCache.Counting.last (hs hcounting) base).1

theorem cutLength?_ends (counting : Prop) (base : Text) (limit : Limit) :
    Ends (Task.cutLength? base limit) s (fun _ s' => s.Remembers counting s') (fun _ _ => False) :=
  ⟨rfl, rfl, rfl, id⟩

/-- A cache into which no entry fits refuses the writing with a fault that is not the library's. -/
theorem Memo.isOwn_of_write {κ ν : Type} [DecidableEq κ] {m : Memo κ ν} {key : κ} {value : ν}
    {f : Fault} (h : m.write key value = .error f) : f.isOwn = false := by
  cases m with
  | bounded c => cases h
  | cramped => cases h; rfl

theorem recordSuffix_ends (base : Text) {suffix : Quantity} (hq : counting → suffix.IsCount) :
    Ends (Task.recordSuffix base suffix) s (fun _ s' => s.Remembers counting s')
      (fun f s' => s.Remembers counting s' ∧ f.isOwn = false) := by
  rw [Task.recordSuffix, ends_bind, ends_get, ends_bind, ends_lift]
  constructor
  · intro c hc
    refine ⟨rfl, rfl, rfl, fun hs hcounting => ?_⟩
    exact SuffixCache.Counting.write (hs hcounting) (hq hcounting) hc
  · exact fun f hf => ⟨⟨rfl, rfl, rfl, id⟩, Memo.isOwn_of_write hf⟩

theorem recordCut_ends (counting : Prop) (base : Text) (limit : Limit) (length : Nat) :
    Ends (Task.recordCut base limit length) s (fun _ s' => s.Remembers counting s')
      (fun f s' => s.Remembers counting s' ∧ f.isOwn = false) := by
  rw [Task.recordCut, ends_bind, ends_get, ends_bind, ends_lift]
  exact ⟨fun _ _ => ⟨rfl, rfl, rfl, id⟩, fun f hf => ⟨⟨rfl, rfl, rfl, id⟩, Memo.isOwn_of_write hf⟩⟩

end Caches

end Namesake
