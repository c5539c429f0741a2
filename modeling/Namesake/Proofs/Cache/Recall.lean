import Mathlib.Data.Finset.Card
import Namesake.Cache.Suffixes

/-!
# What a cache recalls

What a cache gives for a key can be told from what has been done to it, without looking at its
entries: it gives what was written last for the key, unless as many other keys as it has room for
have been touched since the key was touched itself. Writing touches a key. Reading touches it if
there is something to be found, and that can be told from what was done before.

The entries stand in the order in which their keys were touched last. So an entry has in front of it
the keys that were touched after its own, each of them once, and it is there as long as these leave
room for it.

## Main definitions

* `CacheUse` — a cache is read or written
* `CacheUse.touched`, `CacheUse.lastWritten?`, `CacheUse.remembered?` — what past uses tell of a key
* `Recency.Reflects` — the entries of a cache are those that its past uses tell of
* `SuffixUse`, `CutUse` — what is done to the two caches of a resolver

## Main results

* `Recency.Reflects.read`, `Recency.Reflects.write` — one more use leaves the entries it tells of
* `Memo.uses_reflect` — and so does any number of uses, none of which fails
* `Memo.caches_recall` — what the caches of a resolver give after any number of uses
-/

namespace Namesake

/-! ### Told from the past -/

/-- A cache is read, or an entry is written. -/
inductive CacheUse (κ ν : Type) where
  | read (key : κ)
  | write (key : κ) (value : ν)
  deriving DecidableEq, Repr

namespace CacheUse

variable {κ ν : Type} [DecidableEq κ]

/-- What was written last for a key. Of past uses the latest stands in front. -/
def lastWritten? (key : κ) : List (CacheUse κ ν) → Option ν
  | [] => none
  | read _ :: past => lastWritten? key past
  | write k value :: past => if k = key then some value else lastWritten? key past

/-- How many other keys have been touched since a key was touched last. -/
def othersSince (touched : List κ) (key : κ) : Nat :=
  (touched.takeWhile (· ≠ key)).toFinset.card

/-- The keys that have been touched, the latest in front: those that were written, and those that
were read while there was something to be found. -/
def touched (capacity : Nat) : List (CacheUse κ ν) → List κ
  | [] => []
  | write key _ :: past => key :: touched capacity past
  | read key :: past =>
    if (lastWritten? key past).isSome ∧ othersSince (touched capacity past) key < capacity then
      key :: touched capacity past
    else touched capacity past

/-- What was written last for a key, if fewer other keys than the capacity admits have been touched
since the key was touched last. -/
def remembered? (capacity : Nat) (past : List (CacheUse κ ν)) (key : κ) : Option ν :=
  if othersSince (touched capacity past) key < capacity then lastWritten? key past else none

-- reading the first entry keeps it, so the second one has to make room for the third
example :
    let past : List (CacheUse Nat Char) := [.write 3 'c', .read 1, .write 2 'b', .write 1 'a']
    remembered? 2 past 1 = some 'a' ∧ remembered? 2 past 2 = none := by decide

variable {capacity : Nat} {past : List (CacheUse κ ν)} {key : κ} {value : ν}

/-- What has been written has been touched. -/
theorem mem_touched_of_written (h : lastWritten? key past = some value) :
    key ∈ touched capacity past := by
  induction past with
  | nil => cases h
  | cons use past ih =>
    cases use with
    | read k =>
      rw [touched]
      split
      · exact List.mem_cons_of_mem k (ih h)
      · exact ih h
    | write k written =>
      rw [touched]
      rw [lastWritten?] at h
      split at h
      · rename_i heq
        rw [heq]
        exact List.mem_cons_self
      · exact List.mem_cons_of_mem k (ih h)

/-- A key that is read is touched if something is recalled for it. -/
theorem touched_read (capacity : Nat) (past : List (CacheUse κ ν)) (key : κ) :
    touched capacity (read key :: past) =
      if (remembered? capacity past key).isSome then key :: touched capacity past
      else touched capacity past := by
  rw [touched, remembered?]
  by_cases hroom : othersSince (touched capacity past) key < capacity
  · simp [hroom]
  · simp [hroom]

end CacheUse

/-! ### In the order of the last touch -/

section Turns

variable {κ : Type} [DecidableEq κ] {touched l : List κ} {key k : κ} {n : Nat}

/-- The keys that have been touched, each once, in the order in which they were touched last. -/
def inTurn : List κ → List κ
  | [] => []
  | key :: touched => key :: (inTurn touched).filter (· ≠ key)

theorem mem_inTurn : key ∈ inTurn touched ↔ key ∈ touched := by
  induction touched with
  | nil => rfl
  | cons k touched ih =>
    rw [inTurn, List.mem_cons, List.mem_cons, List.mem_filter, ih]
    by_cases hk : key = k <;> simp [hk]

theorem nodup_inTurn (touched : List κ) : (inTurn touched).Nodup := by
  induction touched with
  | nil => exact List.nodup_nil
  | cons k touched ih => exact List.nodup_cons.2 ⟨by simp, ih.filter _⟩

theorem length_inTurn (touched : List κ) : (inTurn touched).length = touched.toFinset.card := by
  rw [← List.toFinset_card_of_nodup (nodup_inTurn touched)]
  congr 1
  ext key
  rw [List.mem_toFinset, List.mem_toFinset, mem_inTurn]

/-- Leaving another key out changes nothing about what stands in front of a key but that. -/
theorem takeWhile_filter (hk : k ≠ key) (l : List κ) :
    (l.filter (· ≠ k)).takeWhile (· ≠ key) = (l.takeWhile (· ≠ key)).filter (· ≠ k) := by
  induction l with
  | nil => rfl
  | cons a l ih =>
    by_cases ha : a = k
    · subst ha
      simpa [hk] using ih
    · by_cases hkey : a = key
      · subst hkey
        simp [ha]
      · simpa [ha, hkey] using ih

/-- In front of a key stand the keys that were touched after it. -/
theorem takeWhile_inTurn (touched : List κ) (key : κ) :
    (inTurn touched).takeWhile (· ≠ key) = inTurn (touched.takeWhile (· ≠ key)) := by
  induction touched with
  | nil => rfl
  | cons k touched ih =>
    by_cases hk : k = key
    · subst hk
      simp [inTurn]
    · rw [List.takeWhile_cons_of_pos (by simpa using hk), inTurn, inTurn,
        List.takeWhile_cons_of_pos (by simpa using hk), takeWhile_filter hk, ih]

/-- A key is among the first `n` if fewer than `n` stand in front of it. -/
theorem mem_take_iff_length (l : List κ) :
    key ∈ l.take n ↔ key ∈ l ∧ (l.takeWhile (· ≠ key)).length < n := by
  induction l generalizing n with
  | nil => simp
  | cons a l ih =>
    cases n with
    | zero => simp
    | succ n =>
      by_cases ha : a = key
      · subst ha
        simp
      · simp [ha, Ne.symm ha, ih]

/-- A key is among the first `n` that were touched last if fewer than `n` others were touched after
it. -/
theorem mem_take_inTurn : key ∈ (inTurn touched).take n ↔
    key ∈ touched ∧ CacheUse.othersSince touched key < n := by
  rw [mem_take_iff_length, mem_inTurn, takeWhile_inTurn, length_inTurn, CacheUse.othersSince]

/-- What has no room any more has none if a key is moved to the front. -/
theorem take_cons_filter_take (hl : l.Nodup) (key : κ) (n : Nat) :
    (key :: (l.take n).filter (· ≠ key)).take n = (key :: l.filter (· ≠ key)).take n := by
  cases n with
  | zero => rfl
  | succ n =>
    rw [List.take_succ_cons, List.take_succ_cons]
    congr 1
    induction l generalizing n with
    | nil => rfl
    | cons a l ih =>
      obtain ⟨ha, hl⟩ := List.nodup_cons.1 hl
      rw [List.take_succ_cons]
      by_cases hkey : a = key
      · -- no other entry has the key, so the same are left
        subst hkey
        have hkeep : ∀ m ⊆ l, m.filter (· ≠ a) = m := by
          intro m hm
          refine List.filter_eq_self.2 fun b hb => ?_
          have hne : b ≠ a := ne_of_mem_of_not_mem (hm hb) ha
          simpa using hne
        rw [List.filter_cons_of_neg (by simp), List.filter_cons_of_neg (by simp),
          hkeep _ (List.take_subset n l), hkeep _ (List.Subset.refl l), List.take_take,
          Nat.min_self]
      · rw [List.filter_cons_of_pos (by simpa using hkey),
          List.filter_cons_of_pos (by simpa using hkey)]
        cases n with
        | zero => rfl
        | succ n => rw [List.take_succ_cons, List.take_succ_cons, ih hl]

end Turns

/-! ### The entries -/

namespace Recency

variable {κ ν : Type} [DecidableEq κ] {c : Recency κ ν} {past : List (CacheUse κ ν)} {key : κ}

/-- The entries are those that past uses tell of: their keys were touched last, and their values are
those that were written last. -/
structure Reflects (c : Recency κ ν) (past : List (CacheUse κ ν)) : Prop where
  keys : c.entries.map (·.1) = (inTurn (CacheUse.touched c.capacity past)).take c.capacity
  values : ∀ e ∈ c.entries, CacheUse.lastWritten? e.1 past = some e.2

theorem reflects_empty (capacity : Nat) : (empty capacity : Recency κ ν).Reflects [] where
  keys := List.take_nil.symm
  values := fun e he => by cases he

theorem map_fst_others (c : Recency κ ν) (key : κ) :
    (c.others key).map (·.1) = (c.entries.map (·.1)).filter (· ≠ key) := by
  rw [others, List.filter_map]
  rfl

/-- There are no more entries than there is room for. -/
theorem Reflects.size_le (h : c.Reflects past) : c.size ≤ c.capacity := by
  rw [size, ← List.length_map, h.keys]
  exact List.length_take_le _ _

/-- The value of a key is the one that past uses tell of. -/
theorem Reflects.peek?_eq (h : c.Reflects past) (key : κ) :
    c.peek? key = CacheUse.remembered? c.capacity past key := by
  have hkeys : key ∈ c.entries.map (·.1) ↔ key ∈ CacheUse.touched c.capacity past ∧
      CacheUse.othersSince (CacheUse.touched c.capacity past) key < c.capacity := by
    rw [h.keys, mem_take_inTurn]
  rw [peek?, CacheUse.remembered?]
  cases hfind : c.entries.find? fun e => e.1 = key with
  | some e =>
    have he := List.mem_of_find?_eq_some hfind
    obtain rfl : e.1 = key := by simpa using List.find?_some hfind
    rw [if_pos (hkeys.1 (List.mem_map_of_mem he)).2, h.values e he]
    rfl
  | none =>
    have hmissing : key ∉ c.entries.map (·.1) := by
      intro hmem
      obtain ⟨e, he, rfl⟩ := List.mem_map.1 hmem
      simpa using List.find?_eq_none.1 hfind e he
    split
    · rename_i hroom
      -- there would be room for the entry, so nothing has been written
      cases hwritten : CacheUse.lastWritten? key past with
      | none => rfl
      | some value =>
        exact absurd (hkeys.2 ⟨CacheUse.mem_touched_of_written hwritten, hroom⟩) hmissing
    · rfl

theorem mem_others {e : κ × ν} : e ∈ c.others key ↔ e ∈ c.entries ∧ e.1 ≠ key := by
  simp [others]

/-- A written entry stands in front. -/
theorem Reflects.write (h : c.Reflects past) (key : κ) (value : ν) :
    (c.write key value).Reflects (.write key value :: past) where
  keys := by
    show (((key, value) :: c.others key).take c.capacity).map (·.1) =
      (key :: (inTurn (CacheUse.touched c.capacity past)).filter (· ≠ key)).take c.capacity
    rw [List.map_take, List.map_cons, map_fst_others, h.keys,
      take_cons_filter_take (nodup_inTurn _)]
  values := by
    intro e he
    rcases List.mem_cons.1 (List.mem_of_mem_take he) with rfl | he
    · rw [CacheUse.lastWritten?, if_pos rfl]
    · obtain ⟨he, hne⟩ := mem_others.1 he
      rw [CacheUse.lastWritten?, if_neg (Ne.symm hne), h.values e he]

/-- So does an entry that is read. Looking for an entry that is not there changes nothing. -/
theorem Reflects.read (h : c.Reflects past) (key : κ) :
    (c.read? key).2.Reflects (.read key :: past) := by
  have hpeek := h.peek?_eq key
  rw [read?]
  cases hfound : c.peek? key with
  | none =>
    rw [hfound] at hpeek
    refine ⟨?_, h.values⟩
    show c.entries.map (·.1) = (inTurn (CacheUse.touched c.capacity (.read key :: past))).take
        c.capacity
    rw [CacheUse.touched_read, ← hpeek]
    exact h.keys
  | some value =>
    rw [hfound] at hpeek
    obtain ⟨e, hfind, rfl⟩ := Option.map_eq_some_iff.1 hfound
    have he := List.mem_of_find?_eq_some hfind
    obtain rfl : e.1 = key := by simpa using List.find?_some hfind
    constructor
    · show ((e.1, e.2) :: c.others e.1).map (·.1) =
        (inTurn (CacheUse.touched c.capacity (.read e.1 :: past))).take c.capacity
      have hsome : (CacheUse.remembered? c.capacity past e.1).isSome = true := by
        rw [← hpeek]
        rfl
      rw [CacheUse.touched_read, if_pos hsome, inTurn, List.map_cons, map_fst_others, h.keys,
        ← take_cons_filter_take (nodup_inTurn _)]
      -- the entry was there already, so nothing has to make room for it
      refine (List.take_of_length_le ?_).symm
      rw [← h.keys, ← map_fst_others, List.length_cons, List.length_map]
      have hfewer : (c.others e.1).length < c.entries.length :=
        List.length_filter_lt_length_iff_exists.2 ⟨e, he, by simp⟩
      exact Nat.lt_of_lt_of_le hfewer h.size_le
    · intro e' he'
      rcases List.mem_cons.1 he' with rfl | he'
      · exact h.values e he
      · exact h.values e' (mem_others.1 he').1

theorem capacity_read? (c : Recency κ ν) (key : κ) : (c.read? key).2.capacity = c.capacity := by
  rw [read?]
  cases c.peek? key <;> rfl

end Recency

/-! ### The caches of a resolver -/

/-- The new cache for a whole capacity. -/
theorem Memo.ofCapacity_whole {κ ν : Type} (capacity : Nat) :
    (ofCapacity (.int capacity) : Except Fault (Memo κ ν)) = .ok (bounded (.empty capacity)) := by
  have hlimit : Limit.ofJson (.int capacity) = .ok (.whole capacity) := rfl
  have hroom : (ofRoom (.whole capacity) : Memo κ ν) = bounded (.empty capacity) := by
    have hzero : (Quantity.whole capacity).same 0 = decide ((capacity : Int) = 0) :=
      Quantity.same_whole capacity 0
    have hone : (Quantity.whole capacity).lt 1 = decide ((capacity : Int) < 1) :=
      Quantity.lt_whole capacity 1
    rw [ofRoom, hzero, hone, Quantity.floor?_whole]
    by_cases h : capacity = 0
    · subst h
      rfl
    · rw [if_neg (by simpa using h), if_neg (by simp; omega)]
      rfl
  have hnegative : (Quantity.whole capacity).lt 0 = false :=
    (Quantity.lt_whole capacity 0).trans (by simp)
  rw [ofCapacity, hlimit]
  show (if (Quantity.whole capacity).lt 0 = true then
    (throw (.badValue "capacity must not be negative") : Except Fault (Memo κ ν))
    else pure (ofRoom (.whole capacity))) = _
  rw [hnegative, hroom]
  rfl

namespace Memo

variable {κ ν : Type} [DecidableEq κ] {c : Recency κ ν} {past : List (CacheUse κ ν)}

/-- What a cache is after one more use. -/
def use (m : Memo κ ν) : CacheUse κ ν → Except Fault (Memo κ ν)
  | .read key => return (m.read? key).2
  | .write key value => m.write key value

theorem read?_bounded (c : Recency κ ν) (key : κ) :
    (bounded c).read? key = (c.peek? key, bounded (c.read? key).2) := by
  simp only [read?, Recency.read?]
  cases c.peek? key <;> rfl

/-- However a cache is used, no use fails, and the entries are in the end those that the uses tell
of. -/
theorem uses_reflect (h : c.Reflects past) (uses : List (CacheUse κ ν)) :
    ∃ c', uses.foldlM use (bounded c) = .ok (bounded c') ∧ c'.Reflects (uses.reverse ++ past) ∧
      c'.capacity = c.capacity := by
  -- the uses are gone through from the first to the last, so the past is arbitrary
  induction uses generalizing c past with
  | nil => exact ⟨c, rfl, h, rfl⟩
  | cons u uses ih =>
    rw [List.foldlM_cons, List.reverse_cons, List.append_assoc, List.singleton_append]
    cases u with
    | read key =>
      obtain ⟨c', hrun, hreflects, hcapacity⟩ := ih (h.read key)
      rw [use, read?_bounded]
      exact ⟨c', hrun, hreflects, hcapacity.trans (c.capacity_read? key)⟩
    | write key value =>
      obtain ⟨c', hrun, hreflects, hcapacity⟩ := ih (h.write key value)
      exact ⟨c', hrun, hreflects, hcapacity⟩

end Memo

/-- What is done to the cache of suffixes: the last suffix behind a base or the one behind that is
asked for, or a suffix is recorded. -/
inductive SuffixUse where
  | next (base : Text)
  | last (base : Text)
  | record (base : Text) (suffix : Quantity)
  deriving DecidableEq, Repr

/-- What is done to the cache of cuts: the length of a cut is asked for or recorded. -/
inductive CutUse where
  | get (base : Text) (limit : Limit)
  | record (base : Text) (limit : Limit) (length : Nat)
  deriving DecidableEq, Repr

namespace SuffixUse

/-- What it is for the cache. -/
def cacheUse : SuffixUse → CacheUse Text Quantity
  | next base | last base => .read base
  | record base suffix => .write base suffix

/-- What the cache of suffixes is after it. -/
def apply (c : SuffixCache) : SuffixUse → Except Fault SuffixCache
  | next base => return (SuffixCache.next c base).2
  | last base => return (SuffixCache.last c base).2
  | record base suffix => c.write base suffix

theorem apply_eq_use (c : SuffixCache) (u : SuffixUse) : apply c u = c.use u.cacheUse := by
  cases u <;> rfl

end SuffixUse

namespace CutUse

/-- What it is for the cache. Limits that stand for the same number make the same key. -/
def cacheUse : CutUse → CacheUse (Text × Limit) Nat
  | get base limit => .read (base, limit.normal)
  | record base limit length => .write (base, limit.normal) length

/-- What the cache of cuts is after it. -/
def apply (c : TruncationCache) : CutUse → Except Fault TruncationCache
  | get base limit => return (TruncationCache.cutLength? c base limit).2
  | record base limit length => TruncationCache.record c base limit length

theorem apply_eq_use (c : TruncationCache) (u : CutUse) : apply c u = c.use u.cacheUse := by
  cases u <;> rfl

end CutUse

namespace Memo

variable {κ ν ω : Type} [DecidableEq κ]

/-- Whatever is done to a new cache, it has no more entries than it may have, and it recalls what
the uses tell of. -/
theorem recalls {apply : Memo κ ν → ω → Except Fault (Memo κ ν)} {cacheUse : ω → CacheUse κ ν}
    (happly : ∀ m u, apply m u = m.use (cacheUse u)) (capacity : Nat) (uses : List ω) :
    ∃ m m' : Memo κ ν, ofCapacity (.int capacity) = .ok m ∧ uses.foldlM apply m = .ok m' ∧
      m'.size ≤ capacity ∧ ∀ key,
        (m'.read? key).1 = CacheUse.remembered? capacity (uses.map cacheUse).reverse key := by
  have hnew : (Recency.empty capacity : Recency κ ν).Reflects [] := Recency.reflects_empty capacity
  obtain ⟨c, hrun, hreflects, hcapacity⟩ := uses_reflect hnew (uses.map cacheUse)
  have hcapacity' : c.capacity = capacity := hcapacity
  rw [List.append_nil] at hreflects
  refine ⟨_, bounded c, ofCapacity_whole capacity, ?_, hcapacity' ▸ hreflects.size_le,
    fun key => ?_⟩
  · rw [← hrun, List.foldlM_map]
    exact congrArg (fun f => uses.foldlM f _) (funext fun m => funext fun u => happly m u)
  · rw [read?_bounded, hreflects.peek?_eq, hcapacity']

/-- Whatever is done to a new cache of suffixes or of cuts of any capacity, none of it fails, and
there are never more entries than the capacity says. Then what is given for a key is what was
recorded last for it, if fewer other keys than that were touched since the key was touched last;
otherwise it is what is given for a key without an entry. A cache without capacity never gives
anything else. -/
theorem caches_recall (capacity : Nat) :
    (∀ uses : List SuffixUse, ∃ c c' : SuffixCache,
      ofCapacity (.int capacity) = .ok c ∧ uses.foldlM SuffixUse.apply c = .ok c' ∧
      c'.size ≤ capacity ∧ ∀ base : Text,
        (SuffixCache.last c' base).1 =
          (CacheUse.remembered? capacity (uses.map SuffixUse.cacheUse).reverse base).getD 0 ∧
        (SuffixCache.next c' base).1 = (SuffixCache.last c' base).1.next ∧
        (capacity = 0 → (SuffixCache.last c' base).1 = 0)) ∧
    (∀ uses : List CutUse, ∃ c c' : TruncationCache,
      ofCapacity (.int capacity) = .ok c ∧ uses.foldlM CutUse.apply c = .ok c' ∧
      c'.size ≤ capacity ∧ ∀ (base : Text) (limit : Limit),
        (TruncationCache.cutLength? c' base limit).1 =
          CacheUse.remembered? capacity (uses.map CutUse.cacheUse).reverse (base, limit.normal) ∧
        (capacity = 0 → (TruncationCache.cutLength? c' base limit).1 = none)) := by
  have hnothing : ∀ {κ ν : Type} [DecidableEq κ] (past : List (CacheUse κ ν)) (key : κ),
      capacity = 0 → CacheUse.remembered? capacity past key = none := by
    intro κ ν _ past key hzero
    rw [CacheUse.remembered?, hzero, if_neg (Nat.not_lt_zero _)]
  constructor
  · intro uses
    obtain ⟨c, c', hnew, hrun, hsize, hread⟩ := recalls SuffixUse.apply_eq_use capacity uses
    refine ⟨c, c', hnew, hrun, hsize, fun base => ?_⟩
    have hlast : (SuffixCache.last c' base).1 =
        (CacheUse.remembered? capacity (uses.map SuffixUse.cacheUse).reverse base).getD 0 :=
      congrArg (Option.getD · 0) (hread base)
    refine ⟨hlast, rfl, fun hzero => ?_⟩
    rw [hlast, hnothing _ _ hzero]
    rfl
  · intro uses
    obtain ⟨c, c', hnew, hrun, hsize, hread⟩ := recalls CutUse.apply_eq_use capacity uses
    refine ⟨c, c', hnew, hrun, hsize, fun base limit => ?_⟩
    have hcut : (TruncationCache.cutLength? c' base limit).1 =
        CacheUse.remembered? capacity (uses.map CutUse.cacheUse).reverse (base, limit.normal) :=
      hread (base, limit.normal)
    exact ⟨hcut, fun hzero => by rw [hcut, hnothing _ _ hzero]⟩

end Memo

end Namesake
