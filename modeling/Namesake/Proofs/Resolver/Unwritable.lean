import Namesake.Proofs.Resolver.Faults

/-!
# Names that no suffix saves

A rule for each digit reserves every suffixed form of every name, and none of these rules is one
that no suffix is known to escape. So a resolver that is asked for a name which is not free tries
one suffix after the other, in vain, and at last doubles the suffix. Where the limit leaves room for
more digits than may be written, it comes to a suffix that may not be written before it gives up,
and ends with the fault that says so, which is none of the library's own. Nothing has changed by
then but what the caches remember.

## Main definitions

* `Session.Awaits` — nobody disturbs the session, and nothing has been added to the store
* `Resolver.Bars` — all suffixed forms of a name are reserved

## Main results

* `Resolver.offerAbove_bars` — doubling comes to a suffix that may not be written
* `Resolver.resolve_bars` — and so does a resolution that falls back on a name which is not free
-/

open Namesake.Task

namespace Namesake

open Unicode

/-! ### Sessions in which nothing is added -/

/-- Nobody disturbs the session, the suffixes in its caches are counts, and it has the given store.
-/
structure Session.Awaits (store : Store) (s : Session) : Prop extends s.Quiet where
  caches : s.worker.Sound Quantity.IsCount
  store : s.shared.store = store

section Awaiting

variable {α : Type} {store : Store} {s s' : Session} {t : Task α} {ok : α → Prop}
variable {bad : Fault → Prop}

theorem Session.Awaits.rests (h : s.Awaits store) (hm : s.Rests s') : s'.Awaits store where
  toQuiet := h.toQuiet.of_eq hm.outage hm.looks.worker
  caches := by rw [hm.looks.worker]; exact h.caches
  store := hm.looks.store.trans h.store

/-- A task that keeps the caches sound, and changes nothing but the caches and the log. -/
theorem Task.Keeps.awaits (h : Keeps (Session.Sound (fun _ => False) Quantity.IsCount) t ok bad)
    (hstill : Keeps (fun s => s.Quiet ∧ s.shared.store = store) t (fun _ => True) fun _ => True) :
    Keeps (Session.Awaits store) t ok bad := by
  intro s hs
  have hsound : s.Sound (fun _ => False) Quantity.IsCount :=
    ⟨hs.caches, fun _ _ => by rw [hs.outage]; nofun⟩
  exact ((h.and hstill) s ⟨hsound, hs.toQuiet, hs.store⟩).mono
    (fun _ _ h' => ⟨h'.1, h'.2.2.1, h'.2.1.caches, h'.2.2.2⟩)
    fun _ _ h' => ⟨h'.1, h'.2.2.1, h'.2.1.caches, h'.2.2.2⟩

theorem Task.cutLength?_awaits (base : Text) (limit : Limit) :
    Keeps (Session.Awaits store) (Task.cutLength? base limit) (fun _ => True) bad :=
  (Task.cutLength?_keeps base limit).awaits fun _ hs =>
    ⟨trivial, ⟨⟨hs.1.outage, hs.1.stolen⟩, hs.1.failing⟩, hs.2⟩

theorem Task.lastSuffix_awaits (base : Text) :
    Keeps (Session.Awaits store) (Task.lastSuffix base) Quantity.IsCount bad :=
  (Task.lastSuffix_keeps base ⟨0, rfl⟩).awaits fun _ hs =>
    ⟨trivial, ⟨⟨hs.1.outage, hs.1.stolen⟩, hs.1.failing⟩, hs.2⟩

theorem Task.recordSuffix_awaits (base : Text) (hsuffix : suffix.IsCount) :
    Keeps (Session.Awaits store) (Task.recordSuffix base suffix) (fun _ => True) bad := by
  refine (Task.recordSuffix_keeps base hsuffix).awaits fun s hs => ?_
  rw [Task.recordSuffix, ends_bind, ends_get, ends_bind, ends_lift]
  exact ⟨fun _ _ => ⟨trivial, ⟨⟨hs.1.outage, hs.1.stolen⟩, hs.1.failing⟩, hs.2⟩,
    fun _ _ => ⟨trivial, hs⟩⟩

theorem Task.note_awaits (entry : LogEntry) :
    Keeps (Session.Awaits store) (Task.note entry) (fun _ => True) bad :=
  fun _ hs => (Registry.note_rests entry).mono (fun _ _ h => ⟨trivial, hs.rests h⟩)
    fun _ _ h => h.elim

end Awaiting

namespace Resolver

variable {r : Resolver} {req : Request} {n : Int} {store : Store}
variable {name base lower fallback : Text} {suffix : Quantity} {s : Session}

/-- All suffixed forms of the name are reserved, however it is cut. -/
def Bars (r : Resolver) (name : Text) : Prop :=
  ∀ base, base <+: name → ∀ k : Nat,
    r.reserved.holds (lowercase base ++ suffixTail (.whole k)) = true

/-- A name that is reserved is not claimed. -/
theorem tryClaim_reserved (hallow : req.allowReserved = false) (h : r.reserved.holds lower = true)
    (name : Text) : r.tryClaim req name lower = pure false := by
  rw [tryClaim, isAvailable, hallow, h]
  rfl

/-! ### The linear search -/

theorem searchFrom_bars (hlimit : req.limit = .whole n) (hallow : req.allowReserved = false)
    (hbars : r.Bars name) (uncut : Text) {budget used : Nat} {lastTried : Option (Text × Quantity)}
    (hbase : base <+: name) (hsuffix : suffix.IsCount)
    (hlast : ∀ last ∈ lastTried, last.2.IsCount) :
    Keeps (Session.Awaits store)
      (r.searchFrom req uncut budget base (lowercase base) suffix used lastTried)
      (fun p => p.1 = none) (· = tooManyDigits) := by
  -- each round either tries the next suffix or goes on with a shorter beginning of the name
  induction budget generalizing base suffix used lastTried with
  | zero =>
    cases lastTried with
    | none => exact .pure rfl
    | some last => exact (Task.recordSuffix_awaits last.1 (hlast last rfl)).then fun _ => .pure rfl
  | succ budget ih =>
    obtain ⟨k, rfl⟩ := hsuffix
    by_cases hwritable : isWritable (.whole k) = true
    swap
    · rw [searchFrom_of_not_writable hwritable]
      exact .throw rfl
    rw [searchFrom_of_writable hwritable, hlimit]
    dsimp only
    split
    · -- both lengths are whole, so the cut is one at a whole number
      rw [excessOf, lengthOf, lengthOf, Quantity.sub_whole, Quantity.sub_whole, Limit.cut_whole]
      refine Keeps.bind (p := fun cut => cut <+: name)
        (.lift (fun cut hcut => ?_) fun _ hf => by cases hf) fun cut hcut => ?_
      · obtain rfl := Except.ok.inj hcut
        exact (Text.cutTo_isPrefix _ _).trans hbase
      · split
        · exact .pure rfl
        · exact (Task.lastSuffix_awaits _).bind fun last hlast' =>
            ih hcut hlast'.next.isCount hlast
    · rw [tryClaim_reserved hallow (hbars base hbase k)]
      refine ih hbase (Quantity.IsCount.next ⟨k, rfl⟩).isCount fun last h => ?_
      obtain rfl := Option.some.inj h
      exact ⟨k, rfl⟩

theorem searchLinear_bars (hlimit : req.limit = .whole n) (hallow : req.allowReserved = false)
    (hbars : r.Bars name) :
    Keeps (Session.Awaits store) (r.searchLinear req name) (fun p => p.1 = none)
      (· = tooManyDigits) := by
  refine (Task.cutLength?_awaits _ _).then fun length? => ?_
  refine (Task.lastSuffix_awaits _).bind fun last hlast => ?_
  refine searchFrom_bars hlimit hallow hbars _ ?_ hlast.next.isCount fun _ h => by cases h
  -- the search begins at the name or at a cut of it
  split
  · dsimp only
    split
    · exact List.prefix_refl name
    · exact Text.cutTo_isPrefix name _
  · exact List.prefix_refl name

/-! ### The search without an end -/

/-- A suffixed form is not available, if its suffix may be written. -/
theorem suffixAvailable_bars (hlimit : req.limit = .whole n) (hallow : req.allowReserved = false)
    (hbars : r.Bars name) (k : Nat) : Keeps (Session.Awaits store)
      (r.suffixAvailable req name (.whole k)) (fun b => b = false ∧ k < digitBound)
      (fun f => f = tooManyDigits ∧ digitBound ≤ k) := by
  rw [suffixAvailable, hlimit]
  by_cases hk : k < digitBound
  · rw [suffixed_whole hk]
    refine Keeps.bind (p := fun found => ∀ candidate ∈ found,
      r.reserved.holds (lowercase candidate) = true)
      (.lift (fun found hfound candidate hcandidate => ?_) fun _ hf => by cases hf)
        fun found hheld => ?_
    · obtain rfl := Except.ok.inj hfound
      split at hcandidate
      · cases hcandidate
      · obtain rfl := Option.some.inj hcandidate
        rw [lowercase_suffixed]
        exact hbars _ (Text.cutTo_isPrefix name _) k
    · cases found with
      | none => exact .pure ⟨rfl, hk⟩
      | some candidate =>
        dsimp only
        rw [isAvailable, hallow, hheld candidate rfl]
        exact .pure ⟨rfl, hk⟩
  · rw [suffixed_of_not_writable (mt isWritable_iff_lt.1 hk)]
    refine Keeps.bind (p := fun _ => False) (.lift (fun _ h => by cases h) fun f hf => ?_)
      fun _ h => h.elim
    exact ⟨(Except.error.inj hf).symm, Nat.le_of_not_lt hk⟩

/-- Doubling comes to a suffix that may not be written, if there is room for one. -/
theorem offerAbove_bars (hlimit : req.limit = .whole n) (hallow : req.allowReserved = false)
    (hbars : r.Bars name) {top : Nat} (htop : digitBound ≤ top) (hpos : 0 < top)
    (lower attempts : Nat) : Keeps (Session.Awaits store) (r.offerAbove req name top lower attempts)
      (fun _ => False) (· = tooManyDigits) := by
  have htells : r.Tells req name (Session.Awaits store) (fun _ => False) (· < digitBound)
      (fun f s' => f = tooManyDigits ∧ s'.Awaits store) (min (lower + 1) top) top := by
    intro s k hs _ _
    refine (suffixAvailable_bars hlimit hallow hbars k s hs).mono (fun b s' h => ?_)
      fun _ _ h => ⟨h.1.1, h.2⟩
    obtain ⟨⟨rfl, hwritable⟩, hs'⟩ := h
    exact ⟨hs', hwritable⟩
  refine fun s hs => (offerAbove_tells htells hs attempts).mono (fun p s' h => ⟨?_, h.1⟩)
    fun _ _ h => h
  obtain ⟨_ | k, attempts'⟩ := p
  · -- it would have come to the largest suffix, which may not be written either
    exact absurd (h.2 _ (probed_top (by omega))) (by omega)
  · exact h.2.available

theorem searchDoubling_bars (hlimit : req.limit = .whole n) (hallow : req.allowReserved = false)
    (hbars : r.Bars name) (hroom : digitBound ≤ maxSuffix n.toNat) :
    Keeps (Session.Awaits store) (r.searchDoubling req name) (fun _ => False)
      (· = tooManyDigits) := by
  have hlong := req.le_limit hlimit
  have hpos : 0 < maxSuffix n.toNat := maxSuffix_pos (by omega)
  rw [searchDoubling, hlimit, largestSuffix_whole]
  refine Keeps.bind (p := (· = .whole (maxSuffix n.toNat)))
    (.lift (fun top htop => (Except.ok.inj htop).symm) fun _ hf => by cases hf) fun top htop => ?_
  subst htop
  refine (Task.lastSuffix_awaits _).bind fun last hlast => ?_
  obtain ⟨k, rfl⟩ := hlast
  refine .get fun s hs => ?_
  dsimp only
  rw [searchAbove]
  exact (Keeps.bind (offerAbove_bars hlimit hallow hbars hroom hpos _ _) fun _ h => h.elim) s hs

/-! ### Resolutions -/

theorem resolveBySuffix_bars (hlimit : req.limit = .whole n) (hallow : req.allowReserved = false)
    (hname : r.Bars name) (hfallback : r.Bars fallback) (hroom : digitBound ≤ maxSuffix n.toNat)
    (usedFallback : Bool) : Keeps (Session.Awaits store)
      (r.resolveBySuffix req name fallback usedFallback) (fun _ => False) (· = tooManyDigits) := by
  have hdoubling : ∀ attempts, Keeps (Session.Awaits store)
      (r.resolveByDoubling req fallback attempts) (fun _ => False) (· = tooManyDigits) := fun _ =>
    (Task.note_awaits _).then fun _ =>
      (searchDoubling_bars hlimit hallow hfallback hroom).bind fun _ h => h.elim
  refine (searchLinear_bars hlimit hallow hname).bind fun p hp => ?_
  obtain ⟨found, attempts⟩ := p
  obtain rfl : found = none := hp
  dsimp only
  split
  · exact hdoubling attempts
  · refine (Task.note_awaits _).then fun _ => (searchLinear_bars hlimit hallow hfallback).bind
      fun p hp => ?_
    obtain ⟨found, more⟩ := p
    obtain rfl : found = none := hp
    exact hdoubling _

/-- A name that is not free is not claimed. -/
theorem tryClaim_taken {sets : NameSets} (hs : s.Awaits (.memory sets))
    (htaken : sets.has lower = true) (req : Request) (name : Text) :
    Ends (r.tryClaim req name lower) s (fun won s' => won = false ∧ s'.Awaits (.memory sets))
      (fun _ _ => False) := by
  rw [tryClaim, ends_bind, isAvailable]
  split
  · exact ⟨rfl, hs⟩
  · rw [ends_bind, Registry.isUsed, ends_bind, ends_get, hs.store]
    dsimp only
    rw [ends_pure, htaken]
    exact ⟨rfl, hs⟩

/-- A request that falls back on a name which is not free, and of which all suffixed forms are
reserved, ends with the fault of a suffix with too many digits, if the limit leaves room for one. It
adds nothing to the store. -/
theorem resolve_bars {sets : NameSets} (hs : s.Awaits (.memory sets))
    (hlimit : req.limit = .whole n)
    (hallow : req.allowReserved = false) (hroom : digitBound ≤ maxSuffix n.toNat)
    (hclean : r.cleanText req n = []) (hbars : r.Bars (r.fallbackText req n))
    (htaken : sets.has (lowercase (r.fallbackText req n)) = true) :
    Ends (r.resolve req) s (fun _ _ => False)
      (fun f s' => f = tooManyDigits ∧ s'.Awaits (.memory sets)) := by
  rw [resolve, ends_bind]
  refine (fallbackFor_text hlimit).mono (fun fallback m hm => ?_) fun _ _ hf => hf.elim
  obtain ⟨rfl, hrest⟩ := hm
  rw [cleanName_text hlimit, hclean, ends_bind, ends_lift]
  refine ⟨fun clean h => ?_, fun _ hf => by cases hf⟩
  obtain rfl := Except.ok.inj h
  dsimp only [List.isEmpty_nil]
  rw [if_pos rfl, ends_bind]
  refine (tryClaim_taken (hs.rests hrest) htaken req _).mono (fun won m' h' => ?_)
    fun _ _ hf => hf.elim
  obtain ⟨rfl, hawaits⟩ := h'
  exact (resolveBySuffix_bars hlimit hallow hbars hbars hroom _ m' hawaits).mono (fun _ _ h => h.1)
    fun _ _ h => h

end Resolver

/-! ### A rule for each digit -/

/-- The names that end in a digit are kept back. -/
def ReservedNames.numbered : ReservedNames :=
  ⟨∅, ["*0", "*1", "*2", "*3", "*4", "*5", "*6", "*7", "*8", "*9"].map String.toList, []⟩

theorem ReservedNames.mem_numbered : ∀ n < 128, (Char.ofNat n).isDigit = true →
    ['*', Char.ofNat n] ∈ numbered.wildcards := by
  decide +kernel

/-- A suffixed form of a narrow text ends in a digit. -/
theorem ReservedNames.holds_numbered {t : Text} (h : t.IsNarrow) (k : Nat) :
    numbered.holds (t ++ suffixTail (.whole k)) = true := by
  have hnarrow := h.append (Text.narrow_numeral k)
  have hne : Nat.toDigits 10 k ≠ [] := List.ne_nil_of_length_pos Nat.length_toDigits_pos
  have hlast : (Nat.toDigits 10 k).getLast hne ∈ Nat.toDigits 10 k := List.getLast_mem hne
  have hsplit : t ++ '_' :: Nat.toDigits 10 k =
      (t ++ '_' :: (Nat.toDigits 10 k).dropLast) ++ [(Nat.toDigits 10 k).getLast hne] := by
    rw [List.append_assoc, List.cons_append, List.dropLast_append_getLast]
  have hascii : Text.isAscii (t ++ '_' :: Nat.toDigits 10 k) = true :=
    (Bool.and_eq_true _ _ ▸ hnarrow.isPlain).1
  rw [Resolver.suffixTail_whole, holds, nameForm, if_pos hascii, hsplit]
  generalize (Nat.toDigits 10 k).getLast hne = d at hlast ⊢
  have hdigit : d.isDigit = true := Nat.isDigit_of_mem_toDigits (by decide) (by decide) hlast
  have hbound : d.toNat < 128 :=
    Text.lt_of_narrow (hnarrow d (List.mem_append_right _ (List.mem_cons_of_mem _ hlast)))
  have hrule := mem_numbered d.toNat hbound
  rw [Char.ofNat_toNat] at hrule
  have hfits : Glob.fits ['*', d] ((t ++ '_' :: (Nat.toDigits 10 k).dropLast) ++ [d]) = true := by
    refine Glob.fits_star_append ?_ _
    have hchar : d ≠ '*' := by
      rintro rfl
      cases hdigit
    rw [Glob.fits_char_cons hchar]
    simp
  rw [Bool.or_eq_true]
  exact Or.inr (List.any_eq_true.2 ⟨_, hrule hdigit, hfits⟩)

namespace Resolver

/-- The settings of a resolver that reserves the names which end in a digit, under a limit with room
for more digits than may be written. -/
def numberlessSettings : ResolverSettings :=
  { reservedRules := .ofStrings ["*0", "*1", "*2", "*3", "*4", "*5", "*6", "*7", "*8", "*9"],
    maxLength := .int 4303, maxAttempts := .int 9 }

/-- The resolver that they give. -/
def numberless : Resolver :=
  ⟨⟨true, none⟩, .numbered, .whole 4303, 9, "user".toList, "group".toList, numberlessSettings, rfl⟩

theorem build_numberless : build numberlessSettings = .ok (numberless, .standard) := by
  have hprepare : ∀ word ∈ ["user", "group"], ∀ key resort,
      prepareFallback ⟨true, none⟩ .numbered (.whole 4303) (.str word) key resort =
        .ok word.toList := by
    intro word hword key resort
    have husable : (CharacterPolicy.sanitize ⟨true, none⟩ (.str word)).cutTo 4303 = word.toList ∧
        word.toList ≠ [] ∧ isTrapped .numbered word.toList = false := by
      revert word
      decide +kernel
    obtain ⟨hcut, hne, hfree⟩ := husable
    refine prepareFallback_of ?_ hne hfree key resort
    rw [prepare, Limit.cut_whole, hcut]
  have hlimit : Limit.ofJson numberlessSettings.maxLength = .ok (.whole 4303) := rfl
  have hattempts : Limit.ofJson numberlessSettings.maxAttempts = .ok (.whole 9) := rfl
  have hallow : allowanceOf numberlessSettings.compile numberlessSettings.allowedCharacters =
      .ok none := rfl
  have hreserved : ReservedNames.ofSettings numberlessSettings.reservedMention
      numberlessSettings.reservedRules = .ok .numbered := rfl
  exact build_of hlimit numberless.roomy hattempts rfl hallow hreserved rfl rfl
    (hprepare "user" (by simp) _ _) (hprepare "group" (by simp) _ _)

theorem bars_numberless : numberless.Bars "user".toList := by
  intro base hbase k
  have hall : ("user".toList.all fun c => isSeparator c || isAsciiWord c) = true := by
    decide +kernel
  have huser : Text.IsNarrow "user".toList := List.all_eq_true.1 hall
  exact ReservedNames.holds_numbered (huser.sublist hbase.subset).lowercase k

/-- Where its fallback name is not free, the resolver has nothing for a user without a name. -/
theorem resolve_numberless {sets : NameSets} (hs : s.Awaits (.memory sets))
    (htaken : sets.has "user".toList = true) :
    Ends (numberless.resolve (numberless.ownRequest .username (.str "") false)) s (fun _ _ => False)
      (fun f s' => f = tooManyDigits ∧ s'.Awaits (.memory sets)) := by
  have hroom : digitBound ≤ maxSuffix (Int.toNat 4303) := digitBound_le_maxSuffix_iff.2 (by decide)
  have htexts : numberless.cleanText (numberless.ownRequest .username (.str "") false) 4303 = [] ∧
      numberless.fallbackText (numberless.ownRequest .username (.str "") false) 4303 =
        "user".toList ∧ lowercase "user".toList = "user".toList := by
    decide +kernel
  have hlimit : (numberless.ownRequest .username (.str "") false).limit = .whole 4303 := rfl
  have hallow : (numberless.ownRequest .username (.str "") false).allowReserved = false := rfl
  generalize numberless.ownRequest .username (.str "") false = req at htexts hlimit hallow ⊢
  obtain ⟨hclean, hfallback, hlower⟩ := htexts
  refine resolve_bars hs hlimit hallow hroom hclean ?_ ?_
  · rw [hfallback]
    exact bars_numberless
  · rw [hfallback, hlower]
    exact htaken

end Resolver

end Namesake
