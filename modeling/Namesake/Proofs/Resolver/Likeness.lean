import Namesake.Proofs.Likeness
import Namesake.Resolver.Resolve

/-!
# What a resolver sees of its session

A resolver asks whether a name is used, claims names, reads and writes its caches and writes log
entries; and before the search without an end it asks how many claims may still be lost. It sees
nothing else of its session. So if these are answered alike in sessions that are like each other,
then every search and every resolution ends alike in them.

## Main definitions

* `Likeness.AnswersSearches`, `Likeness.Answers` — whatever a search or a resolver asks is answered
  alike in sessions that are like each other
* `Fault.isExhausted` — the fault of a resolution that has found no suffix

## Main results

* `Resolver.searchLinear_respects`, `Resolver.searchDoubling_respects` — searches end alike, and not
  with the fault of a resolution
* `Resolver.resolve_respects` — resolutions end alike
-/

open Namesake.Task

namespace Namesake

/-- Is it the fault of a resolution that has found no suffix? -/
def Fault.isExhausted : Fault → Bool
  | .exhausted .. => true
  | _ => false

/-- Whatever a search asks is answered alike in sessions that are like each other. Faults other than
that of a resolution are like themselves. -/
structure Likeness.AnswersSearches (L : Likeness) : Prop where
  isUsed : ∀ name, Respects L (Registry.isUsed name)
  claim : ∀ kind name display, Respects L (Registry.claim kind name display)
  lastSuffix : ∀ base, Respects L (Task.lastSuffix base)
  recordSuffix : ∀ base suffix, Respects L (Task.recordSuffix base suffix)
  cutLength? : ∀ base limit, Respects L (Task.cutLength? base limit)
  recordCut : ∀ base limit length, Respects L (Task.recordCut base limit length)
  losses : ∀ s s', L.sessions s s' → Resolver.pendingLosses s = Resolver.pendingLosses s'
  faults : ∀ f : Fault, f.isExhausted = false → L.faults f f

/-- Whatever a resolver asks is answered alike in sessions that are like each other. Beside what its
searches ask it only writes log entries. -/
structure Likeness.Answers (L : Likeness) : Prop extends L.AnswersSearches where
  note : ∀ entry, Respects L (Task.note entry)

/-! ### Faults of caches and cuts -/

theorem Memo.isExhausted_of_write {κ ν : Type} [DecidableEq κ] {m : Memo κ ν} {key : κ} {value : ν}
    {f : Fault} (h : m.write key value = .error f) : f.isExhausted = false := by
  cases m with
  | bounded c => cases h
  | cramped => cases h; rfl

section Cuts

variable {limit : Limit} {t : Text} {name : Text} {suffix : Quantity} {f : Fault}

theorem Limit.isExhausted_of_truncate (h : limit.truncate t = .error f) :
    f.isExhausted = false := by
  unfold Limit.truncate at h
  split at h
  · cases h
  · split at h
    · cases h
    · split at h
      · cases h
        rfl
      · split at h <;> cases h

theorem Limit.isExhausted_of_cut (h : limit.cut t = .error f) : f.isExhausted = false := by
  unfold Limit.cut at h
  split at h
  · cases h
  · cases htruncate : limit.truncate t with
    | ok v =>
      rw [htruncate] at h
      cases h
    | error g =>
      rw [htruncate] at h
      obtain rfl := Except.error.inj h
      exact isExhausted_of_truncate htruncate

theorem isExhausted_of_writeSuffix (h : writeSuffix suffix = .error f) : f.isExhausted = false := by
  unfold writeSuffix at h
  split at h
  · cases h
  · obtain rfl := Except.error.inj h
    rfl

theorem isExhausted_of_baseFor (h : baseFor name suffix limit = .error f) :
    f.isExhausted = false := by
  unfold baseFor at h
  cases htail : writeSuffix suffix with
  | ok tail =>
    rw [htail] at h
    exact Limit.isExhausted_of_cut h
  | error g =>
    rw [htail] at h
    obtain rfl := Except.error.inj h
    exact isExhausted_of_writeSuffix htail

theorem isExhausted_of_suffixed (h : suffixed name suffix limit = .error f) :
    f.isExhausted = false := by
  unfold suffixed at h
  cases hbase : baseFor name suffix limit with
  | ok base =>
    rw [hbase] at h
    cases h
  | error g =>
    rw [hbase] at h
    obtain rfl := Except.error.inj h
    exact isExhausted_of_baseFor hbase

theorem isExhausted_of_largestSuffix (h : largestSuffix limit = .error f) :
    f.isExhausted = false := by
  unfold largestSuffix at h
  split at h
  · cases h
  · dsimp only at h
    split at h
    · cases h
      rfl
    · cases h

theorem isExhausted_of_checkMeeting {a b : Quantity} (h : checkMeeting a b = .error f) :
    f.isExhausted = false := by
  unfold checkMeeting at h
  split at h
  · cases h
    rfl
  · cases h

theorem Resolver.isExhausted_of_cleanName {r : Resolver} {req : Request}
    (h : r.cleanName req = .error f) : f.isExhausted = false := by
  unfold cleanName at h
  dsimp only at h
  split at h
  · cases h
  · exact Limit.isExhausted_of_cut h

end Cuts

namespace Resolver

variable {L : Likeness}

section Searches

variable (hL : L.AnswersSearches) (r : Resolver) (req : Request)

include hL

/-! ### Asking for names -/

theorem isAvailable_respects (lower : Text) :
    Respects L (r.isAvailable lower req.allowReserved) := by
  unfold isAvailable
  split
  · exact .pure false
  · exact (hL.isUsed lower).bind fun used => .pure _

theorem tryClaim_respects (name lower : Text) : Respects L (r.tryClaim req name lower) := by
  unfold tryClaim
  refine (isAvailable_respects hL r req lower).bind fun b => ?_
  split
  · exact hL.claim req.kind lower (some name)
  · exact .pure false

theorem suffixAvailable_respects (name : Text) (suffix : Quantity) :
    Respects L (r.suffixAvailable req name suffix) := by
  unfold suffixAvailable
  refine (Respects.lift fun f hf => hL.faults f (isExhausted_of_suffixed hf)).bind fun found => ?_
  cases found with
  | none => exact .pure false
  | some candidate => exact isAvailable_respects hL r req _

/-! ### The linear search -/

theorem searchFrom_respects (uncut : Text) (budget : Nat) (name lower : Text) (suffix : Quantity)
    (used : Nat) (lastTried : Option (Text × Quantity)) :
    Respects L (r.searchFrom req uncut budget name lower suffix used lastTried) := by
  induction budget generalizing name lower suffix used lastTried with
  | zero =>
    cases lastTried with
    | none => exact .pure _
    | some last => exact (hL.recordSuffix last.1 last.2).bind fun _ => .pure _
  | succ budget ih =>
    rw [searchFrom]
    refine (Respects.lift fun f hf => hL.faults f (isExhausted_of_writeSuffix hf)).bind
      fun tail => ?_
    dsimp only
    split
    · refine (Respects.lift fun f hf => hL.faults f (Limit.isExhausted_of_cut hf)).bind
        fun cut => ?_
      split
      · exact .pure _
      · exact (hL.lastSuffix _).bind fun last => ih _ _ _ _ _
    · refine (tryClaim_respects hL r req _ _).bind fun won => ?_
      split
      · split
        · exact (hL.recordCut _ _ _).bind fun _ => (hL.recordSuffix _ _).bind fun _ => .pure _
        · exact (hL.recordSuffix _ _).bind fun _ => .pure _
      · exact ih _ _ _ _ _

theorem searchLinear_respects (name : Text) : Respects L (r.searchLinear req name) := by
  rw [searchLinear]
  refine (hL.cutLength? _ _).bind fun length? => ?_
  exact (hL.lastSuffix _).bind fun last => searchFrom_respects hL r req _ _ _ _ _ _ _

/-! ### The search without an end -/

theorem climb_respects (name : Text) (top lower upper attempts : Nat) :
    Respects L (r.climb req name top lower upper attempts) := by
  rw [climb]
  refine (suffixAvailable_respects hL r req name _).bind fun b => ?_
  split
  · exact .pure _
  · split
    · exact climb_respects name top upper _ _
    · exact .pure _
termination_by top - upper
decreasing_by omega

theorem bisect_respects (name : Text) (lower upper attempts : Nat) :
    Respects L (r.bisect req name lower upper attempts) := by
  rw [bisect]
  split
  · refine (suffixAvailable_respects hL r req name _).bind fun b => ?_
    split
    · exact bisect_respects name lower _ _
    · exact bisect_respects name _ upper _
  · exact .pure _
termination_by upper - lower
decreasing_by all_goals omega

theorem climbRounded_respects (name : Text) (top : Quantity) (fuel : Nat) (lower upper : Quantity)
    (attempts : Nat) : Respects L (r.climbRounded req name top fuel lower upper attempts) := by
  induction fuel generalizing lower upper attempts with
  | zero => exact .pure _
  | succ fuel ih =>
    rw [climbRounded]
    refine (suffixAvailable_respects hL r req name _).bind fun b => ?_
    split
    · exact .pure _
    · split
      · exact .pure _
      · exact ih _ _ _

theorem bisectRounded_respects (name : Text) (fuel : Nat) (lower upper : Quantity)
    (attempts : Nat) :
    Respects L (r.bisectRounded req name fuel lower upper attempts) := by
  induction fuel generalizing lower upper attempts with
  | zero => exact .pure _
  | succ fuel ih =>
    rw [bisectRounded]
    refine (Respects.lift fun f hf => hL.faults f (isExhausted_of_checkMeeting hf)).bind fun _ => ?_
    split
    · refine (suffixAvailable_respects hL r req name _).bind fun b => ?_
      split
      · exact ih _ _ _
      · exact ih _ _ _
    · exact .pure _

theorem offerAbove_respects (name : Text) (top lower attempts : Nat) :
    Respects L (r.offerAbove req name top lower attempts) := by
  rw [offerAbove]
  refine (climb_respects hL r req name _ _ _ _).bind fun p => ?_
  obtain ⟨_ | ⟨l, u⟩, n⟩ := p
  · exact .pure _
  · exact (bisect_respects hL r req name l u n).bind fun _ => .pure _

theorem offerRounded_respects (name : Text) (top lower : Quantity) (attempts : Nat) :
    Respects L (r.offerRounded req name top lower attempts) := by
  rw [offerRounded]
  refine (climbRounded_respects hL r req name _ _ _ _ _).bind fun p => ?_
  obtain ⟨_ | ⟨l, u⟩, n⟩ := p
  · exact .pure _
  · exact (bisectRounded_respects hL r req name _ l u n).bind fun _ => .pure _

theorem claimOr_respects (name : Text) (suffix : Quantity) (attempts : Nat)
    {more : Task (Option Found × Nat)} (hmore : Respects L more) :
    Respects L (claimOr req name suffix attempts more) := by
  rw [claimOr, claimSuffixed]
  refine Respects.bind ?_ fun found => ?_
  · refine (Respects.lift fun f hf => hL.faults f (isExhausted_of_baseFor hf)).bind fun base => ?_
    refine (hL.claim req.kind _ _).bind fun won => ?_
    split
    · exact (hL.recordSuffix _ _).bind fun _ => .pure _
    · exact .pure none
  · cases found with
    | some f => exact .pure _
    | none => exact hmore

theorem searchAbove_respects (name : Text) (top losses lower attempts : Nat) :
    Respects L (r.searchAbove req name top losses lower attempts) := by
  rw [searchAbove]
  refine (offerAbove_respects hL r req name top lower attempts).bind fun p => ?_
  obtain ⟨_ | suffix, n⟩ := p
  · exact .pure _
  · refine claimOr_respects hL req name _ _ ?_
    cases losses with
    | zero => exact .pure _
    | succ losses => exact searchAbove_respects name top losses suffix n

theorem searchRounded_respects (name : Text) (top : Quantity) (losses : Nat) (lower : Quantity)
    (attempts : Nat) : Respects L (r.searchRounded req name top losses lower attempts) := by
  rw [searchRounded]
  refine (offerRounded_respects hL r req name top lower attempts).bind fun p => ?_
  obtain ⟨_ | suffix, n⟩ := p
  · exact .pure _
  · refine claimOr_respects hL req name _ _ ?_
    cases losses with
    | zero => exact .pure _
    | succ losses => exact searchRounded_respects name top losses suffix n

theorem searchDoubling_respects (name : Text) : Respects L (r.searchDoubling req name) := by
  rw [searchDoubling]
  refine (Respects.lift fun f hf => hL.faults f (isExhausted_of_largestSuffix hf)).bind
    fun top => ?_
  refine (hL.lastSuffix _).bind fun lower => .get fun s s' hs => ?_
  -- both searches allow for as many lost claims
  rw [hL.losses s s' hs]
  dsimp only
  split
  · exact searchAbove_respects hL r req name _ _ _ _ s s' hs
  · exact searchRounded_respects hL r req name _ _ _ _ s s' hs

end Searches

/-! ### Resolutions -/

variable (hL : L.Answers) (r : Resolver) (req : Request)

include hL

theorem chosenFallback_respects : Respects L (r.chosenFallback req) := by
  unfold chosenFallback
  split
  · exact .pure _
  · refine (Respects.lift fun f hf => hL.faults f (Limit.isExhausted_of_cut hf)).bind fun name => ?_
    split
    · exact (hL.note _).bind fun _ => .pure _
    · exact .pure _

theorem fallbackFor_respects : Respects L (r.fallbackFor req) := by
  rw [fallbackFor]
  refine (chosenFallback_respects hL r req).bind fun chosen => ?_
  exact (Respects.lift fun f hf => hL.faults f (Limit.isExhausted_of_cut hf)).bind fun _ => .pure _

theorem finish_respects (name lower : Text) (suffix : Option Quantity) (usedFallback : Bool)
    (attempts : Nat) : Respects L (r.finish req name lower suffix usedFallback attempts) := by
  rw [finish]
  exact (hL.note _).bind fun _ => .pure _

variable (hexhausted : ∀ f : Fault, f.isExhausted = true → L.faults f f)

include hexhausted

theorem resolveByDoubling_respects (fallback : Text) (attempts : Nat) :
    Respects L (r.resolveByDoubling req fallback attempts) := by
  rw [resolveByDoubling]
  refine (hL.note _).bind fun _ => ?_
  refine (searchDoubling_respects hL.toAnswersSearches r req fallback).bind fun p => ?_
  obtain ⟨_ | f, more⟩ := p
  · exact (hL.note _).bind fun _ => .throw (hexhausted _ rfl)
  · exact finish_respects hL r req _ _ _ _ _

theorem resolveBySuffix_respects (name fallback : Text) (usedFallback : Bool) :
    Respects L (r.resolveBySuffix req name fallback usedFallback) := by
  rw [resolveBySuffix]
  refine (searchLinear_respects hL.toAnswersSearches r req name).bind fun p => ?_
  obtain ⟨_ | f, attempts⟩ := p
  · dsimp only
    split
    · exact resolveByDoubling_respects hL r req hexhausted fallback _
    · refine (hL.note _).bind fun _ => ?_
      refine (searchLinear_respects hL.toAnswersSearches r req fallback).bind fun p => ?_
      obtain ⟨_ | f, more⟩ := p
      · exact resolveByDoubling_respects hL r req hexhausted fallback _
      · exact finish_respects hL r req _ _ _ _ _
  · exact finish_respects hL r req _ _ _ _ _

/-- In sessions that are like each other a request is resolved alike. -/
theorem resolve_respects : Respects L (r.resolve req) := by
  rw [resolve]
  refine (fallbackFor_respects hL r req).bind fun fallback => ?_
  refine (Respects.lift fun f hf => hL.faults f (isExhausted_of_cleanName hf)).bind fun clean => ?_
  dsimp only
  generalize (if clean.isEmpty then fallback else clean) = name
  generalize clean.isEmpty = usedFallback
  refine (tryClaim_respects hL.toAnswersSearches r req _ _).bind fun won => ?_
  split
  · exact finish_respects hL r req _ _ _ _ _
  · split
    · exact resolveBySuffix_respects hL r req hexhausted _ _ _
    · exact resolveBySuffix_respects hL r req hexhausted _ _ _

end Resolver

end Namesake
