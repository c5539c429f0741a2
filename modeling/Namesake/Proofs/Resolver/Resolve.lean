import Namesake.Proofs.Name.Shape
import Namesake.Proofs.Resolver.Search

/-!
# What a resolution does

A resolution that ends with a result has claimed the name of the result, and no other. The name is a
cut of the clean raw name or of the fallback name, perhaps with a suffix behind it. A resolution
that ends with a fault has claimed nothing, with the one exception that searches make.

## Main definitions

* `Resolver.Prepared` — the configured fallback names of a resolver are usable
* `ResolvedName.Suits` — a result is one that a request may have
* `Session.Resolves` — the name of a result is claimed

## Main results

* `Resolver.fallbackFor_ends` — the fallback name for a request is usable
* `Resolver.resolve_ends` — the ends of a resolution
-/

open Namesake.Task

namespace Namesake

open Unicode

/-- The configured fallback names have the shape of names. -/
def Resolver.Prepared (r : Resolver) : Prop :=
  ∀ kind, r.policy.Tidy (r.fallbackOf kind) ∧ r.fallbackOf kind ≠ []

/-- What the name of a result is made from: the fallback name, or the clean raw name. -/
def Resolver.sourceOf (r : Resolver) (req : Request) (fallback : Text) (usedFallback : Bool) :
    Text :=
  if usedFallback then fallback else r.policy.sanitize req.rawName

/-- The result is one that the request may have, if the fallback name is the given one. -/
structure ResolvedName.Suits (counting : Prop) (r : Resolver) (req : Request) (fallback : Text)
    (res : ResolvedName) : Prop where
  kind : res.kind = req.kind
  made : ∃ base, BaseOf req (r.sourceOf req fallback res.usedFallback) base ∧
    res.name = base ++ res.suffix.elim [] suffixTail
  fits : ∀ n, req.limit = .whole n → (fallback.graphemeLength : Int) ≤ n →
    (res.name.graphemeLength : Int) ≤ n
  allowed : req.allowReserved = false → r.reserved.holds res.nameLower = false
  counted : counting → ∀ suffix ∈ res.suffix, suffix.IsSuffix

/-- The name of the result is claimed for the request. -/
def Session.Resolves (counting : Prop) (r : Resolver) (req : Request) (fallback : Text)
    (s s' : Session) (res : ResolvedName) : Prop :=
  s.Claims counting s' req.kind res.nameLower res.name ∧ res.Suits counting r req fallback

section Results

variable {counting : Prop} {r : Resolver} {req : Request} {s s' s'' : Session} {res : ResolvedName}
variable {name fallback : Text} {f : Found} {usedFallback : Bool}

/-- A resolution that goes on after others may have taken names ends as one that began before. -/
theorem Session.Waits.resolution {t : Task ResolvedName} (h : s.Waits counting s')
    (ht : Ends t s' (fun res s'' => s'.Resolves counting r req fallback s'' res)
      (fun f s'' => s'.Fails counting s'' req.kind f)) :
    Ends t s' (fun res s'' => s.Resolves counting r req fallback s'' res)
      (fun f s'' => s.Fails counting s'' req.kind f) :=
  ht.mono (fun _ _ hres => ⟨h.claims hres.1, hres.2⟩) (fun _ _ hf => h.fails hf)

/-- What the search behind a name finds makes a result if the name stands for its source. -/
theorem Found.Suits.resolved (h : f.Suits counting r req name)
    (hname : BaseOf req (r.sourceOf req fallback usedFallback) name) :
    ResolvedName.Suits counting r req fallback
      ⟨f.name, f.nameLower, req.kind, some f.suffix, usedFallback⟩ where
  kind := rfl
  made := by
    obtain ⟨base, hbase, hmade⟩ := h.made
    exact ⟨base, hname.trans hbase, hmade⟩
  fits := fun n hn _ => h.fits n hn
  allowed := h.allowed
  counted := by
    intro hc suffix hsuffix
    obtain rfl := Option.some.inj hsuffix
    exact h.counted hc

end Results

namespace Resolver

variable {counting : Prop} {r : Resolver} {req : Request} {s : Session} {name fallback : Text}

/-! ### The fallback name -/

/-- The chosen fallback name has the shape of a name if the configured ones have. -/
theorem chosenFallback_ends :
    Ends (r.chosenFallback req) s
      (fun name s' => s.Looks s' ∧ (r.Prepared → r.policy.Tidy name ∧ name ≠ []))
      (fun _ s' => s.Looks s') := by
  unfold chosenFallback
  split
  · exact ⟨.refl s, fun hr => hr req.kind⟩
  · rw [ends_bind, ends_lift]
    refine ⟨fun name hname => ?_, fun _ _ => .refl s⟩
    split
    · rw [ends_bind]
      refine (Registry.note_ends _).mono (fun _ s₁ h₁ => ?_) (fun _ _ h => h.elim)
      exact ⟨h₁, fun hr => hr req.kind⟩
    · rename_i husable
      have hne : name ≠ [] := by
        rintro rfl
        exact husable rfl
      exact ⟨.refl s, fun _ => ⟨(CharacterPolicy.sanitize_tidy _ _).cutAt hname, hne⟩⟩

/-- The fallback name for a request is usable: it is never empty, and under a whole limit it has the
shape of a name and keeps the limit. -/
theorem fallbackFor_ends :
    Ends (r.fallbackFor req) s
      (fun name s' => s.Looks s' ∧ name ≠ [] ∧ ∀ n, req.limit = .whole n → r.Prepared →
        r.policy.Tidy name ∧ (name.graphemeLength : Int) ≤ n)
      (fun _ s' => s.Looks s') := by
  rw [fallbackFor, ends_bind]
  refine chosenFallback_ends.mono (fun chosen s₁ h₁ => ?_) (fun _ _ h => h)
  obtain ⟨hlook, hchosen⟩ := h₁
  rw [ends_bind, ends_lift]
  refine ⟨fun name hname => ?_, fun _ _ => hlook⟩
  -- if nothing were left of the name, the last resort would step in
  have hne : (if name.isEmpty then lastResort else name) ≠ [] := by
    split
    · decide
    · rename_i hempty
      simpa using hempty
  refine ⟨hlook, hne, fun n hn hr => ?_⟩
  obtain ⟨htidy, hchosenNe⟩ := hchosen hr
  have hlimit := req.le_limit hn
  rw [hn, Limit.cut_whole] at hname
  obtain rfl := Except.ok.inj hname
  -- the limit leaves room for something of the chosen name, so it is not the last resort
  have hcutNe :=
    htidy.cutTo_ne_nil hchosenNe (show (2 : Int) ≤ n by unfold minMaxLength at hlimit; omega)
  have hlen := Text.graphemeLength_cutTo_le chosen n
  rw [if_neg (by simpa using hcutNe)]
  exact ⟨htidy.cut (Text.isCutOf_cutTo hcutNe), by unfold minMaxLength at hlimit; omega⟩

/-! ### The end of a search -/

theorem finish_ends (lower : Text) (suffix : Option Quantity) (usedFallback : Bool)
    (attempts : Nat) :
    Ends (r.finish req name lower suffix usedFallback attempts) s
      (fun res s' => s.Looks s' ∧ res = ⟨name, lower, req.kind, suffix, usedFallback⟩)
      (fun _ _ => False) := by
  rw [finish, ends_bind]
  exact (Registry.note_ends _).mono (fun _ _ h => ⟨h, rfl⟩) (fun _ _ h => h)

/-- What a search has found is the result. -/
theorem finishFound_ends {m : Session} {f : Found} {usedFallback : Bool} (attempts : Nat)
    (hname : BaseOf req (r.sourceOf req fallback usedFallback) name)
    (hf : s.Finds counting r req name m (some f)) :
    Ends (r.finish req f.name f.nameLower (some f.suffix) usedFallback attempts) m
      (fun res s' => s.Resolves counting r req fallback s' res)
      (fun e s' => s.Fails counting s' req.kind e) := by
  refine (finish_ends _ _ _ _).mono (fun res s' h' => ?_) (fun _ _ h => h.elim)
  obtain ⟨hlook, rfl⟩ := h'
  exact ⟨hf.1.remembers hlook.remembers, hf.2.resolved hname⟩

theorem resolveByDoubling_ends (hcounting : counting → req.limit.isWhole = true)
    (hs : s.Counts counting) (hfallback : fallback ≠ []) (attempts : Nat) :
    Ends (r.resolveByDoubling req fallback attempts) s
      (fun res s' => s.Resolves counting r req fallback s' res)
      (fun e s' => s.Fails counting s' req.kind e) := by
  rw [resolveByDoubling, ends_bind]
  refine (Registry.note_ends _).mono (fun _ s₁ h₁ => ?_) (fun _ _ h => h.elim)
  rw [ends_bind]
  have hwait : s.Waits counting s₁ := h₁.waits
  refine (searchDoubling_ends hcounting (hwait.counts hs)).mono (fun p s₂ h₂ => ?_)
    (fun _ _ h => hwait.fails h)
  obtain ⟨_ | f, more⟩ := p
  · have hwait' : s.Waits counting s₂ := hwait.trans h₂
    dsimp only
    rw [ends_bind]
    refine (Registry.note_ends _).mono (fun _ s₃ h₃ => ?_) (fun _ _ h => h.elim)
    rw [ends_throw]
    exact Or.inl (hwait'.trans h₃.waits)
  · exact finishFound_ends _ (BaseOf.refl hfallback) (hwait.finds h₂)

theorem resolveBySuffix_ends (hcounting : counting → req.limit.isWhole = true)
    (hs : s.Counts counting) (hfallback : fallback ≠ []) {usedFallback : Bool}
    (hname : BaseOf req (r.sourceOf req fallback usedFallback) name) :
    Ends (r.resolveBySuffix req name fallback usedFallback) s
      (fun res s' => s.Resolves counting r req fallback s' res)
      (fun e s' => s.Fails counting s' req.kind e) := by
  rw [resolveBySuffix, ends_bind]
  refine (searchLinear_ends hs hname.nonempty).mono (fun p s₁ h₁ => ?_) (fun _ _ h => h)
  obtain ⟨_ | f, attempts⟩ := p
  · -- the linear search has given up
    have hwait : s.Waits counting s₁ := h₁
    dsimp only
    split
    · exact hwait.resolution (resolveByDoubling_ends hcounting (hwait.counts hs) hfallback _)
    · rw [ends_bind]
      refine (Registry.note_ends _).mono (fun _ s₂ h₂ => ?_) (fun _ _ h => h.elim)
      have hwait' : s.Waits counting s₂ := hwait.trans h₂.waits
      rw [ends_bind]
      refine (searchLinear_ends (hwait'.counts hs) hfallback).mono (fun p s₃ h₃ => ?_)
        (fun _ _ h => hwait'.fails h)
      have hfinds := hwait'.finds h₃
      obtain ⟨_ | f, more⟩ := p
      · have hwait'' : s.Waits counting s₃ := hfinds
        exact hwait''.resolution (resolveByDoubling_ends hcounting (hwait''.counts hs) hfallback _)
      · exact finishFound_ends _ (BaseOf.refl hfallback) hfinds
  · exact finishFound_ends _ hname h₁

/-- The name that a resolution begins with: the clean raw name, or else the fallback name. Under a
whole limit it keeps the limit if the fallback name does. -/
theorem startName_spec {clean : Text} (hclean : r.cleanName req = .ok clean)
    (hfallback : fallback ≠ []) :
    BaseOf req (r.sourceOf req fallback clean.isEmpty) (if clean.isEmpty then fallback else clean) ∧
      ∀ n, req.limit = .whole n → (fallback.graphemeLength : Int) ≤ n →
        ((if clean.isEmpty then fallback else clean).graphemeLength : Int) ≤ n := by
  by_cases hempty : clean.isEmpty = true
  · rw [sourceOf, if_pos hempty, if_pos hempty]
    exact ⟨.refl hfallback, fun _ _ h => h⟩
  · rw [sourceOf, if_neg hempty, if_neg hempty]
    have hne : clean ≠ [] := by simpa using hempty
    unfold cleanName at hclean
    dsimp only at hclean
    split at hclean
    · exact absurd (Except.ok.inj hclean).symm hne
    · refine ⟨.ofCut hclean hne id, fun n hn _ => ?_⟩
      rw [hn, Limit.cut_whole] at hclean
      obtain rfl := Except.ok.inj hclean
      have hlen := Text.graphemeLength_cutTo_le (r.policy.sanitize req.rawName) n
      have hlimit := req.le_limit hn
      omega

/-- A resolution ends with a result whose name is claimed, or it fails. -/
theorem resolve_ends (hcounting : counting → req.limit.isWhole = true) (hs : s.Counts counting) :
    Ends (r.resolve req) s
      (fun res s' => ∃ fallback m, r.fallbackFor req s = .ok fallback m ∧
        s.Resolves counting r req fallback s' res)
      (fun e s' => s.Fails counting s' req.kind e) := by
  rw [resolve, ends_bind]
  refine (fallbackFor_ends.and (ends_self _ s)).mono (fun fallback s₁ h₁ => ?_)
    (fun _ _ h => Or.inl h.1.waits)
  obtain ⟨⟨hlook, hfallback, -⟩, hrun⟩ := h₁
  rw [ends_bind, ends_lift]
  refine ⟨fun clean hclean => ?_, fun _ _ => Or.inl hlook.waits⟩
  obtain ⟨hname, hfits⟩ := startName_spec hclean hfallback
  have hgo : ∀ {m : Session} {name : Text} {usedFallback : Bool}, s.Waits counting m →
      BaseOf req (r.sourceOf req fallback usedFallback) name →
      Ends (r.resolveBySuffix req name fallback usedFallback) m
        (fun res s' => ∃ fallback m, r.fallbackFor req s = .ok fallback m ∧
          s.Resolves counting r req fallback s' res)
        (fun e s' => s.Fails counting s' req.kind e) := by
    intro m name usedFallback hwait hname
    have hsuffix := resolveBySuffix_ends hcounting (hwait.counts hs) hfallback hname
    exact (hwait.resolution hsuffix).mono (fun _ _ h => ⟨fallback, s₁, hrun, h⟩) (fun _ _ h => h)
  dsimp only
  generalize (if clean.isEmpty then fallback else clean) = name at hname hfits ⊢
  generalize clean.isEmpty = usedFallback at hname ⊢
  rw [ends_bind]
  refine tryClaim_ends.mono (fun won s₂ h₂ => ?_) (fun _ _ h => Or.inl (hlook.waits.trans h))
  cases won with
  | true =>
    -- the common case: the name is free as it is
    obtain ⟨hallowed, hclaim⟩ := h₂
    refine (finish_ends _ _ _ _).mono (fun res s' h' => ?_) (fun _ _ h => h.elim)
    obtain ⟨hlook', rfl⟩ := h'
    refine ⟨fallback, s₁, hrun, (hlook.waits.claims hclaim).remembers hlook'.remembers, ?_⟩
    exact {
      kind := rfl
      made := ⟨_, hname, (List.append_nil _).symm⟩
      fits := hfits
      allowed := hallowed
      counted := fun _ _ h => by cases h }
  | false =>
    have hwait : s.Waits counting s₂ := hlook.waits.trans h₂
    rw [if_neg Bool.false_ne_true]
    split
    · -- no suffix escapes a rule that takes the name, so the fallback name stands in for it
      exact hgo hwait (BaseOf.refl hfallback)
    · exact hgo hwait hname

end Resolver

end Namesake
