import Namesake.Proofs.Resolver.Course
import Namesake.Proofs.Resolver.Mirror

/-!
# Names and their lower-case forms

The form under which a name is claimed is the lower-case form of the name. The linear search does
not bring each of its candidates into lower case, but puts the suffix behind the lower-case form of
the base; lower case does not look beyond the separator, so that is the same.

So the names that are given differ even in lower case, and since all of them are composed, no two of
them are canonically equivalent. But a name is composed before it is brought into lower case, and
not again afterwards. A capital letter may have no composite with the mark behind it though the
small letter has one. Then the lower-case form of a composed name is not composed, and the
lower-case form of another name that is given may be canonically equivalent to it.

## Main definitions

* `Found.Keyed`, `ResolvedName.Keyed` — a name has been claimed in lower case
* `ResolvedName.Canonical` — and it is composed

## Main results

* `Resolver.resolve_in_lower_case` — the key of a name is its lower-case form, in every state
* `Team.run_names_unalike` — no two names are alike in lower case or equivalent, nor are their
  lower-case forms equivalent if these are composed
* `Team.run_names_equivalent` — they may be equivalent if they are not
-/

open Namesake.Task

namespace Namesake

open Unicode

/-! ### Keys -/

/-- The candidate has been claimed in lower case. -/
def Found.Keyed (f : Found) : Prop :=
  f.nameLower = lowercase f.name

/-- A search that finds nothing has claimed nothing. -/
theorem Found.nothing_keyed (attempts : Nat) :
    Results (pure (none, attempts)) fun p : Option Found × Nat => ∀ f ∈ p.1, f.Keyed :=
  .pure fun _ hf => by cases hf

/-- The name has been claimed in lower case. -/
def ResolvedName.Keyed (res : ResolvedName) : Prop :=
  res.nameLower = lowercase res.name

namespace Resolver

variable {r : Resolver} {req : Request} {name lower uncut : Text} {suffix : Quantity}

theorem finish_keyed (hkey : lower = lowercase name) (suffix? : Option Quantity)
    (usedFallback : Bool)
    (attempts : Nat) :
    Results (r.finish req name lower suffix? usedFallback attempts) ResolvedName.Keyed :=
  .after fun _ => .pure hkey

/-- The linear search carries the lower-case form of its base along, and puts every suffix behind
both. -/
theorem searchFrom_keyed {budget used : Nat} {lastTried : Option (Text × Quantity)}
    (hkey : lower = lowercase name) :
    Results (r.searchFrom req uncut budget name lower suffix used lastTried)
      fun p => ∀ f ∈ p.1, f.Keyed := by
  induction budget generalizing name lower suffix used lastTried with
  | zero =>
    cases lastTried with
    | none => exact Found.nothing_keyed _
    | some last => exact .after fun _ => Found.nothing_keyed _
  | succ budget ih =>
    by_cases hwritable : isWritable suffix = true
    swap
    · rw [searchFrom_of_not_writable hwritable]
      exact .throw _
    rw [searchFrom_of_writable hwritable]
    dsimp only
    split
    · -- the candidate does not fit: a shorter base is brought into lower case itself
      refine .after fun cut => ?_
      split
      · exact Found.nothing_keyed _
      · exact .after fun last => ih rfl
    · refine .after fun won => ?_
      split
      · have hfound :
            Found.Keyed ⟨name ++ suffixTail suffix, lower ++ suffixTail suffix, suffix⟩ := by
          rw [Found.Keyed, hkey]
          exact (lowercase_suffixed name suffix).symm
        have hlast : ∀ n : Nat, Results
            (do Task.recordSuffix lower suffix
                return (some (⟨name ++ suffixTail suffix, lower ++ suffixTail suffix, suffix⟩
                  : Found), n))
            fun p => ∀ f ∈ p.1, f.Keyed := by
          intro n
          refine .after fun _ => .pure ?_
          rintro f ⟨⟩
          exact hfound
        split
        · exact .after fun _ => hlast _
        · exact hlast _
      · exact ih hkey

theorem searchLinear_keyed (name : Text) :
    Results (r.searchLinear req name) fun p => ∀ f ∈ p.1, f.Keyed := by
  refine .after fun length? => ?_
  exact .after fun last => searchFrom_keyed rfl

/-- The search without an end brings the whole candidate into lower case. -/
theorem claimOr_keyed {attempts : Nat} {more : Task (Option Found × Nat)}
    (hmore : Results more fun p => ∀ f ∈ p.1, f.Keyed) :
    Results (claimOr req name suffix attempts more) fun p => ∀ f ∈ p.1, f.Keyed := by
  have hclaim : Results (claimSuffixed req name suffix) fun f? => ∀ f ∈ f?, f.Keyed := by
    refine .after fun base => .after fun won => ?_
    split
    · refine .after fun _ => .pure ?_
      rintro f ⟨⟩
      rfl
    · exact .pure fun f hf => by cases hf
  refine hclaim.bind fun found hfound => ?_
  cases found with
  | some f => exact .pure hfound
  | none => exact hmore

theorem searchAbove_keyed (top losses last attempts : Nat) :
    Results (r.searchAbove req name top losses last attempts) fun p => ∀ f ∈ p.1, f.Keyed := by
  rw [searchAbove]
  refine .after fun offer => ?_
  obtain ⟨_ | suffix, attempts⟩ := offer
  · exact Found.nothing_keyed _
  · -- if the claim is lost, the search goes on above the lost suffix, as often as that may happen
    refine claimOr_keyed ?_
    cases losses with
    | zero => exact Found.nothing_keyed _
    | succ losses => exact searchAbove_keyed top losses suffix attempts
termination_by losses

theorem searchRounded_keyed (top : Quantity) (losses : Nat) (last : Quantity) (attempts : Nat) :
    Results (r.searchRounded req name top losses last attempts) fun p => ∀ f ∈ p.1, f.Keyed := by
  rw [searchRounded]
  refine .after fun offer => ?_
  obtain ⟨_ | suffix, attempts⟩ := offer
  · exact Found.nothing_keyed _
  · refine claimOr_keyed ?_
    cases losses with
    | zero => exact Found.nothing_keyed _
    | succ losses => exact searchRounded_keyed top losses suffix attempts
termination_by losses

theorem searchDoubling_keyed (name : Text) :
    Results (r.searchDoubling req name) fun p => ∀ f ∈ p.1, f.Keyed := by
  refine .after fun top => .after fun last => .after fun s => ?_
  cases top with
  | real x => exact searchRounded_keyed _ _ _ _
  | whole top =>
    cases last with
    | real x => exact searchRounded_keyed _ _ _ _
    | whole last => exact searchAbove_keyed _ _ _ _

theorem resolveByDoubling_keyed (fallback : Text) (attempts : Nat) :
    Results (r.resolveByDoubling req fallback attempts) ResolvedName.Keyed := by
  refine .after fun _ => (searchDoubling_keyed fallback).bind fun p hp => ?_
  obtain ⟨_ | f, more⟩ := p
  · exact .after fun _ => .throw _
  · exact finish_keyed (hp f rfl) _ _ _

theorem resolveBySuffix_keyed (name fallback : Text) (usedFallback : Bool) :
    Results (r.resolveBySuffix req name fallback usedFallback) ResolvedName.Keyed := by
  refine (searchLinear_keyed name).bind fun p hp => ?_
  obtain ⟨_ | f, attempts⟩ := p
  · dsimp only
    split
    · exact resolveByDoubling_keyed _ _
    · refine .after fun _ => (searchLinear_keyed fallback).bind fun q hq => ?_
      obtain ⟨_ | f, more⟩ := q
      · exact resolveByDoubling_keyed _ _
      · exact finish_keyed (hq f rfl) _ _ _
  · exact finish_keyed (hp f rfl) _ _ _

/-- A name is claimed in lower case. -/
theorem resolve_keyed (r : Resolver) (req : Request) :
    Results (r.resolve req) ResolvedName.Keyed := by
  refine .after fun fallback => .after fun clean => .after fun won => ?_
  generalize (if clean.isEmpty then fallback else clean) = name
  split
  · exact finish_keyed rfl _ _ _
  · split
    · exact resolveBySuffix_keyed _ _ _
    · exact resolveBySuffix_keyed _ _ _

/-- The linear search puts a suffix behind the lower-case form of the base, and the search without
an end brings the suffixed base into lower case. That is the same for every base and suffix. So both
claim what they find in lower case, and every name is claimed in lower case, whatever the state. -/
theorem resolve_in_lower_case (r : Resolver) (req : Request) :
    (∀ base suffix, lowercase base ++ suffixTail suffix = lowercase (base ++ suffixTail suffix)) ∧
    (∀ base, Results (r.searchLinear req base) fun p => ∀ f ∈ p.1, f.nameLower = lowercase f.name) ∧
    (∀ base, Results (r.searchDoubling req base) fun p => ∀ f ∈ p.1,
      f.nameLower = lowercase f.name) ∧
    Results (r.resolve req) fun res => res.nameLower = lowercase res.name := by
  refine ⟨fun base suffix => ?_, fun base => ?_, fun base => ?_, ?_⟩
  · exact (lowercase_suffixed base suffix).symm
  · exact searchLinear_keyed base
  · exact searchDoubling_keyed base
  · exact resolve_keyed r req

end Resolver

/-- The name is composed, and it is claimed in lower case. -/
structure ResolvedName.Canonical (res : ResolvedName) : Prop where
  composed : IsComposed res.name
  lower : res.nameLower = lowercase res.name

/-- Under a whole limit, with usable fallback names and a cache of counts, every name is canonical.
-/
theorem Resolver.resolve_canonical {s s' : Session} {res : ResolvedName} {r : Resolver}
    {req : Request}
    (hr : r.Prepared) (hs : s.worker.suffixes.Counting) (hlimit : req.limit.isWhole = true)
    (hrun : r.resolve req s = .ok res s') : res.Canonical := by
  obtain ⟨n, hn⟩ : ∃ n, req.limit = .whole n := by
    cases hreq : req.limit with
    | whole n => exact ⟨n, rfl⟩
    | real x =>
      rw [hreq] at hlimit
      cases hlimit
  exact {
    composed := (resolve_tidy hr hs hn hrun).composed
    lower := (resolve_keyed r req s).of_ok hrun }

/-! ### Any number of resolutions -/

namespace Team

variable {t : Team} {c : Call} {calls : List Call} {a b : Award} {i j : Nat}

/-- Every member has usable fallback names and a cache of counts. -/
def Ready (t : Team) : Prop :=
  ∀ m ∈ t.members, m.1.Prepared ∧ m.2.suffixes.Counting

/-- A call under a whole limit leaves the members ready, and its name is canonical. -/
theorem call_canonical (h : t.Ready) (hlimit : c.request.limit.isWhole = true) :
    (t.call c).2.Ready ∧ ∀ a, (t.call c).1 = some a → a.result.Canonical := by
  rw [call_snd]
  unfold call
  cases hmember : t.members[c.member]? with
  | none => exact ⟨h, fun a ha => (by cases ha)⟩
  | some member =>
    obtain ⟨r, w⟩ := member
    obtain ⟨hr, hw⟩ := h _ (List.mem_of_getElem? hmember)
    have hw : (t.session c w).worker.suffixes.Counting := hw
    refine ⟨fun m hm => ?_, fun a ha => ?_⟩
    · rcases List.mem_or_eq_of_mem_set hm with hm | rfl
      · exact h m hm
      · exact ⟨hr, Resolver.resolve_counting hlimit hw⟩
    · dsimp only at ha
      cases hrun : r.resolve c.request (t.session c w) with
      | error f s =>
        rw [hrun] at ha
        cases ha
      | ok res s =>
        rw [hrun] at ha
        obtain rfl := Option.some.inj ha
        exact Resolver.resolve_canonical hr hw hlimit hrun

theorem run_canonical (h : t.Ready) (hlimits : ∀ c ∈ calls, c.request.limit.isWhole = true) :
    ∀ a ∈ (t.run calls).1, a.result.Canonical := by
  induction calls generalizing t with
  | nil => exact fun a ha => by cases ha
  | cons c calls ih =>
    obtain ⟨hcall, haward⟩ := call_canonical h (hlimits c List.mem_cons_self)
    intro a ha
    rcases List.mem_append.1 ha with ha | ha
    · exact haward a (Option.mem_toList.1 ha)
    · exact ih hcall (fun d hd => hlimits d (List.mem_cons_of_mem c hd)) a ha

/-- Accepted resolvers that have just begun are ready. -/
theorem ready_of_build (h : ∀ m ∈ t.members, ∃ settings, Resolver.build settings = .ok m) :
    t.Ready := by
  intro m hm
  obtain ⟨settings, hbuild⟩ := h m hm
  exact Resolver.build_spec hbuild

/-- Every name that is given is composed. Two names that are given by different calls differ even in
lower case, and so they are not canonically equivalent. Nor are their lower-case forms, as long as
both of these are composed. -/
theorem run_names_unalike (hbuilt : ∀ m ∈ t.members, ∃ settings, Resolver.build settings = .ok m)
    (hlimits : ∀ c ∈ calls, c.request.limit.isWhole = true) (hij : i ≠ j)
    (ha : (t.run calls).1[i]? = some a) (hb : (t.run calls).1[j]? = some b) :
    nfc a.result.name = a.result.name ∧
      lowercase a.result.name ≠ lowercase b.result.name ∧
      nfc a.result.name ≠ nfc b.result.name ∧
      (nfc (lowercase a.result.name) = lowercase a.result.name →
        nfc (lowercase b.result.name) = lowercase b.result.name →
        nfc (lowercase a.result.name) ≠ nfc (lowercase b.result.name)) := by
  have hready := ready_of_build hbuilt
  obtain ⟨hcomposed, hkey⟩ := run_canonical hready hlimits a (List.mem_of_getElem? ha)
  obtain ⟨hcomposed', hkey'⟩ := run_canonical hready hlimits b (List.mem_of_getElem? hb)
  have hlower : lowercase a.result.name ≠ lowercase b.result.name := by
    intro heq
    have hlength : i < ((t.run calls).1.map fun a => a.result.nameLower).length := by
      rw [List.length_map]
      exact (List.getElem?_eq_some_iff.1 ha).1
    refine hij ((List.getElem?_inj hlength (run_nodup t calls)).1 ?_)
    rw [List.getElem?_map, List.getElem?_map, ha, hb, Option.map_some, Option.map_some, hkey, hkey',
      heq]
  refine ⟨hcomposed, hlower, fun heq => hlower ?_, fun hlow hlow' heq => hlower ?_⟩
  · have hname : a.result.name = b.result.name := by
      rw [← show nfc _ = _ from hcomposed, heq, show nfc _ = _ from hcomposed']
    rw [hname]
  · rw [← hlow, heq, hlow']

/-- The usual resolver on an empty store. -/
def solo : Team :=
  ⟨(Session.idle .fresh none).shared, [(.standard, .standard)]⟩

theorem solo_built : ∀ m ∈ solo.members, ∃ settings, Resolver.build settings = .ok m := by
  intro m hm
  obtain rfl := List.mem_singleton.1 hm
  exact ⟨{}, Resolver.build_standard⟩

/-- A call of it for a user of this name. -/
def callFor (name : String) : Call :=
  ⟨0, { Request.ann with rawName := .str name }, .none, none, ""⟩

/-- Calls for one name in two spellings and two cases. -/
def oneName : List Call :=
  [callFor "A\u0308nn", callFor "änn"]

/-- Both spellings are composed, so the second name gets a suffix. -/
theorem run_names_unalike_oneName :
    ∃ a b, (solo.run oneName).1[0]? = some a ∧ (solo.run oneName).1[1]? = some b ∧
      a.result.name = "Änn".toList ∧ b.result.name = "änn_1".toList ∧
      nfc (lowercase a.result.name) ≠ nfc (lowercase b.result.name) := by
  have hnames : (solo.run oneName).1.map (fun a => a.result.name) =
      ["Änn".toList, "änn_1".toList] := by decide +kernel
  obtain ⟨a, rest, hrun, ha, hrest⟩ := List.map_eq_cons_iff.1 hnames
  obtain ⟨b, _, rfl, hb, -⟩ := List.map_eq_cons_iff.1 hrest
  have hlimits : ∀ c ∈ oneName, c.request.limit.isWhole = true := by decide
  have h0 : (solo.run oneName).1[0]? = some a := by rw [hrun]; rfl
  have h1 : (solo.run oneName).1[1]? = some b := by rw [hrun]; rfl
  refine ⟨a, b, h0, h1, ha, hb, ?_⟩
  refine (run_names_unalike solo_built hlimits Nat.zero_ne_one h0 h1).2.2.2 ?_ ?_
  · rw [ha]
    decide +kernel
  · rw [hb]
    decide +kernel

/-- Calls for a capital letter with a line below, which has no composite, and for the composite of
the small letter. -/
def twoLetters : List Call :=
  [callFor "H\u0331", callFor "\u1E96"]

/-- Both letters are given, each as it is, and in lower case they are canonically equivalent. -/
theorem run_names_equivalent :
    Resolver.standard.policy.unicode = true ∧
    (∀ m ∈ solo.members, m = (Resolver.standard, Worker.standard)) ∧
    Resolver.build {} = .ok (.standard, .standard) ∧
    (∀ kind name, solo.shared.store.hasAs kind name = false) ∧
    (∀ c ∈ twoLetters, c.Quiet) ∧
    ((solo.run twoLetters).1.map fun a => a.result.name) =
      ["H\u0331".toList, "\u1E96".toList] ∧
    nfc (lowercase "H\u0331".toList) = nfc (lowercase "\u1E96".toList) := by
  refine ⟨rfl, by simp [solo], Resolver.build_standard, Store.hasAs_fresh, ?_, by decide +kernel,
    by decide +kernel⟩
  intro c hc
  obtain rfl | rfl : c = callFor "H\u0331" ∨ c = callFor "\u1E96" := by simpa [twoLetters] using hc
  · exact ⟨rfl, rfl⟩
  · exact ⟨rfl, rfl⟩

end Team

end Namesake
