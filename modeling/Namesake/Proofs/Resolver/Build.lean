import Namesake.Proofs.Resolver.Resolve

/-!
# What a resolver is made with

Settings that are accepted give a resolver with usable fallback names and with empty caches. That is
what resolutions rely on, and nothing that a resolver does changes it.

## Main definitions

* `Resolver.Gives` — what accepted settings give, part by part
* `Resolver.standard`, `Worker.standard` — the resolver that the usual settings give
* `Session.idle`, `Request.ann` — a session at the beginning, and a plain request

## Main results

* `Resolver.build_spec` — an accepted resolver has usable fallback names and begins to count from
  the start
-/

namespace Namesake

namespace Resolver

variable {settings : ResolverSettings} {policy : CharacterPolicy} {reserved : ReservedNames}
variable {limit : Limit} {setting : Json} {key : String} {resort : Option Text} {name : Text}
variable {r : Resolver} {w : Worker}

/-- Steps that end with a result have one after the other. -/
theorem bind_eq_ok {α β : Type} {x : Except Fault α} {g : α → Except Fault β} {b : β} :
    x >>= g = .ok b ↔ ∃ a, x = .ok a ∧ g a = .ok b := by
  cases x <;> simp [bind, Except.bind]

/-- A check that ends with a fault has been passed wherever there is a result. -/
theorem check_eq_ok {α β : Type} {c : Prop} [Decidable c] {f : Fault} {g : α → Except Fault β}
    {x : Except Fault β} {b : β} :
    (if c then (throw f : Except Fault α) >>= g else x) = .ok b ↔ ¬ c ∧ x = .ok b := by
  by_cases hc : c
  · rw [if_pos hc]
    exact iff_of_false (fun h => by cases h) fun h => h.1 hc
  · rw [if_neg hc]
    exact (and_iff_right hc).symm

/-! ### The fallback names -/

theorem lastResort_tidy (p : CharacterPolicy) : p.Tidy lastResort :=
  CharacterPolicy.tidy_of_isAsciiWord (List.all_eq_true.1 (by decide))

/-- A fallback name that is accepted is what is made of the setting, or the last resort if that is
nothing. It has passed both checks. -/
theorem prepareFallback_eq_ok
    (h : prepareFallback policy reserved limit setting key resort = .ok name) :
    ∃ prepared, prepare policy setting limit = .ok prepared ∧
      name = (if prepared.isEmpty then resort.getD [] else prepared) ∧ name ≠ [] ∧
      isTrapped reserved name = false := by
  unfold prepareFallback at h
  obtain ⟨prepared, hprepared, h⟩ := bind_eq_ok.1 h
  dsimp only at h
  obtain ⟨hne, h⟩ := check_eq_ok.1 h
  obtain ⟨hfree, h⟩ := check_eq_ok.1 h
  obtain rfl := Except.ok.inj h
  exact ⟨prepared, hprepared, rfl, by simpa using hne, Bool.eq_false_iff.2 hfree⟩

/-- It has the shape of a name. -/
theorem prepareFallback_tidy
    (h : prepareFallback policy reserved limit setting key resort = .ok name)
    (hresort : ∀ t ∈ resort, policy.Tidy t) : policy.Tidy name ∧ name ≠ [] := by
  obtain ⟨prepared, hprepared, hname, hne, -⟩ := prepareFallback_eq_ok h
  refine ⟨?_, hne⟩
  rw [hname]
  split
  · cases resort with
    | none => exact CharacterPolicy.tidy_of_isAsciiWord fun c hc => by cases hc
    | some t => exact hresort t rfl
  · exact (CharacterPolicy.sanitize_tidy policy setting).cutAt hprepared

/-- A usable name is accepted as it is. -/
theorem prepareFallback_of (hprepare : prepare policy setting limit = .ok name) (hne : name ≠ [])
    (hfree : isTrapped reserved name = false) (key : String) (resort : Option Text) :
    prepareFallback policy reserved limit setting key resort = .ok name := by
  have hempty : name.isEmpty = false := List.isEmpty_eq_false_iff.2 hne
  refine bind_eq_ok.2 ⟨name, hprepare, ?_⟩
  simp only [hempty, hfree, Bool.false_eq_true, if_false]
  rfl

/-! ### The caches -/

/-- The cache that a setting asks for is an empty one. -/
theorem ofRoom_of_ofCapacity {κ ν : Type} {setting : Json} {c : Memo κ ν}
    (h : Memo.ofCapacity setting = .ok c) : ∃ q, Limit.ofJson setting = .ok q ∧ c = .ofRoom q := by
  unfold Memo.ofCapacity at h
  obtain ⟨q, hq, h⟩ := bind_eq_ok.1 h
  split at h
  · cases h
  · exact ⟨q, hq, (Except.ok.inj h).symm⟩

/-- An empty cache has nothing but counts. -/
theorem counting_of_ofCapacity {capacity : Json} {c : SuffixCache}
    (h : Memo.ofCapacity capacity = .ok c) : c.Counting := by
  obtain ⟨q, -, rfl⟩ := ofRoom_of_ofCapacity h
  unfold Memo.ofRoom
  split
  · exact fun e he => by cases he
  · split
    · trivial
    · exact fun e he => by cases he

/-! ### Accepted settings -/

/-- What accepted settings give, part by part. -/
structure Gives (settings : ResolverSettings) (r : Resolver) (w : Worker) : Prop where
  limit : Limit.ofJson settings.maxLength = .ok r.limit
  maxAttempts : (Limit.ofJson settings.maxAttempts).map attemptsBelow = .ok r.maxAttempts
  policy : (allowanceOf settings.compile settings.allowedCharacters).map
    (fun allow => ⟨settings.unicodeNames.truthy, allow⟩) = .ok r.policy
  reserved :
    ReservedNames.ofSettings settings.reservedMention settings.reservedRules = .ok r.reserved
  suffixes : Memo.ofCapacity settings.suffixCacheSize = .ok w.suffixes
  truncations : Memo.ofCapacity settings.truncationCacheSize = .ok w.truncations
  fallbackUsername : prepareFallback r.policy r.reserved r.limit settings.fallbackUsername
    "fallback-username" (some lastResort) = .ok r.fallbackUsername
  fallbackGroupName : prepareFallback r.policy r.reserved r.limit settings.fallbackGroupName
    "fallback-group-name" none = .ok r.fallbackGroupName
  contention : w.contention = .none
  remembered : r.settings = settings

theorem Gives.unicode (h : Gives settings r w) :
    r.policy.unicode = settings.unicodeNames.truthy := by
  have hpolicy := h.policy
  cases hallow : allowanceOf settings.compile settings.allowedCharacters with
  | error f =>
    rw [hallow] at hpolicy
    cases hpolicy
  | ok allow =>
    rw [hallow] at hpolicy
    rw [← Except.ok.inj hpolicy]

theorem build_gives (h : build settings = .ok (r, w)) : Gives settings r w := by
  unfold build at h
  obtain ⟨limit, hlimit, h⟩ := bind_eq_ok.1 h
  split at h
  · cases h
  · obtain ⟨attempts, hattempts, h⟩ := bind_eq_ok.1 h
    dsimp only at h
    obtain ⟨-, h⟩ := check_eq_ok.1 h
    obtain ⟨allow, hallow, h⟩ := bind_eq_ok.1 h
    obtain ⟨reserved, hreserved, h⟩ := bind_eq_ok.1 h
    obtain ⟨suffixes, hsuffixes, h⟩ := bind_eq_ok.1 h
    obtain ⟨truncations, htruncations, h⟩ := bind_eq_ok.1 h
    obtain ⟨username, husername, h⟩ := bind_eq_ok.1 h
    obtain ⟨groupName, hgroupName, h⟩ := bind_eq_ok.1 h
    obtain ⟨rfl, rfl⟩ := Prod.mk.inj (Except.ok.inj h)
    exact ⟨hlimit, by rw [hattempts]; rfl, by rw [hallow]; rfl, hreserved, hsuffixes, htruncations,
      husername, hgroupName, rfl, rfl⟩

/-- Settings that are accepted give usable fallback names, and a cache without entries. -/
theorem build_spec (h : build settings = .ok (r, w)) : r.Prepared ∧ w.suffixes.Counting := by
  have hgives := build_gives h
  refine ⟨fun kind => ?_, counting_of_ofCapacity hgives.suffixes⟩
  cases kind with
  | username =>
    refine prepareFallback_tidy hgives.fallbackUsername fun t ht => ?_
    obtain rfl := Option.some.inj ht
    exact lastResort_tidy _
  | groupName => exact prepareFallback_tidy hgives.fallbackGroupName fun t ht => by cases ht

/-- A resolver remembers the settings that it was made from. -/
theorem settings_of_build (h : build settings = .ok (r, w)) : r.settings = settings :=
  (build_gives h).remembered

/-- Settings are accepted if each of them is, and the resolver is made of what they give. -/
theorem build_of {limit attempts : Limit} {allow : Option (Text → Bool)} {reserved : ReservedNames}
    {suffixes : SuffixCache} {truncations : TruncationCache} {username groupName : Text}
    (hlimit : Limit.ofJson settings.maxLength = .ok limit) (hroomy : limit.isShort = false)
    (hattempts : Limit.ofJson settings.maxAttempts = .ok attempts)
    (hpositive : attempts.lt 1 = false)
    (hallow : allowanceOf settings.compile settings.allowedCharacters = .ok allow)
    (hreserved :
      ReservedNames.ofSettings settings.reservedMention settings.reservedRules = .ok reserved)
    (hsuffixes : Memo.ofCapacity settings.suffixCacheSize = .ok suffixes)
    (htruncations : Memo.ofCapacity settings.truncationCacheSize = .ok truncations)
    (husername : prepareFallback ⟨settings.unicodeNames.truthy, allow⟩ reserved limit
      settings.fallbackUsername "fallback-username" (some lastResort) = .ok username)
    (hgroupName : prepareFallback ⟨settings.unicodeNames.truthy, allow⟩ reserved limit
      settings.fallbackGroupName "fallback-group-name" none = .ok groupName) :
    build settings = .ok
      (⟨⟨settings.unicodeNames.truthy, allow⟩, reserved, limit, attemptsBelow attempts, username,
        groupName, settings, hroomy⟩, ⟨.none, suffixes, truncations⟩) := by
  rw [build, hlimit]
  simp only [Bind.bind, Except.bind]
  split
  · rename_i hshort
    rw [hshort] at hroomy
    cases hroomy
  · rw [hattempts, hallow, hreserved, hsuffixes, htruncations]
    simp only [hpositive, husername, hgroupName, Bool.false_eq_true, if_false]
    rfl

end Resolver

/-! ### The usual settings -/

/-- The resolver that the usual settings give. -/
def Resolver.standard : Resolver :=
  ⟨⟨true, none⟩, .none, .whole defaultMaxLength, 500, "user".toList, "group".toList, {}, rfl⟩

/-- What it keeps for itself at the beginning. -/
def Worker.standard : Worker :=
  ⟨.none, .bounded (.empty SuffixCache.defaultCapacity),
    .bounded (.empty TruncationCache.defaultCapacity)⟩

/-- A session at the beginning, with the usual caches and with nobody interfering. -/
def Session.idle (store : Store) (outage : Outage) : Session :=
  ⟨⟨store, outage, [], false, "used-names", ""⟩, .standard⟩

/-- The request of a user for the name Ann. -/
def Request.ann : Request :=
  ⟨.username, .str "Ann", .str "user", .whole defaultMaxLength, false, rfl⟩

theorem Resolver.build_standard : Resolver.build {} = .ok (.standard, .standard) := rfl

end Namesake
