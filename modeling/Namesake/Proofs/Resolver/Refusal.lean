import Namesake.Config.Setting
import Namesake.Proofs.Resolver.Build

/-!
# Settings that are not accepted

Whatever the variables of an environment hold, a resolver gets whole numbers for its limits and
capacities from them, and texts for the rest: what cannot be read is replaced by a default. So no
setting is of the wrong sort, and a resolver is refused because of what its settings say. They are
checked one after the other, and the first check that is not passed tells why. All of these faults
are about the configuration, but for two: a pattern is refused by its compiler, with a fault of
that, and a capacity that is negative is a value out of range.

## Main definitions

* `ResolverSettings.Read` — settings as an environment gives them
* `ResolverSettings.RefusesPattern` — the compiler refuses the pattern for admitted characters
* `ResolverSettings.AsksNegative` — the checks are passed as far as the capacities, and one of these
  is negative
* `ResolverSettings.usual` — the settings of an environment that says nothing about them
* `Resolver.Refusal` — why settings are not accepted

## Main results

* `ResolverSettings.ofVariables_read` — every environment gives such settings
* `Resolver.refusal_of_build` — settings that are not accepted are refused for one of these reasons
-/

namespace Namesake

open Unicode

/-! ### Settings of an environment -/

/-- The settings are as an environment gives them, with the given numbers. -/
structure ResolverSettings.Read (settings : ResolverSettings)
    (n attempts suffixes truncations : Int) :
    Prop where
  maxLength : settings.maxLength = .int n
  maxAttempts : settings.maxAttempts = .int attempts
  suffixCacheSize : settings.suffixCacheSize = .int suffixes
  truncationCacheSize : settings.truncationCacheSize = .int truncations
  reservedMention : ∃ word, settings.reservedMention = .str word
  reservedRules : ∃ rules, settings.reservedRules = .arr rules
  allowedCharacters : settings.allowedCharacters = .null ∨
    ∃ pattern, settings.allowedCharacters = .str pattern

variable {s : Setting}

/-- A setting that is read as a whole number is one, whatever the environment. -/
theorem Setting.ofVariables_int (hreading : s.reading = .int) (hdefault : ∃ d, s.default = .int d)
    (v : Variables) : ∃ n, s.ofVariables v = .ok (.int n) := by
  obtain ⟨d, hd⟩ := hdefault
  rw [ofVariables, interpret, hreading, hd]
  cases v.parameter? s.key with
  | none => exact ⟨d, rfl⟩
  | some text =>
    -- a text that denotes no number gives the default
    show ∃ n, Except.ok (((Conversion.wholeNumber? text.toList).map Json.int).getD (.int d)) = _
    cases Conversion.wholeNumber? text.toList with
    | none => exact ⟨d, rfl⟩
    | some n => exact ⟨n, rfl⟩

/-- A setting that is read as it is found is a text. -/
theorem Setting.ofVariables_text (hreading : s.reading = .text) (hdefault : ∃ d, s.default = .str d)
    (v : Variables) : ∃ text, s.ofVariables v = .ok (.str text) := by
  obtain ⟨d, hd⟩ := hdefault
  rw [ofVariables, interpret, hreading, hd]
  cases v.parameter? s.key with
  | none => exact ⟨d, rfl⟩
  | some text => exact ⟨text, rfl⟩

theorem Setting.ofVariables_bool (hreading : s.reading = .bool) (v : Variables) :
    ∃ value, s.ofVariables v = .ok value := by
  rw [ofVariables, interpret, hreading]
  exact ⟨_, rfl⟩

theorem Setting.reservedUsernames_ofVariables (v : Variables) :
    ∃ rules, reservedUsernames.ofVariables v = .ok (.arr rules) := by
  unfold ofVariables
  cases v.parameter? reservedUsernames.key with
  | none => exact ⟨_, rfl⟩
  | some text => exact ⟨_, rfl⟩

theorem Setting.allowedCharacters_ofVariables (v : Variables) :
    ∃ value, allowedCharacters.ofVariables v = .ok value ∧
      (value = .null ∨ ∃ text, value = .str text) := by
  unfold ofVariables
  cases v.parameter? allowedCharacters.key with
  | none => exact ⟨_, rfl, .inl rfl⟩
  | some text =>
    refine ⟨if (Json.str text).truthy then .str text else .null, rfl, ?_⟩
    split
    · exact .inr ⟨text, rfl⟩
    · exact .inl rfl

/-- Every environment gives settings of the right sorts. -/
theorem ResolverSettings.ofVariables_read (v : Variables) (compile : PatternCompiler) :
    ∃ settings n attempts suffixes truncations, ofVariables v compile = .ok settings ∧
      settings.compile = compile ∧ settings.Read n attempts suffixes truncations := by
  obtain ⟨mention, hmention⟩ := Setting.hereMention.ofVariables_text rfl ⟨_, rfl⟩ v
  obtain ⟨rules, hrules⟩ := Setting.reservedUsernames_ofVariables v
  obtain ⟨username, husername⟩ := Setting.fallbackUsername.ofVariables_text rfl ⟨_, rfl⟩ v
  obtain ⟨groupName, hgroupName⟩ := Setting.fallbackGroupName.ofVariables_text rfl ⟨_, rfl⟩ v
  obtain ⟨n, hn⟩ := Setting.maxNameLength.ofVariables_int rfl ⟨_, rfl⟩ v
  obtain ⟨attempts, hattempts⟩ := Setting.maxAttempts.ofVariables_int rfl ⟨_, rfl⟩ v
  obtain ⟨suffixes, hsuffixes⟩ := Setting.suffixCacheSize.ofVariables_int rfl ⟨_, rfl⟩ v
  obtain ⟨truncations, htruncations⟩ := Setting.truncationCacheSize.ofVariables_int rfl ⟨_, rfl⟩ v
  obtain ⟨unicode, hunicode⟩ := Setting.unicodeUsernames.ofVariables_bool rfl v
  obtain ⟨allowed, hallowed, hsort⟩ := Setting.allowedCharacters_ofVariables v
  -- what has been read, put together
  let settings : ResolverSettings :=
    { compile, reservedMention := .str mention, reservedRules := .arr rules,
      fallbackUsername := .str username, fallbackGroupName := .str groupName,
      maxLength := .int n, maxAttempts := .int attempts,
      suffixCacheSize := .int suffixes, truncationCacheSize := .int truncations,
      unicodeNames := unicode, allowedCharacters := allowed }
  refine ⟨settings, n, attempts, suffixes, truncations, ?_, rfl,
    ⟨rfl, rfl, rfl, rfl, ⟨mention, rfl⟩, ⟨rules, rfl⟩, hsort⟩⟩
  rw [ofVariables, hmention, hrules, husername, hgroupName, hn, hattempts, hsuffixes, htruncations,
    hunicode, hallowed]
  rfl

/-- The settings that an environment gives if it says nothing about them. -/
def ResolverSettings.usual : ResolverSettings :=
  { reservedMention := .str "here", reservedRules := .ofStrings Setting.defaultReserved }

theorem ResolverSettings.ofVariables_nil : ofVariables [] = .ok usual := rfl

/-! ### Checks -/

/-- The checks before those of the capacities are passed. -/
structure ResolverSettings.ReachesCaches (settings : ResolverSettings) (n attempts : Int) :
    Prop where
  length : minMaxLength ≤ n
  attempts : 1 ≤ attempts
  pattern : ∃ allow, Resolver.allowanceOf settings.compile settings.allowedCharacters = .ok allow

/-- The settings have a pattern for admitted characters, and their compiler refuses it. -/
def ResolverSettings.RefusesPattern (settings : ResolverSettings) (f : Fault) : Prop :=
  ∃ text, settings.allowedCharacters = .str text ∧ text.isEmpty = false ∧
    settings.compile text.toList = .error f

/-- Among the checks that are not passed, that of a capacity comes first. -/
def ResolverSettings.AsksNegative (settings : ResolverSettings)
    (n attempts suffixes truncations : Int) :
    Prop :=
  settings.ReachesCaches n attempts ∧ (suffixes < 0 ∨ truncations < 0)

/-- The fault of a negative capacity. -/
def Memo.negativeCapacity : Fault :=
  .badValue "capacity must not be negative"

theorem Memo.ofCapacity_int {κ ν : Type} (capacity : Int) :
    (ofCapacity (.int capacity) : Except Fault (Memo κ ν)) =
      if capacity < 0 then .error negativeCapacity else .ok (.ofRoom (.whole capacity)) := by
  show (if (Quantity.whole capacity).lt (.whole 0) then _ else _) = _
  rw [Quantity.lt_whole]
  simp only [decide_eq_true_eq]
  rfl

theorem Memo.nonneg_of_ofCapacity {κ ν : Type} {capacity : Int} {c : Memo κ ν}
    (h : ofCapacity (.int capacity) = .ok c) : 0 ≤ capacity := by
  rw [ofCapacity_int] at h
  split at h
  · cases h
  · omega

theorem Memo.ofCapacity_error {κ ν : Type} {capacity : Int} {f : Fault}
    (h : (ofCapacity (.int capacity) : Except Fault (Memo κ ν)) = .error f) :
    capacity < 0 ∧ f = negativeCapacity := by
  rw [ofCapacity_int] at h
  split at h
  · rename_i hnegative
    exact ⟨hnegative, (Except.error.inj h).symm⟩
  · cases h

namespace Resolver

/-- Why settings with the given numbers are not accepted: the first of the checks that they do not
pass. -/
inductive Refusal (settings : ResolverSettings) (n attempts suffixes truncations : Int) :
    Fault → Prop
  /-- Names would be too short for a suffix. -/
  | length (h : n < minMaxLength) : Refusal settings n attempts suffixes truncations
      (.configuration (.str RequestForm.shortMessage) (.str Setting.maxNameLength.key) .null)
  /-- No candidate would be tried. -/
  | attempts (hlength : minMaxLength ≤ n) (h : attempts < 1) :
      Refusal settings n attempts suffixes truncations
        (.configuration (.str "max_attempts must be positive") (.str Setting.maxAttempts.key) .null)
  /-- The pattern for admitted characters is refused by the compiler. -/
  | pattern (hlength : minMaxLength ≤ n) (hattempts : 1 ≤ attempts) {f : Fault}
      (h : settings.RefusesPattern f) : Refusal settings n attempts suffixes truncations f
  /-- A capacity is negative. -/
  | capacity (h : settings.AsksNegative n attempts suffixes truncations) :
      Refusal settings n attempts suffixes truncations Memo.negativeCapacity
  /-- A fallback name is not usable. -/
  | fallback (hcaches : settings.ReachesCaches n attempts) (hsuffixes : 0 ≤ suffixes)
      (htruncations : 0 ≤ truncations) (message : Json) {setting : Setting}
      (h : setting ∈ [Setting.fallbackUsername, Setting.fallbackGroupName]) :
      Refusal settings n attempts suffixes truncations
        (.configuration message (.str setting.key) .null)

variable {settings : ResolverSettings} {n attempts suffixes truncations : Int} {f : Fault}

/-- Steps end with a fault if one of them does. -/
theorem bind_eq_error {α β : Type} {x : Except Fault α} {g : α → Except Fault β} :
    x >>= g = .error f ↔ x = .error f ∨ ∃ a, x = .ok a ∧ g a = .error f := by
  cases x <;> simp [bind, Except.bind]

/-- So does a check that is not passed. -/
theorem check_eq_error {α β : Type} {c : Prop} [Decidable c] {e : Fault} {g : α → Except Fault β}
    {x : Except Fault β} :
    (if c then (throw e : Except Fault α) >>= g else x) = .error f ↔
      c ∧ e = f ∨ ¬ c ∧ x = .error f := by
  by_cases hc : c
  · simp [hc, bind, Except.bind, throw, throwThe, MonadExceptOf.throw]
  · simp [hc]

/-- A pattern that is a text, or none at all, can only be refused by the compiler. -/
theorem refusesPattern_of_allowanceOf
    (hsort : settings.allowedCharacters = .null ∨ ∃ text, settings.allowedCharacters = .str text)
    (h : allowanceOf settings.compile settings.allowedCharacters = .error f) :
    settings.RefusesPattern f := by
  obtain hnull | ⟨text, htext⟩ := hsort
  · rw [hnull] at h
    cases h
  · rw [htext, allowanceOf] at h
    split at h
    · cases h
    · rename_i hnonempty
      obtain h | ⟨test, -, h⟩ := bind_eq_error.1 h
      · exact ⟨text, htext, Bool.not_eq_true _ ▸ hnonempty, h⟩
      · cases h

theorem allowanceOf_refused (h : settings.RefusesPattern f) :
    allowanceOf settings.compile settings.allowedCharacters = .error f := by
  obtain ⟨text, htext, hnonempty, hcompile⟩ := h
  rw [htext, allowanceOf, hnonempty, hcompile]
  rfl

/-- Under a whole limit a fallback name is refused for what it is. -/
theorem prepareFallback_error {policy : CharacterPolicy} {reserved : ReservedNames} {setting : Json}
    {key : String} {resort : Option Text}
    (h : prepareFallback policy reserved (.whole n) setting key resort = .error f) :
    ∃ message, f = .configuration message (.str key) .null := by
  unfold prepareFallback at h
  rw [prepare, Limit.cut_whole] at h
  obtain h | ⟨name, -, h⟩ := bind_eq_error.1 h
  · cases h
  · dsimp only at h
    obtain ⟨-, rfl⟩ | ⟨-, h⟩ := check_eq_error.1 h
    · exact ⟨_, rfl⟩
    · obtain ⟨-, rfl⟩ | ⟨-, h⟩ := check_eq_error.1 h
      · exact ⟨_, rfl⟩
      · cases h

/-- An environment gives rules that make a collection of reserved names. -/
theorem ofSettings_read (hread : settings.Read n attempts suffixes truncations) :
    ∃ reserved, ReservedNames.ofSettings settings.reservedMention settings.reservedRules =
      .ok reserved := by
  obtain ⟨word, hword⟩ := hread.reservedMention
  obtain ⟨rules, hrules⟩ := hread.reservedRules
  rw [hword, hrules, ReservedNames.ofSettings, ReservedNames.rulesOf]
  split
  · exact ⟨_, rfl⟩
  · exact ⟨_, rfl⟩

/-- Settings of an environment that are not accepted are refused by one of the checks, and it is
told by which. -/
theorem refusal_of_build (hread : settings.Read n attempts suffixes truncations)
    (h : build settings = .error f) : Refusal settings n attempts suffixes truncations f := by
  obtain ⟨reserved, hreserved⟩ := ofSettings_read hread
  unfold build at h
  rw [hread.maxLength, hread.maxAttempts, hread.suffixCacheSize, hread.truncationCacheSize,
    hreserved] at h
  -- each check either tells the reason or lets the settings pass on to the next one
  obtain h | ⟨limit, hlimit, h⟩ := bind_eq_error.1 h
  · cases h
  obtain rfl := Except.ok.inj hlimit
  split at h
  · rename_i hshort
    obtain rfl := Except.error.inj h
    exact .length (by simpa [Limit.isShort] using hshort)
  rename_i hroomy
  have hlength := Limit.le_of_not_short hroomy
  obtain h | ⟨tries, htries, h⟩ := bind_eq_error.1 h
  · cases h
  obtain rfl := Except.ok.inj htries
  have hfew : (Quantity.whole attempts).lt 1 = true ↔ attempts < 1 :=
    (Quantity.lt_whole attempts 1 ▸ decide_eq_true_iff)
  dsimp only at h
  obtain ⟨hnone, rfl⟩ | ⟨hsome, h⟩ := check_eq_error.1 h
  · exact .attempts hlength (hfew.1 hnone)
  have hattempts : 1 ≤ attempts := Int.not_lt.1 (mt hfew.2 hsome)
  obtain h | ⟨allow, hallow, h⟩ := bind_eq_error.1 h
  · exact .pattern hlength hattempts (refusesPattern_of_allowanceOf hread.allowedCharacters h)
  have hcaches : settings.ReachesCaches n attempts := ⟨hlength, hattempts, allow, hallow⟩
  obtain h | ⟨_, -, h⟩ := bind_eq_error.1 h
  · cases h
  obtain h | ⟨_, hsuffixes, h⟩ := bind_eq_error.1 h
  · obtain ⟨hnegative, rfl⟩ := Memo.ofCapacity_error h
    exact .capacity ⟨hcaches, .inl hnegative⟩
  obtain h | ⟨_, htruncations, h⟩ := bind_eq_error.1 h
  · obtain ⟨hnegative, rfl⟩ := Memo.ofCapacity_error h
    exact .capacity ⟨hcaches, .inr hnegative⟩
  -- only the fallback names are left, which are prepared when everything else has been accepted
  have hfallback := @Refusal.fallback settings n attempts suffixes truncations hcaches
    (Memo.nonneg_of_ofCapacity hsuffixes) (Memo.nonneg_of_ofCapacity htruncations)
  obtain h | ⟨_, -, h⟩ := bind_eq_error.1 h
  · obtain ⟨message, rfl⟩ := prepareFallback_error h
    exact hfallback message (by simp : Setting.fallbackUsername ∈ _)
  obtain h | ⟨_, -, h⟩ := bind_eq_error.1 h
  · obtain ⟨message, rfl⟩ := prepareFallback_error h
    exact hfallback message (by simp : Setting.fallbackGroupName ∈ _)
  · cases h

/-- Where a negative capacity is asked for, that is the reason. -/
theorem Refusal.negativeCapacity (h : Refusal settings n attempts suffixes truncations f)
    (hnegative : settings.AsksNegative n attempts suffixes truncations) :
    f = Memo.negativeCapacity := by
  obtain ⟨⟨hlength, hattempts, allow, hallow⟩, hcapacity⟩ := hnegative
  -- every other reason is at odds with a check that has been passed, or with the capacities
  cases h with
  | length h => omega
  | attempts _ h => omega
  | pattern _ _ h => cases hallow.symm.trans (allowanceOf_refused h)
  | capacity _ => rfl
  | fallback _ hsuffixes htruncations _ _ => omega

/-- And such settings are not accepted. -/
theorem not_asksNegative_of_build {r : Resolver} {w : Worker}
    (hread : settings.Read n attempts suffixes truncations) (h : build settings = .ok (r, w)) :
    ¬ settings.AsksNegative n attempts suffixes truncations := by
  have hgives := build_gives h
  have hsuffixes := Memo.nonneg_of_ofCapacity (hread.suffixCacheSize ▸ hgives.suffixes)
  have htruncations := Memo.nonneg_of_ofCapacity (hread.truncationCacheSize ▸ hgives.truncations)
  rintro ⟨-, hnegative⟩
  omega

end Resolver

end Namesake
