import Namesake.Proofs.Batch.Faults
import Namesake.Proofs.Resolver.Refusal

/-!
# The first request of a program

A program has no services when it starts. The first request has the store of used names made, and
then the resolver, by what the environment says at that time. If the settings are accepted, the
request is answered by a resolver that has just been made. If they are not, there is no resolver,
and the handler words the fault with which the checks of the settings have ended: as one of the
server, since the request is none the worse for it. A negative capacity is an exception. Its fault
is that of a value out of range, for which the handler blames the request. So may be the fault with
which a compiler refuses the pattern for admitted characters.

## Main definitions

* `Program.stocked` — a store in memory has been made and registered
* `Program.opened` — so has a resolver on that store

## Main results

* `Program.resolverObject_opens`, `Program.resolverObject_refused` — to what asking for the resolver
  leads
* `handleBatch_starting` — what the first request is answered with
-/

open Namesake.Task

namespace Namesake

namespace Program

variable {p : Program} {settings : ResolverSettings} {r : Resolver} {w : Worker} {store : Nat}
  {f : Fault}

/-! ### Making services -/

/-- A store in memory has been made, and is registered. -/
def stocked (p : Program) : Program :=
  { p with
    objects := p.objects ++ [.memory .empty]
    services := (storeService, p.objects.length) :: p.services }

theorem object_stocked (p : Program) :
    p.stocked.objects[p.objects.length]? = some (.memory .empty) :=
  List.getElem?_concat_length ..

/-- Besides, a resolver has been made that works on the store, and is registered. -/
def opened (p : Program) (r : Resolver) (w : Worker) : Program :=
  { p.stocked with
    objects := p.stocked.objects ++ [.resolver r w p.objects.length]
    services := (resolverService, p.stocked.objects.length) :: p.stocked.services }

theorem make_leads (p : Program) (object : ServiceObject) : p.Leads (make object)
    (.ok p.objects.length) { p with objects := p.objects ++ [object] } := by
  rintro q ⟨log, rfl⟩
  exact ⟨_, ⟨log, rfl⟩, rfl⟩

/-- A service is registered in front of others of other names. -/
theorem register_leads {name : String} (hnew : ∀ s ∈ p.services, s.1 ≠ name) (number : Nat) :
    p.Leads (register name number) (.ok ())
      { p with services := (name, number) :: p.services } := by
  have hothers : (p.services.filter fun s => s.1 ≠ name) = p.services :=
    List.filter_eq_self.2 fun s hs => decide_eq_true (hnew s hs)
  rintro q ⟨log, rfl⟩
  refine ⟨_, ⟨log, rfl⟩, ?_⟩
  show EStateM.Result.ok () { p with
    log, services := (name, number) :: p.services.filter fun s => s.1 ≠ name } = _
  rw [hothers]

theorem storeObject_stocks (hcold : p.services = [])
    (hbackend : Setting.registryBackend.ofVariables p.vars = .ok (.str "memory")) :
    p.Leads storeObject (.ok p.objects.length) p.stocked := by
  have hmake : p.Leads makeStore (.ok p.objects.length)
      { p with objects := p.objects ++ [.memory .empty] } := by
    refine .get (fun _ => rfl) ?_
    rw [hbackend]
    exact (leads_lift p _).bind (make_leads p _)
  refine .get (fun _ => rfl) ?_
  rw [hcold]
  refine hmake.bind ((register_leads (fun s hs => ?_) _).bind (leads_pure _ _))
  rw [hcold] at hs
  cases hs

/-- The resolver is made from the settings that the environment gives. -/
theorem makeResolver_leads {sets : NameSets} (hstore : p.objects[store]? = some (.memory sets))
    (hsettings : ResolverSettings.ofVariables p.vars p.compile = .ok settings) :
    p.Leads (makeResolver store) ((Resolver.build settings).map fun _ => p.objects.length)
      (match Resolver.build settings with
        | .ok (r, w) => { p with objects := p.objects ++ [.resolver r w store] }
        | .error _ => p) := by
  -- a store in memory is no value that a new store would have to replace
  have hbehind : p.Leads (storeBehind store) (.ok store) p := by
    refine .get (fun _ => rfl) ?_
    rw [hstore]
    exact leads_pure p store
  refine hbehind.bind (.get (fun _ => rfl) ?_)
  rw [hsettings]
  refine (leads_lift p _).bind ?_
  cases Resolver.build settings with
  | ok made => exact (leads_lift p (.ok made)).bind (make_leads p _)
  | error f => exact (leads_lift p (.error f)).bind_error

section Start

variable (hcold : p.services = [])
variable (hbackend : Setting.registryBackend.ofVariables p.vars = .ok (.str "memory"))
variable (hsettings : ResolverSettings.ofVariables p.vars p.compile = .ok settings)

include hcold hbackend hsettings

/-- A program without services makes both if its settings are accepted. -/
theorem resolverObject_opens (hbuild : Resolver.build settings = .ok (r, w)) :
    p.Leads resolverObject (.ok p.stocked.objects.length) (p.opened r w) := by
  have hmake := makeResolver_leads p.object_stocked hsettings
  rw [hbuild] at hmake
  refine .get (fun _ => rfl) ?_
  rw [hcold]
  refine (storeObject_stocks hcold hbackend).bind (hmake.bind
    ((register_leads (fun s hs => ?_) _).bind (leads_pure _ _)))
  -- nothing but the store is registered before it
  obtain rfl : s = (storeService, p.objects.length) := by simpa [stocked, hcold] using hs
  show storeService ≠ resolverService
  decide

/-- Otherwise there is only the store then, and the fault of the settings. -/
theorem resolverObject_refused (hbuild : Resolver.build settings = .error f) :
    p.Leads resolverObject (.error f) p.stocked := by
  have hmake := makeResolver_leads p.object_stocked hsettings
  rw [hbuild] at hmake
  refine .get (fun _ => rfl) ?_
  rw [hcold]
  exact (storeObject_stocks hcold hbackend).bind hmake.bind_error

end Start

/-! ### The resolver that has been made -/

theorem serves_opened (p : Program) (r : Resolver) (w : Worker) :
    (p.opened r w).Serves p.stocked.objects.length r w p.objects.length :=
  ⟨rfl, List.getElem?_concat_length ..⟩

/-- Its store has no names. -/
theorem storeOf_opened (p : Program) (r : Resolver) (w : Worker) :
    (p.opened r w).storeOf p.objects.length = .memory .empty := by
  have hobject : (p.opened r w).objects[p.objects.length]? = some (.memory .empty) := by
    show (p.stocked.objects ++ [.resolver r w p.objects.length])[p.objects.length]? = _
    rw [List.getElem?_append_left (by simp [stocked]), p.object_stocked]
  rw [storeOf, hobject]

/-- It has not worked yet. -/
theorem runs_opened (p : Program) {n attempts suffixes truncations : Int}
    (hread : settings.Read n attempts suffixes truncations)
    (hbuild : Resolver.build settings = .ok (r, w)) :
    (p.opened r w).Runs settings n n p.stocked.objects.length r w w p.objects.length :=
  ⟨p.serves_opened r w, hbuild, hread.maxLength, le_rfl, ⟨suffixes, hread.suffixCacheSize⟩,
    ⟨truncations, hread.truncationCacheSize⟩, .start _ w.contention⟩

end Program

/-! ### The first request -/

variable {settings : ResolverSettings} {n attempts suffixes truncations : Int} {f : Fault}

/-- The request is not blamed for settings that are not accepted, unless a capacity is negative, or
the compiler blames it for the pattern. -/
theorem Resolver.Refusal.of_blames (h : Resolver.Refusal settings n attempts suffixes truncations f)
    (hblames : f.blamesRequest = true) :
    settings.AsksNegative n attempts suffixes truncations ∨ settings.RefusesPattern f := by
  cases h with
  | length | attempts | fallback => cases hblames
  | pattern _ _ h => exact .inr h
  | capacity h => exact .inl h

/-- The first request of a program with a store in memory is refused with status 400 if the settings
are not accepted because a capacity is negative, or because the compiler refuses the pattern with a
fault for which the request is blamed. If they are not accepted for any other reason, that is worded
as a fault of the server. If they are accepted, the request gets success, unless a suffix has too
many digits, for which the limit must leave room. So there is no other way to a status of 400. -/
theorem handleBatch_starting {p : Program} {event : Json} {kind : NameKind} {names : List String}
    {allowReserved : Bool} (hcold : p.services = [])
    (hbackend : Setting.registryBackend.ofVariables p.vars = .ok (.str "memory"))
    (hasks : event.Asks kind names allowReserved) (requestId : Option Json) :
    ∃ settings n attempts suffixes truncations response p',
      ResolverSettings.ofVariables p.vars p.compile = .ok settings ∧
      settings.Read n attempts suffixes truncations ∧
      handleBatch event requestId p = .ok response p' ∧
      (∀ f, Resolver.build settings = .error f → response = (faultResponse f p.now).json ∧
        (settings.AsksNegative n attempts suffixes truncations → f = Memo.negativeCapacity) ∧
        (f.blamesRequest = true → response.field? "statusCode" = some (.int 400) ∧
          (settings.AsksNegative n attempts suffixes truncations ∨ settings.RefusesPattern f)) ∧
        (f.blamesRequest = false → response.field? "statusCode" = some (.int 500))) ∧
      (∀ r w, Resolver.build settings = .ok (r, w) →
        ¬ settings.AsksNegative n attempts suffixes truncations ∧
        (response.field? "success" = some (.bool true) ∧ response.field? "statusCode" = none ∨
          maxDigits < n.toNat ∧ response = (faultResponse tooManyDigits p.now).json)) ∧
      (response.field? "statusCode" = some (.int 400) →
        settings.AsksNegative n attempts suffixes truncations ∨
          (∃ f, settings.RefusesPattern f ∧ f.blamesRequest = true) ∨ maxDigits < n.toNat) := by
  obtain ⟨settings, n, attempts, suffixes, truncations, hsettings, -, hread⟩ :=
    ResolverSettings.ofVariables_read p.vars p.compile
  refine ⟨settings, n, attempts, suffixes, truncations, ?_⟩
  cases hbuild : Resolver.build settings with
  | ok made =>
    obtain ⟨r, w⟩ := made
    obtain ⟨p', hrun, -⟩ := (handleBatch_made
      (Program.resolverObject_opens hcold hbackend hsettings hbuild) (p.serves_opened r w)
      (hasks.screen p.now) hasks.validate requestId).run
    have hmemory : ((p.opened r w).storeOf p.objects.length).isMemory = true := by
      rw [p.storeOf_opened]
      rfl
    have hanswer := (p.runs_opened hread hbuild).answer_memory hmemory kind allowReserved
      (names.map .str) p.now rfl
    refine ⟨_, p', hsettings, hread, hrun, fun _ h => (by cases h), fun _ _ _ => ?_,
      fun hstatus => ?_⟩
    · exact ⟨Resolver.not_asksNegative_of_build hread hbuild, hanswer⟩
    · obtain ⟨-, hnone⟩ | ⟨hroom, -⟩ := hanswer
      · cases hnone.symm.trans hstatus
      · exact .inr (.inr hroom)
  | error f =>
    have hrefusal := Resolver.refusal_of_build hread hbuild
    obtain ⟨p', hrun, -⟩ := (handleBatch_unmade
      (Program.resolverObject_refused hcold hbackend hsettings hbuild)
      (hasks.screen p.now) hasks.validate
      requestId).run
    refine ⟨_, p', hsettings, hread, hrun, fun g hg => ?_, fun _ _ h => (by cases h),
      fun hstatus => ?_⟩
    · obtain rfl := Except.error.inj hg
      exact ⟨rfl, hrefusal.negativeCapacity,
        fun hblames => ⟨statusCode_of_blames hblames p.now, hrefusal.of_blames hblames⟩,
        fun hserver => statusCode_of_not_blames hserver p.now⟩
    · cases hblames : f.blamesRequest with
      | true =>
        obtain hcapacity | hpattern := hrefusal.of_blames hblames
        · exact .inl hcapacity
        · exact .inr (.inl ⟨f, hpattern, hblames⟩)
      | false => cases (statusCode_of_not_blames hblames p.now).symm.trans hstatus

/-- The usual environment gives a resolver, which answers with success. Where no attempts are
allowed there is none, and the server is to blame. -/
theorem handleBatch_starting_usual :
    (∃ response p', handleBatch (.asking ["Ann"]) none (.start [] false "used-names" "") =
        .ok response p' ∧ response.field? "success" = some (.bool true)) ∧
      ∃ response p', handleBatch (.asking ["Ann"]) none
          (.start [("MAX_ATTEMPTS", "0")] false "used-names" "") = .ok response p' ∧
        response.field? "statusCode" = some (.int 500) := by
  constructor
  · obtain ⟨settings, n, _, _, _, response, p', hsettings, hread, hrun, -, hyes, -⟩ :=
      handleBatch_starting (p := .start [] false "used-names" "") rfl rfl
        (Json.asks_asking ["Ann"]) none
    obtain rfl := Except.ok.inj (hsettings.symm.trans ResolverSettings.ofVariables_nil)
    obtain ⟨⟨r, w⟩, hbuild⟩ : ∃ made, Resolver.build .usual = .ok made := ⟨_, rfl⟩
    refine ⟨response, p', hrun, ?_⟩
    obtain ⟨-, ⟨hsuccess, -⟩ | ⟨hroom, -⟩⟩ := hyes r w hbuild
    · exact hsuccess
    · obtain rfl := Json.int.inj hread.maxLength
      exact absurd hroom (by decide)
  · obtain ⟨settings, _, _, _, _, response, p', hsettings, -, hrun, hno, -⟩ :=
      handleBatch_starting (p := .start [("MAX_ATTEMPTS", "0")] false "used-names" "") rfl rfl
        (Json.asks_asking ["Ann"]) none
    have hvariables : ResolverSettings.ofVariables [("MAX_ATTEMPTS", "0")] =
        .ok { ResolverSettings.usual with maxAttempts := .int 0 } := rfl
    obtain rfl := Except.ok.inj (hsettings.symm.trans hvariables)
    obtain ⟨f, hbuild, hserver⟩ : ∃ f, Resolver.build
        { ResolverSettings.usual with maxAttempts := .int 0 } = .error f ∧
          f.blamesRequest = false :=
      ⟨_, rfl, rfl⟩
    exact ⟨response, p', hrun, (hno f hbuild).2.2.2 hserver⟩

/-- A negative capacity is blamed on the request: there is no resolver, and the status is 400. -/
theorem handleBatch_starting_negative :
    (Json.asking ["a"]).IsRequest ∧
      (∃ f, ResolverSettings.ofVariables [("SUFFIX_CACHE_SIZE", "-1")] >>=
        Resolver.build = .error f) ∧
      ∃ response p', handleBatch (.asking ["a"]) none
          (.start [("SUFFIX_CACHE_SIZE", "-1")] false "used-names" "") = .ok response p' ∧
        response.field? "statusCode" = some (.int 400) := by
  have hasks := Json.asks_asking ["a"]
  have hsettings : ResolverSettings.ofVariables [("SUFFIX_CACHE_SIZE", "-1")] =
      .ok { ResolverSettings.usual with suffixCacheSize := .int (-1) } := by
    have hsize : Setting.suffixCacheSize.ofVariables [("SUFFIX_CACHE_SIZE", "-1")] =
        .ok (.int (-1)) := rfl
    rw [ResolverSettings.ofVariables, hsize]
    rfl
  have hbuild : Resolver.build { ResolverSettings.usual with suffixCacheSize := .int (-1) } =
      .error Memo.negativeCapacity := rfl
  obtain ⟨p', hrun, -⟩ := (handleBatch_unmade
    (Program.resolverObject_refused
      (p := .start [("SUFFIX_CACHE_SIZE", "-1")] false "used-names" "") rfl rfl hsettings hbuild)
    (hasks.screen "") hasks.validate none).run
  exact ⟨⟨_, _, _, hasks⟩, ⟨_, Resolver.bind_eq_error.2 (.inr ⟨_, hsettings, hbuild⟩)⟩,
    _, p', hrun, rfl⟩

end Namesake
