import Namesake.Proofs.Batch.Handler
import Namesake.Proofs.Json.Fields

/-!
# Which events the handler accepts

An event is accepted if it is an object that names a kind in whatever case, has a list of texts as
its names, and says with a truth value, if at all, whether these may be reserved ones. This is
checked in several places, each with its own notion of what is missing: the guard looks for the
fields and for the kind, and the handler itself for the rest. Between them they refuse whatever is
no such event, with status 400 and before any resolver is asked for.

## Main definitions

* `Json.Asks`, `Json.IsRequest` — the events that are accepted
* `ErrorResponse.IsRefusal` — the answers to the others

## Main results

* `Json.Asks.screen`, `Json.Asks.validate` — a request passes every check
* `guardedCall_refuses` — anything else fails one of them
* `handleBatch_refuses` — the handler answers it with a refusal, and changes nothing but the log
-/

open Namesake.Task Namesake.Unicode

namespace Namesake

/-- The event asks for names of a kind, made from the given texts. -/
structure Json.Asks (event : Json) (kind : NameKind) (names : List String) (allowReserved : Bool) :
    Prop where
  kind : ∃ word : String, event.field? "kind" = some (.str word) ∧
    lowercase word.toList = kind.word.toList
  names : event.field? "names" = some (.arr (names.map .str))
  allowReserved : event.field? "allow_reserved" = some (.bool allowReserved) ∨
    event.field? "allow_reserved" = none ∧ allowReserved = false

/-- The event asks for names. -/
def Json.IsRequest (event : Json) : Prop :=
  ∃ kind names allowReserved, event.Asks kind names allowReserved

/-- The event that asks for users' names, and for no more than that. -/
def Json.asking (names : List String) : Json :=
  .obj [("kind", .str NameKind.username.word), ("names", .arr (names.map .str))]

theorem Json.asks_asking (names : List String) : (Json.asking names).Asks .username names false :=
  ⟨⟨NameKind.username.word, rfl, by decide +kernel⟩, rfl, .inr ⟨rfl, rfl⟩⟩

/-- The answer to an event that is not accepted. -/
structure ErrorResponse.IsRefusal (response : ErrorResponse) : Prop where
  status : response.status = .int 400
  success : response.body.lookup "success" = some (.bool false)

variable {p : Program} {event : Json} {fields : Fields} {kind : NameKind} {names : List String}
variable {allowReserved : Bool} {f : Fault} {now : String}

/-! ### The guard -/

/-- Of the required fields those are missing that are not there or are empty. -/
theorem missingIn_ofStrings (fields : Fields) (keys : List String) :
    missingIn fields (.ofStrings keys) =
      .ok ((keys.filter fun key => !isPresent (fields.lookup key)).map .str) := by
  -- the filter collects in reverse, so what it has collected before is left open
  have hscan : ∀ acc : List Json, List.filterAuxM (isMissing fields) (keys.map .str) acc =
      .ok (((keys.filter fun key => !isPresent (fields.lookup key)).map .str).reverse ++ acc) := by
    induction keys with
    | nil => exact fun acc => rfl
    | cons key keys ih =>
      intro acc
      rw [List.map_cons, List.filterAuxM]
      cases hpresent : isPresent (fields.lookup key) with
      | true => simp [isMissing, hpresent, ih, Bind.bind, Except.bind, Pure.pure, Except.pure]
      | false => simp [isMissing, hpresent, ih, Bind.bind, Except.bind, Pure.pure, Except.pure]
  have hall := hscan []
  simp only [missingIn, Json.ofStrings, Json.elements?, List.filterM, hall, Bind.bind, Except.bind,
    List.append_nil, List.reverse_reverse, Pure.pure, Except.pure]

/-- A text is among the words of the kinds if it is the word of a kind. -/
theorem isAmong_words (text : String) :
    ∃ among, isAmong text (.ofStrings NameKind.words) = .ok among ∧
    (among = true ↔ ∃ kind : NameKind, text = kind.word) := by
  refine ⟨_, rfl, ?_⟩
  have hwords : NameKind.words = ["username", "group_name"] := rfl
  rw [hwords]
  constructor
  · intro h
    simp [Json.equals] at h
    obtain rfl | rfl := h
    · exact ⟨.username, rfl⟩
    · exact ⟨.groupName, rfl⟩
  · rintro ⟨kind, rfl⟩
    cases kind <;> simp [Json.equals, NameKind.word]

/-- Where all kinds are admitted, a text names one if it is the word of a kind in whatever case. -/
theorem namesKind_str (word : String) : ∃ named, namesKind (.str word) .null = .ok named ∧
    (named = true ↔ ∃ kind : NameKind, lowercase word.toList = kind.word.toList) := by
  rw [namesKind]
  -- an empty word is not looked at, and it is the word of no kind
  by_cases hempty : word.isEmpty = true
  · refine ⟨false, if_pos hempty, ?_⟩
    rw [String.isEmpty_iff] at hempty
    subst hempty
    constructor
    · intro h
      cases h
    · rintro ⟨kind, hkind⟩
      cases kind <;> exact absurd hkind (by decide)
  · obtain ⟨among, hamong, hiff⟩ := isAmong_words (String.ofList (lowercase word.toList))
    refine ⟨among, (if_neg hempty).trans hamong, hiff.trans (exists_congr fun kind => ?_)⟩
    rw [← String.toList_inj, String.toList_ofList]

/-- What the guard finds if no field is missing. -/
theorem screen_batchGuard {v : Json} (hkind : fields.lookup "kind" = some v)
    (hpresent : isPresent (some v) = true) (hnames : isPresent (fields.lookup "names") = true) :
    screen batchGuard (.obj fields) now =
      match namesKind v .null with
      | .ok true => .ok none
      | .ok false => .ok (some (rejectKind (.ofStrings NameKind.words) now))
      | .error f => .error f := by
  have hmissing : missingFor batchGuard fields = .ok [] := by
    refine (missingIn_ofStrings fields ["kind", "names"]).trans ?_
    simp [hkind, hpresent, hnames]
  have hfound : screen batchGuard (.obj fields) now = (do
      if ← namesKind v .null then return none
      else return some (rejectKind (.ofStrings NameKind.words) now)) := by
    rw [screen, hmissing]
    simp only [Bind.bind, Except.bind, List.isEmpty_nil, Bool.not_true, Bool.false_eq_true,
      if_false, hkind]
    rfl
  rw [hfound]
  rcases namesKind v .null with f | named
  · rfl
  · cases named <;> rfl

/-! ### The handler's own checks -/

/-- A list of values is a list of texts if each of them is one. -/
theorem all_string_iff (values : List Json) :
    (values.all fun v => v.string?.isSome) = true ↔
      ∃ names : List String, values = names.map .str := by
  constructor
  · intro h
    induction values with
    | nil => exact ⟨[], rfl⟩
    | cons v values ih =>
      rw [List.all_cons, Bool.and_eq_true] at h
      obtain ⟨names, rfl⟩ := ih h.2
      cases v with
      | str name => exact ⟨name :: names, rfl⟩
      | _ => cases h.1
  · rintro ⟨names, rfl⟩
    rw [List.all_map, List.all_eq_true]
    exact fun _ _ => rfl

/-- The names are accepted if they are texts. Otherwise the fault is one of validation. -/
theorem batchNames_cases (fields : Fields) :
    (∃ names : List String, fields.lookup "names" = some (.arr (names.map .str)) ∧
      batchNames fields = .ok (names.map .str)) ∨
    (∀ names : List String, fields.lookup "names" ≠ some (.arr (names.map .str))) ∧
      ∃ message context, batchNames fields = .error (.validation message context) := by
  unfold batchNames
  cases hnames : fields.lookup "names" with
  | none => exact .inr ⟨fun _ h => (by cases h), _, _, rfl⟩
  | some v =>
    cases v with
    | arr values =>
      dsimp only
      by_cases hall : (values.all fun v => v.string?.isSome) = true
      · obtain ⟨names, rfl⟩ := (all_string_iff values).1 hall
        exact .inl ⟨names, rfl, if_pos hall⟩
      · refine .inr ⟨fun names h => hall ((all_string_iff values).2 ⟨names, ?_⟩), _, _, if_neg hall⟩
        exact Json.arr.inj (Option.some.inj h)
    | _ => exact .inr ⟨fun _ h => (by cases h), _, _, rfl⟩

/-- Whether reserved names are allowed is accepted if it is a truth value or is not there. -/
theorem batchAllowsReserved_cases (fields : Fields) :
    (∃ allowed, (fields.lookup "allow_reserved" = some (.bool allowed) ∨
        fields.lookup "allow_reserved" = none ∧ allowed = false) ∧
      batchAllowsReserved fields = .ok allowed) ∨
    (∀ allowed, ¬ (fields.lookup "allow_reserved" = some (.bool allowed) ∨
        fields.lookup "allow_reserved" = none ∧ allowed = false)) ∧
      ∃ message context, batchAllowsReserved fields = .error (.validation message context) := by
  unfold batchAllowsReserved
  cases hallowed : fields.lookup "allow_reserved" with
  | none => exact .inl ⟨false, .inr ⟨rfl, rfl⟩, rfl⟩
  | some v =>
    cases v with
    | bool allowed => exact .inl ⟨allowed, .inl rfl, rfl⟩
    | _ => exact .inr ⟨fun _ h => (by rcases h with h | ⟨h, -⟩ <;> cases h), _, _, rfl⟩

/-- The word for the kind is read in lower case. -/
theorem batchKind_word {word : String} (hkind : fields.lookup "kind" = some (.str word))
    (hword : lowercase word.toList = kind.word.toList) : batchKind fields = .ok kind.word := by
  rw [batchKind, hkind]
  show Except.ok (String.ofList (lowercase word.toList)) = _
  rw [hword, String.ofList_toList]

/-! ### Requests -/

/-- A request is an object. -/
theorem Json.Asks.isObject (h : event.Asks kind names allowReserved) :
    ∃ fields, event = .obj fields := by
  cases event with
  | obj fields => exact ⟨fields, rfl⟩
  | _ => cases h.names

/-- The guard lets a request pass. -/
theorem Json.Asks.screen (h : event.Asks kind names allowReserved) (now : String) :
    screen batchGuard event now = .ok none := by
  obtain ⟨fields, rfl⟩ := h.isObject
  obtain ⟨word, hkind, hword⟩ := h.kind
  obtain ⟨named, hnamed, hiff⟩ := namesKind_str word
  obtain rfl : named = true := hiff.2 ⟨kind, hword⟩
  have hpresent : isPresent (some (.str word)) = true := by
    rw [isPresent, Bool.not_eq_true', ← Bool.not_eq_true, String.isEmpty_iff]
    rintro rfl
    cases kind <;> exact absurd hword (by decide)
  have hnames : isPresent (fields.lookup "names") = true := by
    rw [show fields.lookup "names" = _ from h.names]
    rfl
  rw [screen_batchGuard hkind hpresent hnames, hnamed]

/-- The handler finds in a request what it asks for. -/
theorem Json.Asks.validate (h : event.Asks kind names allowReserved) :
    validateBatch event = .ok ⟨kind.word, names.map .str, allowReserved⟩ := by
  obtain ⟨fields, rfl⟩ := h.isObject
  obtain ⟨word, hkind, hword⟩ := h.kind
  have hnames : batchNames fields = .ok (names.map .str) := by
    rw [batchNames, show fields.lookup "names" = _ from h.names]
    exact if_pos ((all_string_iff _).2 ⟨names, rfl⟩)
  have hallowed : batchAllowsReserved fields = .ok allowReserved := by
    rw [batchAllowsReserved]
    obtain hsome | ⟨hnone, rfl⟩ := h.allowReserved
    · rw [show fields.lookup "allow_reserved" = _ from hsome]
      rfl
    · rw [show fields.lookup "allow_reserved" = _ from hnone]
      rfl
  rw [validateBatch, hnames, hallowed, batchKind_word hkind hword]
  rfl

/-! ### Refusals -/

/-- The details of a refusal say nothing about its success. -/
theorem isRefusal_of {message : Json} {details : Fields}
    (h : ∀ field ∈ details, "success" ≠ field.1)
    (now : String) : (ErrorResponse.of (.int 400) message details now).IsRefusal :=
  ⟨rfl, Fields.lookup_merge_of_notMem h⟩

/-- A fault of validation is worded as a refusal. -/
theorem isRefusal_validation (message : Json) (context : ValueContext) (now : String) :
    (faultResponse (.validation message context) now).IsRefusal := by
  refine isRefusal_of (fun field hfield => ?_) now
  have hwhen : ∀ (c : Bool) (key : String) (v : Json), key ≠ "success" →
      ∀ field ∈ Fields.when c key v, "success" ≠ field.1 := by
    intro c key v hkey field hfield
    cases c with
    | false => cases hfield
    | true =>
      obtain rfl := List.mem_singleton.1 hfield
      exact hkey.symm
  rw [Fault.detailFields, List.mem_append, List.mem_append] at hfield
  obtain (h | h) | h := hfield
  · exact hwhen _ "field" _ (by decide) field h
  · exact hwhen _ "value" _ (by decide) field h
  · exact hwhen _ "hints" _ (by decide) field h

theorem textsFrom_str (place : Nat) (texts : List String) :
    textsFrom place (texts.map .str) = .ok texts := by
  induction texts generalizing place with
  | nil => rfl
  | cons text texts ih =>
    rw [List.map_cons, textsFrom, ih]
    rfl

/-- That fields are missing is worded as a refusal. -/
theorem isRefusal_rejectMissing (keys : List String) (now : String) :
    ∃ response, (rejectMissing (keys.map .str) now).response = .ok response ∧
      response.IsRefusal := by
  have hjoined : joined (.arr (keys.map .str)) = .ok (", ".intercalate keys) := by
    rw [joined]
    simp only [Json.elements?, textsFrom_str]
    rfl
  refine ⟨_, by rw [rejectMissing, hjoined]; rfl, isRefusal_of (fun field hfield => ?_) now⟩
  obtain rfl := List.mem_singleton.1 hfield
  show "success" ≠ "missing_fields"
  decide

/-- That the kind is none of those admitted is worded as a refusal. -/
theorem isRefusal_rejectKind (now : String) : ∃ response,
    (rejectKind (.ofStrings NameKind.words) now).response = .ok response ∧ response.IsRefusal := by
  refine ⟨_, rfl, isRefusal_of (fun field hfield => ?_) now⟩
  obtain rfl := List.mem_singleton.1 hfield
  decide

/-- An event without one of the fields is refused. -/
theorem guardedCall_missing {o : GuardOptions} {name : String} {handler : Json → Action Json}
    (p : Program) {keys : List String} (hkeys : keys ≠ [])
    (hmissing : missingFor o fields = .ok (keys.map .str)) : ∃ response : ErrorResponse,
      response.IsRefusal ∧
        p.Leads (guardedCall o name handler (.obj fields)) (.ok response.json) p := by
  obtain ⟨response, hresponse, hrefusal⟩ := isRefusal_rejectMissing keys p.now
  refine ⟨response, hrefusal, guardedCall_reject ?_ hresponse⟩
  rw [screen, hmissing]
  cases keys with
  | nil => exact absurd rfl hkeys
  | cons key keys => rfl

/-- An event with all fields is refused if it names no kind. -/
theorem guardedCall_kind {name : String} {handler : Json → Action Json} (p : Program) {v : Json}
    (hkind : fields.lookup "kind" = some v) (hpresent : isPresent (some v) = true)
    (hnames : isPresent (fields.lookup "names") = true) (hnamed : namesKind v .null = .ok false) :
    ∃ response : ErrorResponse, response.IsRefusal ∧
      p.Leads (guardedCall batchGuard name handler (.obj fields)) (.ok response.json) p := by
  obtain ⟨response, hresponse, hrefusal⟩ := isRefusal_rejectKind p.now
  refine ⟨response, hrefusal, guardedCall_reject ?_ hresponse⟩
  rw [screen_batchGuard hkind hpresent hnames, hnamed]

/-- An event with all fields that names a kind is a request, or the handler finds it not to be
valid. -/
theorem isRequest_or_validation {word : String} (hkind : fields.lookup "kind" = some (.str word))
    (hword : lowercase word.toList = kind.word.toList) : (Json.obj fields).IsRequest ∨
      ∃ message context, validateBatch (.obj fields) = .error (.validation message context) := by
  obtain ⟨names, hnames, hvalues⟩ | ⟨-, message, context, hvalues⟩ := batchNames_cases fields
  · obtain ⟨allowed, hallowed, hreserved⟩ | ⟨-, message, context, hreserved⟩ :=
      batchAllowsReserved_cases fields
    · exact .inl ⟨kind, names, allowed, ⟨word, hkind, hword⟩, hnames, hallowed⟩
    · refine .inr ⟨message, context, ?_⟩
      rw [validateBatch, hvalues, hreserved]
      rfl
  · refine .inr ⟨message, context, ?_⟩
    rw [validateBatch, hvalues]
    rfl

/-- A call with what is no request ends with a refusal, or with a fault that is worded as one. -/
theorem guardedCall_refuses (h : ¬ event.IsRequest) (p : Program) :
    (∃ response : ErrorResponse, response.IsRefusal ∧
      p.Leads (guardedCall batchGuard handlerName resolveBatch event) (.ok response.json) p) ∨
    ∃ message context, p.Leads (guardedCall batchGuard handlerName resolveBatch event)
      (.error (.validation message context)) p := by
  cases event with
  | obj fields =>
    -- the guard asks for both fields before it looks at the kind, and the names come last
    have hmissing : missingFor batchGuard fields = _ := missingIn_ofStrings fields ["kind", "names"]
    by_cases hkeys : (["kind", "names"].filter fun key => !isPresent (fields.lookup key)) = []
    · rw [List.filter_eq_nil_iff] at hkeys
      have hpresent : ∀ key ∈ ["kind", "names"], isPresent (fields.lookup key) = true := by
        intro key hkey
        simpa using hkeys key hkey
      have hhas := hpresent "kind" (by simp)
      have hnames := hpresent "names" (by simp)
      cases hkind : fields.lookup "kind" with
      | none =>
        rw [hkind] at hhas
        cases hhas
      | some v =>
        rw [hkind] at hhas
        cases v with
        | str word =>
          obtain ⟨named, hnamed, hiff⟩ := namesKind_str word
          cases named with
          | false => exact .inl (guardedCall_kind p hkind hhas hnames hnamed)
          | true =>
            obtain ⟨kind, hword⟩ := hiff.1 rfl
            obtain hrequest | ⟨message, context, hvalid⟩ := isRequest_or_validation hkind hword
            · exact absurd hrequest h
            · refine .inr ⟨message, context, guardedCall_pass ?_ ?_⟩
              · rw [screen_batchGuard hkind hhas hnames, hnamed]
              · unfold resolveBatch
                rw [hvalid]
                exact (Program.leads_lift p _).bind_error
        | _ => exact .inl (guardedCall_kind p hkind hhas hnames rfl)
    · exact .inl (guardedCall_missing p hkeys hmissing)
  | _ => exact .inr ⟨_, _, guardedCall_fault rfl⟩

/-- The handler refuses whatever is no request, and changes nothing but the log. -/
theorem handleBatch_refuses (h : ¬ event.IsRequest) (p : Program) (requestId : Option Json) :
    ∃ response : ErrorResponse, response.IsRefusal ∧
      p.Leads (handleBatch event requestId) (.ok response.json) p := by
  obtain ⟨response, hrefusal, hleads⟩ | ⟨message, context, hleads⟩ := guardedCall_refuses h p
  · exact ⟨response, hrefusal, guarded_leads hleads⟩
  · exact ⟨_, isRefusal_validation message context p.now, guarded_leads hleads⟩

end Namesake
