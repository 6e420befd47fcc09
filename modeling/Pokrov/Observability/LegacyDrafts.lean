import Pokrov.Lib.Results
import Pokrov.Observability.Legacy

/-!
# Drafts of legacy events

When the constructors accept a draft, and from that which records of the legacy journals they
accept: all of the core, and the others but for a stop that did not fail.
-/

namespace Pokrov.Observability

open Dart OperationalAttributePolicy

/-! ## Drafts -/

theorem require_bind_eq_ok {holds : Bool} {name : String} {rest : Except ArgumentError Unit} :
    (require holds name >>= fun _ => rest) = .ok () ↔ holds = true ∧ rest = .ok () := by
  cases holds
  · simp [require, bind, Except.bind]
  · simp [require, bind, Except.bind]

variable {a : Arguments} {draft : LegacyDraft} {outcome : ObservabilityOutcome}

theorem OperationalCorrelation.check_eq_ok : a.check = .ok () ↔
    isTrace a.traceId = true ∧ isSpan a.spanId = true ∧ a.parentSpanId.all isSpan = true ∧
      a.runId.all isUuid = true ∧ a.attemptId.all isUuid = true ∧
      (0 ≤ a.generation ∧ a.generation ≤ 0x7fffffff) ∧ 0 ≤ a.sequence := by
  unfold Arguments.check
  rw [require_bind_eq_ok, require_bind_eq_ok, require_bind_eq_ok, require_bind_eq_ok,
    require_bind_eq_ok, require_bind_eq_ok, require_eq_ok, decide_eq_true_eq, decide_eq_true_eq]

theorem OperationalCorrelation.new_eq_ok :
    (∃ correlation, new a = .ok correlation) ↔ a.check = .ok () := by
  unfold new
  split
  · next h => exact ⟨fun _ => h, fun _ => ⟨_, rfl⟩⟩
  · next e h =>
    constructor
    · rintro ⟨correlation, hnew⟩
      cases hnew
    · intro hcheck
      rw [hcheck] at h
      cases h

/-- A draft that the constructors accept. -/
structure LegacyDraft.IsSound (draft : LegacyDraft) : Prop where
  correlation : draft.correlation.check = .ok ()
  code : draft.errorCode.all (anyOf knownOperationalErrorCodes) = true
  eventId : isUuid draft.eventId = true
  component : anyOf components (text draft.component) = true
  subsystem : anyOf subsystems (text draft.subsystem) = true
  stage : anyOf stages (text draft.stage) = true
  name : isEventName draft.name = true
  outcome : checkOutcome draft.errorCode.isSome draft.outcome = .ok ()
  attributes : validate draft.attributes .localOperational = .ok ()

theorem LegacyDraft.error_eq_ok {error : Option OperationalErrorIdentity}
    (h : draft.error = .ok error) : draft.errorCode.all (anyOf knownOperationalErrorCodes) = true ∧
      error.isSome = draft.errorCode.isSome := by
  unfold LegacyDraft.error at h
  split at h
  · next hcode =>
    cases h
    simp [hcode]
  · next code hcode =>
    unfold OperationalErrorIdentity.new at h
    split at h
    · next hknown =>
      cases h
      simp [hcode, hknown]
    · cases h

theorem LegacyDraft.exists_error (h : draft.errorCode.all (anyOf knownOperationalErrorCodes) = true) :
    ∃ error, draft.error = .ok error := by
  unfold LegacyDraft.error
  split
  · exact ⟨_, rfl⟩
  · next code hcode =>
    rw [hcode] at h
    have hknown : anyOf knownOperationalErrorCodes code = true := h
    rw [OperationalErrorIdentity.new, dif_pos hknown]
    exact ⟨_, rfl⟩

theorem OperationalEvent.check_eq_ok : a.check = .ok () ↔
    isUuid a.eventId = true ∧ anyOf components a.component = true ∧
      anyOf subsystems a.subsystem = true ∧ anyOf stages a.stage = true ∧
      isEventName a.name = true ∧ checkOutcome a.error.isSome a.outcome = .ok () ∧
      validate a.attributes a.privacyClass = .ok () := by
  have houtcome : (∃ u, checkOutcome a.error.isSome a.outcome = .ok u ∧
      validate a.attributes a.privacyClass = .ok ()) ↔
        checkOutcome a.error.isSome a.outcome = .ok () ∧
          validate a.attributes a.privacyClass = .ok () :=
    ⟨fun ⟨_, h⟩ => h, fun h => ⟨(), h⟩⟩
  unfold Arguments.check
  rw [require_bind_eq_ok, require_bind_eq_ok, require_bind_eq_ok, require_bind_eq_ok,
    require_bind_eq_ok, Results.bind_eq_ok, houtcome]

/-- The constructors accept just the sound drafts. -/
theorem LegacyDraft.translate_eq_ok : (∃ event, draft.translate = .ok event) ↔ draft.IsSound := by
  unfold translate
  constructor
  · rintro ⟨event, h⟩
    obtain ⟨correlation, hcorrelation, h⟩ := Results.bind_eq_ok.mp h
    obtain ⟨error, herror, h⟩ := Results.bind_eq_ok.mp h
    obtain ⟨hcode, hsome⟩ := error_eq_ok herror
    have hevent := event.accepted
    rw [OperationalEvent.new_eq_ok h, OperationalEvent.check_eq_ok] at hevent
    obtain ⟨heventId, hcomponent, hsubsystem, hstage, hname, houtcome, hattributes⟩ := hevent
    rw [hsome] at houtcome
    exact ⟨OperationalCorrelation.new_eq_ok.mp ⟨_, hcorrelation⟩, hcode, heventId, hcomponent,
      hsubsystem, hstage, hname, houtcome, hattributes⟩
  · intro h
    obtain ⟨correlation, hcorrelation⟩ := OperationalCorrelation.new_eq_ok.mpr h.correlation
    obtain ⟨error, herror⟩ := exists_error h.code
    have hsome := (error_eq_ok herror).2
    simp only [hcorrelation, herror, bind, Except.bind]
    refine OperationalEvent.exists_new (OperationalEvent.check_eq_ok.mpr
      ⟨h.eventId, h.component, h.subsystem, h.stage, h.name, ?_, h.attributes⟩)
    rw [hsome]
    exact h.outcome

/-! ## Attributes -/

/-- A field that the policy accepts. -/
def IsSoundField (field : Text × Document) : Prop :=
  field.1 ≠ text "http_64k_observation" ∧ anyOf allowedAttributeKeys field.1 = true ∧
    validateValue field.1 field.2 = .ok ()

theorem validate_of_sound {attributes : Fields} (hlength : attributes.length ≤ 12)
    (h : ∀ field ∈ attributes, IsSoundField field) :
    validate attributes .localOperational = .ok () := by
  have hkey : hasKey attributes "http_64k_observation" = false := by
    rw [hasKey, Option.isSome_eq_false_iff, Option.isNone_iff_eq_none, List.lookup_eq_none_iff]
    intro field hfield
    simpa using (h field hfield).1.symm
  rw [validate, if_neg (Nat.not_lt.mpr hlength), hkey, Bool.false_and, if_neg Bool.false_ne_true]
  refine Results.forM_eq_ok ?_
  rintro ⟨key, value⟩ hfield
  obtain ⟨-, hallowed, hvalue⟩ := h _ hfield
  simp only at hallowed hvalue
  simp [allowedForMode, hallowed, hvalue]

theorem soundField_retryCount {attempt : Int} (hlow : 0 ≤ attempt) (hhigh : attempt ≤ 100) :
    IsSoundField (text "retry_count", .int attempt) := by
  have hkey : text "retry_count" ≠ text "preparation" ∧ text "retry_count" ≠ text "probe_error" ∧
      text "retry_count" ≠ text "http_64k_observation" ∧ text "retry_count" ≠ text "effective_mtu" ∧
      text "retry_count" ≠ text "http_status" := by decide
  obtain ⟨hpreparation, hprobe, hobservation, hmtu, hstatus⟩ := hkey
  have hboolean : ¬ anyOf booleanKeys (text "retry_count") = true := by decide
  have hinteger : anyOf integerKeys (text "retry_count") = true := by decide
  have hbound : largest (text "retry_count") = some 100 := by decide
  refine ⟨hobservation, anyOf_text (by simp [allowedAttributeKeys]), ?_⟩
  rw [validateValue, if_neg hpreparation, if_neg hprobe, if_neg hobservation, if_neg hboolean,
    if_pos hinteger]
  · simp [validateInteger, hbound, hmtu, hstatus, hhigh, Int.not_lt.mpr hlow]
  · nofun

/-- A mapping that makes sound drafts, but for the name of its successes. -/
def LegacyEventMapping.isSound (mapping : LegacyEventMapping) : Bool :=
  anyOf subsystems (text mapping.subsystem) && anyOf stages (text mapping.stage) &&
    isEventName (text mapping.failedName) &&
    anyOf ["bootstrap", "profile", "core", "tun", "routes", "dns", "egress", "recovery", "stop"]
      (text mapping.phase) &&
    mapping.attributeKey.all fun key =>
      anyOf ["interface_ready", "routes_ready", "dns_ready", "egress_ready"] (text key)

/-- The parts of a runtime that a mapping names are fields of the policy. -/
theorem soundField_readiness {mapping : LegacyEventMapping} (h : mapping.isSound = true)
    (failed : Bool) : ∀ field ∈ readiness mapping failed, IsSoundField field := by
  simp only [LegacyEventMapping.isSound, Bool.and_eq_true] at h
  obtain ⟨-, hkey⟩ := h
  unfold readiness
  cases hattribute : mapping.attributeKey with
  | none => simp
  | some key =>
    rw [hattribute] at hkey
    simp only [Option.all_some, anyOf, List.any_cons, List.any_nil, Bool.or_false, Bool.or_eq_true,
      decide_eq_true_eq] at hkey
    intro field hfield
    obtain rfl := List.mem_singleton.mp hfield
    have hsound : ∀ ready, ∀ name ∈ ["interface_ready", "routes_ready", "dns_ready", "egress_ready"],
        IsSoundField (text name, .bool ready) := by
      unfold IsSoundField
      decide
    rcases hkey with hkey | hkey | hkey | hkey
    · exact hkey ▸ hsound _ "interface_ready" (by simp)
    · exact hkey ▸ hsound _ "routes_ready" (by simp)
    · exact hkey ▸ hsound _ "dns_ready" (by simp)
    · exact hkey ▸ hsound _ "egress_ready" (by simp)

/-- The phases of the contract. -/
theorem soundField_phase {phase : Text} (h : anyOf ["bootstrap", "profile", "core", "tun", "routes",
    "dns", "egress", "recovery", "stop"] phase = true) :
    IsSoundField (text "phase", .string phase) := by
  simp only [anyOf, List.any_cons, List.any_nil, Bool.or_false, Bool.or_eq_true,
    decide_eq_true_eq] at h
  have hsound : ∀ name ∈ ["bootstrap", "profile", "core", "tun", "routes", "dns", "egress",
      "recovery", "stop"], IsSoundField (text "phase", .string (text name)) := by
    unfold IsSoundField
    decide
  rcases h with rfl | rfl | rfl | rfl | rfl | rfl | rfl | rfl | rfl <;> exact hsound _ (by simp)

/-! ## Tables -/

theorem mem_of_mappingOf {mappings : List (String × LegacyEventMapping)} {key : Text}
    {mapping : LegacyEventMapping} (h : mappingOf mappings key = some mapping) :
    ∃ entry ∈ mappings, text entry.1 = key ∧ entry.2 = mapping := by
  obtain ⟨entry, hfind, hmapping⟩ := Option.map_eq_some_iff.mp h
  exact ⟨entry, List.mem_of_find?_eq_some hfind, by simpa using List.find?_some hfind, hmapping⟩

/-- The names of the tables that have at least three segments. -/
def legacyNames : List String :=
  ["bootstrap.phase.completed", "bootstrap.phase.failed", "connection.profile.fetch.completed",
    "connection.profile.fetch.failed", "connection.core.start.completed",
    "connection.core.start.failed", "connection.tun.create.completed",
    "connection.tun.create.failed", "connection.routes.apply.completed",
    "connection.routes.apply.failed", "connection.probe.dns.completed",
    "connection.probe.egress.completed", "connection.rollback.started",
    "connection.rollback.completed", "connection.rollback.failed"]

theorem isEventName_of_mem : (∀ name ∈ legacyNames, isEventName (text name) = true) ∧
    ¬ isEventName (text "connection.stopped") = true ∧
    ∀ entry ∈ coreEventMappings, isEventName (text entry.1) = true := by
  decide +kernel

/-- Only a stop that succeeds has a name of two segments. -/
theorem isEventName_iff {name : String} (stop : Prop) (h : name ∈ legacyNames ∧ ¬ stop ∨
    name = "connection.stopped" ∧ stop) : isEventName (text name) = true ↔ ¬ stop := by
  rcases h with ⟨hname, hstop⟩ | ⟨rfl, hstop⟩
  · exact iff_of_true (isEventName_of_mem.1 _ hname) hstop
  · exact iff_of_false isEventName_of_mem.2.1 (not_not.mpr hstop)

theorem isEventName_runtime : ∀ entry ∈ runtimeMappings,
    isEventName (text entry.2.succeededName) = true ↔ text entry.1 ≠ text "stop" := by
  have hnames : ∀ entry ∈ runtimeMappings, entry.2.succeededName ∈ legacyNames ∧
      text entry.1 ≠ text "stop" ∨ entry.2.succeededName = "connection.stopped" ∧
        text entry.1 = text "stop" := by
    decide
  exact fun entry hentry => isEventName_iff _ (hnames entry hentry)

theorem isEventName_service : ∀ entry ∈ serviceMappings,
    isEventName (text entry.2.succeededName) = true ↔ text entry.1 ≠ text "runtime_core_stop" := by
  have hnames : ∀ entry ∈ serviceMappings, entry.2.succeededName ∈ legacyNames ∧
      text entry.1 ≠ text "runtime_core_stop" ∨ entry.2.succeededName = "connection.stopped" ∧
        text entry.1 = text "runtime_core_stop" := by
    decide
  exact fun entry hentry => isEventName_iff _ (hnames entry hentry)

theorem isSound_of_mem : ∀ entry ∈ runtimeMappings ++ serviceMappings,
    entry.2.isSound = true := by
  have hlisted : ∀ entry ∈ runtimeMappings ++ serviceMappings, entry.2.subsystem ∈ subsystems ∧
      entry.2.stage ∈ stages ∧ entry.2.phase ∈ ["bootstrap", "profile", "core", "tun", "routes",
        "dns", "egress", "recovery", "stop"] ∧ ∀ key ∈ entry.2.attributeKey,
          key ∈ ["interface_ready", "routes_ready", "dns_ready", "egress_ready"] := by
    decide
  have hnames : ∀ entry ∈ runtimeMappings ++ serviceMappings, entry.2.failedName ∈ legacyNames := by
    decide
  intro entry hentry
  obtain ⟨hsubsystem, hstage, hphase, hkey⟩ := hlisted entry hentry
  have hname := isEventName_of_mem.1 _ (hnames entry hentry)
  have hattribute := (Option.all_eq_true _ _).mpr fun key hmem => anyOf_text (hkey key hmem)
  simp only [LegacyEventMapping.isSound, Bool.and_eq_true]
  exact ⟨⟨⟨⟨anyOf_text hsubsystem, anyOf_text hstage⟩, hname⟩, anyOf_text hphase⟩, hattribute⟩

theorem sound_core : ∀ entry ∈ coreEventMappings,
    isEventName (text entry.1) = true ∧ anyOf subsystems (text entry.2.subsystem) = true ∧
      anyOf stages (text entry.2.stage) = true ∧
      anyOf ["bootstrap", "profile", "core", "tun", "routes", "dns", "egress", "recovery", "stop"]
        (text (canonicalPhase entry.2.phase)) = true := by
  have hlisted : ∀ entry ∈ coreEventMappings, entry.2.subsystem ∈ subsystems ∧
      entry.2.stage ∈ stages ∧ canonicalPhase entry.2.phase ∈ ["bootstrap", "profile", "core",
        "tun", "routes", "dns", "egress", "recovery", "stop"] := by
    decide
  intro entry hentry
  obtain ⟨hsubsystem, hstage, hphase⟩ := hlisted entry hentry
  exact ⟨isEventName_of_mem.2.2 entry hentry, anyOf_text hsubsystem, anyOf_text hstage,
    anyOf_text hphase⟩

/-- A table of cases has the values of its cases. -/
theorem caseOf_mem {cases : List (String × String)} {otherwise : String} {codes : List String}
    (hcases : ∀ entry ∈ cases, entry.2 ∈ codes) (hotherwise : otherwise ∈ codes) (key : Text) :
    caseOf cases otherwise key ∈ codes := by
  unfold caseOf
  cases hfind : cases.find? fun entry => text entry.1 = key with
  | none => exact hotherwise
  | some entry => exact hcases entry (List.mem_of_find?_eq_some hfind)

theorem known_legacyRuntimeError (event : Text) (failureKind : Option Text) :
    anyOf knownOperationalErrorCodes (text (legacyRuntimeError event failureKind)) = true := by
  refine anyOf_text ?_
  unfold legacyRuntimeError
  split
  · decide
  · split
    · decide
    · exact caseOf_mem (by decide) (by decide) event

theorem known_serviceError (event status : Text) :
    anyOf knownOperationalErrorCodes (text (serviceError event status)) = true := by
  refine anyOf_text ?_
  unfold serviceError
  split
  · decide
  · split
    · decide
    · split
      · decide
      · exact caseOf_mem (by decide) (by decide) event

theorem known_of_coreError {code : Text} (h : anyOf coreEventErrorCodes code = true) :
    anyOf knownOperationalErrorCodes code = true := by
  obtain ⟨name, hname, hcode⟩ := List.any_eq_true.mp h
  obtain rfl := of_decide_eq_true hcode
  have hknown : ∀ name ∈ coreEventErrorCodes, name ∈ knownOperationalErrorCodes := by
    decide
  exact anyOf_text (hknown name hname)

/-! ## Correlations -/

/-- A context whose parts the constructors accept. -/
structure LegacyTranslationContext.Valid (context : LegacyTranslationContext) : Prop where
  traceId : isTrace context.traceId = true
  runId : context.runId.all isUuid = true
  attemptId : context.attemptId.all isUuid = true
  generation : 0 ≤ context.generation ∧ context.generation ≤ 0x7fffffff
  firstSequence : 0 ≤ context.firstSequence ∧ context.firstSequence < 2 ^ 63
  eventId : ∀ sequence, isUuid (context.eventIdFactory sequence) = true

variable {surroundings : LegacySurroundings} {context : LegacyTranslationContext}

theorem isSpan_spanId (value : Text) : isSpan (spanId surroundings value) = true := by
  have hhex := List.all_eq_true.mp (surroundings.sha256_hex (utf8Encode value))
  have hall : (spanId surroundings value).all isLowerHex = true :=
    List.all_eq_true.mpr fun u hu => hhex u (List.mem_of_mem_take hu)
  have hlength : (spanId surroundings value).length = 16 := by
    simp [spanId, surroundings.sha256_length]
  simp [isSpan, hall, hlength]

theorem flatten_pieces (separator : UInt16) (s : Text) :
    (pieces separator s).flatten = s.filter fun u => u ≠ separator := by
  induction s with
  | nil => rfl
  | cons u rest ih =>
    by_cases hu : u = separator
    · simp [pieces, hu, ih]
    · cases hpieces : pieces separator rest with
      | nil => exact absurd hpieces (pieces_ne_nil separator rest)
      | cons piece others =>
        rw [hpieces] at ih
        simpa [pieces, hu, hpieces] using ih

/-- The digits of an identifier are a trace. -/
theorem isTrace_of_isUuid {s : Text} (h : isUuid s = true) :
    isTrace (s.filter fun u => u ≠ unit '-') = true := by
  rw [← flatten_pieces]
  unfold isUuid at h
  split at h
  · next a b d e f hpieces =>
    simp only [Bool.and_eq_true, decide_eq_true_eq, List.map_cons, List.map_nil, List.all_cons,
      List.all_nil, List.cons.injEq, and_true] at h
    obtain ⟨⟨⟨⟨ha, hb, hd, he, hf⟩, hla, hlb, hld, hle, hlf⟩, -⟩, -⟩ := h
    simp [isTrace, hpieces, hla, hlb, hld, hle, hlf, List.all_append, ha, hb, hd, he, hf]
  · cases h

theorem checkOutcome_failed {α : Type} {code : α} (h : outcome ≠ .blocked) :
    checkOutcome (if decide (outcome = .failed) = true then some code else none).isSome outcome =
      .ok () := by
  by_cases hfailed : outcome = .failed
  · simp [checkOutcome, hfailed]
  · simp [checkOutcome, hfailed, h]

theorem legacyOutcome_ne_blocked {value : Text} (h : legacyOutcome value = some outcome) :
    outcome ≠ .blocked := by
  unfold legacyOutcome at h
  split_ifs at h <;> cases h <;> nofun

theorem serviceOutcome_ne_blocked {value : Text} (h : serviceOutcome value = some outcome) :
    outcome ≠ .blocked := by
  unfold serviceOutcome at h
  split_ifs at h <;> cases h <;> nofun

/-! ## Records -/

theorem readRuntimeRecord_eq_some {record : Fields} {r : RuntimeRecord}
    (h : readRuntimeRecord surroundings record = some r) :
    mappingOf runtimeMappings r.event = some r.mapping ∧ r.outcome ≠ .blocked := by
  unfold readRuntimeRecord at h
  split at h
  · next event rawOutcome occurredAt hevent hrawOutcome hoccurredAt =>
    obtain ⟨mapping, hmapping, h⟩ := Option.bind_eq_some_iff.mp h
    obtain ⟨outcome, houtcome, h⟩ := Option.bind_eq_some_iff.mp h
    cases h
    exact ⟨hmapping, legacyOutcome_ne_blocked houtcome⟩
  · cases h

theorem readServiceRecord_eq_some {fields : List Text} {occurredAt : DateTime}
    {sourceSequence : Int} {r : ServiceRecord}
    (h : readServiceRecord fields occurredAt sourceSequence = some r) :
    mappingOf serviceMappings (fieldAt r.fields 3) = some r.mapping ∧ r.outcome ≠ .blocked := by
  obtain ⟨outcome, houtcome, h⟩ := Option.bind_eq_some_iff.mp h
  obtain ⟨mapping, hmapping, h⟩ := Option.bind_eq_some_iff.mp h
  cases h
  exact ⟨hmapping, serviceOutcome_ne_blocked houtcome⟩

theorem retryCount_sound (record : Fields) :
    (retryCount record).length ≤ 1 ∧ ∀ field ∈ retryCount record, IsSoundField field := by
  unfold retryCount
  split
  · next attempt hattempt =>
    by_cases hbound : 0 ≤ attempt ∧ attempt ≤ 100
    · simpa [hbound] using soundField_retryCount hbound.1 hbound.2
    · simp [hbound]
  · simp

theorem length_readiness (mapping : LegacyEventMapping) (failed : Bool) :
    (readiness mapping failed).length ≤ 1 := by
  unfold readiness
  split <;> simp

/-- A draft of a mapping is accepted, but for the name of a stop that did not fail. -/
theorem LegacyEventMapping.isSound_draft (base : LegacyDraft) {mapping : LegacyEventMapping}
    {stop : Prop} {code : Text} {more : Fields} (hsound : mapping.isSound = true)
    (hname : isEventName (text mapping.succeededName) = true ↔ ¬ stop) (houtcome : outcome ≠ .blocked)
    (hcorrelation : base.correlation.check = .ok () ↔ 0 ≤ base.correlation.sequence)
    (heventId : isUuid base.eventId = true)
    (hcomponent : anyOf components (text base.component) = true)
    (hcode : anyOf knownOperationalErrorCodes code = true)
    (hmore : more.length ≤ 1 ∧ ∀ field ∈ more, IsSoundField field) :
    { base with
      subsystem := mapping.subsystem
      stage := mapping.stage
      name := text (if decide (outcome = .failed) = true then mapping.failedName
        else mapping.succeededName)
      outcome := outcome
      errorCode := if decide (outcome = .failed) = true then some code else none
      attributes := (text "phase", .string (text mapping.phase)) ::
        (more ++ readiness mapping (decide (outcome = .failed))) : LegacyDraft }.IsSound ↔
      (stop → outcome = .failed) ∧ 0 ≤ base.correlation.sequence := by
  have hparts := hsound
  simp only [isSound, Bool.and_eq_true] at hparts
  obtain ⟨⟨⟨⟨hsubsystem, hstage⟩, hfailedName⟩, hphase⟩, -⟩ := hparts
  constructor
  · intro h
    refine ⟨fun hstop => ?_, hcorrelation.mp h.correlation⟩
    by_contra hfailed
    have hsucceeded := h.name
    simp only [hfailed, decide_false, Bool.false_eq_true, if_false] at hsucceeded
    exact hname.mp hsucceeded hstop
  · rintro ⟨hstop, hsequence⟩
    constructor
    case correlation => exact hcorrelation.mpr hsequence
    case code =>
      by_cases hfailed : outcome = .failed
      · simp [hfailed, hcode]
      · simp [hfailed]
    case eventId => exact heventId
    case component => exact hcomponent
    case subsystem => exact hsubsystem
    case stage => exact hstage
    case name =>
      by_cases hfailed : outcome = .failed
      · simp [hfailed, hfailedName]
      · simp [hfailed, hname.mpr fun h => hfailed (hstop h)]
    case outcome => exact checkOutcome_failed houtcome
    case attributes =>
      have hready := soundField_readiness hsound (decide (outcome = .failed))
      have hreadiness := length_readiness mapping (decide (outcome = .failed))
      refine validate_of_sound ?_ ?_
      · simp only [List.length_cons, List.length_append]
        omega
      · intro field hfield
        simp only [List.mem_cons, List.mem_append] at hfield
        rcases hfield with rfl | hfield | hfield
        · exact soundField_phase hphase
        · exact hmore.2 field hfield
        · exact hready field hfield

/-- A runtime record is accepted, but for a stop that did not fail. -/
theorem RuntimeRecord.isSound_draft (valid : context.Valid) {r : RuntimeRecord}
    (hmapping : mappingOf runtimeMappings r.event = some r.mapping) (houtcome : r.outcome ≠ .blocked)
    {sequence : Int} : (r.draft surroundings context sequence).IsSound ↔
      (r.event = text "stop" → r.outcome = .failed) ∧ 0 ≤ sequence := by
  obtain ⟨entry, hentry, hevent, hentryMapping⟩ := mem_of_mappingOf hmapping
  have hname := isEventName_runtime entry hentry
  have hsound := isSound_of_mem entry (List.mem_append_left _ hentry)
  rw [hentryMapping] at hsound
  rw [hevent, hentryMapping] at hname
  refine LegacyEventMapping.isSound_draft (r.draft surroundings context sequence) hsound hname
    houtcome ⟨fun h => (OperationalCorrelation.check_eq_ok.mp h).2.2.2.2.2.2, fun hsequence => ?_⟩
    (valid.eventId sequence) ?_ (known_legacyRuntimeError _ _) (retryCount_sound r.record)
  · exact OperationalCorrelation.check_eq_ok.mpr ⟨valid.traceId, isSpan_spanId _, rfl,
      valid.runId, valid.attemptId, valid.generation, hsequence⟩
  · have hcomponents : anyOf components (text "windows_host") = true ∧
        anyOf components (text "app") = true := by decide
    simp only [draft]
    split
    · exact hcomponents.1
    · exact hcomponents.2

/-- A service record is accepted, but for a stop of the core that did not fail. -/
theorem ServiceRecord.isSound_draft (valid : context.Valid) {r : ServiceRecord}
    (hmapping : mappingOf serviceMappings (fieldAt r.fields 3) = some r.mapping)
    (houtcome : r.outcome ≠ .blocked) {sequence : Int} :
    (r.draft surroundings context sequence).IsSound ↔
      (fieldAt r.fields 3 = text "runtime_core_stop" → r.outcome = .failed) ∧ 0 ≤ sequence := by
  obtain ⟨entry, hentry, hevent, hentryMapping⟩ := mem_of_mappingOf hmapping
  have hname := isEventName_service entry hentry
  have hsound := isSound_of_mem entry (List.mem_append_right _ hentry)
  rw [hentryMapping] at hsound
  rw [hevent, hentryMapping] at hname
  have hnone : ([] : Fields).length ≤ 1 ∧ ∀ field ∈ ([] : Fields), IsSoundField field :=
    ⟨Nat.zero_le 1, nofun⟩
  refine LegacyEventMapping.isSound_draft (r.draft surroundings context sequence) hsound hname
    houtcome ⟨fun h => (OperationalCorrelation.check_eq_ok.mp h).2.2.2.2.2.2, fun hsequence => ?_⟩
    (valid.eventId sequence) (by decide : anyOf components (text "windows_service") = true)
    (known_serviceError _ _) hnone
  refine OperationalCorrelation.check_eq_ok.mpr ⟨?_, isSpan_spanId _, rfl, valid.runId,
    valid.attemptId, valid.generation, hsequence⟩
  by_cases htrace : isTrace (fieldAt r.fields 7) = true
  · simp [draft, htrace]
  · simp [draft, htrace, valid.traceId]

/-- What was checked before a core record is translated. -/
structure CoreRecord.Checked (r : CoreRecord) : Prop where
  runId : isUuid (fieldAt r.fields 4) = true
  attemptId : isUuid (fieldAt r.fields 5) = true
  generation : 1 ≤ r.generation ∧ r.generation ≤ 0x7fffffff
  sequence : 1 ≤ r.sequence
  mapping : mappingOf coreEventMappings (fieldAt r.fields 8) = some r.mapping
  outcome : r.outcome ≠ .blocked
  failed : r.outcome = .failed → r.rawError.any (anyOf coreEventErrorCodes) = true
  succeeded : r.outcome ≠ .failed → r.rawError = none

theorem guard_bind_eq_some {α : Type} {p : Prop} [Decidable p] {f : Unit → Option α} {a : α} :
    (guard p >>= f) = some a ↔ p ∧ f () = some a := by
  by_cases hp : p
  · simp [guard, hp]
  · simp [guard, hp]

theorem readCoreRecord_eq_some {fields : List Text} {r : CoreRecord}
    (h : readCoreRecord surroundings fields = some r) : r.Checked := by
  unfold readCoreRecord at h
  obtain ⟨-, h⟩ := guard_bind_eq_some.mp h
  obtain ⟨occurredAt, -, h⟩ := Option.bind_eq_some_iff.mp h
  obtain ⟨⟨hrunId, hattemptId⟩, h⟩ := guard_bind_eq_some.mp h
  obtain ⟨generation, -, h⟩ := Option.bind_eq_some_iff.mp h
  obtain ⟨hgeneration, h⟩ := guard_bind_eq_some.mp h
  obtain ⟨sequence, -, h⟩ := Option.bind_eq_some_iff.mp h
  obtain ⟨hsequence, h⟩ := guard_bind_eq_some.mp h
  obtain ⟨definition, hdefinition, h⟩ := Option.bind_eq_some_iff.mp h
  obtain ⟨-, h⟩ := guard_bind_eq_some.mp h
  obtain ⟨outcome, houtcome, h⟩ := Option.bind_eq_some_iff.mp h
  obtain ⟨-, h⟩ := guard_bind_eq_some.mp h
  obtain ⟨-, h⟩ := guard_bind_eq_some.mp h
  obtain ⟨hfailed, h⟩ := guard_bind_eq_some.mp h
  obtain ⟨hsucceeded, h⟩ := guard_bind_eq_some.mp h
  cases h
  exact ⟨hrunId, hattemptId, hgeneration, hsequence, hdefinition, legacyOutcome_ne_blocked houtcome,
    hfailed, hsucceeded⟩

/-- Every core record is accepted. -/
theorem CoreRecord.Checked.isSound_draft {r : CoreRecord} (checked : r.Checked)
    (valid : context.Valid) (sequence : Int) :
    (r.draft surroundings context sequence).IsSound := by
  obtain ⟨entry, hentry, hname, hmapping⟩ := mem_of_mappingOf checked.mapping
  obtain ⟨heventName, hsubsystem, hstage, hphase⟩ := sound_core entry hentry
  rw [hmapping] at hsubsystem hstage hphase
  rw [hname] at heventName
  constructor
  case correlation =>
    have hgeneration := checked.generation
    have hsequence := checked.sequence
    refine OperationalCorrelation.check_eq_ok.mpr ⟨isTrace_of_isUuid checked.runId,
      isSpan_spanId _, rfl, checked.runId, checked.attemptId, ⟨?_, hgeneration.2⟩, ?_⟩
    · simp only [draft]
      omega
    · simp only [draft]
      omega
  case code =>
    by_cases hfailed : r.outcome = .failed
    · obtain ⟨code, hcode, hknown⟩ := (Option.any_eq_true _ _).mp (checked.failed hfailed)
      simpa [draft, hcode] using known_of_coreError hknown
    · simp [draft, checked.succeeded hfailed]
  case eventId => exact valid.eventId sequence
  case component => exact (by decide : anyOf components (text "core") = true)
  case subsystem => exact hsubsystem
  case stage => exact hstage
  case name => exact heventName
  case outcome =>
    by_cases hfailed : r.outcome = .failed
    · cases hcode : r.rawError with
      | none => simpa [hcode] using checked.failed hfailed
      | some code => simp [draft, checkOutcome, hfailed, hcode]
    · simp [draft, checkOutcome, hfailed, checked.outcome, checked.succeeded hfailed]
  case attributes =>
    refine validate_of_sound (by simp [draft]) fun field hfield => ?_
    obtain rfl := List.mem_singleton.mp hfield
    exact soundField_phase hphase

end Pokrov.Observability
