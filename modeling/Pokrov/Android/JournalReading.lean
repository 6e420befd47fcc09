import Pokrov.Android.OperationalJournal

/-!
# Reading the operational journal back

Of a line that was written for a valid record the reader takes what the record says, if it
is a candidate probe with a duration and a phase, and nothing otherwise.
-/

namespace Pokrov.Android.OperationalJournal

open Dart JsonText Scanning

/-! ## Numbers -/

theorem decimal_ne_nil (n : Nat) : decimal n ≠ [] := by
  rw [decimal_eq]
  split <;> simp

theorem isDigit_decimal (n : Nat) : ∀ u ∈ decimal n, isDigit u = true :=
  List.all_eq_true.mp (all_decimal n)

variable {rest : Text} {n : Nat} {s : Text} {r : AndroidOperationalRecord}
  {d : AndroidCandidateProbeDiagnostic}

theorem ends_text {p : UInt16 → Bool} {s : String} {u : UInt16} (hhead : (text s).head? = some u)
    (hu : p u = false) : Ends p (text s ++ rest) := by
  intro v hv
  rw [List.head?_append_of_ne_nil _ (by rintro h; simp [h] at hhead), hhead] at hv
  cases hv
  exact hu

theorem many_decimal (hrest : Ends isDigit rest) :
    many isDigit (decimal n ++ rest) = some (decimal n, rest) :=
  many_append (decimal_ne_nil n) (isDigit_decimal n) hrest

theorem scanPositive_decimal (hn : 0 < n) (hrest : Ends isDigit rest) :
    scanPositive (decimal n ++ rest) = some (decimal n, rest) := by
  rw [scanPositive, many_decimal hrest]
  simp [(head?_decimal hn).1]

@[simp] theorem after_append {α : Type} (name : String) (scan : Text → Option (α × Text))
    (input : Text) : after name scan (text name ++ input) = scan input := by
  simp [after]

theorem toLongOrNull_decimal (n : Count) : toLongOrNull (decimal n.1) = some n.1 := by
  rw [toLongOrNull, number_decimal, if_pos n.2]

/-! ## Timestamps -/

theorem length_of_fits {shape : List Char} (h : fits shape s = true) : s.length = shape.length := by
  induction shape generalizing s with
  | nil => cases s <;> simp_all [fits]
  | cons c shape ih =>
    cases s with
    | nil => simp [fits] at h
    | cons u s =>
      rw [fits, Bool.and_eq_true] at h
      simp [ih h.2]

theorem mem_of_fits {shape : List Char} (h : fits shape s = true) :
    ∀ u ∈ s, isDigit u = true ∨ ∃ c ∈ shape, u = unit c := by
  induction shape generalizing s with
  | nil => cases s <;> simp_all [fits]
  | cons c shape ih =>
    cases s with
    | nil => simp
    | cons v s =>
      rw [fits, Bool.and_eq_true] at h
      intro u hu
      rcases List.mem_cons.mp hu with rfl | hu
      · by_cases hc : c = '0'
        · left
          simpa [hc] using h.1
        · right
          exact ⟨c, by simp, by simpa [hc] using h.1⟩
      · rcases ih h.2 u hu with hdigit | ⟨d, hd, hunit⟩
        · exact Or.inl hdigit
        · exact Or.inr ⟨d, by simp [hd], hunit⟩

theorem length_timestamp (h : isTimestamp s = true) : s.length = 24 := length_of_fits h

theorem scanTimestamp_append {s rest : Text} (h : isTimestamp s = true) :
    scanTimestamp (s ++ rest) = some (s, rest) := by
  have htake : (s ++ rest).take 24 = s := by
    rw [← length_timestamp h, List.take_left]
  have hdrop : (s ++ rest).drop 24 = rest := by
    rw [← length_timestamp h, List.drop_left]
  rw [scanTimestamp, htake, hdrop, if_pos h]

/-! ## Parts of a line -/

/-- What stands behind the event. -/
def behindEvent (r : AndroidOperationalRecord) : Text :=
  text "\",\"outcome\":\"" ++ (text r.outcome.wireValue ++ (text "\"" ++
    (appendOptional ",\"generation\":" r.generation ++ (text ",\"dropped_before\":" ++
      (decimal r.droppedBefore.1 ++ (appendOptional ",\"probe_sequence\":" r.probeSequence ++
        ((r.candidateProbe.map (·.fields)).getD [] ++ ((r.coreProbe.map (·.fields)).getD [] ++
          text "\x7d"))))))))

theorem toJsonLine_eq (r : AndroidOperationalRecord) :
    r.toJsonLine = text "\x7b\"schema_version\":1,\"occurred_at_utc\":\"" ++ (r.occurredAtUtc ++
      (text "\",\"sequence\":" ++ (decimal r.sequence.1 ++ (text ",\"event\":\"" ++
        (text r.event.wireValue ++ behindEvent r))))) := by
  simp only [AndroidOperationalRecord.toJsonLine, behindEvent, List.append_assoc]

theorem scanHead_line (r : AndroidOperationalRecord) :
    scanHead r.toJsonLine = some (r.occurredAtUtc,
      text ",\"event\":\"" ++ (text r.event.wireValue ++ behindEvent r)) := by
  have hends : Ends isDigit (text ",\"event\":\"" ++ (text r.event.wireValue ++ behindEvent r)) :=
    ends_text rfl rfl
  rw [toJsonLine_eq, scanHead, after_append, scanTimestamp_append r.timestamp]
  simp [scanPositive_decimal r.sequence_pos hends]

/-- No other event is taken for a candidate probe. -/
theorem scanEvent_other {event : AndroidOperationalEvent} (h : event ≠ .candidateProbe)
    (rest : Text) : scanEvent (text ",\"event\":\"" ++ (text event.wireValue ++ rest)) = none := by
  cases event with
  | candidateProbe => exact absurd rfl h
  | _ => rfl

theorem scanOutcome_append {outcome : AndroidOperationalOutcome}
    (h : outcome ∈ operationalOutcomes .candidateProbe) (rest : Text) :
    scanOutcome (text outcome.wireValue ++ rest) = some (outcome.wireValue, rest) := by
  simp only [operationalOutcomes, List.mem_cons, List.not_mem_nil, or_false] at h
  rcases h with rfl | rfl <;> rfl

/-- What is in front of the diagnostic is taken off. -/
theorem scanEvent_candidate (hevent : r.event = .candidateProbe) {probe : Text}
    (hprobe : (r.candidateProbe.map (·.fields)).getD [] ++ ((r.coreProbe.map (·.fields)).getD [] ++ text "\x7d") = probe)
    (hends : Ends isDigit probe) (hnone : literal (text ",\"probe_sequence\":") probe = none) :
    scanEvent (text ",\"event\":\"" ++ (text r.event.wireValue ++ behindEvent r)) =
      some (r.outcome.wireValue, probe) := by
  have hname : ∀ rest, text ",\"event\":\"" ++ (text AndroidOperationalEvent.candidateProbe.wireValue ++
      (text "\",\"outcome\":\"" ++ rest)) =
        text ",\"event\":\"candidate_probe\",\"outcome\":\"" ++ rest := fun rest => rfl
  have houtcome := r.outcome_mem
  rw [hevent] at houtcome
  have hsequence : optional (after ",\"probe_sequence\":" scanPositive)
      (appendOptional ",\"probe_sequence\":" r.probeSequence ++ probe) =
        (r.probeSequence.map fun n => decimal n.1, probe) := by
    cases hn : r.probeSequence with
    | none =>
      apply optional_none
      simp [appendOptional, after, hnone]
    | some n =>
      apply optional_some
      rw [appendOptional, List.append_assoc, after_append]
      exact scanPositive_decimal (r.probeSequence_pos n hn) hends
  have hdigits : Ends isDigit (appendOptional ",\"probe_sequence\":" r.probeSequence ++ probe) := by
    cases r.probeSequence with
    | none => exact hends
    | some n =>
      rw [appendOptional, List.append_assoc]
      exact ends_text rfl rfl
  have hgeneration : ∀ rest, optional (after ",\"generation\":" scanPositive)
      (appendOptional ",\"generation\":" r.generation ++ (text ",\"dropped_before\":" ++ rest)) =
        (r.generation.map fun n => decimal n.1, text ",\"dropped_before\":" ++ rest) := by
    intro rest
    cases hn : r.generation with
    | none =>
      apply optional_none
      rfl
    | some n =>
      apply optional_some
      rw [appendOptional, List.append_assoc, after_append]
      exact scanPositive_decimal (r.generation_pos n hn) (ends_text rfl rfl)
  rw [behindEvent, hevent, hname, hprobe, scanEvent, after_append, scanOutcome_append houtcome]
  simp [hgeneration, many_decimal hdigits, hsequence]

/-! ## Diagnostics -/

def phaseFields (d : AndroidCandidateProbeDiagnostic) : Text :=
  match d.phase with
  | none => []
  | some phase =>
    text ",\"phase\":\"" ++ text phase.wireValue ++ text "\",\"phase_started_ms\":" ++
      appendNumber d.phaseStartedMs

def setupFields (d : AndroidCandidateProbeDiagnostic) : Text :=
  match d.parseDurationMs with
  | none => []
  | some parse =>
    text ",\"parse_duration_ms\":" ++ decimal parse.1 ++ text ",\"create_duration_ms\":" ++
      appendNumber d.createDurationMs ++ text ",\"certificate_duration_ms\":" ++
      appendNumber d.certificateDurationMs

theorem fields_eq (d : AndroidCandidateProbeDiagnostic) :
    d.fields = appendOptional ",\"duration_ms\":" d.durationMs ++ (phaseFields d ++ setupFields d) := by
  rw [← List.append_assoc]
  rfl

/-- The setup that a diagnostic has. -/
def setupOf (d : AndroidCandidateProbeDiagnostic) : Option (Count × Count × Count) :=
  match d.parseDurationMs, d.createDurationMs, d.certificateDurationMs with
  | some parse, some create, some certificate => some (parse, create, certificate)
  | _, _, _ => none

/-- The durations of a setup are all there or none is. -/
theorem setup_cases (d : AndroidCandidateProbeDiagnostic) :
    (setupOf d = none ∧ setupFields d = []) ∨
    ∃ duration ∈ d.durationMs, ∃ parse create certificate : Count,
      setupOf d = some (parse, create, certificate) ∧
      setupFields d = text ",\"parse_duration_ms\":" ++ (decimal parse.1 ++
        (text ",\"create_duration_ms\":" ++ (decimal create.1 ++
          (text ",\"certificate_duration_ms\":" ++ decimal certificate.1)))) ∧
      create ≤ duration ∧ certificate ≤ create ∧ parse.1 ≤ duration.1 - create.1 := by
  rcases d.setup with ⟨hparse, hcreate, hcertificate⟩ |
    ⟨duration, hduration, parse, hparse, create, hcreate, certificate, hcertificate, hle⟩
  · left
    simp [setupOf, setupFields, hparse]
  · right
    refine ⟨duration, hduration, parse, create, certificate, ?_, ?_, hle⟩
    · rw [Option.mem_def] at hparse hcreate hcertificate
      simp [setupOf, hparse, hcreate, hcertificate]
    · rw [Option.mem_def] at hparse hcreate hcertificate
      simp [setupFields, appendNumber, hparse, hcreate, hcertificate]

/-- Digits of a setup. -/
def setupText (d : AndroidCandidateProbeDiagnostic) : Option (Text × Text × Text) :=
  (setupOf d).map fun (parse, create, certificate) =>
    (decimal parse.1, decimal create.1, decimal certificate.1)

theorem ends_close (p : UInt16 → Bool) (hp : p (unit '\x7d') = false) : Ends p (text "\x7d") := by
  intro u hu
  cases hu
  exact hp

theorem scanSetup_fields (d : AndroidCandidateProbeDiagnostic) :
    optional scanSetup (setupFields d ++ text "\x7d") = (setupText d, text "\x7d") := by
  rcases setup_cases d with ⟨hnone, hfields⟩ |
    ⟨duration, -, parse, create, certificate, hsetup, hfields, -⟩
  · rw [hfields, setupText, hnone]
    exact optional_none rfl
  · rw [hfields, setupText, hsetup]
    apply optional_some
    have hclose := many_decimal (n := certificate.1) (ends_close isDigit (by decide))
    simp only [List.append_assoc, scanSetup, after_append]
    rw [many_decimal (ends_text rfl rfl)]
    simp only [Option.bind_eq_bind, Option.bind_some, after_append]
    rw [many_decimal (ends_text rfl rfl)]
    simp only [Option.bind_some, after_append, hclose]

/-- The setup does not begin like a phase, and what it begins with is no digit. -/
theorem setup_begins (d : AndroidCandidateProbeDiagnostic) :
    literal (text ",\"phase\":\"") (setupFields d ++ text "\x7d") = none ∧
      Ends isDigit (setupFields d ++ text "\x7d") := by
  rcases setup_cases d with ⟨-, hfields⟩ | ⟨duration, -, parse, create, certificate, -, hfields, -⟩
  · rw [hfields]
    exact ⟨rfl, ends_close isDigit (by decide)⟩
  · rw [hfields, List.append_assoc]
    exact ⟨rfl, ends_text rfl rfl⟩

theorem isPhaseUnit_wireValue (phase : AndroidCandidateProbePhase) :
    text phase.wireValue ≠ [] ∧ ∀ u ∈ text phase.wireValue, isPhaseUnit u = true := by
  rw [← List.all_eq_true]
  cases phase <;> decide

/-- The spec of the reader: what a record says, if it has a duration and a phase. -/
def diagnosticOf (r : AndroidOperationalRecord) : Option Diagnostic :=
  match r.candidateProbe with
  | none => none
  | some d =>
    match d.durationMs, d.phase, d.phaseStartedMs with
    | some duration, some phase, some started =>
      some {
        occurredAt := r.occurredAtUtc
        stage := phase.wireValue
        outcome := if r.outcome = .verified then "succeeded" else "failed"
        durationMs := duration.1
        phaseStartedMs := started.1
        setup := (setupOf d).map fun (parse, create, certificate) =>
          (parse.1, create.1, certificate.1) }
    | _, _, _ => none

/-! ## Lines -/

theorem matchEntire_eq {outcome : String} {probe : Text}
    (h : scanEvent (text ",\"event\":\"" ++ (text r.event.wireValue ++ behindEvent r)) = some (outcome, probe)) :
    matchEntire r.toJsonLine = (do
      let (duration, rest) ← after ",\"duration_ms\":" (many isDigit) probe
      let (phase, rest) ← after ",\"phase\":\"" (many isPhaseUnit) rest
      let (started, rest) ← after "\",\"phase_started_ms\":" (many isDigit) rest
      let (setup, rest) := optional scanSetup rest
      if rest = text "\x7d" then
        some { occurredAt := r.occurredAtUtc, outcome, duration, phase, started, setup }
      else none) := by
  rw [matchEntire, scanHead_line]
  simp [h]

/-- A line without a duration does not match. -/
theorem matchEntire_bare (hevent : r.event = .candidateProbe)
    (hprobe : (r.candidateProbe.map (·.fields)).getD [] ++ ((r.coreProbe.map (·.fields)).getD [] ++ text "\x7d") = text "\x7d") :
    matchEntire r.toJsonLine = none := by
  have hscan := scanEvent_candidate hevent hprobe (ends_close isDigit (by decide)) rfl
  rw [matchEntire_eq hscan]
  rfl

/-- A line without a phase does not match. -/
theorem matchEntire_unphased {duration : Count} (hevent : r.event = .candidateProbe)
    (hprobe : (r.candidateProbe.map (·.fields)).getD [] ++ ((r.coreProbe.map (·.fields)).getD [] ++ text "\x7d") = text ",\"duration_ms\":" ++ (decimal duration.1 ++ (setupFields d ++ text "\x7d"))) :
    matchEntire r.toJsonLine = none := by
  have hscan := scanEvent_candidate hevent hprobe (ends_text rfl rfl) rfl
  obtain ⟨hphase, hends⟩ := setup_begins d
  rw [matchEntire_eq hscan, after_append, many_decimal hends]
  simp [after, hphase]

/-- A line with all that the pattern asks for. -/
theorem matchEntire_full {duration started : Count} {phase : AndroidCandidateProbePhase}
    (hevent : r.event = .candidateProbe)
    (hprobe : (r.candidateProbe.map (·.fields)).getD [] ++ ((r.coreProbe.map (·.fields)).getD [] ++ text "\x7d") = text ",\"duration_ms\":" ++ (decimal duration.1 ++ (text ",\"phase\":\"" ++ (text phase.wireValue ++ (text "\",\"phase_started_ms\":" ++ (decimal started.1 ++ (setupFields d ++ text "\x7d"))))))) :
    matchEntire r.toJsonLine = some {
      occurredAt := r.occurredAtUtc
      outcome := r.outcome.wireValue
      duration := decimal duration.1
      phase := text phase.wireValue
      started := decimal started.1
      setup := setupText d } := by
  have hscan := scanEvent_candidate hevent hprobe (ends_text rfl rfl) rfl
  obtain ⟨-, hends⟩ := setup_begins d
  obtain ⟨hne, hunits⟩ := isPhaseUnit_wireValue phase
  have hquote : Ends isPhaseUnit (text "\",\"phase_started_ms\":" ++ (decimal started.1 ++
      (setupFields d ++ text "\x7d"))) := ends_text rfl rfl
  have hphase := many_append hne hunits hquote
  rw [matchEntire_eq hscan, after_append, many_decimal (ends_text rfl rfl)]
  simp only [Option.bind_eq_bind, Option.bind_some, after_append]
  rw [hphase]
  simp only [Option.bind_some, after_append]
  rw [many_decimal hends]
  simp [scanSetup_fields]

theorem find_phase (phase : AndroidCandidateProbePhase) :
    AndroidCandidateProbePhase.values.find? (fun p => text p.wireValue = text phase.wireValue) =
      some phase := by
  cases phase <;> rfl

theorem readSetup_text {duration : Count} (h : d.durationMs = some duration) :
    readSetup duration.1 (setupText d) = some ((setupOf d).map fun (parse, create, certificate) =>
      (parse.1, create.1, certificate.1)) := by
  rcases setup_cases d with ⟨hnone, -⟩ |
    ⟨duration', hduration, parse, create, certificate, hsetup, -, hcreate, hcertificate, hparse⟩
  · rw [setupText, hnone]
    rfl
  · rw [h] at hduration
    cases hduration
    rw [setupText, hsetup]
    have hcreate' : create.1 ≤ duration.1 := hcreate
    have hcertificate' : certificate.1 ≤ create.1 := hcertificate
    simp only [Option.map_some, readSetup, toLongOrNull_decimal]
    rw [if_neg (by omega)]

theorem verified_wireValue (outcome : AndroidOperationalOutcome) :
    outcome.wireValue = "verified" ↔ outcome = .verified := by
  cases outcome <;> decide

/-- The reader takes from a line what its record says. -/
theorem readRecord_line (r : AndroidOperationalRecord) : readRecord r.toJsonLine = diagnosticOf r := by
  by_cases hevent : r.event = .candidateProbe
  · have hcore : r.coreProbe = none := by
      rcases r.core with hnone | hother
      · exact hnone
      · rw [hevent] at hother
        cases hother
    cases hprobe : r.candidateProbe with
    | none =>
      rw [readRecord, matchEntire_bare hevent (by simp [hprobe, hcore]), diagnosticOf, hprobe]
      rfl
    | some d =>
      have hfields : (r.candidateProbe.map (·.fields)).getD [] ++
          ((r.coreProbe.map (·.fields)).getD [] ++ text "\x7d") =
            appendOptional ",\"duration_ms\":" d.durationMs ++ (phaseFields d ++
              (setupFields d ++ text "\x7d")) := by
        simp [hprobe, hcore, fields_eq]
      have hphased := d.phase_eq_null
      cases hduration : d.durationMs with
      | none =>
        -- without a duration there is neither a phase nor a setup
        have hstarted : d.phaseStartedMs = none := by
          rw [Option.eq_none_iff_forall_not_mem]
          intro started hmem
          obtain ⟨duration, hmem', -⟩ := d.started_le started hmem
          rw [hduration] at hmem'
          cases hmem'
        have hphase : d.phase = none := by simpa [hstarted] using hphased
        have hsetup : setupFields d = [] := by
          rcases setup_cases d with ⟨-, hnone⟩ | ⟨duration, hmem, -⟩
          · exact hnone
          · rw [hduration] at hmem
            cases hmem
        have hbare : appendOptional ",\"duration_ms\":" d.durationMs ++ (phaseFields d ++
            (setupFields d ++ text "\x7d")) = text "\x7d" := by
          simp [appendOptional, hduration, phaseFields, hphase, hsetup]
        rw [readRecord, matchEntire_bare hevent (hfields.trans hbare), diagnosticOf, hprobe]
        simp [hduration]
      | some duration =>
        cases hphase : d.phase with
        | none =>
          have hunphased : appendOptional ",\"duration_ms\":" d.durationMs ++ (phaseFields d ++
              (setupFields d ++ text "\x7d")) =
                text ",\"duration_ms\":" ++ (decimal duration.1 ++ (setupFields d ++ text "\x7d")) := by
            simp [appendOptional, hduration, phaseFields, hphase]
          rw [readRecord, matchEntire_unphased hevent (hfields.trans hunphased), diagnosticOf, hprobe]
          simp [hduration, hphase]
        | some phase =>
          obtain ⟨started, hstarted⟩ : ∃ started, d.phaseStartedMs = some started := by
            rw [← Option.isSome_iff_exists, ← Option.not_isNone, ← hphased, hphase]
            rfl
          have hfull : appendOptional ",\"duration_ms\":" d.durationMs ++ (phaseFields d ++
              (setupFields d ++ text "\x7d")) =
                text ",\"duration_ms\":" ++ (decimal duration.1 ++ (text ",\"phase\":\"" ++
                  (text phase.wireValue ++ (text "\",\"phase_started_ms\":" ++
                    (decimal started.1 ++ (setupFields d ++ text "\x7d")))))) := by
            simp [appendOptional, hduration, phaseFields, hphase, appendNumber, hstarted]
          have hle : started.1 ≤ duration.1 := by
            obtain ⟨duration', hmem, hle⟩ := d.started_le started hstarted
            rw [hduration] at hmem
            cases hmem
            exact hle
          rw [readRecord, matchEntire_full hevent (hfields.trans hfull), diagnosticOf, hprobe]
          simp [toLongOrNull_decimal, find_phase, Nat.not_lt.mpr hle, readSetup_text hduration,
            hduration, hphase, hstarted, verified_wireValue]
  · have hnone : matchEntire r.toJsonLine = none := by
      rw [matchEntire, scanHead_line]
      simp [scanEvent_other hevent]
    have hprobe : r.candidateProbe = none := by
      rcases r.candidate with ⟨-, hnone⟩ | hcandidate
      · exact hnone
      · exact absurd hcandidate hevent
    rw [readRecord, hnone, diagnosticOf, hprobe]
    rfl

/-! ## The length of a line -/

theorem length_decimal_le {k : Nat} (hk : 0 < k) (h : n < 10 ^ k) : (decimal n).length ≤ k := by
  induction k generalizing n with
  | zero => omega
  | succ k ih =>
    rw [decimal_eq]
    split
    · simp
    · next hlarge =>
      have hpos : 0 < k := by
        by_contra hzero
        rw [show k = 0 by omega] at h
        omega
      have hdiv : n / 10 < 10 ^ k := by
        rw [Nat.pow_succ] at h
        omega
      have hshort := ih hpos hdiv
      simp
      omega

theorem length_count (n : Count) : (decimal n.1).length ≤ 19 :=
  length_decimal_le (by decide) (Nat.lt_trans n.2 (by decide))

theorem length_appendNumber (n : Option Count) : (appendNumber n).length ≤ 19 := by
  cases n with
  | none => decide
  | some n => exact length_count n

theorem length_appendOptional (name : String) (n : Option Count) :
    (appendOptional name n).length ≤ (text name).length + 19 := by
  cases n with
  | none => simp [appendOptional]
  | some n =>
    have hcount := length_count n
    simp only [appendOptional, List.length_append]
    omega

theorem length_event (event : AndroidOperationalEvent) : (text event.wireValue).length ≤ 23 := by
  cases event <;> decide

theorem length_outcome (outcome : AndroidOperationalOutcome) :
    (text outcome.wireValue).length ≤ 20 := by
  cases outcome <;> decide

theorem length_phaseFields (d : AndroidCandidateProbeDiagnostic) : (phaseFields d).length ≤ 75 := by
  have hshort : ∀ phase : AndroidCandidateProbePhase, (text phase.wireValue).length ≤ 24 := by
    intro phase
    cases phase <;> decide
  unfold phaseFields
  split
  · simp
  · next phase hphase =>
    have hphase' := hshort phase
    have hstarted := length_appendNumber d.phaseStartedMs
    have h1 : (text ",\"phase\":\"").length = 10 := rfl
    have h2 : (text "\",\"phase_started_ms\":").length = 21 := rfl
    simp only [List.length_append]
    omega

theorem length_setupFields (d : AndroidCandidateProbeDiagnostic) : (setupFields d).length ≤ 127 := by
  unfold setupFields
  split
  · simp
  · next parse hparse =>
    have hparse' := length_count parse
    have hcreate := length_appendNumber d.createDurationMs
    have hcertificate := length_appendNumber d.certificateDurationMs
    have h1 : (text ",\"parse_duration_ms\":").length = 21 := rfl
    have h2 : (text ",\"create_duration_ms\":").length = 22 := rfl
    have h3 : (text ",\"certificate_duration_ms\":").length = 27 := rfl
    simp only [List.length_append]
    omega

theorem length_fields (d : AndroidCandidateProbeDiagnostic) : d.fields.length ≤ 236 := by
  have hduration := length_appendOptional ",\"duration_ms\":" d.durationMs
  have hphase := length_phaseFields d
  have hsetup := length_setupFields d
  have h : (text ",\"duration_ms\":").length = 15 := rfl
  simp only [fields_eq, List.length_append]
  omega

theorem length_coreFields (d : AndroidCoreEgressProbeDiagnostic) : d.fields.length ≤ 236 := by
  have hattempt : (decimal d.attempt).length ≤ 1 :=
    length_decimal_le (by decide) (by have := d.attempt_mem; omega)
  have hstage : (text d.stage).length ≤ 8 := by
    unfold AndroidCoreEgressProbeDiagnostic.stage
    repeat' split
    all_goals decide
  have hcode : ∀ code ∈ coreProbeCodes, (text code).length ≤ 22 := by decide
  have herror : ∀ errorType ∈ coreProbeErrorTypes, (text errorType).length ≤ 14 := by decide
  have hcode' := hcode d.code d.code_mem
  have herror' := herror d.errorType d.errorType_mem
  have helapsed := length_count d.elapsedMs
  have h1 : (text ",\"attempt\":").length = 11 := rfl
  have h2 : (text ",\"stage\":\"").length = 10 := rfl
  have h3 : (text "\",\"code\":\"").length = 10 := rfl
  have h4 : (text "\",\"error_type\":\"").length = 16 := rfl
  have h5 : (text "\",\"elapsed_ms\":").length = 15 := rfl
  simp only [AndroidCoreEgressProbeDiagnostic.fields, List.length_append]
  omega

/-- A line and its newline fit into the smallest file that a store may have. -/
theorem length_line (r : AndroidOperationalRecord) : r.toJsonLine.length + 1 ≤ minMaxFileBytes := by
  have hprobes : ((r.candidateProbe.map (·.fields)).getD []).length +
      ((r.coreProbe.map (·.fields)).getD []).length ≤ 236 := by
    cases hcandidate : r.candidateProbe with
    | none =>
      cases hcore : r.coreProbe with
      | none => simp
      | some core =>
        have := length_coreFields core
        simpa using this
    | some d =>
      have hcore : r.coreProbe = none := by
        rcases r.core with hnone | hother
        · exact hnone
        · rcases r.candidate with ⟨-, hnone⟩ | hevent
          · rw [hcandidate] at hnone
            cases hnone
          · rw [hevent] at hother
            cases hother
      have := length_fields d
      simpa [hcore] using this
  have htime := length_timestamp r.timestamp
  have hsequence := length_count r.sequence
  have hevent := length_event r.event
  have houtcome := length_outcome r.outcome
  have hgeneration := length_appendOptional ",\"generation\":" r.generation
  have hdropped := length_count r.droppedBefore
  have hprobe := length_appendOptional ",\"probe_sequence\":" r.probeSequence
  have h1 : (text "\x7b\"schema_version\":1,\"occurred_at_utc\":\"").length = 39 := rfl
  have h2 : (text "\",\"sequence\":").length = 13 := rfl
  have h3 : (text ",\"event\":\"").length = 10 := rfl
  have h4 : (text "\",\"outcome\":\"").length = 13 := rfl
  have h5 : (text "\"").length = 1 := rfl
  have h6 : (text ",\"generation\":").length = 14 := rfl
  have h7 : (text ",\"dropped_before\":").length = 18 := rfl
  have h8 : (text ",\"probe_sequence\":").length = 18 := rfl
  have h9 : (text "\x7d").length = 1 := rfl
  simp only [AndroidOperationalRecord.toJsonLine, List.length_append, minMaxFileBytes]
  omega

/-! ## Files -/

/-- ASCII without control units. -/
def isVisible (u : UInt16) : Bool := 32 ≤ u && u < 127

theorem isVisible_iff {u : UInt16} : isVisible u = true ↔ 32 ≤ u.toNat ∧ u.toNat < 127 := by
  simp [isVisible, UInt16.le_iff_toNat_le, UInt16.lt_iff_toNat_lt]

theorem visible_text {s : String} (h : (text s).all isVisible = true := by decide) :
    ∀ u ∈ text s, isVisible u = true := List.all_eq_true.mp h

theorem visible_decimal (n : Nat) : ∀ u ∈ decimal n, isVisible u = true := by
  intro u hu
  have hdigit := isDigit_iff.mp (isDigit_decimal n u hu)
  rw [isVisible_iff]
  omega

theorem visible_appendNumber (n : Option Count) : ∀ u ∈ appendNumber n, isVisible u = true := by
  cases n with
  | none => exact visible_text
  | some n => exact visible_decimal n.1

theorem visible_appendOptional {name : String} (hname : ∀ u ∈ text name, isVisible u = true)
    (n : Option Count) : ∀ u ∈ appendOptional name n, isVisible u = true := by
  cases n with
  | none => simp [appendOptional]
  | some n =>
    simp only [appendOptional, List.forall_mem_append]
    exact ⟨hname, visible_decimal n.1⟩

theorem visible_timestamp (h : isTimestamp s = true) : ∀ u ∈ s, isVisible u = true := by
  intro u hu
  rcases mem_of_fits h u hu with hdigit | ⟨c, hc, rfl⟩
  · have := isDigit_iff.mp hdigit
    rw [isVisible_iff]
    omega
  · have hall : ∀ c ∈ "0000-00-00T00:00:00.000Z".toList, isVisible (unit c) = true :=
      List.all_eq_true.mp (by decide)
    exact hall c hc

theorem visible_fields (d : AndroidCandidateProbeDiagnostic) : ∀ u ∈ d.fields, isVisible u = true := by
  have hphases : ∀ phase : AndroidCandidateProbePhase, ∀ u ∈ text phase.wireValue,
      isVisible u = true := by
    intro phase
    exact visible_text (by cases phase <;> decide)
  have hphase : ∀ u ∈ phaseFields d, isVisible u = true := by
    unfold phaseFields
    split
    · simp
    · next phase hphase =>
      simp only [List.forall_mem_append]
      exact ⟨⟨⟨visible_text, hphases phase⟩, visible_text⟩, visible_appendNumber _⟩
  have hsetup : ∀ u ∈ setupFields d, isVisible u = true := by
    unfold setupFields
    split
    · simp
    · next parse hparse =>
      simp only [List.forall_mem_append]
      exact ⟨⟨⟨⟨⟨visible_text, visible_decimal _⟩, visible_text⟩, visible_appendNumber _⟩,
        visible_text⟩, visible_appendNumber _⟩
  rw [fields_eq]
  simp only [List.forall_mem_append]
  exact ⟨visible_appendOptional visible_text _, hphase, hsetup⟩

theorem visible_coreFields (d : AndroidCoreEgressProbeDiagnostic) :
    ∀ u ∈ d.fields, isVisible u = true := by
  have hcode : ∀ code ∈ coreProbeCodes, (text code).all isVisible = true := by decide
  have herror : ∀ errorType ∈ coreProbeErrorTypes, (text errorType).all isVisible = true := by decide
  have hstage : (text d.stage).all isVisible = true := by
    unfold AndroidCoreEgressProbeDiagnostic.stage
    repeat' split
    all_goals decide
  simp only [AndroidCoreEgressProbeDiagnostic.fields, List.forall_mem_append, and_assoc]
  exact ⟨visible_text, visible_decimal _, visible_text, visible_text hstage, visible_text,
    visible_text (hcode _ d.code_mem), visible_text, visible_text (herror _ d.errorType_mem),
    visible_text, visible_decimal _⟩

theorem visible_line (r : AndroidOperationalRecord) : ∀ u ∈ r.toJsonLine, isVisible u = true := by
  have hevent : (text r.event.wireValue).all isVisible = true := by cases r.event <;> decide
  have houtcome : (text r.outcome.wireValue).all isVisible = true := by cases r.outcome <;> decide
  have hcandidate : ∀ u ∈ (r.candidateProbe.map (·.fields)).getD [], isVisible u = true := by
    cases r.candidateProbe with
    | none => simp
    | some d => exact visible_fields d
  have hcore : ∀ u ∈ (r.coreProbe.map (·.fields)).getD [], isVisible u = true := by
    cases r.coreProbe with
    | none => simp
    | some d => exact visible_coreFields d
  simp only [AndroidOperationalRecord.toJsonLine, List.forall_mem_append, and_assoc]
  exact ⟨visible_text, visible_timestamp r.timestamp, visible_text, visible_decimal _, visible_text,
    visible_text hevent, visible_text, visible_text houtcome, visible_text,
    visible_appendOptional visible_text _, visible_text, visible_decimal _,
    visible_appendOptional visible_text _, hcandidate, hcore, visible_text⟩

/-- The bytes of an ASCII text are its units. -/
theorem utf8Length_ascii (h : ∀ u ∈ s, u < 0x80) : utf8Length s = s.length := by
  induction s with
  | nil => rfl
  | cons u s ih =>
    have hu := h u (by simp)
    have hs := ih fun x hx => h x (by simp [hx])
    cases s with
    | nil => simp [utf8Length, hu]
    | cons v s =>
      rw [utf8Length, if_pos hu, hs]
      simp
      omega

/-- What a file holds after some records. -/
def contentOf (records : List AndroidOperationalRecord) : Text :=
  records.flatMap fun r => r.toJsonLine ++ [newline]

@[simp] theorem contentOf_nil : contentOf [] = [] := rfl

@[simp] theorem contentOf_append (records rest : List AndroidOperationalRecord) :
    contentOf (records ++ rest) = contentOf records ++ contentOf rest := List.flatMap_append

theorem contentOf_singleton (r : AndroidOperationalRecord) :
    contentOf [r] = r.toJsonLine ++ [newline] := by
  simp [contentOf]

variable (records : List AndroidOperationalRecord)

theorem ascii_contentOf : ∀ u ∈ contentOf records, u < 0x80 := by
  intro u hu
  obtain ⟨r, -, hmem⟩ := List.mem_flatMap.mp hu
  rcases List.mem_append.mp hmem with hline | hnewline
  · have := isVisible_iff.mp (visible_line r u hline)
    rw [UInt16.lt_iff_toNat_lt]
    show u.toNat < 128
    omega
  · rw [List.mem_singleton.mp hnewline]
    decide

theorem utf8Length_contentOf : utf8Length (contentOf records) = (contentOf records).length :=
  utf8Length_ascii (ascii_contentOf records)

/-- A visible line is read whole. -/
theorem readLines_line {line : Text} (h : ∀ u ∈ line, isVisible u = true) (pending rest : Text) :
    readLines pending false (line ++ newline :: rest) = (pending ++ line) :: readLines [] false rest := by
  induction line generalizing pending with
  | nil => simp [readLines]
  | cons u line ih =>
    have hu := isVisible_iff.mp (h u (by simp))
    have hnewline : u ≠ newline := by
      rintro rfl
      exact absurd hu.1 (by decide)
    have hreturn : u ≠ 13 := by
      rintro rfl
      exact absurd hu.1 (by decide)
    rw [List.cons_append, readLines, if_neg hnewline, if_neg hreturn,
      ih fun x hx => h x (by simp [hx])]
    simp

/-- The lines of a file are those of its records. -/
theorem readLines_contentOf :
    readLines [] false (contentOf records) = records.map (·.toJsonLine) := by
  induction records with
  | nil => rfl
  | cons r records ih =>
    have hcons : contentOf (r :: records) = r.toJsonLine ++ newline :: contentOf records := by
      simp [contentOf]
    rw [hcons, readLines_line (visible_line r), ih]
    rfl

theorem readContent_contentOf (before : List Diagnostic) (records : List AndroidOperationalRecord) :
    readContent (lastOf maxCandidateDiagnostics before) (contentOf records) =
      lastOf maxCandidateDiagnostics (before ++ records.filterMap diagnosticOf) := by
  rw [readContent, readLines_contentOf]
  induction records generalizing before with
  | nil => simp
  | cons r records ih =>
    rw [List.map_cons, List.foldl_cons, readRecord_line]
    cases hdiagnostic : diagnosticOf r with
    | none =>
      rw [List.filterMap_cons_none hdiagnostic]
      exact ih before
    | some diagnostic =>
      rw [List.filterMap_cons_some hdiagnostic]
      show List.foldl _ (addLast _ (lastOf _ before) diagnostic) _ = _
      rw [addLast_lastOf (by decide), ih, List.append_assoc]
      rfl

end Pokrov.Android.OperationalJournal
