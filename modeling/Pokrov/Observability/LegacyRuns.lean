import Pokrov.Observability.LegacyDrafts

/-!
# Translation of legacy journals

When the loop of a reader gets past a line, and from that when a journal is translated to its
end. Every line is then counted once.
-/

namespace Pokrov.Observability

open Dart OperationalAttributePolicy

variable {surroundings : LegacySurroundings} {context : LegacyTranslationContext}

/-! ## Lines -/

/-- The record that a line of the runtime journal is translated from. -/
def runtimeRecordOf (surroundings : LegacySurroundings) (line : Text) : Option RuntimeRecord :=
  match jsonDecode line with
  | some (.map record) =>
    if record.any (fun field => !(runtimeKeys.map text).contains field.1) then none
    else readRuntimeRecord surroundings record
  | _ => none

/-- The service record that a line of the journal is translated from. -/
def serviceRecordOf (line : Text) : Option ServiceRecord :=
  let fields := pieces (unit '|') line
  if fieldAt fields 0 = text "POKROV_CORE_EVENT_V1" then none
  else (readServiceFields fields).bind fun (occurredAt, sourceSequence) =>
    readServiceRecord fields occurredAt sourceSequence

/-- A line that the loop gets past with this number. -/
def LineReading.Completes (reading : LineReading) (sequence : Int) : Prop :=
  ∀ draft, reading = .event draft → (draft sequence).IsSound

def LineReading.isEvent : LineReading → Bool
  | .event _ => true
  | _ => false

variable {line : Text} {p q : LegacyProgress} {readLine : Text → LineReading}

theorem completes_runtime (valid : context.Valid) {sequence : Int} :
    (readRuntimeLine surroundings context line).Completes sequence ↔
      ∀ r, runtimeRecordOf surroundings line = some r →
        (r.event = text "stop" → r.outcome = .failed) ∧ 0 ≤ sequence := by
  unfold readRuntimeLine runtimeRecordOf
  cases jsonDecode line with
  | none => simp [LineReading.Completes]
  | some read =>
    cases read with
    | map record =>
      dsimp only
      split
      · simp [LineReading.Completes]
      · cases hread : readRuntimeRecord surroundings record with
        | none => simp [LineReading.Completes]
        | some r =>
          obtain ⟨hmapping, houtcome⟩ := readRuntimeRecord_eq_some hread
          simp [LineReading.Completes, r.isSound_draft valid hmapping houtcome]
    | _ => simp [LineReading.Completes]

theorem completes_service (valid : context.Valid) {sequence : Int} :
    (readServiceLine surroundings context line).Completes sequence ↔
      ∀ r, serviceRecordOf line = some r →
        (fieldAt r.fields 3 = text "runtime_core_stop" → r.outcome = .failed) ∧ 0 ≤ sequence := by
  unfold readServiceLine serviceRecordOf
  simp only
  split
  · cases hread : readCoreRecord surroundings (pieces (unit '|') line) with
    | none => simp [LineReading.Completes]
    | some r =>
      have hsound : (r.draft surroundings context sequence).IsSound :=
        (readCoreRecord_eq_some hread).isSound_draft valid sequence
      simp [LineReading.Completes, hsound]
  · cases hfields : readServiceFields (pieces (unit '|') line) with
    | none => simp [LineReading.Completes]
    | some numbers =>
      obtain ⟨occurredAt, sourceSequence⟩ := numbers
      cases hread : readServiceRecord (pieces (unit '|') line) occurredAt sourceSequence with
      | none => simp [LineReading.Completes, hread]
      | some r =>
        obtain ⟨hmapping, houtcome⟩ := readServiceRecord_eq_some hread
        simp [LineReading.Completes, hread, r.isSound_draft valid hmapping houtcome]

/-! ## The loop -/

/-- The number that the loop has come to after some lines. -/
def numberAfter (readLine : Text → LineReading) (first : Int) (lines : List Text) : Int :=
  wrap64 (first + (lines.countP fun line => (readLine line).isEvent))

theorem wrap64_add (a b : Int) : wrap64 (wrap64 a + b) = wrap64 (a + b) := by
  unfold wrap64
  split_ifs <;> omega

theorem LegacyProgress.next_eq_ok {p : LegacyProgress} {reading : LineReading} :
    (∃ q, p.next reading = .ok q) ↔ reading.Completes p.sequence := by
  cases reading with
  | malformed => simp [next, LineReading.Completes]
  | skipped => simp [next, LineReading.Completes]
  | event draft =>
    have hdraft : (LineReading.event draft).Completes p.sequence ↔ (draft p.sequence).IsSound := by
      simp [LineReading.Completes]
    rw [hdraft, ← LegacyDraft.translate_eq_ok]
    constructor
    · rintro ⟨q, h⟩
      obtain ⟨event, hevent, -⟩ := Results.bind_eq_ok.mp h
      exact ⟨event, hevent⟩
    · rintro ⟨event, hevent⟩
      exact ⟨_, Results.bind_eq_ok.mpr ⟨event, hevent, rfl⟩⟩

/-- What one line adds. -/
theorem LegacyProgress.next_counts {reading : LineReading} (h : p.next reading = .ok q) :
    q.events.length + q.skipped + q.malformed = p.events.length + p.skipped + p.malformed + 1 ∧
      q.sequence = if reading.isEvent then wrap64 (p.sequence + 1) else p.sequence := by
  cases reading with
  | malformed =>
    cases h
    exact ⟨by simp only; omega, rfl⟩
  | skipped =>
    cases h
    exact ⟨by simp only; omega, rfl⟩
  | event draft =>
    obtain ⟨event, -, h⟩ := Results.bind_eq_ok.mp h
    cases h
    refine ⟨?_, rfl⟩
    simp only [List.length_append, List.length_singleton]
    omega

theorem numberAfter_next (hp : wrap64 p.sequence = p.sequence) (h : p.next (readLine line) = .ok q)
    (before : List Text) : wrap64 q.sequence = q.sequence ∧
      numberAfter readLine q.sequence before = numberAfter readLine p.sequence (line :: before) := by
  obtain ⟨-, hq⟩ := LegacyProgress.next_counts h
  have hidem : wrap64 (wrap64 (p.sequence + 1)) = wrap64 (p.sequence + 1) := by
    simpa using wrap64_add (p.sequence + 1) 0
  unfold numberAfter
  cases hevent : (readLine line).isEvent with
  | false =>
    have hq' : q.sequence = p.sequence := by simpa [hevent] using hq
    simp [hq', hp, hevent]
  | true =>
    have hq' : q.sequence = wrap64 (p.sequence + 1) := by simpa [hevent] using hq
    rw [hq', wrap64_add, List.countP_cons_of_pos (by exact hevent)]
    refine ⟨hidem, congrArg wrap64 ?_⟩
    push_cast
    omega

/-- The loop gets to the end just if it gets past every line with the number it has then. -/
theorem foldlM_next {lines : List Text} {p : LegacyProgress} (hp : wrap64 p.sequence = p.sequence) :
    (∃ q, lines.foldlM (fun p line => p.next (readLine line)) p = .ok q) ↔
      ∀ before line after, lines = before ++ line :: after →
        (readLine line).Completes (numberAfter readLine p.sequence before) := by
  induction lines generalizing p with
  | nil =>
    refine ⟨fun _ before line after h => ?_, fun _ => ⟨p, rfl⟩⟩
    simp at h
  | cons first rest ih =>
    have hstart : numberAfter readLine p.sequence [] = p.sequence := by
      simpa [numberAfter] using hp
    constructor
    · rintro ⟨q, h⟩ before line after hlines
      rw [List.foldlM_cons] at h
      obtain ⟨next, hnext, h⟩ := Results.bind_eq_ok.mp h
      cases before with
      | nil =>
        obtain ⟨rfl, rfl⟩ := List.cons.inj hlines
        rw [hstart]
        exact LegacyProgress.next_eq_ok.mp ⟨next, hnext⟩
      | cons first' before =>
        obtain ⟨rfl, hrest⟩ := List.cons.inj hlines
        obtain ⟨hwrapped, hnumber⟩ := numberAfter_next hp hnext before
        rw [← hnumber]
        exact (ih hwrapped).mp ⟨q, h⟩ before line after hrest
    · intro h
      have hfirst := h [] first rest rfl
      rw [hstart] at hfirst
      obtain ⟨next, hnext⟩ := LegacyProgress.next_eq_ok.mpr hfirst
      rw [List.foldlM_cons]
      obtain ⟨hwrapped, -⟩ := numberAfter_next hp hnext []
      obtain ⟨q, hq⟩ := (ih hwrapped).mpr fun before line after hrest => by
        rw [(numberAfter_next hp hnext before).2]
        exact h (first :: before) line after (by rw [hrest, List.cons_append])
      exact ⟨q, Results.bind_eq_ok.mpr ⟨next, hnext, hq⟩⟩

/-- Every line is counted once. -/
theorem foldlM_counts {lines : List Text}
    (h : lines.foldlM (fun p line => p.next (readLine line)) p = .ok q) :
    q.events.length + q.skipped + q.malformed =
      p.events.length + p.skipped + p.malformed + lines.length := by
  induction lines generalizing p with
  | nil =>
    cases h
    rfl
  | cons first rest ih =>
    rw [List.foldlM_cons] at h
    obtain ⟨next, hnext, h⟩ := Results.bind_eq_ok.mp h
    have hcount := (LegacyProgress.next_counts hnext).1
    have hrest := ih h
    rw [List.length_cons]
    omega

/-! ## Journals -/

/-- A journal is translated to its end, and the lines of its text are those that are counted. -/
def IsTranslated (file : Option (List UInt8))
    (translation : Except ArgumentError LegacyTranslationResult) : Prop :=
  ∃ result, translation = .ok result ∧
    ∀ bytes s, file = some bytes → utf8Decode (completePart bytes) = some s →
      result.events.length + result.skippedRecords + result.malformedRecords =
        (nonEmptyLines s).length

theorem lines_readCompleteLines {bytes : List UInt8} {s : Text}
    (h : utf8Decode (completePart bytes) = some s) :
    (readCompleteLines (some bytes)).lines = nonEmptyLines s := by
  unfold readCompleteLines
  by_cases hcomplete : completePart bytes = []
  · rw [hcomplete] at h
    cases h
    simp [hcomplete, nonEmptyLines, lineSplitter, splitFrom]
  · simp [hcomplete, h]

/-- A reader translates a journal just if its loop gets past every line. -/
theorem isTranslated_readLines (valid : context.Valid) {file : Option (List UInt8)} :
    IsTranslated file (readLines context readLine file) ↔
      ∀ before line after, (readCompleteLines file).lines = before ++ line :: after →
        (readLine line).Completes (numberAfter readLine context.firstSequence before) := by
  have hfirst : wrap64 context.firstSequence = context.firstSequence := by
    have := valid.firstSequence
    unfold wrap64
    split_ifs <;> omega
  rw [← foldlM_next (p := ⟨[], 0, 0, context.firstSequence⟩) hfirst]
  constructor
  · rintro ⟨result, h, -⟩
    obtain ⟨q, hq, -⟩ := Results.bind_eq_ok.mp h
    exact ⟨q, hq⟩
  · rintro ⟨q, hq⟩
    refine ⟨_, Results.bind_eq_ok.mpr ⟨q, hq, rfl⟩, ?_⟩
    rintro bytes s rfl hs
    have hcount := foldlM_counts hq
    rw [lines_readCompleteLines hs] at hcount
    simpa using hcount

/-- A journal is translated to its end, with every line counted once, just if no stop in it did
anything but fail and the numbers of the events stay in range. -/
theorem journals_translated_iff (surroundings : LegacySurroundings)
    {context : LegacyTranslationContext} (valid : context.Valid) (file : Option (List UInt8)) :
    (IsTranslated file (readRuntimeJsonl surroundings context file) ↔
      ∀ before line after, (readCompleteLines file).lines = before ++ line :: after →
        ∀ r, runtimeRecordOf surroundings line = some r →
          (r.event = text "stop" → r.outcome = .failed) ∧
            0 ≤ numberAfter (readRuntimeLine surroundings context) context.firstSequence before) ∧
    (IsTranslated file (readWindowsServiceJournal surroundings context file) ↔
      ∀ before line after, (readCompleteLines file).lines = before ++ line :: after →
        ∀ r, serviceRecordOf line = some r →
          (fieldAt r.fields 3 = text "runtime_core_stop" → r.outcome = .failed) ∧
            0 ≤ numberAfter (readServiceLine surroundings context) context.firstSequence
              before) := by
  constructor
  · rw [readRuntimeJsonl, isTranslated_readLines valid]
    simp only [completes_runtime valid]
  · rw [readWindowsServiceJournal, isTranslated_readLines valid]
    simp only [completes_service valid]

/-! ### Stops -/

def LegacySurroundings.sample : LegacySurroundings where
  sha256 _ := List.replicate 64 (unit '0')
  sha256_length _ := List.length_replicate
  sha256_hex _ := by decide
  parseLocal _ := none

def LegacyTranslationContext.sample : LegacyTranslationContext where
  build := .sample
  traceId := text "0123456789abcdef0123456789abcdef"
  runId := none
  attemptId := none
  generation := 0
  firstSequence := 0
  eventIdFactory _ := text "00000000-0000-4000-8000-000000000000"

theorem LegacyTranslationContext.valid_sample : sample.Valid where
  traceId := by decide
  runId := rfl
  attemptId := rfl
  generation := by decide
  firstSequence := by decide
  eventId _ := (by decide : isUuid (text "00000000-0000-4000-8000-000000000000") = true)

def runtimeLine (event outcome : String) : Text :=
  text "\x7b\"at\":\"2024-01-01T00:00:00Z\",\"event\":\"" ++ text event ++
    text "\",\"outcome\":\"" ++ text outcome ++ text "\"\x7d"

def journalOf (lines : List Text) : List UInt8 := utf8Encode (lines.flatMap (· ++ [10]))

/-- An event, a stop that failed, a record that is skipped and a line that is none. -/
def mixedLines : List Text :=
  [runtimeLine "dns" "succeeded", runtimeLine "stop" "failed", runtimeLine "other" "failed",
    text "\x7b"]

theorem journals_translated_iff_failedStop : IsTranslated (some (journalOf mixedLines))
    (readRuntimeJsonl .sample .sample (some (journalOf mixedLines))) := by
  refine (journals_translated_iff .sample LegacyTranslationContext.valid_sample _).1.mpr ?_
  intro before line after hlines r hr
  obtain ⟨hread, hstops⟩ : (readCompleteLines (some (journalOf mixedLines))).lines = mixedLines ∧
      (mixedLines.all fun line => (runtimeRecordOf .sample line).all fun r =>
        r.event ≠ text "stop" || r.outcome = .failed) = true := by
    decide +kernel
  rw [hread] at hlines
  have hstop := List.all_eq_true.mp hstops line (by rw [hlines]; simp)
  rw [hr] at hstop
  refine ⟨fun hevent => by simpa [hevent] using hstop, ?_⟩
  have hlength : 4 = before.length + (after.length + 1) := by
    simpa [mixedLines] using congrArg List.length hlines
  have hcount := before.countP_le_length (p := fun line =>
    (readRuntimeLine .sample .sample line).isEvent)
  simp only [numberAfter, LegacyTranslationContext.sample] at hcount ⊢
  unfold wrap64
  split_ifs <;> omega

/-- A stop that succeeded ends the translation with an exception. -/
theorem journal_not_translated : ¬ ∀ (surroundings : LegacySurroundings)
    (context : LegacyTranslationContext) (file : Option (List UInt8)), context.Valid →
      IsTranslated file (readRuntimeJsonl surroundings context file) ∧
        IsTranslated file (readWindowsServiceJournal surroundings context file) := by
  intro h
  have valid := LegacyTranslationContext.valid_sample
  let stopped := runtimeLine "stop" "succeeded"
  obtain ⟨htranslated, -⟩ := h .sample .sample (some (journalOf [stopped])) valid
  rw [readRuntimeJsonl, isTranslated_readLines valid] at htranslated
  obtain ⟨hread, hrecord⟩ : (readCompleteLines (some (journalOf [stopped]))).lines = [stopped] ∧
      (runtimeRecordOf .sample stopped).map (fun r => (r.event, r.outcome)) =
        some (text "stop", .succeeded) := by
    decide +kernel
  obtain ⟨r, hr, heq⟩ := Option.map_eq_some_iff.mp hrecord
  obtain ⟨hevent, houtcome⟩ := Prod.mk.inj heq
  have hfailed := ((completes_runtime valid).mp (htranslated [] _ [] hread) r hr).1 hevent
  rw [houtcome] at hfailed
  cases hfailed

end Pokrov.Observability
