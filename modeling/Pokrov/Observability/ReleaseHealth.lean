import Pokrov.Lib.StopAndWait
import Pokrov.Observability.QueueRuns

/-!
# The mirror of release health

`ReleaseHealthMirrorWriter`: what the local store has written goes to the portal as well, in
batches that name nobody. A batch is held until the transport has accepted it. The event loop
runs one piece of code at a time; a call of the local writer or of the transport lets the
others go on.
-/

namespace Pokrov.Observability

open Dart StopAndWait

/-! ## Projections -/

def ObservabilitySeverity.name : ObservabilitySeverity → String
  | .trace => "trace"
  | .debug => "debug"
  | .info => "info"
  | .warn => "warn"
  | .error => "error"
  | .fatal => "fatal"

def ObservabilityErrorOrigin.name : ObservabilityErrorOrigin → String
  | .client => "client"
  | .host => "host"
  | .core => "core"
  | .portal => "portal"
  | .provider => "provider"
  | .os => "os"
  | .security => "security"

def OperationalBuildIdentity.toJson (build : OperationalBuildIdentity) : Document :=
  .map [(text "app_version", .string build.appVersion),
    (text "build_number", .string build.buildNumber),
    (text "channel", .string build.channel),
    (text "candidate_label", .string build.candidateLabel),
    (text "git_revision", .string build.gitRevision),
    (text "core_version", (build.coreVersion.map Document.string).getD .null),
    (text "core_abi", (build.coreAbi.map Document.int).getD .null),
    (text "platform", .string build.platform),
    (text "architecture", .string build.architecture)]

def OperationalErrorIdentity.toJson (error : OperationalErrorIdentity) : Document :=
  .map [(text "code", .string error.code), (text "origin", .string (text error.origin.name))]

def managedProfileFallbackEventName : Text :=
  text "app.connection.managed_profile_fallback.finished"

def cachedCandidateMaterialsEventName : Text :=
  text "app.connection.cached_candidate_materials.finished"

/-- `_isAggregateEligible`. -/
def isAggregateEligible (event : OperationalEvent) : Bool :=
  decide (event.name ≠ managedProfileFallbackEventName) &&
    decide (event.name ≠ cachedCandidateMaterialsEventName) &&
    decide (event.outcome ≠ .started) && !event.isSecurity &&
    decide (event.build.platform ≠ text "server")

/-- `_routingAppCount`. -/
def routingAppCount (event : OperationalEvent) : Option Int :=
  if event.component ≠ text "app" ∨ event.subsystem ≠ text "routing" ∨
      event.stage ≠ text "complete" ∨ event.name ≠ text "app.routing.selection.finished" ∨
      event.outcome ≠ .observed ∨ event.build.platform ≠ text "android" then none
  else match event.attributes.get "selected_app_count" with
    | .int value => if 0 ≤ value ∧ value ≤ 128 then some value else none
    | _ => none

/-- `_project`. -/
def project (event : OperationalEvent) : Document :=
  .map ([(text "schema_version", .int 1),
    (text "event_id", .string event.eventId),
    (text "occurred_at_utc", .string event.occurredAtUtc.toIso8601String),
    (text "component", .string event.component),
    (text "subsystem", .string event.subsystem),
    (text "stage", .string event.stage),
    (text "name", .string event.name),
    (text "severity", .string (text event.severity.name)),
    (text "outcome", .string (text event.outcome.wireValue)),
    (text "privacy_class", .string (text "release_health")),
    (text "build", event.build.toJson),
    (text "error", (event.error.map (·.toJson)).getD .null)] ++
    match routingAppCount event with
    | some count => [(text "attributes", .map [(text "selected_app_count", .int count)])]
    | none => [])

def batchBody (records : List SerializedOperationalEvent) : Document :=
  .map [(text "schema_version", .int 1),
    (text "events", .list (records.map fun record => project record.event))]

/-- What a batch is sent under: the attempt of its first event, or its run. -/
def correlationIdOf (records : List SerializedOperationalEvent) : Option Text :=
  records.head?.bind fun first =>
    first.event.correlation.attemptId.or first.event.correlation.runId

/-! ## The mirror -/

/-- A batch as it is sent. The records are those of its body. -/
structure MirrorBatch where
  records : List SerializedOperationalEvent
  body : Document
  correlationId : Text
  body_eq : body = batchBody records
  correlationId_eq : correlationIdOf records = some correlationId

/-- What has become of the records of a dequeued batch. No code reads it. -/
inductive Dequeued
  | sent (batch : MirrorBatch)
  | discarded (records : List SerializedOperationalEvent)

def Dequeued.records : Dequeued → List SerializedOperationalEvent
  | .sent batch => batch.records
  | .discarded records => records

def Dequeued.batch? : Dequeued → Option MirrorBatch
  | .sent batch => some batch
  | .discarded _ => none

def Dequeued.isDiscarded : Dequeued → Bool
  | .sent _ => false
  | .discarded _ => true

/-- What the mirror has done. No code reads it. -/
structure MirrorLedger where
  /-- The batches that the local writer was called with, those that it has written and those
  that it threw for. -/
  received : List (List SerializedOperationalEvent)
  written : List (List SerializedOperationalEvent)
  thrown : List (List SerializedOperationalEvent)
  /-- The records that the queue was offered. -/
  offered : List SerializedOperationalEvent
  dequeued : List Dequeued
  /-- A body is noted as sent with its answer. A call that still waits for one has the batch
  that is held. -/
  line : Line MirrorBatch

/-- What the constructor accepts. -/
structure MirrorBound where
  maximumBatchEvents : Nat
  maximumBatchEvents_pos : 1 ≤ maximumBatchEvents
  maximumBatchEvents_le : maximumBatchEvents ≤ 100

/-- The bounds of the queue by default. -/
def defaultBounds : QueueBounds := ⟨4096, 4 * 1024 * 1024, by decide, by decide⟩

structure ReleaseHealthMirrorWriter extends MirrorBound where
  pending : BoundedOperationalEventQueue
  unacknowledgedBatch : Option MirrorBatch
  projected : Nat
  acceptedBatches : Nat
  rejectedBatches : Nat
  /-- The calls of `appendBatch` that wait for the local writer. -/
  writing : List (List SerializedOperationalEvent)
  /-- The drains that were chained and are not over. -/
  deliveries : Nat
  /-- Whether the first of them waits for the transport. -/
  sending : Bool
  ledger : MirrorLedger

namespace ReleaseHealthMirrorWriter

def new (bound : MirrorBound) : ReleaseHealthMirrorWriter where
  toMirrorBound := bound
  pending := .new defaultBounds
  unacknowledgedBatch := none
  projected := 0
  acceptedBatches := 0
  rejectedBatches := 0
  writing := []
  deliveries := 0
  sending := false
  ledger := ⟨[], [], [], [], [], .empty⟩

/-- The queue is offered a record that the local writer has written. -/
def offer (m : ReleaseHealthMirrorWriter) (record : SerializedOperationalEvent) :
    ReleaseHealthMirrorWriter :=
  if isAggregateEligible record.event then
    { m with
      pending := ((m.pending.tryAdd record).map Prod.fst).getD m.pending
      ledger := { m.ledger with offered := m.ledger.offered ++ [record] } }
  else m

/-- A batch is dequeued: it is held, or discarded where nothing says what to send it under. -/
def dequeue (m : ReleaseHealthMirrorWriter) (records : List SerializedOperationalEvent)
    (pending : BoundedOperationalEventQueue) : ReleaseHealthMirrorWriter :=
  match correlation : correlationIdOf records with
  | none =>
    { m with
      pending := pending, projected := m.projected + records.length
      rejectedBatches := m.rejectedBatches + 1
      ledger := { m.ledger with dequeued := m.ledger.dequeued ++ [.discarded records] } }
  | some correlationId =>
    let batch : MirrorBatch := ⟨records, _, correlationId, rfl, correlation⟩
    { m with
      pending := pending, projected := m.projected + records.length
      unacknowledgedBatch := some batch
      ledger := { m.ledger with
        dequeued := m.ledger.dequeued ++ [.sent batch], line := m.ledger.line.hold batch } }

/-- The loop of `_drainPending` up to a call of the transport or to its end, in at most so
many rounds. There is no answer when they do not suffice. -/
def drain : Nat → ReleaseHealthMirrorWriter → Option ReleaseHealthMirrorWriter
  | 0, _ => none
  | rounds + 1, m =>
    if m.unacknowledgedBatch.isSome then some { m with sending := true }
    else match m.pending.takeBatch m.maximumBatchEvents with
      | none => none
      | some ([], pending) =>
        some { m with pending := pending, sending := false, deliveries := m.deliveries - 1 }
      | some (first :: rest, pending) => drain rounds (m.dequeue (first :: rest) pending)

/-- What the transport makes of a batch. -/
inductive Answer
  | accepted
  | rejected
  | thrown
deriving DecidableEq

/-- What the event loop runs next. -/
inductive Input
  /-- A call of `appendBatch`. -/
  | appendBatch (records : List SerializedOperationalEvent)
  /-- The local writer has written the batch of such a call. -/
  | written (index : Nat)
  /-- The local writer throws. -/
  | writeThrows (index : Nat)
  /-- A call of `flushPending`. -/
  | flushPending
  /-- The first drain starts. -/
  | turn
  /-- The transport answers. -/
  | answer (answer : Answer)

/-- The batch that the local writer is called with. -/
def Input.batch? : Input → Option (List SerializedOperationalEvent)
  | .appendBatch records => some records
  | _ => none

/-- Runs the first drain until it waits or ends. -/
def resume (m : ReleaseHealthMirrorWriter) : ReleaseHealthMirrorWriter :=
  (drain (m.pending.depth + 2) m).getD m

/-- The transport has answered the drain that waits for it. -/
def answered (m : ReleaseHealthMirrorWriter) (batch : MirrorBatch) (answer : Answer) :
    ReleaseHealthMirrorWriter :=
  if answer = .accepted then
    resume { m with
      acceptedBatches := m.acceptedBatches + 1, unacknowledgedBatch := none
      ledger := { m.ledger with line := m.ledger.line.answer batch true } }
  else
    { m with
      rejectedBatches := m.rejectedBatches + 1, sending := false, deliveries := m.deliveries - 1
      ledger := { m.ledger with line := m.ledger.line.answer batch false } }

/-- `appendBatch` calls the local writer. -/
def localCalled (m : ReleaseHealthMirrorWriter) (records : List SerializedOperationalEvent) :
    ReleaseHealthMirrorWriter :=
  { m with
    writing := m.writing ++ [records]
    ledger := { m.ledger with received := m.ledger.received ++ [records] } }

/-- The local writer has written the batch of a call, which goes on. -/
def localWritten (m : ReleaseHealthMirrorWriter) (index : Nat)
    (records : List SerializedOperationalEvent) : ReleaseHealthMirrorWriter :=
  let m := records.foldl offer
    { m with
      writing := m.writing.eraseIdx index
      ledger := { m.ledger with written := m.ledger.written ++ [records] } }
  { m with deliveries := m.deliveries + 1 }

/-- The local writer throws, and so does the call. -/
def localThrows (m : ReleaseHealthMirrorWriter) (index : Nat)
    (records : List SerializedOperationalEvent) : ReleaseHealthMirrorWriter :=
  { m with
    writing := m.writing.eraseIdx index
    ledger := { m.ledger with thrown := m.ledger.thrown ++ [records] } }

/-- One piece of code. What cannot happen changes nothing. -/
def step (m : ReleaseHealthMirrorWriter) : Input → ReleaseHealthMirrorWriter
  | .appendBatch records => m.localCalled records
  | .written index => (m.writing[index]?.map (m.localWritten index)).getD m
  | .writeThrows index => (m.writing[index]?.map (m.localThrows index)).getD m
  | .flushPending => { m with deliveries := m.deliveries + 1 }
  | .turn => if m.sending = false ∧ 0 < m.deliveries then resume m else m
  | .answer answer =>
    match m.sending, m.unacknowledgedBatch with
    | true, some batch => m.answered batch answer
    | _, _ => m

end ReleaseHealthMirrorWriter

end Pokrov.Observability
