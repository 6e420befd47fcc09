import Pokrov.AppShell.ManifestRecord
import Pokrov.Lib.Pool

/-!
# The transport manifest store

`TransportManifestStore` and `TransportManifestSelection` for one storage key.
The operations run as threads: an `await` is a point where another may go on,
and what stands between two of them is one call. Operations on the record take
turns in a queue; `discardEnvelopes` moves the generation at once and waits for
its turn to erase.

Stores over one key share its statics, and may differ in their keys, releases
and switches. A write replaces the record or leaves it and may fail in either
case. A history notes what the operations have done; no program reads it.
-/

namespace Pokrov.AppShell

open Dart Effects

/-- `TransportManifestStore`, one of those over the key. -/
structure TransportManifestStore where
  verifier : TransportManifestVerifier
  enabled : Bool
  /-- There is an `onCommitted`. -/
  onCommitted : Bool

def TransportManifestStore.available (store : TransportManifestStore) : Bool :=
  store.enabled && store.verifier.configured

/-- What the operations have done. -/
inductive StoreNote
  /-- `discardEnvelopes` was called and moved on to a generation. -/
  | discarded (generation : Nat)
  /-- It has written its record. -/
  | erased (generation : Nat)
  /-- `_accept` goes on to write, over what was stored. -/
  | committing (generation : Nat) (before : Option StoredText) (value : ManifestRecord)
  /-- `_accept` has ended a suspension. -/
  | resumed (generation : Nat)
  /-- `read` has returned an admission. -/
  | returned
  /-- `requireCurrent` or `sample` of a handle has passed. -/
  | passed (handle : Nat)

/-- `TransportManifestSelection`. Samples of it take turns. -/
structure TransportManifestSelection where
  effectiveExpiresAt : DateTime
  anchor : TransportTimeAnchor
  deadline : TransportClockDeadline
  expectedGeneration : Nat
  epoch : Nat
  last : TransportTimeWindow
  closed : Bool := false
  sampling : List Nat := []

/-- The storage and the statics for the key. -/
structure StoreState where
  durable : Option StoredText
  generation : Nat := 0
  selectionEpoch : Nat := 0
  suspended : Bool := false
  /-- Threads whose operation has its turn or waits for it. -/
  queue : List Nat := []
  /-- Every selection there was. Those that are not closed are registered. -/
  selections : List TransportManifestSelection := []
  history : List StoreNote := []

/-! ## Calls -/

inductive StoreCall
  /-- The operation is queued. -/
  | enqueue
  /-- `discardEnvelopes` moves on to the next generation, and is queued if its
  store is available. -/
  | discard (available : Bool)
  | enter
  | leave
  | invalidationGeneration
  | requireGeneration (expected : Nat)
  /-- `requireCurrent` of `_accept`, with or without an `operationIsCurrent`. -/
  | requireCurrent (expected : Nat) (checked : Bool)
  | operationIsCurrent
  | readStorage
  | writeStorage (raw : StoredText)
  /-- A write has failed. -/
  | suspend
  /-- The clock, and what `_observe` will hold the sample against. -/
  | readBootClock (observing : Option (ManifestRecord × Option TransportClockDeadline))
  | isSuspended
  | selectionEpoch
  /-- The digest and the signature are computed. -/
  | verification
  /-- The end of `read`. -/
  | finishRead (generation : Nat)
  /-- `_accept` makes sure that it is current and invalidates the selections. -/
  | commit (expected : Nat) (checked : Bool) (value : ManifestRecord)
  /-- `_accept` makes sure that it is current and ends a suspension. -/
  | resume (expected : Nat) (checked : Bool)
  | onCommitted
  /-- The record of `discardEnvelopes` is written. -/
  | erased (generation : Nat)
  | register (selection : TransportManifestSelection)
  | enqueueSample (handle : Nat)
  | enterSample (handle : Nat)
  | leaveSample (handle : Nat)
  /-- `requireCurrent` of a selection. -/
  | selectionCurrent (handle : Nat)
  | requireSession
  /-- The end of `sample`, with the clock it has read. -/
  | finishSample (handle : Nat) (native : RuntimeBootClockSnapshot)
  | closeSelection (handle : Nat)

/-- What a write has done: the record was replaced, and it was reported so. -/
structure WriteOutcome where
  replaced : Bool
  reported : Bool

@[reducible] def StoreCall.Answer : StoreCall → Type
  | discard _ => Nat
  | invalidationGeneration => Nat
  | requireGeneration _ => Try Unit
  | requireCurrent _ _ => Try Unit
  | operationIsCurrent => Bool
  | readStorage => Try (Option StoredText)
  | writeStorage _ => WriteOutcome
  | readBootClock _ => Try RuntimeBootClockSnapshot
  | isSuspended => Bool
  | selectionEpoch => Nat
  | finishRead _ => Try Bool
  | commit _ _ _ => Try Unit
  | resume _ _ => Try Unit
  | onCommitted => Try Unit
  | register _ => Nat
  | selectionCurrent _ => Try Unit
  | requireSession => Try Unit
  | finishSample _ _ => Try TransportTimeWindow
  | _ => Unit

abbrev Storage : Interface := ⟨StoreCall, StoreCall.Answer⟩

namespace StoreState

/-- `_requireGeneration`. -/
def requireGeneration (s : StoreState) (expected : Nat) : Try Unit :=
  if expected ≠ s.generation then throwTransport "transport_admission_superseded" else .ok ()

/-- `requireCurrent` of `_accept`, when `operationIsCurrent` answers so. -/
def requireCurrent (s : StoreState) (expected : Nat) (current : Bool) : Try Unit :=
  if expected ≠ s.generation ∨ current = false then throwTransport "transport_admission_superseded"
  else .ok ()

/-- `!_closed && _isCurrent()` of a selection, when `operationIsCurrent` answers so. -/
def selectionCurrent (s : StoreState) (selection : TransportManifestSelection) (current : Bool) :
    Bool :=
  !selection.closed && (current && !s.suspended &&
    decide (selection.expectedGeneration = s.generation) &&
    decide (selection.epoch = s.selectionEpoch))

/-- The end of `sample` after `requireCurrent`. -/
def sampleWindow (selection : TransportManifestSelection) (native : RuntimeBootClockSnapshot) :
    Try TransportTimeWindow := do
  selection.deadline.requireCurrent native
  let window ← selection.anchor.window native
  if native.elapsedMilliseconds < selection.last.sample.elapsedMilliseconds ∨
      window.latest.isBefore selection.last.latest = true then
    throwTransport "transport_clock_rollback"
  else if window.latest.isBefore selection.effectiveExpiresAt = false then
    throwTransport "transport_document_not_current"
  else return window

def supersededSelection {α : Type} : Try α := throwTransport "transport_selection_superseded"

/-- `requireCurrent` of a handle. -/
def requireSelection (s : StoreState) (handle : Nat) (current : Bool) : Try Unit :=
  match s.selections[handle]? with
  | none => .error .other
  | some selection => if s.selectionCurrent selection current then .ok () else supersededSelection

/-- The end of `sample` of a handle. -/
def finishSample (s : StoreState) (handle : Nat) (native : RuntimeBootClockSnapshot)
    (current : Bool) : Try TransportTimeWindow :=
  match s.selections[handle]? with
  | none => .error .other
  | some selection =>
    if s.selectionCurrent selection current then sampleWindow selection native
    else supersededSelection

/-- The answers that a call may have, and when it may go on. -/
def allows (thread : Nat) (s : StoreState) : Event Storage → Prop
  | ⟨.discard _, r⟩ => r = s.generation + 1
  | ⟨.enter, _⟩ => s.queue.head? = some thread
  | ⟨.invalidationGeneration, r⟩ => r = s.generation
  | ⟨.requireGeneration expected, r⟩ => r = s.requireGeneration expected
  | ⟨.requireCurrent expected checked, r⟩ =>
    ∃ current, (checked = false → current = true) ∧ r = s.requireCurrent expected current
  | ⟨.readStorage, r⟩ => ∀ raw, r = .ok raw → raw = s.durable
  | ⟨.isSuspended, r⟩ => r = s.suspended
  | ⟨.selectionEpoch, r⟩ => r = s.selectionEpoch
  | ⟨.finishRead generation, r⟩ =>
    r = (s.requireGeneration generation).map fun _ => !s.suspended
  | ⟨.commit expected checked _, r⟩ =>
    ∃ current, (checked = false → current = true) ∧ r = s.requireCurrent expected current
  | ⟨.resume expected checked, r⟩ =>
    ∃ current, (checked = false → current = true) ∧ r = s.requireCurrent expected current
  | ⟨.register _, r⟩ => r = s.selections.length
  | ⟨.enterSample handle, _⟩ =>
    (s.selections[handle]?.bind fun selection => selection.sampling.head?) = some thread
  | ⟨.selectionCurrent handle, r⟩ => ∃ current, r = s.requireSelection handle current
  | ⟨.finishSample handle native, r⟩ => ∃ current, r = s.finishSample handle native current
  | _ => True

def note (s : StoreState) (note : StoreNote) : StoreState :=
  { s with history := s.history ++ [note] }

/-- `_invalidateSelections`: every selection that is registered is closed. -/
def invalidateSelections (s : StoreState) : StoreState :=
  { s with
    selectionEpoch := s.selectionEpoch + 1
    selections := s.selections.map fun selection => { selection with closed := true } }

def updateSelection (s : StoreState) (handle : Nat)
    (f : TransportManifestSelection → TransportManifestSelection) : StoreState :=
  { s with selections := s.selections.modify handle f }

/-- `close`. -/
def closeSelection (s : StoreState) (handle : Nat) : StoreState :=
  s.updateSelection handle fun selection => { selection with closed := true }

/-- What an answered call leaves. -/
def effect (thread : Nat) (s : StoreState) : Event Storage → StoreState
  | ⟨.enqueue, _⟩ => { s with queue := s.queue ++ [thread] }
  | ⟨.discard available, r⟩ =>
    { s.invalidateSelections with
      generation := s.generation + 1
      suspended := true
      queue := if available then s.queue ++ [thread] else s.queue }.note (.discarded r)
  | ⟨.leave, _⟩ => { s with queue := s.queue.tail }
  | ⟨.writeStorage raw, outcome⟩ => if outcome.replaced then { s with durable := some raw } else s
  | ⟨.suspend, _⟩ => { s with suspended := true }.invalidateSelections
  | ⟨.finishRead _, .ok true⟩ => s.note .returned
  | ⟨.commit expected _ value, .ok _⟩ =>
    s.invalidateSelections.note (.committing expected s.durable value)
  | ⟨.resume expected _, .ok _⟩ => { s with suspended := false }.note (.resumed expected)
  | ⟨.erased generation, _⟩ => s.note (.erased generation)
  | ⟨.register selection, _⟩ => { s with selections := s.selections ++ [selection] }
  | ⟨.enqueueSample handle, _⟩ =>
    s.updateSelection handle fun selection =>
      { selection with sampling := selection.sampling ++ [thread] }
  | ⟨.leaveSample handle, _⟩ =>
    s.updateSelection handle fun selection => { selection with sampling := selection.sampling.tail }
  | ⟨.selectionCurrent handle, .ok _⟩ => s.note (.passed handle)
  | ⟨.selectionCurrent handle, .error _⟩ => s.closeSelection handle
  | ⟨.finishSample handle _, .ok window⟩ =>
    (s.updateSelection handle fun selection => { selection with last := window }).note
      (.passed handle)
  | ⟨.finishSample handle _, .error _⟩ => s.closeSelection handle
  | ⟨.closeSelection handle, _⟩ => s.closeSelection handle
  | _ => s

end StoreState

/-! ## Programs -/

abbrev Async (α : Type) := ExceptT Failure (Prog Storage) α

/-- A call of an operation. -/
def call (c : StoreCall) : Async c.Answer := await (I := Storage) c

/-- A call whose answer may be thrown. -/
def require {α : Type} (c : StoreCall) (h : c.Answer = Try α) : Async α := do
  let r ← call c
  attempt (h.mp r)

def throwStore {α : Type} (code : String) : Async α := throw (.transport code)

/-- `_serialize`: the operation has its turn, and gives it back. -/
def takeTurn {α : Type} (operation : Async α) : Async α := do
  call .enter
  ensure (I := Storage) operation .leave

def serialize {α : Type} (store : TransportManifestStore) (operation : Async α) : Async α := do
  if store.available = false then throwStore "transport_disabled"
  else do
    call .enqueue
    takeTurn operation

/-- `_load`. -/
def load (audience : Text) : Async (Option ManifestRecord) := do
  let raw ← require .readStorage rfl
  attempt (loadRecord audience raw)

/-- After a write that may have failed nothing is used any more. -/
def writeFailed : Async Unit := do
  call .suspend
  throwStore "transport_cache_write_failed"

/-- `_write`. -/
def write (value : ManifestRecord) : Async Unit := do
  let raw := StoredText.of value.toDocument
  if maximumRecordBytes < raw.bytes then writeFailed
  else do
    let outcome ← call (.writeStorage raw)
    if outcome.reported = false then writeFailed else pure ()

/-- `_window`. -/
def window (anchor : TransportTimeAnchor) (prior : Option ManifestRecord)
    (deadline : Option TransportClockDeadline)
    (observing : Option (ManifestRecord × Option TransportClockDeadline)) :
    Async TransportTimeWindow := do
  let sample ← require (.readBootClock observing) rfl
  attempt (windowOf anchor prior deadline sample)

/-- `_observe`, with the record that it has changed. -/
def observe (audience : Text) (value : ManifestRecord) (deadline : Option TransportClockDeadline) :
    Async (TransportTimeWindow × ManifestRecord) := do
  let anchor ← attempt (anchorOf value)
  let now ← window anchor (some value) deadline (some (value, deadline))
  let value ← attempt (observed audience value now)
  write value
  return (now, value)

/-! ### Reading -/

/-- A failure of the contract is no admission. -/
def orNone {α : Type} (m : Async (Option α)) : Async (Option α) :=
  ExceptT.mk (m.run >>= fun r =>
    match r with
    | .error (.transport _) => .ret (.ok none)
    | r => .ret r)

def nullable (value : Document) : Option Document := if value.isNull then none else some value

/-- The same version of the same document. -/
def sameBinding (a b : Floor) : Bool :=
  a.version = b.version && a.documentKind = b.documentKind && a.payloadSha256 = b.payloadSha256

/-- `read` of a record with a manifest. -/
def readManifest (store : TransportManifestStore) (deadline : Option TransportClockDeadline)
    (generation : Nat) (now : TransportTimeWindow) (value : ManifestRecord) :
    Async (Option TransportAdmission) := do
  call .verification
  let result ← attempt (store.verifier.admitDocument value.manifest (nullable value.rollback)
    (some value.floor) now.latest now.earliest)
  let floor ← attempt (validateFloor store.verifier.audience value.floor)
  if sameBinding result.nextFloor floor = false then
    throwStore "transport_cache_binding_invalid"
  else do
    require (.requireGeneration generation) rfl
    let (now, _) ← observe store.verifier.audience value deadline
    attempt (requireLive now result.effectiveExpiresAt)
    if ← require (.finishRead generation) rfl then return some result else return none

def read (store : TransportManifestStore) (deadline : Option TransportClockDeadline) :
    Async (Option TransportAdmission) :=
  serialize store do
    let generation ← call .invalidationGeneration
    match ← load store.verifier.audience with
    | none => throwStore "transport_floor_missing"
    | some value => do
        let (now, value) ← observe store.verifier.audience value deadline
        if (← call .isSuspended) || value.manifest.isNull then return none
        else orNone (readManifest store deadline generation now value)

/-! ### Selections -/

/-- A failure closes the selection. -/
def closing {α : Type} (handle : Nat) (m : Async α) : Async α :=
  ExceptT.mk (m.run >>= fun r =>
    match r with
    | .ok a => .ret (.ok a)
    | .error e => .call (StoreCall.closeSelection handle) fun _ => .ret (.error e))

/-- `sample` of a selection. -/
def sample (handle : Nat) : Async TransportTimeWindow := do
  call (.enqueueSample handle)
  call (.enterSample handle)
  ensure (I := Storage) (closing handle do
    require (.selectionCurrent handle) rfl
    require .requireSession rfl
    require (.selectionCurrent handle) rfl
    let native ← require (.readBootClock none) rfl
    require (.finishSample handle native) rfl) (.leaveSample handle)

/-- `payload['budget']['total_deadline_ms']`. -/
def signedBudget (admission : TransportAdmission) : Try Int := do
  let payload ← transportMap (admission.manifest.get "payload")
  let budget ← transportMap (payload.get "budget")
  match budget.get "total_deadline_ms" with
  | .int value => return value
  | _ => .error .other

/-- `openSelection`, with a budget in milliseconds. -/
def openSelection (store : TransportManifestStore) (admission : TransportAdmission)
    (expectedGeneration : Nat) (operationStarted : RuntimeBootClockSnapshot)
    (operationBudget : Int) : Async Nat :=
  serialize store do
    require (.requireGeneration expectedGeneration) rfl
    if ¬ (← call .operationIsCurrent) then throwStore "transport_selection_superseded"
    else do
      let loaded ← load store.verifier.audience
      require (.requireGeneration expectedGeneration) rfl
      let suspended ← call .isSuspended
      match loaded with
      | none => throwStore "transport_cache_unavailable"
      | some value =>
        if suspended || value.manifest.isNull then throwStore "transport_cache_unavailable"
        else do
          let floor ← attempt (validateFloor store.verifier.audience value.floor)
          if sameBinding floor admission.nextFloor = false then
            throwStore "transport_selection_superseded"
          else if floor.kills ≠ admission.effectiveKills then
            throwStore "transport_cache_binding_invalid"
          else do
            let epoch ← call .selectionEpoch
            let signed ← attempt (signedBudget admission)
            let deadline ← attempt (TransportClockDeadline.new operationStarted
              (if operationBudget < signed then operationBudget else signed))
            let (now, value) ← observe store.verifier.audience value (some deadline)
            attempt (requireLive now admission.effectiveExpiresAt)
            let anchor ← attempt (anchorOf value)
            let handle ← call (.register
              { effectiveExpiresAt := admission.effectiveExpiresAt
                anchor, deadline, expectedGeneration, epoch, last := now })
            let _ ← sample handle
            return handle

/-! ### Accepting -/

/-- What a caller passes in for a document. -/
inductive Input
  | document (value : Document)
  /-- `jsonEncode` throws. -/
  | unencodable

/-- `_snapshot` and the `jsonDecode` of it. -/
def snapshot : Input → Try Document
  | .unencodable => throwTransport "transport_document_invalid"
  | .document value =>
    if transportManifestMaximumBytes < utf8Length (jsonEncode value) then
      throwTransport "transport_document_too_large"
    else .ok value

/-- A first enrollment: the floor and the time of the exchange, in UTC or not. -/
structure Enrollment where
  onlineFloor : Document
  observedAt : DateTime
  isUtc : Bool

structure AcceptRequest where
  manifest : Input
  rollback : Option Input
  expectedGeneration : Nat
  enrollment : Option Enrollment
  onlineAnchor : Option TransportTimeAnchor
  deadline : Option TransportClockDeadline
  /-- There is an `operationIsCurrent`. -/
  checked : Bool

/-- The first window of `_accept`, and the record that it goes on with. -/
def acceptWindow (audience : Text) (request : AcceptRequest) (value : Option ManifestRecord) :
    Async (TransportTimeAnchor × TransportTimeWindow × Option ManifestRecord) :=
  match request.onlineAnchor, value with
  | some anchor, value => do
      let now ← window anchor value request.deadline none
      return (anchor, now, value)
  | none, none => throw .other
  | none, some value => do
      let anchor ← attempt (anchorOf value)
      let (now, value) ← observe audience value request.deadline
      return (anchor, now, some value)

/-- An enrollment is for the time of its exchange. -/
def enrollmentTimed (enrollment : Enrollment) (floor : Floor) (anchor : TransportTimeAnchor) :
    Try Unit := do
  let last ← time (.string floor.lastObservedAt)
  if enrollment.isUtc = false ∨ anchor.earliestAtReceipt ≠ enrollment.observedAt ∨
      last.isAfter enrollment.observedAt = true then
    throwTransport "transport_bootstrap_time_invalid"
  else .ok ()

/-- An enrollment is with the floor of its exchange. -/
def enrollmentBound (result : TransportAdmission) (floor : Floor) : Try Unit :=
  if sameBinding result.nextFloor floor = false ∨ floor.kills ≠ result.effectiveKills then
    throwTransport "transport_bootstrap_binding_invalid"
  else .ok ()

/-- A check of an enrollment, if it is one. -/
def onEnrollment (request : AcceptRequest) (floor : Option Floor)
    (check : Enrollment → Floor → Try Unit) : Try Unit :=
  match request.enrollment, floor with
  | some enrollment, some floor => check enrollment floor
  | _, _ => .ok ()

/-- `_accept` once it goes on to write. -/
def acceptCommitted (store : TransportManifestStore) (request : AcceptRequest)
    (result : TransportAdmission) (anchor : TransportTimeAnchor) (value : ManifestRecord) :
    Async TransportAdmission := do
  write value
  require (.requireCurrent request.expectedGeneration request.checked) rfl
  let now ← window anchor (some value) request.deadline none
  attempt (requireLive now result.effectiveExpiresAt)
  require (.resume request.expectedGeneration request.checked) rfl
  if store.onCommitted then require .onCommitted rfl
  return result

/-- `_accept` with its first window. -/
def acceptAdmitted (store : TransportManifestStore) (request : AcceptRequest) (manifest : Document)
    (rollback : Option Document) (enrollmentFloor : Option Floor) (anchor : TransportTimeAnchor)
    (now : TransportTimeWindow) (value : Option ManifestRecord) : Async TransportAdmission := do
  let audience := store.verifier.audience
  require (.requireCurrent request.expectedGeneration request.checked) rfl
  attempt (onEnrollment request enrollmentFloor fun enrollment floor =>
    enrollmentTimed enrollment floor anchor)
  call .verification
  let result ← attempt (store.verifier.admitDocument manifest rollback
    ((value.map ManifestRecord.floor) <|> enrollmentFloor.map (Floor.toDocument audience))
    now.latest now.earliest)
  attempt (onEnrollment request enrollmentFloor fun _ floor => enrollmentBound result floor)
  let commitTime ← window anchor value request.deadline none
  if commitTime.latest.isBefore now.latest then throwStore "transport_clock_rollback"
  else do
    attempt (requireLive commitTime result.effectiveExpiresAt)
    let value := committed audience result anchor commitTime
    require (.commit request.expectedGeneration request.checked value) rfl
    acceptCommitted store request result anchor value

/-- `_accept` in its turn. -/
def acceptQueued (store : TransportManifestStore) (request : AcceptRequest) (manifest : Document)
    (rollback : Option Document) (enrollmentFloor : Option Floor) : Async TransportAdmission := do
  let audience := store.verifier.audience
  require (.requireCurrent request.expectedGeneration request.checked) rfl
  let loaded ← load audience
  require (.requireCurrent request.expectedGeneration request.checked) rfl
  if enrollmentFloor.isSome && loaded.isSome then throwStore "transport_already_enrolled"
  else if enrollmentFloor.isNone && loaded.isNone then throwStore "transport_floor_missing"
  else do
    let (anchor, now, value) ← acceptWindow audience request loaded
    acceptAdmitted store request manifest rollback enrollmentFloor anchor now value

/-- `_accept`, for `accept` and for `enroll`. -/
def accept (store : TransportManifestStore) (request : AcceptRequest) : Async TransportAdmission := do
  let manifest ← attempt (snapshot request.manifest)
  let rollback ← attempt (request.rollback.mapM snapshot)
  let enrollmentFloor ← attempt (request.enrollment.mapM fun enrollment =>
    validateFloor store.verifier.audience enrollment.onlineFloor)
  serialize store (acceptQueued store request manifest rollback enrollmentFloor)

/-- `discardEnvelopes`. -/
def discardEnvelopes (store : TransportManifestStore) : Async Unit := do
  let generation ← call (.discard store.available)
  if store.available = false then throwStore "transport_disabled"
  else takeTurn do
    match ← load store.verifier.audience with
    | none => throwStore "transport_floor_missing"
    | some value => do
        write (discarded value)
        call (.erased generation)

/-! ## Threads -/

inductive StoreTask
  | read (store : TransportManifestStore) (deadline : Option TransportClockDeadline)
  /-- `accept`, or `enroll` when there is an enrollment. -/
  | accept (store : TransportManifestStore) (request : AcceptRequest)
  | openSelection (store : TransportManifestStore) (admission : TransportAdmission)
      (expectedGeneration : Nat) (operationStarted : RuntimeBootClockSnapshot)
      (operationBudget : Int)
  | discardEnvelopes (store : TransportManifestStore)
  | sample (handle : Nat)
  | requireCurrent (handle : Nat)
  /-- `close`, by its owner or by its timer. -/
  | close (handle : Nat)

inductive StoreAnswer
  | read (admission : Option TransportAdmission)
  | accept (admission : TransportAdmission)
  | selection (handle : Nat)
  | window (value : TransportTimeWindow)
  | discardEnvelopes
  | done

namespace StoreTask

/-- Every store is over the key of its audience. -/
def isOver (audience : Text) : StoreTask → Prop
  | read store _ => store.verifier.audience = audience
  | accept store request =>
    store.verifier.audience = audience ∧
      (request.enrollment.isSome = true → request.onlineAnchor.isSome = true)
  | openSelection store _ _ _ _ => store.verifier.audience = audience
  | discardEnvelopes store => store.verifier.audience = audience
  | _ => True

def run : StoreTask → Async StoreAnswer
  | read store deadline => .read <$> AppShell.read store deadline
  | accept store request => .accept <$> AppShell.accept store request
  | openSelection store admission expectedGeneration operationStarted operationBudget =>
    .selection <$> AppShell.openSelection store admission expectedGeneration operationStarted
      operationBudget
  | discardEnvelopes store => (fun _ => .discardEnvelopes) <$> AppShell.discardEnvelopes store
  | sample handle => .window <$> AppShell.sample handle
  | requireCurrent handle => (fun _ => .done) <$> require (.selectionCurrent handle) rfl
  | close handle => (fun _ => .done) <$> call (.closeSelection handle)

end StoreTask

/-- What the stores over a key may do, when the clock and the storage answer only
what is allowed. -/
def manifestStore (audience : Text) (allowed : Event Storage → Prop) :
    System Storage StoreState StoreTask (Try StoreAnswer) where
  exec := fun thread s e s' => allowed e ∧ s.allows thread e ∧ s' = s.effect thread e
  start := fun s task s' => task.isOver audience ∧ s' = s
  body := fun task => task.run.run >>= fun r => .ret (.inr r)

/-- A process that starts with what the storage has. -/
def StoreState.new (durable : Option StoredText) :
    Pool Storage StoreState StoreTask (Try StoreAnswer) :=
  ⟨{ durable }, []⟩

end Pokrov.AppShell
