import Pokrov.AppShell.ManifestRecord
import Pokrov.AppShell.RoutingCatalogVerifier
import Pokrov.Dart.DateParsing
import Pokrov.Lib.Pool

/-!
# The routing catalog store

`RoutingCatalogStore` for one storage key. The operations run as threads, as those
of the transport manifest store do: an `await` is a point where another may go on.
They take turns in a queue; `discardEnvelope` moves the generation and suspends
the catalog at once, and waits for its turn to erase.

A write replaces the record or leaves it and may fail in either case. A history
notes what the operations have done and written; no program reads it.
-/

namespace Pokrov.AppShell

open Dart Effects

/-! ## The record -/

/-- A map that `_load` returns. -/
structure CatalogRecord where
  revision : Int
  securityRevision : Int
  payloadSha256 : Document
  lastObservedAt : Text
  envelope : Document

namespace CatalogRecord

def toDocument (value : CatalogRecord) : Document :=
  .map [(text "version", .int 1), (text "revision", .int value.revision),
    (text "security_revision", .int value.securityRevision),
    (text "payload_sha256", value.payloadSha256),
    (text "last_observed_at", .string value.lastObservedAt), (text "envelope", value.envelope)]

/-- The fields of a map with these keys, where their types are right. -/
def ofDocument : Document → Option CatalogRecord
  | .map fields =>
    if Fields.hasKeys fields ["version", "revision", "security_revision", "payload_sha256",
        "last_observed_at", "envelope"] then
      match Fields.get fields "version", Fields.get fields "revision",
          Fields.get fields "security_revision", Fields.get fields "last_observed_at" with
      | .int 1, .int revision, .int securityRevision, .string lastObservedAt =>
        some ⟨revision, securityRevision, Fields.get fields "payload_sha256", lastObservedAt,
          Fields.get fields "envelope"⟩
      | _, _, _, _ => none
    else none
  | _ => none

def isSha256 : Document → Bool
  | .string value => decide (value.length = 64) && value.all isLowerHex
  | _ => false

/-- What `_load` asks of a record besides. -/
def accepted (value : CatalogRecord) : Bool :=
  decide (0 ≤ value.revision ∧ value.revision ≤ maximumRevision) &&
  decide (1 ≤ value.securityRevision ∧ value.securityRevision ≤ maximumRevision) &&
  (value.envelope.isNull || value.envelope.isMap) &&
  (if value.revision = 0 then value.payloadSha256.isNull && value.envelope.isNull
  else isSha256 value.payloadSha256)

/-- `payload_sha256` as a text or none. -/
def digest (value : CatalogRecord) : Option Text :=
  match value.payloadSha256 with
  | .string s => some s
  | _ => none

end CatalogRecord

def maximumCatalogRecordBytes : Nat := routingCatalogMaximumBytes + 4096

/-- `_load` of what the storage has, none where it has nothing. -/
def loadCatalog : Option StoredText → Try (Option CatalogRecord)
  | none => .ok none
  | some raw =>
    if maximumCatalogRecordBytes < raw.length ∨ maximumCatalogRecordBytes < raw.bytes then
      throwCatalog "catalog_cache_invalid"
    else
      match raw.decoded.bind CatalogRecord.ofDocument with
      | none => throwCatalog "catalog_cache_invalid"
      | some value =>
        if value.accepted then .ok (some value) else throwCatalog "catalog_cache_invalid"

/-- What `_load` returns where the storage has nothing, at a time. -/
def emptyCatalog (now : DateTime) : CatalogRecord :=
  ⟨0, 1, .null, now.toIso8601String, .null⟩

/-- What `accept` writes. -/
def acceptedCatalog (value : CatalogRecord) (catalog : VerifiedRoutingCatalog) : CatalogRecord :=
  { value with
    revision := catalog.revision
    securityRevision := catalog.securityRevision
    payloadSha256 := .string catalog.payloadSha256
    envelope := .map catalog.envelope }

/-! ## Calls -/

/-- `RoutingCatalogStore`, one of those over the key. -/
structure RoutingCatalogStore where
  verifier : RoutingCatalogVerifier
  enabled : Bool
  /-- `RoutingCatalogPolicy.fromVerified`, which throws or projects. -/
  fromVerified : VerifiedRoutingCatalog → Try Unit

def RoutingCatalogStore.available (store : RoutingCatalogStore) : Bool :=
  store.enabled && store.verifier.configured

/-- What the operations have done, with their threads. -/
inductive CatalogNote
  /-- `discardEnvelope` was called and moved on to a generation. -/
  | discarded (generation : Nat)
  /-- It has written its record. -/
  | erased (thread generation : Nat)
  /-- `accept` goes on to write. -/
  | committing (thread generation : Nat)
  /-- A record was replaced, by a write that is reported or fails. -/
  | wrote (thread : Nat) (before : Option StoredText) (after : StoredText) (reported : Bool)
  /-- `accept` has found another generation after its write. -/
  | superseded (thread : Nat)
  /-- `accept` has ended a suspension. -/
  | resumed (thread generation : Nat)
  /-- `read` has returned a catalog that it has observed at a time, over what was stored. -/
  | returned (thread : Nat) (catalog : VerifiedRoutingCatalog) (now : DateTime)
      (durable : Option StoredText)

/-- The storage and the statics for the key. -/
structure CatalogState where
  durable : Option StoredText
  generation : Nat := 0
  suspended : Bool := false
  /-- Threads whose operation has its turn or waits for it. -/
  queue : List Nat := []
  history : List CatalogNote := []
  /-- How many operations were called. -/
  called : Nat := 0

inductive CatalogCall
  /-- The operation is queued. -/
  | enqueue
  /-- `discardEnvelope` moves on to the next generation and is queued. -/
  | discard
  | enter
  | leave
  /-- `_now().toUtc()`. -/
  | now
  | requireGeneration (expected : Nat)
  | readStorage
  | writeStorage (raw : StoredText)
  | isSuspended
  /-- The digest and the signature are computed. -/
  | verification
  /-- The end of `read`, which looks at the clock twice. -/
  | finishRead (catalog : VerifiedRoutingCatalog) (now : DateTime)
  /-- `accept` makes sure of its generation before it writes. -/
  | commit (expected : Nat)
  /-- `accept` makes sure of its generation after its write and ends a suspension. -/
  | resume (expected : Nat)
  /-- The record of `discardEnvelope` is written. -/
  | erased (generation : Nat)

@[reducible] def CatalogCall.Answer : CatalogCall → Type
  | discard => Nat
  | now => DateTime
  | requireGeneration _ => Try Unit
  | readStorage => Try (Option StoredText)
  | writeStorage _ => Bool × Bool
  | isSuspended => Bool
  | finishRead _ _ => Bool
  | commit _ => Try Unit
  | resume _ => Try Unit
  | _ => Unit

abbrev CatalogStorage : Interface := ⟨CatalogCall, CatalogCall.Answer⟩

namespace CatalogState

/-- `_requireGeneration`. -/
def requireGeneration (s : CatalogState) (expected : Nat) : Try Unit :=
  if s.generation ≠ expected then throwCatalog "catalog_fetch_superseded" else .ok ()

/-- What `read` asks at its end, when the clock says these. -/
def mayReturn (s : CatalogState) (catalog : VerifiedRoutingCatalog) (now first second : DateTime) :
    Bool :=
  !s.suspended && !first.isBefore now && catalog.expiresAt.isAfter second

/-- The answers that a call may have, and when it may go on. -/
def allows (thread : Nat) (s : CatalogState) : Event CatalogStorage → Prop
  | ⟨.discard, r⟩ => r = s.generation + 1
  | ⟨.enter, _⟩ => s.queue.head? = some thread
  | ⟨.requireGeneration expected, r⟩ => r = s.requireGeneration expected
  | ⟨.readStorage, r⟩ => ∀ raw, r = .ok raw → raw = s.durable
  | ⟨.isSuspended, r⟩ => r = s.suspended
  | ⟨.finishRead catalog now, r⟩ => ∃ first second, r = s.mayReturn catalog now first second
  | ⟨.commit expected, r⟩ => r = s.requireGeneration expected
  | ⟨.resume expected, r⟩ => r = s.requireGeneration expected
  | _ => True

def note (s : CatalogState) (note : CatalogNote) : CatalogState :=
  { s with history := s.history ++ [note] }

/-- What an answered call leaves. A write says whether the record was replaced and
whether it was reported. -/
def effect (thread : Nat) (s : CatalogState) : Event CatalogStorage → CatalogState
  | ⟨.enqueue, _⟩ => { s with queue := s.queue ++ [thread] }
  | ⟨.discard, r⟩ =>
    { s with generation := s.generation + 1, suspended := true
             queue := s.queue ++ [thread] }.note (.discarded r)
  | ⟨.leave, _⟩ => { s with queue := s.queue.tail }
  | ⟨.writeStorage raw, (true, reported)⟩ =>
    { s with durable := some raw }.note (.wrote thread s.durable raw reported)
  | ⟨.finishRead catalog now, true⟩ => s.note (.returned thread catalog now s.durable)
  | ⟨.commit expected, .ok _⟩ => s.note (.committing thread expected)
  | ⟨.resume expected, .ok _⟩ => { s with suspended := false }.note (.resumed thread expected)
  | ⟨.resume _, .error _⟩ => s.note (.superseded thread)
  | ⟨.erased generation, _⟩ => s.note (.erased thread generation)
  | _ => s

end CatalogState

/-! ## Programs -/

abbrev CatalogAsync (α : Type) := ExceptT Failure (Prog CatalogStorage) α

namespace RoutingCatalogStore

/-- A call of an operation. -/
def call (c : CatalogCall) : CatalogAsync c.Answer := await (I := CatalogStorage) c

/-- A call whose answer may be thrown. -/
def require {α : Type} (c : CatalogCall) (h : c.Answer = Try α) : CatalogAsync α := do
  let r ← call c
  attempt (h.mp r)

def throwStored {α : Type} (code : String) : CatalogAsync α := throw (.catalog code)

/-- `_serialize`: the operation has its turn, and gives it back. -/
def takeTurn {α : Type} (operation : CatalogAsync α) : CatalogAsync α := do
  call .enter
  ensure (I := CatalogStorage) operation .leave

def serialize {α : Type} (store : RoutingCatalogStore) (operation : CatalogAsync α) :
    CatalogAsync α := do
  if store.available = false then throwStored "catalog_disabled"
  else do
    call .enqueue
    takeTurn operation

/-- `_load`. -/
def load : CatalogAsync CatalogRecord := do
  let raw ← require .readStorage rfl
  match ← attempt (loadCatalog raw) with
  | some value => return value
  | none => do
      let now ← call .now
      return emptyCatalog now

/-- `_write`. -/
def write (value : CatalogRecord) : CatalogAsync Unit := do
  let raw := StoredText.of value.toDocument
  if maximumCatalogRecordBytes < raw.bytes then throwStored "catalog_cache_too_large"
  else do
    let outcome ← call (.writeStorage raw)
    if outcome.2 = false then throw .other else return ()

/-- `_observe`, with the record that it has changed. -/
def observe (value : CatalogRecord) : CatalogAsync (DateTime × CatalogRecord) := do
  let now ← call .now
  match DateTime.tryParseUtc value.lastObservedAt with
  | none => throwStored "catalog_clock_rollback"
  | some previous =>
    if now.isBefore previous then throwStored "catalog_clock_rollback"
    else do
      let value := { value with lastObservedAt := now.toIso8601String }
      write value
      return (now, value)

variable (store : RoutingCatalogStore)

/-- What `read` and `accept` make of an envelope. -/
def admission (envelope : Document) (now : DateTime) (value : CatalogRecord) :
    Try VerifiedRoutingCatalog := do
  let catalog ← store.verifier.verify envelope now value.revision value.securityRevision value.digest
  store.fromVerified catalog
  return catalog

/-- A failure of the contract is no catalog. -/
def orNone {α : Type} (m : CatalogAsync (Option α)) : CatalogAsync (Option α) :=
  ExceptT.mk (m.run >>= fun r =>
    match r with
    | .error (.catalog _) => .ret (.ok none)
    | r => .ret r)

/-- `read` of a record with an envelope. -/
def readEnvelope (now : DateTime) (value : CatalogRecord) :
    CatalogAsync (Option VerifiedRoutingCatalog) := do
  call .verification
  let catalog ← attempt (store.admission value.envelope now value)
  if catalog.revision ≠ value.revision ∨ catalog.securityRevision ≠ value.securityRevision then
    return none
  else if ← call (.finishRead catalog now) then return some catalog
  else return none

def read : CatalogAsync (Option VerifiedRoutingCatalog) :=
  store.serialize do
    if ← call .isSuspended then return none
    else do
      let value ← load
      let (now, value) ← observe value
      if value.envelope.isNull then return none
      else orNone (store.readEnvelope now value)

/-- `accept` once its catalog is verified. -/
def commit (expectedGeneration : Nat) (now : DateTime) (value : CatalogRecord)
    (catalog : VerifiedRoutingCatalog) : CatalogAsync VerifiedRoutingCatalog := do
  let first ← call .now
  if first.isBefore now then throwStored "catalog_clock_rollback"
  else do
    let second ← call .now
    if catalog.expiresAt.isAfter second = false then throwStored "catalog_not_current"
    else do
      require (.commit expectedGeneration) rfl
      write (acceptedCatalog value catalog)
      require (.resume expectedGeneration) rfl
      return catalog

def accept (envelope : Document) (expectedGeneration : Nat) : CatalogAsync VerifiedRoutingCatalog :=
  store.serialize do
    require (.requireGeneration expectedGeneration) rfl
    let value ← load
    let (now, value) ← observe value
    call .verification
    let catalog ← attempt (store.admission envelope now value)
    commit expectedGeneration now value catalog

def discardEnvelope : CatalogAsync Unit := do
  if store.available = false then throwStored "catalog_disabled"
  else do
    let generation ← call .discard
    takeTurn do
      let value ← load
      let (_, value) ← observe value
      write { value with envelope := .null }
      call (.erased generation)

end RoutingCatalogStore

/-! ## Threads -/

inductive CatalogTask
  | read (store : RoutingCatalogStore)
  | accept (store : RoutingCatalogStore) (envelope : Document) (expectedGeneration : Nat)
  | discardEnvelope (store : RoutingCatalogStore)

inductive CatalogAnswer
  | read (result : Try (Option VerifiedRoutingCatalog))
  | accept (result : Try VerifiedRoutingCatalog)
  | discardEnvelope (result : Try Unit)

def CatalogTask.run : CatalogTask → Prog CatalogStorage CatalogAnswer
  | read store => store.read.run >>= fun r => .ret (.read r)
  | accept store envelope expectedGeneration =>
    (store.accept envelope expectedGeneration).run >>= fun r => .ret (.accept r)
  | discardEnvelope store => store.discardEnvelope.run >>= fun r => .ret (.discardEnvelope r)

/-- A write that is reported has replaced the record. -/
def CatalogState.Honest : Event CatalogStorage → Prop
  | ⟨.writeStorage _, (replaced, reported)⟩ => reported = true → replaced = true
  | _ => True

/-- What the stores over a key may do. -/
def catalogStore : System CatalogStorage CatalogState CatalogTask CatalogAnswer where
  exec := fun thread s e s' => CatalogState.Honest e ∧ s.allows thread e ∧ s' = s.effect thread e
  start := fun s _ s' => s' = { s with called := s.called + 1 }
  body := fun task => task.run >>= fun r => .ret (.inr r)

/-- A process that starts with what the storage has. -/
def CatalogState.new (durable : Option StoredText) :
    Pool CatalogStorage CatalogState CatalogTask CatalogAnswer :=
  ⟨{ durable }, []⟩

end Pokrov.AppShell
