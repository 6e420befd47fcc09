import Pokrov.Dart.Text
import Pokrov.Lib.Codec
import Pokrov.Lib.Effects

/-!
# Delivery of a support bundle

`SupportBundleDeliveryCoordinator`: a bundle that was encrypted and stored is uploaded in
chunks, from where the server says, and leaves the outbox when the server has all of it.
The transport, the outbox and the scheduler of delays are the environment, and any call may
throw. SHA-256 is a parameter.
-/

namespace Pokrov.SupportBundle

open Dart Effects

structure StoredEncryptedSupportBundle where
  diagnosticId : Text
  reference : Text
  bytes : List UInt8

structure SupportBundleUploadRequest where
  idempotencyKey : Text
  bundleId : Text
  sizeBytes : Nat
  sha256 : Text
  contentType : Text
  caseSummary : Text
  ticketId : Option Int

structure SupportBundleUploadTicket where
  uploadId : Text
  uploadTicket : Text
  ticketId : Int
  nextOffset : Int
  status : Text

structure SupportBundleChunkReceipt where
  nextOffset : Int
  complete : Bool

inductive SupportBundleDeliveryState
  | queued
  | offlineEncrypted

structure SupportBundleDeliveryResult where
  state : SupportBundleDeliveryState
  diagnosticId : Text
  outboxReference : Text
  ticketId : Option Int
  failureCode : Option Text

/-! ## The environment -/

inductive DeliveryCall
  | issue (request : SupportBundleUploadRequest)
  | putChunk (ticket : SupportBundleUploadTicket) (offset : Nat) (sha256 : Text) (bytes : List UInt8)
  | complete (ticket : SupportBundleUploadTicket)
  | remove (stored : StoredEncryptedSupportBundle)
  | delay (milliseconds : Nat)

/-- A call that throws has no answer. -/
def DeliveryCall.Answer : DeliveryCall → Type
  | .issue _ => Option SupportBundleUploadTicket
  | .putChunk _ _ _ _ => Option SupportBundleChunkReceipt
  | .complete _ => Option Text
  | .remove _ => Option Unit
  | .delay _ => Option Unit

def deliveryInterface : Interface := ⟨DeliveryCall, DeliveryCall.Answer⟩

/-- What runs with the variable `lastTicket`. -/
abbrev DeliveryAct : Type → Type := Act deliveryInterface (Option SupportBundleUploadTicket)

def issue (request : SupportBundleUploadRequest) : DeliveryAct (Option SupportBundleUploadTicket) :=
  perform (I := deliveryInterface) (.issue request)

def putChunk (ticket : SupportBundleUploadTicket) (offset : Nat) (sha256 : Text)
    (bytes : List UInt8) : DeliveryAct (Option SupportBundleChunkReceipt) :=
  perform (I := deliveryInterface) (.putChunk ticket offset sha256 bytes)

def complete (ticket : SupportBundleUploadTicket) : DeliveryAct (Option Text) :=
  perform (I := deliveryInterface) (.complete ticket)

def remove (stored : StoredEncryptedSupportBundle) : DeliveryAct (Option Unit) :=
  perform (I := deliveryInterface) (.remove stored)

def delay (milliseconds : Nat) : DeliveryAct (Option Unit) :=
  perform (I := deliveryInterface) (.delay milliseconds)

/-! ## The coordinator -/

structure SupportBundleDeliveryCoordinator where
  maximumAttempts : Int
  chunkSizeBytes : Int
  sha256 : List UInt8 → Text

namespace SupportBundleDeliveryCoordinator

/-- `clamp`. -/
def clamp (low high n : Int) : Int := max low (min n high)

variable (c : SupportBundleDeliveryCoordinator)

def attempts : Nat := (clamp 1 5 c.maximumAttempts).toNat

def chunkSize : Nat := (clamp (16 * 1024) (256 * 1024) c.chunkSizeBytes).toNat

theorem attempts_le : c.attempts ≤ 5 := by
  unfold attempts clamp
  omega

theorem chunkSize_pos : 0 < c.chunkSize := by
  unfold chunkSize clamp
  omega

theorem chunkSize_le : c.chunkSize ≤ 262144 := by
  unfold chunkSize clamp
  omega

/-- `Uint8List.sublistView`. -/
def sublist (bytes : List UInt8) (first last : Nat) : List UInt8 :=
  Codec.substr first (last - first) bytes

/-- Where the chunk at an offset ends. -/
def chunkEnd (bytes : List UInt8) (offset : Nat) : Nat := min (offset + c.chunkSize) bytes.length

theorem lt_chunkEnd {bytes : List UInt8} {offset : Nat} (h : offset < bytes.length) :
    offset < c.chunkEnd bytes offset := by
  have hpos := c.chunkSize_pos
  unfold chunkEnd
  omega

theorem chunkEnd_le (bytes : List UInt8) (offset : Nat) : c.chunkEnd bytes offset ≤ bytes.length := by
  unfold chunkEnd
  omega

theorem chunkEnd_le_add (bytes : List UInt8) (offset : Nat) :
    c.chunkEnd bytes offset ≤ offset + c.chunkSize := Nat.min_le_left _ _

/-- The loop that puts the chunks. It says whether it came to the end without throwing. -/
def putChunks (bytes : List UInt8) (issued : SupportBundleUploadTicket) (offset : Nat) :
    DeliveryAct Bool :=
  if _h : offset < bytes.length then do
    let last := c.chunkEnd bytes offset
    let chunk := sublist bytes offset last
    match ← putChunk issued offset (c.sha256 chunk) chunk with
    | none => pure false
    | some receipt => if receipt.nextOffset ≠ last then pure false else putChunks bytes issued last
  else pure true
termination_by bytes.length - offset
decreasing_by
  have hlt := c.lt_chunkEnd _h
  have hle := c.chunkEnd_le bytes offset
  omega

def queued (stored : StoredEncryptedSupportBundle) (issued : SupportBundleUploadTicket) :
    SupportBundleDeliveryResult where
  state := .queued
  diagnosticId := stored.diagnosticId
  outboxReference := stored.reference
  ticketId := some issued.ticketId
  failureCode := none

/-- The bundle leaves the outbox, and that is the result. -/
def removeStored (stored : StoredEncryptedSupportBundle) (issued : SupportBundleUploadTicket) :
    DeliveryAct (Option SupportBundleDeliveryResult) := do
  match ← remove stored with
  | none => pure none
  | some () => pure (some (queued stored issued))

/-- The body of the `try` block. Nothing is returned where it throws. -/
def attempt (stored : StoredEncryptedSupportBundle) (request : SupportBundleUploadRequest) :
    DeliveryAct (Option SupportBundleDeliveryResult) := do
  match ← issue request with
  | none => pure none
  | some issued =>
    set (some issued)
    if issued.nextOffset < 0 ∨ (stored.bytes.length : Int) < issued.nextOffset then pure none
    else if issued.status = text "validated" then removeStored stored issued
    else
      let acknowledged ← c.putChunks stored.bytes issued issued.nextOffset.toNat
      if acknowledged = false then pure none
      else
        match ← complete issued with
        | none => pure none
        | some status =>
          if status ≠ text "queued" ∧ status ≠ text "validated" then pure none
          else removeStored stored issued

/-- The result after the last attempt. -/
def deferred (stored : StoredEncryptedSupportBundle) (lastTicket : Option SupportBundleUploadTicket) :
    SupportBundleDeliveryResult where
  state := .offlineEncrypted
  diagnosticId := stored.diagnosticId
  outboxReference := stored.reference
  ticketId := lastTicket.map (·.ticketId)
  failureCode := some (text "upload_deferred")

/-- The loop over the attempts that are left, from some number on. Nothing is returned where
the scheduler of delays throws. -/
def attemptFrom (stored : StoredEncryptedSupportBundle) (request : SupportBundleUploadRequest) :
    Nat → Nat → DeliveryAct (Option SupportBundleDeliveryResult)
  | _, 0 => do
      let lastTicket ← get
      pure (some (deferred stored lastTicket))
  | number, left + 1 => do
      match ← c.attempt stored request with
      | some result => pure (some result)
      | none =>
        if number + 1 < c.attempts then
          match ← delay (250 * (number + 1)) with
          | none => pure none
          | some () => attemptFrom stored request (number + 1) left
        else attemptFrom stored request (number + 1) left

def requestOf (stored : StoredEncryptedSupportBundle) (caseSummary : Text) (ticketId : Option Int) :
    SupportBundleUploadRequest :=
  let checksum := c.sha256 stored.bytes
  { idempotencyKey :=
      text "bundle-" ++ stored.diagnosticId.drop 5 ++ text "-" ++ checksum.take 16
    bundleId := stored.diagnosticId
    sizeBytes := stored.bytes.length
    sha256 := checksum
    contentType := text "application/vnd.pokrov.support-bundle+json"
    caseSummary := caseSummary
    ticketId := ticketId }

/-- `_deliverStored`. An identifier of fewer than five units has no substring. -/
def deliverStored (stored : StoredEncryptedSupportBundle) (caseSummary : Text)
    (ticketId : Option Int) : DeliveryAct (Option SupportBundleDeliveryResult) :=
  if stored.diagnosticId.length < 5 then pure none
  else c.attemptFrom stored (c.requestOf stored caseSummary ticketId) 0 c.attempts

end SupportBundleDeliveryCoordinator

end Pokrov.SupportBundle
