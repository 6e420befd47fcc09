import Pokrov.SupportBundle.Delivery

/-!
# The protocol of a delivery

What the coordinator owes the server and the outbox at each call, whatever they answer and
whichever of them throws: chunks without a gap from where the server said, a completion only
of a whole bundle, a removal only of a bundle that the server has, and at most five attempts
under one key.
-/

namespace Pokrov.SupportBundle.SupportBundleDeliveryCoordinator

open Dart Effects

variable (c : SupportBundleDeliveryCoordinator) (stored : StoredEncryptedSupportBundle)
  (request : SupportBundleUploadRequest)

/-- How far an attempt is: which chunks were acknowledged, or whether the server has the
bundle. -/
inductive Stage
  | idle
  | uploading (ticket : SupportBundleUploadTicket) (chunks : List (List UInt8))
  | received
  | removed

/-- What an attempt has come to, and how many there were. -/
structure Progress where
  stage : Stage
  attempts : Nat

/-- Where a ticket lets an attempt go on. -/
def Stage.ofTicket (ticket : SupportBundleUploadTicket) : Stage :=
  if ticket.nextOffset < 0 ∨ (stored.bytes.length : Int) < ticket.nextOffset then .idle
  else if ticket.status = text "validated" then .received
  else .uploading ticket []

/-- A chunk counts when the server goes on right behind it. -/
def Stage.acknowledge (stage : Stage) (offset : Nat) (bytes : List UInt8)
    (receipt : SupportBundleChunkReceipt) : Stage :=
  match stage with
  | .uploading ticket chunks =>
    if receipt.nextOffset = (offset + bytes.length : Nat) then .uploading ticket (chunks ++ [bytes])
    else .idle
  | _ => .idle

/-- How a call and its answer move an attempt on. -/
def Progress.next (g : Progress) : (call : DeliveryCall) → call.Answer → Progress
  | .issue _, none => ⟨.idle, g.attempts + 1⟩
  | .issue _, some ticket => ⟨.ofTicket stored ticket, g.attempts + 1⟩
  | .putChunk _ _ _ _, none => { g with stage := .idle }
  | .putChunk _ offset _ bytes, some receipt =>
    { g with stage := g.stage.acknowledge offset bytes receipt }
  | .complete _, none => { g with stage := .idle }
  | .complete _, some status =>
    { g with
      stage := if status = text "queued" ∨ status = text "validated" then .received else .idle }
  | .remove _, none => { g with stage := .idle }
  | .remove _, some () => { g with stage := .removed }
  | .delay _, _ => g

/-- What has to hold at a call. -/
def Progress.owes (g : Progress) : DeliveryCall → Prop
  | .issue r => g.stage = .idle ∧ g.attempts < 5 ∧ r = request
  | .putChunk ticket offset sha256 bytes => ∃ chunks, g.stage = .uploading ticket chunks ∧
      (offset : Int) = ticket.nextOffset + chunks.flatten.length ∧
      bytes = (stored.bytes.drop offset).take bytes.length ∧ 0 < bytes.length ∧
      bytes.length ≤ 262144 ∧ sha256 = c.sha256 bytes
  | .complete ticket => ∃ chunks, g.stage = .uploading ticket chunks ∧
      chunks.flatten = stored.bytes.drop ticket.nextOffset.toNat
  | .remove r => r = stored ∧ g.stage = .received
  | .delay _ => g.stage = .idle

/-- The protocol as a contract. The environment may answer anything. -/
def protocol : Contract deliveryInterface Progress where
  next := fun g e => g.next stored e.call e.answer
  rely := fun _ _ => True
  guar := fun g e => g.owes c stored request e.call

variable {c stored request}

/-! ## Chunks -/

variable {offset : Nat} {issued : SupportBundleUploadTicket} {chunks : List (List UInt8)}

theorem length_chunk (h : offset < stored.bytes.length) :
    (sublist stored.bytes offset (c.chunkEnd stored.bytes offset)).length =
      c.chunkEnd stored.bytes offset - offset := by
  have hend := c.chunkEnd_le stored.bytes offset
  have hafter := c.lt_chunkEnd h
  exact Codec.length_substr (by omega)

/-- What was acknowledged, as far as some offset. -/
structure Acknowledged (stored : StoredEncryptedSupportBundle) (issued : SupportBundleUploadTicket)
    (chunks : List (List UInt8)) (offset : Nat) : Prop where
  first : 0 ≤ issued.nextOffset
  offset_eq : (offset : Int) = issued.nextOffset + chunks.flatten.length
  offset_le : offset ≤ stored.bytes.length
  flatten_eq : chunks.flatten = sublist stored.bytes issued.nextOffset.toNat offset

theorem Acknowledged.start
    (h : ¬(issued.nextOffset < 0 ∨ (stored.bytes.length : Int) < issued.nextOffset)) :
    Acknowledged stored issued [] issued.nextOffset.toNat := by
  refine ⟨by omega, by simp; omega, by omega, ?_⟩
  simp [sublist, Codec.substr]

theorem Acknowledged.next (h : Acknowledged stored issued chunks offset)
    (hlt : offset < stored.bytes.length) : Acknowledged stored issued
      (chunks ++ [sublist stored.bytes offset (c.chunkEnd stored.bytes offset)])
      (c.chunkEnd stored.bytes offset) := by
  have hend := c.chunkEnd_le stored.bytes offset
  have hafter := c.lt_chunkEnd hlt
  have hlength := length_chunk (c := c) hlt
  have hfirst := h.first
  have hoffset := h.offset_eq
  refine ⟨hfirst, ?_, hend, ?_⟩
  · simp only [List.flatten_append, List.flatten_singleton, List.length_append, hlength]
    omega
  · obtain ⟨m, hm⟩ : ∃ m, offset = issued.nextOffset.toNat + m :=
      ⟨chunks.flatten.length, by omega⟩
    have hsplit := Codec.substr_append stored.bytes issued.nextOffset.toNat m
      (c.chunkEnd stored.bytes offset - offset)
    rw [List.flatten_append, List.flatten_singleton, h.flatten_eq]
    simp only [sublist]
    rw [show offset - issued.nextOffset.toNat = m by omega,
      show c.chunkEnd stored.bytes offset - issued.nextOffset.toNat =
        m + (c.chunkEnd stored.bytes offset - offset) by omega, hsplit, ← hm]

/-- At the end the chunks are all that is behind the first offset. -/
theorem Acknowledged.whole (h : Acknowledged stored issued chunks offset)
    (hend : ¬offset < stored.bytes.length) :
    chunks.flatten = stored.bytes.drop issued.nextOffset.toNat := by
  have hoffset := h.offset_le
  rw [h.flatten_eq, sublist, Codec.substr, List.take_of_length_le]
  rw [List.length_drop]
  omega

/-- What the next chunk owes. -/
theorem owes_putChunk (request : SupportBundleUploadRequest) {offset attempts : Nat}
    (h : Acknowledged stored issued chunks offset) (hlt : offset < stored.bytes.length) :
    Progress.owes c stored request ⟨.uploading issued chunks, attempts⟩
      (.putChunk issued offset (c.sha256 (sublist stored.bytes offset (c.chunkEnd stored.bytes offset)))
        (sublist stored.bytes offset (c.chunkEnd stored.bytes offset))) := by
  have hafter := c.lt_chunkEnd hlt
  have hend := c.chunkEnd_le_add stored.bytes offset
  have hsize := c.chunkSize_le
  have hlength := length_chunk (c := c) hlt
  refine ⟨chunks, rfl, h.offset_eq, ?_, ?_, ?_, rfl⟩
  · rw [hlength]
    rfl
  · omega
  · omega

/-- How an upload ends: with every byte acknowledged, or with the attempt over. -/
def Uploaded (stored : StoredEncryptedSupportBundle) (issued : SupportBundleUploadTicket) :
    Bool → Stage → Prop
  | true, stage => ∃ chunks, stage = .uploading issued chunks ∧
      chunks.flatten = stored.bytes.drop issued.nextOffset.toNat
  | false, stage => stage = .idle

theorem putChunks_spec {offset attempts : Nat} (h : Acknowledged stored issued chunks offset)
    (lastTicket : Option SupportBundleUploadTicket) :
    (protocol c stored request).wpa (c.putChunks stored.bytes issued offset)
      (fun whole _ g => Uploaded stored issued whole g.stage ∧ g.attempts = attempts)
      lastTicket ⟨.uploading issued chunks, attempts⟩ := by
  induction hleft : stored.bytes.length - offset using Nat.strongRecOn
    generalizing offset chunks with
  | ind left ih =>
    rw [putChunks]
    split
    · next hlt =>
      have hafter := c.lt_chunkEnd hlt
      have hlength := length_chunk (c := c) hlt
      refine Contract.wpa_call fun receipt _ => ⟨owes_putChunk request h hlt, ?_⟩
      cases receipt with
      | none => exact ⟨rfl, rfl⟩
      | some receipt =>
        have hend : offset + (sublist stored.bytes offset (c.chunkEnd stored.bytes offset)).length =
            c.chunkEnd stored.bytes offset := by omega
        by_cases hnext : receipt.nextOffset = c.chunkEnd stored.bytes offset
        · have hrest := ih _ (by omega) (h.next (c := c) hlt) rfl
          simp only [protocol, Progress.next, Stage.acknowledge, hend, hnext, ne_eq, not_true,
            if_false, if_true]
          exact hrest
        · simp only [protocol, Progress.next, Stage.acknowledge, hend, hnext, ne_eq, not_false_iff,
            if_false, if_true]
          exact ⟨rfl, rfl⟩
    · next hend => exact ⟨⟨chunks, rfl, h.whole hend⟩, rfl⟩

/-! ## Attempts -/

/-- How an attempt ends: it throws, or the bundle has left the outbox. -/
def Attempted (number : Nat) (r : Option SupportBundleDeliveryResult) (g : Progress) : Prop :=
  g.attempts = number + 1 ∧
    match r with
    | none => g.stage = .idle
    | some result => result.state = .queued ∧ g.stage = .removed

theorem removeStored_spec {number : Nat} (lastTicket : Option SupportBundleUploadTicket) :
    (protocol c stored request).wpa (removeStored stored issued) (fun r _ g => Attempted number r g)
      lastTicket ⟨.received, number + 1⟩ := by
  refine Contract.wpa_call fun removed _ => ⟨⟨rfl, rfl⟩, ?_⟩
  cases removed with
  | none => exact ⟨rfl, rfl⟩
  | some removed => exact ⟨rfl, rfl, rfl⟩

theorem next_issue (issued : SupportBundleUploadTicket) (attempts : Nat) :
    (protocol c stored request).next ⟨.idle, attempts⟩ ⟨.issue request, some issued⟩ =
      ⟨.ofTicket stored issued, attempts + 1⟩ := rfl

theorem next_complete (issued : SupportBundleUploadTicket) (status : Text) (g : Progress) :
    (protocol c stored request).next g ⟨.complete issued, some status⟩ =
      ⟨if status = text "queued" ∨ status = text "validated" then .received else .idle,
        g.attempts⟩ := rfl

theorem attempt_spec {number : Nat} (hnumber : number < 5)
    (lastTicket : Option SupportBundleUploadTicket) :
    (protocol c stored request).wpa (c.attempt stored request) (fun r _ g => Attempted number r g)
      lastTicket ⟨.idle, number⟩ := by
  refine Contract.wpa_call fun issued _ => ⟨⟨rfl, hnumber, rfl⟩, ?_⟩
  cases issued with
  | none => exact ⟨rfl, rfl⟩
  | some issued =>
    rw [next_issue]
    simp only [Contract.wpa_bind, Contract.wpa_set, Stage.ofTicket]
    by_cases hrange : issued.nextOffset < 0 ∨ (stored.bytes.length : Int) < issued.nextOffset
    · rw [if_pos hrange, if_pos hrange]
      exact ⟨rfl, rfl⟩
    by_cases hvalidated : issued.status = text "validated"
    · rw [if_neg hrange, if_neg hrange, if_pos hvalidated, if_pos hvalidated]
      exact removeStored_spec _
    rw [if_neg hrange, if_neg hrange, if_neg hvalidated, if_neg hvalidated]
    refine Contract.wpa_bind.mpr (Contract.wpa_mono (putChunks_spec (.start hrange) _) ?_)
    rintro whole lastTicket ⟨stage, attempts⟩ ⟨huploaded, rfl⟩
    cases whole with
    | false => exact ⟨rfl, huploaded⟩
    | true =>
      refine Contract.wpa_call fun status _ => ⟨huploaded, ?_⟩
      cases status with
      | none => exact ⟨rfl, rfl⟩
      | some status =>
        rw [next_complete]
        by_cases hstatus : status = text "queued" ∨ status = text "validated"
        · simp only [if_pos hstatus, if_neg (show ¬(status ≠ text "queued" ∧
            status ≠ text "validated") by tauto)]
          exact removeStored_spec _
        · simp only [if_neg hstatus, if_pos (show status ≠ text "queued" ∧
            status ≠ text "validated" by tauto)]
          exact ⟨rfl, rfl⟩

/-- How a delivery ends: queued if and only if the bundle has left the outbox. -/
def Delivered (r : Option SupportBundleDeliveryResult) (g : Progress) : Prop :=
  g.attempts ≤ 5 ∧ ∀ result, r = some result → (result.state = .queued ↔ g.stage = .removed)

theorem attemptFrom_spec {number left : Nat} (hleft : number + left ≤ 5)
    (lastTicket : Option SupportBundleUploadTicket) :
    (protocol c stored request).wpa (c.attemptFrom stored request number left)
      (fun r _ g => Delivered r g) lastTicket ⟨.idle, number⟩ := by
  induction left generalizing number lastTicket with
  | zero =>
    refine ⟨hleft, ?_⟩
    rintro result ⟨⟩
    simp [deferred]
  | succ left ih =>
    refine Contract.wpa_bind.mpr (Contract.wpa_mono (attempt_spec (by omega) lastTicket) ?_)
    rintro r lastTicket ⟨stage, attempts⟩ ⟨hattempts, hr⟩
    simp only at hattempts
    subst hattempts
    cases r with
    | some result =>
      refine ⟨by simp only; omega, ?_⟩
      rintro result ⟨⟩
      obtain ⟨hstate, hstage⟩ := hr
      simp only at hstage
      simp [hstate, hstage]
    | none =>
      simp only at hr
      subst hr
      simp only [Contract.wpa_ite]
      refine ⟨fun _ => Contract.wpa_call fun delayed _ => ⟨rfl, ?_⟩, fun _ => ih (by omega) _⟩
      cases delayed with
      | none => exact ⟨by simp only [protocol, Progress.next]; omega, by simp⟩
      | some delayed => exact ih (by omega) _

/-- **Delivery.** Whatever the server, the outbox and the scheduler answer, and wherever the
delivery is cut off, each call so far meets what it owes, there were at most five attempts,
and a result says queued if and only if the bundle has left the outbox. -/
theorem deliverStored_keeps (c : SupportBundleDeliveryCoordinator)
    (stored : StoredEncryptedSupportBundle) (caseSummary : Text) (ticketId : Option Int)
    {trace : List (Event deliveryInterface)}
    {rest : Prog deliveryInterface
      (Option SupportBundleDeliveryResult × Option SupportBundleUploadTicket)}
    (hrun : Steps (c.deliverStored stored caseSummary ticketId none) trace rest) :
    let rules := protocol c stored (c.requestOf stored caseSummary ticketId)
    rules.Guaranteed ⟨.idle, 0⟩ trace ∧
      ∀ r lastTicket, rest = .ret (r, lastTicket) → Delivered r (rules.after ⟨.idle, 0⟩ trace) := by
  intro rules
  have hspec : rules.wpa (c.deliverStored stored caseSummary ticketId) (fun r _ g => Delivered r g)
      none ⟨.idle, 0⟩ := by
    unfold deliverStored
    split
    · exact ⟨by decide, by simp⟩
    · exact attemptFrom_spec (by simpa using c.attempts_le) none
  obtain ⟨hguaranteed, hrest⟩ := rules.wp_steps hspec hrun (rules.along_of_forall (by
    intro g e
    exact trivial) _ _)
  refine ⟨hguaranteed, ?_⟩
  rintro r lastTicket rfl
  exact hrest

/-! ### An upload at the second attempt -/

def largeBundle : StoredEncryptedSupportBundle where
  diagnosticId := text "PKRV-01"
  reference := text "outbox/PKRV-01"
  bytes := List.replicate 40000 1

def defaultCoordinator : SupportBundleDeliveryCoordinator where
  maximumAttempts := 3
  chunkSizeBytes := 16384
  sha256 := fun bytes => bytes.map (·.toUInt16)

/-- A server that fails at the second chunk before there was a delay, and then goes on with it. -/
def willing (delayed : Bool) : (call : DeliveryCall) → call.Answer
  | .issue _ => some ⟨text "upload", text "ticket", 7, if delayed then 16384 else 0, text "issued"⟩
  | .putChunk _ offset _ bytes =>
    if 0 < offset ∧ delayed = false then none else some ⟨(offset + bytes.length : Nat), true⟩
  | .complete _ => some (text "queued")
  | .remove _ => some ()
  | .delay _ => some ()

/-- The events of the upload in chunks, and what it returns. -/
def resumedUpload : List (Event deliveryInterface) ×
    Option SupportBundleDeliveryResult × Option SupportBundleUploadTicket :=
  (defaultCoordinator.deliverStored largeBundle (text "slow") none none).play
    (fun trace call => willing (trace.any fun e => e.call matches .delay _) call) []

theorem steps_resumedUpload :
    Steps (defaultCoordinator.deliverStored largeBundle (text "slow") none none) resumedUpload.1
      (.ret (resumedUpload.2.1, resumedUpload.2.2)) :=
  steps_play_pair _ _

theorem deliverStored_keeps_resumedUpload :
    let rules := protocol defaultCoordinator largeBundle
      (defaultCoordinator.requestOf largeBundle (text "slow") none)
    rules.Guaranteed ⟨.idle, 0⟩ resumedUpload.1 ∧
      Delivered resumedUpload.2.1 (rules.after ⟨.idle, 0⟩ resumedUpload.1) := by
  intro rules
  obtain ⟨hguaranteed, hdelivered⟩ :=
    deliverStored_keeps defaultCoordinator largeBundle (text "slow") none steps_resumedUpload
  exact ⟨hguaranteed, hdelivered _ _ rfl⟩

end Pokrov.SupportBundle.SupportBundleDeliveryCoordinator
