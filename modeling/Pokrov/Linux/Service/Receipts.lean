import Pokrov.Linux.Service.Requests

/-!
# Receipts of `cancel_connect`

What a peer may conclude from a settled cancellation. The receipt is about the
invocation that the request found. Another peer may have used the name again
while the request waited, and then that invocation may own the runtime.
-/

namespace Pokrov.Linux.Service

open Effects Outline

variable {P : Payloads}

/-- The calls of a name in a pool are all done and stopped. -/
def AllStopped (requestID : String) (s : Shared) : Prop :=
  ∀ call c, s.At call c → c.requestID = requestID → c.done = true ∧ c.stopped = true

theorem allStopped_of_current {s : Shared} {requestID : String} {call : Nat}
    {c : BoundConnectCall} (hinv : Inv s) (hc : s.At call c) (hdone : c.done = true)
    (hstopped : c.stopped = true)
    (hcurrent : ∀ other c', s.boundConnectCall = some other → s.At other c' →
      c'.requestID = requestID → other = call) : AllStopped requestID s := by
  intro other c' hc' hname
  by_cases hbound : s.boundConnectCall = some other
  · cases hcurrent other c' hbound hc' hname
    cases hc.symm.trans hc'
    exact ⟨hdone, hstopped⟩
  · exact hinv.retired other c' hc' hbound

/-- The calls of a name that the later state has were there in the earlier. -/
theorem earlier_of_rely {s s' : Shared} {thread call : Nat} {c' : BoundConnectCall}
    (hrely : Rely thread s s') (hc' : s'.At call c') (hlt : call < s.calls.length) :
    ∃ c, s.At call c ∧ c.Becomes c' := by
  have hat := List.getElem?_eq_getElem hlt
  obtain ⟨c'', hc'', hb⟩ := hrely.calls call _ hat
  cases hc'.symm.trans hc''
  exact ⟨_, hat, hb⟩

/-- Where every call of a name is stopped, the name does not own the runtime again
until it is begun again. -/
theorem unowned_of_rely {s s' : Shared} {thread : Nat} {requestID : String} (hne : requestID ≠ "")
    (hall : AllStopped requestID s) (hinv : Inv s') (hrely : Rely thread s s')
    (hold : ∀ call c', s'.At call c' → c'.requestID = requestID → call < s.calls.length) :
    s'.ownership.boundConnectRequestID ≠ requestID ∧
      ownedMarks requestID s' = ownedMarks requestID s := by
  constructor
  · rintro rfl
    obtain ⟨call, c', -, hc', hname, hstopped⟩ := hinv.owner hne
    obtain ⟨c, hc, hb⟩ := earlier_of_rely hrely hc' (hold call c' hc' hname)
    obtain ⟨hd, hs⟩ := hall call c hc (hb.requestID.symm.trans hname)
    exact absurd (hstopped.symm.trans (hb.stopped hd hs)) nofun
  · refine hrely.owned requestID fun call c' hc' hname => ?_
    obtain ⟨c, hc, hb⟩ := earlier_of_rely hrely hc' (hold call c' hc' hname)
    exact ⟨c, hc, (hall call c hc (hb.requestID.symm.trans hname)).1⟩

/-- **Receipts.** When `cancel_connect` has answered a peer that a name is settled,
an invocation that this peer has issued under the name is done and stopped. Unless
a later invocation of the name has become current, the name does not own the
runtime, and it does not own it again in any run in which it is not begun again.
A call is cancelled by its own peer only. -/
theorem settled_is_finished (P : Payloads) (p : Pool Daemon Shared Task Reply)
    (h : Reachable P p) (i : Nat) (reply : Reply) (peer : Peer) (requestID : String)
    (hi : p.threads[i]? = some (.ret (.inr reply))) (hsettles : Settles reply peer requestID) :
    (∃ call c, p.shared.calls[call]? = some c ∧ c.requestID = requestID ∧ c.peer = peer ∧
      c.done = true ∧ c.stopped = true ∧
      ((∀ other c', p.shared.boundConnectCall = some other →
          p.shared.calls[other]? = some c' → c'.requestID = requestID → other = call) →
        ∀ q, (daemon P).Run p q →
          (∀ other c', q.shared.calls[other]? = some c' → c'.requestID = requestID →
            other < p.shared.calls.length) →
          q.shared.ownership.boundConnectRequestID ≠ requestID ∧
            ownedMarks requestID q.shared = ownedMarks requestID p.shared)) ∧
    ∀ (call : Nat) (c : BoundConnectCall), p.shared.calls[call]? = some c →
      ∀ canceller ∈ c.cancelledBy, canceller = c.peer := by
  have hgood := good_of_reachable h
  refine ⟨?_, hgood.1.cancelled⟩
  obtain ⟨call, c, hc, hname, hpeer, hdone, hstopped⟩ :=
    hgood.answered hi peer requestID hsettles
  refine ⟨call, c, hc, hname, hpeer, hdone, hstopped, fun hcurrent q hrun hold => ?_⟩
  obtain ⟨hgood', hrely⟩ := Good.run valid_outline hgood hrun
  have hne : requestID ≠ "" := hname ▸ hgood.1.named call c hc
  exact unowned_of_rely hne (allStopped_of_current hgood.1 hc hdone hstopped hcurrent) hgood'.1
    (hrely _ (Nat.le_refl _)) hold

/-- A connect on a network that is gone, cancelled before it has ended. -/
def cancelledSchedule : List (Move Task Bool) :=
  [.start (.request samplePeer connectR), .go 0 1 false,
    .start (.request samplePeer cancelR), .go 1 1 true, .go 0 100 false, .go 1 100 true]

/-- The receipt of a settled cancellation. -/
def settledReply : Reply :=
  ⟨.request samplePeer cancelR, some (connectCancellationResponse cancelR "R" true)⟩

theorem settles_settledReply : Settles settledReply samplePeer "R" :=
  ⟨cancelR, _, rfl, rfl, rfl, rfl⟩

theorem cancelledSchedule_finished :
    (played samplePayloads cancelledSchedule).shared.ownership.boundConnectRequestID ≠ "R" ∧
      ∃ (call : Nat) (c : BoundConnectCall),
        (played samplePayloads cancelledSchedule).shared.calls[call]? = some c ∧
        c.requestID = "R" ∧ c.done = true := by
  obtain ⟨⟨call, c, hc, hname, -, hdone, -, hlater⟩, -⟩ := settled_is_finished samplePayloads
    (played samplePayloads cancelledSchedule) (reachable_played _ _) 1 settledReply samplePeer "R"
    (Pool.answer_eq_some (by decide +kernel)) settles_settledReply
  have hone : (played samplePayloads cancelledSchedule).shared.calls.length = 1 := by
    decide +kernel
  have hzero : ∀ (other : Nat) (c' : BoundConnectCall),
      (played samplePayloads cancelledSchedule).shared.calls[other]? = some c' → other = 0 := by
    intro other c' hc'
    have hlt := (List.getElem?_eq_some_iff.mp hc').1
    omega
  refine ⟨(hlater (fun other c' _ hc' _ => ?_) _ .refl fun other c' hc' _ => ?_).1, call, c, hc,
    hname, hdone⟩
  · rw [hzero other c' hc', hzero call c hc]
  · rw [hzero other c' hc', hone]
    exact Nat.zero_lt_one

/-- The name is used again by another peer while the cancellation waits. -/
def reusedSchedule : List (Move Task Bool) :=
  [.start (.request samplePeer stageRequest), .go 0 100 true,
    .start (.request samplePeer connectR), .go 1 1 false,
    .start (.request samplePeer cancelR), .go 2 1 true, .go 1 100 false,
    .start (.request samplePeer connectS), .go 3 100 false,
    .start (.request otherPeer connectR), .go 4 200 true,
    .go 2 100 true]

/-- A settled name may own the runtime. -/
theorem settled_name_owns :
    ∃ (P : Payloads) (p : Pool Daemon Shared Task Reply) (i : Nat) (reply : Reply) (peer : Peer)
      (requestID : String), Reachable P p ∧ p.threads[i]? = some (.ret (.inr reply)) ∧
      Settles reply peer requestID ∧ p.shared.ownership.boundConnectRequestID = requestID :=
  ⟨samplePayloads, played samplePayloads reusedSchedule, 2, settledReply, samplePeer, "R",
    reachable_played _ _, Pool.answer_eq_some (by decide +kernel), settles_settledReply,
    by decide +kernel⟩

end Pokrov.Linux.Service
