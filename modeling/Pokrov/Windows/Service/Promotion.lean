import Pokrov.Windows.Service.Handoff

/-!
# The guard under a validated connection

A connect and a handoff that end with a validated egress take the guard away
before they report it. A bound connection is validated by a promotion, which
leaves the guard as it finds it.
-/

namespace Pokrov.Windows.Service

open Codec Effects Contract

/-- The `core_egress_validated` of a snapshot. -/
def RuntimeHost.reportsEgress (armed : Bool) (host : RuntimeHost) : Bool :=
  !(host.parts.transitionGuard && armed) && host.coreEgressValidated

/-- Success over a validated connection leaves no guard. -/
def Unguarded (r : RuntimeResult) (s : Runtime) (armed : Bool) : Prop :=
  r.status = .ok → s.host.parts.transitionGuard = true → s.host.phase = .running →
    s.host.coreEgressValidated = true → armed = false

theorem Unguarded.of_status {r : RuntimeResult} {s : Runtime} {armed : Bool}
    (h : r.status ≠ .ok) : Unguarded r s armed :=
  fun hok => absurd hok h

section Rules

variable {α β : Type} {Q : α → Runtime → Bool → Prop} {s : Runtime} {armed : Bool}

/-- The contract as the host sees it. -/
abbrev hostArming : Contract Quiet Bool := arming.restrict fun c => quiet c = true

theorem arming_of_calm {e : Event Machine} (h : calm e.call = true) :
    arming.next armed e = armed := by
  obtain ⟨c, r⟩ := e
  cases c <;> first | rfl | cases h

variable {m : HostAct α} {host : RuntimeHost}

theorem arm_onHost
    (h : hostArming.wpa m (fun a host armed' => Q a { s with host } armed') s.host armed) :
    arming.wpa (onHost m) Q s armed :=
  wpa_confined.mpr h

theorem arm_host {Q : α → RuntimeHost → Bool → Prop} (hm : Calm m)
    (hQ : ∀ a host', Settled host host' → Q a host' armed) : hostArming.wpa m Q host armed := by
  refine wpa_mono (wpa_of_moves (J := fun armed' => armed' = armed) ?_ hm rfl) ?_
  · rintro _ e rfl he _
    exact ⟨trivial, arming_of_calm (e := ⟨e.call.1, e.answer⟩) he⟩
  · rintro a host' armed' ⟨hhost, rfl⟩
    exact hQ a host' hhost

theorem arm_anyHost {f : α → HostAct β} {Q : β → RuntimeHost → Bool → Prop}
    (hf : ∀ a host' armed', hostArming.wpa (f a) Q host' armed') :
    hostArming.wpa (m >>= f) Q host armed := by
  refine wpa_seq (wpa_of_kept (J := fun _ => True) ?_ trivial) fun a host' armed' _ =>
    hf a host' armed'
  exact fun _ _ _ _ => ⟨trivial, trivial⟩

/-- Nothing is remembered of what comes before. -/
theorem arm_any {m : RuntimeAct α} {f : α → RuntimeAct β} {Q : β → Runtime → Bool → Prop}
    (hf : ∀ a s' armed', arming.wpa (f a) Q s' armed') : arming.wpa (m >>= f) Q s armed := by
  refine wpa_seq (wpa_of_kept (J := fun _ => True) ?_ trivial) fun a s' armed' _ => hf a s' armed'
  exact fun _ _ _ _ => ⟨trivial, trivial⟩

theorem arm_transitionGuardArmed :
    hostArming.wpa RuntimeHost.transitionGuardArmed (fun answer host' armed' =>
      host' = host ∧ armed' = armed ∧ (host.parts.transitionGuard = true → answer = armed))
      host armed := by
  unfold RuntimeHost.transitionGuardArmed
  rw [wpa_bind, wpa_get, wpa_ite]
  refine ⟨fun _ answer hanswer => ⟨trivial, rfl, rfl, fun _ => hanswer⟩, fun hparts => ?_⟩
  exact ⟨rfl, rfl, fun h => absurd h hparts⟩

theorem arm_guardFinish : hostArming.wpa RuntimeHost.guardFinish (fun error host' armed' =>
      host' = host ∧ armed' = decide (error ≠ "")) host armed :=
  fun _ _ => ⟨trivial, fun _ _ => ⟨trivial, rfl, rfl⟩⟩

end Rules

namespace Runtime

variable (F : Functions)

/-- The program ends with success over a validated connection only when no guard
is left. -/
def EndsUnguarded (m : RuntimeAct RuntimeResult) : Prop :=
  ∀ s armed, arming.wpa m Unguarded s armed

theorem arm_fail {status : Status} {failure : String} {s : Runtime} {armed : Bool} :
    arming.wpa (fail F status failure) (fun r _ _ => r.status = status) s armed := by
  refine arm_onHost ?_
  unfold RuntimeHost.fail
  rw [wpa_bind, wpa_modify, wpa_bind]
  exact arm_host (RuntimeHost.observing_snapshotBody F).calm fun _ _ _ => rfl

theorem endsUnguarded_fail {status : Status} (failure : String) (h : status ≠ .ok) :
    EndsUnguarded (fail F status failure) :=
  fun _ _ => wpa_mono (arm_fail F) fun _ _ _ hr => .of_status (hr.trans_ne h)

theorem endsUnguarded_ite {b : Prop} [Decidable b] {m n : RuntimeAct RuntimeResult}
    (hm : EndsUnguarded m) (hn : EndsUnguarded n) : EndsUnguarded (if b then m else n) := by
  split
  · exact hm
  · exact hn

theorem endsUnguarded_rollBackAndFail (withdraw : Bool) (failure : String) :
    EndsUnguarded (rollBackAndFail F withdraw failure) :=
  fun _ _ => arm_any fun _ => endsUnguarded_fail F _ (by decide)

section Connecting

variable (op : ConnectOperation)

theorem endsUnguarded_refused (reason : OperationInterruption) (identityMismatch : Bool) :
    EndsUnguarded (if identityMismatch then fail F .notReady "core_identity_mismatch"
      else if reason = .deadlineExceeded then
        fail F .deadlineExceeded
          (if op.expectedCoreDigest = [] then "deadline_exceeded" else "connect_deadline")
      else fail F .notReady "operation_cancelled") :=
  endsUnguarded_ite (endsUnguarded_fail F _ (by decide))
    (endsUnguarded_ite (endsUnguarded_fail F _ (by decide)) (endsUnguarded_fail F _ (by decide)))

/-- A result, if there is one, is unguarded. -/
def UnguardedResult (r : Option RuntimeResult) (s : Runtime) (armed : Bool) : Prop :=
  ∀ result, r = some result → Unguarded result s armed

theorem arm_ended {m : RuntimeAct RuntimeResult} (hm : EndsUnguarded m) (s : Runtime)
    (armed : Bool) : arming.wpa (do return some (← m)) UnguardedResult s armed := by
  refine wpa_seq (hm s armed) ?_
  rintro r s' armed' h _ ⟨⟩
  exact h

theorem arm_interruption (rollback : Bool) (s : Runtime) (armed : Bool) :
    arming.wpa (interruption F op rollback) UnguardedResult s armed := by
  unfold interruption
  refine arm_any fun reason s1 armed1 => arm_any fun identityMismatch s2 armed2 => ?_
  rw [wpa_ite]
  refine ⟨fun _ => nofun, fun _ => ?_⟩
  dsimp only
  rw [wpa_ite]
  refine ⟨fun _ => arm_ended (endsUnguarded_refused F op reason identityMismatch) _ _, fun _ => ?_⟩
  refine arm_any fun error s3 armed3 => ?_
  rw [wpa_ite]
  refine ⟨fun _ => arm_ended (endsUnguarded_fail F _ (by decide)) _ _, fun _ => ?_⟩
  exact arm_ended (endsUnguarded_refused F op reason identityMismatch) _ _

theorem endsUnguarded_unless {m : RuntimeAct (Option RuntimeResult)}
    {f : Option RuntimeResult → RuntimeAct RuntimeResult}
    (hm : ∀ s armed, arming.wpa m UnguardedResult s armed) (hf : EndsUnguarded (f none))
    (hend : ∀ result, f (some result) = pure result) : EndsUnguarded (m >>= f) := by
  intro s armed
  refine wpa_seq (hm s armed) ?_
  rintro (_ | result) s' armed' h
  · exact hf s' armed'
  · rw [hend result]
    exact h result rfl

theorem endsUnguarded_uninterrupted {m : RuntimeAct RuntimeResult} {rollback : Bool}
    (hm : EndsUnguarded m) : EndsUnguarded (do
      if let some result ← interruption F op rollback then return result
      m) :=
  endsUnguarded_unless (arm_interruption F op rollback) hm fun _ => rfl

/-- The guard is taken away before a validated connection is reported. -/
theorem endsUnguarded_finishConnect (outcome : DpiOutcome) (hfinish : op.finishTransitionGuard = true) :
    EndsUnguarded (onHost (finishConnect F op outcome)) := by
  intro s armed
  refine arm_onHost ?_
  unfold finishConnect
  rw [wpa_bind, wpa_modify, wpa_bind]
  -- what is known after the guard was asked to finish
  refine wpa_mono (Q := fun unguarded host armed' => unguarded = true →
    host.parts.transitionGuard = true → host.coreEgressValidated = true → armed' = false) ?_ ?_
  · rw [wpa_bind, wpa_get, wpa_ite]
    refine ⟨fun h _ _ hvalidated => ?_, fun _ => ?_⟩
    · rcases h with h | h
      · exact absurd hfinish h
      · exact absurd hvalidated h
    refine wpa_seq arm_transitionGuardArmed ?_
    rintro answer host armed1 ⟨rfl, rfl, htrue⟩
    rw [wpa_ite]
    refine ⟨fun hoff _ hparts _ => ?_, fun _ => ?_⟩
    · rw [← htrue hparts]
      exact Bool.not_eq_true _ ▸ hoff
    refine wpa_seq arm_guardFinish ?_
    rintro error host armed2 ⟨rfl, rfl⟩ hfinished _ _
    simpa using of_decide_eq_true hfinished
  intro unguarded host armed1 hlifted
  rw [wpa_ite]
  refine ⟨fun _ => ?_, fun hdone => ?_⟩
  · rw [wpa_bind, wpa_modify]
    unfold RuntimeHost.fail
    rw [wpa_bind, wpa_modify, wpa_bind]
    exact arm_host (RuntimeHost.observing_snapshotBody F).calm fun _ _ _ => .of_status nofun
  have hkept : ∀ {r : RuntimeResult} {host' : RuntimeHost}, Settled host host' →
      Unguarded r { s with host := host' } armed1 := by
    intro r host' hhost _ hparts _ hvalidated
    refine hlifted (not_not.mp hdone) ?_ (hhost.validated.symm.trans hvalidated)
    rw [← hhost.parts]
    exact hparts
  split
  · rw [wpa_bind]
    refine arm_host (.bind (calm_localDpiOwnerCurrent op) fun b => ?_) fun current host2 h2 => ?_
    · cases b with
      | false => exact .pure _
      | true => exact calm_ask rfl
    refine arm_host (.bind (.onlyIf (.modify fun _ => ?_)) fun _ => ?_) fun r host3 h3 => ?_
    · exact ⟨rfl, rfl, rfl, rfl, rfl, rfl, rfl⟩
    · exact (RuntimeHost.observing_snapshot F).calm
    · exact hkept (h2.trans h3)
  · exact arm_host (RuntimeHost.observing_snapshot F).calm fun r host2 h2 => hkept h2

theorem endsUnguarded_commitConnect (outcome : DpiOutcome)
    (hfinish : op.finishTransitionGuard = true) : EndsUnguarded (commitConnect F op outcome) := by
  refine fun _ _ => arm_any fun verifiedError => endsUnguarded_ite ?_ ?_
  · exact endsUnguarded_rollBackAndFail F _ _
  refine endsUnguarded_uninterrupted F op fun _ _ => arm_any fun committedError => ?_
  refine endsUnguarded_ite (endsUnguarded_rollBackAndFail F _ _) ?_
  refine endsUnguarded_uninterrupted F op fun _ _ => arm_any fun _ => ?_
  exact endsUnguarded_finishConnect F op outcome hfinish

theorem arm_verifyConnected (s : Runtime) (armed : Bool) :
    arming.wpa (verifyConnected F op) UnguardedResult s armed := by
  unfold verifyConnected
  rw [wpa_withHost, wpa_ite]
  refine ⟨fun _ => nofun, fun _ => arm_any fun failure s1 armed1 => ?_⟩
  refine wpa_seq (arm_interruption F op true s1 armed1) ?_
  rintro (_ | result) s2 armed2 h2
  · dsimp only
    rw [wpa_ite]
    refine ⟨fun _ => ?_, fun _ => nofun⟩
    exact arm_ended (endsUnguarded_rollBackAndFail F _ _) _ _
  · exact h2

theorem endsUnguarded_proveConnect (hfinish : op.finishTransitionGuard = true) :
    EndsUnguarded (proveConnect F op) := by
  refine fun _ _ => arm_any fun appliedError => endsUnguarded_ite ?_ ?_
  · exact endsUnguarded_rollBackAndFail F _ _
  refine endsUnguarded_uninterrupted F op ?_
  refine endsUnguarded_unless (arm_verifyConnected F op) (fun _ _ => ?_) fun _ => rfl
  refine arm_any fun outcome => ?_
  cases outcome with
  | withdrawFailed => exact endsUnguarded_rollBackAndFail F _ _
  | expired => exact endsUnguarded_rollBackAndFail F _ _
  | proved strategy admitted => exact endsUnguarded_commitConnect F op _ hfinish
  | unproved => exact endsUnguarded_commitConnect F op _ hfinish

theorem endsUnguarded_startConnect (hfinish : op.finishTransitionGuard = true) :
    EndsUnguarded (startConnect F op) := by
  refine fun _ _ => arm_any fun beginError => endsUnguarded_ite ?_ ?_
  · exact endsUnguarded_fail F _ (by decide)
  refine endsUnguarded_uninterrupted F op fun _ _ => arm_any fun startedError => ?_
  refine endsUnguarded_ite (endsUnguarded_rollBackAndFail F _ _) ?_
  refine endsUnguarded_uninterrupted F op (endsUnguarded_uninterrupted F op ?_)
  refine fun _ _ => arm_any fun startError => endsUnguarded_ite ?_ ?_
  · exact endsUnguarded_uninterrupted F op (endsUnguarded_rollBackAndFail F _ _)
  · exact endsUnguarded_uninterrupted F op (endsUnguarded_proveConnect F op hfinish)

/-- What `prepareConnect` returns is a failure. -/
def FailedResult (r : Option RuntimeResult) : Prop := ∀ result, r = some result → result.status ≠ .ok

variable {host : RuntimeHost}

theorem arm_someFail {status : Status} {failure : String} (h : status ≠ .ok) {armed : Bool} :
    hostArming.wpa (do return some (← RuntimeHost.fail F status failure))
      (fun r _ _ => FailedResult r) host armed := by
  unfold RuntimeHost.fail
  rw [wpa_bind, wpa_bind, wpa_modify, wpa_bind]
  refine arm_host (RuntimeHost.observing_snapshotBody F).calm fun _ _ _ => ?_
  rintro _ ⟨⟩
  exact h

theorem arm_prepareConnect {armed : Bool} :
    hostArming.wpa (prepareConnect F op) (fun r _ _ => FailedResult r) host armed := by
  unfold prepareConnect
  refine arm_anyHost fun _ host1 armed1 => arm_anyHost fun _ host2 armed2 => ?_
  refine arm_anyHost fun writeError host3 armed3 => ?_
  rw [wpa_ite]
  refine ⟨fun _ => arm_someFail F (by decide), fun _ => ?_⟩
  refine arm_anyHost fun _ host4 armed4 => arm_anyHost fun _ host5 armed5 => ?_
  refine arm_anyHost fun config host6 armed6 => arm_anyHost fun prepared host7 armed7 => ?_
  cases prepared with
  | none => exact arm_someFail F (by decide)
  | some config =>
  unfold writePreparedProfile
  rw [wpa_bind, wpa_get, wpa_ite]
  refine ⟨fun _ => nofun, fun _ => ?_⟩
  split
  · exact arm_someFail F (by decide)
  refine arm_anyHost fun writeError host8 armed8 => ?_
  rw [wpa_ite]
  refine ⟨fun _ => arm_someFail F (by decide), fun _ => ?_⟩
  split
  · exact nofun
  refine arm_anyHost fun _ host9 armed9 => ?_
  rw [wpa_ite]
  exact ⟨fun _ => arm_someFail F (by decide), fun _ => nofun⟩

/-- A connect that finds no connection ends unguarded. -/
theorem arm_connectImpl (hfinish : op.finishTransitionGuard = true) {s : Runtime} {armed : Bool}
    (hidle : s.host.phase ≠ .running) : arming.wpa (connectImpl F op) Unguarded s armed := by
  have hfail : ∀ failure s' armed', arming.wpa (fail F .notReady failure) Unguarded s' armed' :=
    fun failure => endsUnguarded_fail F failure (by decide)
  unfold connectImpl
  refine wpa_call fun _ _ => ⟨trivial, ?_⟩
  rw [wpa_withHost, wpa_ite]
  refine ⟨fun _ => hfail _ _ _, fun _ => ?_⟩
  rw [wpa_ite]
  refine ⟨fun _ => hfail _ _ _, fun _ => ?_⟩
  refine endsUnguarded_uninterrupted F op (fun _ _ => arm_any fun supported => ?_) _ _
  refine endsUnguarded_ite (fun _ _ => hfail _ _ _) ?_
  rw [if_neg hidle]
  refine endsUnguarded_ite (fun _ _ => hfail _ _ _) (endsUnguarded_ite (fun _ _ => hfail _ _ _) ?_)
  refine endsUnguarded_unless (fun s' armed' => ?_) (endsUnguarded_startConnect F op hfinish)
    fun _ => rfl
  refine arm_onHost (wpa_mono (arm_prepareConnect F op) fun r _ _ hfailed result hr => ?_)
  exact .of_status (hfailed result hr)

/-- Success leaves the host settled and the guard as it was. -/
def LeftAlone (host : RuntimeHost) (armed : Bool) (r : RuntimeResult) (s : Runtime)
    (armed' : Bool) : Prop :=
  r.status = .ok → Settled host s.host ∧ armed' = armed

theorem arm_calm {α : Type} {m : HostAct α} {f : α → RuntimeAct β}
    {Q : β → Runtime → Bool → Prop} {s : Runtime} {armed : Bool} (hm : Calm m)
    (hf : ∀ a host', Settled s.host host' → arming.wpa (f a) Q { s with host := host' } armed) :
    arming.wpa (onHost m >>= f) Q s armed := by
  rw [wpa_bind]
  exact arm_onHost (arm_host hm hf)

theorem leftAlone_fail {armed : Bool} {status : Status} (failure : String) (h : status ≠ .ok)
    (s : Runtime) (armed' : Bool) :
    arming.wpa (fail F status failure) (LeftAlone host armed) s armed' :=
  wpa_mono (arm_fail F) fun _ _ _ hr hok => absurd (hr.symm.trans hok) h

/-- What stops an attempt before it began is a failure. -/
theorem arm_interrupted {s : Runtime} {armed : Bool} :
    arming.wpa (interruption F op false) (fun r s' armed' =>
      (r = none → Settled s.host s'.host ∧ armed' = armed) ∧ FailedResult r) s armed := by
  have hfail : ∀ {status : Status} (failure : String) (s' : Runtime) (armed' : Bool),
      status ≠ .ok → arming.wpa (do return some (← fail F status failure))
        (fun r s' armed' => (r = none → Settled s.host s'.host ∧ armed' = armed) ∧
          FailedResult r) s' armed' := by
    intro status failure s' armed' h
    refine wpa_seq (arm_fail F) fun r _ _ hr => ⟨fun hnone => (by cases hnone), ?_⟩
    rintro result hresult
    cases hresult
    exact hr.trans_ne h
  unfold interruption
  refine arm_calm (calm_checkInterruption op) fun reason host1 h1 => ?_
  refine arm_calm (.ite (.pure _) (.bind (calm_ask rfl) fun _ => .pure _)) fun mismatch host2 h2 => ?_
  rw [wpa_ite]
  refine ⟨fun _ => ⟨fun _ => ⟨h1.trans h2, rfl⟩, fun _ hnone => (by cases hnone)⟩, fun _ => ?_⟩
  dsimp only
  rw [if_pos Bool.false_ne_true]
  by_cases hmismatch : mismatch = true
  · rw [if_pos hmismatch]
    exact hfail _ _ _ (by decide)
  rw [if_neg hmismatch]
  by_cases hdeadline : reason = .deadlineExceeded
  · rw [if_pos hdeadline]
    exact hfail _ _ _ (by decide)
  · rw [if_neg hdeadline]
    exact hfail _ _ _ (by decide)

/-- A connect that finds a connection leaves it, and its guard, as they are. -/
theorem arm_connectImpl_running {s : Runtime} {armed : Bool} (hrunning : s.host.phase = .running) :
    arming.wpa (connectImpl F op) (LeftAlone s.host armed) s armed := by
  unfold connectImpl
  refine wpa_call fun _ _ => ⟨trivial, ?_⟩
  rw [wpa_withHost, wpa_ite]
  refine ⟨fun _ => leftAlone_fail F _ (by decide) _ _, fun _ => ?_⟩
  rw [wpa_ite]
  refine ⟨fun _ => leftAlone_fail F _ (by decide) _ _, fun _ => ?_⟩
  refine wpa_seq (arm_interrupted F op) ?_
  rintro (_ | result) s1 armed1 ⟨hsame, hfailed⟩
  · obtain ⟨h1, rfl⟩ := hsame rfl
    refine arm_calm (.ite (.pure _) (calm_ask rfl)) fun supported host2 h2 => ?_
    rw [wpa_ite]
    refine ⟨fun _ => leftAlone_fail F _ (by decide) _ _, fun _ => ?_⟩
    rw [if_pos hrunning]
    refine arm_onHost (arm_host (RuntimeHost.observing_snapshot F).calm fun r host3 h3 _ => ?_)
    exact ⟨(h1.trans h2).trans h3, rfl⟩
  · exact fun hok => absurd hok (hfailed result rfl)

end Connecting

/-- A handoff is over when its guard is. -/
theorem endsUnguarded_replaceManagedProfile (body : Bytes)
    (network : Option CandidateNetworkContext) :
    EndsUnguarded (replaceManagedProfile F body network) := by
  have hfail : ∀ failure, EndsUnguarded (fail F .notReady failure) :=
    fun failure => endsUnguarded_fail F failure (by decide)
  -- every call that answers with a result hands a failure on
  have hhanded : ∀ {m : RuntimeAct RuntimeResult} {f : RuntimeAct RuntimeResult},
      EndsUnguarded f → EndsUnguarded (do
        let r ← m
        if r.status ≠ .ok then return r
        f) := by
    intro m f hf s armed
    refine arm_any fun r s' armed' => ?_
    rw [wpa_ite]
    exact ⟨fun h => .of_status h, fun _ => hf s' armed'⟩
  unfold replaceManagedProfile
  refine fun _ _ => arm_any fun host => endsUnguarded_ite (hfail _) ?_
  refine fun _ _ => arm_any fun covered => endsUnguarded_ite (hfail _) ?_
  refine fun _ _ => arm_any fun error => endsUnguarded_ite (hfail _) (hhanded ?_)
  refine fun _ _ => arm_any fun cancelled => endsUnguarded_ite (hfail _) (hhanded (hhanded ?_))
  refine fun _ _ => arm_any fun host => endsUnguarded_ite (hfail _) ?_
  refine fun _ _ => arm_any fun interrupted => endsUnguarded_ite (hhanded (hfail _)) ?_
  intro s armed
  rw [wpa_bind]
  refine arm_onHost (wpa_mono arm_guardFinish ?_)
  rintro error host armed' ⟨rfl, rfl⟩
  rw [wpa_ite]
  refine ⟨fun _ => ?_, fun hdone => ?_⟩
  · exact arm_any fun _ => hfail _
  · refine arm_onHost (arm_host (RuntimeHost.observing_snapshot F).calm fun r host' _ _ _ _ _ => ?_)
    exact decide_eq_false hdone

/-- A promotion validates the connection and leaves the guard as it is. -/
theorem arm_promoteTransportLease (target : TransportLeasePromotion) {s : Runtime} {armed : Bool} :
    arming.wpa (onHost (RuntimeHost.promoteTransportLease F target)) (fun r s' armed' =>
      r.status = .ok → s'.host.phase = .running ∧ s'.host.coreEgressValidated = true ∧
        armed' = armed) s armed := by
  refine arm_onHost ?_
  unfold RuntimeHost.promoteTransportLease
  rw [wpa_bind, wpa_get, wpa_ite]
  refine ⟨fun _ hok => ?_, fun hready => ?_⟩
  · cases hok
  have hrunning : s.host.phase = .running := by
    by_contra hnot
    exact hready (.inr (.inr (.inl hnot)))
  refine wpa_call fun confirmed _ => ⟨trivial, ?_⟩
  rw [wpa_ite]
  refine ⟨fun _ hok => ?_, fun _ => ?_⟩
  · cases hok
  rw [wpa_bind, wpa_modify]
  refine arm_host (RuntimeHost.observing_snapshot F).calm fun r host' h _ => ?_
  exact ⟨h.phase.trans hrunning, h.validated, rfl⟩

end Runtime

/-! ## The operations that report a validated connection -/

namespace Runtime

variable (F : Functions)

/-- `Connect`, `ConnectWithIdentity`, `ReplaceManagedProfile` and
`PromoteTransportLease`. -/
def Operation.validates : Operation → Bool
  | connect _ _ => true
  | connectWithIdentity _ _ => true
  | replaceManagedProfile _ _ => true
  | promoteTransportLease _ => true
  | _ => false

/-- The operations that leave the guard as they find it: a promotion, and a
connect over a connection that is validated. -/
def Operation.findsGuard (host : RuntimeHost) : Operation → Prop
  | promoteTransportLease _ => True
  | connect _ _ => host.phase = .running ∧ host.coreEgressValidated = true
  | _ => False

/-- What success over a validated connection means for the guard. -/
def Completes (operation : Operation) (s : Runtime) (armed : Bool) (r : RuntimeResult)
    (s' : Runtime) (armed' : Bool) : Prop :=
  r.status = .ok → s'.host.parts.transitionGuard = true →
    ((s'.host.phase = .running → s'.host.coreEgressValidated = true → armed' = false) ↔
      ¬ (armed = true ∧ operation.findsGuard s.host))

variable {operation : Operation}

theorem Completes.of_unguarded {s s' : Runtime} {r : RuntimeResult} {armed armed' : Bool}
    (h : Unguarded r s' armed') (hfinds : ¬ operation.findsGuard s.host) :
    Completes operation s armed r s' armed' :=
  fun hok hparts => ⟨fun _ hfound => hfinds hfound.2, fun _ => h hok hparts⟩

theorem completes_connect (expectedProfileDigest : Bytes)
    (network : Option CandidateNetworkContext) (s : Runtime) (armed : Bool) :
    arming.wpa (connect F expectedProfileDigest network)
      (Completes (.connect expectedProfileDigest network) s armed) s armed := by
  unfold connect
  rw [wpa_withHost, wpa_ite]
  refine ⟨fun _ => ?_, fun _ => ?_⟩
  · refine wpa_mono (arm_fail F) fun r _ _ hr hok => ?_
    exact absurd (hr.symm.trans hok) (by decide)
  by_cases hrunning : s.host.phase = .running
  · refine wpa_mono (arm_connectImpl_running F _ hrunning) fun r s' armed' hleft hok _ => ?_
    obtain ⟨hhost, rfl⟩ := hleft hok
    rw [hhost.phase, hhost.validated]
    show _ ↔ ¬ (armed' = true ∧ s.host.phase = .running ∧ s.host.coreEgressValidated = true)
    cases armed' <;> simp [hrunning]
  · refine wpa_mono (arm_connectImpl F _ rfl hrunning) fun r s' armed' hends => ?_
    exact .of_unguarded hends fun hfinds => hrunning hfinds.1

theorem completes_connectWithIdentity (target : BoundConnectTarget)
    (network : Option CandidateNetworkContext) (s : Runtime) (armed : Bool) :
    arming.wpa (connectWithIdentity F target network)
      (Completes (.connectWithIdentity target network) s armed) s armed := by
  unfold connectWithIdentity
  rw [wpa_ite]
  refine ⟨fun _ hok => ?_, fun _ => ?_⟩
  · cases hok
  rw [wpa_withHost, wpa_ite]
  refine ⟨fun _ hok => ?_, fun hbusy => ?_⟩
  · cases hok
  refine wpa_mono (arm_connectImpl F _ rfl fun h => hbusy (.inl h)) fun r s' armed' hends => ?_
  exact .of_unguarded hends fun hfinds => hfinds

theorem completes_run (hop : operation.validates = true) (s : Runtime) (armed : Bool) :
    arming.wpa (operation.run F) (fun r s' armed' => ∀ result, r = some result →
      Completes operation s armed result s' armed') s armed := by
  have hresult : ∀ {m : RuntimeAct RuntimeResult},
      arming.wpa m (Completes operation s armed) s armed →
      arming.wpa (some <$> m) (fun r s' armed' => ∀ result, r = some result →
        Completes operation s armed result s' armed') s armed := by
    intro m hm
    show arming.wpa (m >>= fun r => pure (some r)) _ s armed
    refine wpa_seq hm ?_
    rintro r s' armed' h result hsome
    cases hsome
    exact h
  cases operation with
  | connect digest network => exact hresult (completes_connect F digest network s armed)
  | connectWithIdentity target network =>
    exact hresult (completes_connectWithIdentity F target network s armed)
  | replaceManagedProfile body network =>
    refine hresult (wpa_mono (endsUnguarded_replaceManagedProfile F body network s armed) ?_)
    exact fun r s' armed' hends => .of_unguarded hends fun hfinds => hfinds
  | promoteTransportLease target =>
    refine hresult (wpa_mono (arm_promoteTransportLease F target) ?_)
    intro r s' armed' hpromoted hok _
    obtain ⟨hrunning, hvalidated, rfl⟩ := hpromoted hok
    show _ ↔ ¬ (armed' = true ∧ True)
    cases armed' <;> simp [hrunning, hvalidated]
  | _ => cases hop

theorem lifts_promoteTransportLease (ok : HostView → Prop) (target : TransportLeasePromotion) :
    Lifts ok false (onHost (RuntimeHost.promoteTransportLease F target)) := by
  intro s g
  refine wpa_confined.mpr ?_
  unfold RuntimeHost.promoteTransportLease
  rw [wpa_bind, wpa_get, wpa_ite]
  refine ⟨fun _ => rfl, fun _ => wpa_call fun confirmed _ => ⟨⟨?_, ?_⟩, ?_⟩⟩
  · exact fun hc => by cases hc
  · exact fun hc => by cases hc
  rw [wpa_ite]
  refine ⟨fun _ => rfl, fun _ => ?_⟩
  rw [wpa_bind, wpa_modify]
  exact lift_steady (RuntimeHost.steady_snapshot F) fun _ _ _ h => h.parts

theorem parts_of_run (hop : operation.validates = true) {s s' : Runtime} {tr : List (Event Machine)}
    {r : Option RuntimeResult} (hrun : Steps (operation.run F s) tr (.ret (r, s'))) :
    s'.host.parts = s.host.parts := by
  have hkept : ∀ {ok : HostView → Prop}, Lifts ok false (operation.run F) →
      s'.host.parts = s.host.parts := fun hlifts =>
    (Contract.wp_steps _ (hlifts s none) hrun
      (Contract.along_of_forall _ (fun _ _ => trivial) _ _)).2
  cases operation with
  | connect digest network => exact hkept (.map _ (lifts_connect F digest network))
  | connectWithIdentity target network =>
    exact hkept (.map _ (lifts_connectWithIdentity F target network))
  | replaceManagedProfile body network =>
    exact hkept (.map _ (lifts_replaceManagedProfile F body network))
  | promoteTransportLease target =>
    exact hkept (.map _ (lifts_promoteTransportLease F (HostView.replaced []) target))
  | _ => cases hop

/-- The states of a host and of its guard between the operations of a service. -/
inductive Guarding : Runtime → TransitionGuardState → Prop
  | boot (parts : HostParts) (backend : Bool) (file : Option Bytes)
      (state : TransitionGuardState) : Guarding (boot parts backend file) state
  | operation {operation : Operation} {s s' : Runtime} {state state' : TransitionGuardState}
      {tr : List (Event Machine)} {r : Option RuntimeResult} (before : Guarding s state)
      (run : Steps (operation.run F s) tr (.ret (r, s'))) (guarded : Guarded state tr state') :
      Guarding s' state'

end Runtime

/-- **A validated connection and its guard.** From every state of a host and its
guard, an operation that reports success over a validated connection leaves the
guard lifted, and so reports the egress, unless it found the guard armed and was
a promotion, or a connect over a connection that was validated already. -/
theorem validated_unguarded {F : Functions} {s s' : Runtime} {operation : Runtime.Operation}
    {tr : List (Event Machine)} {r : RuntimeResult} {state state' : TransitionGuardState}
    (hop : operation.validates = true) (hrun : Steps (operation.run F s) tr (.ret (some r, s')))
    (hguarded : Guarded state tr state') (hparts : s.host.parts.transitionGuard = true)
    (hok : r.status = .ok) :
    (s'.host.phase = .running → s'.host.coreEgressValidated = true →
      TransitionGuard.isArmed state' = false ∧
        s'.host.reportsEgress (TransitionGuard.isArmed state') = true) ↔
      ¬ (TransitionGuard.isArmed state = true ∧ operation.findsGuard s.host) := by
  obtain ⟨hrelied, hafter⟩ := hguarded.arming
  have hwp := Runtime.completes_run F hop s (TransitionGuard.isArmed state)
  have hkept : s'.host.parts.transitionGuard = true := by
    rw [Runtime.parts_of_run F hop hrun]
    exact hparts
  have hcompletes := (arming.wp_steps hwp hrun hrelied).2 r rfl hok hkept
  rw [hafter] at hcompletes
  rw [← hcompletes]
  refine ⟨fun h hphase hvalidated => (h hphase hvalidated).1, fun h hphase hvalidated => ?_⟩
  have hlifted := h hphase hvalidated
  refine ⟨hlifted, ?_⟩
  rw [RuntimeHost.reportsEgress, hlifted, hvalidated, Bool.and_false]
  rfl

/-! ## A connection that is promoted under its guard -/

def promotedIdentity : Identifier := ⟨List.replicate 16 1, rfl⟩

def promotedTarget : TransportLeasePromotion where
  target := ⟨promotedIdentity, promotedIdentity⟩
  profileDigest := List.replicate 64 '0'.toUInt8
  endpointLeaseRef := text "lease_00000000000000000000000000000000"
  issuedAt := text "2026-01-02T03:04:05Z"
  newFlowsUntil := text "2026-01-02T03:04:05Z"
  activeFlowsUntil := text "2026-01-02T03:04:05Z"

def boundTarget : BoundConnectTarget where
  coreModuleSha256 := List.replicate 64 '0'.toUInt8
  profileDigest := List.replicate 64 '0'.toUInt8
  bootRef := text "windows:00000000000000000000000000000000"
  startedElapsedMs := 0
  deadlineElapsedMs := 1
  networkContextRef := text "network_00000000000000000000000000000000"

/-- A bound profile is staged and connected. -/
def boundOperations : List Runtime.Operation :=
  [.stageProfile (text "0\n\x7b\x7d") true, .connectWithIdentity boundTarget none]

/-- Core and the guard agree to everything. -/
def agreeing (seen : List (Event Machine)) : (c : MachineCall) → Machine.Answer c
  | .guardIsArmed => seen.any guardStarted
  | .coreModuleSHA256 => List.replicate 64 '0'.toUInt8
  | .control _ => (1 : Int)
  | c => plainAnswer c

/-- What has happened, and the host it left. -/
abbrev Past := List (Event Machine) × Runtime

def agreeingRun (past : Past) (operation : Runtime.Operation) :
    List (Event Machine) × (Option RuntimeResult × Runtime) :=
  (operation.run plainFunctions past.2).play (fun seen => agreeing (past.1 ++ seen)) []

def afterOperation (past : Past) (operation : Runtime.Operation) : Past :=
  (past.1 ++ (agreeingRun past operation).1, (agreeingRun past operation).2.2)

def bootPast : Past := ([], Runtime.boot { plainParts with transitionGuard := true } true none)

theorem guarding_after (state state' : TransitionGuardState) {past : Past}
    {operation : Runtime.Operation} (h : Runtime.Guarding plainFunctions past.2 state)
    (hobliging : obliging state (agreeingRun past operation).1 = some state') :
    Runtime.Guarding plainFunctions (afterOperation past operation).2 state' :=
  .operation h (steps_play_pair (I := Machine) _ _) (guarded_of_obliging hobliging)

/-- The bound connection, with no guard. -/
def openPast : Past := boundOperations.foldl afterOperation bootPast

/-- The bound connection, after a handoff that was cancelled. -/
def heldPast : Past :=
  boundOperations.foldl afterOperation (afterOperation bootPast .cancelProtectedHandoff)

theorem guarding_heldPast : Runtime.Guarding plainFunctions heldPast.2 .armed := by
  refine guarding_after .armed .armed (guarding_after .armed .armed
    (guarding_after .off .armed (.boot _ _ _ _) ?_) ?_) ?_
  all_goals rfl

/-- The end of the promotion. -/
def promoted (past : Past) : List (Event Machine) × (Option RuntimeResult × Runtime) :=
  agreeingRun past (.promoteTransportLease promotedTarget)

theorem steps_promoted {past : Past} {r : RuntimeResult} (h : (promoted past).2.1 = some r) :
    Steps (Runtime.Operation.run plainFunctions (.promoteTransportLease promotedTarget) past.2)
      (promoted past).1 (.ret (some r, (promoted past).2.2)) := by
  rw [← h, promoted, agreeingRun]
  exact steps_play_pair (I := Machine) _ _

/-- A promotion that finds no guard. -/
theorem promoted_unguarded :
    (promoted openPast).2.2.host.phase = .running ∧
      (promoted openPast).2.2.host.coreEgressValidated = true ∧
      (promoted openPast).2.2.host.reportsEgress false = true := by
  have hend : (promoted openPast).2.1 = some ⟨.ok, .snapshot⟩ ∧
      obliging .off (promoted openPast).1 = some .off ∧
      openPast.2.host.parts.transitionGuard = true ∧
      (promoted openPast).2.2.host.phase = .running ∧
      (promoted openPast).2.2.host.coreEgressValidated = true := by
    decide +kernel
  obtain ⟨hok, hobliging, hparts, hphase, hvalidated⟩ := hend
  have h := (validated_unguarded rfl (steps_promoted hok)
    (guarded_of_obliging hobliging) hparts rfl).mpr fun harmed => by cases harmed.1
  exact ⟨hphase, hvalidated, (h hphase hvalidated).2⟩

/-- A promotion that succeeds over a guard that blocks the traffic. -/
theorem promoted_guarded : ¬ ∀ (F : Functions) (s s' : Runtime) (operation : Runtime.Operation)
    (tr : List (Event Machine)) (r : RuntimeResult) (state state' : TransitionGuardState),
    Runtime.Guarding F s state → operation.validates = true →
    Steps (operation.run F s) tr (.ret (some r, s')) → Guarded state tr state' →
    s.host.parts.transitionGuard = true → r.status = .ok → s'.host.phase = .running →
    s'.host.coreEgressValidated = true → TransitionGuard.isArmed state' = false := by
  intro h
  have hend : (promoted heldPast).2.1 = some ⟨.ok, .snapshot⟩ ∧
      obliging .armed (promoted heldPast).1 = some .armed ∧
      heldPast.2.host.parts.transitionGuard = true ∧
      (promoted heldPast).2.2.host.phase = .running ∧
      (promoted heldPast).2.2.host.coreEgressValidated = true := by
    decide +kernel
  obtain ⟨hok, hobliging, hparts, hphase, hvalidated⟩ := hend
  have hoff := h _ _ _ _ _ _ _ _ guarding_heldPast rfl (steps_promoted hok)
    (guarded_of_obliging hobliging) hparts rfl hphase hvalidated
  cases hoff

end Pokrov.Windows.Service
