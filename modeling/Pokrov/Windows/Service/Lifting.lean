import Pokrov.Windows.Service.Standing

/-!
# Who lifts the transition guard

Two calls lift the guard. `Finish` is made only by a host that runs with a
validated egress, and `ExplicitOff` only by an explicit disconnect. This holds
of every operation, whatever its parts answer.
-/

namespace Pokrov.Windows.Service

open Codec Effects Contract

/-- The calls that do not lift the guard. -/
def holds : MachineCall → Bool
  | .guardFinish => false
  | .guardExplicitOff => false
  | _ => true

variable {c : MachineCall}

theorem ne_of_holds (h : holds c = true) : c ≠ .guardFinish ∧ c ≠ .guardExplicitOff := by
  constructor
  · rintro rfl
    cases h
  · rintro rfl
    cases h

theorem holds_of_recovery (h : ofRecovery c = true) : holds c = true := by
  cases c <;> first | rfl | cases h

theorem holds_of_plain (h : plain c = true) : holds c = true := by
  cases c <;> first | rfl | cases h

/-- The second host has the parts of the first one. -/
def SameParts (a b : RuntimeHost) : Prop := b.parts = a.parts

instance : IsPreorder RuntimeHost SameParts where
  refl _ := rfl
  trans _ _ _ h h' := Eq.trans h' h

/-- The host program does not lift the guard. -/
abbrev Holds {α : Type} (m : HostAct α) : Prop :=
  Moves (I := Quiet) (fun c => holds c.1 = true) SameParts m

theorem Shaking.holds {α : Type} {m : HostAct α} (hm : Shaking m) : Holds m :=
  hm.mono (fun _ hc => holds_of_plain hc) fun _ _ h => h.parts

theorem Steady.holds {α : Type} {m : HostAct α} (hm : Steady m) : Holds m := hm.shaking.holds

theorem holds_ask {hc : quiet c = true} (hp : holds c = true) : Holds (ask c hc) :=
  Moves.perform (I := Quiet) (c := ⟨c, hc⟩) hp

/-- `ok` is asked of the host that finishes the guard, and `explicitOff` says
whether the guard may be lifted without one. The run remembers the view that was
marked by the last event. -/
def lifting (ok : HostView → Prop) (explicitOff : Bool) : Contract Machine (Option HostView) where
  next := fun _ e =>
    match e.call with
    | .mark (.host view) => some view
    | _ => none
  rely := fun _ _ => True
  guar := fun g e =>
    (e.call = .guardFinish → ∃ view, g = some view ∧ ok view) ∧
      (e.call = .guardExplicitOff → explicitOff = true)

/-- The view of a host whose connection is proven. -/
def HostView.proven (view : HostView) : Prop :=
  view.phase = .running ∧ view.coreEgressValidated = true

/-- However the program goes, it lifts the guard only as it may, and the host
keeps its parts. -/
def Lifts {α : Type} (ok : HostView → Prop) (explicitOff : Bool) (m : RuntimeAct α) : Prop :=
  ∀ s g, (lifting ok explicitOff).wpa m (fun _ s' _ => s'.host.parts = s.host.parts) s g

section Rules

variable {α β : Type} {ok : HostView → Prop} {explicitOff : Bool}

namespace Lifts

theorem pure (a : α) : Lifts ok explicitOff (pure a : RuntimeAct α) := fun _ _ => rfl

theorem get : Lifts ok explicitOff (MonadState.get : RuntimeAct Runtime) := fun _ _ => rfl

theorem getHost : Lifts ok explicitOff Runtime.getHost := fun _ _ => rfl

variable {m : RuntimeAct α}

theorem bind {f : α → RuntimeAct β} (hm : Lifts ok explicitOff m)
    (hf : ∀ a, Lifts ok explicitOff (f a)) : Lifts ok explicitOff (m >>= f) := by
  intro s g
  refine wpa_seq (hm s g) fun a s' g' h => ?_
  exact wpa_mono (hf a s' g') fun _ s'' _ h' => h'.trans h

theorem map (f : α → β) (hm : Lifts ok explicitOff m) : Lifts ok explicitOff (f <$> m) :=
  bind hm fun a => pure (f a)

theorem ite {b : Prop} [Decidable b] {m n : RuntimeAct α} (hm : Lifts ok explicitOff m)
    (hn : Lifts ok explicitOff n) : Lifts ok explicitOff (if b then m else n) := by
  split
  · exact hm
  · exact hn

/-- A program that makes other calls only. -/
theorem of_static {P : MachineCall → Prop}
    (hm : ∀ s, (static P).wpa m (fun _ s' _ => s'.host.parts = s.host.parts) s ())
    (hP : ∀ c, P c → c ≠ .guardFinish ∧ c ≠ .guardExplicitOff) : Lifts ok explicitOff m := by
  intro s g
  refine wpa_mono (wpa_of_static (J := fun _ => True) ?_ (hm s) trivial) fun _ _ _ h => h.1
  intro g' e _ he _
  exact ⟨⟨fun hc => absurd hc (hP _ he).1, fun hc => absurd hc (hP _ he).2⟩, trivial⟩

theorem host {m : HostAct α} (hm : Holds m) : Lifts ok explicitOff (onHost m) :=
  of_static (P := fun c => holds c = true) (fun s => wpa_confined.mpr (hm s.host))
    fun _ => ne_of_holds

theorem steady {m : HostAct α} (hm : Steady m) : Lifts ok explicitOff (onHost m) :=
  host hm.holds

theorem recovery {m : Act Machine DurableRuntimeRecovery α} (hm : Journals m) :
    Lifts ok explicitOff (onRecovery m) := by
  refine of_static (P := fun c => ofRecovery c = true) (fun s => ?_) fun c hc => ?_
  · exact wpa_zoom.mpr (wpa_mono (hm s.recovery) fun _ _ _ _ => rfl)
  · exact ne_of_holds (holds_of_recovery hc)

theorem perform {c : MachineCall} (hc : holds c = true) :
    Lifts ok explicitOff (perform (I := Machine) c) := by
  obtain ⟨hfinish, hoff⟩ := ne_of_holds hc
  exact fun _ _ _ _ => ⟨⟨fun h => absurd h hfinish, fun h => absurd h hoff⟩, rfl⟩

theorem modifyHost {f : RuntimeHost → RuntimeHost} (hf : ∀ host, (f host).parts = host.parts) :
    Lifts ok explicitOff (Runtime.modifyHost f) :=
  fun s _ => hf s.host

end Lifts

/-- The contract as the host sees it. -/
abbrev hostLifting (ok : HostView → Prop) (explicitOff : Bool) :
    Contract Quiet (Option HostView) :=
  (lifting ok explicitOff).restrict fun c => quiet c = true

variable {host : RuntimeHost} {g : Option HostView}

/-- A host program that does not lift the guard moves the host along its
relation. -/
theorem lift_moves {R : RuntimeHost → RuntimeHost → Prop} {m : HostAct α}
    {Q : α → RuntimeHost → Option HostView → Prop}
    (hm : Moves (I := Quiet) (fun c => holds c.1 = true) R m)
    (hQ : ∀ a host' g', R host host' → Q a host' g') :
    (hostLifting ok explicitOff).wpa m Q host g := by
  refine wpa_mono (wpa_of_moves (J := fun _ => True) ?_ hm trivial) ?_
  · intro g' e _ he _
    obtain ⟨hfinish, hoff⟩ := ne_of_holds he
    exact ⟨⟨fun hc => absurd hc hfinish, fun hc => absurd hc hoff⟩, trivial⟩
  · exact fun a host' g' h => hQ a host' g' h.1

theorem lift_steady {m : HostAct α} {Q : α → RuntimeHost → Option HostView → Prop} (hm : Steady m)
    (hQ : ∀ a host' g', Settled host host' → Q a host' g') :
    (hostLifting ok explicitOff).wpa m Q host g :=
  lift_moves (hm.mono (fun _ hc => holds_of_plain hc) fun _ _ h => h) hQ

/-- The guard is finished by a host of the view it marks. -/
theorem lift_guardFinish {Q : String → RuntimeHost → Option HostView → Prop} (hok : ok host.view)
    (hQ : ∀ error, Q error host none) :
    (hostLifting ok explicitOff).wpa RuntimeHost.guardFinish Q host g := by
  intro _ _
  refine ⟨⟨fun hc => ?_, fun hc => ?_⟩, fun error _ => ⟨⟨fun _ => ?_, fun hc => ?_⟩, hQ error⟩⟩
  · cases hc
  · cases hc
  · exact ⟨host.view, rfl, hok⟩
  · cases hc

end Rules

/-! ## The operations -/

namespace Runtime

variable (F : Functions) {ok : HostView → Prop} {explicitOff : Bool}

theorem lifts_fail (status : Status) (failure : String) :
    Lifts ok explicitOff (fail F status failure) :=
  .steady (RuntimeHost.steady_fail F status failure)

theorem lifts_snapshot : Lifts ok explicitOff (snapshot F) := .steady (RuntimeHost.steady_snapshot F)

theorem lifts_rollBack (coreStopFailed : String) :
    Lifts ok explicitOff (rollBack coreStopFailed) := by
  refine .bind (.recovery DurableRuntimeRecovery.journals_beginRollback) fun beginError => ?_
  refine .bind (.steady (steady_ask rfl)) fun stopError => .bind (.host ?_) fun stopped => ?_
  · exact .ite RuntimeHost.shaking_clearWindowsLocalDpiAfterCoreStopped.holds (.pure _)
  refine .ite (.pure _) (.ite (.pure _) (.ite (.pure _) ?_))
  refine .bind (.recovery DurableRuntimeRecovery.journals_restoreNetworkState) fun error => ?_
  exact .ite (.pure _) (.recovery DurableRuntimeRecovery.journals_completeRollback)

theorem lifts_returned (error : String) : Lifts ok explicitOff (returned error) :=
  .bind (.host (holds_ask rfl)) fun _ => .pure _

theorem lifts_recoverPendingRuntime : Lifts ok explicitOff recoverPendingRuntime := by
  refine .bind (.steady (RuntimeHost.steady_withdrawTelegramWS [])) fun _ => ?_
  refine .bind (.steady RuntimeHost.steady_executorStop) fun _ => .bind .get fun s => ?_
  refine .ite (lifts_returned _) (.ite (lifts_returned _) ?_)
  exact .bind (lifts_rollBack _) fun error => lifts_returned error

theorem lifts_rollbackRuntime : Lifts ok explicitOff (rollbackRuntime F) := by
  refine .bind (.steady (RuntimeHost.steady_readLocalDpiRuntimeObservation F)) fun _ => ?_
  refine .bind (.steady (RuntimeHost.steady_withdrawTelegramWS [])) fun _ => ?_
  refine .bind (.steady RuntimeHost.steady_executorStop) fun _ => .bind .getHost fun host => ?_
  refine .ite (.bind (.host ?_) fun _ => .bind (lifts_returned _) fun _ => .pure _) ?_
  · refine .bind (holds_ask rfl) fun _ => .ite (.bind ?_ fun _ => .pure _) (.pure _)
    exact RuntimeHost.shaking_clearWindowsLocalDpiAfterCoreStopped.holds
  · exact .bind (lifts_rollBack _) fun error => lifts_returned error

theorem lifts_rollBackAttempt (withdraw : Bool) :
    Lifts ok explicitOff (rollBackAttempt F withdraw) :=
  .bind (lifts_rollbackRuntime F) fun _ => .bind (.modifyHost fun _ => rfl) fun _ => .pure _

theorem lifts_rollBackAndFail (withdraw : Bool) (failure : String) :
    Lifts ok explicitOff (rollBackAndFail F withdraw failure) :=
  .bind (lifts_rollBackAttempt F withdraw) fun _ => lifts_fail F _ _

theorem lifts_initializeRuntime : Lifts ok explicitOff (initializeRuntime F) := by
  refine .bind .getHost fun host => .ite (lifts_snapshot F) (.ite (lifts_fail F _ _) ?_)
  refine .bind (.steady (steady_ask rfl)) fun prepared => .ite (lifts_fail F _ _) ?_
  refine .bind (.modifyHost fun _ => rfl) fun _ => .bind (.host (holds_ask rfl)) fun error => ?_
  refine .ite (lifts_fail F _ _) (.bind (.modifyHost fun _ => rfl) fun _ => ?_)
  refine .bind lifts_recoverPendingRuntime fun error => .ite ?_ ?_
  · exact .bind (.modifyHost fun _ => rfl) fun _ => lifts_fail F _ _
  refine .bind (.steady ?_) fun _ => lifts_snapshot F
  refine .bind (.modify fun _ => ⟨rfl, rfl, rfl, rfl, rfl, rfl, rfl⟩) fun _ => .bind .get fun _ => ?_
  refine .bind ?_ fun _ => .bind ?_ fun _ => .modify fun _ => ⟨rfl, rfl, rfl, rfl, rfl, rfl, rfl⟩
  · exact .ite (.pure _) (.bind (steady_ask rfl) fun _ => .ite (.pure _) (steady_ask rfl))
  · exact .ite (.pure _) (.bind (steady_ask rfl) fun _ => .pure _)

theorem lifts_stageInitialized (body : Bytes) (requiresBoundConnect : Bool) :
    Lifts ok explicitOff (onHost (stageInitialized F body requiresBoundConnect)) := by
  have hfail : ∀ status failure, Holds (RuntimeHost.fail F status failure) :=
    fun status failure => (RuntimeHost.steady_fail F status failure).holds
  have hcleanup : ∀ slot, Holds (RuntimeHost.cleanupBundledRuleSets slot) :=
    fun slot => (RuntimeHost.steady_cleanupBundledRuleSets slot).holds
  refine .host (.bind .get fun host => .ite (hfail _ _) (.ite (hfail _ _) ?_))
  split
  · exact hfail _ _
  refine .ite (hfail _ _) (.bind (.ite (.pure _) (holds_ask rfl)) fun paths => ?_)
  split
  · exact hfail _ _
  refine .bind (RuntimeHost.steady_secureFiles _).holds fun secured => ?_
  refine .ite (.bind (hcleanup _) fun _ => hfail _ _) ?_
  split
  · exact .bind (hcleanup _) fun _ => hfail _ _
  refine .bind (RuntimeHost.steady_writeProfileAtomically _).holds fun error => ?_
  refine .ite (.bind (hcleanup _) fun _ => hfail _ _) (.bind (.onlyIf (hcleanup _)) fun _ => ?_)
  refine .bind (.modify fun _ => rfl) fun _ => .bind (holds_ask rfl) fun _ => ?_
  exact (RuntimeHost.steady_snapshot F).holds

theorem lifts_stageProfile (body : Bytes) (requiresBoundConnect : Bool) :
    Lifts ok explicitOff (stageProfile F body requiresBoundConnect) := by
  refine .bind .getHost fun host => .ite ?_ (lifts_stageInitialized F _ _)
  refine .bind (lifts_initializeRuntime F) fun initialized => .ite (.pure _) ?_
  exact lifts_stageInitialized F _ _

/-! ### Connecting -/

section Connecting

variable (op : ConnectOperation)

theorem lifts_interruption (rollback : Bool) :
    Lifts ok explicitOff (interruption F op rollback) := by
  refine .bind (.steady (steady_checkInterruption op)) fun reason => .bind (.steady ?_) fun _ => ?_
  · exact .ite (.pure _) (.bind (steady_ask rfl) fun _ => .pure _)
  have hrefused : ∀ identityMismatch : Bool, Lifts ok explicitOff (if identityMismatch then
      fail F .notReady "core_identity_mismatch" else if reason = .deadlineExceeded then
        fail F .deadlineExceeded
          (if op.expectedCoreDigest = [] then "deadline_exceeded" else "connect_deadline")
      else fail F .notReady "operation_cancelled") := fun _ =>
    .ite (lifts_fail F _ _) (.ite (lifts_fail F _ _) (lifts_fail F _ _))
  refine .ite (.pure _) (.ite (.bind (hrefused _) fun _ => .pure _) ?_)
  refine .bind (lifts_rollBackAttempt F true) fun error => .ite ?_ ?_
  · exact .bind (lifts_fail F _ _) fun _ => .pure _
  · exact .bind (hrefused _) fun _ => .pure _

theorem lifts_uninterrupted {m : RuntimeAct RuntimeResult} {rollback : Bool}
    (hm : Lifts ok explicitOff m) : Lifts ok explicitOff (do
      if let some result ← interruption F op rollback then return result
      m) := by
  refine .bind (lifts_interruption F op rollback) fun r => ?_
  cases r with
  | none => exact hm
  | some result => exact .pure _

theorem lifts_verifyConnected : Lifts ok explicitOff (verifyConnected F op) := by
  refine .bind .getHost fun host => .ite (.pure _) ?_
  refine .bind (.steady (RuntimeHost.steady_verifyEgress F false)) fun failure => ?_
  refine .bind (lifts_interruption F op true) fun r => ?_
  cases r with
  | some result => exact .pure _
  | none => exact .ite (.bind (lifts_rollBackAndFail F _ _) fun _ => .pure _) (.pure _)

/-- The commit finishes the guard only when it was asked to, with a validated
egress. -/
theorem lifts_finishConnect (outcome : DpiOutcome)
    (hok : op.finishTransitionGuard = true → ∀ view : HostView, view.proven → ok view) :
    Lifts ok explicitOff (onHost (finishConnect F op outcome)) := by
  intro s g
  refine wpa_confined.mpr ?_
  unfold finishConnect
  rw [wpa_bind, wpa_modify, wpa_bind]
  -- the rest keeps the parts, however the guard answers
  refine wpa_mono (Q := fun _ host _ => host.parts = s.host.parts) ?_
    fun unguarded host g' hparts => ?_
  · rw [wpa_bind, wpa_get, wpa_ite]
    refine ⟨fun _ => rfl, fun hvalidated => ?_⟩
    rw [not_or, not_not, not_not] at hvalidated
    rw [wpa_bind]
    refine lift_steady RuntimeHost.steady_transitionGuardArmed fun armed host1 g1 h1 => ?_
    rw [wpa_ite]
    refine ⟨fun _ => h1.parts, fun _ => ?_⟩
    rw [wpa_bind]
    refine lift_guardFinish (hok hvalidated.1 _ ⟨h1.phase, ?_⟩) fun _ => h1.parts
    exact h1.validated.trans hvalidated.2
  · rw [wpa_ite]
    refine ⟨fun _ => ?_, fun _ => ?_⟩
    · refine lift_moves (R := SameParts) ?_ fun _ _ _ h => Eq.trans h hparts
      exact .bind (.modify fun _ => rfl) fun _ => (RuntimeHost.steady_fail F _ _).holds
    · refine lift_moves (R := SameParts) ?_ fun _ _ _ h => Eq.trans h hparts
      split
      · refine .bind (.bind (steady_localDpiOwnerCurrent op).holds fun b => ?_) fun current => ?_
        · cases b with
          | false => exact .pure _
          | true => exact holds_ask rfl
        refine .bind (.onlyIf (.modify fun _ => rfl)) fun _ => ?_
        exact (RuntimeHost.steady_snapshot F).holds
      · exact (RuntimeHost.steady_snapshot F).holds

variable (hok : op.finishTransitionGuard = true → ∀ view : HostView, view.proven → ok view)

include hok

theorem lifts_commitConnect (outcome : DpiOutcome) :
    Lifts ok explicitOff (commitConnect F op outcome) := by
  refine .bind (.recovery (DurableRuntimeRecovery.journals_record _)) fun error => ?_
  refine .ite (lifts_rollBackAndFail F _ _) (lifts_uninterrupted F op ?_)
  refine .bind (.recovery (DurableRuntimeRecovery.journals_record _)) fun error => ?_
  refine .ite (lifts_rollBackAndFail F _ _) (lifts_uninterrupted F op ?_)
  exact .bind (.steady (steady_admitTelegramWS F op)) fun _ => lifts_finishConnect F op outcome hok

theorem lifts_proveConnect : Lifts ok explicitOff (proveConnect F op) := by
  refine .bind (.recovery (DurableRuntimeRecovery.journals_record _)) fun error => ?_
  refine .ite (lifts_rollBackAndFail F _ _) (lifts_uninterrupted F op ?_)
  refine .bind (lifts_verifyConnected F op) fun r => ?_
  cases r with
  | some result => exact .pure _
  | none =>
    refine .bind (.steady (steady_proveLocalDpi op)) fun outcome => ?_
    cases outcome with
    | withdrawFailed => exact lifts_rollBackAndFail F _ _
    | expired => exact lifts_rollBackAndFail F _ _
    | proved strategy admitted => exact lifts_commitConnect F op hok _
    | unproved => exact lifts_commitConnect F op hok _

theorem lifts_startConnect : Lifts ok explicitOff (startConnect F op) := by
  refine .bind (.recovery DurableRuntimeRecovery.journals_begin) fun error => ?_
  refine .ite (lifts_fail F _ _) (lifts_uninterrupted F op ?_)
  refine .bind (.recovery (DurableRuntimeRecovery.journals_record _)) fun error => ?_
  refine .ite (lifts_rollBackAndFail F _ _) (lifts_uninterrupted F op ?_)
  refine lifts_uninterrupted F op (.bind (.bind ?_ fun _ => .bind .getHost fun host => ?_) ?_)
  · exact .host (.bind .get fun _ => holds_ask rfl)
  · exact .ite (.perform rfl) (.perform rfl)
  · intro error
    refine .ite (lifts_uninterrupted F op (lifts_rollBackAndFail F _ _)) ?_
    exact lifts_uninterrupted F op (lifts_proveConnect F op hok)

theorem lifts_connectImpl : Lifts ok explicitOff (connectImpl F op) := by
  refine .bind (.perform rfl) fun _ => .bind .getHost fun host => ?_
  refine .ite (lifts_fail F _ _) (.ite (lifts_fail F _ _) (lifts_uninterrupted F op ?_))
  refine .bind (.steady (.ite (.pure _) (steady_ask rfl))) fun supported => ?_
  refine .ite (lifts_fail F _ _) (.ite (lifts_snapshot F) (.ite (lifts_fail F _ _) ?_))
  refine .ite (lifts_fail F _ _) (.bind (.steady (steady_prepareConnect F op)) fun r => ?_)
  cases r with
  | some result => exact .pure _
  | none => exact lifts_startConnect F op hok

end Connecting

theorem lifts_connect (expectedProfileDigest : Bytes) (network : Option CandidateNetworkContext) :
    Lifts HostView.proven explicitOff (connect F expectedProfileDigest network) :=
  .bind .getHost fun _ => .ite (lifts_fail F _ _) (lifts_connectImpl F _ fun _ _ h => h)

theorem lifts_connectWithIdentity (target : BoundConnectTarget)
    (network : Option CandidateNetworkContext) :
    Lifts HostView.proven explicitOff (connectWithIdentity F target network) := by
  refine .ite (.pure _) (.bind .getHost fun _ => .ite (.pure _) ?_)
  exact lifts_connectImpl F _ fun _ _ h => h

/-! ### Disconnecting -/

/-- Only an explicit disconnect lifts the guard. -/
theorem lifts_explicitOff {explicitDisconnect : Bool}
    (hexplicit : explicitDisconnect = true → explicitOff = true) :
    Lifts ok explicitOff (onHost (Runtime.explicitOff explicitDisconnect)) := by
  intro s g
  refine wpa_confined.mpr ?_
  unfold Runtime.explicitOff
  rw [wpa_bind, wpa_get, wpa_ite]
  refine ⟨fun _ => rfl, fun h => ?_⟩
  rw [not_or, not_not] at h
  refine wpa_call fun error _ => ⟨⟨fun hc => ?_, fun _ => hexplicit h.1⟩, rfl⟩
  cases hc

theorem lifts_rollBackConnection : Lifts ok explicitOff (rollBackConnection F) :=
  .bind (lifts_rollbackRuntime F) fun _ => .bind (.modifyHost fun _ => rfl) fun _ => .pure _

theorem lifts_disconnect {explicitDisconnect : Bool}
    (hexplicit : explicitDisconnect = true → explicitOff = true) :
    Lifts ok explicitOff (disconnect F explicitDisconnect) := by
  refine .bind .getHost fun host => .ite ?_ ?_
  · refine .bind (lifts_explicitOff hexplicit) fun _ => ?_
    exact .ite (lifts_fail F _ _) (lifts_snapshot F)
  refine .bind (lifts_rollBackConnection F) fun error => .ite (lifts_fail F _ _) ?_
  refine .bind (.modifyHost fun _ => rfl) fun _ => .bind (lifts_explicitOff hexplicit) fun _ => ?_
  exact .ite (lifts_fail F _ _) (lifts_snapshot F)

/-- A protected disconnect leaves the guard to its caller. -/
theorem lifts_protectedDisconnect : Lifts ok explicitOff (disconnect F false) :=
  lifts_disconnect F fun h => absurd h Bool.false_ne_true

theorem lifts_cancelProtectedHandoff : Lifts ok explicitOff (cancelProtectedHandoff F) := by
  refine .bind .getHost fun host => .ite (lifts_fail F _ _) ?_
  refine .bind (.steady (steady_ask rfl)) fun error => .ite (lifts_fail F _ _) ?_
  exact lifts_protectedDisconnect F

end Runtime

end Pokrov.Windows.Service
