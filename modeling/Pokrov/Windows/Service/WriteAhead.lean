import Pokrov.Windows.Service.Journal
import Pokrov.Windows.Service.Runtime

/-!
# The write-ahead law of the runtime host

Every operation of the host keeps the live recovery object and the journal file
together. So Core is only ever started over a network state that the journal
already holds, and the journal holds it until it has been put back, in this life
of the service or in a later one.
-/

namespace Pokrov.Windows.Service

open Codec Effects Contract

/-! ## Programs that keep the journal -/

/-- The live object and the file stay together, however the program goes. -/
abbrev Kept {α : Type} (m : RuntimeAct α) : Prop :=
  journaling.Keeps (fun s g => Tracks s.recovery g) m

/-- The host alone changes neither the object nor what the ledger has of it. -/
theorem wpa_onHost {α : Type} {m : HostAct α} {Q : α → Runtime → Ledger → Prop} {s : Runtime}
    {g : Ledger} (h : ∀ a host, Q a { s with host } g) : journaling.wpa (onHost m) Q s g := by
  refine wpa_confined.mpr (wpa_mono (wpa_of_kept (J := (· = g)) ?_ rfl) ?_)
  · rintro g' e rfl -
    exact ⟨guar_of_quiet e.call.2, next_of_quiet e.call.2⟩
  · rintro a host g' rfl
    exact h a host

theorem Kept.onHost {α : Type} (m : HostAct α) : Kept (onHost m) :=
  fun _ _ h => wpa_onHost fun _ _ => h

theorem wpa_onRecovery {α : Type} {m : Act Machine DurableRuntimeRecovery α}
    {Q : α → Runtime → Ledger → Prop} {s : Runtime} {g : Ledger}
    (h : journaling.wpa m (fun a recovery g' => Q a { s with recovery } g') s.recovery g) :
    journaling.wpa (onRecovery m) Q s g :=
  wpa_zoom.mpr h

theorem Kept.onRecovery {α : Type} {m : Act Machine DurableRuntimeRecovery α}
    (h : ∀ d g, Tracks d g → journaling.wpa m (fun _ d' g' => Tracks d' g') d g) :
    Kept (onRecovery m) :=
  fun s g hs => wpa_onRecovery (h s.recovery g hs)

/-! ## The operations, from the bottom up -/

namespace Runtime

theorem kept_record {stage : RecoveryStage} (hrestores : stage.restores = true)
    (hstage : stage ≠ .snapshotted) : Kept (onRecovery (DurableRuntimeRecovery.record stage)) := by
  refine Kept.onRecovery fun d g h => ?_
  refine wpa_mono (DurableRuntimeRecovery.wpa_recordForward h hrestores hstage) ?_
  rintro r d' g' ⟨h', -⟩
  exact h'

/-- The journal is completed only after the restore has succeeded. -/
theorem kept_rollBack (coreStopFailed : String) : Kept (rollBack coreStopFailed) := by
  refine .bind (Kept.onRecovery fun d g h => ?_) fun beginError => ?_
  · refine wpa_mono (DurableRuntimeRecovery.wpa_beginRollback h) ?_
    rintro r d' g' ⟨h', -⟩
    exact h'
  refine .bind (Kept.onHost _) fun stopError => .bind (Kept.onHost _) fun localDpiStopped => ?_
  refine .ite (.pure _) (.ite (.pure _) (.ite (.pure _) ?_))
  intro s g h
  rw [wpa_bind]
  refine wpa_onRecovery (wpa_mono (DurableRuntimeRecovery.wpa_restoreNetworkState h) ?_)
  rintro networkError d' g' ⟨rfl, h', -, -, hrestored⟩
  rw [wpa_ite]
  refine ⟨fun _ => h', fun hok => wpa_onRecovery ?_⟩
  refine wpa_mono (DurableRuntimeRecovery.wpa_completeRollback h' (hrestored (not_not.mp hok))) ?_
  rintro r d'' g'' ⟨h'', -⟩
  exact h''

theorem kept_returned (error : String) : Kept (returned error) :=
  .bind (Kept.onHost _) fun _ => .pure _

theorem kept_recoverPendingRuntime : Kept recoverPendingRuntime := by
  refine .bind (Kept.onHost _) fun _ => .bind (Kept.onHost _) fun _ => .bind .get fun s => ?_
  refine .ite (kept_returned _) (.ite (kept_returned _) ?_)
  exact .bind (kept_rollBack _) fun error => kept_returned error

variable (F : Functions)

theorem kept_fail (status : Status) (failure : String) : Kept (fail F status failure) := .onHost _

theorem kept_snapshot : Kept (snapshot F) := .onHost _

theorem kept_rollbackRuntime : Kept (rollbackRuntime F) := by
  refine .bind (Kept.onHost _) fun _ => .bind (Kept.onHost _) fun _ => ?_
  refine .bind (Kept.onHost _) fun _ => .bind (Kept.onHost _) fun host => .ite ?_ ?_
  · exact .bind (Kept.onHost _) fun _ => (kept_returned _).bind fun _ => .pure _
  · exact .bind (kept_rollBack _) fun error => kept_returned error

theorem kept_rollBackAttempt (withdraw : Bool) : Kept (rollBackAttempt F withdraw) :=
  .bind (kept_rollbackRuntime F) fun _ => .bind (Kept.onHost _) fun _ => .pure _

theorem kept_rollBackAndFail (withdraw : Bool) (failure : String) :
    Kept (rollBackAndFail F withdraw failure) :=
  .bind (kept_rollBackAttempt F withdraw) fun _ => kept_fail F _ _

theorem kept_initializeRuntime : Kept (initializeRuntime F) := by
  refine .bind (Kept.onHost _) fun host => .ite (kept_snapshot F) (.ite (kept_fail F _ _) ?_)
  refine .bind (Kept.onHost _) fun prepared => .ite (kept_fail F _ _) (.bind (Kept.onHost _) fun _ => ?_)
  refine .bind (Kept.onHost _) fun error => .ite (kept_fail F _ _) (.bind (Kept.onHost _) fun _ => ?_)
  refine .bind kept_recoverPendingRuntime fun recoveryError => .ite ?_ ?_
  · exact .bind (Kept.onHost _) fun _ => kept_fail F _ _
  · exact .bind (Kept.onHost _) fun _ => kept_snapshot F

theorem kept_recoverOnStartup : Kept (recoverOnStartup F) :=
  .bind .get fun _ => .ite (kept_snapshot F) (kept_initializeRuntime F)

theorem kept_stageProfile (body : Bytes) (requiresBoundConnect : Bool) :
    Kept (stageProfile F body requiresBoundConnect) := by
  refine .bind (Kept.onHost _) fun host => .ite ?_ (Kept.onHost _)
  exact .bind (kept_initializeRuntime F) fun initialized => .ite (.pure _) (Kept.onHost _)

/-! ### Connecting -/

variable (op : ConnectOperation)

variable {rollback : Bool} {s : Runtime} {g : Ledger}

/-- An interruption check that finds nothing leaves the object and the ledger
alone; otherwise the attempt is over. -/
theorem wpa_interruption (h : Tracks s.recovery g) :
    journaling.wpa (interruption F op rollback) (fun r s' g' =>
      Tracks s'.recovery g' ∧ (r = none → s'.recovery = s.recovery ∧ g' = g)) s g := by
  have ended : ∀ {m : RuntimeAct RuntimeResult} {s' g'}, Kept m → Tracks s'.recovery g' →
      journaling.wpa (do return some (← m)) (fun r s'' g'' =>
        Tracks s''.recovery g'' ∧ (r = none → s''.recovery = s.recovery ∧ g'' = g)) s' g' := by
    intro m s' g' hm h'
    refine wpa_seq (hm s' g' h') fun r s'' g'' h'' => ?_
    exact ⟨h'', nofun⟩
  unfold interruption
  rw [wpa_bind]
  refine wpa_onHost fun reason host => ?_
  rw [wpa_bind]
  refine wpa_onHost fun identityMismatch host => ?_
  rw [wpa_ite]
  refine ⟨fun _ => ⟨h, fun _ => ⟨rfl, rfl⟩⟩, fun _ => ?_⟩
  have hrefused : Kept (if identityMismatch then fail F .notReady "core_identity_mismatch"
      else if reason = .deadlineExceeded then
        fail F .deadlineExceeded
          (if op.expectedCoreDigest = [] then "deadline_exceeded" else "connect_deadline")
      else fail F .notReady "operation_cancelled") :=
    .ite (kept_fail F _ _) (.ite (kept_fail F _ _) (kept_fail F _ _))
  dsimp only
  rw [wpa_ite]
  refine ⟨fun _ => ended hrefused h, fun _ => ?_⟩
  refine wpa_seq (kept_rollBackAttempt F true _ _ h) fun error s' g' h' => ?_
  rw [wpa_ite]
  exact ⟨fun _ => ended (kept_fail F _ _) h', fun _ => ended hrefused h'⟩

/-- What follows an interruption check runs on the object and the ledger as
they were. -/
theorem wpa_uninterrupted {m : RuntimeAct RuntimeResult} (h : Tracks s.recovery g)
    (hm : ∀ s', s'.recovery = s.recovery → journaling.wpa m (fun _ s'' g'' => Tracks s''.recovery g'') s' g) :
    journaling.wpa (do
      if let some result ← interruption F op rollback then return result
      m) (fun _ s'' g'' => Tracks s''.recovery g'') s g := by
  refine wpa_seq (wpa_interruption F op h) ?_
  rintro (_ | result) s' g' ⟨h', hnone⟩
  · obtain ⟨hsame, rfl⟩ := hnone rfl
    exact hm s' hsame
  · exact h'

theorem kept_uninterrupted {m : RuntimeAct RuntimeResult} (hm : Kept m) : Kept (do
      if let some result ← interruption F op rollback then return result
      m) :=
  fun _ _ h => wpa_uninterrupted F op h fun s' hsame => hm s' _ (show Tracks s'.recovery _ from hsame ▸ h)

theorem kept_interruption (rollback : Bool) : Kept (interruption F op rollback) :=
  fun _ _ h => wpa_mono (wpa_interruption F op h) fun _ _ _ h' => h'.1

theorem kept_verifyConnected : Kept (verifyConnected F op) := by
  refine .bind (Kept.onHost _) fun host => .ite (.pure _) ?_
  refine .bind (Kept.onHost _) fun egressFailure => .bind (kept_interruption F op true) fun r => ?_
  cases r with
  | some result => exact .pure _
  | none => exact .ite (.bind (kept_rollBackAndFail F _ _) fun _ => .pure _) (.pure _)

theorem kept_commitConnect (outcome : DpiOutcome) : Kept (commitConnect F op outcome) := by
  refine .bind (kept_record rfl (by decide)) fun verifiedError => .ite (kept_rollBackAndFail F _ _) ?_
  refine kept_uninterrupted F op (.bind (kept_record rfl (by decide)) fun committedError => ?_)
  refine .ite (kept_rollBackAndFail F _ _) (kept_uninterrupted F op ?_)
  exact .bind (Kept.onHost _) fun _ => Kept.onHost _

theorem kept_proveConnect : Kept (proveConnect F op) := by
  refine .bind (kept_record rfl (by decide)) fun appliedError => .ite (kept_rollBackAndFail F _ _) ?_
  refine kept_uninterrupted F op (.bind (kept_verifyConnected F op) fun r => ?_)
  cases r with
  | some result => exact .pure _
  | none =>
    refine .bind (Kept.onHost _) fun outcome => ?_
    cases outcome with
    | withdrawFailed => exact kept_rollBackAndFail F _ _
    | expired => exact kept_rollBackAndFail F _ _
    | proved strategy admitted => exact kept_commitConnect F op _
    | unproved => exact kept_commitConnect F op _

/-- Core is started over the network state that this attempt has captured and
the journal holds. -/
theorem wpa_startCore {Q : String → Runtime → Ledger → Prop} (hready : g.Ready)
    (h : Tracks s.recovery g)
    (hQ : ∀ error host g', Tracks s.recovery g' → Q error { s with host } g') :
    journaling.wpa (startCore op) Q s g := by
  have hready' := hready
  obtain ⟨snapshot, hcaptured, hvalid, hstage, hsnapshot⟩ := hready'
  -- from here on the captured state is owed, and the journal makes a new service restore it
  have hlive : s.recovery.invalid = false := h.invalid ▸ hvalid
  have hlivestage : s.recovery.stage = .coreStarted := (h.stage hlive) ▸ hstage
  have howing : ({ g with owed := g.captured } : Ledger).Owing := by
    rintro snapshot' hs
    cases hcaptured.symm.trans hs
    exact ⟨hvalid, by rw [hstage]; rfl, hsnapshot⟩
  have htracks : Tracks s.recovery { g with owed := g.captured } := by
    refine ⟨h.invalid, h.stage, h.fields, fun snapshot' hs => ?_⟩
    cases hcaptured.symm.trans hs
    refine ⟨hlive, by rw [hlivestage]; rfl, ?_⟩
    rw [← (h.fields hlive (by rw [hlivestage]; decide)).2.1, hsnapshot]
  have hguar : ∀ e : Event Machine, g.next e = { g with owed := g.captured } →
      journaling.guar g e := by
    intro e hnext
    refine ⟨fun _ => hnext ▸ howing, fun hv => ?_, fun _ => hready⟩
    rw [hnext]
    exact hv
  unfold startCore
  rw [wpa_bind]
  refine wpa_onHost fun _ host => ?_
  rw [wpa_bind]
  refine wpa_onHost fun _ host' => ?_
  rw [wpa_ite]
  refine ⟨fun _ => ?_, fun _ => ?_⟩
  · rw [wpa_perform]
    exact fun error _ => ⟨hguar _ rfl, hQ error host' _ htracks⟩
  · rw [wpa_perform]
    exact fun error _ => ⟨hguar _ rfl, hQ error host' _ htracks⟩

theorem kept_startConnect : Kept (startConnect F op) := by
  intro s g h
  unfold startConnect
  rw [wpa_bind]
  refine wpa_onRecovery (wpa_mono (DurableRuntimeRecovery.wpa_begin h) ?_)
  rintro beginError d g ⟨h, -, hbegun⟩
  rw [wpa_ite]
  refine ⟨fun _ => kept_fail F _ _ _ _ h, fun hok => ?_⟩
  obtain ⟨-, -, hcaptured⟩ := hbegun (not_not.mp hok)
  refine wpa_uninterrupted F op h fun s hs => ?_
  rw [wpa_bind]
  have h : Tracks s.recovery g := hs ▸ h
  have hcaptured : g.captured = some s.recovery.networkSnapshot := hs ▸ hcaptured
  refine wpa_onRecovery (wpa_mono
    (DurableRuntimeRecovery.wpa_recordForward h rfl (by decide)) ?_)
  rintro startedError d g' ⟨h, hframe, hsame, hrecorded⟩
  rw [wpa_ite]
  refine ⟨fun _ => kept_rollBackAndFail F _ _ _ _ h, fun hok => ?_⟩
  obtain ⟨hvalid, hstage⟩ := hrecorded (not_not.mp hok)
  have hready : g'.Ready := by
    refine ⟨d.networkSnapshot, ?_, h.invalid.trans hvalid, (h.stage hvalid).trans hstage, ?_⟩
    · rw [hframe.captured, hcaptured, hsame]
    · exact (h.fields hvalid (by rw [hstage]; decide)).2.1
  refine wpa_uninterrupted F op h fun s hs => wpa_uninterrupted F op (hs ▸ h) fun s' hs' => ?_
  have h : Tracks s'.recovery g' := hs' ▸ hs ▸ h
  rw [wpa_bind]
  refine wpa_startCore op hready h fun startError host g'' h' => ?_
  rw [wpa_ite]
  refine ⟨fun _ => ?_, fun _ => ?_⟩
  · exact kept_uninterrupted F op (kept_rollBackAndFail F _ _) _ _ h'
  · exact kept_uninterrupted F op (kept_proveConnect F op) _ _ h'

theorem kept_connectImpl : Kept (connectImpl F op) := by
  refine .bind (fun s g h => ?_) fun _ => ?_
  · rw [wpa_perform]
    intro r _
    -- the attempt begins: nothing is captured yet
    have h' : Tracks s.recovery { g with captured := none } :=
      ⟨h.invalid, h.stage, h.fields, h.owed⟩
    exact ⟨⟨fun _ => h'.owing, id, nofun⟩, h'⟩
  refine .bind (Kept.onHost _) fun host => .ite (kept_fail F _ _) (.ite (kept_fail F _ _) ?_)
  refine kept_uninterrupted F op (.bind (Kept.onHost _) fun supported => ?_)
  refine .ite (kept_fail F _ _) (.ite (kept_snapshot F) (.ite (kept_fail F _ _) ?_))
  refine .ite (kept_fail F _ _) (.bind (Kept.onHost _) fun r => ?_)
  cases r with
  | some result => exact .pure _
  | none => exact kept_startConnect F op

theorem kept_connect (expectedProfileDigest : Bytes) (network : Option CandidateNetworkContext) :
    Kept (connect F expectedProfileDigest network) :=
  .bind (Kept.onHost _) fun _ => .ite (kept_fail F _ _) (kept_connectImpl F _)

theorem kept_connectWithIdentity (target : BoundConnectTarget)
    (network : Option CandidateNetworkContext) : Kept (connectWithIdentity F target network) :=
  .ite (.pure _) (.bind (Kept.onHost _) fun _ => .ite (.pure _) (kept_connectImpl F _))

/-! ### Disconnecting and what ends in it -/

theorem kept_rollBackConnection : Kept (rollBackConnection F) :=
  .bind (kept_rollbackRuntime F) fun _ => .bind (Kept.onHost _) fun _ => .pure _

theorem kept_disconnect (explicitDisconnect : Bool) : Kept (disconnect F explicitDisconnect) := by
  refine .bind (Kept.onHost _) fun host => .ite ?_ ?_
  · exact .bind (Kept.onHost _) fun _ => .ite (kept_fail F _ _) (kept_snapshot F)
  refine .bind (kept_rollBackConnection F) fun error => .ite (kept_fail F _ _) ?_
  refine .bind (Kept.onHost _) fun _ => .bind (Kept.onHost _) fun lifted => ?_
  exact .ite (kept_fail F _ _) (kept_snapshot F)

theorem kept_shutdown : Kept (shutdown F) := by
  refine .bind (Kept.onHost _) fun _ => .bind (Kept.onHost _) fun _ => .bind (Kept.onHost _) fun host => ?_
  exact .ite (.bind (kept_rollBackConnection F) fun _ => .pure _) (.pure _)

theorem kept_replaceManagedProfile (body : Bytes) (network : Option CandidateNetworkContext) :
    Kept (replaceManagedProfile F body network) := by
  refine .bind (Kept.onHost _) fun host => .ite (kept_fail F _ _) ?_
  refine .bind (Kept.onHost _) fun covered => .ite (kept_fail F _ _) ?_
  refine .bind (Kept.onHost _) fun error => .ite (kept_fail F _ _) ?_
  refine .bind (kept_disconnect F false) fun stopped => .ite (.pure _) ?_
  refine .bind (Kept.onHost _) fun interrupted => .ite (kept_fail F _ _) ?_
  refine .bind (kept_stageProfile F body false) fun staged => .ite (.pure _) ?_
  refine .bind (kept_connectImpl F _) fun connected => .ite (.pure _) ?_
  refine .bind (Kept.onHost _) fun host => .ite (kept_fail F _ _) ?_
  refine .bind (Kept.onHost _) fun interrupted => .ite ?_ ?_
  · exact .bind (kept_disconnect F false) fun cancelled => .ite (.pure _) (kept_fail F _ _)
  refine .bind (Kept.onHost _) fun error => .ite ?_ (kept_snapshot F)
  exact .bind (Kept.onHost _) fun _ => kept_fail F _ _

theorem kept_cancelProtectedHandoff : Kept (cancelProtectedHandoff F) := by
  refine .bind (Kept.onHost _) fun host => .ite (kept_fail F _ _) ?_
  exact .bind (Kept.onHost _) fun error => .ite (kept_fail F _ _) (kept_disconnect F false)

theorem kept_stopAndUnstage {result : RuntimeAct RuntimeResult} (h : Kept result) :
    Kept (stopAndUnstage F result) :=
  .bind (kept_cancelProtectedHandoff F) fun _ => .ite (.pure _) (.bind (Kept.onHost _) fun _ => h)

theorem kept_revokeRoutingCatalog (profileDigest : Bytes) :
    Kept (revokeRoutingCatalog F profileDigest) := by
  refine .ite (.pure _) (.bind (Kept.onHost _) fun host => .ite (.pure _) ?_)
  refine .bind (Kept.onHost _) fun withdrawn => .ite (kept_fail F _ _) ?_
  refine .ite (kept_stopAndUnstage F (.pure _)) (.bind (Kept.onHost _) fun stopped => ?_)
  exact .ite (kept_fail F _ _) (Kept.onHost _)

theorem kept_revokeRoutingCatalogService (body : Bytes) :
    Kept (revokeRoutingCatalogService F body) := by
  refine .ite (.pure _) (.bind (Kept.onHost _) fun host => .ite (.pure _) ?_)
  refine .bind (Kept.onHost _) fun withdrawn => .ite (kept_fail F _ _) ?_
  refine .ite (kept_stopAndUnstage F (.pure _)) (.bind (Kept.onHost _) fun stopped => ?_)
  exact .ite (kept_fail F _ _) (Kept.onHost _)

theorem kept_stopUnwithdrawn : Kept (stopUnwithdrawn F) :=
  .bind (kept_cancelProtectedHandoff F) fun _ => .ite (.pure _) (kept_fail F _ _)

theorem kept_maintainWindowsLocalDpi : Kept (maintainWindowsLocalDpi F) := by
  refine .bind (Kept.onHost _) fun host => ?_
  split
  · exact kept_snapshot F
  refine .ite (kept_snapshot F) (.bind (Kept.onHost _) fun lost => ?_)
  cases lost with
  | some failure => exact kept_stopAndUnstage F (kept_fail F _ _)
  | none =>
    refine .bind (Kept.onHost _) fun withdrawn => .ite (kept_stopUnwithdrawn F) ?_
    refine .bind (Kept.onHost _) fun candidate => ?_
    split
    · exact kept_snapshot F
    refine .bind (Kept.onHost _) fun retried => .ite (kept_stopUnwithdrawn F) ?_
    refine .bind (Kept.onHost _) fun lost => ?_
    cases lost with
    | some failure => exact kept_stopAndUnstage F (kept_fail F _ _)
    | none => exact kept_snapshot F

theorem kept_run (operation : Operation) : Kept (operation.run F) := by
  cases operation with
  | recoverOnStartup => exact .map _ (kept_recoverOnStartup F)
  | initializeRuntime => exact .map _ (kept_initializeRuntime F)
  | stageProfile body bound => exact .map _ (kept_stageProfile F body bound)
  | connect digest network => exact .map _ (kept_connect F digest network)
  | connectWithIdentity target network => exact .map _ (kept_connectWithIdentity F target network)
  | disconnect explicitDisconnect => exact .map _ (kept_disconnect F explicitDisconnect)
  | replaceManagedProfile body network => exact .map _ (kept_replaceManagedProfile F body network)
  | cancelProtectedHandoff => exact .map _ (kept_cancelProtectedHandoff F)
  | maintainWindowsLocalDpi => exact .map _ (kept_maintainWindowsLocalDpi F)
  | revokeRoutingCatalog digest => exact .map _ (kept_revokeRoutingCatalog F digest)
  | revokeRoutingCatalogService body => exact .map _ (kept_revokeRoutingCatalogService F body)
  | shutdown => exact .bind (kept_shutdown F) fun _ => .pure _
  -- the others stay within the host
  | _ => exact .map _ (Kept.onHost _)

theorem kept_session (operations : List Operation) : Kept (session F operations) := by
  induction operations with
  | nil => exact .pure _
  | cons operation rest ih => exact .bind (kept_run F operation) fun _ => ih

end Runtime

end Pokrov.Windows.Service
