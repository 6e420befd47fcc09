import Pokrov.Windows.Service.Attempts
import Pokrov.Windows.Service.Lives

/-!
# The phases of a host over whole runs

Every operation of the host keeps the invariant, so it holds in every state that
a sequence of operations can reach. A host that runs has a profile in effect and
a committed journal; it leaves an owed recovery only through a rollback that
succeeded, and Core is started from an idle host only.
-/

namespace Pokrov.Windows.Service

open Codec Effects Contract
open RuntimeHost (steady_fail steady_snapshot steady_executorStop steady_cleanupBundledRuleSets)

/-! ## Initialize and stage -/

/-- A host that has just initialized Core, with or without a recovery that it
owes. -/
theorem Watched.of_initialized {s s' : Runtime} {g : Watch} (h : Watched s g)
    (hnew : ¬ s.host.initialized = true) (hready : s'.host.initialized = true)
    (hphase : s'.host.phase ≠ .running)
    (heffective : s'.host.effectiveProfileDigest = s.host.effectiveProfileDigest)
    (hstaged : s'.host.stagedProfileDigest = s.host.stagedProfileDigest)
    (hvalidated : s'.host.coreEgressValidated = s.host.coreEgressValidated)
    (hprofile : s'.host.profileStaged = true → s.host.profileStaged = true)
    (view : Option HostView) (b : Bool) :
    Watched s' { g with view, recovering := g.recovering && b } := by
  -- nothing ran and nothing was owed before Core was initialized
  have hidle : s.host.phase ≠ .running := fun hp => hnew (h.toCoherent.initialized (.inl hp))
  have howed : g.recovering = false := by
    rw [← Bool.not_eq_true]
    exact fun hr => hnew (h.toCoherent.initialized (.inr (h.recovering hr)))
  constructor
  · constructor
    · rw [heffective]
      exact iff_of_false hphase fun he => hidle (h.effective.mpr he)
    · exact fun hp => absurd hp hphase
    · rw [hvalidated]
      exact fun hv => absurd (h.validated hv) hidle
    · exact fun hp => absurd hp hphase
    · rw [hstaged]
      exact fun hp => h.profile (hprofile hp)
    · exact fun _ => hready
  · exact fun hp => h.fresh (hprofile hp)
  · simp [howed]
  · exact fun _ => hready

/-! ## Assignments that keep the invariant -/

namespace Watched

variable {s : Runtime} {g : Watch}

/-- A running host may take any view of its egress. -/
theorem of_validated (h : Watched s g) (hrunning : s.host.phase = .running)
    (coreEgressValidated : Bool) :
    Watched { s with host := { s.host with coreEgressValidated } } g :=
  ⟨⟨h.effective, h.committed, fun _ => hrunning, h.staged, h.profile, h.toCoherent.initialized⟩,
    h.fresh, h.recovering, h.remembered⟩

/-- Doubt about the egress is always safe. -/
theorem doubted (h : Watched s g) :
    Watched { s with host := { s.host with coreEgressValidated := false } } g := by
  refine ⟨⟨h.effective, h.committed, fun hv => ?_, h.staged, h.profile,
    h.toCoherent.initialized⟩, h.fresh, h.recovering, h.remembered⟩
  exact absurd hv Bool.false_ne_true

/-- Bytes that are taken back do not disturb what runs. -/
theorem unstaged (h : Watched s g) :
    Watched { s with host :=
      { s.host with profileStaged := false, stagedProfileDigest := [] } } g := by
  refine ⟨⟨h.effective, h.committed, h.validated, fun _ => .inl rfl, fun hp => ?_,
    h.toCoherent.initialized⟩, fun hp => ?_, h.recovering, h.remembered⟩
  · exact absurd hp Bool.false_ne_true
  · exact absurd hp Bool.false_ne_true

theorem unstage (h : Watched s g) (profileDigest : Bytes) :
    Watched { s with host := s.host.unstage profileDigest } g := by
  unfold RuntimeHost.unstage
  split
  · exact h.unstaged
  · exact h

end Watched

namespace Runtime

variable (F : Functions)

variable {α : Type} {host : RuntimeHost}

theorem watch_coreInitialize {f : String → RuntimeAct α} {Q : α → Runtime → Watch → Prop}
    {s : Runtime} {g : Watch} (hg : g.initialized = false)
    (hf : ∀ error, watching.wpa (f error) Q s { g with view := none }) :
    watching.wpa (onHost (ask .coreInitialize rfl) >>= f) Q s g := by
  rw [wpa_bind]
  refine watch_onHost fun error _ => ⟨⟨fun hc => ?_, fun _ => hg⟩, hf error⟩
  cases hc

theorem coheres_initializeRuntime : Coheres (initializeRuntime F) := by
  intro s g h
  unfold initializeRuntime
  rw [wpa_withHost, wpa_ite]
  refine ⟨fun _ => coheres_snapshot F s g h, fun hnew => ?_⟩
  rw [wpa_ite]
  refine ⟨fun _ => coheres_fail F _ _ s g h, fun _ => ?_⟩
  rw [wpa_bind]
  refine watch_steady (steady_ask rfl) fun prepared host1 v1 h1 => ?_
  have hs1 := (h.of_settled h1).of_view v1
  rw [wpa_ite]
  refine ⟨fun _ => coheres_fail F _ _ _ _ hs1, fun _ => ?_⟩
  rw [wpa_bind]
  refine watch_modifyHost ?_
  have hpath : Settled s.host { host1 with profilePath := true } :=
    h1.trans ⟨rfl, rfl, rfl, rfl, rfl, rfl, rfl⟩
  have hs2 := (h.of_settled hpath).of_view none
  have hforgot : g.initialized = false := by
    rw [← Bool.not_eq_true]
    exact fun hg => hnew (h.remembered hg)
  refine watch_coreInitialize hforgot fun error => ?_
  rw [wpa_ite]
  refine ⟨fun _ => coheres_fail F _ _ _ _ hs2, fun _ => ?_⟩
  rw [wpa_bind]
  refine watch_modifyHost ?_
  rw [wpa_bind]
  refine watch_recoverPendingRuntime fun recoveryError s3 v3 h3 => ?_
  have hinitialized : ∀ (phase : Phase), phase ≠ .running →
      Watched { s3 with host := { s3.host with phase } }
        { g with view := v3, recovering := g.recovering && recoveryError != "" } := by
    intro phase hphase
    have hready : { s3 with host := { s3.host with phase } }.host.initialized = true :=
      h3.initialized
    refine h.of_initialized hnew hready hphase ?_ ?_ ?_ ?_ v3 _
    · exact h3.effective.trans hpath.effective
    · exact h3.staged.trans hpath.staged
    · exact h3.validated.trans hpath.validated
    · exact fun hp => hpath.profileStaged.symm.trans (h3.profileStaged hp)
  rw [wpa_ite]
  refine ⟨fun _ => ?_, fun _ => ?_⟩
  · rw [wpa_bind]
    refine watch_modifyHost ?_
    exact coheres_fail F _ _ _ _ (hinitialized .recoveryRequired (by decide))
  · have hphase3 : s3.host.phase = .initialized := h3.phase
    have hs3 : Watched s3 _ := hinitialized s3.host.phase (by rw [hphase3]; decide)
    refine Keeps.bind (Coheres.steady ?_) (fun _ => coheres_snapshot F) _ _ hs3
    refine .bind (.modify fun _ => ⟨rfl, rfl, rfl, rfl, rfl, rfl, rfl⟩) fun _ => ?_
    refine .bind .get fun host => .bind ?_ fun dpi => .bind ?_ fun telegram => .modify fun _ => ?_
    · refine .ite (.pure _) (.bind (steady_ask rfl) fun _ => .ite (.pure _) (steady_ask rfl))
    · exact .ite (.pure _) (.bind (steady_ask rfl) fun _ => .pure _)
    · exact ⟨rfl, rfl, rfl, rfl, rfl, rfl, rfl⟩

theorem coheres_recoverOnStartup : Coheres (recoverOnStartup F) :=
  .bind .get fun _ => .ite (coheres_snapshot F) (coheres_initializeRuntime F)

theorem host_markStaged {f : Unit → HostAct α} {Q : α → RuntimeHost → Watch → Prop} {g : Watch}
    (hf : hosting.wpa (f ()) Q host { g with view := none, fresh := true }) :
    hosting.wpa (ask (.mark .staged) rfl >>= f) Q host g :=
  wpa_call fun _ _ => ⟨guar_of_marked, hf⟩

variable (body : Bytes)

/-- The host goes back to a staged profile from a phase in which nothing ran. -/
theorem coheres_stageInitialized (requiresBoundConnect : Bool) :
    Coheres (onHost (stageInitialized F body requiresBoundConnect)) := by
  intro s g h
  refine watch_onHost ?_
  unfold stageInitialized
  rw [wpa_bind, wpa_get, wpa_ite]
  refine ⟨fun _ => host_coheres (steady_fail F _ _) h, fun hphase => ?_⟩
  dsimp only
  rw [wpa_ite]
  refine ⟨fun _ => host_coheres (steady_fail F _ _) h, fun hdigest => ?_⟩
  split
  · exact host_coheres (steady_fail F _ _) h
  rw [wpa_ite]
  refine ⟨fun _ => host_coheres (steady_fail F _ _) h, fun _ => ?_⟩
  rw [wpa_bind]
  refine host_steady (.ite (.pure _) (steady_ask rfl)) fun paths host1 v1 h1 => ?_
  have hs1 := (h.of_settled h1).of_view v1
  split
  · exact host_coheres (steady_fail F _ _) hs1
  rw [wpa_bind]
  refine host_steady (RuntimeHost.steady_secureFiles _) fun secured host2 v2 h2 => ?_
  have hs2 := (hs1.of_settled h2).of_view v2
  rw [wpa_ite]
  refine ⟨fun _ => host_coheres (.bind (steady_cleanupBundledRuleSets _) fun _ =>
    steady_fail F _ _) hs2, fun _ => ?_⟩
  split
  · exact host_coheres (.bind (steady_cleanupBundledRuleSets _) fun _ =>
      steady_fail F _ _) hs2
  rw [wpa_bind]
  refine host_steady (RuntimeHost.steady_writeProfileAtomically _) fun error host3 v3 h3 => ?_
  have hs3 := (hs2.of_settled h3).of_view v3
  rw [wpa_ite]
  refine ⟨fun _ => host_coheres (.bind (steady_cleanupBundledRuleSets _) fun _ =>
    steady_fail F _ _) hs3, fun _ => ?_⟩
  rw [wpa_bind]
  refine host_steady (.onlyIf (steady_cleanupBundledRuleSets _)) ?_
  intro _ host4 v4 h4
  rw [wpa_bind, wpa_modify]
  refine host_markStaged (host_coheres (steady_snapshot F) ?_)
  have hsettled : Settled s.host host4 := ((h1.trans h2).trans h3).trans h4
  rw [not_or, not_or] at hphase
  constructor
  · constructor
    · simp
    · simp
    · intro hv
      have hv' : s.host.coreEgressValidated = true := hsettled.validated ▸ hv
      exact absurd (h.validated hv') hphase.1
    · simp
    · exact fun _ => hdigest
    · simp
  · exact fun _ => rfl
  · exact fun hr => absurd (h.recovering hr) hphase.2.1
  · exact fun hg => hsettled.initialized.trans (h.remembered hg)

theorem coheres_stageProfile (requiresBoundConnect : Bool) :
    Coheres (stageProfile F body requiresBoundConnect) := by
  refine .bind Coheres.getHost fun host => .ite ?_ (coheres_stageInitialized F _ _)
  refine .bind (coheres_initializeRuntime F) fun initialized => .ite (.pure _) ?_
  exact coheres_stageInitialized F _ _

/-! ## Connecting and disconnecting -/

theorem coheres_connect (expectedProfileDigest : Bytes)
    (network : Option CandidateNetworkContext) :
    Coheres (connect F expectedProfileDigest network) :=
  .bind Coheres.getHost fun _ => .ite (coheres_fail F _ _) (coheres_connectImpl F _)

theorem coheres_connectWithIdentity (target : BoundConnectTarget)
    (network : Option CandidateNetworkContext) : Coheres (connectWithIdentity F target network) :=
  .ite (.pure _) (.bind Coheres.getHost fun _ => .ite (.pure _) (coheres_connectImpl F _))

/-- A connection that is rolled back, or stays to be. -/
theorem watch_rollBackConnection {s : Runtime} {g : Watch} (h : Watched s g)
    (hready : s.host.initialized = true) :
    watching.wpa (rollBackConnection F) (fun _ s' g' => Watched s' g') s g := by
  unfold rollBackConnection
  rw [wpa_bind]
  refine watch_rollbackRuntime F fun error s' view hhost => ?_
  rw [wpa_bind]
  refine watch_modifyHost ?_
  have hready' : s'.host.initialized = true := hhost.initialized.trans hready
  have hphase : (if error = "" then (if s'.host.profileStaged then .configStaged else .initialized)
      else .recoveryRequired : Phase) ≠ .running := by
    split
    · split <;> decide
    · decide
  constructor
  · constructor
    · exact iff_of_false hphase fun hne => hne rfl
    · exact fun hp => absurd hp hphase
    · exact fun hv => absurd hv Bool.false_ne_true
    · exact fun hp => absurd hp hphase
    · intro hp
      have hstaged : s'.host.stagedProfileDigest = s.host.stagedProfileDigest := hhost.staged
      exact hstaged ▸ h.profile (hhost.profileStaged hp)
    · exact fun _ => hready'
  · exact fun hp => h.fresh (hhost.profileStaged hp)
  · intro hr
    have herror : error ≠ "" := bne_iff_ne.mp (Bool.and_eq_true_iff.mp hr).2
    exact if_neg herror
  · exact fun _ => hready'

/-- The guard may be lifted; the host stands where it stood. -/
theorem coheres_explicitOff (explicitDisconnect : Bool) :
    Coheres (onHost (explicitOff explicitDisconnect)) := by
  intro s g h
  refine watch_onHost (host_moves (R := Settled) ?_ fun _ _ view hhost =>
    (h.of_settled hhost).of_view view)
  refine .bind .get fun host => .ite (.pure _) (.bind ?_ fun _ => .pure _)
  exact Moves.perform (I := Quiet) rfl

theorem coheres_modifyFailure (failure : String) :
    Coheres (modifyHost fun host => { host with failure }) :=
  fun _ _ h => h.of_settled ⟨rfl, rfl, rfl, rfl, rfl, rfl, rfl⟩

theorem coheres_disconnect (explicitDisconnect : Bool) :
    Coheres (disconnect F explicitDisconnect) := by
  intro s g h
  unfold disconnect
  rw [wpa_withHost, wpa_ite]
  refine ⟨fun _ => ?_, fun hready => ?_⟩
  · refine Keeps.bind (coheres_explicitOff _) (fun lifted => ?_) s g h
    exact .ite (coheres_fail F _ _) (coheres_snapshot F)
  rw [not_or, not_not] at hready
  refine wpa_seq (watch_rollBackConnection F h hready.1) fun error s' g' h' => ?_
  refine Keeps.ite (coheres_fail F _ _) (.bind (coheres_modifyFailure "") fun _ => ?_) s' g' h'
  refine .bind (coheres_explicitOff _) fun lifted => ?_
  exact .ite (coheres_fail F _ _) (coheres_snapshot F)

theorem coheres_shutdown : Coheres (shutdown F) := by
  refine .bind (Coheres.steady (RuntimeHost.steady_withdrawTelegramWS [])) fun _ => ?_
  refine .bind (Coheres.steady steady_executorStop) fun _ => ?_
  intro s g h
  rw [wpa_withHost, wpa_onlyIf]
  refine ⟨fun hrun => ?_, fun _ => h⟩
  exact wpa_seq (watch_rollBackConnection F h hrun.2.1) fun _ _ _ h' => h'

theorem coheres_cancelProtectedHandoff : Coheres (cancelProtectedHandoff F) := by
  refine .bind Coheres.getHost fun host => .ite (coheres_fail F _ _) ?_
  refine .bind (Coheres.steady (steady_ask rfl)) fun error => .ite (coheres_fail F _ _) ?_
  exact coheres_disconnect F false

theorem coheres_guardFinish : Coheres (onHost RuntimeHost.guardFinish) := by
  intro s g h
  refine watch_onHost (host_moves (R := Settled) ?_ fun _ _ view hhost =>
    (h.of_settled hhost).of_view view)
  refine .bind (.bind .get fun host => Moves.perform (I := Quiet) rfl) fun _ => ?_
  exact Moves.perform (I := Quiet) rfl

theorem coheres_replaceManagedProfile (network : Option CandidateNetworkContext) :
    Coheres (replaceManagedProfile F body network) := by
  refine .bind Coheres.getHost fun host => .ite (coheres_fail F _ _) ?_
  refine .bind (Coheres.steady (.ite (.pure _) (steady_ask rfl))) fun covered => ?_
  refine .ite (coheres_fail F _ _) (.bind (Coheres.steady (steady_ask rfl)) fun error => ?_)
  refine .ite (coheres_fail F _ _) (.bind (coheres_disconnect F false) fun stopped => ?_)
  refine .ite (.pure _) (.bind (Coheres.steady (RuntimeHost.steady_interrupted .owner)) fun _ => ?_)
  refine .ite (coheres_fail F _ _) (.bind (coheres_stageProfile F body false) fun staged => ?_)
  refine .ite (.pure _) (.bind (coheres_connectImpl F _) fun connected => .ite (.pure _) ?_)
  refine .bind Coheres.getHost fun host => .ite (coheres_fail F _ _) ?_
  refine .bind (Coheres.steady (RuntimeHost.steady_interrupted .owner)) fun interrupted => .ite ?_ ?_
  · refine .bind (coheres_disconnect F false) fun cancelled => ?_
    exact .ite (.pure _) (coheres_fail F _ _)
  refine .bind coheres_guardFinish fun error => .ite ?_ (coheres_snapshot F)
  exact .bind (fun _ _ h => h.doubted) fun _ => coheres_fail F _ _

theorem coheres_stopAndUnstage {result : RuntimeAct RuntimeResult} (h : Coheres result) :
    Coheres (stopAndUnstage F result) := by
  refine .bind (coheres_cancelProtectedHandoff F) fun stopped => .ite (.pure _) ?_
  exact .bind (fun _ _ hs => hs.unstaged) fun _ => h

/-! ## Revocations and maintenance -/

/-- A control call of Core leaves the host alone. -/
theorem host_control {control : CoreControl} {f : Int → HostAct α}
    {Q : α → RuntimeHost → Watch → Prop} {g : Watch}
    (hf : ∀ result, hosting.wpa (f result) Q host { g with view := none }) :
    hosting.wpa (ask (.control control) rfl >>= f) Q host g :=
  wpa_call fun result _ => ⟨guar_of_unmarked rfl, hf result⟩

theorem coheres_revoke (control : CoreControl) (profileDigest : Bytes)
    (unavailable revoked kept : String) :
    Coheres (onHost (RuntimeHost.revoke control profileDigest unavailable revoked kept)) := by
  intro s g h
  refine watch_onHost ?_
  unfold RuntimeHost.revoke
  refine host_control fun result => ?_
  have h' := h.of_view none
  rw [wpa_ite]
  refine ⟨fun _ => h', fun _ => ?_⟩
  rw [wpa_bind, wpa_onlyIf]
  exact ⟨fun _ => h'.unstage profileDigest, fun _ => h'⟩

theorem coheres_revokeSmartAccessLease :
    Coheres (onHost (RuntimeHost.revokeSmartAccessLease body)) := by
  intro s g h
  refine watch_onHost ?_
  unfold RuntimeHost.revokeSmartAccessLease
  split
  · exact h
  rw [wpa_bind, wpa_get, wpa_ite]
  exact ⟨fun _ => h, fun _ => wpa_confined.mp (coheres_revoke _ _ _ _ _ s g h)⟩

theorem coheres_revokeSmartAccessPolicy :
    Coheres (onHost (RuntimeHost.revokeSmartAccessPolicy body)) := by
  intro s g h
  refine watch_onHost ?_
  unfold RuntimeHost.revokeSmartAccessPolicy
  rw [wpa_ite]
  refine ⟨fun _ => h, fun _ => ?_⟩
  dsimp only
  rw [wpa_bind, wpa_get, wpa_ite]
  exact ⟨fun _ => h, fun _ => wpa_confined.mp (coheres_revoke _ _ _ _ _ s g h)⟩

theorem coheres_renewSmartAccessLease :
    Coheres (onHost (RuntimeHost.renewSmartAccessLease body)) := by
  intro s g h
  refine watch_onHost ?_
  unfold RuntimeHost.renewSmartAccessLease
  cases decodeSmartAccessRenewal body with
  | none => exact h
  | some target =>
  dsimp only
  rw [wpa_bind, wpa_get, wpa_ite]
  refine ⟨fun _ => h, fun _ => ?_⟩
  rw [wpa_bind]
  refine host_steady (steady_ask rfl) fun version host1 v1 h1 => ?_
  have hs1 := (h.of_settled h1).of_view v1
  rw [wpa_ite]
  refine ⟨fun _ => hs1, fun _ => ?_⟩
  rw [wpa_bind, wpa_modify]
  refine host_control fun result => ?_
  have hs2 := (hs1.unstage target.profileDigest).of_view none
  rw [wpa_ite]
  exact ⟨fun _ => hs2, fun _ => hs2⟩

theorem coheres_configureSmartAccessRuntimeControl (renewal qa : Bool) :
    Coheres (onHost (RuntimeHost.configureSmartAccessRuntimeControl F body renewal qa)) := by
  intro s g h
  refine watch_onHost ?_
  unfold RuntimeHost.configureSmartAccessRuntimeControl
  rw [wpa_ite]
  refine ⟨fun _ => h, fun _ => ?_⟩
  generalize substr 0 64 body = profileDigest
  dsimp only
  rw [wpa_bind, wpa_get, wpa_ite]
  refine ⟨fun _ => h, fun _ => ?_⟩
  rw [wpa_bind]
  refine host_steady (steady_ask rfl) fun version host1 v1 h1 => ?_
  have hs1 := (h.of_settled h1).of_view v1
  rw [wpa_ite]
  refine ⟨fun _ => hs1, fun _ => ?_⟩
  rw [wpa_ite]
  refine ⟨fun _ => hs1, fun _ => ?_⟩
  rw [wpa_ite]
  refine ⟨fun _ => hs1, fun _ => ?_⟩
  rw [wpa_bind, wpa_modify]
  refine host_control fun result => ?_
  have hs2 := (hs1.unstage profileDigest).of_view none
  rw [wpa_ite]
  refine ⟨fun _ => hs2, fun _ => ?_⟩
  rw [wpa_ite]
  exact ⟨fun _ => host_coheres (RuntimeHost.steady_admitFirstProvider F _) hs2, fun _ => hs2⟩

theorem coheres_revokeRoutingCatalog (profileDigest : Bytes) :
    Coheres (revokeRoutingCatalog F profileDigest) := by
  refine .ite (.pure _) (.bind Coheres.getHost fun host => .ite (.pure _) ?_)
  refine .bind (Coheres.steady (RuntimeHost.steady_withdrawTelegramWS [])) fun withdrawn => ?_
  refine .ite (coheres_fail F _ _) (.ite (coheres_stopAndUnstage F (.pure _)) ?_)
  refine .bind (Coheres.steady steady_executorStop) fun stopped => ?_
  exact .ite (coheres_fail F _ _) (coheres_revoke _ _ _ _ _)

theorem coheres_revokeRoutingCatalogService : Coheres (revokeRoutingCatalogService F body) := by
  refine .ite (.pure _) (.bind Coheres.getHost fun host => .ite (.pure _) ?_)
  refine .bind (Coheres.steady (.ite (RuntimeHost.steady_withdrawTelegramWS _) (.pure _))) fun _ => ?_
  refine .ite (coheres_fail F _ _) (.ite (coheres_stopAndUnstage F (.pure _)) ?_)
  refine .bind (Coheres.steady (.ite steady_executorStop (.pure _))) fun stopped => ?_
  exact .ite (coheres_fail F _ _) (coheres_revoke _ _ _ _ _)

theorem coheres_stopUnwithdrawn : Coheres (stopUnwithdrawn F) :=
  .bind (coheres_cancelProtectedHandoff F) fun _ => .ite (.pure _) (coheres_fail F _ _)

theorem coheres_maintainWindowsLocalDpi : Coheres (maintainWindowsLocalDpi F) := by
  refine .bind Coheres.getHost fun host => ?_
  split
  · exact coheres_snapshot F
  refine .ite (coheres_snapshot F) (.bind (Coheres.steady (steady_preparationLost _)) fun lost => ?_)
  cases lost with
  | some failure => exact coheres_stopAndUnstage F (coheres_fail F _ _)
  | none =>
    refine .bind (Coheres.steady steady_withdrawLostChild) fun withdrawn => ?_
    refine .ite (coheres_stopUnwithdrawn F) ?_
    refine .bind (Coheres.steady (steady_retryCandidate F _)) fun candidate => ?_
    split
    · exact coheres_snapshot F
    refine .bind (Coheres.steady (steady_retryStrategy F _ _ _)) fun retried => ?_
    refine .ite (coheres_stopUnwithdrawn F) ?_
    refine .bind (Coheres.steady (steady_preparationLostAfterRetry _)) fun lost => ?_
    cases lost with
    | some failure => exact coheres_stopAndUnstage F (coheres_fail F _ _)
    | none => exact coheres_snapshot F

/-! ## Operations that keep the connection -/

theorem coheres_invalidateProfile : Coheres (onHost (RuntimeHost.invalidateProfile F)) := by
  intro s g h
  refine watch_onHost ?_
  unfold RuntimeHost.invalidateProfile
  rw [wpa_bind, wpa_get, wpa_ite]
  refine ⟨fun _ => host_coheres (steady_fail F _ _) h, fun hrunning => ?_⟩
  rw [wpa_ite]
  refine ⟨fun _ => host_coheres (steady_fail F _ _) h, fun hrecovery => ?_⟩
  rw [wpa_bind]
  refine host_steady steady_executorStop fun stopped host1 v1 h1 => ?_
  have hs1 := (h.of_settled h1).of_view v1
  rw [wpa_ite]
  refine ⟨fun _ => host_coheres (steady_fail F _ _) hs1, fun _ => ?_⟩
  rw [wpa_bind]
  refine host_steady (.onlyIf (steady_ask rfl)) fun _ host2 v2 h2 => ?_
  rw [wpa_bind]
  refine host_steady (steady_cleanupBundledRuleSets _) fun _ host3 v3 h3 => ?_
  have hsettled : Settled s.host host3 := (h1.trans h2).trans h3
  rw [wpa_bind, wpa_modify]
  refine host_coheres (steady_snapshot F) ?_
  have hphase : (if host3.initialized then .initialized else .artifactReady : Phase) ≠ .running ∧
      (if host3.initialized then .initialized else .artifactReady : Phase) ≠
        .recoveryRequired := by
    split <;> decide
  constructor
  · constructor
    · exact iff_of_false hphase.1 fun hne => hne rfl
    · exact fun hp => absurd hp hphase.1
    · intro hv
      have hv' : s.host.coreEgressValidated = true := hsettled.validated ▸ hv
      exact absurd (h.validated hv') hrunning
    · exact fun hp => absurd hp hphase.1
    · exact fun hp => absurd hp Bool.false_ne_true
    · rintro (hp | hp)
      · exact absurd hp hphase.1
      · exact absurd hp hphase.2
  · exact fun hp => absurd hp Bool.false_ne_true
  · exact fun hr => absurd (h.recovering hr) hrecovery
  · exact fun hg => hsettled.initialized.trans (h.remembered hg)

theorem coheres_promoteTransportLease (target : TransportLeasePromotion) :
    Coheres (onHost (RuntimeHost.promoteTransportLease F target)) := by
  intro s g h
  refine watch_onHost ?_
  unfold RuntimeHost.promoteTransportLease
  rw [wpa_bind, wpa_get, wpa_ite]
  refine ⟨fun _ => h, fun hready => ?_⟩
  have hrunning : s.host.phase = .running := by
    by_contra hp
    exact hready (.inr (.inr (.inl hp)))
  refine host_control fun result => ?_
  rw [wpa_ite]
  refine ⟨fun _ => h.of_view none, fun _ => ?_⟩
  rw [wpa_bind, wpa_modify]
  exact host_coheres (steady_snapshot F) ((h.of_validated hrunning true).of_view none)

theorem coheres_revokeTransportLease (target : TransportLeaseRevocation) :
    Coheres (onHost (RuntimeHost.revokeTransportLease F target)) := by
  intro s g h
  refine watch_onHost ?_
  unfold RuntimeHost.revokeTransportLease
  rw [wpa_bind, wpa_get, wpa_ite]
  refine ⟨fun _ => h, fun _ => ?_⟩
  rw [wpa_bind, wpa_modify]
  have h' := h.doubted.of_view none
  refine host_control fun result => ?_
  rw [wpa_ite]
  exact ⟨fun _ => h', fun _ => host_coheres (steady_snapshot F) h'⟩

/-- Only a running host is rechecked. -/
theorem host_canRecheckEgress {Q : Bool → RuntimeHost → Watch → Prop} {g : Watch}
    (hQ : ∀ b host' view, Settled host host' → (b = true → host.phase = .running) → Q b host' { g with view }) :
    hosting.wpa RuntimeHost.canRecheckEgress Q host g := by
  unfold RuntimeHost.canRecheckEgress
  rw [wpa_bind, wpa_get, wpa_ite]
  refine ⟨fun _ => hQ false host g.view (.refl host) (fun h => ?_), fun hrunning => ?_⟩
  · exact absurd h Bool.false_ne_true
  rw [not_or, not_not] at hrunning
  rw [wpa_bind]
  refine host_steady RuntimeHost.steady_transitionGuardArmed fun armed host' view hhost => ?_
  exact hQ _ host' view hhost fun _ => hrunning.1

theorem coheres_recheckEgress : Coheres (onHost (RuntimeHost.recheckEgress F)) := by
  intro s g h
  refine watch_onHost ?_
  unfold RuntimeHost.recheckEgress
  rw [wpa_bind]
  refine host_canRecheckEgress fun allowed host1 v1 h1 hallowed => ?_
  have hs1 := (h.of_settled h1).of_view v1
  rw [wpa_ite]
  refine ⟨fun _ => host_coheres (steady_snapshot F) hs1, fun hyes => ?_⟩
  have hrunning : s.host.phase = .running := hallowed (not_not.mp hyes)
  rw [wpa_bind]
  refine host_steady (steady_ask rfl) fun _ host2 v2 h2 => ?_
  have hs2 := (hs1.of_settled h2).of_view v2
  rw [wpa_ite]
  refine ⟨fun _ => host_coheres (steady_snapshot F) hs2, fun _ => ?_⟩
  rw [wpa_bind]
  refine host_steady (RuntimeHost.steady_verifyEgress F true) fun failure host3 v3 h3 => ?_
  rw [wpa_bind]
  refine host_steady (steady_ask rfl) fun interruption host4 v4 h4 => ?_
  have hsettled : Settled s.host host4 := ((h1.trans h2).trans h3).trans h4
  have hs4 := (h.of_settled hsettled).of_view v4
  rw [wpa_ite]
  refine ⟨fun _ => host_coheres (steady_snapshot F) hs4, fun _ => ?_⟩
  rw [wpa_ite]
  refine ⟨fun _ => ?_, fun _ => ?_⟩
  · rw [wpa_bind, wpa_modify]
    exact host_coheres (steady_fail F _ _) hs4.doubted
  · rw [wpa_bind, wpa_modify]
    have hvalidated := hs4.of_validated (hsettled.phase.trans hrunning) true
    refine host_coheres (steady_snapshot F) ?_
    exact hvalidated.of_settled ⟨rfl, rfl, rfl, rfl, rfl, rfl, rfl⟩

/-! ## Whole runs -/

theorem coheres_run (operation : Operation) : Coheres (operation.run F) := by
  cases operation with
  | recoverOnStartup => exact .map _ (coheres_recoverOnStartup F)
  | initializeRuntime => exact .map _ (coheres_initializeRuntime F)
  | stageProfile body bound => exact .map _ (coheres_stageProfile F body bound)
  | invalidateProfile => exact .map _ (coheres_invalidateProfile F)
  | connect digest network => exact .map _ (coheres_connect F digest network)
  | connectWithIdentity target network =>
    exact .map _ (coheres_connectWithIdentity F target network)
  | promoteTransportLease target => exact .map _ (coheres_promoteTransportLease F target)
  | revokeTransportLease target => exact .map _ (coheres_revokeTransportLease F target)
  | disconnect explicitDisconnect => exact .map _ (coheres_disconnect F explicitDisconnect)
  | recheckEgress => exact .map _ (coheres_recheckEgress F)
  | replaceManagedProfile body network =>
    exact .map _ (coheres_replaceManagedProfile F body network)
  | cancelProtectedHandoff => exact .map _ (coheres_cancelProtectedHandoff F)
  | maintainWindowsLocalDpi => exact .map _ (coheres_maintainWindowsLocalDpi F)
  | maintainTelegramWS => exact .map _ (Coheres.steady (RuntimeHost.steady_maintainTelegramWS F))
  | revokeSmartAccessLease body => exact .map _ (coheres_revokeSmartAccessLease body)
  | revokeSmartAccessPolicy body => exact .map _ (coheres_revokeSmartAccessPolicy body)
  | revokeRoutingCatalog digest => exact .map _ (coheres_revokeRoutingCatalog F digest)
  | revokeRoutingCatalogService body => exact .map _ (coheres_revokeRoutingCatalogService F body)
  | renewSmartAccessLease body => exact .map _ (coheres_renewSmartAccessLease body)
  | configureSmartAccessRuntimeControl body renewal qa =>
    exact .map _ (coheres_configureSmartAccessRuntimeControl F body renewal qa)
  | readSmartAccessRestrictions =>
    exact .map _ (Coheres.steady RuntimeHost.steady_readSmartAccessRestrictions)
  | readSmartAccessLeases digest =>
    exact .map _ (Coheres.steady (RuntimeHost.steady_readSmartAccessLeases digest))
  | acknowledgeSmartAccessRestrictions digest =>
    exact .map _ (Coheres.steady (RuntimeHost.steady_acknowledgeSmartAccessRestrictions digest))
  | shutdown => exact .bind (coheres_shutdown F) fun _ => .pure _

theorem coheres_session (operations : List Operation) : Coheres (session F operations) := by
  induction operations with
  | nil => exact .pure _
  | cons operation rest ih => exact .bind (coheres_run F operation) fun _ => ih

/-- The states between the operations of a service that has started. -/
def Reachable (s : Runtime) : Prop :=
  ∃ parts backend file operations tr,
    Steps (session F operations (boot parts backend file)) tr (.ret ((), s))

theorem reachable_play (parts : HostParts) (backend : Bool) (file : Option Bytes)
    (operations : List Operation)
    (env : List (Event Machine) → (c : MachineCall) → Machine.Answer c) :
    Reachable F ((session F operations (boot parts backend file)).play env []).2.2 :=
  ⟨parts, backend, file, operations, _, steps_play (I := Machine) env _ []⟩

theorem watched_boot (parts : HostParts) (backend : Bool) (file : Option Bytes) :
    Watched (boot parts backend file) ⟨none, false, false, false⟩ := by
  unfold boot RuntimeHost.new
  split
  · constructor
    · constructor <;> simp
    all_goals simp
  · constructor
    · constructor <;> simp
    all_goals simp

end Runtime

variable {F : Functions}

theorem coherent_of_reachable {s : Runtime} (h : Runtime.Reachable F s) : Coherent s := by
  obtain ⟨parts, backend, file, operations, tr, hrun⟩ := h
  have hwp := Runtime.coheres_session F operations _ _ (Runtime.watched_boot parts backend file)
  have hend := (watching.wp_steps hwp hrun (watching.along_of_forall (fun _ _ => trivial) _ _)).2
  exact Watched.toCoherent hend

/-- What is remembered when a run begins. -/
def Watch.begin (s : Runtime) : Watch where
  view := none
  fresh := s.host.profileStaged
  recovering := s.host.phase = .recoveryRequired
  initialized := s.host.initialized

theorem Coherent.watched {s : Runtime} (h : Coherent s) : Watched s (.begin s) := by
  refine ⟨h, id, fun hr => ?_, id⟩
  exact of_decide_eq_true hr

/-! ### Reading the memory of a run back -/

theorem next_initialized (g : Watch) (e : Event Machine) :
    (watching.next g e).initialized = g.initialized := by
  obtain ⟨c, r⟩ := e
  cases c with
  | mark m => cases m <;> rfl
  | _ => rfl

theorem after_initialized (g : Watch) (tr : List (Event Machine)) :
    (watching.after g tr).initialized = g.initialized := by
  induction tr generalizing g with
  | nil => rfl
  | cons e tr ih => rw [after_cons, ih, next_initialized]

/-- The view was marked by the last event. -/
theorem view_marked {g : Watch} {e : Event Machine} {view : HostView}
    (h : (watching.next g e).view = some view) : e = ⟨.mark (.host view), ()⟩ := by
  obtain ⟨c, r⟩ := e
  cases c with
  | mark m =>
    cases m with
    | host view' =>
      cases h
      rfl
    | _ => cases h
  | _ => cases h

theorem marked_before {g : Watch} {tr : List (Event Machine)} {view : HostView}
    (hg : g.view = none) (h : (watching.after g tr).view = some view) :
    ∃ before, tr = before ++ [⟨.mark (.host view), ()⟩] := by
  induction tr using List.reverseRecOn with
  | nil =>
    rw [after_nil, hg] at h
    cases h
  | append_singleton before e =>
    rw [after_append] at h
    exact ⟨before, by rw [view_marked h]⟩

/-- A recovery stops being owed at a rollback that succeeded. -/
theorem recovering_lost {g : Watch} {e : Event Machine} (h : g.recovering = true)
    (hlost : ¬ (watching.next g e).recovering = true) : e = ⟨.mark (.rolledBack ""), ()⟩ := by
  obtain ⟨c, r⟩ := e
  cases c with
  | mark m =>
    cases m with
    | rolledBack error =>
      have herror : error = "" := by
        by_contra hne
        refine hlost ?_
        show (g.recovering && error != "") = true
        rw [h, Bool.true_and]
        exact bne_iff_ne.mpr hne
      subst herror
      rfl
    | _ => exact absurd h hlost
  | _ => exact absurd h hlost

/-- **The phases of a host.** In every state that operations can reach, the host
runs exactly when a profile is in effect, and then the journal is committed and
nothing else is staged; egress is validated only while it runs. From every such
state, an operation leaves an owed recovery only through a rollback that
succeeded (Core is not initialized in it, so it is that of a connection), and
Core is started only by a host that neither runs nor owes a recovery. -/
theorem phases_coherent {s : Runtime} (h : Runtime.Reachable F s) :
    ((s.host.phase = .running ↔ s.host.effectiveProfileDigest ≠ []) ∧
      (s.host.phase = .running → s.recovery.stage = .committed) ∧
      (s.host.coreEgressValidated = true → s.host.phase = .running) ∧
      (s.host.phase = .running → s.host.stagedProfileDigest = [] ∨
        s.host.stagedProfileDigest = s.host.effectiveProfileDigest)) ∧
    ∀ (operation : Runtime.Operation) tr p, Steps (operation.run F s) tr p →
      (∀ r s', p = .ret (r, s') → s.host.phase = .recoveryRequired →
        s'.host.phase ≠ .recoveryRequired →
        ⟨.mark (.rolledBack ""), ()⟩ ∈ tr ∧ ∀ e ∈ tr, e.call ≠ .coreInitialize) ∧
      ∀ (pre : List (Event Machine)) e post, tr = pre ++ e :: post → isStart e.call = true →
        ∃ (before : List (Event Machine)) (view : HostView), pre = before ++ [⟨.mark (.host view), ()⟩] ∧
          view.phase ≠ .running ∧ view.phase ≠ .recoveryRequired := by
  have hcoherent := coherent_of_reachable h
  refine ⟨⟨hcoherent.effective, hcoherent.committed, hcoherent.validated, hcoherent.staged⟩, ?_⟩
  intro operation tr p hrun
  have hwp := Runtime.coheres_run F operation s (.begin s) hcoherent.watched
  obtain ⟨hguar, hend⟩ := watching.wp_steps hwp hrun
    (watching.along_of_forall (fun _ _ => trivial) _ _)
  constructor
  · rintro r s' rfl howed hleft
    have hend' : Watched s' (watching.after (.begin s) tr) := hend
    have hlost : ¬ (watching.after (.begin s) tr).recovering = true :=
      fun hr => hleft (hend'.recovering hr)
    constructor
    · obtain ⟨e, he, rfl⟩ := watching.exists_of_lost (A := fun g => g.recovering = true)
        (P := (· = ⟨.mark (.rolledBack ""), ()⟩)) (fun _ _ => recovering_lost)
        (decide_eq_true howed) hlost
      exact he
    · intro e he hinitialize
      obtain ⟨pre, post, rfl⟩ := List.append_of_mem he
      have hforgot := (Along.at watching hguar).2 hinitialize
      rw [after_initialized] at hforgot
      have hready : s.host.initialized = true := hcoherent.initialized (.inr howed)
      exact absurd (hforgot.symm.trans hready) Bool.false_ne_true
  · rintro pre e post rfl hstart
    obtain ⟨-, view, hview, hidle⟩ := (Along.at watching hguar).1 hstart
    obtain ⟨before, hpre⟩ := marked_before rfl hview
    exact ⟨before, view, hpre, hidle⟩

/-- The first stop of Core fails. -/
def stopFailsOnce (seen : List (Event Machine)) : (c : MachineCall) → Machine.Answer c
  | .coreStop => if seen.any (·.call = .coreStop) then "" else "core_busy"
  | c => plainAnswer c

/-- A connection whose disconnect fails, and the disconnect after it. -/
def owingRun : List (Event Machine) × (Unit × Runtime) :=
  (Runtime.session plainFunctions (sampleOperations.take 3) (Runtime.boot plainParts true none)).play
    stopFailsOnce []

def settlingRun : List (Event Machine) × (Option RuntimeResult × Runtime) :=
  ((Runtime.Operation.disconnect false).run plainFunctions owingRun.2.2).play
    (fun _ => plainAnswer) []

theorem steps_settlingRun :
    Steps ((Runtime.Operation.disconnect false).run plainFunctions owingRun.2.2) settlingRun.1
      (.ret (settlingRun.2.1, settlingRun.2.2)) := by
  rw [settlingRun]
  exact steps_play_pair (I := Machine) _ _

theorem owingRun_settles :
    owingRun.2.2.host.phase = .recoveryRequired ∧ settlingRun.2.2.host.phase = .configStaged ∧
      ⟨.mark (.rolledBack ""), ()⟩ ∈ settlingRun.1 := by
  have hreach : Runtime.Reachable plainFunctions owingRun.2.2 := by
    rw [owingRun]
    exact Runtime.reachable_play _ _ _ _ _ _
  have howed : owingRun.2.2.host.phase = .recoveryRequired := by decide +kernel
  have hsettled : settlingRun.2.2.host.phase = .configStaged := by decide +kernel
  have hleft : settlingRun.2.2.host.phase ≠ .recoveryRequired := by
    rw [hsettled]
    decide
  obtain ⟨hleave, -⟩ := (phases_coherent hreach).2 _ _ _ steps_settlingRun
  exact ⟨howed, hsettled, (hleave _ _ rfl howed hleft).1⟩

end Pokrov.Windows.Service
