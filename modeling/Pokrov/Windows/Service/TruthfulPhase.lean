import Pokrov.Windows.Service.StagedPhase

/-!
# Operations that tell the truth about the profile

Every operation but the attempts to connect and the protected stops of the
catalog leaves a truthful host truthful. Over a whole run the staged phase lies
only after one of those two.
-/

namespace Pokrov.Windows.Service

open Codec Effects Contract
open RuntimeHost (steady_fail steady_snapshot steady_executorStop steady_cleanupBundledRuleSets)

/-- A truthful host stays truthful. -/
def Tell (a b : RuntimeHost) : Prop := a.Truthful → b.Truthful

instance : IsPreorder RuntimeHost Tell where
  refl _ := id
  trans _ _ _ h h' := fun ha => h' (h ha)

/-- Whatever the program calls, it leaves a truthful host truthful. -/
abbrev HostTells {α : Type} (m : HostAct α) : Prop := Moves (I := Quiet) (fun _ => True) Tell m

theorem Steady.tells {α : Type} {m : HostAct α} (hm : Steady m) : HostTells m :=
  hm.mono (fun _ _ => trivial) fun _ _ h htrue => htrue.of_settled h

theorem tells_ask {c : MachineCall} {hc : quiet c = true} : HostTells (ask c hc) :=
  Moves.perform (I := Quiet) (c := ⟨c, hc⟩) trivial

/-- The program leaves a truthful host truthful. -/
abbrev Tells {α : Type} (m : RuntimeAct α) : Prop := stopping.Keeps (fun s _ => s.host.Truthful) m

namespace Tells

variable {α : Type}

theorem getHost : Tells Runtime.getHost := fun _ _ h => h

theorem host {m : HostAct α} (hm : HostTells m) : Tells (onHost m) :=
  fun _ _ h => stop_onHost (stop_moves hm fun _ _ _ htell => htell h)

theorem steady {m : HostAct α} (hm : Steady m) : Tells (onHost m) := host hm.tells

theorem modifyHost {f : RuntimeHost → RuntimeHost} (hf : ∀ host, Tell host (f host)) :
    Tells (Runtime.modifyHost f) :=
  fun s _ h => hf s.host h

end Tells

theorem RuntimeHost.Truthful.of_running {host : RuntimeHost} (h : host.phase = .running) :
    host.Truthful :=
  .of_phase (by simp [h])

theorem running_of_runs {host : RuntimeHost} {profileDigest : Bytes}
    (h : host.runs profileDigest = true) : host.phase = .running := by
  simp only [RuntimeHost.runs, Bool.and_eq_true, decide_eq_true_eq] at h
  exact h.1.2

/-- What is done to the running profile alone, in whatever order. -/
theorem tells_running {α : Type} {profileDigest : Bytes} {r : α} {m : RuntimeHost → HostAct α}
    (hm : ∀ host, KeepsPhase (m host)) : HostTells (do
      let host ← get
      if ¬ host.runs profileDigest then return r
      m host) := by
  intro host
  rw [wpa_bind, wpa_get, wpa_ite]
  refine ⟨fun _ => id, fun hruns => ?_⟩
  have hrunning : host.phase = .running := running_of_runs (not_not.mp hruns)
  refine wpa_mono (hm host host) fun _ host' _ hphase _ => ?_
  exact .of_running (Eq.trans hphase hrunning)

/-- The trace shows a protected stop that succeeded with the profile staged, and
that no child forced by staying. -/
structure Taken (g : Stop) : Prop where
  rolledBack : g.rolledBack = true
  failed : g.failed = false
  guarded : g.guarded = true
  unwithdrawn : g.unwithdrawn = false

namespace Runtime

variable (F : Functions)

variable (status : Status) (profileDigest : Bytes) (body : Bytes)

theorem tells_fail (failure : String) : Tells (fail F status failure) :=
  .steady (steady_fail F status failure)

theorem tells_snapshot : Tells (snapshot F) := .steady (steady_snapshot F)

/-! ## Initialize and stage -/

theorem tells_initializeRuntime : Tells (initializeRuntime F) := by
  refine .bind Tells.getHost fun host => .ite (tells_snapshot F) (.ite (tells_fail F _ _) ?_)
  refine .bind (Tells.host tells_ask) fun prepared => .ite (tells_fail F _ _) ?_
  refine .bind (Tells.modifyHost fun _ h => h) fun _ => .bind (Tells.host tells_ask) fun error => ?_
  refine .ite (tells_fail F _ _) ?_
  intro s g _
  rw [wpa_bind]
  refine stop_modifyHost ?_
  refine wpa_seq stop_recoverPendingRuntime ?_
  rintro recoveryError s1 g1 ⟨hrewrites, -⟩
  have hphase : s1.host.phase = .initialized := hrewrites.shaken.phase
  have htrue : s1.host.Truthful := .of_phase (by simp [hphase])
  refine Keeps.ite (.bind ?_ fun _ => tells_fail F _ _)
    (.bind (Tells.host ?_) fun _ => tells_snapshot F)
    s1 g1 htrue
  · exact Tells.modifyHost fun host _ => .of_phase (by simp)
  refine .bind (.modify fun _ h => h) fun _ => .bind .get fun host => .bind ?_ fun _ => ?_
  · exact .ite (.pure _) (.bind tells_ask fun _ => .ite (.pure _) tells_ask)
  refine .bind ?_ fun _ => .modify fun _ h => h
  exact .ite (.pure _) (.bind tells_ask fun _ => .pure _)

theorem tells_recoverOnStartup : Tells (recoverOnStartup F) :=
  .bind .get fun _ => .ite (tells_snapshot F) (tells_initializeRuntime F)

theorem tells_stageInitialized (requiresBoundConnect : Bool) :
    HostTells (stageInitialized F body requiresBoundConnect) := by
  have hfail : ∀ status failure, HostTells (RuntimeHost.fail F status failure) :=
    fun status failure => (steady_fail F status failure).tells
  have hcleanup : ∀ slot, HostTells (RuntimeHost.cleanupBundledRuleSets slot) :=
    fun slot => (steady_cleanupBundledRuleSets slot).tells
  refine .bind .get fun host => .ite (hfail _ _) (.ite (hfail _ _) ?_)
  split
  · exact hfail _ _
  refine .ite (hfail _ _) (.bind (.ite (.pure _) tells_ask) fun paths => ?_)
  split
  · exact hfail _ _
  refine .bind (RuntimeHost.steady_secureFiles _).tells fun secured => ?_
  refine .ite (.bind (hcleanup _) fun _ => hfail _ _) ?_
  split
  · exact .bind (hcleanup _) fun _ => hfail _ _
  refine .bind (RuntimeHost.steady_writeProfileAtomically _).tells fun error => ?_
  refine .ite (.bind (hcleanup _) fun _ => hfail _ _) (.bind (.onlyIf (hcleanup _)) fun _ => ?_)
  refine .bind (.modify fun _ _ _ => rfl) fun _ => .bind tells_ask fun _ => ?_
  exact (steady_snapshot F).tells

theorem tells_stageProfile (requiresBoundConnect : Bool) :
    Tells (stageProfile F body requiresBoundConnect) := by
  refine .bind Tells.getHost fun host => .ite ?_ (Tells.host (tells_stageInitialized F _ _))
  refine .bind (tells_initializeRuntime F) fun initialized => .ite (.pure _) ?_
  exact Tells.host (tells_stageInitialized F _ _)

theorem tells_invalidateProfile : HostTells (RuntimeHost.invalidateProfile F) := by
  refine .bind .get fun host => .ite (steady_fail F _ _).tells ?_
  refine .ite (steady_fail F _ _).tells ?_
  refine .bind steady_executorStop.tells fun stopped => ?_
  refine .ite (steady_fail F _ _).tells (.bind (.onlyIf tells_ask) fun _ => ?_)
  refine .bind (steady_cleanupBundledRuleSets _).tells fun _ => ?_
  refine .bind (.modify fun host _ => .of_phase ?_) fun _ => (steady_snapshot F).tells
  dsimp only
  split <;> decide

/-! ## Leases and egress -/

theorem tells_promoteTransportLease (target : TransportLeasePromotion) :
    HostTells (RuntimeHost.promoteTransportLease F target) := by
  refine .bind .get fun host => .ite (.pure _) (.bind tells_ask fun confirmed => .ite (.pure _) ?_)
  exact .bind (.modify fun _ h => h) fun _ => (steady_snapshot F).tells

theorem tells_revokeTransportLease (target : TransportLeaseRevocation) :
    HostTells (RuntimeHost.revokeTransportLease F target) := by
  refine .bind .get fun host => .ite (.pure _) (.bind (.modify fun _ h => h) fun _ => ?_)
  refine .bind tells_ask fun revoked => .ite (.pure _) (steady_snapshot F).tells

theorem tells_recheckEgress : HostTells (RuntimeHost.recheckEgress F) := by
  have hsnapshot : HostTells (RuntimeHost.snapshot F) := (steady_snapshot F).tells
  refine .bind RuntimeHost.steady_canRecheckEgress.tells fun allowed => .ite hsnapshot ?_
  refine .bind tells_ask fun pending => .ite hsnapshot ?_
  refine .bind (RuntimeHost.steady_verifyEgress F true).tells fun failure => ?_
  refine .bind tells_ask fun interruption => .ite hsnapshot (.ite ?_ ?_)
  · exact .bind (.modify fun _ h => h) fun _ => (steady_fail F _ _).tells
  · exact .bind (.modify fun _ h => h) fun _ => hsnapshot

/-! ## Revocations of a running profile -/

theorem keepsPhase_unstage (host : RuntimeHost) : SamePhase host (host.unstage profileDigest) := by
  unfold RuntimeHost.unstage
  split
  · rfl
  · rfl

theorem keepsPhase_revoke (control : CoreControl) (profileDigest : Bytes)
    (unavailable revoked kept : String) :
    KeepsPhase (RuntimeHost.revoke control profileDigest unavailable revoked kept) := by
  refine .bind keepsPhase_ask fun result => .ite (.pure _) (.bind (.onlyIf ?_) fun _ => .pure _)
  exact .modify (keepsPhase_unstage profileDigest)

theorem tells_revokeSmartAccessLease : HostTells (RuntimeHost.revokeSmartAccessLease body) := by
  unfold RuntimeHost.revokeSmartAccessLease
  cases decodeSmartAccessRevocation body with
  | none => exact .pure _
  | some target => exact tells_running fun _ => keepsPhase_revoke _ _ _ _ _

theorem tells_revokeSmartAccessPolicy : HostTells (RuntimeHost.revokeSmartAccessPolicy body) :=
  .ite (.pure _) (tells_running fun _ => keepsPhase_revoke _ _ _ _ _)

theorem tells_renewSmartAccessLease : HostTells (RuntimeHost.renewSmartAccessLease body) := by
  unfold RuntimeHost.renewSmartAccessLease
  cases decodeSmartAccessRenewal body with
  | none => exact .pure _
  | some target =>
    refine tells_running fun _ => .bind keepsPhase_ask fun version => .ite (.pure _) ?_
    refine .bind (.modify (keepsPhase_unstage _)) fun _ => ?_
    exact .bind keepsPhase_ask fun result => .ite (.pure _) (.pure _)

theorem tells_configureSmartAccessRuntimeControl (renewal qa : Bool) :
    HostTells (RuntimeHost.configureSmartAccessRuntimeControl F body renewal qa) := by
  refine .ite (.pure _) (tells_running fun _ => .bind keepsPhase_ask fun version => ?_)
  refine .ite (.pure _) (.ite (.pure _) (.ite (.pure _) ?_))
  refine .bind (.modify (keepsPhase_unstage _)) fun _ => .bind keepsPhase_ask fun result => ?_
  refine .ite (.pure _) (.ite ?_ (.pure _))
  exact (RuntimeHost.steady_admitFirstProvider F _).keepsPhase

/-! ## Disconnecting -/

theorem tells_explicitOff (explicitDisconnect : Bool) : HostTells (explicitOff explicitDisconnect) :=
  .bind .get fun _ => .ite (.pure _) (.bind tells_ask fun _ => .pure _)

theorem tells_rollBackConnection : Tells (rollBackConnection F) :=
  fun _ _ _ => wpa_mono (stop_rollBackConnection F) fun _ _ _ h => h.truthful

theorem tells_disconnect (explicitDisconnect : Bool) : Tells (disconnect F explicitDisconnect) := by
  have hlift : Tells (do
      if ¬ (← onHost (explicitOff explicitDisconnect)) then
        return ← fail F .notReady "transition_guard_failed"
      snapshot F) :=
    .bind (Tells.host (tells_explicitOff _)) fun lifted => .ite (tells_fail F _ _) (tells_snapshot F)
  refine .bind Tells.getHost fun host => .ite hlift ?_
  refine .bind (tells_rollBackConnection F) fun error => .ite (tells_fail F _ _) ?_
  exact .bind (Tells.modifyHost fun _ h => h) fun _ => hlift

theorem tells_shutdown : Tells (shutdown F) := by
  refine .bind (Tells.steady (RuntimeHost.steady_withdrawTelegramWS [])) fun _ => ?_
  refine .bind (Tells.steady steady_executorStop) fun _ => .bind Tells.getHost fun host => ?_
  exact .ite (.bind (tells_rollBackConnection F) fun _ => .pure _) (.pure _)

theorem tells_cancelProtectedHandoff : Tells (cancelProtectedHandoff F) := by
  refine .bind Tells.getHost fun host => .ite (tells_fail F _ _) ?_
  exact .bind (Tells.host tells_ask) fun error => .ite (tells_fail F _ _) (tells_disconnect F false)

/-! ## The protected stops -/

variable {s : Runtime} {g : Stop} {host : RuntimeHost}

/-- If the stop stages a profile again, then it was staged, and the trace shows
the stop. -/
theorem stop_cancelProtectedHandoff (hrunning : s.host.phase = .running)
    (hfailed : g.failed = false) (hwithdrawn : g.unwithdrawn = false) :
    stopping.wpa (cancelProtectedHandoff F) (fun _ s' g' => s'.host.phase = .configStaged →
      s.host.profileStaged = true ∧ Taken g') s g := by
  have hsettled : ∀ {m : HostAct RuntimeResult} {g0 : Stop}, Steady m →
      stopping.wpa (onHost m) (fun _ s' g' => s'.host.phase = .configStaged →
        s.host.profileStaged = true ∧ Taken g') s g0 := by
    intro m g0 hm
    refine stop_onHost (stop_moves hm fun _ host g' hhost hphase => ?_)
    rw [hhost.phase, hrunning] at hphase
    cases hphase
  unfold cancelProtectedHandoff
  rw [wpa_withHost, wpa_ite]
  refine ⟨fun _ => hsettled (steady_fail F _ _), fun _ => ?_⟩
  rw [wpa_bind]
  refine stop_call fun error => ?_
  rw [next_guardStart, wpa_ite]
  refine ⟨fun _ => hsettled (steady_fail F _ _), fun _ => ?_⟩
  unfold disconnect
  rw [wpa_withHost, wpa_ite]
  refine ⟨fun _ => ?_, fun _ => ?_⟩
  · -- Core was not initialized, and the guard stays
    exact hsettled (m := RuntimeHost.snapshot F) (steady_snapshot F)
  refine wpa_seq (stop_rollBackConnection F) fun error s1 g1 h1 => ?_
  have htaken : ∀ {host : RuntimeHost}, host.phase = s1.host.phase →
      host.phase = .configStaged → s.host.profileStaged = true ∧ Taken g1 := by
    intro host hsame hphase
    obtain ⟨hstaged, hdone, hkept⟩ := h1.kept (hsame.symm.trans hphase)
    obtain ⟨hguarded, hunwithdrawn⟩ := h1.guarded rfl
    exact ⟨hstaged, hdone, hkept.trans hfailed, hguarded, hunwithdrawn.trans hwithdrawn⟩
  rw [wpa_ite]
  refine ⟨fun _ => stop_onHost (stop_calm (RuntimeHost.observing_fail F _ _).calm ?_), fun _ => ?_⟩
  · exact fun _ host hhost => htaken hhost.phase
  rw [wpa_bind]
  refine stop_modifyHost ?_
  refine stop_onHost (m := RuntimeHost.snapshot F)
    (stop_calm (RuntimeHost.observing_snapshot F).calm ?_)
  exact fun _ host hhost => htaken hhost.phase

/-- A profile that is taken back after the stop makes the phase lie exactly when
the stop has staged it again. -/
theorem stop_stopAndUnstage {result : RuntimeAct RuntimeResult} (hrunning : s.host.phase = .running)
    (hfailed : g.failed = false) (hwithdrawn : g.unwithdrawn = false)
    (hresult : ∀ s' g', stopping.wpa result (fun _ s'' g'' => s''.host.phase = s'.host.phase ∧ g'' = g') s' g') :
    stopping.wpa (stopAndUnstage F result) (fun _ s' g' =>
      s'.host.Truthful ∨ s.host.profileStaged = true ∧ Taken g') s g := by
  unfold stopAndUnstage
  refine wpa_seq (stop_cancelProtectedHandoff F hrunning hfailed hwithdrawn) fun stopped s1 g1 h1 => ?_
  have hreport : ∀ {s' : Runtime}, s'.host.phase = s1.host.phase →
      s'.host.Truthful ∨ s.host.profileStaged = true ∧ Taken g1 := by
    intro s' hphase
    by_cases hlies : s1.host.phase = .configStaged
    · exact .inr (h1 hlies)
    · exact .inl (.of_phase (hphase.trans_ne hlies))
  rw [wpa_ite]
  refine ⟨fun _ => hreport rfl, fun _ => ?_⟩
  rw [wpa_bind]
  refine stop_modifyHost ?_
  refine wpa_mono (hresult _ g1) ?_
  rintro _ s2 g2 ⟨hphase, rfl⟩
  exact hreport hphase

theorem inPlace_fail (failure : String) (s : Runtime) (g : Stop) :
    stopping.wpa (fail F status failure)
      (fun _ s' g' => s'.host.phase = s.host.phase ∧ g' = g) s g :=
  stop_onHost (stop_calm (RuntimeHost.observing_fail F status failure).calm fun _ _ hhost =>
    ⟨hhost.phase, rfl⟩)

theorem inPlace_answer (value : String) (s : Runtime) (g : Stop) :
    stopping.wpa (pure (RuntimeHost.answer status value) : RuntimeAct RuntimeResult)
      (fun _ s' g' => s'.host.phase = s.host.phase ∧ g' = g) s g :=
  ⟨rfl, rfl⟩

/-- The phase tells the truth, or the trace shows a stop that took the profile
back. -/
abbrev TakenOrTrue (s : Runtime) : RuntimeResult → Runtime → Stop → Prop :=
  fun _ s' g' => s'.host.Truthful ∨ s.host.profileStaged = true ∧ Taken g'

theorem stop_tells {m : RuntimeAct RuntimeResult} (hm : Tells m) {s s1 : Runtime}
    (h : s1.host.Truthful) : stopping.wpa m (TakenOrTrue s) s1 g :=
  wpa_mono (hm s1 g h) fun _ _ _ h' => .inl h'

/-- The profile is revoked under a connection that goes on. -/
theorem stop_revoke {control : CoreControl} {profileDigest : Bytes}
    {unavailable revoked kept : String} {s s1 : Runtime} (hrunning : s1.host.phase = .running) :
    stopping.wpa (onHost (RuntimeHost.revoke control profileDigest unavailable revoked kept))
      (TakenOrTrue s) s1 g :=
  stop_onHost (stop_moves (keepsPhase_revoke _ _ _ _ _) fun _ _ _ hphase =>
    .inl (.of_running (Eq.trans hphase hrunning)))

theorem stop_revokeRoutingCatalog (h : s.host.Truthful) :
    stopping.wpa (revokeRoutingCatalog F profileDigest) (TakenOrTrue s) s {} := by
  unfold revokeRoutingCatalog
  rw [wpa_ite]
  refine ⟨fun _ => .inl h, fun _ => ?_⟩
  rw [wpa_withHost, wpa_ite]
  refine ⟨fun _ => .inl h, fun hruns => ?_⟩
  have hrunning := running_of_runs (not_not.mp hruns)
  rw [wpa_bind]
  refine stop_onHost (stop_calm (RuntimeHost.calm_withdrawTelegramWS []) fun withdrawn host1 h1 => ?_)
  have htrue1 : host1.Truthful := h.of_settled h1
  rw [wpa_ite]
  refine ⟨fun _ => stop_tells (tells_fail F _ _) htrue1, fun _ => ?_⟩
  rw [wpa_ite]
  refine ⟨fun _ => ?_, fun _ => ?_⟩
  · have htaken := stop_stopAndUnstage F (s := { s with host := host1 }) (g := {})
      (h1.phase.trans hrunning) rfl rfl (inPlace_answer .ok "catalog_revoked=1")
    simpa only [h1.profileStaged] using htaken
  rw [wpa_bind]
  refine stop_onHost (stop_moves steady_executorStop fun stopped host2 g2 h2 => ?_)
  have hrunning2 : host2.phase = .running := h2.phase.trans (h1.phase.trans hrunning)
  rw [wpa_ite]
  refine ⟨fun _ => stop_tells (tells_fail F _ _) (.of_running hrunning2), fun _ => ?_⟩
  exact stop_revoke hrunning2

theorem stop_revokeRoutingCatalogService (h : s.host.Truthful) :
    stopping.wpa (revokeRoutingCatalogService F body) (TakenOrTrue s) s {} := by
  unfold revokeRoutingCatalogService
  rw [wpa_ite]
  refine ⟨fun _ => .inl h, fun _ => ?_⟩
  rw [wpa_withHost, wpa_ite]
  refine ⟨fun _ => .inl h, fun hruns => ?_⟩
  have hrunning := running_of_runs (not_not.mp hruns)
  rw [wpa_bind]
  refine stop_onHost (stop_calm (Moves.ite (RuntimeHost.calm_withdrawTelegramWS _) (.pure _)) ?_)
  intro withdrawn host1 h1
  have htrue1 : host1.Truthful := h.of_settled h1
  rw [wpa_ite]
  refine ⟨fun _ => stop_tells (tells_fail F _ _) htrue1, fun _ => ?_⟩
  rw [wpa_ite]
  refine ⟨fun _ => ?_, fun _ => ?_⟩
  · have htaken := stop_stopAndUnstage F (s := { s with host := host1 }) (g := {})
      (h1.phase.trans hrunning) rfl rfl (inPlace_answer .ok "catalog_revoked=1")
    simpa only [h1.profileStaged] using htaken
  rw [wpa_bind]
  refine stop_onHost (stop_moves (Moves.ite steady_executorStop (.pure _)) ?_)
  intro stopped host2 g2 h2
  have hrunning2 : host2.phase = .running := h2.phase.trans (h1.phase.trans hrunning)
  rw [wpa_ite]
  refine ⟨fun _ => stop_tells (tells_fail F _ _) (.of_running hrunning2), fun _ => ?_⟩
  exact stop_revoke hrunning2

/-! ## Maintenance of local DPI -/

theorem tells_stopUnwithdrawn : Tells (stopUnwithdrawn F) :=
  .bind (tells_cancelProtectedHandoff F) fun _ => .ite (.pure _) (tells_fail F _ _)

/-- A child that is withdrawn shows nothing. -/
theorem stop_withdrawn : hostStopping.wpa RuntimeHost.executorStop (fun stopped host' g' =>
      Settled host host' ∧ (stopped = true → g' = g)) host g := by
  unfold RuntimeHost.executorStop
  rw [wpa_bind, wpa_get, wpa_ite]
  refine ⟨fun _ stopped _ => ⟨trivial, .refl host, fun h => ?_⟩, fun _ => ⟨.refl host, fun _ => rfl⟩⟩
  show stopping.next g ⟨.executorStop, stopped⟩ = g
  subst h
  simp

theorem stop_withdrawLostChild : hostStopping.wpa withdrawLostChild (fun withdrawn host' g' =>
      Settled host host' ∧ (withdrawn = true → g' = g)) host g := by
  unfold withdrawLostChild
  rw [wpa_bind, wpa_get, wpa_ite]
  refine ⟨fun _ => ⟨.refl host, fun _ => rfl⟩, fun _ => ?_⟩
  rw [wpa_bind]
  refine stop_calm ?_ fun lost host1 h1 => ?_
  · refine .bind (RuntimeHost.calm_interrupted .owner) fun _ => .ite (.pure _) ?_
    exact .bind (calm_ask rfl) fun _ => .pure _
  rw [wpa_ite]
  refine ⟨fun _ => ⟨h1, fun _ => rfl⟩, fun _ => ?_⟩
  refine wpa_seq stop_withdrawn ?_
  rintro stopped host2 g2 ⟨h2, hkept⟩
  rw [wpa_ite]
  refine ⟨fun _ => ⟨h1.trans h2, fun h => absurd h Bool.false_ne_true⟩, fun hstopped => ?_⟩
  rw [wpa_bind, wpa_modify]
  refine ⟨(h1.trans h2).trans ⟨rfl, rfl, rfl, rfl, rfl, rfl, rfl⟩, fun _ => ?_⟩
  exact hkept (not_not.mp hstopped)

theorem stop_retryStrategy (preparation : WindowsLocalDpiPreparation) (network : Bytes)
    (strategy : WindowsLocalDpiStrategy) :
    hostStopping.wpa (retryStrategy F preparation network strategy) (fun withdrawn host' g' =>
      Settled host host' ∧ (withdrawn = true → g' = g)) host g := by
  have howner := calm_maintainedOwnerCurrent preparation
  unfold retryStrategy
  rw [wpa_bind]
  refine stop_calm (RuntimeHost.observing_readLocalDpiRuntimeObservation F).calm fun _ host1 h1 => ?_
  rw [wpa_bind, wpa_modify, wpa_bind, wpa_get]
  have h2 : Settled host { host1 with localDpiDisabled := true } :=
    h1.trans ⟨rfl, rfl, rfl, rfl, rfl, rfl, rfl⟩
  generalize { host1 with localDpiDisabled := true } = host2 at h2 ⊢
  dsimp only
  rw [wpa_bind]
  refine stop_calm (calm_ask rfl) fun startFailure host3 h3 => ?_
  rw [wpa_bind]
  refine stop_calm calm_captureServices fun _ host4 h4 => ?_
  rw [wpa_bind]
  refine stop_calm ?_ fun admitted host5 h5 => ?_
  · refine .ite (.pure _) (.bind ?_ fun standalone => .bind .get fun host => ?_)
    · exact .bind .get fun host => .ite (.pure _) (.bind (calm_ask rfl) fun _ => .pure _)
    · exact .bind (RuntimeHost.calm_proveAndAdmitWindowsLocalDpi howner _) fun _ => .pure _
  rw [wpa_bind]
  refine stop_calm (.ite (.pure _) (RuntimeHost.calm_current howner)) fun current host6 h6 => ?_
  have hhost : Settled host host6 := (((h2.trans h3).trans h4).trans h5).trans h6
  rw [wpa_ite]
  refine ⟨fun _ => ?_, fun _ => ?_⟩
  · rw [wpa_bind, wpa_modify]
    exact ⟨hhost.trans ⟨rfl, rfl, rfl, rfl, rfl, rfl, rfl⟩, fun _ => rfl⟩
  · exact wpa_mono stop_withdrawn fun _ _ _ h => ⟨hhost.trans h.1, h.2⟩

theorem stop_maintainWindowsLocalDpi (h : s.host.Truthful) :
    stopping.wpa (maintainWindowsLocalDpi F) (TakenOrTrue s) s {} := by
  unfold maintainWindowsLocalDpi
  rw [wpa_withHost]
  split
  · exact stop_tells (tells_snapshot F) h
  rename_i preparation _
  rw [wpa_ite]
  refine ⟨fun _ => stop_tells (tells_snapshot F) h, fun hphase => ?_⟩
  have hrunning : s.host.phase = .running := not_not.mp hphase
  -- a stop from here takes the profile of the beginning back
  have htakes : ∀ {host : RuntimeHost} {failure : String}, Settled s.host host →
      stopping.wpa (stopAndUnstage F (fail F .notReady failure)) (TakenOrTrue s)
        { s with host } {} := by
    intro host failure hhost
    have htaken := stop_stopAndUnstage F (s := { s with host }) (g := {})
      (hhost.phase.trans hrunning) rfl rfl (inPlace_fail F .notReady failure)
    simpa only [hhost.profileStaged] using htaken
  rw [wpa_bind]
  refine stop_onHost (stop_calm (calm_preparationLost preparation) fun lost host1 h1 => ?_)
  cases lost with
  | some failure => exact htakes h1
  | none =>
  dsimp only
  rw [wpa_bind]
  refine stop_onHost (wpa_mono stop_withdrawLostChild ?_)
  rintro withdrawn host2 g2 ⟨h2, hkept2⟩
  have hhost2 : Settled s.host host2 := h1.trans h2
  rw [wpa_ite]
  refine ⟨fun _ => stop_tells (tells_stopUnwithdrawn F) (h.of_settled hhost2), fun hyes => ?_⟩
  obtain rfl := hkept2 (not_not.mp hyes)
  rw [wpa_bind]
  refine stop_onHost (stop_calm (calm_retryCandidate F preparation) fun candidate host3 h3 => ?_)
  have hhost3 : Settled s.host host3 := hhost2.trans h3
  split
  · exact stop_tells (tells_snapshot F) (h.of_settled hhost3)
  rw [wpa_bind]
  refine stop_onHost (wpa_mono (stop_retryStrategy F preparation _ _) ?_)
  rintro retried host4 g4 ⟨h4, hkept4⟩
  have hhost4 : Settled s.host host4 := hhost3.trans h4
  rw [wpa_ite]
  refine ⟨fun _ => stop_tells (tells_stopUnwithdrawn F) (h.of_settled hhost4), fun hyes => ?_⟩
  obtain rfl := hkept4 (not_not.mp hyes)
  rw [wpa_bind]
  refine stop_onHost (stop_calm (calm_preparationLostAfterRetry preparation) fun lost host5 h5 => ?_)
  cases lost with
  | some failure => exact htakes (hhost4.trans h5)
  | none => exact stop_tells (tells_snapshot F) (h.of_settled (hhost4.trans h5))

/-! ## Attempts within an operation -/

/-- An attempt to connect is rolled back with success although the staged
profile could not be written back. -/
def Unwritten (tr : List (Event Machine)) : Prop :=
  ∃ op s pre attempt post x, tr = pre ++ attempt ++ post ∧
    Steps (connectImpl F op s) attempt (.ret x) ∧
    (Stop.of attempt).rolledBack = true ∧ (Stop.of attempt).failed = true

variable {F}

theorem Unwritten.append {tr : List (Event Machine)} (h : Unwritten F tr)
    (tr' : List (Event Machine)) : Unwritten F (tr ++ tr') := by
  obtain ⟨op, s, pre, attempt, post, x, rfl, hrest⟩ := h
  exact ⟨op, s, pre, attempt, post ++ tr', x, by simp, hrest⟩

/-- A truthful host stays truthful, or the trace shows a profile that was lost in
the rollback of an attempt. -/
abbrev Reports (F : Functions) {α : Type} (m : RuntimeAct α) : Prop :=
  (recording Machine).Keeps (fun s g => s.host.Truthful ∨ Unwritten F g) m

theorem reports_connectImpl (op : ConnectOperation) : Reports F (connectImpl F op) := by
  rintro s g (htrue | hlost)
  · refine wpa_recording.mpr fun tr r s' hrun => ?_
    rcases ends_of_stopping (g := {}) (stop_connectImpl F op htrue) hrun with h | ⟨hdone, hfailed⟩
    · exact .inl h
    · exact .inr ⟨op, s, g, tr, [], (r, s'), by simp, hrun, hdone, hfailed⟩
  · exact wpa_recording.mpr fun tr a s' _ => .inr (hlost.append tr)

theorem Reports.of_tells {α : Type} {m : RuntimeAct α} (hm : Tells m) : Reports F m := by
  rintro s g (htrue | hlost)
  · exact wpa_recording.mpr fun tr a s' hrun => .inl (ends_of_stopping (hm s {} htrue) hrun)
  · exact wpa_recording.mpr fun tr a s' _ => .inr (hlost.append tr)

theorem reports_connect (expectedProfileDigest : Bytes) (network : Option CandidateNetworkContext) :
    Reports F (connect F expectedProfileDigest network) :=
  .bind (Reports.of_tells Tells.getHost) fun _ =>
    .ite (Reports.of_tells (tells_fail F _ _)) (reports_connectImpl _)

theorem reports_connectWithIdentity (target : BoundConnectTarget)
    (network : Option CandidateNetworkContext) :
    Reports F (connectWithIdentity F target network) := by
  refine .ite (Reports.of_tells (.pure _)) (.bind (Reports.of_tells Tells.getHost) fun host => ?_)
  exact .ite (Reports.of_tells (.pure _)) (reports_connectImpl _)

theorem reports_replaceManagedProfile (body : Bytes) (network : Option CandidateNetworkContext) :
    Reports F (replaceManagedProfile F body network) := by
  have hfail : ∀ failure, Reports F (fail F .notReady failure) :=
    fun failure => Reports.of_tells (tells_fail F _ _)
  have hreturn : ∀ r : RuntimeResult, Reports F (pure r : RuntimeAct RuntimeResult) :=
    fun r => Reports.of_tells (.pure r)
  have hinterrupted : Reports F (onHost (RuntimeHost.interrupted .owner)) :=
    Reports.of_tells (Tells.steady (RuntimeHost.steady_interrupted .owner))
  refine .bind (Reports.of_tells Tells.getHost) fun host => .ite (hfail _) (.bind (Reports.of_tells ?_) ?_)
  · exact Tells.host (.ite (.pure _) tells_ask)
  refine fun covered => .ite (hfail _)
    (.bind (Reports.of_tells (Tells.host tells_ask)) fun error => ?_)
  refine .ite (hfail _) (.bind (Reports.of_tells (tells_disconnect F false)) fun stopped => ?_)
  refine .ite (hreturn _) (.bind hinterrupted fun cancelled => .ite (hfail _) ?_)
  refine .bind (Reports.of_tells (tells_stageProfile F body false)) fun staged => .ite (hreturn _) ?_
  refine .bind (reports_connectImpl _) fun connected => .ite (hreturn _) ?_
  refine .bind (Reports.of_tells Tells.getHost) fun host => .ite (hfail _) ?_
  refine .bind hinterrupted fun interrupted => .ite ?_ (.bind (Reports.of_tells (Tells.host ?_)) ?_)
  · refine .bind (Reports.of_tells (tells_disconnect F false)) fun cancelled => ?_
    exact .ite (hreturn _) (hfail _)
  · exact .bind (.bind .get fun _ => tells_ask) fun _ => tells_ask
  refine fun error => .ite (.bind (Reports.of_tells ?_) fun _ => hfail _)
    (Reports.of_tells (tells_snapshot F))
  exact Tells.modifyHost fun _ h => h

/-! ## Whole runs -/

/-- The operations that take a profile back after a protected stop. -/
def Operation.takesBack : Operation → Bool
  | .revokeRoutingCatalog _ => true
  | .revokeRoutingCatalogService _ => true
  | .maintainWindowsLocalDpi => true
  | _ => false

/-- An operation takes the staged profile back after a protected stop that has
staged it again. -/
structure Overtaken (operation : Operation) (s : Runtime) (tr : List (Event Machine)) : Prop where
  takesBack : operation.takesBack = true
  staged : s.host.profileStaged = true
  taken : Taken (Stop.of tr)

/-- An operation leaves a truthful host truthful, with two exceptions. -/
theorem truthful_step {operation : Operation} {s s' : Runtime} {tr : List (Event Machine)}
    {r : Option RuntimeResult} (hrun : Steps (operation.run F s) tr (.ret (r, s')))
    (h : s.host.Truthful) :
    s'.host.Truthful ∨ Unwritten F tr ∨ Overtaken operation s tr := by
  have htold : ∀ {m : RuntimeAct (Option RuntimeResult)}, Tells m →
      Steps (m s) tr (.ret (r, s')) → s'.host.Truthful ∨ Unwritten F tr ∨ Overtaken operation s tr :=
    fun hm hrun => .inl (ends_of_stopping (hm s {} h) hrun)
  have hreported : ∀ {m : RuntimeAct RuntimeResult}, Reports F m →
      Steps ((some <$> m : RuntimeAct _) s) tr (.ret (r, s')) →
      s'.host.Truthful ∨ Unwritten F tr ∨ Overtaken operation s tr := by
    intro m hm hrun
    have hmap : Reports F (some <$> m) := Keeps.bind hm fun a => Reports.of_tells (.pure (some a))
    exact (wpa_recording.mp (hmap s [] (.inl h)) _ _ _ hrun).imp id .inl
  have htaken : ∀ {m : RuntimeAct RuntimeResult}, operation.takesBack = true →
      stopping.wpa m (TakenOrTrue s) s {} → Steps ((some <$> m : RuntimeAct _) s) tr (.ret (r, s')) →
      s'.host.Truthful ∨ Unwritten F tr ∨ Overtaken operation s tr := by
    intro m htakes hm hrun
    have hmap : stopping.wpa (some <$> m) (fun _ s' g' =>
        s'.host.Truthful ∨ s.host.profileStaged = true ∧ Taken g') s {} :=
      (wpa_bind (f := fun r => pure (some r))).mpr hm
    exact (ends_of_stopping hmap hrun).imp id fun ⟨hstaged, htaken⟩ => .inr ⟨htakes, hstaged, htaken⟩
  cases operation with
  | recoverOnStartup => exact htold (.map _ (tells_recoverOnStartup F)) hrun
  | initializeRuntime => exact htold (.map _ (tells_initializeRuntime F)) hrun
  | stageProfile body bound => exact htold (.map _ (tells_stageProfile F body bound)) hrun
  | invalidateProfile => exact htold (.map _ (Tells.host (tells_invalidateProfile F))) hrun
  | connect digest network => exact hreported (reports_connect digest network) hrun
  | connectWithIdentity target network =>
    exact hreported (reports_connectWithIdentity target network) hrun
  | promoteTransportLease target =>
    exact htold (.map _ (Tells.host (tells_promoteTransportLease F target))) hrun
  | revokeTransportLease target =>
    exact htold (.map _ (Tells.host (tells_revokeTransportLease F target))) hrun
  | disconnect explicitDisconnect =>
    exact htold (.map _ (tells_disconnect F explicitDisconnect)) hrun
  | recheckEgress => exact htold (.map _ (Tells.host (tells_recheckEgress F))) hrun
  | replaceManagedProfile body network =>
    exact hreported (reports_replaceManagedProfile body network) hrun
  | cancelProtectedHandoff => exact htold (.map _ (tells_cancelProtectedHandoff F)) hrun
  | maintainWindowsLocalDpi => exact htaken rfl (stop_maintainWindowsLocalDpi F h) hrun
  | maintainTelegramWS =>
    exact htold (.map _ (Tells.steady (RuntimeHost.steady_maintainTelegramWS F))) hrun
  | revokeSmartAccessLease body =>
    exact htold (.map _ (Tells.host (tells_revokeSmartAccessLease body))) hrun
  | revokeSmartAccessPolicy body =>
    exact htold (.map _ (Tells.host (tells_revokeSmartAccessPolicy body))) hrun
  | revokeRoutingCatalog digest => exact htaken rfl (stop_revokeRoutingCatalog F digest h) hrun
  | revokeRoutingCatalogService body =>
    exact htaken rfl (stop_revokeRoutingCatalogService F body h) hrun
  | renewSmartAccessLease body =>
    exact htold (.map _ (Tells.host (tells_renewSmartAccessLease body))) hrun
  | configureSmartAccessRuntimeControl body renewal qa =>
    exact htold (.map _ (Tells.host (tells_configureSmartAccessRuntimeControl F body renewal qa))) hrun
  | readSmartAccessRestrictions =>
    exact htold (.map _ (Tells.steady RuntimeHost.steady_readSmartAccessRestrictions)) hrun
  | readSmartAccessLeases digest =>
    exact htold (.map _ (Tells.steady (RuntimeHost.steady_readSmartAccessLeases digest))) hrun
  | acknowledgeSmartAccessRestrictions digest =>
    exact htold (.map _ (Tells.steady (RuntimeHost.steady_acknowledgeSmartAccessRestrictions digest)))
      hrun
  | shutdown => exact htold (.bind (tells_shutdown F) fun _ => .pure _) hrun

theorem truthful_boot (parts : HostParts) (backend : Bool) (file : Option Bytes) :
    (boot parts backend file).host.Truthful := by
  unfold boot RuntimeHost.new
  split
  · exact .of_phase (by simp)
  · exact .of_phase (by simp)

/-- The states of a service between operations of which none loses the profile in
the rollback of an attempt and none takes it back after a protected stop. -/
inductive Undisturbed (F : Functions) : Runtime → Prop
  | boot (parts : HostParts) (backend : Bool) (file : Option Bytes) :
      Undisturbed F (boot parts backend file)
  | operation {operation : Operation} {s s' : Runtime} {tr : List (Event Machine)}
      {r : Option RuntimeResult} (before : Undisturbed F s)
      (run : Steps (operation.run F s) tr (.ret (r, s'))) (kept : ¬ Unwritten F tr)
      (left : ¬ Overtaken operation s tr) : Undisturbed F s'

end Runtime

/-- **The staged phase tells the truth.** In every state of such a run the host
is in `configStaged` only with a profile that is staged. -/
theorem staged_phase_truthful {F : Functions} {s : Runtime} (h : Runtime.Undisturbed F s) :
    s.host.phase = .configStaged → s.host.profileStaged = true := by
  induction h with
  | boot parts backend file => exact Runtime.truthful_boot parts backend file
  | operation _ hrun hkept hleft ih =>
    rcases Runtime.truthful_step hrun ih with htrue | hlost | htaken
    · exact htrue
    · exact absurd hlost hkept
    · exact absurd htaken hleft

/-! ## A run that is undisturbed, and one that is not -/

theorem failed_after (g : Stop) (tr : List (Event Machine)) :
    (stopping.after g tr).failed = (g.failed || tr.any writeFailed) := by
  induction tr generalizing g with
  | nil => simp
  | cons e tr ih =>
    rw [after_cons, ih, List.any_cons, ← Bool.or_assoc]
    rfl

theorem not_unwritten {F : Functions} {tr : List (Event Machine)} (h : tr.any writeFailed = false) :
    ¬ Runtime.Unwritten F tr := by
  rintro ⟨op, s, pre, attempt, post, x, rfl, -, -, hfailed⟩
  have hsome : attempt.any writeFailed = true := by
    have hafter := failed_after {} attempt
    exact hafter.symm.trans hfailed
  simp [hsome] at h

def undisturbedRun (s : Runtime) (operation : Runtime.Operation) :
    List (Event Machine) × (Option RuntimeResult × Runtime) :=
  (operation.run plainFunctions s).play (fun _ => plainAnswer) []

theorem undisturbed_run {s : Runtime} {operation : Runtime.Operation}
    (h : Runtime.Undisturbed plainFunctions s) (htakes : operation.takesBack = false)
    (hwritten : (undisturbedRun s operation).1.any writeFailed = false) :
    Runtime.Undisturbed plainFunctions (undisturbedRun s operation).2.2 := by
  refine .operation h (steps_play_pair (I := Machine) _ _) (not_unwritten hwritten) fun hover => ?_
  exact absurd (htakes.symm.trans hover.takesBack) Bool.false_ne_true

/-- A profile that was connected and disconnected. -/
def restagedHost : Runtime :=
  (sampleOperations.take 3).foldl (fun s operation => (undisturbedRun s operation).2.2)
    (Runtime.boot plainParts true none)

theorem restagedHost_truthful :
    restagedHost.host.phase = .configStaged ∧ restagedHost.host.profileStaged = true := by
  have hphase : restagedHost.host.phase = .configStaged := by decide +kernel
  have hrun : Runtime.Undisturbed plainFunctions restagedHost := by
    refine undisturbed_run (undisturbed_run (undisturbed_run (.boot _ _ _) rfl ?_) rfl ?_) rfl ?_
    all_goals decide +kernel
  exact ⟨hphase, staged_phase_truthful hrun hphase⟩

/-- Core does not start, and the profile is not moved back after it has stopped. -/
def unrewritten (seen : List (Event Machine)) : (c : MachineCall) → Machine.Answer c
  | .start _ => "core_busy"
  | .moveProfile => !seen.any (·.call = .coreStop)
  | c => plainAnswer c

def unrewrittenRun : List (Event Machine) × (Unit × Runtime) :=
  (Runtime.session plainFunctions (sampleOperations.take 2) (Runtime.boot plainParts true none)).play
    unrewritten []

/-- A host that can be reached in `configStaged` without a profile. -/
theorem staged_phase_lies : ¬ ∀ (F : Functions) (s : Runtime), Runtime.Reachable F s →
    s.host.phase = .configStaged → s.host.profileStaged = true := by
  intro h
  have hreach : Runtime.Reachable plainFunctions unrewrittenRun.2.2 := by
    rw [unrewrittenRun]
    exact Runtime.reachable_play _ _ _ _ _ _
  have hlies : unrewrittenRun.2.2.host.phase = .configStaged ∧
      unrewrittenRun.2.2.host.profileStaged = false := by
    decide +kernel
  exact absurd ((h _ _ hreach hlies.1).symm.trans hlies.2) (by simp)

end Pokrov.Windows.Service
