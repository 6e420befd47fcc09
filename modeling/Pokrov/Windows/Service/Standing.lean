import Pokrov.Windows.Service.Runtime

/-!
# What leaves the standing of a host alone

The standing of a host is its phase, its two profile digests, whether its egress
was validated and whether a profile is staged. Most of what a host does between
two changes of it reads, prepares, withdraws and reports. Such a program is
`Steady`: it neither releases the transition guard nor hands Core new control
material, and the host stands where it stood. Once Core has stopped, a staged
profile may be lost.
-/

namespace Pokrov.Windows.Service

open Codec Effects Contract

/-- The calls that what follows is not about. -/
def plain : MachineCall → Bool
  | .guardFinish => false
  | .guardExplicitOff => false
  | .mark _ => false
  | .coreInitialize => false
  | .control (.renewSmartAccessLease _) => false
  | .control (.configureSmartAccessRuntimeControl _ _) => false
  | .control (.configureSmartAccessRenewal _ _) => false
  | _ => true

/-- The second host stands where the first one did. -/
structure Settled (a b : RuntimeHost) : Prop where
  parts : b.parts = a.parts
  phase : b.phase = a.phase
  effective : b.effectiveProfileDigest = a.effectiveProfileDigest
  staged : b.stagedProfileDigest = a.stagedProfileDigest
  validated : b.coreEgressValidated = a.coreEgressValidated
  initialized : b.initialized = a.initialized
  profileStaged : b.profileStaged = a.profileStaged

namespace Settled

theorem refl (a : RuntimeHost) : Settled a a := ⟨rfl, rfl, rfl, rfl, rfl, rfl, rfl⟩

theorem trans {a b c : RuntimeHost} (h : Settled a b) (h' : Settled b c) : Settled a c :=
  ⟨h'.parts.trans h.parts, h'.phase.trans h.phase, h'.effective.trans h.effective,
    h'.staged.trans h.staged, h'.validated.trans h.validated, h'.initialized.trans h.initialized,
    h'.profileStaged.trans h.profileStaged⟩

instance : IsPreorder RuntimeHost Settled where
  refl := refl
  trans _ _ _ := trans

end Settled

/-- The same, but a staged profile may have been lost. -/
structure Shaken (a b : RuntimeHost) : Prop where
  parts : b.parts = a.parts
  phase : b.phase = a.phase
  effective : b.effectiveProfileDigest = a.effectiveProfileDigest
  staged : b.stagedProfileDigest = a.stagedProfileDigest
  validated : b.coreEgressValidated = a.coreEgressValidated
  initialized : b.initialized = a.initialized
  profileStaged : b.profileStaged = true → a.profileStaged = true

theorem Settled.shaken {a b : RuntimeHost} (h : Settled a b) : Shaken a b :=
  ⟨h.parts, h.phase, h.effective, h.staged, h.validated, h.initialized,
    fun hb => h.profileStaged.symm.trans hb⟩

namespace Shaken

theorem trans {a b c : RuntimeHost} (h : Shaken a b) (h' : Shaken b c) : Shaken a c :=
  ⟨h'.parts.trans h.parts, h'.phase.trans h.phase, h'.effective.trans h.effective,
    h'.staged.trans h.staged, h'.validated.trans h.validated, h'.initialized.trans h.initialized,
    fun hc => h.profileStaged (h'.profileStaged hc)⟩

instance : IsPreorder RuntimeHost Shaken where
  refl a := (Settled.refl a).shaken
  trans _ _ _ := trans

end Shaken

/-- What a program does with the host it reads. -/
theorem wpa_withHost {G α : Type} {C : Contract Machine G} {f : RuntimeHost → RuntimeAct α}
    {Q : α → Runtime → G → Prop} {s : Runtime} {g : G} :
    C.wpa (Runtime.getHost >>= f) Q s g ↔ C.wpa (f s.host) Q s g :=
  Iff.rfl

/-- The program makes plain calls only and the host stands where it stood. -/
abbrev Steady {α : Type} (m : HostAct α) : Prop :=
  Moves (I := Quiet) (fun c => plain c.1 = true) Settled m

/-- The same for a program that may lose a staged profile. -/
abbrev Shaking {α : Type} (m : HostAct α) : Prop :=
  Moves (I := Quiet) (fun c => plain c.1 = true) Shaken m

theorem Steady.shaking {α : Type} {m : HostAct α} (hm : Steady m) : Shaking m :=
  hm.mono (fun _ hc => hc) fun _ _ h => h.shaken

variable {c : MachineCall} {hc : quiet c = true}

theorem steady_ask (hp : plain c = true) : Steady (ask c hc) :=
  Moves.perform (I := Quiet) (c := ⟨c, hc⟩) hp

/-- The calls that also leave the profile on disk, the child and the guard. -/
def calm : MachineCall → Bool
  | .writePendingProfile _ => false
  | .secureFile _ => false
  | .moveProfile => false
  | .executorStop => false
  | .guardStart => false
  | .coreStop => false
  | c => plain c

theorem plain_of_calm (h : calm c = true) : plain c = true := by
  cases c <;> first | exact h | cases h

/-- The program makes calm calls only, and the host stands where it stood. -/
abbrev Calm {α : Type} (m : HostAct α) : Prop :=
  Moves (I := Quiet) (fun c => calm c.1 = true) Settled m

theorem Calm.steady {α : Type} {m : HostAct α} (hm : Calm m) : Steady m :=
  hm.mono (fun _ hc => plain_of_calm hc) fun _ _ h => h

theorem calm_ask (hp : calm c = true) : Calm (ask c hc) :=
  Moves.perform (I := Quiet) (c := ⟨c, hc⟩) hp

/-- The calls with which a host looks at its local DPI. -/
def observes : MachineCall → Bool
  | .readLocalDpiObservation _ => true
  | .coreModuleSHA256 => true
  | .localDpiPreparationCurrent _ => true
  | _ => false

theorem calm_of_observes (h : observes c = true) : calm c = true := by
  cases c <;> first | rfl | cases h

/-- The program only looks, and the host stands where it stood. -/
abbrev Observing {α : Type} (m : HostAct α) : Prop :=
  Moves (I := Quiet) (fun c => observes c.1 = true) Settled m

theorem Observing.calm {α : Type} {m : HostAct α} (hm : Observing m) : Calm m :=
  hm.mono (fun _ hc => calm_of_observes hc) fun _ _ h => h

theorem Observing.steady {α : Type} {m : HostAct α} (hm : Observing m) : Steady m := hm.calm.steady

theorem observing_ask (hp : observes c = true) : Observing (ask c hc) :=
  Moves.perform (I := Quiet) (c := ⟨c, hc⟩) hp

namespace RuntimeHost

theorem steady_executorStop : Steady executorStop :=
  .bind .get fun _ => .ite (steady_ask rfl) (.pure _)

theorem steady_transitionGuardArmed : Steady transitionGuardArmed :=
  .bind .get fun _ => .ite (steady_ask rfl) (.pure _)

theorem calm_interrupted (who : Interrupter) : Calm (interrupted who) :=
  .bind (calm_ask rfl) fun _ => .pure _

theorem steady_interrupted (who : Interrupter) : Steady (interrupted who) :=
  (calm_interrupted who).steady

/-! ## Observations and results -/

variable (F : Functions)

theorem settled_invalidateStrategyHint (service : WindowsLocalDpiService)
    (value : WindowsLocalDpiHolderObservation) (host : RuntimeHost) :
    Settled host (invalidateStrategyHint service value host) := by
  unfold invalidateStrategyHint
  split
  · exact .refl host
  split
  · exact ⟨rfl, rfl, rfl, rfl, rfl, rfl, rfl⟩
  · exact .refl host

theorem observing_observeServices (services : List WindowsLocalDpiService)
    (result : RuntimeObservation) : Observing (observeServices F services result) := by
  induction services generalizing result with
  | nil => exact .pure _
  | cons service rest ih =>
    refine .ite (.pure _) (.bind (observing_ask rfl) fun encoded => ?_)
    cases F.readWindowsLocalDpiHolderObservation encoded with
    | none => exact .pure _
    | some value =>
      refine .ite (.pure _) (.bind (.modify ?_) fun _ => ih _)
      exact settled_invalidateStrategyHint service value

theorem observing_readLocalDpiRuntimeObservation : Observing (readLocalDpiRuntimeObservation F) := by
  refine .bind .get fun host => ?_
  cases host.localDpiPreparation with
  | none => exact .pure _
  | some preparation =>
    refine .ite (.pure _) (.bind (observing_ask rfl) fun digest => .ite (.pure _) ?_)
    refine .bind (observing_ask rfl) fun current => .ite (.pure _) ?_
    exact observing_observeServices F _ _

theorem observing_snapshotBody : Observing (snapshotBody F) :=
  .bind (observing_readLocalDpiRuntimeObservation F) fun _ => .pure _

theorem observing_snapshot : Observing (snapshot F) :=
  .bind (observing_snapshotBody F) fun _ => .pure _

theorem observing_fail (status : Status) (failure : String) : Observing (fail F status failure) := by
  refine .bind (.modify fun _ => ?_) fun _ => .bind (observing_snapshotBody F) fun _ => .pure _
  exact ⟨rfl, rfl, rfl, rfl, rfl, rfl, rfl⟩

theorem steady_readLocalDpiRuntimeObservation : Steady (readLocalDpiRuntimeObservation F) :=
  (observing_readLocalDpiRuntimeObservation F).steady

theorem steady_snapshot : Steady (snapshot F) := (observing_snapshot F).steady

theorem steady_fail (status : Status) (failure : String) : Steady (fail F status failure) :=
  (observing_fail F status failure).steady

/-! ## Profiles on disk -/

theorem steady_writeProfileAtomically (profile : Bytes) :
    Steady (writeProfileAtomically profile) := by
  refine .bind (steady_ask rfl) fun written => .ite (.bind (steady_ask rfl) fun _ => .pure _) ?_
  refine .bind (steady_ask rfl) fun error => .ite (.bind (steady_ask rfl) fun _ => .pure _) ?_
  refine .bind (steady_ask rfl) fun moved => .ite (.bind (steady_ask rfl) fun _ => .pure _) ?_
  exact .pure _

theorem steady_cleanupBundledRuleSets (slot : Nat) : Steady (cleanupBundledRuleSets slot) :=
  .onlyIf (steady_ask rfl)

theorem steady_secureFiles (paths : List Bytes) : Steady (secureFiles paths) := by
  induction paths with
  | nil => exact .pure _
  | cons path rest ih => exact .bind (steady_ask rfl) fun error => .ite (.pure _) ih

theorem shaking_restoreStagedProfile : Shaking restoreStagedProfile := by
  refine .bind .get fun host => .onlyIf (.bind ?_ fun error => ?_)
  · exact (steady_writeProfileAtomically _).shaking
  · exact .onlyIf (.modify fun _ => ⟨rfl, rfl, rfl, rfl, rfl, rfl, nofun⟩)

/-! ## Telegram -/

theorem calm_withdrawHolders (preparation : WindowsTelegramWSPreparation) (serviceId : Bytes)
    (kept holders : List (Bytes × Bytes)) :
    Calm (withdrawHolders preparation serviceId kept holders) := by
  induction holders generalizing kept with
  | nil =>
    refine .bind (.modify fun _ => ?_) fun _ => .pure _
    exact ⟨rfl, rfl, rfl, rfl, rfl, rfl, rfl⟩
  | cons holder rest ih =>
    refine .ite (ih _) (.bind ?_ fun withdrawn => .ite ?_ (ih _))
    · refine .bind (calm_ask rfl) fun id => .ite (.pure _) ?_
      exact .bind (calm_ask rfl) fun _ => .pure _
    · refine .bind (.modify fun _ => ?_) fun _ => .pure _
      exact ⟨rfl, rfl, rfl, rfl, rfl, rfl, rfl⟩

theorem calm_withdrawTelegramWS (serviceId : Bytes) : Calm (withdrawTelegramWS serviceId) := by
  refine .bind .get fun host => ?_
  cases host.telegramWSPreparation with
  | none => exact .pure _
  | some preparation => exact calm_withdrawHolders preparation serviceId [] _

theorem steady_withdrawTelegramWS (serviceId : Bytes) : Steady (withdrawTelegramWS serviceId) :=
  (calm_withdrawTelegramWS serviceId).steady

theorem steady_telegramHoldersChanged (holders : List (Bytes × Bytes)) :
    Steady (telegramHoldersChanged holders) := by
  induction holders with
  | nil => exact .pure _
  | cons holder rest ih => exact .bind (steady_ask rfl) fun id => .ite (.pure _) ih

theorem steady_maintainTelegramWS : Steady (maintainTelegramWS F) := by
  refine .bind .get fun host => ?_
  cases host.telegramWSPreparation with
  | none => exact steady_snapshot F
  | some preparation =>
    refine .ite (steady_snapshot F) (.bind ?_ fun changed => .bind ?_ fun lost => ?_)
    · refine .ite (.pure _) (.bind (steady_ask rfl) fun _ => .ite (.pure _) (.ite (.pure _) ?_))
      exact steady_telegramHoldersChanged _
    · refine .ite (.pure _) (.bind (steady_ask rfl) fun _ => .ite (.pure _) ?_)
      exact steady_interrupted .owner
    · refine .ite (.bind (steady_withdrawTelegramWS []) fun withdrawn => ?_) (steady_snapshot F)
      exact .ite (steady_fail F _ _) (steady_snapshot F)

theorem shaking_clearWindowsLocalDpiAfterCoreStopped :
    Shaking clearWindowsLocalDpiAfterCoreStopped := by
  refine .bind (.bind .get fun _ => .ite (steady_ask rfl).shaking (.pure _)) fun stopped => ?_
  refine .ite (.pure _) (.bind (.modify fun _ => ?_) fun _ => ?_)
  · exact ⟨rfl, rfl, rfl, rfl, rfl, rfl, id⟩
  · exact .bind shaking_restoreStagedProfile fun _ => .pure _

/-! ## Egress and control -/

theorem steady_verifyEgress (periodic : Bool) : Steady (verifyEgress F periodic) := by
  refine .bind .get fun host => ?_
  split
  · refine .ite (.pure _) (.bind (steady_ask rfl) fun _ => .ite (.pure _) (steady_ask rfl))
  · exact .ite (.pure _) (steady_ask rfl)

theorem steady_canRecheckEgress : Steady canRecheckEgress :=
  .bind .get fun _ => .ite (.pure _) (.bind steady_transitionGuardArmed fun _ => .pure _)

theorem steady_readSmartAccessRestrictions : Steady readSmartAccessRestrictions := by
  refine .bind .get fun host => .ite (.pure _) (.bind (steady_ask rfl) fun _ => .ite (.pure _) ?_)
  exact .bind (steady_ask rfl) fun body => .ite (.pure _) (.pure _)

theorem steady_readSmartAccessLeases (profileDigest : Bytes) :
    Steady (readSmartAccessLeases profileDigest) := by
  refine .ite (.pure _) (.bind .get fun host => .ite (.pure _) ?_)
  refine .bind (steady_ask rfl) fun _ => .ite (.pure _) ?_
  exact .bind (steady_ask rfl) fun body => .ite (.pure _) (.pure _)

theorem steady_acknowledgeSmartAccessRestrictions (digest : Bytes) :
    Steady (acknowledgeSmartAccessRestrictions digest) := by
  refine .ite (.pure _) (.bind .get fun host => .ite (.pure _) ?_)
  refine .bind (steady_ask rfl) fun _ => .ite (.pure _) ?_
  exact .bind (steady_ask rfl) fun body => .ite (.pure _) (.pure _)

theorem steady_admitFirstProvider (config : Bytes) : Steady (admitFirstProvider F config) := by
  have hkeep : ∀ result, Steady (MonadStateOf.modifyGet fun host : RuntimeHost =>
      ((), { host with firstProviderQaControlConfig := config
                       firstProviderQaAdmissionResult := result })) :=
    fun result => .modify fun _ => ⟨rfl, rfl, rfl, rfl, rfl, rfl, rfl⟩
  refine .bind .get fun host => .bind (.bind (steady_ask rfl) fun interruption => ?_) fun stopped => ?_
  · cases interruption with
    | none => exact .pure _
    | cancelled => exact .pure _
    | deadlineExceeded => exact .pure _
  cases stopped with
  | some result => exact .bind (.onlyIf (hkeep _)) fun _ => .pure _
  | none =>
    cases host.firstProviderQaAdmissionResult with
    | some result => exact .pure _
    | none =>
      refine .bind ?_ fun failure => .bind ?_ fun result => .bind (hkeep _) fun _ => .pure _
      · split
        · exact .pure _
        · refine .ite (.pure _) (.bind (steady_ask rfl) fun _ => ?_)
          exact .ite (.pure _) (steady_ask rfl)
      · refine .ite (.pure _) (.bind (.bind (steady_ask rfl) fun interruption => ?_) fun _ => .pure _)
        cases interruption with
        | none => exact .pure _
        | cancelled => exact .pure _
        | deadlineExceeded => exact .pure _

/-! ## Proof of local DPI -/

section Proving

variable {network bindInterface : Bytes} {strategy : WindowsLocalDpiStrategy}
  {ownerCurrent : HostAct Bool} {standalonePermit : Bool}

theorem calm_current (howner : Calm ownerCurrent) : Calm (current ownerCurrent) :=
  .bind howner fun b => by
    cases b with
    | false => exact .pure _
    | true => exact calm_ask rfl

theorem calm_proveServices (howner : Calm ownerCurrent) (deadline : Nat)
    (services : List WindowsLocalDpiService) (proofs : Proofs) :
    Calm (proveServices network bindInterface strategy ownerCurrent standalonePermit deadline
      services proofs) := by
  induction services generalizing proofs with
  | nil => exact .pure _
  | cons service rest ih =>
    refine .bind (calm_ask rfl) fun now => .bind (calm_current howner) fun held => ?_
    refine .ite (.pure _) (.ite (.pure _) (.bind (calm_ask rfl) fun verified => ?_))
    refine .bind ?_ fun failure => .ite ?_ ?_
    · refine .bind (calm_current howner) fun _ => .ite (.pure _) ?_
      exact .bind howner fun _ => .ite (.pure _) (.pure _)
    · refine .bind (.onlyIf (.modify fun _ => ?_)) fun _ => ih _
      exact ⟨rfl, rfl, rfl, rfl, rfl, rfl, rfl⟩
    · exact .bind (calm_ask rfl) fun published => ih _

theorem calm_proveAndAdmitWindowsLocalDpi (howner : Calm ownerCurrent)
    (services : List WindowsLocalDpiService) :
    Calm (proveAndAdmitWindowsLocalDpi network bindInterface strategy ownerCurrent
      standalonePermit services) := by
  refine .bind (calm_ask rfl) fun start => ?_
  refine .bind (calm_proveServices howner _ services _) fun proofs => .bind ?_ fun retryable => ?_
  · exact .ite (.pure _) (calm_current howner)
  · exact .bind (calm_current howner) fun held => .ite (.pure _) (.pure _)

end Proving

end RuntimeHost

/-! ## The recovery object -/

/-- The calls that the recovery object makes. -/
def ofRecovery : MachineCall → Bool
  | .genRandom => true
  | .capture => true
  | .restore _ => true
  | .writeJournal _ => true
  | _ => false

/-- The program makes these calls only, and nothing is said about the memory. -/
def Journals {σ α : Type} (m : Act Machine σ α) : Prop :=
  ∀ s, (static fun c => ofRecovery c = true).wpa m (fun _ _ _ => True) s ()

namespace Journals

variable {σ α β : Type}

theorem pure (a : α) : Journals (pure a : Act Machine σ α) := fun _ => trivial

theorem get : Journals (MonadState.get : Act Machine σ σ) := fun _ => trivial

theorem set (t : σ) : Journals (MonadStateOf.set t : Act Machine σ PUnit) := fun _ => trivial

theorem modify (f : σ → σ) :
    Journals (MonadStateOf.modifyGet fun s => ((), f s) : Act Machine σ Unit) := fun _ => trivial

theorem perform {c : MachineCall} (h : ofRecovery c = true) :
    Journals (σ := σ) (perform (I := Machine) c) :=
  fun _ _ _ => ⟨h, trivial⟩

theorem bind {m : Act Machine σ α} {f : α → Act Machine σ β} (hm : Journals m)
    (hf : ∀ a, Journals (f a)) : Journals (m >>= f) := by
  intro s
  exact wpa_seq (hm s) fun a s' _ _ => hf a s'

theorem ite {b : Prop} [Decidable b] {m n : Act Machine σ α} (hm : Journals m)
    (hn : Journals n) : Journals (if b then m else n) := by
  split
  · exact hm
  · exact hn

end Journals

namespace DurableRuntimeRecovery

theorem journals_write : Journals write :=
  .bind .get fun _ => .ite (.pure _) (.perform rfl)

theorem journals_record (stage : RecoveryStage) : Journals (record stage) := by
  refine .bind .get fun d => .ite (.pure _) (.ite (.pure _) (.bind (.set _) fun _ => ?_))
  refine .bind journals_write fun written => .ite (.pure _) ?_
  exact .bind (.modify _) fun _ => .pure _

theorem journals_begin : Journals begin := by
  refine .bind .get fun d => .ite (.pure _) (.ite (.pure _) (.bind (.perform rfl) fun bytes => ?_))
  cases bytes with
  | none => exact .pure _
  | some bytes =>
    refine .ite (.pure _) (.bind (.perform rfl) fun captured => .ite (.pure _) ?_)
    exact .ite (.pure _) (.bind (.modify _) fun _ => journals_record _)

theorem journals_finishRecovery : Journals finishRecovery := by
  refine .bind .get fun d => .bind (.set _) fun _ => .bind (journals_record _) fun error => ?_
  exact .ite (.bind (.modify _) fun _ => .pure _) (.pure _)

theorem journals_beginRollback : Journals beginRollback := by
  refine .bind .get fun d => .ite (.pure _) (.ite (.pure _) (.ite (.pure _) ?_))
  exact .ite journals_finishRecovery (journals_record _)

theorem journals_restoreNetworkState : Journals restoreNetworkState := by
  refine .bind .get fun d => .ite (.pure _) (.ite (.pure _) (.ite (.pure _) (.ite (.pure _) ?_)))
  exact .ite (.pure _) (.perform rfl)

theorem journals_completeRollback : Journals completeRollback := by
  refine .bind .get fun d => .ite (.pure _) (.ite (.pure _) (.ite (.pure _) ?_))
  exact .bind (journals_record _) fun error => .ite (.pure _) journals_finishRecovery

/-- A stage that was recorded is the stage of the object. -/
theorem recorded_stage (stage : RecoveryStage) (d : DurableRuntimeRecovery) :
    (static fun c => ofRecovery c = true).wpa (record stage)
      (fun error d' _ => error = "" → d'.stage = stage) d () := by
  unfold record
  rw [wpa_bind, wpa_get, wpa_ite]
  refine ⟨fun _ => by simp, fun _ => ?_⟩
  rw [wpa_ite]
  refine ⟨fun _ => by simp, fun _ => ?_⟩
  rw [wpa_bind, wpa_set, wpa_bind]
  unfold write
  rw [wpa_bind, wpa_get, wpa_ite]
  refine ⟨fun _ => by simp, fun _ => ?_⟩
  rw [wpa_perform]
  intro written _
  refine ⟨rfl, ?_⟩
  cases written with
  | true => exact fun _ => rfl
  | false =>
    intro h
    have hfailed : "recovery_write_failed" = "" := h
    exact absurd hfailed (by decide)

end DurableRuntimeRecovery

/-! ## Preparing a connection -/

namespace Runtime

open RuntimeHost

variable (F : Functions) (op : ConnectOperation)

theorem calm_checkInterruption : Calm (checkInterruption op) := by
  refine .bind (calm_ask rfl) fun pending => .ite (.pure _) ?_
  cases op.target with
  | none => exact .pure _
  | some target => exact .bind (calm_ask rfl) fun _ => .ite (.pure _) (.pure _)

theorem steady_checkInterruption : Steady (checkInterruption op) := (calm_checkInterruption op).steady

variable (config : Bytes) (preparation : WindowsLocalDpiPreparation)

theorem steady_prepareTelegramWS : Steady (prepareTelegramWS F op config) := by
  refine .bind .get fun host => ?_
  cases op.localDpiNetwork with
  | none => exact .pure _
  | some network =>
    refine .ite (.pure _) (.bind (steady_ask rfl) fun encoded => ?_)
    cases F.readWindowsTelegramWSPreparation encoded with
    | none => exact .pure _
    | some prepared =>
      refine .bind (steady_ask rfl) fun _ => .ite (.pure _) ?_
      refine .bind (steady_ask rfl) fun digest => .bind (.modify fun _ => ?_) fun _ => .pure _
      exact ⟨rfl, rfl, rfl, rfl, rfl, rfl, rfl⟩

theorem steady_prepareWindowsLocalDpi : Steady (prepareWindowsLocalDpi F op config) := by
  refine .bind .get fun host => ?_
  cases op.localDpiNetwork with
  | none => exact .pure _
  | some network =>
    refine .ite (.pure _) (.bind (steady_ask rfl) fun encoded => ?_)
    cases F.readWindowsLocalDpiPreparation encoded with
    | none => exact .pure _
    | some prepared =>
      refine .bind (steady_ask rfl) fun _ => .ite (.pure _) (.bind ?_ fun guarded => ?_)
      · refine .bind steady_transitionGuardArmed fun _ => .ite (.pure _) ?_
        exact .bind (steady_ask rfl) fun _ => .pure _
      refine .ite (.pure _) (.bind (steady_ask rfl) fun digest => ?_)
      refine .bind (.modify fun _ => ?_) fun _ => .pure _
      exact ⟨rfl, rfl, rfl, rfl, rfl, rfl, rfl⟩

theorem steady_writePreparedProfile : Steady (writePreparedProfile F config) := by
  refine .bind .get fun host => .ite (.pure _) ?_
  cases F.stripWindowsLocalDpiMetadata config with
  | none => exact .bind (steady_fail F _ _) fun _ => .pure _
  | some stripped =>
    refine .bind (steady_writeProfileAtomically _) fun error => .ite ?_ ?_
    · exact .bind (steady_fail F _ _) fun _ => .pure _
    cases host.telegramWSPreparation with
    | none => exact .pure _
    | some preparation =>
      refine .bind (.modify fun _ => ?_) fun _ => .ite ?_ (.pure _)
      · exact ⟨rfl, rfl, rfl, rfl, rfl, rfl, rfl⟩
      · exact .bind (steady_fail F _ _) fun _ => .pure _

theorem steady_prepareConnect : Steady (prepareConnect F op) := by
  refine .bind (.modify fun _ => ?_) fun _ => .bind .get fun host => ?_
  · exact ⟨rfl, rfl, rfl, rfl, rfl, rfl, rfl⟩
  refine .bind (steady_writeProfileAtomically _) fun error => .ite ?_ ?_
  · exact .bind (steady_fail F _ _) fun _ => .pure _
  refine .bind (.modify fun _ => ?_) fun _ => .bind .get fun host => ?_
  · exact ⟨rfl, rfl, rfl, rfl, rfl, rfl, rfl⟩
  refine .bind (steady_prepareTelegramWS F op _) fun config => ?_
  refine .bind (steady_prepareWindowsLocalDpi F op config) fun prepared => ?_
  cases prepared with
  | none => exact .bind (steady_fail F _ _) fun _ => .pure _
  | some config => exact steady_writePreparedProfile F config

/-! ## Proving a connection -/

theorem calm_localDpiOwnerCurrent : Calm (localDpiOwnerCurrent op) := by
  refine .bind .get fun host => ?_
  cases host.localDpiPreparation with
  | none => exact .pure _
  | some preparation =>
    refine .bind (calm_checkInterruption op) fun _ => .ite (.pure _) (.ite (.pure _) ?_)
    exact .bind (calm_ask rfl) fun _ => .ite (.pure _) (calm_ask rfl)

theorem steady_localDpiOwnerCurrent : Steady (localDpiOwnerCurrent op) :=
  (calm_localDpiOwnerCurrent op).steady

theorem calm_captureAdmissions (services : List WindowsLocalDpiService) :
    Calm (captureAdmissions services) := by
  induction services with
  | nil => exact .pure _
  | cons service rest ih => exact .bind (calm_ask rfl) fun id => .bind ih fun _ => .pure _

theorem calm_captureServices : Calm captureServices := by
  refine .bind .get fun host => ?_
  cases host.localDpiPreparation with
  | none => exact .pure _
  | some preparation =>
    refine .bind (calm_captureAdmissions _) fun services => .modify fun _ => ?_
    exact ⟨rfl, rfl, rfl, rfl, rfl, rfl, rfl⟩

theorem steady_tryStrategies (network : CandidateNetworkContext) (how : ExecutorStart)
    (strategies : List WindowsLocalDpiStrategy) :
    Steady (tryStrategies op network how strategies) := by
  induction strategies generalizing how with
  | nil => exact .pure _
  | cons strategy rest ih =>
    refine .bind (calm_localDpiOwnerCurrent op).steady fun _ => .ite (.pure _) ?_
    refine .bind .get fun host => .bind (steady_ask rfl) fun error => .ite (.pure _) ?_
    refine .bind (.onlyIf calm_captureServices.steady) fun _ => .bind .get fun host => ?_
    refine .bind ?_ fun proved => .ite (.pure _) (.ite (.pure _) (ih _))
    exact (calm_proveAndAdmitWindowsLocalDpi (calm_localDpiOwnerCurrent op) _).steady

theorem steady_proveLocalDpi : Steady (proveLocalDpi op) := by
  refine .bind .get fun host => ?_
  split
  · refine .bind (steady_tryStrategies op _ _ _) fun proved => ?_
    refine .bind (.ite steady_executorStop (.pure _)) fun withdrawn => .ite (.pure _) ?_
    refine .bind (.onlyIf (.modify fun _ => ?_)) fun _ => ?_
    · exact ⟨rfl, rfl, rfl, rfl, rfl, rfl, rfl⟩
    refine .bind (steady_ask rfl) fun _ => .ite (.pure _) ?_
    cases proved with
    | none => exact .pure _
    | some proved => exact .pure _
  · exact .pure _

theorem steady_telegramCurrent : Steady (telegramCurrent F op) := by
  refine .bind .get fun host => ?_
  cases host.telegramWSPreparation with
  | none => exact .pure _
  | some preparation =>
    refine .bind (steady_checkInterruption op) fun _ => .ite (.pure _) ?_
    refine .bind (steady_interrupted .telegram) fun _ => .ite (.pure _) (.ite (.pure _) ?_)
    refine .bind (steady_ask rfl) fun _ => .ite (.pure _) ?_
    exact .bind (steady_ask rfl) fun _ => .ite (.pure _) (.pure _)

theorem steady_collectHolders (services : List (Bytes × Bytes)) :
    Steady (collectHolders services) := by
  induction services with
  | nil => exact .pure _
  | cons service rest ih =>
    refine .bind (steady_ask rfl) fun _ => .ite (.pure _) (.bind (.modify fun _ => ?_) fun _ => ih)
    exact ⟨rfl, rfl, rfl, rfl, rfl, rfl, rfl⟩

theorem steady_admitHolders (holders : List (Bytes × Bytes)) :
    Steady (admitHolders F op holders) := by
  induction holders with
  | nil => exact .pure _
  | cons holder rest ih =>
    refine .bind (steady_telegramCurrent F op) fun _ => .ite (.pure _) ?_
    refine .bind (steady_ask rfl) fun _ => .ite (.pure _) ?_
    refine .bind (steady_ask rfl) fun _ => .ite (.pure _) ?_
    refine .bind (steady_telegramCurrent F op) fun _ => .ite (.pure _) ?_
    exact .bind (steady_ask rfl) fun _ => .ite (.pure _) ih

theorem steady_admitTelegramWS : Steady (admitTelegramWS F op) := by
  refine .bind .get fun host => ?_
  cases host.telegramWSPreparation with
  | none => exact .pure _
  | some preparation =>
    refine .bind (steady_telegramCurrent F op) fun current => ?_
    refine .bind (steady_collectHolders _) fun collected => .bind .get fun host => ?_
    refine .bind (.ite (.pure _) (steady_admitHolders F op _)) fun admitted => .onlyIf ?_
    exact .bind (steady_withdrawTelegramWS []) fun _ => .pure _

/-! ## Maintaining a connection -/

theorem calm_maintainedOwnerCurrent : Calm (maintainedOwnerCurrent preparation) := by
  refine .bind .get fun host => .ite (.pure _) (.bind (calm_interrupted .owner) fun _ => ?_)
  refine .ite (.pure _) (.ite (.pure _) (.bind (calm_ask rfl) fun _ => .ite (.pure _) ?_))
  exact calm_ask rfl

theorem calm_allRetryable (services : List WindowsLocalDpiService) :
    Calm (allRetryable F services) := by
  induction services with
  | nil => exact .pure _
  | cons service rest ih =>
    refine .ite (.pure _) (.bind (calm_ask rfl) fun _ => .ite (.pure _) ?_)
    refine .bind (calm_ask rfl) fun encoded => ?_
    cases F.readWindowsLocalDpiHolderObservation encoded with
    | none => exact .pure _
    | some observation => exact .ite (.pure _) ih

theorem steady_retryStrategy (network : Bytes) (strategy : WindowsLocalDpiStrategy) :
    Steady (retryStrategy F preparation network strategy) := by
  have howner := calm_maintainedOwnerCurrent preparation
  refine .bind (steady_readLocalDpiRuntimeObservation F) fun _ => ?_
  refine .bind (.modify fun _ => ?_) fun _ => .bind .get fun host => ?_
  · exact ⟨rfl, rfl, rfl, rfl, rfl, rfl, rfl⟩
  refine .bind (steady_ask rfl) fun startFailure => .bind calm_captureServices.steady fun _ => ?_
  refine .bind ?_ fun admitted => .bind ?_ fun current => .ite ?_ steady_executorStop
  · refine .ite (.pure _) (.bind ?_ fun standalone => .bind .get fun host => ?_)
    · refine .bind .get fun host => .ite (.pure _) (.bind (steady_ask rfl) fun _ => .pure _)
    · exact .bind (calm_proveAndAdmitWindowsLocalDpi howner _).steady fun _ => .pure _
  · exact .ite (.pure _) (calm_current howner).steady
  · refine .bind (.modify fun _ => ?_) fun _ => .pure _
    exact ⟨rfl, rfl, rfl, rfl, rfl, rfl, rfl⟩

theorem calm_preparationLost : Calm (preparationLost preparation) := by
  refine .bind .get fun host => .bind (calm_ask rfl) fun current => .bind ?_ fun changed => ?_
  · exact .ite (.pure _) (.bind (calm_ask rfl) fun _ => .pure _)
  · exact .ite (.pure _) (.ite (.pure _) (.pure _))

theorem steady_preparationLost : Steady (preparationLost preparation) :=
  (calm_preparationLost preparation).steady

theorem calm_preparationLostAfterRetry : Calm (preparationLostAfterRetry preparation) := by
  refine .bind .get fun host => .bind ?_ fun lost => .ite (.pure _) ?_
  · refine .bind (calm_ask rfl) fun current => .ite (.pure _) (.ite (.pure _) ?_)
    exact .bind (calm_ask rfl) fun _ => .pure _
  · exact .bind (calm_ask rfl) fun _ => .ite (.pure _) (.pure _)

theorem steady_preparationLostAfterRetry : Steady (preparationLostAfterRetry preparation) :=
  (calm_preparationLostAfterRetry preparation).steady

theorem steady_withdrawLostChild : Steady withdrawLostChild := by
  refine .bind .get fun host => .ite (.pure _) (.bind ?_ fun lost => .ite (.pure _) ?_)
  · refine .bind (steady_interrupted .owner) fun _ => .ite (.pure _) ?_
    exact .bind (steady_ask rfl) fun _ => .pure _
  refine .bind steady_executorStop fun stopped => .ite (.pure _) ?_
  refine .bind (.modify fun _ => ?_) fun _ => .pure _
  exact ⟨rfl, rfl, rfl, rfl, rfl, rfl, rfl⟩

theorem calm_retryCandidate : Calm (retryCandidate F preparation) := by
  refine .bind .get fun host => .ite (.pure _) ?_
  cases host.localDpiActiveStrategy with
  | none => exact .pure _
  | some active =>
    exact .bind (calm_allRetryable F _) fun _ => .ite (.pure _) (.pure _)

theorem steady_retryCandidate : Steady (retryCandidate F preparation) :=
  (calm_retryCandidate F preparation).steady

end Runtime

end Pokrov.Windows.Service
