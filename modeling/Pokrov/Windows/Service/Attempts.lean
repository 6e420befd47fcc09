import Pokrov.Windows.Service.Coherence

/-!
# An attempt to connect

From the checks at the entry of `ConnectImpl` to one of its exits the host is
`Attempting`: it neither runs nor owes a recovery, and the bytes that it is
about to run are staged. Every exit is coherent again.
-/

namespace Pokrov.Windows.Service

open Codec Effects Contract

namespace Runtime

variable (F : Functions)

/-! ## Between operations and during an attempt -/

theorem coheres_fail (status : Status) (failure : String) : Coheres (fail F status failure) :=
  .steady (RuntimeHost.steady_fail F status failure)

theorem coheres_snapshot : Coheres (snapshot F) := .steady (RuntimeHost.steady_snapshot F)

/-- A connection is being made: the host neither runs nor owes a recovery, over
bytes that are staged. -/
structure Attempting (s : Runtime) (g : Watch) : Prop extends Watched s g where
  idle : s.host.view.idle
  ready : s.host.initialized = true
  digest : s.host.stagedProfileDigest ≠ []
  restaged : g.fresh = true

variable {s : Runtime} {g : Watch}

theorem Attempting.of_view (h : Attempting s g) (view : Option HostView) :
    Attempting s { g with view } :=
  ⟨h.toWatched.of_view view, h.idle, h.ready, h.digest, h.restaged⟩

theorem Attempting.of_settled {host : RuntimeHost} (h : Attempting s g)
    (hhost : Settled s.host host) : Attempting { s with host } g := by
  constructor
  · exact h.toWatched.of_settled hhost
  · have hidle := h.idle
    simpa only [RuntimeHost.view, HostView.idle, hhost.phase] using hidle
  · exact hhost.initialized.trans h.ready
  · rw [hhost.staged]
    exact h.digest
  · exact h.restaged

/-- The journal moves freely while nothing runs. -/
theorem Attempting.of_recovery (h : Attempting s g) (recovery : DurableRuntimeRecovery) :
    Attempting { s with recovery } g := by
  have hcoherent : Coherent { s with recovery } :=
    ⟨h.effective, fun hrun => absurd hrun h.idle.1, h.validated, h.staged, h.profile,
      h.toCoherent.initialized⟩
  exact ⟨⟨hcoherent, h.fresh, h.recovering, h.remembered⟩, h.idle, h.ready, h.digest, h.restaged⟩

/-- An attempt that is given up. -/
theorem watch_rollBackAttempt {withdraw : Bool} (h : Attempting s g) :
    watching.wpa (rollBackAttempt F withdraw) (fun _ s' g' => Watched s' g') s g := by
  unfold rollBackAttempt
  rw [wpa_bind]
  refine watch_rollbackRuntime F fun error s' view hhost => ?_
  rw [wpa_bind]
  refine watch_modifyHost ?_
  have heffective : s'.host.effectiveProfileDigest = [] := by
    rw [hhost.effective]
    by_contra hne
    exact h.idle.1 (h.effective.mpr hne)
  have hvalidated : s'.host.coreEgressValidated = false := by
    rw [hhost.validated, ← Bool.not_eq_true]
    exact fun hv => h.idle.1 (h.validated hv)
  have hready : s'.host.initialized = true := hhost.initialized.trans h.ready
  have hstaged : s'.host.stagedProfileDigest ≠ [] := by
    rw [hhost.staged]
    exact h.digest
  by_cases herror : error = ""
  · subst herror
    constructor
    · constructor <;> simp [heffective, hvalidated, hready, hstaged]
    · exact fun hp => h.fresh (hhost.profileStaged hp)
    · simp
    · exact fun _ => hready
  · constructor
    · constructor <;> simp [heffective, hvalidated, hready, hstaged, herror]
    · exact fun hp => h.fresh (hhost.profileStaged hp)
    · simp [herror]
    · exact fun _ => hready

/-- The program ends an attempt. -/
def Attempts {α : Type} (m : RuntimeAct α) : Prop :=
  ∀ s g, Attempting s g → watching.wpa m (fun _ s' g' => Watched s' g') s g

theorem attempts_rollBackAndFail (withdraw : Bool) (failure : String) :
    Attempts (rollBackAndFail F withdraw failure) := by
  intro s g h
  unfold rollBackAndFail
  refine wpa_seq (watch_rollBackAttempt F h) fun error s' g' h' => ?_
  exact coheres_fail F _ _ s' g' h'

/-! ## Connecting -/

section Connecting

variable (op : ConnectOperation)

/-- The refusal of an interrupted attempt. -/
theorem coheres_refused (reason : OperationInterruption) (identityMismatch : Bool) :
    Coheres (if identityMismatch then fail F .notReady "core_identity_mismatch"
      else if reason = .deadlineExceeded then
        fail F .deadlineExceeded
          (if op.expectedCoreDigest = [] then "deadline_exceeded" else "connect_deadline")
      else fail F .notReady "operation_cancelled") :=
  .ite (coheres_fail F _ _) (.ite (coheres_fail F _ _) (coheres_fail F _ _))

variable {m : RuntimeAct RuntimeResult} {s : Runtime} {g : Watch}

/-- A program whose result ends the attempt. -/
theorem watch_ended {Q : Runtime → Watch → Prop} (hm : Coheres m) (h : Watched s g) :
    watching.wpa (do return some (← m))
      (fun r s' g' => Watched s' g' ∧ (r = none → Q s' g')) s g := by
  refine wpa_seq (hm s g h) fun r s' g' h' => ?_
  exact ⟨h', fun hnone => absurd hnone (Option.some_ne_none r)⟩

/-- An interruption check that finds nothing leaves the attempt where it was. -/
theorem watch_interruption (rollback : Bool) (h : if rollback then Attempting s g else Watched s g) :
    watching.wpa (interruption F op rollback) (fun r s' g' => Watched s' g' ∧
      (r = none → (∃ view, g' = { g with view }) ∧ Settled s.host s'.host ∧
        s'.recovery = s.recovery)) s g := by
  have hwatched : Watched s g := by
    cases rollback with
    | true => exact Attempting.toWatched h
    | false => exact h
  unfold interruption
  rw [wpa_bind]
  refine watch_steady (steady_checkInterruption op) fun reason host1 v1 h1 => ?_
  rw [wpa_bind]
  refine watch_steady (m := if op.expectedCoreDigest = [] then _ else _)
    (.ite (.pure _) (.bind (steady_ask rfl) fun _ => .pure _)) ?_
  intro identityMismatch host2 v2 h2
  have hhost : Settled s.host host2 := h1.trans h2
  have hnow : Watched { s with host := host2 } { g with view := v2 } :=
    (hwatched.of_settled hhost).of_view v2
  rw [wpa_ite]
  refine ⟨fun _ => ⟨hnow, fun _ => ⟨⟨v2, rfl⟩, hhost, rfl⟩⟩, fun _ => ?_⟩
  dsimp only
  rw [wpa_ite]
  refine ⟨fun _ => watch_ended (coheres_refused F op reason identityMismatch) hnow, fun hr => ?_⟩
  rw [Bool.not_eq_true, Bool.not_eq_false] at hr
  subst hr
  have hattempt : Attempting s g := h
  refine wpa_seq (watch_rollBackAttempt F ((hattempt.of_settled hhost).of_view v2)) ?_
  intro error s' g' h'
  rw [wpa_ite]
  refine ⟨fun _ => watch_ended (coheres_fail F _ _) h', fun _ => ?_⟩
  exact watch_ended (coheres_refused F op reason identityMismatch) h'

/-- What follows an interruption check goes on with the attempt. -/
theorem watch_uninterrupted (h : Attempting s g)
    (hm : ∀ s' g', Attempting s' g' → s'.recovery = s.recovery → watching.wpa m (fun _ s'' g'' => Watched s'' g'') s' g') :
    watching.wpa (do
      if let some result ← interruption F op true then return result
      m) (fun _ s'' g'' => Watched s'' g'') s g := by
  refine wpa_seq (watch_interruption F op true h) ?_
  rintro (_ | result) s' g' ⟨h', hnone⟩
  · obtain ⟨⟨view, rfl⟩, hhost, hrecovery⟩ := hnone rfl
    refine hm s' _ ?_ hrecovery
    obtain ⟨host', recovery'⟩ := s'
    cases hrecovery
    exact (h.of_settled hhost).of_view view
  · exact h'

theorem attempts_uninterrupted (hm : Attempts m) : Attempts (do
      if let some result ← interruption F op true then return result
      m) :=
  fun _ _ h => watch_uninterrupted F op h fun s' g' h' _ => hm s' g' h'

/-- A journal step of an attempt, and what follows it. -/
theorem watch_record {stage : RecoveryStage} {f : String → RuntimeAct RuntimeResult}
    (h : Attempting s g)
    (hf : ∀ error s' g', Attempting s' g' → (error = "" → s'.recovery.stage = stage) → watching.wpa (f error) (fun _ s'' g'' => Watched s'' g'') s' g') :
    watching.wpa (onRecovery (DurableRuntimeRecovery.record stage) >>= f)
      (fun _ s'' g'' => Watched s'' g'') s g := by
  rw [wpa_bind]
  refine watch_onRecovery (DurableRuntimeRecovery.recorded_stage stage s.recovery) ?_
  exact fun error recovery view hstage =>
    hf error _ _ ((h.of_recovery recovery).of_view view) hstage

/-- What `watching` asks of the host alone. -/
abbrev HostWatched (s : Runtime) {α : Type} : α → RuntimeHost → Watch → Prop :=
  fun _ host g => Watched { s with host } g

theorem host_coheres {α : Type} {m : HostAct α} {host : RuntimeHost} (hm : Steady m)
    (h : Watched { s with host } g) : hosting.wpa m (HostWatched s) host g :=
  host_steady hm fun _ _ view hhost => (h.of_settled hhost).of_view view

/-- The guard is asked to finish and the host stands where it stood. -/
theorem finish_settled (finish : Bool) :
    Moves (I := Quiet) (fun c => unmarked c.1 = true) Settled (do
      if ¬ finish ∨ ¬ (← get).coreEgressValidated then return true
      if ¬ (← RuntimeHost.transitionGuardArmed) then return true
      return (← RuntimeHost.guardFinish) = "") := by
  refine .bind .get fun host => .ite (.pure _) ?_
  refine .bind RuntimeHost.steady_transitionGuardArmed.unmarked fun _ => .ite (.pure _) ?_
  refine .bind (.bind ?_ fun _ => ?_) fun error => .pure _
  · exact .bind .get fun host => Moves.perform (I := Quiet) rfl
  · exact Moves.perform (I := Quiet) rfl

/-- The commit makes the host run the staged profile. -/
theorem host_finishConnect {outcome : DpiOutcome} (h : Attempting s g)
    (hcommitted : s.recovery.stage = .committed) :
    hosting.wpa (finishConnect F op outcome) (HostWatched s) s.host g := by
  have hrunning : ∀ host : RuntimeHost, ∀ view, host.phase = .running →
      host.effectiveProfileDigest = s.host.stagedProfileDigest →
      host.stagedProfileDigest = s.host.stagedProfileDigest →
      host.initialized = s.host.initialized →
      host.profileStaged = s.host.profileStaged →
      Watched { s with host } { g with view } := by
    intro host view hphase heffective hstaged hinitialized hprofile
    have hdigest := h.digest
    constructor
    · constructor <;>
        simp_all [h.ready]
    · exact fun hp => h.fresh (hprofile.symm.trans hp)
    · intro hr
      exact absurd (h.recovering hr) h.idle.2
    · exact fun _ => hinitialized.trans h.ready
  unfold finishConnect
  rw [wpa_bind, wpa_modify, wpa_bind]
  refine host_moves (finish_settled op.finishTransitionGuard) fun unguarded host1 v1 h1 => ?_
  obtain ⟨-, hphase, heffective, hstaged, -, hinitialized, hprofile⟩ := h1
  have hnow := hrunning host1 v1 hphase heffective hstaged hinitialized hprofile
  rw [wpa_ite]
  refine ⟨fun _ => ?_, fun _ => ?_⟩
  · rw [wpa_bind, wpa_modify]
    refine host_coheres (RuntimeHost.steady_fail F _ _) ?_
    exact hrunning _ v1 hphase heffective hstaged hinitialized hprofile
  · split
    · rw [wpa_bind]
      refine host_steady (.bind (steady_localDpiOwnerCurrent op) fun b => ?_) ?_
      · cases b with
        | false => exact .pure _
        | true => exact steady_ask rfl
      intro current host2 v2 h2
      have hnow2 := (hnow.of_settled h2).of_view v2
      refine host_coheres (.bind (.onlyIf (.modify fun _ => ?_)) fun _ =>
        RuntimeHost.steady_snapshot F) hnow2
      exact ⟨rfl, rfl, rfl, rfl, rfl, rfl, rfl⟩
    · exact host_coheres (RuntimeHost.steady_snapshot F) hnow

theorem attempts_commitConnect (outcome : DpiOutcome) :
    Attempts (commitConnect F op outcome) := by
  intro s g h
  unfold commitConnect
  refine watch_record h fun verifiedError s1 g1 h1 _ => ?_
  rw [wpa_ite]
  refine ⟨fun _ => attempts_rollBackAndFail F _ _ _ _ h1, fun _ => ?_⟩
  refine watch_uninterrupted F op h1 fun s2 g2 h2 _ => ?_
  refine watch_record h2 fun committedError s3 g3 h3 hstage => ?_
  rw [wpa_ite]
  refine ⟨fun _ => attempts_rollBackAndFail F _ _ _ _ h3, fun hok => ?_⟩
  refine watch_uninterrupted F op h3 fun s4 g4 h4 hrecovery => ?_
  have hcommitted : s4.recovery.stage = .committed := by
    rw [hrecovery]
    exact hstage (not_not.mp hok)
  rw [wpa_bind]
  refine watch_steady (steady_admitTelegramWS F op) fun _ host view hhost => ?_
  refine watch_onHost (host_finishConnect F op ((h4.of_settled hhost).of_view view) hcommitted)

/-- An ordinary connect proves its egress, or the attempt is over. -/
theorem watch_verifyConnected (h : Attempting s g) :
    watching.wpa (verifyConnected F op) (fun r s' g' => Watched s' g' ∧
      (r = none → Attempting s' g')) s g := by
  unfold verifyConnected
  rw [wpa_withHost, wpa_ite]
  refine ⟨fun _ => ⟨h.toWatched, fun _ => h⟩, fun _ => ?_⟩
  rw [wpa_bind]
  refine watch_steady (RuntimeHost.steady_verifyEgress F false) fun failure host1 v1 h1 => ?_
  have hnow := (h.of_settled h1).of_view v1
  refine wpa_seq (watch_interruption F op true hnow) ?_
  rintro (_ | result) s' g' ⟨h', hnone⟩
  · obtain ⟨⟨view, rfl⟩, hhost, hrecovery⟩ := hnone rfl
    have hattempt : Attempting s' { g with view } := by
      obtain ⟨host', recovery'⟩ := s'
      cases hrecovery
      exact ((h.of_settled h1).of_settled hhost).of_view view
    dsimp only
    rw [wpa_ite]
    refine ⟨fun _ => ?_, fun _ => ⟨h', fun _ => hattempt⟩⟩
    refine wpa_seq (attempts_rollBackAndFail F _ _ _ _ hattempt) fun result s'' g'' h'' => ?_
    exact ⟨h'', fun hnone => absurd hnone (Option.some_ne_none result)⟩
  · exact ⟨h', fun hnone => absurd hnone (Option.some_ne_none result)⟩

theorem attempts_proveConnect : Attempts (proveConnect F op) := by
  intro s g h
  unfold proveConnect
  refine watch_record h fun appliedError s1 g1 h1 _ => ?_
  rw [wpa_ite]
  refine ⟨fun _ => attempts_rollBackAndFail F _ _ _ _ h1, fun _ => ?_⟩
  refine watch_uninterrupted F op h1 fun s2 g2 h2 _ => ?_
  refine wpa_seq (watch_verifyConnected F op h2) ?_
  rintro (_ | result) s3 g3 ⟨h3, hnone⟩
  · dsimp only
    rw [wpa_bind]
    refine watch_steady (steady_proveLocalDpi op) fun outcome host view hhost => ?_
    have hnow := ((hnone rfl).of_settled hhost).of_view view
    cases outcome with
    | withdrawFailed => exact attempts_rollBackAndFail F _ _ _ _ hnow
    | expired => exact attempts_rollBackAndFail F _ _ _ _ hnow
    | proved strategy admitted => exact attempts_commitConnect F op _ _ _ hnow
    | unproved => exact attempts_commitConnect F op _ _ _ hnow
  · exact h3

/-- Core is started right after the view of an idle host was marked. -/
theorem watch_startCore {Q : String → Runtime → Watch → Prop} (h : Attempting s g)
    (hQ : ∀ error view, Q error s { g with view }) : watching.wpa (startCore op) Q s g := by
  have hstart : ∀ e : Event Machine, isStart e.call = true →
      watching.guar { g with view := some s.host.view } e := by
    intro e he
    refine ⟨fun _ => ⟨h.restaged, s.host.view, rfl, h.idle⟩, fun hc => ?_⟩
    rw [hc] at he
    cases he
  unfold startCore
  rw [wpa_bind]
  refine watch_onHost (host_markHost ?_)
  rw [wpa_withHost, wpa_ite]
  refine ⟨fun _ => ?_, fun _ => ?_⟩
  · rw [wpa_perform]
    exact fun error _ => ⟨hstart _ rfl, hQ error none⟩
  · rw [wpa_perform]
    exact fun error _ => ⟨hstart _ rfl, hQ error none⟩

theorem attempts_startConnect : Attempts (startConnect F op) := by
  intro s g h
  unfold startConnect
  rw [wpa_bind]
  refine watch_onRecovery (DurableRuntimeRecovery.journals_begin _) fun beginError d view _ => ?_
  have h1 := (h.of_recovery d).of_view view
  rw [wpa_ite]
  refine ⟨fun _ => coheres_fail F _ _ _ _ h1.toWatched, fun _ => ?_⟩
  refine watch_uninterrupted F op h1 fun s2 g2 h2 _ => ?_
  refine watch_record h2 fun startedError s3 g3 h3 _ => ?_
  rw [wpa_ite]
  refine ⟨fun _ => attempts_rollBackAndFail F _ _ _ _ h3, fun _ => ?_⟩
  refine watch_uninterrupted F op h3 fun s4 g4 h4 _ => ?_
  refine watch_uninterrupted F op h4 fun s5 g5 h5 _ => ?_
  rw [wpa_bind]
  refine watch_startCore op h5 fun startError view => ?_
  have h6 := h5.of_view view
  rw [wpa_ite]
  refine ⟨fun _ => ?_, fun _ => ?_⟩
  · exact attempts_uninterrupted F op (attempts_rollBackAndFail F _ _) _ _ h6
  · exact attempts_uninterrupted F op (attempts_proveConnect F op) _ _ h6

/-- The checks at the entry make an attempt out of a coherent host. -/
theorem coheres_connectImpl : Coheres (connectImpl F op) := by
  intro s g h
  unfold connectImpl
  refine wpa_call fun _ _ => ⟨guar_of_marked, ?_⟩
  have h0 : Watched s (watching.next g ⟨.mark .connectImpl, ()⟩) := h.of_view none
  rw [wpa_withHost, wpa_ite]
  refine ⟨fun _ => coheres_fail F _ _ _ _ h0, fun hready => ?_⟩
  rw [not_or, not_not, not_not] at hready
  obtain ⟨hinitialized, hprofile⟩ := hready
  rw [wpa_ite]
  refine ⟨fun _ => coheres_fail F _ _ _ _ h0, fun _ => ?_⟩
  refine wpa_seq (watch_interruption F op false h0) ?_
  rintro (_ | result) s1 g1 ⟨h1, hnone⟩
  swap
  · exact h1
  obtain ⟨⟨view, rfl⟩, hhost, hrecovery⟩ := hnone rfl
  dsimp only
  rw [wpa_bind]
  refine watch_steady (m := if op.expectedCoreDigest = [] then _ else _)
    (.ite (.pure _) (steady_ask rfl)) fun supported host2 v2 h2 => ?_
  have hnow := (h1.of_settled h2).of_view v2
  rw [wpa_ite]
  refine ⟨fun _ => coheres_fail F _ _ _ _ hnow, fun _ => ?_⟩
  rw [wpa_ite]
  refine ⟨fun _ => coheres_snapshot F _ _ hnow, fun hrunning => ?_⟩
  rw [wpa_ite]
  refine ⟨fun _ => coheres_fail F _ _ _ _ hnow, fun hrecovering => ?_⟩
  rw [wpa_ite]
  refine ⟨fun _ => coheres_fail F _ _ _ _ hnow, fun _ => ?_⟩
  have hsettled : Settled s.host host2 := hhost.trans h2
  have hattempt : Attempting { s1 with host := host2 } { g with view := v2 } := by
    refine ⟨hnow, ⟨?_, ?_⟩, hsettled.initialized.trans hinitialized, ?_, h.fresh hprofile⟩
    · simpa only [RuntimeHost.view, hsettled.phase] using hrunning
    · simpa only [RuntimeHost.view, hsettled.phase] using hrecovering
    · simpa only [hsettled.staged] using h.profile hprofile
  rw [wpa_bind]
  refine watch_steady (steady_prepareConnect F op) fun prepared host3 v3 h3 => ?_
  have hattempt3 := (hattempt.of_settled h3).of_view v3
  cases prepared with
  | some result => exact hattempt3.toWatched
  | none => exact attempts_startConnect F op _ _ hattempt3

end Connecting

end Runtime

end Pokrov.Windows.Service
