import Pokrov.Windows.Service.Phases

/-!
# Revoked and renewed bytes

A revocation that Core confirmed, and a renewal or a configuration that reached
Core, leave nothing staged: the running profile is the staged one, and it is
taken back. From then on Core is not started until a profile is staged anew.
-/

namespace Pokrov.Windows.Service

open Codec Effects Contract

/-! ## Calls that hand Core new control material -/

def renews : MachineCall → Bool
  | .control (.renewSmartAccessLease _) => true
  | .control (.configureSmartAccessRuntimeControl _ _) => true
  | .control (.configureSmartAccessRenewal _ _) => true
  | _ => false

/-- The run remembers whether such a call was made. -/
def renewing : Contract Machine Bool where
  next := fun b e => b || renews e.call
  rely := fun _ _ => True
  guar := fun _ _ => True

theorem after_renewing (b : Bool) (tr : List (Event Machine)) :
    renewing.after b tr = (b || tr.any (renews ·.call)) := by
  induction tr generalizing b with
  | nil => simp
  | cons e tr ih =>
    rw [after_cons, ih, List.any_cons, ← Bool.or_assoc]
    rfl

theorem renews_of_plain {c : MachineCall} (h : plain c = true) : renews c = false := by
  cases c with
  | control which => cases which <;> first | rfl | cases h
  | _ => rfl

variable {α : Type} {b : Bool}

/-- Any program meets a contract that asks for nothing. -/
theorem renew_any {m : RuntimeAct α} {s : Runtime} : renewing.wpa m (fun _ _ _ => True) s b :=
  wpa_of_kept (J := fun _ => True) (fun _ _ _ _ => ⟨trivial, trivial⟩) trivial

abbrev hostRenewing : Contract Quiet Bool := renewing.restrict fun c => quiet c = true

theorem host_unrenewed {m : HostAct α} {Q : α → RuntimeHost → Bool → Prop} {host : RuntimeHost}
    (hm : Steady m) (hQ : ∀ a host', Settled host host' → Q a host' b) :
    hostRenewing.wpa m Q host b := by
  refine wpa_mono (wpa_of_moves (J := (· = b)) ?_ hm rfl) ?_
  · rintro b' e rfl he -
    refine ⟨trivial, ?_⟩
    show (b' || renews e.call.1) = b'
    rw [renews_of_plain he, Bool.or_false]
  · rintro a host' b' ⟨hhost, rfl⟩
    exact hQ a host' hhost

theorem renew_onHost {m : HostAct α} {Q : α → Runtime → Bool → Prop} {s : Runtime}
    (h : hostRenewing.wpa m (fun a host b' => Q a { s with host } b') s.host b) :
    renewing.wpa (onHost m) Q s b :=
  wpa_confined.mpr h

theorem unrenewed {m : HostAct α} {Q : α → Runtime → Bool → Prop} {s : Runtime} (hm : Steady m)
    (hQ : ∀ a host, Settled s.host host → Q a { s with host } b) : renewing.wpa (onHost m) Q s b :=
  renew_onHost (host_unrenewed hm hQ)

/-! ## What is running is what is staged -/

theorem Coherent.of_settled {s : Runtime} {host : RuntimeHost} (h : Coherent s)
    (hhost : Settled s.host host) : Coherent { s with host } :=
  (h.watched.of_settled hhost).toCoherent

/-- Taking the running profile back leaves nothing staged. -/
theorem Coherent.unstage {s : Runtime} (h : Coherent s) {profileDigest : Bytes}
    (hruns : s.host.runs profileDigest = true) :
    (s.host.unstage profileDigest).profileStaged = false := by
  simp only [RuntimeHost.runs, Bool.and_eq_true, decide_eq_true_eq] at hruns
  obtain ⟨⟨-, hrunning⟩, heffective⟩ := hruns
  unfold RuntimeHost.unstage
  split
  · rfl
  · rename_i hother
    rcases h.staged hrunning with hnone | hsame
    · rw [← Bool.not_eq_true]
      exact fun hp => h.profile hp hnone
    · exact absurd (hsame.trans heffective) hother

theorem Settled.runs {a b : RuntimeHost} (h : Settled a b) (profileDigest : Bytes) :
    b.runs profileDigest = a.runs profileDigest := by
  unfold RuntimeHost.runs
  rw [h.initialized, h.phase, h.effective]

namespace RuntimeHost

variable {b : Bool} {body : Bytes}

/-- A revocation that Core confirmed. -/
theorem unstaged_revoke {control : CoreControl} {profileDigest : Bytes}
    {unavailable revoked kept : String} {s : Runtime} (h : Coherent s)
    (hruns : s.host.runs profileDigest = true) (hunavailable : unavailable ≠ revoked)
    (hkept : kept ≠ revoked) :
    hostRenewing.wpa (revoke control profileDigest unavailable revoked kept)
      (fun r host _ => r.body = .text revoked → host.profileStaged = false) s.host b := by
  unfold revoke
  refine wpa_call fun result _ => ⟨trivial, ?_⟩
  rw [wpa_ite]
  refine ⟨fun _ hbody => ?_, fun _ => ?_⟩
  · have htext : unavailable = revoked := ResultBody.text.inj hbody
    exact absurd htext hunavailable
  rw [wpa_bind, wpa_onlyIf]
  refine ⟨fun _ _ => h.unstage hruns, fun hresult hbody => ?_⟩
  have htext : (if result = 1 then revoked else kept) = revoked := ResultBody.text.inj hbody
  rw [if_neg hresult] at htext
  exact absurd htext hkept

theorem unstaged_revokeSmartAccessLease {s : Runtime} (h : Coherent s) :
    hostRenewing.wpa (revokeSmartAccessLease body)
      (fun r host _ => r.body = .text "revoked=1" → host.profileStaged = false) s.host b := by
  unfold revokeSmartAccessLease
  split
  · exact fun hbody => absurd (ResultBody.text.inj hbody) (by decide)
  rw [wpa_bind, wpa_get, wpa_ite]
  refine ⟨fun _ hbody => absurd (ResultBody.text.inj hbody) (by decide), fun hruns => ?_⟩
  exact unstaged_revoke h (not_not.mp hruns) (by decide) (by decide)

theorem unstaged_revokeSmartAccessPolicy {s : Runtime} (h : Coherent s) :
    hostRenewing.wpa (revokeSmartAccessPolicy body)
      (fun r host _ => r.body = .text "revoked=1" → host.profileStaged = false) s.host b := by
  unfold revokeSmartAccessPolicy
  rw [wpa_ite]
  refine ⟨fun _ hbody => absurd (ResultBody.text.inj hbody) (by decide), fun _ => ?_⟩
  dsimp only
  rw [wpa_bind, wpa_get, wpa_ite]
  refine ⟨fun _ hbody => absurd (ResultBody.text.inj hbody) (by decide), fun hruns => ?_⟩
  exact unstaged_revoke h (not_not.mp hruns) (by decide) (by decide)

/-- The bytes are taken back before Core hears of the renewal. -/
theorem unstaged_renewSmartAccessLease {s : Runtime} (h : Coherent s) :
    hostRenewing.wpa (renewSmartAccessLease body)
      (fun _ host b => b = true → host.profileStaged = false) s.host false := by
  unfold renewSmartAccessLease
  split
  · exact fun hb => absurd hb Bool.false_ne_true
  rw [wpa_bind, wpa_get, wpa_ite]
  refine ⟨fun _ hb => absurd hb Bool.false_ne_true, fun hruns => ?_⟩
  rw [wpa_bind]
  refine host_unrenewed (steady_ask rfl) fun version host1 h1 => ?_
  rw [wpa_ite]
  refine ⟨fun _ hb => absurd hb Bool.false_ne_true, fun _ => ?_⟩
  have hunstaged := (h.of_settled h1).unstage ((h1.runs _).trans (not_not.mp hruns))
  rw [wpa_bind, wpa_modify]
  refine wpa_call fun result _ => ⟨trivial, ?_⟩
  rw [wpa_ite]
  exact ⟨fun _ _ => hunstaged, fun _ _ => hunstaged⟩

theorem unstaged_configureSmartAccessRuntimeControl {F : Functions} {renewal qa : Bool}
    {s : Runtime} (h : Coherent s) :
    hostRenewing.wpa (configureSmartAccessRuntimeControl F body renewal qa)
      (fun _ host b => b = true → host.profileStaged = false) s.host false := by
  unfold configureSmartAccessRuntimeControl
  rw [wpa_ite]
  refine ⟨fun _ hb => absurd hb Bool.false_ne_true, fun _ => ?_⟩
  dsimp only
  rw [wpa_bind, wpa_get, wpa_ite]
  refine ⟨fun _ hb => absurd hb Bool.false_ne_true, fun hruns => ?_⟩
  rw [wpa_bind]
  refine host_unrenewed (steady_ask rfl) fun version host1 h1 => ?_
  rw [wpa_ite]
  refine ⟨fun _ hb => absurd hb Bool.false_ne_true, fun _ => ?_⟩
  rw [wpa_ite]
  refine ⟨fun _ hb => absurd hb Bool.false_ne_true, fun _ => ?_⟩
  rw [wpa_ite]
  refine ⟨fun _ hb => absurd hb Bool.false_ne_true, fun _ => ?_⟩
  have hunstaged := (h.of_settled h1).unstage ((h1.runs _).trans (not_not.mp hruns))
  rw [wpa_bind, wpa_modify]
  refine wpa_call fun result _ => ⟨trivial, ?_⟩
  rw [wpa_ite]
  refine ⟨fun _ _ => hunstaged, fun _ => ?_⟩
  rw [wpa_ite]
  refine ⟨fun _ => ?_, fun _ _ => hunstaged⟩
  refine host_unrenewed (steady_admitFirstProvider F _) fun _ host2 h2 _ => ?_
  exact h2.profileStaged.trans hunstaged

end RuntimeHost

/-! ## Catalog revocations -/

namespace Runtime

variable (F : Functions)

/-- The result shows the state and says nothing else. -/
def Shows (m : RuntimeAct RuntimeResult) : Prop :=
  ∀ s b, renewing.wpa m (fun r _ _ => r.body = .snapshot) s b

namespace Shows

theorem bind {α : Type} {m : RuntimeAct α} {f : α → RuntimeAct RuntimeResult}
    (hf : ∀ a, Shows (f a)) : Shows (m >>= f) := by
  intro s b
  exact wpa_seq renew_any fun a s' b' _ => hf a s' b'

theorem ite {p : Prop} [Decidable p] {m n : RuntimeAct RuntimeResult} (hm : Shows m)
    (hn : Shows n) : Shows (if p then m else n) := by
  split
  · exact hm
  · exact hn

end Shows

theorem shows_snapshot : Shows (snapshot F) := by
  intro s b
  refine renew_onHost ?_
  unfold RuntimeHost.snapshot RuntimeHost.snapshotBody
  rw [wpa_bind, wpa_bind]
  exact host_unrenewed (RuntimeHost.steady_readLocalDpiRuntimeObservation F) fun _ _ _ => rfl

theorem shows_fail (status : Status) (failure : String) : Shows (fail F status failure) := by
  intro s b
  refine renew_onHost ?_
  unfold RuntimeHost.fail RuntimeHost.snapshotBody
  rw [wpa_bind, wpa_modify, wpa_bind, wpa_bind]
  exact host_unrenewed (RuntimeHost.steady_readLocalDpiRuntimeObservation F) fun _ _ _ => rfl

theorem shows_cancelProtectedHandoff : Shows (cancelProtectedHandoff F) := by
  refine .bind fun host => .ite (shows_fail F _ _) (.bind fun error => ?_)
  refine .ite (shows_fail F _ _) (.bind fun host => .ite ?_ ?_)
  · exact .bind fun lifted => .ite (shows_fail F _ _) (shows_snapshot F)
  refine .bind fun error => .ite (shows_fail F _ _) (.bind fun _ => .bind fun lifted => ?_)
  exact .ite (shows_fail F _ _) (shows_snapshot F)

/-- A protected stop that took the bytes back. -/
theorem unstaged_stopAndUnstage {text : String} {s : Runtime} {b : Bool} :
    renewing.wpa (stopAndUnstage F (pure (RuntimeHost.answer .ok text)))
      (fun r s' _ => r.body = .text text → s'.host.profileStaged = false) s b := by
  unfold stopAndUnstage
  refine wpa_seq (shows_cancelProtectedHandoff F s b) fun stopped s' b' hshown => ?_
  rw [wpa_ite]
  refine ⟨fun _ hbody => ?_, fun _ _ => rfl⟩
  have hbody' : stopped.body = .text text := hbody
  rw [hshown] at hbody'
  cases hbody'

/-- A refusal that shows the state. -/
theorem unstaged_fail {text failure : String} {status : Status} {s : Runtime} {b : Bool} :
    renewing.wpa (fail F status failure)
      (fun r s' _ => r.body = .text text → s'.host.profileStaged = false) s b := by
  refine wpa_mono (shows_fail F status failure s b) fun r s' _ hshown hbody => ?_
  rw [hshown] at hbody
  cases hbody

theorem unstaged_revokeRoutingCatalog {profileDigest : Bytes} {s : Runtime} {b : Bool}
    (h : Coherent s) :
    renewing.wpa (revokeRoutingCatalog F profileDigest)
      (fun r s' _ => r.body = .text "catalog_revoked=1" → s'.host.profileStaged = false) s b := by
  unfold revokeRoutingCatalog
  rw [wpa_ite]
  refine ⟨fun _ hbody => absurd (ResultBody.text.inj hbody) (by decide), fun _ => ?_⟩
  rw [wpa_withHost, wpa_ite]
  refine ⟨fun _ hbody => absurd (ResultBody.text.inj hbody) (by decide), fun hruns => ?_⟩
  rw [wpa_bind]
  refine unrenewed (RuntimeHost.steady_withdrawTelegramWS []) fun withdrawn host1 h1 => ?_
  rw [wpa_ite]
  refine ⟨fun _ => unstaged_fail F, fun _ => ?_⟩
  rw [wpa_ite]
  refine ⟨fun _ => unstaged_stopAndUnstage F, fun _ => ?_⟩
  rw [wpa_bind]
  refine unrenewed RuntimeHost.steady_executorStop fun stopped host2 h2 => ?_
  have hsettled : Settled s.host host2 := h1.trans h2
  rw [wpa_ite]
  refine ⟨fun _ => unstaged_fail F, fun _ => renew_onHost ?_⟩
  refine RuntimeHost.unstaged_revoke (h.of_settled hsettled) ?_ (by decide) (by decide)
  exact (hsettled.runs _).trans (not_not.mp hruns)

theorem unstaged_revokeRoutingCatalogService {body : Bytes} {s : Runtime} {b : Bool}
    (h : Coherent s) :
    renewing.wpa (revokeRoutingCatalogService F body)
      (fun r s' _ => r.body = .text "catalog_revoked=1" → s'.host.profileStaged = false) s b := by
  unfold revokeRoutingCatalogService
  rw [wpa_ite]
  refine ⟨fun _ hbody => absurd (ResultBody.text.inj hbody) (by decide), fun _ => ?_⟩
  dsimp only
  rw [wpa_withHost, wpa_ite]
  refine ⟨fun _ hbody => absurd (ResultBody.text.inj hbody) (by decide), fun hruns => ?_⟩
  rw [wpa_bind]
  refine unrenewed (.ite (RuntimeHost.steady_withdrawTelegramWS _) (.pure _)) ?_
  intro withdrawn host1 h1
  rw [wpa_ite]
  refine ⟨fun _ => unstaged_fail F, fun _ => ?_⟩
  rw [wpa_ite]
  refine ⟨fun _ => unstaged_stopAndUnstage F, fun _ => ?_⟩
  rw [wpa_bind]
  refine unrenewed (.ite RuntimeHost.steady_executorStop (.pure _)) fun stopped host2 h2 => ?_
  have hsettled : Settled s.host host2 := h1.trans h2
  rw [wpa_ite]
  refine ⟨fun _ => unstaged_fail F, fun _ => renew_onHost ?_⟩
  refine RuntimeHost.unstaged_revoke (h.of_settled hsettled) ?_ (by decide) (by decide)
  exact (hsettled.runs _).trans (not_not.mp hruns)

/-! ## Runs -/

/-- The running bytes were revoked or renewed by this operation: Core confirmed
the revocation, or the renewal or configuration reached Core. -/
def Outdated (operation : Operation) (result : Option RuntimeResult)
    (tr : List (Event Machine)) : Prop :=
  match operation with
  | .revokeSmartAccessLease _ | .revokeSmartAccessPolicy _ =>
    ∃ r, result = some r ∧ r.body = .text "revoked=1"
  | .revokeRoutingCatalog _ | .revokeRoutingCatalogService _ =>
    ∃ r, result = some r ∧ r.body = .text "catalog_revoked=1"
  | .renewSmartAccessLease _ =>
    ∃ target r, ⟨.control (.renewSmartAccessLease target), r⟩ ∈ tr
  | .configureSmartAccessRuntimeControl _ false _ =>
    ∃ digest config r, ⟨.control (.configureSmartAccessRuntimeControl digest config), r⟩ ∈ tr
  | .configureSmartAccessRuntimeControl _ true _ =>
    ∃ digest config r, ⟨.control (.configureSmartAccessRenewal digest config), r⟩ ∈ tr
  | _ => False

section Ends

variable {m : RuntimeAct RuntimeResult} {s s' : Runtime} {result : Option RuntimeResult}
  {tr : List (Event Machine)}

/-- What a program promises holds when its result is handed on. -/
theorem renew_ends {Q : RuntimeResult → Runtime → Bool → Prop} (hm : renewing.wpa m Q s false)
    (hrun : Steps ((some <$> m) s) tr (.ret (result, s'))) :
    ∃ r, result = some r ∧ Q r s' (tr.any (renews ·.call)) := by
  have hwp : renewing.wpa (some <$> m) (fun result s' b => ∃ r, result = some r ∧ Q r s' b) s
      false := by
    refine renewing.wp_bind.mpr (renewing.wp_mono hm fun x b hQ => ?_)
    exact ⟨x.1, rfl, hQ⟩
  have hend := (renewing.wp_steps hwp hrun (renewing.along_of_forall (fun _ _ => trivial) _ _)).2
  rw [after_renewing, Bool.false_or] at hend
  exact hend

theorem unstaged_of_confirmed {revoked : String}
    (hm : renewing.wpa m
      (fun r s' _ => r.body = .text revoked → s'.host.profileStaged = false) s false)
    (hrun : Steps ((some <$> m) s) tr (.ret (result, s')))
    (hconfirmed : ∃ r, result = some r ∧ r.body = .text revoked) :
    s'.host.profileStaged = false := by
  obtain ⟨r, hresult, hunstaged⟩ := renew_ends hm hrun
  obtain ⟨r', hresult', hbody⟩ := hconfirmed
  cases hresult.symm.trans hresult'
  exact hunstaged hbody

theorem unstaged_of_reached {e : Event Machine}
    (hm : renewing.wpa m (fun _ s' b => b = true → s'.host.profileStaged = false) s false)
    (hrun : Steps ((some <$> m) s) tr (.ret (result, s'))) (he : e ∈ tr)
    (hrenews : renews e.call = true) : s'.host.profileStaged = false := by
  obtain ⟨r, -, hunstaged⟩ := renew_ends hm hrun
  exact hunstaged (List.any_eq_true.mpr ⟨e, he, hrenews⟩)

end Ends

/-- Outdated bytes are not staged any more. -/
theorem unstaged_run {operation : Operation} {s s' : Runtime} {result : Option RuntimeResult}
    {tr : List (Event Machine)} (h : Coherent s)
    (hrun : Steps (operation.run F s) tr (.ret (result, s')))
    (houtdated : Outdated operation result tr) : s'.host.profileStaged = false := by
  cases operation with
  | revokeSmartAccessLease body =>
    exact unstaged_of_confirmed (renew_onHost (RuntimeHost.unstaged_revokeSmartAccessLease h))
      hrun houtdated
  | revokeSmartAccessPolicy body =>
    exact unstaged_of_confirmed (renew_onHost (RuntimeHost.unstaged_revokeSmartAccessPolicy h))
      hrun houtdated
  | revokeRoutingCatalog digest =>
    exact unstaged_of_confirmed (unstaged_revokeRoutingCatalog F h) hrun houtdated
  | revokeRoutingCatalogService body =>
    exact unstaged_of_confirmed (unstaged_revokeRoutingCatalogService F h) hrun houtdated
  | renewSmartAccessLease body =>
    obtain ⟨target, r, he⟩ := houtdated
    exact unstaged_of_reached (renew_onHost (RuntimeHost.unstaged_renewSmartAccessLease h)) hrun
      he rfl
  | configureSmartAccessRuntimeControl body renewal qa =>
    have hconfigured : hostRenewing.wpa
        (RuntimeHost.configureSmartAccessRuntimeControl F body renewal qa)
        (fun _ host b => b = true → host.profileStaged = false) s.host false :=
      RuntimeHost.unstaged_configureSmartAccessRuntimeControl h
    cases renewal with
    | false =>
      obtain ⟨digest, config, r, he⟩ := houtdated
      exact unstaged_of_reached (renew_onHost hconfigured) hrun he rfl
    | true =>
      obtain ⟨digest, config, r, he⟩ := houtdated
      exact unstaged_of_reached (renew_onHost hconfigured) hrun he rfl
  | _ => exact houtdated.elim

end Runtime

/-- A profile becomes fresh when it is staged. -/
theorem fresh_staged {g : Watch} {e : Event Machine} (h : g.fresh = false)
    (hfresh : ¬ (watching.next g e).fresh = false) : e = ⟨.mark .staged, ()⟩ := by
  obtain ⟨c, r⟩ := e
  cases c with
  | mark m =>
    cases m with
    | staged => rfl
    | _ => exact absurd h hfresh
  | _ => exact absurd h hfresh

/-- **Revoked and renewed bytes never restart.** After an operation that
outdated the running bytes, in every further sequence of operations, cut off
anywhere, each start of Core comes after a profile was staged. -/
theorem outdated_never_restart {F : Functions} {s s' : Runtime}
    (hreach : Runtime.Reachable F s) {operation : Runtime.Operation}
    {result : Option RuntimeResult} {tr : List (Event Machine)}
    (hrun : Steps (operation.run F s) tr (.ret (result, s')))
    (houtdated : Runtime.Outdated operation result tr) :
    ∀ operations tr' p, Steps (Runtime.session F operations s') tr' p →
      ∀ pre e post, tr' = pre ++ e :: post → isStart e.call = true →
        ⟨.mark .staged, ()⟩ ∈ pre := by
  have hcoherent := coherent_of_reachable hreach
  have hunstaged := Runtime.unstaged_run F hcoherent hrun houtdated
  have hwp := Runtime.coheres_run F operation s (.begin s) hcoherent.watched
  have hend := (watching.wp_steps hwp hrun (watching.along_of_forall (fun _ _ => trivial) _ _)).2
  have hcoherent' : Coherent s' := Watched.toCoherent hend
  rintro operations tr' p hlater pre e post rfl hstart
  have hbegin : (Watch.begin s').fresh = false := hunstaged
  obtain ⟨hguar, -⟩ := watching.wp_steps
    (Runtime.coheres_session F operations s' (.begin s') hcoherent'.watched) hlater
    (watching.along_of_forall (fun _ _ => trivial) _ _)
  obtain ⟨hfresh, -⟩ := (Along.at watching hguar).1 hstart
  have hlost : ¬ (watching.after (.begin s') pre).fresh = false := by
    rw [hfresh]
    decide
  obtain ⟨staged, hmem, rfl⟩ := watching.exists_of_lost (A := fun g => g.fresh = false)
    (P := (· = ⟨.mark .staged, ()⟩)) (fun _ _ => fresh_staged) hbegin hlost
  exact hmem

/-- Core has what it is asked to revoke. -/
def revokingAnswer : (c : MachineCall) → Machine.Answer c
  | .control _ => (1 : Int)
  | c => plainAnswer c

/-- A connection, a revocation of its policy, and two attempts after it. -/
def connectedRun : List (Event Machine) × (Unit × Runtime) :=
  (Runtime.session plainFunctions (sampleOperations.take 2) (Runtime.boot plainParts true none)).play
    (fun _ => plainAnswer) []

def revocation : Runtime.Operation :=
  .revokeSmartAccessPolicy (List.replicate 64 '0'.toUInt8 ++ text ":1")

def revokingRun : List (Event Machine) × (Option RuntimeResult × Runtime) :=
  (revocation.run plainFunctions connectedRun.2.2).play (fun _ => revokingAnswer) []

/-- The first attempt finds nothing staged. -/
def restartOperations : List Runtime.Operation :=
  [.disconnect true, .connect (List.replicate 64 '0'.toUInt8) none] ++ sampleOperations.take 2

def restartingRun : List (Event Machine) × (Unit × Runtime) :=
  (Runtime.session plainFunctions restartOperations revokingRun.2.2).play (fun _ => plainAnswer) []

theorem revokingRun_restages :
    ∃ pre e post, restartingRun.1 = pre ++ e :: post ∧ isStart e.call = true ∧
      ⟨.mark .staged, ()⟩ ∈ pre := by
  have hreach : Runtime.Reachable plainFunctions connectedRun.2.2 := by
    rw [connectedRun]
    exact Runtime.reachable_play _ _ _ _ _ _
  have hrun : Steps (revocation.run plainFunctions connectedRun.2.2) revokingRun.1
      (.ret (revokingRun.2.1, revokingRun.2.2)) := by
    rw [revokingRun]
    exact steps_play_pair (I := Machine) _ _
  have houtdated : Runtime.Outdated revocation revokingRun.2.1 revokingRun.1 := by
    have hresult : revokingRun.2.1 = some (RuntimeHost.answer .ok "revoked=1") := by
      decide +kernel
    exact ⟨_, hresult, rfl⟩
  have hlater : Steps (Runtime.session plainFunctions restartOperations revokingRun.2.2)
      restartingRun.1 (.ret restartingRun.2) := by
    rw [restartingRun]
    exact steps_play (I := Machine) _ _ []
  have hstarts : restartingRun.1.any (isStart ·.call) = true := by decide +kernel
  obtain ⟨e, he, hsplit⟩ := split_at_start hstarts
  have hstaged := outdated_never_restart hreach hrun houtdated _ _ _ hlater _ _ _ hsplit he
  exact ⟨_, e, _, hsplit, he, hstaged⟩

end Pokrov.Windows.Service
