import Pokrov.Linux.Service.Phase

/-!
# Every program of the daemon keeps its phase

What the programs under `mu` do to the fields and to the tunnel, and the requests
and watchers that run them. A stop that succeeds leaves no tunnel; a tunnel that
has come up has the phase `running` from the next assignment on.
-/

namespace Pokrov.Linux.Service

open Effects Outline

variable {P : Payloads} {α β : Type} {task : Task}

/-! ## Stopping and recovering -/

variable {f : Fields} {t : Option Nat} {p : Fields → Option Nat → Prop} {response : Response}

theorem Phased.of_none (h : f.transaction = none ∨ f.phase ≠ .running ∨ f.lastFailure ≠ "") :
    Phased f none where
  up := nofun
  down := fun hphase hfailure htransaction => by
    rcases h with h | h | h
    · exact absurd h htransaction
    · exact absurd hphase h
    · exact absurd hfailure h

/-- No transaction, no tunnel. -/
theorem Phased.none_of (h : Phased f t) (htransaction : f.transaction = none) : t = none := by
  rcases t with _ | transaction
  · rfl
  · exact absurd ((h.up transaction rfl).2.1.symm.trans htransaction) nofun

/-- What a failure is called does not matter. -/
theorem Phased.failed {f g : Fields} (h : Phased f t) (hphase : g.phase = f.phase)
    (htransaction : g.transaction = f.transaction)
    (hrecovery : g.recoveryRequired = f.recoveryRequired)
    (hfailure : g.lastFailure = f.lastFailure ∨ g.lastFailure ≠ "") : Phased g t where
  up := fun transaction ht => by
    rw [hphase, htransaction, hrecovery]
    exact h.up transaction ht
  down := fun hrunning hnone hsome => by
    rcases hfailure with hfailure | hfailure
    · rw [htransaction]
      exact h.down (hphase ▸ hrunning) (hfailure ▸ hnone) (htransaction ▸ hsome)
    · exact absurd hnone hfailure

/-- The program keeps the phase and the tunnel together. -/
abbrev Steadies (P : Payloads) (task : Task) (m : Locked α) : Prop :=
  Carries P task m Phased fun _ => Phased

theorem Steadies.pure (a : α) : Steadies P task (pure a) :=
  Carries.pure fun _ _ h => h

theorem Steadies.modify {g : Fields → Fields} (hphase : ∀ f, (g f).phase = f.phase)
    (htransaction : ∀ f, (g f).transaction = f.transaction)
    (hrecovery : ∀ f, (g f).recoveryRequired = f.recoveryRequired)
    (hfailure : ∀ f, (g f).lastFailure = f.lastFailure ∨ (g f).lastFailure ≠ "") :
    Steadies P task (MonadStateOf.modifyGet fun f => ((), g f)) :=
  Carries.modify fun f _ h => h.failed (hphase f) (htransaction f) (hrecovery f) (hfailure f)

/-- Nothing is up and nothing is left of a transaction. -/
def Idle (f : Fields) (t : Option Nat) : Prop := t = none ∧ f.transaction = none

theorem Idle.phased (h : Idle f t) : Phased f t := by
  obtain ⟨rfl, htransaction⟩ := h
  exact .of_none (.inl htransaction)

theorem carries_clearRuntime {q : Unit → Fields → Option Nat → Prop}
    (h : ∀ f t, p f t → q () { f with transaction := none, core := none } t) :
    Carries P task clearRuntime p q :=
  .bind (.modify h) fun _ => .silent rfl

theorem carries_recoverSystem : Carries P task (call .recoverSystem) p fun r f t =>
      if r = .ok false then p f t else t = none := by
  refine .called rfl fun thread n f r h _ _ => ?_
  rw [tunnel_called]
  rcases r with error | found
  · rfl
  · cases found
    · exact h
    · rfl

/-- Whatever is found, what there is of a transaction is gone or the tunnel is
where it was. -/
theorem carries_recoverPending (hp : ∀ f t, p f t → p { f with recoveryRequired := false } t) :
    Carries P task recoverPending p fun r f t =>
      (p f t ∨ Idle f t ∨ t = none ∧ f.phase = .configStaged) ∧
        (r = none → f.recoveryRequired = false) := by
  refine .bind carries_recoverSystem fun outcome => ?_
  rcases outcome with error | found
  · refine .bind (q := fun _ f t => t = none ∧ f.phase = .configStaged) (.modify ?_) fun _ => ?_
    · exact fun f t h => ⟨h, rfl⟩
    · exact .pure fun f t h => ⟨.inr (.inr h), nofun⟩
  cases found with
  | false =>
    refine .bind (q := fun _ f t => p f t ∧ f.recoveryRequired = false) (.modify ?_) fun _ => ?_
    · exact fun f t h => ⟨hp f t h, rfl⟩
    · exact .pure fun f t h => ⟨.inl h.1, fun _ => h.2⟩
  | true =>
    refine .bind (q := fun _ f t => t = none ∧ f.recoveryRequired = false) (.modify ?_) fun _ => ?_
    · exact fun f t h => ⟨h, rfl⟩
    refine .ite (fun h => absurd rfl h) fun _ => ?_
    refine .bind (q := fun _ f t => Idle f t ∧ f.recoveryRequired = false)
      (carries_clearRuntime fun f t h => ⟨⟨h.1, rfl⟩, h.2⟩) fun _ => ?_
    refine .bind (q := fun _ f t => Idle f t ∧ f.recoveryRequired = false)
      (.modify fun f t h => h) fun _ => .bind (.silent rfl) fun exist => ?_
    refine .bind (q := fun _ f t => Idle f t ∧ f.recoveryRequired = false)
      (.modify fun f t h => h) fun _ => ?_
    exact .pure fun f t h => ⟨.inr (.inl h.1), fun _ => h.2⟩

theorem phased_recovered (hp : p f t → Phased f t)
    (h : p f t ∨ Idle f t ∨ t = none ∧ f.phase = .configStaged) : Phased f t := by
  rcases h with h | h | ⟨rfl, hphase⟩
  · exact hp h
  · exact h.phased
  · exact .of_none (.inr (.inl (by simp [hphase])))

theorem carries_recoverPending_phased : Carries P task recoverPending Phased fun r f t =>
    Phased f t ∧ (r = none → f.recoveryRequired = false) := by
  refine (carries_recoverPending fun f t h => ⟨fun transaction ht => ?_, h.down⟩).mono
    (fun _ _ => id) fun r f t h => ⟨phased_recovered id h.1, h.2⟩
  obtain ⟨hphase, htransaction, -⟩ := h.up transaction ht
  exact ⟨hphase, htransaction, rfl⟩

theorem carries_recoverPending_down :
    Carries P task recoverPending (fun _ t => t = none) fun _ _ t => t = none := by
  refine (carries_recoverPending fun f t h => h).mono (fun _ _ => id) fun r f t h => ?_
  rcases h.1 with h | h | h
  · exact h
  · exact h.1
  · exact h.1

theorem steadies_recoverPending : Steadies P task recoverPending :=
  carries_recoverPending_phased.mono (fun _ _ => id) fun _ _ _ h => h.1

theorem carries_recoverExited : Carries P task recoverExited (fun _ t => t = none) fun r f t =>
    t = none ∧ (r = true → f.transaction = none) := by
  refine .bind (q := fun _ _ t => t = none) (.get fun f t h => h) fun f0 => ?_
  cases f0.core with
  | none => exact .pure fun f t h => ⟨h, nofun⟩
  | some core =>
    refine .bind (.silent rfl) fun exited => .ite (fun _ => .pure fun f t h => ⟨h, nofun⟩) fun _ => ?_
    refine .bind carries_recoverPending_down fun r => ?_
    refine .ite (fun _ => .pure fun f t h => ⟨h, nofun⟩) fun _ => ?_
    refine .bind (q := fun f1 f t => t = none ∧ f1 = f) (.get fun f t h => ⟨h, rfl⟩) fun f1 => ?_
    refine .pure fun f t h => ⟨h.1, fun hnone => ?_⟩
    rw [← h.2]
    simpa using hnone

/-- A stop that succeeds leaves no tunnel. -/
theorem carries_stop : Carries P task stop Phased fun r f t =>
    Phased f t ∧ (r = true → t = none) := by
  refine .bind (q := fun f0 f t => f0 = f ∧ Phased f t) (.get fun f t h => ⟨rfl, h⟩) fun f0 => ?_
  cases htransaction : f0.transaction with
  | none =>
    have hnone : ∀ f t, f0 = f ∧ Phased f t → Phased f t ∧ t = none := by
      rintro f t ⟨rfl, h⟩
      exact ⟨h, h.none_of htransaction⟩
    refine .ite (fun _ => .pure fun f t h => ⟨(hnone f t h).1, fun _ => (hnone f t h).2⟩) fun _ => ?_
    have hrecover : Carries P task recoverPending (fun f t => f0 = f ∧ Phased f t)
        fun _ f t => Phased f t ∧ t = none := by
      refine (carries_recoverPending (p := fun f t => Phased f t ∧ t = none) ?_).mono hnone ?_
      · rintro f t ⟨h, rfl⟩
        exact ⟨⟨nofun, h.down⟩, rfl⟩
      · rintro r f t ⟨h, -⟩
        refine ⟨phased_recovered (p := fun f t => Phased f t ∧ t = none) And.left h, ?_⟩
        rcases h with h | h | h
        · exact h.2
        · exact h.1
        · exact h.1
    exact .bind hrecover fun r => .pure fun f t h => ⟨h.1, fun _ => h.2⟩
  | some transaction =>
    refine .bind (q := fun _ _ t => t = none) (.called rfl fun thread n f r _ _ _ => ?_) fun restored => ?_
    · rw [tunnel_called]
      rfl
    refine .ite (fun _ => ?_) fun _ => ?_
    · refine .bind (q := fun _ => Idle) (carries_clearRuntime fun f t h => ⟨h, rfl⟩) fun _ => ?_
      refine .bind (q := fun _ => Idle) (.modify fun f t h => h) fun _ => ?_
      exact .pure fun f t h => ⟨h.phased, fun _ => h.1⟩
    · refine .bind carries_recoverExited fun recovered => .ite (fun hrecovered => ?_) fun _ => ?_
      · refine .pure fun f t h => ?_
        obtain ⟨rfl, htransaction⟩ := h
        exact ⟨.of_none (.inl (htransaction hrecovered)), fun _ => rfl⟩
      · refine .bind (q := fun _ => Phased) (.modify ?_) fun _ => .pure fun f t h => ⟨h, nofun⟩
        rintro f t ⟨rfl, -⟩
        exact .of_none (.inr (.inr (by simp)))

theorem steadies_stop : Steadies P task stop := carries_stop.mono (fun _ _ => id) fun _ _ _ h => h.1

theorem steadies_settleExitedCore (core : Nat) : Steadies P task (settleExitedCore core) := by
  refine .bind (.silent rfl) fun expired => .bind steadies_stop fun stopped => ?_
  refine .ite (fun _ => Steadies.modify (fun _ => rfl) (fun _ => rfl) (fun _ => rfl) fun f => ?_)
    fun _ => Steadies.pure _
  cases expired
  · exact .inr (by simp)
  · exact .inr (by simp)

theorem steadies_awaitTunnelGone (error : RecoverError) (rounds : Nat) :
    Steadies P task (awaitTunnelGone error rounds) := by
  induction rounds with
  | zero => exact Steadies.pure _
  | succ rounds ih =>
    refine .bind (.silent rfl) fun observed => ?_
    cases observed with
    | timeout => exact Steadies.pure _
    | unreadable => exact Steadies.pure _
    | live => exact ih
    | gone => exact steadies_recoverPending

theorem steadies_recover : Steadies P task recover := by
  refine .bind steadies_recoverPending fun outcome => ?_
  split
  · exact steadies_awaitTunnelGone _ _
  · exact Steadies.pure _

theorem steadies_close : Steadies P task close := by
  refine .bind (q := fun _ => Phased) ?_ fun _ => .bind (.silent rfl) fun _ => steadies_stop
  exact Steadies.modify (fun _ => rfl) (fun _ => rfl) (fun _ => rfl) fun _ => .inl rfl

/-! ## Responses -/

theorem Honest.of_none {request : Request} (hshown : response.snapshot = none)
    (hok : request.isConnect = true → response.ok = false) : Honest request response t where
  shown := fun _ h => absurd (hshown.symm.trans h) nofun
  connected := fun hconnect h => absurd ((hok hconnect).symm.trans h) nofun

theorem honest_failure (request : Request) (errorCode messageCode : String) (t : Option Nat) :
    Honest request (.failure request errorCode messageCode) t :=
  .of_none rfl fun _ => rfl

/-- A snapshot that has been taken of these fields. -/
theorem Honest.of_shows {request : Request} {shown : Snapshot} (hf : Phased f t)
    (hresponse : response.snapshot = some shown) (hshows : Shows f shown)
    (hconnect : request.isConnect = true → t ≠ none) : Honest request response t where
  shown := by
    intro shown' hshown hready hup
    obtain rfl : shown = shown' := Option.some.inj (hresponse.symm.trans hshown)
    obtain ⟨transaction, rfl⟩ := Option.ne_none_iff_exists'.mp hup
    obtain ⟨hphase, -, hrecovery⟩ := hf.up transaction rfl
    exact hshows hready hphase hrecovery
  connected := fun h _ => hconnect h

/-- The program keeps the phase and answers honestly. -/
abbrev Answers (P : Payloads) (task : Task) (request : Request) (m : Locked Response) : Prop :=
  Carries P task m Phased fun r f t => Phased f t ∧ Honest request r t

variable {request : Request}

theorem Answers.failure (errorCode messageCode : String) :
    Answers P task request (pure (.failure request errorCode messageCode)) :=
  Carries.pure fun _ _ h => ⟨h, honest_failure request errorCode messageCode _⟩

theorem answers_runtimeFailure (request : Request) :
    Answers P task request (runtimeFailure request) := by
  refine .bind (q := fun _ => Phased) ?_ fun _ => Answers.failure _ _
  exact Steadies.modify (fun _ => rfl) (fun _ => rfl) (fun _ => rfl) fun _ => .inr (by simp)

/-- A response that shows a fresh snapshot. -/
theorem answers_snapshot (result : HostResult) {respond : Snapshot → Response}
    (hrespond : ∀ f shown, Shows f shown → ∃ shown', (respond shown).snapshot = some shown' ∧ Shows f shown')
    (hconnect : request.isConnect = false) :
    Answers P task request (do return respond (← snapshot result)) := by
  refine .bind (.yields (yields_snapshot result)) fun shown => .pure fun f t h => ⟨h.2, ?_⟩
  obtain ⟨shown', hresponse, hshows⟩ := hrespond f shown h.1
  exact .of_shows h.2 hresponse hshows fun h => absurd (hconnect.symm.trans h) nofun

theorem answers_succeed (hconnect : request.isConnect = false) :
    Answers P task request (succeed request) :=
  .bind (.silent rfl) fun result =>
    answers_snapshot result (fun _ shown h => ⟨shown, rfl, h⟩) hconnect

/-- Only the snapshot and the success of a response have to be honest. -/
theorem Honest.same {response response' : Response} (h : Honest request response t)
    (hshown : response'.snapshot = response.snapshot) (hok : response'.ok = response.ok) :
    Honest request response' t :=
  ⟨by rw [hshown]; exact h.shown, by rw [hok]; exact h.connected⟩

/-! ## Requests under the lock -/

theorem answers_stageProfile (hconnect : request.isConnect = false) :
    Answers P task request (stageProfile P request) := by
  refine .bind (q := fun f0 f t => f0 = f ∧ Phased f t) (.get fun f t h => ⟨rfl, h⟩) fun f0 => ?_
  refine .ite (fun _ => (Answers.failure _ _).mono (fun _ _ h => h.2) fun _ _ _ h => h) fun hfree => ?_
  obtain ⟨htransaction, -⟩ := not_or.mp hfree
  have hidle : ∀ f t, f0 = f ∧ Phased f t → Idle f t := by
    rintro f t ⟨rfl, h⟩
    exact ⟨h.none_of (not_not.mp htransaction), not_not.mp htransaction⟩
  refine .mono (p := Idle) ?_ hidle fun _ _ _ h => h
  have hfailure : ∀ errorCode messageCode, Carries P task
      (pure (.failure request errorCode messageCode)) Idle
      fun r f t => Phased f t ∧ Honest request r t := fun _ _ =>
    (Answers.failure _ _).mono (fun _ _ => Idle.phased) fun _ _ _ h => h
  refine .bind (.silent rfl) fun result => .ite (fun _ => hfailure _ _) fun _ => ?_
  cases P.stage request.payload with
  | none => exact hfailure _ _
  | some stage =>
    refine .bind (.silent rfl) fun staged => ?_
    cases staged with
    | none => exact .bind (q := fun _ => Idle) (.modify fun _ _ h => h) fun _ => hfailure _ _
    | some staged =>
      refine .bind (q := fun _ => Phased) (.modify fun f t h => ?_) fun _ => ?_
      · exact Idle.phased ⟨h.1, h.2⟩
      · exact answers_snapshot result (fun f shown h => ⟨_, rfl, h⟩) hconnect

theorem answers_invalidateProfile (hconnect : request.isConnect = false) :
    Answers P task request (invalidateProfile request) := by
  refine .bind (q := fun f0 f t => f0 = f ∧ Phased f t) (.get fun f t h => ⟨rfl, h⟩) fun f0 => ?_
  refine .ite (fun _ => (Answers.failure _ _).mono (fun _ _ h => h.2) fun _ _ _ h => h) fun hfree => ?_
  obtain ⟨htransaction, -⟩ := not_or.mp hfree
  have hidle : ∀ f t, f0 = f ∧ Phased f t → Idle f t := by
    rintro f t ⟨rfl, h⟩
    exact ⟨h.none_of (not_not.mp htransaction), not_not.mp htransaction⟩
  refine .mono (p := Idle) ?_ hidle fun _ _ _ h => h
  refine .bind (.silent rfl) fun invalidated => .ite (fun _ => ?_) fun _ => ?_
  · exact (Answers.failure _ _).mono (fun _ _ => Idle.phased) fun _ _ _ h => h
  · refine .bind (q := fun _ => Phased) (.modify fun f t h => ?_) fun _ => answers_succeed hconnect
    exact Idle.phased ⟨h.1, h.2⟩

theorem answers_status (hconnect : request.isConnect = false) :
    Answers P task request (status request) := by
  refine .bind (q := fun _ => Phased) (.get fun f t h => h) fun f0 => ?_
  cases f0.core with
  | none => exact answers_succeed hconnect
  | some core =>
    refine .bind (.silent rfl) fun exited => .ite (fun _ => ?_) fun _ => answers_succeed hconnect
    exact .bind (steadies_settleExitedCore core) fun _ => answers_succeed hconnect

/-- The probe of an `initialize` finds a ready host where there is a tunnel. -/
theorem answers_initializeHost {peer : Peer} (haction : request.action = .initializeHost) :
    Answers P (.request peer request) request (initializeHost request) := by
  have hconnect : request.isConnect = false := by simp [Request.isConnect, haction]
  refine .bind (q := fun result f t => Phased f t ∧ (t ≠ none → result.hostReady = true))
    (.called rfl fun thread n f result h htask hready => ?_) fun result => ?_
  · have htunnel : (n.called thread ⟨.probe, result⟩).tunnel = n.tunnel :=
      tunnel_silent (c := .probe) n result rfl
    rw [htunnel]
    exact ⟨h, hready ⟨peer, request, htask, haction⟩⟩
  refine .bind (q := fun f0 f t => f0 = f ∧ Phased f t ∧ (t ≠ none → result.hostReady = true))
    (.get fun f t h => ⟨rfl, h⟩) fun f0 => ?_
  refine .bind (q := fun _ f t => f0 = f ∧ Phased f t ∧ (t ≠ none → result.hostReady = true)) ?_
    fun inventory => ?_
  · exact .ite (fun _ => .pure fun _ _ h => h) fun _ => .silent rfl
  refine .bind (q := fun _ => Phased) (.modify ?_) fun _ =>
    answers_snapshot result (fun _ shown h => ⟨shown, rfl, h⟩) hconnect
  rintro f t ⟨-, h, hready⟩
  rcases t with _ | transaction
  · refine ⟨nofun, fun hrunning hfailure htransaction => h.down ?_ hfailure htransaction⟩
    dsimp only at hrunning
    split at hrunning
    · cases hrunning
    · split at hrunning
      · cases hrunning
      · exact hrunning
  · obtain ⟨hphase, htransaction, hrecovery⟩ := h.up transaction rfl
    have hready : result.hostReady = true := hready nofun
    exact h.failed (by simp [hready, hphase]) rfl rfl (.inl rfl)

theorem answers_disconnect (hconnect : request.isConnect = false) :
    Answers P task request (disconnect request) := by
  refine .bind carries_stop fun stopped => .ite (fun _ => ?_) fun hstopped => ?_
  · exact (answers_runtimeFailure request).mono (fun _ _ h => h.1) fun _ _ _ h => h
  have hdown : stopped = true := by simpa using hstopped
  refine .bind (q := fun _ _ t => t = none) (.modify fun f t h => h.2 hdown) fun _ => ?_
  refine .bind (.silent rfl) fun exist => ?_
  refine .bind (q := fun _ => Phased) (.modify ?_) fun _ => ?_
  · rintro f t rfl
    exact .of_none (.inr (.inl (by cases exist <;> simp)))
  · exact .bind (.silent rfl) fun result => answers_snapshot result (fun f shown h => ⟨_, rfl, h⟩) hconnect

/-! ## Leases and cancellations -/

theorem answers_stopUnacknowledged (request : Request) :
    Answers P task request (stopUnacknowledged request) :=
  .bind steadies_stop fun _ => Answers.failure _ _

theorem answers_promoteLocked (peer : Peer) (target : TransportLeasePromotion)
    (hconnect : request.isConnect = false) :
    Answers P task request (promoteLocked peer request target) := by
  refine .bind (.silent rfl) fun current => .bind (q := fun _ => Phased) (.get fun _ _ h => h) fun f0 => ?_
  refine .bind (.silent rfl) fun ownership => ?_
  cases current with
  | none => exact Answers.failure _ _
  | some current =>
  cases f0.core with
  | none => exact Answers.failure _ _
  | some core =>
    refine .ite (fun _ => Answers.failure _ _) fun _ => ?_
    refine .bind (.looks (quiet_coreRuns core _)) fun _ => .ite (fun _ => Answers.failure _ _) fun _ => ?_
    refine .bind (.looks (quiet_peerOnNetwork peer _)) fun _ =>
      .ite (fun _ => Answers.failure _ _) fun _ => ?_
    refine .bind (.silent rfl) fun _ => .ite (fun _ => answers_stopUnacknowledged request) fun _ => ?_
    refine .bind (.looks (quiet_stillPromotable peer _ core _)) fun _ =>
      .ite (fun _ => answers_stopUnacknowledged request) fun _ => ?_
    refine .bind (.silent rfl) fun _ => .bind (q := fun _ => Phased) ?_ fun _ => ?_
    · exact Steadies.modify (fun _ => rfl) (fun _ => rfl) (fun _ => rfl) fun _ => .inl rfl
    · exact .bind (answers_succeed hconnect) fun response => .pure fun f t h => ⟨h.1, h.2.same rfl rfl⟩

theorem answers_revokeLocked (peer : Peer) (target : TransportLeaseRevocation)
    (terminateActive : Bool) (hconnect : request.isConnect = false) :
    Answers P task request (revokeLocked peer request target terminateActive) := by
  refine .bind (.silent rfl) fun current => .bind (q := fun _ => Phased) (.get fun _ _ h => h) fun f0 => ?_
  refine .bind (.silent rfl) fun ownership => ?_
  cases f0.core with
  | none => exact Answers.failure _ _
  | some core =>
    refine .ite (fun _ => Answers.failure _ _) fun _ => ?_
    refine .bind (.looks (quiet_coreRuns core _)) fun _ => .ite (fun _ => Answers.failure _ _) fun _ => ?_
    refine .bind (q := fun _ => Phased) ?_ fun _ => .bind (q := fun _ => Phased) ?_ fun revoked => ?_
    · exact Steadies.modify (fun _ => rfl) (fun _ => rfl) (fun _ => rfl) fun _ => .inl rfl
    · exact .bind (.silent rfl) fun _ => .ite (fun _ => Steadies.pure _) fun _ =>
        .bind (.silent rfl) fun _ => Steadies.pure _
    refine .ite (fun _ => answers_stopUnacknowledged request) fun _ => ?_
    refine .bind (q := fun _ => Phased) ?_ fun _ => ?_
    · exact .ite (fun _ => .silent rfl) fun _ => Steadies.pure _
    · exact .bind (answers_succeed hconnect) fun response => .pure fun f t h => ⟨h.1, h.2.same rfl rfl⟩

theorem answers_settleCancelled (peer : Peer) (connectRequestID : String) (call' : Nat)
    (hconnect : request.isConnect = false) :
    Answers P task request (settleCancelled peer request connectRequestID call') := by
  refine .bind (.silent rfl) fun ownership => .bind (q := fun _ => Phased) ?_ fun stopped => ?_
  · refine .ite (fun _ => Steadies.pure _) fun _ => .bind steadies_stop fun _ => ?_
    refine .ite (fun _ => Steadies.pure _) fun _ => .bind (q := fun _ => Phased) ?_ fun _ => Steadies.pure _
    exact Steadies.modify (fun _ => rfl) (fun _ => rfl) (fun _ => rfl) fun _ => .inl rfl
  · refine .ite (fun _ => answers_runtimeFailure request) fun _ => .bind (.silent rfl) fun c => ?_
    exact .pure fun f t h => ⟨h, .of_none rfl fun h => absurd (hconnect.symm.trans h) nofun⟩

theorem steadies_stopWatched (peer : Peer) (requestID : String) (networkChanged : Bool) :
    Steadies P task (stopWatched peer requestID networkChanged) := by
  refine .bind (.silent rfl) fun ownership => .ite (fun _ => ?_) fun _ => Steadies.pure _
  refine .bind steadies_stop fun stopped => .ite (fun _ => ?_) fun _ => Steadies.pure _
  exact Steadies.modify (fun _ => rfl) (fun _ => rfl) (fun _ => rfl) fun f => .inr (by
    cases networkChanged <;> simp)

/-! ## Connecting -/

theorem Response.Refuses.honest (h : response.Refuses) : Honest request response t :=
  .of_none h.2 fun _ => h.1

/-- A check leaves a refusal, or nothing. -/
theorem Carries.checks {m : Locked (Option Response)} (hm : Refusing m) :
    Carries P task m p fun r f t =>
      (∀ response, r = some response → response.Refuses) ∧ p f t :=
  .yields (R := fun _ (r : Option Response) => ∀ response, r = some response → response.Refuses) hm

/-- A refusal is answered, and otherwise the program goes on. -/
theorem Carries.refusing {m : Locked (Option Response)} (hm : Refusing m)
    {n : Option Response → Locked Response} (hp : ∀ f t, p f t → Phased f t)
    (hsome : ∀ response, n (some response) = (Pure.pure response : Locked Response))
    (hnone : Carries P task (n none) p fun r f t => Phased f t ∧ Honest request r t) :
    Carries P task (m >>= n) p fun r f t => Phased f t ∧ Honest request r t := by
  refine .bind (.checks hm) fun r => ?_
  rcases r with _ | response
  · exact hnone.mono (fun _ _ h => h.2) fun _ _ _ h => h
  · rw [hsome]
    exact .pure fun f t h => ⟨hp f t h.2, (h.1 response rfl).honest⟩

variable (context : Option Nat)

theorem answers_prepareFailure (request : Request) (error : PrepareError) :
    Answers P task request (prepareFailure context request error) := by
  refine .refusing (refusing_cancelledConnect context request) (fun _ _ => id) (fun _ => rfl) ?_
  cases error with
  | deadline => exact Answers.failure _ _
  | identityMismatch => exact Answers.failure _ _
  | other => exact answers_runtimeFailure request

theorem answers_executeFailure (request : Request) (core : Nat) (restored : Bool) :
    Carries P task (executeFailure context request core restored) (fun _ t => t = none)
      fun r f t => Phased f t ∧ Honest request r t := by
  refine .bind (q := fun _ f t => t = none ∧ f.phase = .configStaged) (.modify fun f t h => ⟨h, rfl⟩) fun _ => ?_
  have hphased : ∀ f t, t = none ∧ f.phase = .configStaged → Phased f t := by
    rintro f t ⟨rfl, hphase⟩
    exact .of_none (.inr (.inl (by simp [hphase])))
  refine .ite (fun _ => (answers_runtimeFailure request).mono hphased fun _ _ _ h => h) fun _ => ?_
  refine .bind (q := fun _ => Idle) (carries_clearRuntime fun f t h => ⟨h.1, rfl⟩) fun _ => ?_
  refine .bind (.checks (refusing_cancelledConnect context request)) fun r => ?_
  rcases r with _ | response
  · refine .bind (.silent rfl) fun expired => .ite (fun _ => ?_) fun _ => ?_
    · refine .bind (q := fun _ => Phased) (.modify fun f t h => ?_) fun _ => Answers.failure _ _
      exact Idle.phased ⟨h.2.1, h.2.2⟩
    · exact (answers_runtimeFailure request).mono (fun _ _ h => h.2.phased) fun _ _ _ h => h
  · refine .bind (q := fun _ f t => Phased f t ∧ response.Refuses) (.modify fun f t h => ?_) fun _ => ?_
    · exact ⟨Idle.phased ⟨h.2.1, h.2.2⟩, h.1 response rfl⟩
    · exact .pure fun f t h => ⟨h.1, h.2.honest⟩

theorem answers_stopConnected (request : Request) (networkChanged : Bool) :
    Answers P task request (stopConnected context request networkChanged) := by
  refine .bind carries_stop fun stopped => .ite (fun _ => ?_) fun hstopped => ?_
  · exact (answers_runtimeFailure request).mono (fun _ _ h => h.1) fun _ _ _ h => h
  refine .bind (q := fun _ => Phased) (.modify fun f t h => h.1.failed rfl rfl rfl (.inl rfl)) fun _ => ?_
  refine .ite (fun _ => ?_) fun _ => .bind (.silent rfl) fun cause => ?_
  · refine .bind (q := fun _ => Phased) ?_ fun _ => Answers.failure _ _
    exact Steadies.modify (fun _ => rfl) (fun _ => rfl) (fun _ => rfl) fun _ => .inr (by simp)
  · rcases cause with _ | cause
    · exact Answers.failure _ _
    · exact .pure fun f t h => ⟨h, (refuses_cancelledConnectResponse request cause).honest⟩

/-- A transaction that is active has come up. -/
theorem answers_finishConnect (request : Request) (expected : Option ExpectedIdentity)
    (result : HostResult) (core transaction : Nat) :
    Carries P task (finishConnect context request expected result core)
      (fun f t => t = some transaction ∧ f.transaction = some transaction ∧ f.recoveryRequired = false)
      fun r f t => Phased f t ∧ Honest request r t := by
  refine .bind (q := fun _ f t => t = some transaction ∧ Phased f t) (.modify ?_) fun _ => ?_
  · rintro f t ⟨rfl, htransaction, hrecovery⟩
    refine ⟨rfl, ?_, fun _ _ _ => htransaction.symm⟩
    rintro _ ⟨⟩
    exact ⟨rfl, htransaction, hrecovery⟩
  refine .bind (q := fun _ f t => t = some transaction ∧ Phased f t) ?_ fun health => ?_
  · cases expected with
    | none => exact .bind (.silent rfl) fun _ => .pure fun _ _ h => h
    | some identity => exact .pure fun _ _ h => h
  refine .bind (.looks (quiet_lateRefusal context expected)) fun refusal => ?_
  rcases refusal with _ | networkChanged
  · refine .bind (q := fun _ f t => t = some transaction ∧ Phased f t)
      (.modify fun f t h => ⟨h.1, h.2.failed rfl rfl rfl (.inl rfl)⟩) fun _ => .bind (.silent rfl) fun _ => ?_
    refine .bind (.yields (yields_snapshot result)) fun shown => .pure fun f t h => ⟨h.2.2, ?_⟩
    exact .of_shows h.2.2 rfl h.1 fun _ => by simp [h.2.1]
  · exact (answers_stopConnected context request networkChanged).mono (fun _ _ h => h.2) fun _ _ _ h => h

theorem answers_startConnect (peer : Peer) (request : Request) (expected : Option ExpectedIdentity)
    (result : HostResult) (transaction core : Nat) :
    Carries P task (startConnect context peer request expected result transaction core)
      (fun f t => t = none ∧ f.recoveryRequired = false)
      fun r f t => Phased f t ∧ Honest request r t := by
  refine .bind (q := fun _ f t => t = none ∧ f.transaction = some transaction ∧ f.recoveryRequired = false)
    (.modify fun f t h => ⟨h.1, rfl, h.2⟩) fun _ => ?_
  refine .bind (q := fun _ f t => t = none ∧ f.transaction = some transaction ∧ f.recoveryRequired = false)
    ?_ fun _ => ?_
  · cases expected with
    | none => exact .pure fun _ _ h => h
    | some identity => exact .silent rfl
  refine .bind (q := fun execution f t =>
    t = (if execution = Execution.active then some transaction else none) ∧
      f.transaction = some transaction ∧ f.recoveryRequired = false)
    (.called rfl fun thread n f execution h _ _ => ?_) fun execution => ?_
  · rw [tunnel_called, h.1]
    cases execution <;> exact ⟨rfl, h.2⟩
  cases execution with
  | active => exact answers_finishConnect context request expected result core transaction
  | restored =>
    exact (answers_executeFailure context request core true).mono (fun _ _ h => h.1) fun _ _ _ h => h
  | dirty =>
    exact (answers_executeFailure context request core false).mono (fun _ _ h => h.1) fun _ _ _ h => h

theorem answers_prepareConnect (peer : Peer) (request : Request)
    (expected : Option ExpectedIdentity) (result : HostResult) :
    Carries P task (prepareConnect context peer request expected result)
      (fun f t => Idle f t ∧ f.recoveryRequired = false)
      fun r f t => Phased f t ∧ Honest request r t := by
  have hphased : ∀ f t, Idle f t ∧ f.recoveryRequired = false → Phased f t := fun _ _ h => h.1.phased
  have hfailure : ∀ errorCode messageCode, Carries P task
      (pure (.failure request errorCode messageCode)) (fun f t => Idle f t ∧ f.recoveryRequired = false)
      fun r f t => Phased f t ∧ Honest request r t := fun _ _ =>
    (Answers.failure _ _).mono hphased fun _ _ _ h => h
  refine .bind (.silent rfl) fun exist => .ite (fun _ => hfailure _ _) fun _ => ?_
  refine .bind (.looks (quiet_newTransaction request)) fun transaction => ?_
  rcases transaction with _ | transaction
  · exact (answers_runtimeFailure request).mono hphased fun _ _ _ h => h
  refine .bind (.silent rfl) fun prepared => ?_
  rcases prepared with error | core
  · exact (answers_prepareFailure context request error).mono hphased fun _ _ _ h => h
  refine .refusing (refusing_changedNetwork context request expected (.call rfl)) hphased
    (fun _ => rfl) ?_
  exact (answers_startConnect context peer request expected result transaction core).mono
    (fun _ _ h => ⟨h.1.1, h.2⟩) fun _ _ _ h => h

theorem answers_connect (peer : Peer) (request : Request) (expected : Option ExpectedIdentity) :
    Answers P task request (connect context peer request expected) := by
  refine .bind (.silent rfl) fun result => ?_
  refine .refusing (refusing_refuseConnect context request expected result) (fun _ _ => id)
    (fun _ => rfl) ?_
  refine .bind (q := fun recovered f t => Phased f t ∧ (recovered = true → f.recoveryRequired = false))
    ?_ fun recovered => ?_
  · refine .bind (q := fun f0 f t => f0 = f ∧ Phased f t) (.get fun f t h => ⟨rfl, h⟩) fun f0 => ?_
    refine .ite (fun hrecovery => .pure ?_) fun _ => ?_
    · rintro f t ⟨rfl, h⟩
      exact ⟨h, fun _ => by simpa using hrecovery⟩
    · refine .bind (carries_recoverPending_phased.mono (fun _ _ h => h.2) fun _ _ _ h => h) fun r => ?_
      exact .pure fun f t h => ⟨h.1, fun hr => h.2 (by simpa using hr)⟩
  refine .ite (fun _ => ?_) fun hrecovered => ?_
  · exact (answers_runtimeFailure request).mono (fun _ _ h => h.1) fun _ _ _ h => h
  have hrecovered : recovered = true := by simpa using hrecovered
  refine .bind (q := fun f0 f t => f0 = f ∧ Phased f t ∧ f.recoveryRequired = false)
    (.get fun f t h => ⟨rfl, h.1, h.2 hrecovered⟩) fun f0 => ?_
  refine .ite (fun htransaction => ?_) fun htransaction => ?_
  · refine .ite (fun hrunning => ?_) fun _ => ?_
    · refine .bind (.yields (yields_snapshot result)) fun shown => .pure ?_
      rintro f t ⟨hshows, rfl, h, -⟩
      -- the tunnel of the runtime that is already there
      have hup : t ≠ none := by
        rw [h.down hrunning.1 hrunning.2 htransaction]
        exact htransaction
      exact ⟨h, .of_shows h rfl hshows fun _ => hup⟩
    · exact (answers_runtimeFailure request).mono (fun _ _ h => h.2.1) fun _ _ _ h => h
  · refine (answers_prepareConnect context peer request expected result).mono ?_ fun _ _ _ h => h
    rintro f t ⟨rfl, h, hrecovery⟩
    exact ⟨⟨h.none_of (not_not.mp htransaction), not_not.mp htransaction⟩, hrecovery⟩

theorem answers_handleLocked (peer : Peer) (request : Request) (expected : Option ExpectedIdentity) :
    Answers P task request (handleLocked P context peer request expected) := by
  refine .bind (q := fun _ => Phased) (.get fun _ _ h => h) fun f0 => ?_
  refine .ite (fun _ => answers_runtimeFailure request) fun _ => ?_
  refine .refusing (refusing_cancelledConnect context request) (fun _ _ => id) (fun _ => rfl) ?_
  have hconnect : request.action ≠ .connect → request.action ≠ .connectWithIdentity →
      request.isConnect = false := by
    intro h h'
    simp [Request.isConnect, h, h']
  dsimp only
  split
  case h_1 h | h_2 h => exact answers_stageProfile (hconnect (by simp [h]) (by simp [h]))
  case h_3 h => exact answers_invalidateProfile (hconnect (by simp [h]) (by simp [h]))
  case h_4 | h_5 => exact answers_connect context peer request expected
  case h_6 h => exact answers_disconnect (hconnect (by simp [h]) (by simp [h]))
  case h_7 => exact Answers.failure _ _

/-! ## Outside the lock -/

/-- The thread runs this task, and may not have given back the lock. -/
def Outside (thread : Nat) (task : Task) (fresh : Prop) (n : Notes) : Prop :=
  n.tasks[thread]? = some task ∧ (fresh → TunnelMark.left thread ∉ n.marks)

theorem Outside.rely {thread : Nat} {fresh : Prop} {x x' : Shared × Notes}
    (h : Outside thread task fresh x.2) (hrely : Undisturbed thread x x') :
    Outside thread task fresh x'.2 :=
  ⟨getElem?_started hrely.tasks h.1, fun hfresh hleft => h.2 hfresh (hrely.marks hleft)⟩

theorem LeftAt.later {thread : Nat} {before marks marks' : List TunnelMark}
    (h : LeftAt thread before marks) (hmarks : marks <+: marks') : LeftAt thread before marks' := by
  obtain ⟨hnew, after, rfl⟩ := h
  obtain ⟨later, rfl⟩ := hmarks
  exact ⟨hnew, after ++ later, by simp⟩

theorem Decided.rely {thread j : Nat} {request : Request} {x x' : Shared × Notes}
    (h : Decided thread request response x.2) (hrely : Undisturbed j x x') :
    Decided thread request response x'.2 where
  shown := fun shown hshown hready => by
    obtain ⟨before, hleft, hup⟩ := h.shown shown hshown hready
    exact ⟨before, hleft.later hrely.later, hup⟩
  connected := fun hconnect hok => by
    obtain ⟨before, transaction, hleft, hup⟩ := h.connected hconnect hok
    exact ⟨before, transaction, hleft.later hrely.later, hup⟩

theorem Decided.of_none {thread : Nat} {request : Request} {n : Notes}
    (hshown : response.snapshot = none) (hok : request.isConnect = true → response.ok = false) :
    Decided thread request response n where
  shown := fun _ h => absurd (hshown.symm.trans h) nofun
  connected := fun hconnect h => absurd ((hok hconnect).symm.trans h) nofun

/-- A response is decided by the time the lock is given back. -/
theorem Honest.decided {thread : Nat} {request : Request} {before marks : List TunnelMark}
    {tasks : List Task} (h : Honest request response (tunnelOf before))
    (hleft : LeftAt thread before marks) : Decided thread request response ⟨tasks, marks⟩ where
  shown := fun shown hshown hready => ⟨before, hleft, h.shown shown hshown hready⟩
  connected := fun hconnect hok => by
    obtain ⟨transaction, hup⟩ := Option.ne_none_iff_exists'.mp (h.connected hconnect hok)
    exact ⟨before, transaction, hleft, hup⟩

section Outside

variable {thread : Nat} {fresh : Prop} {x : Shared × Notes}

/-- What lasts whatever the others do. -/
def Lasts (thread : Nat) (A : Shared × Notes → Prop) : Prop :=
  ∀ x x', A x → Undisturbed thread x x' → A x'

theorem lasts_outside : Lasts thread fun x => Outside thread task fresh x.2 :=
  fun _ _ h hrely => h.rely hrely

theorem silent_step {x' : Shared × Notes} {e : Event Daemon} (hc : silent e.call = true)
    (hinv : PhaseInv x) (h : (steady P).exec thread x e x') :
    PhaseInv x' ∧ ∀ j, Undisturbed j x x' := by
  obtain ⟨⟨-, hshared⟩, -, hnotes⟩ := h
  have hsame : x'.2 = x.2 := by
    rw [hnotes]
    show Notes.called thread e x.2 = x.2
    simp [Notes.called, marksOf_silent thread e.answer hc]
  obtain ⟨hmu, hfields⟩ := effect_fields thread x.1 (inside_of_silent hc)
  rw [← hshared] at hmu hfields
  refine ⟨⟨?_, by rw [hsame]; exact hinv.counted⟩, fun j => ⟨fun h => ?_, ?_, ?_, ?_⟩⟩
  · rw [hmu, hfields, hsame]
    exact hinv.phased
  · exact ⟨hmu.trans h, by rw [hsame]⟩
  · exact hsame.symm ▸ List.prefix_rfl
  · exact hsame.symm ▸ id
  · exact hsame.symm ▸ List.prefix_rfl

variable {A : Shared × Notes → Prop}

theorem safea_yields {m : Unlocked α} (hA : Lasts thread A) {R : α → Prop}
    (hm : (m ()).Yields (silent · = true) fun y => R y.1) (hx : A x) :
    (phaseOutline P).safea thread m (fun a _ x' => R a ∧ A x') () x := by
  refine (phaseOutline P).safe_of_yields (fun x1 x2 e hc hinv h hexec => ?_)
    (fun x1 x2 hrely h => hA x1 x2 h hrely) hm hx
  obtain ⟨hinv2, hrely⟩ := silent_step hc hinv hexec
  exact ⟨hinv2, fun j _ => hrely j, hA x1 x2 h (hrely thread)⟩

theorem safea_quiet {m : Unlocked α} (hA : Lasts thread A) (hm : Quiet m) (hx : A x) :
    (phaseOutline P).safea thread m (fun _ _ x' => A x') () x :=
  safea_mono (safea_yields (R := fun _ => True) hA
    ((hm ()).mono (fun _ => silent_of_quiet) fun _ _ => trivial) hx) fun _ _ _ h => h.2

theorem safea_silent_call {c : DaemonCall} (hA : Lasts thread A) (hc : silent c = true) (hx : A x) :
    (phaseOutline P).safea thread (call c : Unlocked c.Answer) (fun _ _ x' => A x') () x :=
  safea_mono (safea_yields (R := fun _ => True) hA ⟨hc, fun _ => trivial⟩ hx) fun _ _ _ h => h.2

theorem safea_exec {σ : Type} {c : DaemonCall} {k : c.Answer → Act Daemon σ α}
    {Q : α → σ → Shared × Notes → Prop} {f : σ}
    (h : ∀ x1, Undisturbed thread x x1 → PhaseInv x1 → ∀ r x2, (steady P).exec thread x1 ⟨c, r⟩ x2 →
      PhaseInv x2 ∧ (∀ j, j ≠ thread → Undisturbed j x1 x2) ∧
        (phaseOutline P).safea thread (k r) Q f x2) :
    (phaseOutline P).safea thread (call c >>= k) Q f x :=
  h

/-- What holds under the lock is got from the invariant and given back to it, and
what is decided there is decided about the tunnel that is left. -/
theorem safea_phase_locked {m : Locked α} {R : α → Option Nat → Prop}
    (hm : Carries P task m Phased fun a f t => Phased f t ∧ R a t)
    (hx : Outside thread task fresh x.2) :
    (phaseOutline P).safea thread (locked m) (fun a _ x' => Outside thread task False x'.2 ∧
      (fresh → ∃ before, LeftAt thread before x'.2.marks ∧ R a (tunnelOf before))) () x := by
  refine safea_exec ?_
  rintro x1 hrely hinv fields x2 ⟨⟨⟨hfree, hfields⟩, hshared⟩, -, hnotes⟩
  have hx1 := hx.rely hrely
  have hsame : x2.2 = x1.2 := by
    rw [hnotes]
    show Notes.called thread ⟨.lock, fields⟩ x1.2 = x1.2
    simp [Notes.called, Notes.marksOf]
  have hmu : x2.1.mu = some thread := by
    rw [hshared]
    rfl
  have hx2 : Within thread task fresh x2 := ⟨hmu, hsame ▸ hx1.1, hsame ▸ hx1.2⟩
  have hphased : Phased fields x2.2.tunnel := by
    rw [hfields, hsame]
    exact hinv.phased hfree
  have hothers : ∀ j, j ≠ thread → Undisturbed j x1 x2 := fun j _ =>
    ⟨fun h => absurd (hfree.symm.trans h) (Option.some_ne_none j).symm, hsame.symm ▸ List.prefix_rfl, hsame.symm ▸ id,
      hsame.symm ▸ List.prefix_rfl⟩
  refine ⟨⟨fun h => absurd (hmu.symm.trans h) (Option.some_ne_none _), hsame.symm ▸ hinv.counted⟩, hothers, ?_⟩
  refine safea_bind ((phaseOutline P).safe_bind ((phaseOutline P).safe_mono
    (hm thread fresh fields x2 hx2 hphased) ?_))
  rintro ⟨a, fields'⟩ x3 ⟨hx3, hphased3, hr3⟩ x4 hrely4
  refine safea_exec ?_
  rintro x5 hrely5 hinv5 _ x6 ⟨⟨-, hshared6⟩, -, hnotes6⟩
  have hx5 := (hx3.rely hrely4).rely hrely5
  have htunnel : x5.2.tunnel = x3.2.tunnel :=
    (hrely5.held (hx3.rely hrely4).held).2.trans (hrely4.held hx3.held).2
  have hmarks : x6.2.marks = x5.2.marks ++ [.left thread] := by
    rw [hnotes6]
    rfl
  have htasks : x6.2.tasks = x5.2.tasks := by
    rw [hnotes6]
    rfl
  have hleft : LeftAt thread x5.2.marks x6.2.marks ∨ ¬ fresh := by
    by_cases hfresh : fresh
    · exact .inl ⟨hx5.fresh hfresh, [], hmarks⟩
    · exact .inr hfresh
  refine ⟨⟨fun _ => ?_, fun j hj => ?_⟩, fun j hj => ⟨fun h => ?_, ?_, fun h => ?_, ?_⟩, ?_⟩
  · show Phased x6.1.fields (tunnelOf x6.2.marks)
    rw [hmarks, tunnelOf_append, hshared6]
    show Phased fields' x5.2.tunnel
    rwa [htunnel]
  · rw [htasks]
    rw [hmarks, List.mem_append, List.mem_singleton] at hj
    rcases hj with hj | hj
    · exact hinv5.counted j hj
    · cases hj
      exact (List.getElem?_eq_some_iff.mp hx5.task).1
  · exact absurd (Option.some.inj (h.symm.trans hx5.held)) hj
  · exact htasks.symm ▸ List.prefix_rfl
  · rw [hmarks, List.mem_append, List.mem_singleton] at h
    exact h.resolve_right fun h => hj (by cases h; rfl)
  · exact hmarks.symm ▸ List.prefix_append _ _
  · intro x7 hrely7
    refine ⟨⟨getElem?_started hrely7.tasks (htasks ▸ hx5.task), False.elim⟩, fun hfresh => ?_⟩
    refine ⟨x5.2.marks, (hleft.resolve_right (not_not_intro hfresh)).later hrely7.later, ?_⟩
    show R a x5.2.tunnel
    rwa [htunnel]

end Outside

/-! ## Requests -/

/-- The program of a request decides its response honestly. -/
def Responds (P : Payloads) (task : Task) (request : Request) (m : Unlocked Response) : Prop :=
  ∀ thread x, Outside thread task True x.2 → (phaseOutline P).safea thread m
    (fun r _ x' => Outside thread task False x'.2 ∧ Decided thread request r x'.2) () x

theorem Outside.used {thread : Nat} {fresh : Prop} {n : Notes} (h : Outside thread task fresh n) :
    Outside thread task False n :=
  ⟨h.1, False.elim⟩

namespace Responds

variable {request : Request} {m : Unlocked Response}

theorem pure {response : Response} (hshown : response.snapshot = none)
    (hok : request.isConnect = true → response.ok = false) : Responds P task request (pure response) :=
  fun _ _ hx _ hrely => ⟨(hx.rely hrely).used, .of_none hshown hok⟩

theorem failure (errorCode messageCode : String) :
    Responds P task request (Pure.pure (.failure request errorCode messageCode)) :=
  pure rfl fun _ => rfl

theorem looks {m : Unlocked α} {n : α → Unlocked Response} (hm : Quiet m)
    (hn : ∀ a, Responds P task request (n a)) : Responds P task request (m >>= n) :=
  fun thread _ hx => safea_seq (safea_quiet lasts_outside hm hx)
    fun a _ x' hx' => hn a thread x' hx'

theorem refusing {m : Unlocked (Option Response)} {n : Option Response → Unlocked Response}
    (hm : Refusing m) (hsome : ∀ response, n (some response) = Pure.pure response)
    (hnone : Responds P task request (n none)) : Responds P task request (m >>= n) := by
  intro thread x hx
  refine safea_seq (safea_yields (R := fun r => ∀ response, r = some response →
    response.Refuses) lasts_outside ((hm ()).mono (fun _ => silent_of_quiet) fun _ h => h.2) hx) ?_
  rintro r _ x' ⟨hr, hx'⟩
  rcases r with _ | response
  · exact hnone thread x' hx'
  · rw [hsome]
    have hrefuses := hr response rfl
    exact Responds.pure hrefuses.2 (fun _ => hrefuses.1) thread x' hx'

theorem ite {b : Prop} [Decidable b] {n : Unlocked Response} (hm : Responds P task request m)
    (hn : Responds P task request n) : Responds P task request (if b then m else n) := by
  split
  · exact hm
  · exact hn

theorem locked {m : Locked Response} (hm : Answers P task request m) :
    Responds P task request (locked m) := by
  intro thread x hx
  refine safea_mono (safea_phase_locked hm hx) fun r _ x' h => ⟨h.1, ?_⟩
  obtain ⟨before, hleft, hhonest⟩ := h.2 trivial
  exact hhonest.decided hleft

end Responds

section Requests

variable {peer : Peer} {request : Request}

theorem responds_cancelConnect (hconnect : request.isConnect = false) :
    Responds P task request (cancelConnect P peer request) := by
  have hnone : request.isConnect = true → ∀ ok : Bool, ok = false := fun h =>
    absurd (hconnect.symm.trans h) nofun
  unfold cancelConnect
  split
  · refine .ite (.failure _ _) (.looks (.connectMu rfl) fun lookup => ?_)
    cases lookup with
    | unknown => exact .pure rfl fun h => hnone h _
    | denied => exact .failure _ _
    | found call =>
      refine .looks (.call rfl) fun finished => .ite (.pure rfl fun h => hnone h _) ?_
      exact .locked (answers_settleCancelled peer _ call hconnect)
  · exact .failure _ _

theorem responds_promoteTransportLease (hconnect : request.isConnect = false) :
    Responds P task request (promoteTransportLease P peer request) := by
  unfold promoteTransportLease
  cases P.promotion request.payload with
  | none => exact .failure _ _
  | some target => exact .ite (.failure _ _) (.locked (answers_promoteLocked peer target hconnect))

theorem responds_revokeTransportLease (hconnect : request.isConnect = false) :
    Responds P task request (revokeTransportLease P peer request) := by
  unfold revokeTransportLease
  cases P.revocation request.payload with
  | none => exact .failure _ _
  | some target =>
    dsimp only
    cases target.terminateActive with
    | none => exact .failure _ _
    | some terminateActive =>
      exact .ite (.failure _ _) (.locked (answers_revokeLocked peer target terminateActive hconnect))

theorem responds_handleAuthorized {context : Option Nat} {expected : Option ExpectedIdentity} :
    Responds P task request (handleAuthorized P context peer request expected) := by
  refine .refusing (refusing_cancelledConnect context request) (fun _ => rfl) ?_
  refine .looks (quiet_authorize peer) fun authorized => .ite ?_ ?_
  · refine .refusing (refusing_cancelledConnect context request) (fun _ => rfl) ?_
    intro thread x hx
    refine safea_seq (safea_phase_locked (R := fun _ _ => True)
      (.pure fun _ _ h => ⟨h, trivial⟩) hx) fun _ _ x' h => ?_
    exact fun x'' hrely => ⟨h.1.rely hrely, .of_none rfl fun _ => rfl⟩
  · exact .locked (answers_handleLocked context peer request expected)

/-- What is decided about a response stays while the call is given up. -/
theorem safea_finishBoundConnect_phase {thread call' : Nat} {requestID : String}
    {response : Response} {x : Shared × Notes} (hx : Outside thread task False x.2)
    (hdecided : Decided thread request response x.2) :
    (phaseOutline P).safea thread (finishBoundConnect call' requestID)
      (fun _ _ x' => Outside thread task False x'.2 ∧ Decided thread request response x'.2) () x := by
  refine safea_and (K := fun (x : Shared × Notes) => Decided thread request response x.2)
    (fun _ _ _ h hrely => h.rely hrely) ?_ hdecided
  refine safea_seq (safea_silent_call lasts_outside rfl hx) fun _ _ x' hx' => ?_
  exact safea_mono (safea_phase_locked (R := fun _ _ => True)
    ((Carries.silent rfl).mono (fun _ _ => id) fun _ _ _ h => ⟨h, trivial⟩) hx') fun _ _ _ h => h.1

theorem responds_connectWithIdentity :
    Responds P task request (connectWithIdentity P peer request) := by
  unfold connectWithIdentity
  cases P.expectedIdentity request.payload with
  | none => exact .failure _ _
  | some identity =>
    intro thread x hx
    refine safea_seq (safea_silent_call (c := .connectMu _) lasts_outside rfl hx) ?_
    intro admission _ x' hx'
    cases admission with
    | refused unowned => exact Responds.pure rfl (fun _ => rfl) thread x' hx'
    | begun call' =>
      refine safea_seq ((Responds.refusing
        (refusing_changedNetwork _ _ _ (.pure _)) (fun _ => rfl)
        responds_handleAuthorized) thread x' hx') ?_
      rintro response _ x'' ⟨hx'', hdecided⟩
      refine safea_seq (safea_finishBoundConnect_phase hx'' hdecided) ?_
      rintro _ _ x3 ⟨hx3, hdecided3⟩ x4 hrely
      exact ⟨hx3.rely hrely, hdecided3.rely hrely⟩

theorem responds_handle (peer : Peer) (request : Request) :
    Responds P (.request peer request) request (handle P peer request) := by
  have hconnect : request.action ≠ .connect → request.action ≠ .connectWithIdentity →
      request.isConnect = false := by
    intro h h'
    simp [Request.isConnect, h, h']
  have hnone : request.isConnect = false → ∀ ok : Bool, request.isConnect = true → ok = false :=
    fun h _ h' => absurd (h.symm.trans h') nofun
  unfold handle
  split
  case h_1 h => exact responds_cancelConnect (hconnect (by simp [h]) (by simp [h]))
  case h_2 h => exact responds_promoteTransportLease (hconnect (by simp [h]) (by simp [h]))
  case h_3 h => exact responds_revokeTransportLease (hconnect (by simp [h]) (by simp [h]))
  case h_4 h =>
    have hclock := hnone (hconnect (by simp [h]) (by simp [h]))
    refine .ite (.failure _ _) (.looks (.call rfl) fun now => ?_)
    cases now with
    | none => exact .failure _ _
    | some now => exact .pure rfl (hclock _)
  case h_5 h =>
    have hcontext := hnone (hconnect (by simp [h]) (by simp [h]))
    refine .looks (.call rfl) fun ref => ?_
    cases ref with
    | none => exact .failure _ _
    | some ref => exact .pure rfl (hcontext _)
  case h_6 h => exact .locked (answers_status (hconnect (by simp [h]) (by simp [h])))
  case h_7 h => exact .locked (answers_initializeHost h)
  case h_8 h => exact .pure rfl (hnone (hconnect (by simp [h]) (by simp [h])) _)
  case h_9 => exact responds_connectWithIdentity
  all_goals exact responds_handleAuthorized

end Requests

/-! ## Watchers -/

/-- The program goes on whatever it finds. -/
abbrev Wanders (P : Payloads) (task : Task) (m : Unlocked α) : Prop :=
  (phaseOutline P).Upholds (fun thread _ x => Outside thread task False x.2) m

namespace Wanders

variable {m : Unlocked α}

theorem looks (hm : Quiet m) : Wanders P task m := fun _ _ _ hx => safea_quiet lasts_outside hm hx

theorem locked {m : Locked α} (hm : Steadies P task m) : Wanders P task (locked m) :=
  fun _ _ _ hx => safea_mono (safea_phase_locked (R := fun _ _ => True)
    (hm.mono (fun _ _ => id) fun _ _ _ h => ⟨h, trivial⟩) hx) fun _ _ _ h => h.1

end Wanders

theorem wanders_watchCore (core : Nat) : Wanders P task (watchCore core) := by
  refine .bind (Wanders.looks (.call rfl)) fun _ => Wanders.locked ?_
  refine .bind (q := fun _ => Phased) (.get fun _ _ h => h) fun f0 => ?_
  exact .ite (fun _ => Steadies.pure _) fun _ => steadies_settleExitedCore core

theorem wanders_watchBoundPeer (call' : Nat) (peer : Peer) (requestID networkRef : String) :
    Wanders P task (watchBoundPeer call' peer requestID networkRef) :=
  upholds_watchBoundPeer (fun hm => Wanders.looks hm.quiet) (fun _ => Wanders.locked (.silent rfl))
    fun networkChanged => Wanders.locked (steadies_stopWatched peer requestID networkChanged)

/-! ## Every run -/

theorem Begins.outside {thread : Nat} {n : Notes} (h : Begins thread task n) :
    Outside thread task False n :=
  ⟨h.1, False.elim⟩

/-- A watcher leaves no response. -/
theorem safea_watcher {thread : Nat} {x : Shared × Notes} {m : Unlocked α} (hm : Wanders P task m)
    (hx : Outside thread task False x.2) :
    (phaseOutline P).safea thread (do
      let _ ← m
      return (.inr ⟨task, none⟩ : Task ⊕ Reply))
      (fun r _ x' => (phaseOutline P).ending thread r x') () x :=
  safea_seq (hm thread () x hx) fun _ _ _ _ _ _ _ _ _ h => absurd h nofun

theorem safea_runTask_phase {thread : Nat} {x : Shared × Notes} (hx : Begins thread task x.2) :
    (phaseOutline P).safea thread (runTask P task)
      (fun r _ x' => (phaseOutline P).ending thread r x') () x := by
  cases task with
  | request peer request =>
    have hfresh : Outside thread (.request peer request) True x.2 :=
      ⟨hx.1, fun _ => hx.2 peer request rfl⟩
    refine safea_seq (responds_handle peer request thread x hfresh) ?_
    rintro response _ x' ⟨-, hdecided⟩ x'' hrely peer' request' response' heq
    cases heq
    exact hdecided.rely hrely
  | watchBoundPeer call' peer requestID networkRef =>
    refine safea_seq (wanders_watchBoundPeer call' peer requestID networkRef thread ()
      x hx.outside) fun again _ x' hx' => ?_
    refine safea_ite (fun _ x'' hrely => ⟨(hx'.rely hrely).1, nofun⟩) fun _ x'' _ => ?_
    exact fun _ _ _ h => absurd h nofun
  | watchCore core => exact safea_watcher (wanders_watchCore core) hx.outside
  | cancelBoundNetwork => exact safea_watcher (.looks (.connectMu rfl)) hx.outside
  | recover => exact safea_watcher (.locked steadies_recover) hx.outside
  | close => exact safea_watcher (.locked steadies_close) hx.outside

theorem ending_phase_rely {thread : Nat} {r : Task ⊕ Reply} {x x' : Shared × Notes}
    (h : (phaseOutline P).ending thread r x) (hrely : Undisturbed thread x x') :
    (phaseOutline P).ending thread r x' := by
  rcases r with task | reply
  · exact ⟨getElem?_started hrely.tasks h.1, fun peer request htask hleft =>
      h.2 peer request htask (hrely.marks hleft)⟩
  · exact fun peer request response hreply => (h peer request response hreply).rely hrely

theorem fields_starts {s s' : Shared} (h : s.Starts task s') :
    s'.mu = s.mu ∧ s'.fields = s.fields := by
  cases h <;> exact ⟨rfl, rfl⟩

theorem numbered_phaseOutline : (phaseOutline P).Numbered fun x => x.2.tasks.length where
  start := by
    rintro x x' task hinv ⟨hstarts, hnotes⟩
    obtain ⟨hmu, hfields⟩ := fields_starts hstarts
    have hmarks : x'.2.marks = x.2.marks := by
      rw [hnotes]
      rfl
    have htasks : x'.2.tasks = x.2.tasks ++ [task] := by
      rw [hnotes]
      rfl
    have hlast : TunnelMark.left x.2.tasks.length ∉ x.2.marks := fun h =>
      Nat.lt_irrefl _ (hinv.counted _ h)
    have htunnel : x'.2.tunnel = x.2.tunnel := congrArg tunnelOf hmarks
    refine ⟨⟨?_, fun j hj => ?_⟩, fun j => ⟨fun h => ⟨hmu.trans h, htunnel⟩, ?_, ?_, ?_⟩, ⟨?_, ?_⟩, ?_⟩
    · rw [hmu, hfields, htunnel]
      exact hinv.phased
    · rw [htasks, List.length_append]
      exact Nat.lt_add_right _ (hinv.counted j (hmarks ▸ hj))
    · exact htasks.symm ▸ List.prefix_append _ _
    · exact hmarks.symm ▸ id
    · exact hmarks.symm ▸ List.prefix_rfl
    · rw [htasks]
      simp
    · exact fun _ _ _ => hmarks.symm ▸ hlast
    · simp [htasks]
  exec := by
    rintro thread x x' e ⟨-, -, hnotes⟩
    show x'.2.tasks.length = x.2.tasks.length
    rw [hnotes]
    rfl
  body := fun {thread task x} _ hbegins => (phaseOutline P).safe_bind <|
    (phaseOutline P).safe_mono (safea_runTask_phase hbegins) fun _ _ h _ hrely =>
      ending_phase_rely h hrely

/-- **A truthful phase.** In every run in which no `initialize` meets a live tunnel
with a host that is not ready, the phase of a live tunnel is `running`. -/
theorem phase_truthful (P : Payloads) (p : Pool Daemon (Shared × Notes) Task Reply)
    (h : Steady P p) : Truthful p := by
  obtain ⟨profilesExist, hrun⟩ := h
  have hnew : (phaseOutline P).Good ⟨(.new profilesExist, {}), []⟩ := by
    refine ⟨⟨fun _ => .of_none (.inl rfl), nofun⟩, nofun⟩
  have hgood : (phaseOutline P).Good p := (Good.run_numbered numbered_phaseOutline hnew rfl hrun).1
  have hinv : PhaseInv p.shared := hgood.1
  have hdecided : ∀ {i peer request response},
      p.answer i = some ⟨.request peer request, some response⟩ →
      Decided i request response p.shared.2 := fun hanswer =>
    hgood.answered (Pool.answer_eq_some hanswer) _ _ _ rfl
  have hrunning : p.shared.1.mu = none → ∀ transaction, p.shared.2.tunnel = some transaction →
      p.shared.1.fields.phase = .running ∧ p.shared.1.fields.transaction = some transaction := by
    intro hfree transaction htunnel
    obtain ⟨hphase, htransaction, -⟩ := (hinv.phased hfree).up transaction htunnel
    exact ⟨hphase, htransaction⟩
  refine ⟨fun i peer request response hanswer hconnect hok => ?_, hrunning,
    fun i peer request response shown hanswer => (hdecided hanswer).shown shown, ?_⟩
  · obtain ⟨before, transaction, ⟨hfirst, after, hmarks⟩, hup⟩ :=
      (hdecided hanswer).connected hconnect hok
    refine ⟨before, after, transaction, hfirst, hmarks, hup, fun hdown hfree => hrunning hfree _ ?_⟩
    show tunnelOf p.shared.2.marks = _
    rw [hmarks]
    exact tunnelOf_eq_some hup (by simpa using hdown)
  · intro hfree hlive peer ownership current
    obtain ⟨transaction, htunnel⟩ := Option.ne_none_iff_exists'.mp hlive
    have hphase := (hrunning hfree transaction htunnel).1
    refine ⟨fun target => ?_, fun target => ?_⟩
    · simp [promotable, hphase]
    · simp [revocable, hphase]

/-! ## Schedules -/

/-- A healthy world but for the host. -/
def hostPlayer (P : Payloads) : Player (daemon P) HostResult where
  startTask := Shared.startTask
  respond := fun host thread s c =>
    match c with
    | .probe => some (host, s.effect thread .probe)
    | c => (player P).respond true thread s c
  starts := starts_startTask
  executes := by
    intro host thread s s' c r h
    dsimp only at h
    split at h
    · cases h
      exact ⟨trivial, rfl⟩
    · exact (player P).executes h

/-- No probe of any request finds the host not ready. -/
def probedReady : Event Daemon → Bool
  | ⟨.probe, result⟩ => result.hostReady
  | _ => true

theorem ready_of_probedReady {thread : Nat} {e : Event Daemon} {n : Notes}
    (h : probedReady e = true) : Notes.Ready thread e n := by
  obtain ⟨c, r⟩ := e
  cases c with
  | probe => exact fun _ _ => h
  | _ => trivial

def steadyPlayer (P : Payloads) : Player (steady P) HostResult :=
  (hostPlayer P).watched _ (fun _ e _ => probedReady e) fun _ _ _ h => ready_of_probedReady h

def notedPlayer (P : Payloads) : Player (noted P) HostResult :=
  (hostPlayer P).watched openWatch (fun _ _ _ => true) fun _ _ _ _ => trivial

def initializeRequest : Request := ⟨"initialize", .initializeHost, "", by decide⟩

/-- A bound connect on a healthy host, and an `initialize` on another. -/
def initializedSchedule (host : HostResult) : List (Move Task HostResult) :=
  [.start (.request samplePeer stageRequest), .go 0 100 healthyHost,
    .start (.request samplePeer connectR), .go 1 100 healthyHost,
    .start (.request samplePeer initializeRequest), .go 2 100 host]

def steadyPlayed : Pool Daemon (Shared × Notes) Task Reply :=
  (steadyPlayer samplePayloads).play ⟨(.new true, {}), []⟩ (initializedSchedule healthyHost)

theorem steadyPlayed_truthful :
    steadyPlayed.shared.2.tunnel ≠ none ∧ steadyPlayed.shared.1.mu = none ∧
      steadyPlayed.shared.1.fields.phase = .running ∧ Truthful steadyPlayed := by
  have h := phase_truthful samplePayloads steadyPlayed
    ⟨true, (steadyPlayer samplePayloads).run_play _ _⟩
  exact ⟨by decide +kernel, by decide +kernel, by decide +kernel, h⟩

def hiddenPlayed : Pool Daemon (Shared × Notes) Task Reply :=
  (notedPlayer samplePayloads).play ⟨(.new true, {}), []⟩
    (initializedSchedule { healthyHost with inMatrix := false })

/-- One probe that is not ready, and the live tunnel has lost its phase. -/
theorem phase_not_truthful :
    ¬ ∀ p : Pool Daemon (Shared × Notes) Task Reply, Noted samplePayloads p → Truthful p := by
  intro h
  have hnoted : Noted samplePayloads hiddenPlayed := ⟨true, (notedPlayer samplePayloads).run_play _ _⟩
  have hphase := ((h hiddenPlayed hnoted).running (by decide +kernel) 0 (by decide +kernel)).1
  exact absurd hphase (by decide +kernel)

end Pokrov.Linux.Service
