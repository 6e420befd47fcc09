import Pokrov.Linux.Service.Sessions

/-!
# Every program of the daemon keeps the account

What the programs under `mu` do to the fields and to the account of the live
session, and the requests and watchers that run them. A stop ends the session
before it can fail, and then either the phase or the last failure hides what is
left of its health.
-/

namespace Pokrov.Linux.Service

open Effects Outline

variable {P : Payloads} {α β : Type} {task : Task}

/-! ## Stopping and recovering -/

variable {f : Fields} {a : Account} {p : Fields → Account → Prop}

/-- A phase that does not run and a last failure both hide the health. -/
theorem Vouched.of_hidden (howed : Owed f a) (h : f.phase ≠ .running ∨ f.lastFailure ≠ "") :
    Vouched f a where
  running := fun hphase hfailure => by
    rcases h with h | h
    · exact absurd hphase h
    · exact absurd hfailure h
  owed := howed

/-- The fields agree on the runtime, and a failure is not taken back. -/
structure Alike (f g : Fields) : Prop where
  phase : g.phase = f.phase
  transaction : g.transaction = f.transaction
  core : g.core = f.core
  health : g.health = f.health
  lastFailure : g.lastFailure = f.lastFailure ∨ g.lastFailure ≠ ""

theorem Owed.same {f g : Fields} (h : Owed f a) (htransaction : g.transaction = f.transaction)
    (hcore : g.core = f.core) : Owed g a := by
  unfold Owed
  rw [htransaction, hcore]
  exact h

theorem Up.same {f g : Fields} {s : Session} (h : Up f a s)
    (htransaction : g.transaction = f.transaction) (hcore : g.core = f.core) : Up g a s :=
  ⟨h.1, htransaction.trans h.2.1, hcore.trans h.2.2⟩

theorem Owed.of_some (h : f.transaction ≠ none) : Owed f a :=
  fun hnone => absurd hnone h

theorem Vouched.alike {f g : Fields} (h : Vouched f a) (hg : Alike f g) : Vouched g a where
  running := fun hphase hfailure => by
    rcases hg.lastFailure with hsame | hfailed
    · obtain ⟨s, hup, hvouches⟩ := h.running (hg.phase ▸ hphase) (hsame ▸ hfailure)
      refine ⟨s, hup.same hg.transaction hg.core, ?_⟩
      rw [hg.health]
      exact hvouches
    · exact absurd hfailure hfailed
  owed := h.owed.same hg.transaction hg.core

/-- The program keeps the fields and the account together. -/
abbrev Sustains (P : Payloads) (task : Task) (m : Locked α) : Prop :=
  Leads P task m Vouched fun _ => Vouched

theorem Sustains.pure (v : α) : Sustains P task (pure v) := Leads.pure fun _ _ h => h

theorem Sustains.modify {g : Fields → Fields} (hg : ∀ f, Alike f (g f)) :
    Sustains P task (MonadStateOf.modifyGet fun f => ((), g f)) :=
  Leads.modify fun f _ h => h.alike (hg f)

/-- Nothing is left of a transaction. -/
structure Cleared (f : Fields) (a : Account) : Prop where
  transaction : f.transaction = none
  core : f.core = none
  owner : a.owner = ""
  phase : f.phase ≠ .running

theorem Cleared.vouched (h : Cleared f a) : Vouched f a :=
  .of_hidden (fun _ => ⟨h.core, h.owner⟩) (.inl h.phase)

theorem leads_clearRuntime {q : Unit → Fields → Account → Prop}
    (h : ∀ f a, p f a → q () { f with transaction := none, core := none } { a with owner := "" }) :
    Leads P task clearRuntime p q := by
  refine .bind (q := fun _ f a => q () f { a with owner := "" }) (.modify h) fun _ => ?_
  exact .called (c := .connectMu .releaseBoundConnect) rfl fun _ _ f a _ _ _ h => h

theorem leads_recoverSystem :
    Leads P task (call .recoverSystem) p fun outcome f a => ∃ a0, p f a0 ∧ a = a0.recovered outcome :=
  .called rfl fun _ _ _ a _ _ _ h => ⟨a, h, rfl⟩

/-- A recovery finds nothing, clears everything, or fails and leaves the phase
behind. -/
def Recovered (p : Fields → Account → Prop) (r : Option RecoverError) (f : Fields) (a : Account) :
    Prop :=
  r = none ∧ f.recoveryRequired = false ∧ (p f a ∨ Cleared f a) ∨
    r ≠ none ∧ Owed f a ∧ f.phase = .configStaged

theorem leads_recoverPending (hp : ∀ f a, p f a → p { f with recoveryRequired := false } a)
    (howed : ∀ f a, p f a → Owed f a) : Leads P task recoverPending p (Recovered p) := by
  refine .bind leads_recoverSystem fun outcome => ?_
  rcases outcome with error | found
  · refine .bind (q := fun _ f a => Owed f a ∧ f.phase = .configStaged) (.modify ?_) fun _ => ?_
    · rintro f _ ⟨a, h, rfl⟩
      exact ⟨howed f a h, rfl⟩
    · exact .pure fun f a h => .inr ⟨nofun, h⟩
  cases found with
  | false =>
    refine .bind (q := fun _ f a => p f a ∧ f.recoveryRequired = false) (.modify ?_) fun _ => ?_
    · rintro f a ⟨_, h, rfl⟩
      exact ⟨hp f _ h, rfl⟩
    · exact .pure fun f a h => .inl ⟨rfl, h.2, .inl h.1⟩
  | true =>
    refine .bind (q := fun _ f _ => f.recoveryRequired = false) (.modify fun _ _ _ => rfl)
      fun _ => ?_
    refine .ite (fun h => absurd rfl h) fun _ => ?_
    let gone : Fields → Account → Prop := fun f a =>
      f.transaction = none ∧ f.core = none ∧ a.owner = "" ∧ f.recoveryRequired = false
    refine .bind (q := fun _ => gone) (leads_clearRuntime fun f a h => ⟨rfl, rfl, rfl, h⟩) fun _ => ?_
    refine .bind (q := fun _ => gone) (.modify fun f a h => h) fun _ => ?_
    refine .bind (.still rfl) fun exist => ?_
    refine .bind (q := fun _ f a => Cleared f a ∧ f.recoveryRequired = false) (.modify ?_)
      fun _ => .pure fun f a h => .inl ⟨rfl, h.2, .inr h.1⟩
    rintro f a ⟨htransaction, hcore, howner, hrecovery⟩
    exact ⟨⟨htransaction, hcore, howner, by cases exist <;> simp⟩, hrecovery⟩

theorem Recovered.vouched {r : Option RecoverError} (h : Recovered Vouched r f a) :
    Vouched f a := by
  rcases h with ⟨-, -, h | h⟩ | ⟨-, howed, hphase⟩
  · exact h
  · exact h.vouched
  · exact .of_hidden howed (.inl (by simp [hphase]))

theorem leads_recoverPending_vouched :
    Leads P task recoverPending Vouched (Recovered Vouched) :=
  leads_recoverPending (fun _ _ h => ⟨h.running, h.owed⟩) fun _ _ h => h.owed

theorem sustains_recoverPending : Sustains P task recoverPending :=
  leads_recoverPending_vouched.mono (fun _ _ => id) fun _ _ _ h => h.vouched

theorem leads_recoverExited : Leads P task recoverExited (fun f _ => f.transaction ≠ none)
    fun r f a => Owed f a ∧ (r = true → Cleared f a) := by
  refine .bind (q := fun _ f _ => f.transaction ≠ none) (.get fun f a h => h) fun f0 => ?_
  cases f0.core with
  | none => exact .pure fun f a h => ⟨.of_some h, nofun⟩
  | some core =>
    refine .bind (.still rfl) fun exited => .ite (fun _ => .pure fun f a h => ⟨.of_some h, nofun⟩)
      fun _ => ?_
    refine .bind (leads_recoverPending (fun _ _ h => h) fun _ _ => Owed.of_some) fun r => ?_
    refine .ite (fun hfailed => .pure fun f a h => ?_) fun hdone => ?_
    · rcases h with ⟨hnone, -⟩ | ⟨-, howed, -⟩
      · exact absurd hnone hfailed
      · exact ⟨howed, nofun⟩
    have hdone : r = none := not_not.mp hdone
    refine .bind (q := fun f1 f a => f1 = f ∧ (f.transaction ≠ none ∨ Cleared f a))
      (.get fun f a h => ?_) fun f1 => .pure ?_
    · rcases h with ⟨-, -, h⟩ | ⟨hfailed, -⟩
      · exact ⟨rfl, h⟩
      · exact absurd hdone hfailed
    · rintro f a ⟨rfl, h | h⟩
      · exact ⟨.of_some h, fun hnone => absurd (by simpa using hnone) h⟩
      · exact ⟨fun _ => ⟨h.core, h.owner⟩, fun _ => h⟩

/-- What a stop may start from: a health that no session vouches for is one of a
runtime that has a transaction. -/
def Stoppable (f : Fields) (a : Account) : Prop := f.transaction = none → Vouched f a

theorem leads_stop : Leads P task stop Stoppable fun _ => Vouched := by
  refine .bind (q := fun f0 f a => f0 = f ∧ Stoppable f a) (.get fun f a h => ⟨rfl, h⟩) fun f0 => ?_
  cases htransaction : f0.transaction with
  | none =>
    have hvouched : ∀ f a, f0 = f ∧ Stoppable f a → Vouched f a := by
      rintro f a ⟨rfl, h⟩
      exact h htransaction
    refine .ite (fun _ => .pure hvouched) fun _ => ?_
    exact .bind (sustains_recoverPending.mono hvouched fun _ _ _ h => h) fun r => Sustains.pure _
  | some transaction =>
    refine .bind (q := fun _ f _ => f.transaction ≠ none) (.called rfl ?_) fun restored => ?_
    · rintro _ _ f a r - - ⟨rfl, -⟩
      simp [htransaction]
    refine .ite (fun _ => ?_) fun _ => ?_
    · refine .bind (q := fun _ f a => f.transaction = none ∧ f.core = none ∧ a.owner = "")
        (leads_clearRuntime fun f a _ => ⟨rfl, rfl, rfl⟩) fun _ => ?_
      refine .bind (q := fun _ => Cleared) (.modify ?_) fun _ => .pure fun f a h => h.vouched
      rintro f a ⟨hnone, hcore, howner⟩
      exact ⟨hnone, hcore, howner, by simp⟩
    · refine .bind leads_recoverExited fun recovered => .ite (fun hrecovered => ?_) fun _ => ?_
      · exact .pure fun f a h => (h.2 hrecovered).vouched
      · refine .bind (q := fun _ => Vouched) (.modify fun f a h => ?_) fun _ => Sustains.pure _
        -- the failure hides the health of the session that could not be restored
        exact .of_hidden (h.1.same rfl rfl) (.inr (by simp))

theorem Vouched.stoppable (h : Vouched f a) : Stoppable f a := fun _ => h

theorem sustains_stop : Sustains P task stop :=
  leads_stop.mono (fun _ _ => Vouched.stoppable) fun _ _ _ h => h

theorem sustains_settleExitedCore (core : Nat) : Sustains P task (settleExitedCore core) := by
  refine .bind (.still rfl) fun expired => .bind sustains_stop fun stopped => ?_
  refine .ite (fun _ => Sustains.modify fun f => ⟨rfl, rfl, rfl, rfl, .inr ?_⟩) fun _ => Sustains.pure _
  cases expired <;> simp

theorem sustains_awaitTunnelGone (error : RecoverError) (rounds : Nat) :
    Sustains P task (awaitTunnelGone error rounds) := by
  induction rounds with
  | zero => exact Sustains.pure _
  | succ rounds ih =>
    refine .bind (.still rfl) fun observed => ?_
    cases observed with
    | timeout => exact Sustains.pure _
    | unreadable => exact Sustains.pure _
    | live => exact ih
    | gone => exact sustains_recoverPending

theorem sustains_recover : Sustains P task recover := by
  refine .bind sustains_recoverPending fun outcome => ?_
  split
  · exact sustains_awaitTunnelGone _ _
  · exact Sustains.pure _

theorem sustains_close : Sustains P task close := by
  refine .bind (q := fun _ => Vouched) ?_ fun _ => .bind (.still rfl) fun _ => sustains_stop
  exact Sustains.modify fun f => ⟨rfl, rfl, rfl, rfl, .inl rfl⟩

/-! ## Responses -/

theorem Attests.of_none {response : Response} (h : response.snapshot = none) :
    Attests response f a :=
  fun _ hshown => absurd (h.symm.trans hshown) nofun

/-- What a snapshot of vouched fields displays is attested. -/
theorem Displays.attests {response : Response} {shown : Snapshot} (h : Displays f shown)
    (hf : Vouched f a) (hresponse : response.snapshot = some shown) : Attests response f a := by
  intro shown' hshown hgreen
  obtain rfl : shown = shown' := Option.some.inj (hresponse.symm.trans hshown)
  rcases h with ⟨hegress, hdns⟩ | ⟨health, hhealth, hphase, hfailure, hrunning, hegress, hdns⟩
  · rw [hegress, hdns] at hgreen
    rcases hgreen with hgreen | hgreen <;> cases hgreen
  · obtain ⟨s, hup, hvouches⟩ := hf.running hphase hfailure
    refine ⟨hrunning, hphase, s, health, hup, hegress, hdns, hvouches health hhealth ?_⟩
    rw [hegress, hdns] at hgreen
    simpa [Health.green, or_comm] using hgreen

/-- The program keeps the account and answers what is attested. -/
abbrev Speaks (P : Payloads) (task : Task) (m : Locked Response) : Prop :=
  Leads P task m Vouched fun r f a => Vouched f a ∧ Attests r f a

variable {request : Request}

theorem Speaks.failure (errorCode messageCode : String) :
    Speaks P task (pure (.failure request errorCode messageCode)) :=
  Leads.pure fun _ _ h => ⟨h, .of_none rfl⟩

theorem speaks_runtimeFailure (request : Request) : Speaks P task (runtimeFailure request) := by
  refine .bind (q := fun _ => Vouched) ?_ fun _ => Speaks.failure _ _
  exact Sustains.modify fun f => ⟨rfl, rfl, rfl, rfl, .inr (by simp)⟩

/-- A response that shows a fresh snapshot. -/
theorem speaks_snapshot (result : HostResult) {respond : Snapshot → Response}
    (hrespond : ∀ f shown, Displays f shown →
      ∃ shown', (respond shown).snapshot = some shown' ∧ Displays f shown') :
    Speaks P task (do return respond (← snapshot result)) := by
  have hdisplays : ∀ f, (snapshot result f).Yields (plain · = true) fun y =>
      y.2 = f ∧ Displays f y.1 := fun f =>
    (yields_snapshot_plain result f).mono (fun _ => id) fun _ h => ⟨h.1, h.2.2.1⟩
  refine .bind (.yields hdisplays) fun shown => .pure fun f a h => ⟨h.2, ?_⟩
  obtain ⟨shown', hresponse, hshown⟩ := hrespond f shown h.1
  exact hshown.attests h.2 hresponse

theorem speaks_succeed : Speaks P task (succeed request) :=
  .bind (.still rfl) fun result => speaks_snapshot result fun _ shown h => ⟨shown, rfl, h⟩

/-- Only the snapshot of a response is attested. -/
theorem Attests.same {response response' : Response} (h : Attests response f a)
    (hshown : response'.snapshot = response.snapshot) : Attests response' f a := by
  unfold Attests
  rw [hshown]
  exact h

/-! ## Requests under the lock -/

theorem speaks_stageProfile : Speaks P task (stageProfile P request) := by
  refine .bind (q := fun _ => Vouched) (.get fun _ _ h => h) fun f0 => ?_
  refine .ite (fun _ => Speaks.failure _ _) fun _ => ?_
  refine .bind (.still rfl) fun result => .ite (fun _ => Speaks.failure _ _) fun _ => ?_
  cases P.stage request.payload with
  | none => exact Speaks.failure _ _
  | some stage =>
    refine .bind (.still rfl) fun staged => ?_
    cases staged with
    | none =>
      refine .bind (q := fun _ => Vouched) ?_ fun _ => Speaks.failure _ _
      exact Sustains.modify fun f => ⟨rfl, rfl, rfl, rfl, .inl rfl⟩
    | some staged =>
      refine .bind (q := fun _ => Vouched) (.modify fun f a h => ?_) fun _ =>
        speaks_snapshot result fun f shown h => ⟨_, rfl, h⟩
      exact .of_hidden (h.owed.same rfl rfl) (.inl (by simp))

theorem speaks_invalidateProfile : Speaks P task (invalidateProfile request) := by
  refine .bind (q := fun _ => Vouched) (.get fun _ _ h => h) fun f0 => ?_
  refine .ite (fun _ => Speaks.failure _ _) fun _ => ?_
  refine .bind (.still rfl) fun invalidated => .ite (fun _ => Speaks.failure _ _) fun _ => ?_
  refine .bind (q := fun _ => Vouched) (.modify fun f a h => ?_) fun _ => speaks_succeed
  exact .of_hidden (h.owed.same rfl rfl) (.inl (by simp))

theorem speaks_status : Speaks P task (status request) := by
  refine .bind (q := fun _ => Vouched) (.get fun _ _ h => h) fun f0 => ?_
  cases f0.core with
  | none => exact speaks_succeed
  | some core =>
    refine .bind (.still rfl) fun exited => .ite (fun _ => ?_) fun _ => speaks_succeed
    exact .bind (sustains_settleExitedCore core) fun _ => speaks_succeed

theorem speaks_initializeHost : Speaks P task (initializeHost request) := by
  refine .bind (.still rfl) fun result => ?_
  refine .bind (q := fun f0 f a => f0 = f ∧ Vouched f a) (.get fun f a h => ⟨rfl, h⟩) fun f0 => ?_
  refine .bind (q := fun _ f a => f0 = f ∧ Vouched f a) ?_ fun inventory => ?_
  · exact .ite (fun _ => .pure fun _ _ h => h) fun _ => .still rfl
  refine .bind (q := fun _ => Vouched) (.modify ?_) fun _ =>
    speaks_snapshot result fun _ shown h => ⟨shown, rfl, h⟩
  rintro f a ⟨-, h⟩
  refine ⟨fun hphase hfailure => ?_, h.owed.same rfl rfl⟩
  -- a phase that runs has not been written
  have hrunning : f.phase = .running := by
    dsimp only at hphase
    split at hphase
    · cases hphase
    · split at hphase
      · cases hphase
      · exact hphase
  obtain ⟨s, hup, hvouches⟩ := h.running hrunning hfailure
  exact ⟨s, hup.same rfl rfl, hvouches⟩

theorem speaks_disconnect : Speaks P task (disconnect request) := by
  refine .bind sustains_stop fun stopped => .ite (fun _ => speaks_runtimeFailure request) fun _ => ?_
  refine .bind (q := fun _ => Vouched) ?_ fun _ => .bind (.still rfl) fun exist => ?_
  · exact Sustains.modify fun f => ⟨rfl, rfl, rfl, rfl, .inl rfl⟩
  refine .bind (q := fun _ => Vouched) (.modify fun f a h => ?_) fun _ => .bind (.still rfl)
    fun result => speaks_snapshot result fun f shown h => ⟨_, rfl, h⟩
  exact .of_hidden (h.owed.same rfl rfl) (.inl (by cases exist <;> simp))

/-! ## Leases and cancellations -/

theorem speaks_stopUnacknowledged (request : Request) : Speaks P task (stopUnacknowledged request) :=
  .bind sustains_stop fun _ => Speaks.failure _ _

/-- A lease that is promoted on a live session vouches for its health. -/
theorem Vouched.promoted (h : Vouched f a) (howner : a.owner ≠ "") (health : Health) :
    Vouched { f with health := some health } (a.leased (some a.owner)) where
  running := fun hphase hfailure => by
    obtain ⟨s, ⟨hsession, htransaction, hcore⟩, -⟩ := h.running hphase hfailure
    refine ⟨{ s with lease := some a.owner }, ⟨?_, htransaction, hcore⟩, fun _ _ _ => ?_⟩
    · simp [Account.leased, hsession]
    · exact .inr ⟨rfl, howner⟩
  owed := h.owed

/-- A health that is not green needs no lease. -/
theorem Vouched.revoked (h : Vouched f a) (hhealth : f.health = some {}) (lease : Option String) :
    Vouched f (a.leased lease) where
  running := fun hphase hfailure => by
    obtain ⟨s, ⟨hsession, htransaction, hcore⟩, -⟩ := h.running hphase hfailure
    refine ⟨{ s with lease }, ⟨?_, htransaction, hcore⟩, fun health hsome hgreen => ?_⟩
    · simp [Account.leased, hsession]
    · cases hhealth.symm.trans hsome
      cases hgreen
  owed := h.owed

theorem speaks_promoteLocked (peer : Peer) {target : TransportLeasePromotion}
    (hrequest : target.connectRequestID ≠ "") :
    Speaks P task (promoteLocked peer request target) := by
  refine .bind (.still rfl) fun current => .bind (q := fun _ => Vouched) (.get fun _ _ h => h)
    fun f0 => .bind .ownership fun ownership => ?_
  have hfailure : ∀ errorCode messageCode, Leads P task
      (pure (.failure request errorCode messageCode) : Locked Response)
      (fun f a => ownership.boundConnectRequestID = a.owner ∧ Vouched f a)
      fun r f a => Vouched f a ∧ Attests r f a := fun _ _ =>
    (Speaks.failure _ _).mono (fun _ _ h => h.2) fun _ _ _ h => h
  cases current with
  | none => exact hfailure _ _
  | some current =>
  cases f0.core with
  | none => exact hfailure _ _
  | some core =>
    refine .ite (fun _ => hfailure _ _) fun hpromotable => ?_
    have hpromotable : promotable peer target f0 ownership (some current) = true := by
      simpa using hpromotable
    simp only [promotable, Bool.and_eq_true, decide_eq_true_eq] at hpromotable
    obtain ⟨⟨⟨-, howner⟩, -⟩, -⟩ := hpromotable
    -- the owner has a name
    refine Leads.mono (p := fun f a => a.owner ≠ "" ∧ Vouched f a) ?_ ?_ fun _ _ _ h => h
    swap
    · rintro f a ⟨hsame, h⟩
      exact ⟨hsame ▸ howner ▸ hrequest, h⟩
    have hfailure : ∀ errorCode messageCode, Leads P task
        (pure (.failure request errorCode messageCode) : Locked Response)
        (fun f a => a.owner ≠ "" ∧ Vouched f a) fun r f a => Vouched f a ∧ Attests r f a :=
      fun _ _ => (Speaks.failure _ _).mono (fun _ _ h => h.2) fun _ _ _ h => h
    have hstop : Leads P task (stopUnacknowledged request)
        (fun f a => a.owner ≠ "" ∧ Vouched f a) fun r f a => Vouched f a ∧ Attests r f a :=
      (speaks_stopUnacknowledged request).mono (fun _ _ h => h.2) fun _ _ _ h => h
    refine .bind (.looks (plain_coreRuns core _)) fun _ => .ite (fun _ => hfailure _ _) fun _ => ?_
    refine .bind (.looks (plain_peerOnNetwork peer _)) fun _ =>
      .ite (fun _ => hfailure _ _) fun _ => ?_
    refine .bind (.still rfl) fun _ => .ite (fun _ => hstop) fun _ => ?_
    refine .bind (.looks (plain_stillPromotable peer _ core _)) fun _ =>
      .ite (fun _ => hstop) fun _ => ?_
    refine .bind (q := fun _ f a => ∃ a0 : Account, a = a0.leased (some a0.owner) ∧
      a0.owner ≠ "" ∧ Vouched f a0) (.called rfl fun _ _ f a _ _ _ h => ⟨a, rfl, h⟩) fun _ => ?_
    refine .bind (q := fun _ => Vouched) (.modify ?_) fun _ => ?_
    · rintro f _ ⟨a, rfl, howner, h⟩
      exact h.promoted howner _
    · exact .bind speaks_succeed fun response => .pure fun f a h => ⟨h.1, h.2.same rfl⟩

theorem speaks_revokeLocked (peer : Peer) (target : TransportLeaseRevocation)
    (terminateActive : Bool) :
    Speaks P task (revokeLocked peer request target terminateActive) := by
  refine .bind (.still rfl) fun current => .bind (q := fun _ => Vouched) (.get fun _ _ h => h)
    fun f0 => .bind (.still rfl) fun ownership => ?_
  cases f0.core with
  | none => exact Speaks.failure _ _
  | some core =>
    refine .ite (fun _ => Speaks.failure _ _) fun _ => ?_
    refine .bind (.looks (plain_coreRuns core _)) fun _ => .ite (fun _ => Speaks.failure _ _) fun _ => ?_
    refine .bind (q := fun _ f a => Vouched f a ∧ f.health = some {}) (.modify fun f a h => ?_)
      fun _ => .bind (q := fun _ => Vouched) ?_ fun revoked => ?_
    · refine ⟨⟨fun hphase hfailure => ?_, h.owed⟩, rfl⟩
      obtain ⟨s, hup, -⟩ := h.running hphase hfailure
      refine ⟨s, hup, fun health hsome hgreen => ?_⟩
      cases hsome
      cases hgreen
    · refine .bind (q := fun _ => Vouched) (.called rfl fun _ _ f a _ _ _ h => ?_) fun _ => ?_
      · exact h.1.revoked h.2 none
      · exact .ite (fun _ => Sustains.pure _) fun _ => .bind (.still rfl) fun _ => Sustains.pure _
    refine .ite (fun _ => speaks_stopUnacknowledged request) fun _ => ?_
    refine .bind (q := fun _ => Vouched) ?_ fun _ => ?_
    · exact .ite (fun _ => .still rfl) fun _ => Sustains.pure _
    · exact .bind speaks_succeed fun response => .pure fun f a h => ⟨h.1, h.2.same rfl⟩

theorem speaks_settleCancelled (peer : Peer) (connectRequestID : String) (call' : Nat) :
    Speaks P task (settleCancelled peer request connectRequestID call') := by
  refine .bind (.still rfl) fun ownership => .bind (q := fun _ => Vouched) ?_ fun stopped => ?_
  · refine .ite (fun _ => Sustains.pure _) fun _ => .bind sustains_stop fun _ => ?_
    refine .ite (fun _ => Sustains.pure _) fun _ => .bind (q := fun _ => Vouched) ?_ fun _ =>
      Sustains.pure _
    exact Sustains.modify fun f => ⟨rfl, rfl, rfl, rfl, .inl rfl⟩
  · refine .ite (fun _ => speaks_runtimeFailure request) fun _ => .bind (.still rfl) fun c => ?_
    exact .pure fun f a h => ⟨h, .of_none rfl⟩

theorem sustains_stopWatched (peer : Peer) (requestID : String) (networkChanged : Bool) :
    Sustains P task (stopWatched peer requestID networkChanged) := by
  refine .bind (.still rfl) fun ownership => .ite (fun _ => ?_) fun _ => Sustains.pure _
  refine .bind sustains_stop fun stopped => .ite (fun _ => ?_) fun _ => Sustains.pure _
  exact Sustains.modify fun f => ⟨rfl, rfl, rfl, rfl, .inr (by cases networkChanged <;> simp)⟩

end Pokrov.Linux.Service
