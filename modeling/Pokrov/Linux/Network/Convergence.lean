import Pokrov.Linux.Network.Recovery

/-!
# Recovery converges

A host is undisturbed when the table and the routes of a record's owners are
the ones the daemon made, or are gone, and the record on disk flags whatever
is still there. Every attempt at recovery keeps it so, wherever it is cut off;
an attempt that meets no failure leaves neither host state nor record.
-/

namespace Pokrov.Linux.Network

open Effects Contract

/-! ## Undisturbed hosts -/

/-- What no save of a recovery changes. -/
structure SameRecord (R state : RecoveryState) : Prop where
  transactionID : state.transactionID = R.transactionID
  bootID : state.bootID = R.bootID
  token : state.token = R.token
  ipv6 : state.ipv6 = R.ipv6

theorem SameRecord.plan {R state : RecoveryState} (h : SameRecord R state) :
    recoveryPlan state = recoveryPlan R := by
  unfold recoveryPlan
  rw [h.ipv6]

/-- The objects of one listing that lie in the daemon's table and protocol. -/
def owned (host : Host) (family : Family) (kind : RouteKind) : List IpObject :=
  (host.objects family kind).filter inOwnedTable

structure Undisturbed (R : RecoveryState) (w : World) : Prop where
  block : ∀ comment, w.host.block = some comment → comment = ownerComment R.token ∧
    ∃ state, w.durable = some state ∧ state.nftPending = true
  objects : ∀ family kind, owned w.host family kind = [] ∨
    owned w.host family kind = [printed (recoveryPlan R) family kind] ∧
      ∃ state, w.durable = some state ∧ state.routesPending = true
  record : ∀ state, w.durable = some state → SameRecord R state ∧ state.Sound

/-- A flag of the record the attempt started from is cleared only once its
owner is rolled back. -/
def Kept (S : RecoveryState) (w : World) : Prop :=
  ∀ sub, sub = .nftables ∨ sub = .routes → S.pending sub = true →
    w.undone sub = true ∨ ∃ state, w.durable = some state ∧ state.pending sub = true

/-- The contract of an attempt that started from the record `S`. -/
def converging (R S : RecoveryState) (faults : Faults) : Contract Net World :=
  recovering (recoveryPlan R) True faults fun w e =>
    Undisturbed R (w.next (recoveryPlan R) e) ∧ Kept S (w.next (recoveryPlan R) e)

/-! ## What `Apply` made is what `Rollback` looks for -/

theorem printed_owned (R : RecoveryState) (family : Family) (kind : RouteKind) :
    inOwnedTable (printed (recoveryPlan R) family kind) = true ∧
      ownedRouteObject kind family (printed (recoveryPlan R) family kind) (recoveryPlan R) =
        true := by
  have hplan : recoveryPlan R =
      recoveryPlan { transactionID := "", bootID := "", token := "", ipv6 := R.ipv6 } := rfl
  rw [hplan]
  generalize R.ipv6 = ipv6
  cases ipv6 <;> cases family <;> cases kind <;> exact ⟨by decide +kernel, by decide +kernel⟩

theorem deletes_kindArguments (plan : Plan) (family : Family) (kind : RouteKind) :
    deletes plan (kindArguments kind family "del" plan) = some (family, kind) := by
  cases family <;> cases kind <;>
    simp [deletes, RouteParticipant.rollbackTargets, kindArguments, ruleArguments,
      routeArguments, Family.flag]

theorem countOwned_filter (kind : RouteKind) (family : Family) (plan : Plan)
    (objects : List IpObject) :
    countOwned kind family plan objects =
      countOwned kind family plan (objects.filter inOwnedTable) := by
  induction objects with
  | nil => rfl
  | cons object rest ih =>
    by_cases h : inOwnedTable object = true
    · rw [List.filter_cons_of_pos h]
      simp only [countOwned, h, Bool.not_true, Bool.false_eq_true, if_false, ih]
    · rw [List.filter_cons_of_neg h]
      simp only [countOwned, h, Bool.not_false, if_true]
      exact ih

/-! ## One attempt -/

/-- Between two steps of an attempt the record in memory is the one on disk. -/
structure Recovers (R S : RecoveryState) (r : Recovering) (w : World) : Prop where
  calm : Undisturbed R w
  kept : Kept S w
  disk : w.durable = some r.state
  owner : r.nftables.owner = R.token
  dirty : r.nftables.dirty = r.state.nftPending

/-- A step that reports an error met a fault, and left the record. -/
def Outcome (faults : Faults) (J : Recovering → World → Prop) (a : GoError) (r : Recovering)
    (w : World) : Prop :=
  match a with
  | none => J r w
  | some _ => w.durable.isSome = true ∧ faults ≠ .none

section Attempt

variable {R S : RecoveryState} {faults : Faults} {r : Recovering} {w w' : World}

theorem Undisturbed.congr (h : Undisturbed R w) (hblock : w'.host.block = w.host.block)
    (howned : ∀ family kind, owned w'.host family kind = owned w.host family kind)
    (hdurable : w'.durable = w.durable) : Undisturbed R w' := by
  refine ⟨fun comment hc => ?_, fun family kind => ?_, fun state hs => ?_⟩
  · rw [hdurable]
    exact h.block comment (hblock.symm.trans hc)
  · rw [howned, hdurable]
    exact h.objects family kind
  · exact h.record state (hdurable.symm.trans hs)

theorem Kept.congr (h : Kept S w) (hundone : w'.undone = w.undone)
    (hdurable : w'.durable = w.durable) : Kept S w' := by
  intro sub hsub hp
  rw [hundone, hdurable]
  exact h sub hsub hp

theorem Recovers.same (h : Recovers R S r w) : SameRecord R r.state := (h.calm.record _ h.disk).1

theorem Recovers.sound (h : Recovers R S r w) : r.state.Sound := (h.calm.record _ h.disk).2

theorem Recovers.present (h : Recovers R S r w) : w.durable.isSome = true := by
  rw [h.disk]
  rfl

/-- A flag that is down says that nothing of the owner is left. -/
theorem Recovers.unblocked (h : Recovers R S r w) (hp : r.state.nftPending = false) :
    w.host.block = none ∧ (S.nftPending = true → w.undone .nftables = true) := by
  refine ⟨?_, fun hS => ?_⟩
  · cases hb : w.host.block with
    | none => rfl
    | some comment =>
      obtain ⟨-, state, hs, hpend⟩ := h.calm.block comment hb
      obtain rfl := Option.some.inj (h.disk.symm.trans hs)
      rw [hp] at hpend
      cases hpend
  · rcases h.kept .nftables (.inl rfl) hS with hu | ⟨state, hs, hpend⟩
    · exact hu
    · obtain rfl := Option.some.inj (h.disk.symm.trans hs)
      exact absurd hpend (by simp [RecoveryState.pending, hp])

theorem Recovers.unrouted (h : Recovers R S r w) (hp : r.state.routesPending = false) :
    (∀ family kind, owned w.host family kind = []) ∧
      (S.routesPending = true → w.undone .routes = true) := by
  refine ⟨fun family kind => ?_, fun hS => ?_⟩
  · rcases h.calm.objects family kind with ho | ⟨-, state, hs, hpend⟩
    · exact ho
    · obtain rfl := Option.some.inj (h.disk.symm.trans hs)
      rw [hp] at hpend
      cases hpend
  · rcases h.kept .routes (.inr rfl) hS with hu | ⟨state, hs, hpend⟩
    · exact hu
    · obtain rfl := Option.some.inj (h.disk.symm.trans hs)
      exact absurd hpend (by simp [RecoveryState.pending, hp])

/-- Calls that change neither the owners' host state nor the record. -/
theorem Recovers.guar_same (h : Recovers R S r w) {e : Event Net}
    (hn : w.next (recoveryPlan R) e = w) : (converging R S faults).guar w e := by
  refine ⟨?_, ?_⟩
  · rw [hn]; exact h.calm
  · rw [hn]; exact h.kept

variable {arguments : List String}

theorem Recovers.guar_read (h : Recovers R S r w) {name : String} {input : Option String}
    (a : RunResult) (hr : readOnly name arguments = true) :
    (converging R S faults).guar w ⟨.run name arguments input, a⟩ :=
  h.guar_same (next_readOnly hr a)

theorem wpa_convergingRead {σ α : Type} {name : String} {input : Option String}
    {k : RunResult → Act Net σ α} {Q : α → σ → World → Prop} {s : σ} (h : Recovers R S r w)
    (hr : readOnly name arguments = true)
    (hk : ∀ a : RunResult, w.Rely (recoveryPlan R) faults ⟨.run name arguments input, a⟩ → (converging R S faults).wpa (k a) Q s w) :
    (converging R S faults).wpa (run name arguments input >>= k) Q s w := by
  have hg : ∀ a : RunResult, (converging R S faults).guar w ⟨.run name arguments input, a⟩ :=
    fun a => h.guar_read a hr
  exact wpa_read hr hg fun a hrely => hk a (hrely trivial)

/-- Saving a record whose cleared flags belong to owners that are gone. -/
theorem Recovers.install (h : Recovers R S r w) (state : RecoveryState)
    (hsame : SameRecord R state) (hsound : state.Sound)
    (hnft : state.nftPending = true ∨
      w.host.block = none ∧ (S.nftPending = true → w.undone .nftables = true))
    (hroutes : state.routesPending = true ∨
      (∀ family kind, owned w.host family kind = []) ∧
        (S.routesPending = true → w.undone .routes = true)) :
    Undisturbed R { w with durable := some state } ∧ Kept S { w with durable := some state } := by
  refine ⟨⟨fun comment hc => ?_, fun family kind => ?_, ?_⟩, ?_⟩
  · refine ⟨(h.calm.block comment hc).1, state, rfl, ?_⟩
    rcases hnft with hp | ⟨hnone, -⟩
    · exact hp
    · exact absurd (hnone.symm.trans hc) (by simp)
  · rcases hroutes with hp | ⟨hnone, -⟩
    · rcases h.calm.objects family kind with ho | ⟨ho, -⟩
      · exact .inl ho
      · exact .inr ⟨ho, state, rfl, hp⟩
    · exact .inl (hnone family kind)
  · rintro state' ⟨⟩
    exact ⟨hsame, hsound⟩
  · rintro sub (rfl | rfl) hS
    · rcases hnft with hp | ⟨-, hu⟩
      · exact .inr ⟨state, rfl, hp⟩
      · exact .inl (hu hS)
    · rcases hroutes with hp | ⟨-, hu⟩
      · exact .inr ⟨state, rfl, hp⟩
      · exact .inl (hu hS)

theorem wpa_convergingSave (h : Recovers R S r w) (change : RecoveryState → RecoveryState)
    (hsame : SameRecord R (change r.state)) (hsound : (change r.state).Sound)
    (hdirty : r.nftables.dirty = (change r.state).nftPending)
    (hnft : (change r.state).nftPending = true ∨
      w.host.block = none ∧ (S.nftPending = true → w.undone .nftables = true))
    (hroutes : (change r.state).routesPending = true ∨
      (∀ family kind, owned w.host family kind = []) ∧
        (S.routesPending = true → w.undone .routes = true)) :
    (converging R S faults).wpa (saveRecovering change)
      (Outcome faults fun r' w' => Recovers R S r' w' ∧ r'.state = change r.state) r w := by
  have hnew := h.install _ hsame hsound hnft hroutes
  unfold saveRecovering save
  rw [wpa_bind, wpa_modify, wpa_bind, wpa_get]
  refine wpa_call fun a hrely => ?_
  cases a with
  | done => exact ⟨hnew, ⟨hnew.1, hnew.2, rfl, h.owner, hdirty⟩, rfl⟩
  | failed message landed =>
    have hfault : faults ≠ .none := by
      intro hf
      cases hrely trivial hf
    cases landed with
    | false => exact ⟨⟨h.calm, h.kept⟩, h.present, hfault⟩
    | true => exact ⟨hnew, rfl, hfault⟩

theorem wpa_convergingRecord {recorder : Recorder} {stage : Method} {sub : Subsystem}
    {result : RecordResult} {Q : GoError → Recovering → World → Prop}
    (hw : Undisturbed R w ∧ Kept S w) (hQ : ∀ a, Q a r w) :
    (converging R S faults).wpa (recorder.record stage sub result) Q r w :=
  fun a _ => ⟨hw, hQ a⟩

/-- The flags of the record as it stands satisfy the conditions of a save. -/
theorem Recovers.nftFlag (h : Recovers R S r w) : r.state.nftPending = true ∨
    w.host.block = none ∧ (S.nftPending = true → w.undone .nftables = true) := by
  cases hp : r.state.nftPending with
  | true => exact .inl rfl
  | false => exact .inr (h.unblocked hp)

theorem Recovers.routesFlag (h : Recovers R S r w) : r.state.routesPending = true ∨
    (∀ family kind, owned w.host family kind = []) ∧
      (S.routesPending = true → w.undone .routes = true) := by
  cases hp : r.state.routesPending with
  | true => exact .inl rfl
  | false => exact .inr (h.unrouted hp)

variable (recorder : Recorder)

theorem wpa_convergeResolved (h : Recovers R S r w) :
    (converging R S faults).wpa (recoverResolved recorder)
      (Outcome faults fun r' w' => Recovers R S r' w' ∧ r'.state.resolvedPending = false) r w := by
  unfold recoverResolved
  rw [wpa_bind, wpa_get, wpa_ite]
  refine ⟨fun hp => ⟨h, by simpa using hp⟩, fun _ => ?_⟩
  refine wpa_seq (wpa_convergingSave h _ ⟨h.same.1, h.same.2, h.same.3, h.same.4⟩ ?_ h.dirty
    h.nftFlag h.routesFlag) ?_
  · refine h.sound.update rfl rfl ?_
    rintro (hp | hp)
    · exact h.sound.ordered (.inl hp)
    · cases hp
  rintro (_ | e) r' w' hr
  · dsimp only
    rw [wpa_bind]
    exact wpa_convergingRecord ⟨hr.1.calm, hr.1.kept⟩ fun _ => ⟨hr.1, by rw [hr.2]⟩
  · exact hr

/-- A bus command: the checkpoints may change, nothing else does. -/
theorem wpa_bus {α : Type} {k : RunResult → Rec α} {Q : α → Recovering → World → Prop}
    (h : Recovers R S r w)
    (hk : ∀ a w', Recovers R S r w' → (readOnly "busctl" arguments = true → w' = w) → World.Rely (recoveryPlan R) faults w ⟨.run "busctl" arguments none, a⟩ → (converging R S faults).wpa (k a) Q r w') :
    (converging R S faults).wpa (run "busctl" arguments none >>= k) Q r w := by
  refine wpa_call fun a hrely => ?_
  have hnext : ∀ a : RunResult, let w' := w.next (recoveryPlan R) ⟨.run "busctl" arguments none, a⟩
      w'.host.objects = w.host.objects ∧ w'.undone = w.undone := by
    intro a
    cases a with
    | output text => exact ⟨rfl, rfl⟩
    | failed message applied => cases applied <;> exact ⟨rfl, rfl⟩
  have hblock := run_block (recoveryPlan R) w (show "busctl" ≠ "nft" by decide) arguments none a
  have hdurable := run_durable (recoveryPlan R) w "busctl" arguments none a
  have h' : Recovers R S r (w.next (recoveryPlan R) ⟨.run "busctl" arguments none, a⟩) :=
    ⟨h.calm.congr hblock (fun family kind => by unfold owned; rw [(hnext a).1]) hdurable,
      h.kept.congr (hnext a).2 hdurable, hdurable.trans h.disk, h.owner, h.dirty⟩
  exact ⟨⟨h'.calm, h'.kept⟩, hk a _ h' (fun hr => next_readOnly hr a) (hrely trivial)⟩

/-- A truthful bus lets the checkpoint be destroyed, or found gone. -/
theorem wpa_convergeCheckpoint (h : Recovers R S r w) (state : RecoveryState) :
    (converging R S faults).wpa (destroyOwnedCheckpoint state) (fun a r' w' =>
      Recovers R S r' w' ∧ r' = r ∧ (faults = .none → a = none)) r w := by
  unfold destroyOwnedCheckpoint
  refine wpa_bus h fun a w1 h1 hsame1 hrely1 => ?_
  obtain rfl := hsame1 rfl
  cases a with
  | failed message applied =>
    exact ⟨h1, rfl, fun hf => absurd ⟨rfl, rfl⟩ ((hrely1 hf).1.named state.nmOwner)⟩
  | output data =>
    have hnamed := hrely1.named state.nmOwner rfl rfl
    dsimp only
    rw [wpa_ite]
    refine ⟨fun _ => ⟨h1, rfl, fun _ => rfl⟩, fun hno => ?_⟩
    rw [wpa_ite]
    refine ⟨fun hno' => ⟨h1, rfl, fun _ => ?_⟩, fun htrue => ?_⟩
    · split at hnamed
      · exact absurd hnamed hno'
      · exact absurd hnamed hno
    have howner : state.nmOwner ∈ w1.host.names := by
      by_contra hne
      rw [if_neg hne] at hnamed
      exact hno hnamed
    refine wpa_bus h1 fun a w2 h2 hsame2 hrely2 => ?_
    obtain rfl := hsame2 rfl
    cases a with
    | failed message applied =>
      exact ⟨h2, rfl, fun hf => absurd howner ((hrely2 hf).1.listed state.nmOwner rfl rfl)⟩
    | output data =>
      obtain ⟨-, count, hcount, hfields⟩ := hrely2.listed state.nmOwner rfl rfl
      dsimp only
      split
      case h_2 hother => exact absurd hfields (hother _ _)
      next count' paths heq =>
      rw [hfields] at heq
      obtain ⟨rfl, rfl⟩ : count = count' ∧ w2.host.checkpoints.map GoText.quotePlain = paths := by
        simpa using heq
      rw [List.length_map, checkpointPaths_quoted w2.host.paths, wpa_ite]
      refine ⟨fun hbad => absurd hcount hbad, fun _ => ?_⟩
      dsimp only
      rw [wpa_ite]
      refine ⟨fun _ => ⟨h2, rfl, fun _ => rfl⟩, fun hfound => ?_⟩
      have hmem : state.nmCheckpoint ∈ w2.host.checkpoints := by
        simp only [Bool.not_eq_true', Bool.not_eq_false, List.contains_iff_mem,
          List.mem_map] at hfound
        obtain ⟨path, hpath, heq⟩ := hfound
        rwa [← String.toList_inj.mp heq]
      refine wpa_bus h2 fun a w3 h3 _ hrely3 => ?_
      cases a with
      | failed message applied =>
        exact ⟨h3, rfl, fun hf => absurd ⟨howner, hmem⟩
          ((hrely3 hf).1.destroyed state.nmOwner state.nmCheckpoint rfl rfl)⟩
      | output data => exact ⟨h3, rfl, fun _ => rfl⟩

theorem wpa_convergeNetworkManager (h : Recovers R S r w) (bootID : String) :
    (converging R S faults).wpa (recoverNetworkManager recorder bootID)
      (Outcome faults fun r' w' => Recovers R S r' w' ∧
        r'.state.resolvedPending = r.state.resolvedPending) r w := by
  unfold recoverNetworkManager
  rw [wpa_bind, wpa_get, wpa_ite]
  refine ⟨fun _ => ⟨h, rfl⟩, fun _ => ?_⟩
  rw [wpa_bind]
  have hdestroy : (converging R S faults).wpa (destroyOnBoot bootID r.state) (fun a r' w' =>
      Recovers R S r' w' ∧ r' = r ∧ (faults = .none → a = none)) r w := by
    unfold destroyOnBoot
    rw [wpa_ite]
    exact ⟨fun _ => wpa_convergeCheckpoint h r.state, fun _ => ⟨h, rfl, fun _ => rfl⟩⟩
  refine wpa_mono hdestroy ?_
  rintro (_ | e) r1 w1 ⟨h1, rfl, hnone⟩
  · dsimp only
    refine wpa_seq (wpa_convergingSave h1 _ ⟨h1.same.1, h1.same.2, h1.same.3, h1.same.4⟩
      (h1.sound.update rfl rfl h1.sound.ordered) h1.dirty h1.nftFlag h1.routesFlag) ?_
    rintro (_ | e) r2 w2 hr
    · dsimp only
      rw [wpa_bind]
      exact wpa_convergingRecord ⟨hr.1.calm, hr.1.kept⟩ fun _ => ⟨hr.1, by rw [hr.2]⟩
    · exact hr
  · dsimp only
    rw [wpa_bind]
    refine wpa_convergingRecord ⟨h1.calm, h1.kept⟩ fun _ => ⟨h1.present, fun hf => ?_⟩
    cases hnone hf

/-- What a deletion that takes effect does. -/
theorem ran_deletes (w : World) (plan : Plan) (family : Family) (kind : RouteKind) :
    w.ran plan "ip" (kindArguments kind family "del" plan) none =
      { w with host := { w.host with
        objects := fun f k =>
          if (f, k) = (family, kind) then (w.host.objects f k).erase (printed plan f k)
          else w.host.objects f k } } := by
  unfold World.ran Host.effect
  rw [if_neg (by decide), if_pos rfl, deletes_kindArguments]

theorem Recovers.removed (h : Recovers R S r w) (family : Family)
    (kind : RouteKind)
    (hone : owned w.host family kind = [printed (recoveryPlan R) family kind]) :
    let w' := w.ran (recoveryPlan R) "ip" (kindArguments kind family "del" (recoveryPlan R)) none
    Recovers R S r w' ∧ owned w'.host family kind = [] ∧
      ∀ f k, owned w.host f k = [] → owned w'.host f k = [] := by
  intro w'
  have hw' : w' = { w with host := { w.host with
      objects := fun f k =>
        if (f, k) = (family, kind) then
          (w.host.objects f k).erase (printed (recoveryPlan R) f k)
        else w.host.objects f k } } := ran_deletes w _ family kind
  have hgone : owned w'.host family kind = [] := by
    rw [hw']
    unfold owned at hone ⊢
    simp only [if_true]
    rw [← List.erase_filter, hone]
    simp
  have hothers : ∀ f k, (f, k) ≠ (family, kind) → owned w'.host f k = owned w.host f k := by
    intro f k hne
    rw [hw']
    simp only [owned, if_neg hne]
  have hempty : ∀ f k, owned w.host f k = [] → owned w'.host f k = [] := by
    intro f k ho
    by_cases heq : (f, k) = (family, kind)
    · obtain ⟨rfl, rfl⟩ := Prod.mk.inj heq
      exact hgone
    · rw [hothers f k heq]
      exact ho
  have hblock : w'.host.block = w.host.block := by rw [hw']
  have hdurable : w'.durable = w.durable := by rw [hw']
  refine ⟨⟨⟨?_, ?_, ?_⟩, h.kept.congr (by rw [hw']) hdurable, hdurable.trans h.disk, h.owner,
    h.dirty⟩, hgone, hempty⟩
  · intro comment hc
    rw [hdurable]
    exact h.calm.block comment (hblock.symm.trans hc)
  · intro f k
    rcases h.calm.objects f k with ho | ho
    · exact .inl (hempty f k ho)
    · by_cases heq : (f, k) = (family, kind)
      · obtain ⟨rfl, rfl⟩ := Prod.mk.inj heq
        exact .inl hgone
      · rw [hothers f k heq, hdurable]
        exact .inr ho
  · intro state hs
    exact h.calm.record state (hdurable.symm.trans hs)

/-- One listing of `routes.Rollback`: what the daemon made is deleted. -/
theorem wpa_convergeOne (h : Recovers R S r w) (p : RouteParticipant) (family : Family)
    (kind : RouteKind) :
    (converging R S faults).wpa (RouteParticipant.rollbackOne (recoveryPlan R) (family, kind))
      (fun a _ w' => Recovers R S r w' ∧ (a = none → owned w'.host family kind = []) ∧
        (∀ f k, owned w.host f k = [] → owned w'.host f k = []) ∧
        (faults = .none → a = none)) p w := by
  unfold RouteParticipant.rollbackOne RouteParticipant.list
  rw [wpa_bind]
  refine wpa_convergingRead h rfl fun a hrely => ?_
  cases a with
  | failed message applied =>
    exact ⟨h, nofun, fun _ _ ho => ho, fun hf =>
      absurd ⟨rfl, rfl⟩ ((hrely hf).1.objects family kind)⟩
  | output data =>
    dsimp only
    rw [decodeIpObjects_lists (hrely.objects family kind rfl rfl)]
    dsimp only
    rw [wpa_pure]
    dsimp only
    have hcount := countOwned_filter kind family (recoveryPlan R) (w.host.objects family kind)
    rcases h.calm.objects family kind with ho | ⟨ho, -⟩
    · -- Nothing of ours is left in this listing.
      rw [show (w.host.objects family kind).filter inOwnedTable = [] from ho] at hcount
      rw [hcount]
      exact ⟨h, fun _ => ho, fun _ _ he => he, fun _ => rfl⟩
    · have hone : countOwned kind family (recoveryPlan R) (w.host.objects family kind) =
          .ok 1 := by
        rw [hcount, show (w.host.objects family kind).filter inOwnedTable =
          [printed (recoveryPlan R) family kind] from ho]
        simp [countOwned, printed_owned, Except.map]
      have hmem : printed (recoveryPlan R) family kind ∈ w.host.objects family kind := by
        have : printed (recoveryPlan R) family kind ∈ owned w.host family kind := by
          rw [ho]
          exact List.mem_singleton.mpr rfl
        exact (List.mem_filter.mp this).1
      obtain ⟨h', hgone, hothers⟩ := h.removed family kind ho
      rw [hone]
      dsimp only
      rw [wpa_ite]
      refine ⟨fun hmany => absurd hmany (by decide), fun _ => ?_⟩
      rw [wpa_ite]
      refine ⟨fun _ => ?_, fun hno => absurd rfl hno⟩
      refine wpa_call fun a hrely => ?_
      cases a with
      | output text => exact ⟨⟨h'.calm, h'.kept⟩, h', fun _ => hgone, hothers, fun _ => rfl⟩
      | failed message applied =>
        have hfault : faults = .none → (some message : GoError) = none := by
          intro hf
          exact absurd hmem ((hrely trivial hf).1.removed family kind rfl
            (deletes_kindArguments _ family kind))
        cases applied with
        | false => exact ⟨⟨h.calm, h.kept⟩, h, nofun, fun _ _ he => he, hfault⟩
        | true => exact ⟨⟨h'.calm, h'.kept⟩, h', nofun, hothers, hfault⟩

/-- `routes.Rollback`: a success means that nothing of ours is left. -/
theorem wpa_convergeRollback (h : Recovers R S r w) :
    (converging R S faults).wpa (RouteParticipant.rollback (recoveryPlan R)) (fun a _ w' =>
      Recovers R S r w' ∧ (a = none → ∀ family kind, owned w'.host family kind = []) ∧
        (faults = .none → a = none)) { dirty := true } w := by
  unfold RouteParticipant.rollback
  rw [wpa_bind, wpa_get, wpa_ite]
  refine ⟨fun hp => absurd hp (by decide), fun _ => ?_⟩
  rw [wpa_bind]
  -- The listings gone through so far are clear, and stay clear.
  refine wpa_mono (wpa_untilError (J := fun rest _ w' => Recovers R S r w' ∧
    ∀ target, target ∉ rest → owned w'.host target.1 target.2 = [])
    (Q := fun _ _ w' => Recovers R S r w' ∧ faults ≠ .none) _ ?_ _ _ ⟨h, ?_⟩) ?_
  · rintro ⟨family, kind⟩ rest p w' ⟨h', hclear⟩
    refine wpa_mono (wpa_convergeOne h' p family kind) ?_
    rintro (_ | e) p' w'' ⟨h'', hgone, hothers, hfault⟩
    · refine ⟨h'', fun target hnot => ?_⟩
      by_cases heq : target = (family, kind)
      · subst heq
        exact hgone rfl
      · exact hothers _ _ (hclear target (by simp [heq, hnot]))
    · refine ⟨h'', fun hf => ?_⟩
      cases hfault hf
  · rintro ⟨family, kind⟩ hnot
    exact absurd (by cases family <;> cases kind <;> decide) hnot
  · rintro (_ | e) p' w' hr
    · exact ⟨hr.1, fun _ family kind => hr.2 (family, kind) nofun, fun _ => rfl⟩
    · exact ⟨hr.1, nofun, fun hf => absurd hf hr.2⟩

/-- The end of a rollback. -/
theorem Recovers.leave (h : Recovers R S r w) (sub : Subsystem) (a : GoError) :
    Recovers R S r (w.next (recoveryPlan R) ⟨.leave sub .rollback a, ()⟩) := by
  cases a with
  | some e => exact h
  | none =>
    refine ⟨h.calm.congr rfl (fun _ _ => rfl) rfl, ?_, h.disk, h.owner, h.dirty⟩
    intro s hs hS
    rcases h.kept s hs hS with hu | hd
    · left
      simp [World.next, hu]
    · exact .inr hd

theorem wpa_convergeRoutes (h : Recovers R S r w) (hres : r.state.resolvedPending = false) :
    (converging R S faults).wpa (recoverRoutes recorder (recoveryPlan R))
      (Outcome faults fun r' w' => Recovers R S r' w' ∧ r'.state.resolvedPending = false ∧
        r'.state.routesPending = false) r w := by
  unfold recoverRoutes
  rw [wpa_bind, wpa_get, wpa_ite]
  refine ⟨fun hp => ⟨h, hres, by simpa using hp⟩, fun _ => ?_⟩
  refine wpa_call fun _ _ => ⟨⟨h.calm, h.kept⟩, ?_⟩
  rw [wpa_bind]
  refine wpa_zoom.mpr ?_
  refine wpa_mono (wpa_convergeRollback h) ?_
  rintro a p w1 ⟨h1, hgone, hfault⟩
  have h2 := h1.leave .routes a
  refine wpa_call fun _ _ => ⟨⟨h2.calm, h2.kept⟩, ?_⟩
  cases a with
  | some e =>
    dsimp only
    rw [wpa_bind]
    refine wpa_convergingRecord ⟨h2.calm, h2.kept⟩ fun _ => ⟨h2.present, fun hf => ?_⟩
    cases hfault hf
  | none =>
    dsimp only
    refine wpa_seq (wpa_convergingSave h2 _ ⟨h2.same.1, h2.same.2, h2.same.3, h2.same.4⟩ ?_
      h2.dirty h2.nftFlag (.inr ⟨hgone rfl, fun _ => rfl⟩)) ?_
    · refine h2.sound.update rfl rfl ?_
      rintro (hp | hp)
      · cases hp
      · exact h2.sound.ordered (.inr hp)
    rintro (_ | e) r3 w3 hr
    · dsimp only
      rw [wpa_bind]
      refine wpa_convergingRecord ⟨hr.1.calm, hr.1.kept⟩ fun _ => ⟨hr.1, ?_⟩
      rw [hr.2]
      exact ⟨hres, rfl⟩
    · exact hr

theorem wpa_convergeNftables (h : Recovers R S r w) (hres : r.state.resolvedPending = false)
    (hroutes : r.state.routesPending = false) :
    (converging R S faults).wpa (recoverNftables recorder (recoveryPlan R))
      (Outcome faults fun r' w' => w'.durable = some r'.state ∧
        Undisturbed R w' ∧ Kept S w' ∧ r'.state.nftPending = false ∧
        r'.state.routesPending = false) r w := by
  unfold recoverNftables
  rw [wpa_bind, wpa_get, wpa_ite]
  refine ⟨fun hp => ⟨h.disk, h.calm, h.kept, by simpa using hp, hroutes⟩, fun hp => ?_⟩
  have hnft : r.state.nftPending = true := by simpa using hp
  refine wpa_call fun _ _ => ⟨⟨h.calm, h.kept⟩, ?_⟩
  rw [wpa_bind]
  unfold onNftables
  refine wpa_zoom.mpr ?_
  -- The world after the deletion is still undisturbed.
  have hunblocked : Recovers R S r w.unblocked :=
    ⟨⟨nofun, h.calm.objects, h.calm.record⟩, h.kept.congr rfl rfl, h.disk, h.owner, h.dirty⟩
  have hread : ∀ (arguments : List String) (input : Option String) (a : RunResult),
      readOnly "nft" arguments = true →
      (converging R S faults).guar w ⟨.run "nft" arguments input, a⟩ :=
    fun _ _ a hr => h.guar_read a hr
  have hdelete : ∀ a : RunResult,
      (converging R S faults).guar w ⟨.run "nft" ["--file", "-"] (some nftDelete), a⟩ := by
    intro a
    cases a with
    | output text => exact ⟨hunblocked.calm, hunblocked.kept⟩
    | failed message applied =>
      cases applied with
      | false => exact ⟨h.calm, h.kept⟩
      | true => exact ⟨hunblocked.calm, hunblocked.kept⟩
  refine wpa_mono (wpa_nftRollback (h.dirty.trans hnft) hread fun _ => hdelete) ?_
  rintro a p w1 ⟨-, hw, htruth⟩
  obtain ⟨hgone, hdone⟩ := htruth trivial
  have h1 : Recovers R S r w1 := by
    rcases hw with rfl | ⟨-, rfl⟩
    · exact h
    · exact hunblocked
  have h2 := h1.leave .nftables a
  refine wpa_call fun _ _ => ⟨⟨h2.calm, h2.kept⟩, ?_⟩
  cases a with
  | some e =>
    dsimp only
    rw [wpa_bind]
    refine wpa_convergingRecord ⟨h2.calm, h2.kept⟩ fun _ => ⟨h2.present, fun hf => ?_⟩
    have hpattern : ownerTokenPattern r.nftables.owner = true := by
      rw [h.owner, ← h.same.token]
      exact h.sound.owned
    cases hdone hf hpattern fun comment hc => by rw [h.owner]; exact (h.calm.block comment hc).1
  | none =>
    dsimp only
    rw [wpa_bind]
    have hnew := h2.install { r.state with nftPending := false }
      ⟨h2.same.1, h2.same.2, h2.same.3, h2.same.4⟩
      (h2.sound.update rfl rfl fun hor => absurd hor (by simp [hroutes, hres]))
      (.inr ⟨hgone rfl, fun _ => rfl⟩) h2.routesFlag
    unfold saveRecovering save
    rw [wpa_bind, wpa_modify, wpa_bind, wpa_get]
    refine wpa_bind.mpr (wpa_call fun saved hrely => ?_)
    cases saved with
    | done => exact ⟨hnew, fun _ _ => ⟨hnew, rfl, hnew.1, hnew.2, rfl, hroutes⟩⟩
    | failed message landed =>
      have hfault : faults ≠ .none := by
        intro hf
        cases hrely trivial hf
      cases landed with
      | false => exact ⟨⟨h2.calm, h2.kept⟩, h2.present, hfault⟩
      | true => exact ⟨hnew, rfl, hfault⟩

/-- The end of an attempt. -/
structure Recovered (R : RecoveryState) (w : World) : Prop where
  durable : w.durable = none
  block : w.host.block = none
  objects : ∀ family kind, printed (recoveryPlan R) family kind ∉ w.host.objects family kind

/-- What an attempt that returns has done: an error came from a fault, and
leaves the record unless it was the removal that failed. -/
def Finished (R : RecoveryState) (faults : Faults) (a : GoError) (w : World) : Prop :=
  match a with
  | none => Recovered R w
  | some _ => faults ≠ .none ∧ (faults ≠ .any → w.durable.isSome = true)

theorem wpa_convergeRemove (hdisk : w.durable = some r.state) (hcalm : Undisturbed R w)
    (hkept : Kept S w) (hnft : r.state.nftPending = false)
    (hroutes : r.state.routesPending = false) :
    (converging R S faults).wpa remove (fun a _ w' => Finished R faults a w') r w := by
  have hblock : w.host.block = none := by
    cases hb : w.host.block with
    | none => rfl
    | some comment =>
      obtain ⟨-, state, hs, hp⟩ := hcalm.block comment hb
      obtain rfl := Option.some.inj (hdisk.symm.trans hs)
      exact absurd hp (by simp [hnft])
  have howned : ∀ family kind, owned w.host family kind = [] := by
    intro family kind
    rcases hcalm.objects family kind with ho | ⟨-, state, hs, hp⟩
    · exact ho
    · obtain rfl := Option.some.inj (hdisk.symm.trans hs)
      exact absurd hp (by simp [hroutes])
  have hnone : Undisturbed R { w with durable := none } ∧ Kept S { w with durable := none } := by
    refine ⟨⟨fun comment hc => ?_, fun f k => .inl (howned f k), nofun⟩, ?_⟩
    · exact absurd (hblock.symm.trans hc) (by simp)
    · rintro sub hsub hS
      rcases hkept sub hsub hS with hu | ⟨state, hs, hp⟩
      · exact .inl hu
      · obtain rfl := Option.some.inj (hdisk.symm.trans hs)
        rcases hsub with rfl | rfl
        · exact absurd hp (by simp [RecoveryState.pending, hnft])
        · exact absurd hp (by simp [RecoveryState.pending, hroutes])
  unfold remove
  refine wpa_call fun a hrely => ?_
  cases a with
  | done =>
    refine ⟨hnone, rfl, hblock, fun family kind hmem => ?_⟩
    have : printed (recoveryPlan R) family kind ∈ owned w.host family kind :=
      List.mem_filter.mpr ⟨hmem, (printed_owned R family kind).1⟩
    rw [howned] at this
    cases this
  | failed message landed =>
    have hany : faults = .any := by
      by_contra hne
      cases hrely trivial hne
    subst hany
    cases landed with
    | false => exact ⟨⟨hcalm, hkept⟩, nofun, fun hne => absurd rfl hne⟩
    | true => exact ⟨hnone, nofun, fun hne => absurd rfl hne⟩

theorem Outcome.finished {J : Recovering → World → Prop} {e : String}
    (h : Outcome faults J (some e) r w) : Finished R faults (some e) w :=
  ⟨h.2, fun _ => h.1⟩

theorem wpa_convergePending (bootID : String) (h : Recovers R S r w) :
    (converging R S faults).wpa (recoverPending recorder bootID (recoveryPlan R))
      (fun a _ w' => Finished R faults a w') r w := by
  unfold recoverPending
  rw [untilError, wpa_bind]
  refine wpa_mono (wpa_convergeResolved recorder h) ?_
  rintro (_ | e) r1 w1 h1
  swap
  · exact (h1.finished : Finished R faults (some e) w1)
  dsimp only
  rw [untilError, wpa_bind]
  refine wpa_mono (wpa_convergeNetworkManager recorder h1.1 bootID) ?_
  rintro (_ | e) r2 w2 h2
  swap
  · exact (h2.finished : Finished R faults (some e) w2)
  dsimp only
  rw [untilError, wpa_bind]
  refine wpa_mono (wpa_convergeRoutes recorder h2.1 (h2.2.trans h1.2)) ?_
  rintro (_ | e) r3 w3 h3
  swap
  · exact (h3.finished : Finished R faults (some e) w3)
  dsimp only
  rw [untilError, wpa_bind]
  refine wpa_mono (wpa_convergeNftables recorder h3.1 h3.2.1 h3.2.2) ?_
  rintro (_ | e) r4 w4 h4
  swap
  · exact (h4.finished : Finished R faults (some e) w4)
  obtain ⟨hdisk, hcalm, hkept, hnft, hroutes⟩ := h4
  dsimp only
  rw [untilError, wpa_bind]
  refine wpa_mono (wpa_convergeRemove hdisk hcalm hkept hnft hroutes) ?_
  rintro (_ | e) r5 w5 h5 <;> exact h5

/-- **One attempt**, from the record on disk and on the boot it was made. -/
theorem wpa_converge (hcalm : Undisturbed R w) (hdisk : w.durable = some S)
    (hr : r = { state := S }) :
    (converging R S faults).wpa (recoverRecord R.bootID)
      (fun a _ w' => Finished R faults a w') r w := by
  subst hr
  obtain ⟨hsame, hsound⟩ := hcalm.record S hdisk
  have hkept : Kept S w := fun sub _ hS => .inr ⟨S, hdisk, hS⟩
  have h : Recovers R S { state := S, nftables := { dirty := S.nftPending, owner := S.token } } w :=
    ⟨hcalm, hkept, hdisk, hsame.token, rfl⟩
  have hread : ∀ (arguments : List String) (input : Option String) (a : RunResult),
      readOnly "nft" arguments = true →
      (converging R S faults).guar w ⟨.run "nft" arguments input, a⟩ :=
    fun _ _ a hro => h.guar_read a hro
  unfold recoverRecord
  rw [wpa_bind, wpa_get, wpa_bind, wpa_modify, wpa_bind]
  refine wpa_zoom.mpr ?_
  refine wpa_mono (wpa_tablePresent fun a => hread _ _ a rfl) ?_
  rintro present p w1 ⟨rfl, rfl, hpresent⟩
  cases present with
  | error message =>
    refine (⟨fun hf => ?_, fun _ => h.present⟩ : Finished R faults (some message) w1)
    obtain ⟨b, hb⟩ := (hpresent trivial).2 hf
    cases hb
  | ok present =>
    have hblock := (hpresent trivial).1 present rfl
    dsimp only
    rw [wpa_bind]
    have hverify : (converging R S faults).wpa (verifyPresent present S) (fun a r' w' =>
        r' = { state := S, nftables := { dirty := S.nftPending, owner := S.token } } ∧
          w' = w1 ∧ (faults = .none → a = none))
        { state := S, nftables := { dirty := S.nftPending, owner := S.token } } w1 := by
      unfold verifyPresent
      rw [wpa_ite]
      refine ⟨fun hp => ?_, fun _ => ⟨rfl, rfl, fun _ => rfl⟩⟩
      refine wpa_zoom.mpr (wpa_mono (wpa_verifyOwner fun a => hread _ _ a rfl) ?_)
      rintro a p w' ⟨rfl, rfl, howner⟩
      refine ⟨rfl, rfl, fun hf => (howner trivial).2 hf ?_ hsound.owned⟩
      simp only [Bool.and_eq_true] at hp
      obtain ⟨comment, hc⟩ := Option.isSome_iff_exists.mp (hblock.symm.trans hp.1)
      rw [hc, (hcalm.block comment hc).1, hsame.token]
    refine wpa_mono hverify ?_
    rintro changed r1 w2 ⟨rfl, rfl, hnone⟩
    cases changed with
    | some e =>
      refine (⟨fun hf => ?_, fun _ => h.present⟩ : Finished R faults (some e) w2)
      cases hnone hf
    | none =>
      dsimp only
      rw [wpa_ite]
      refine ⟨fun hother => absurd hother (by simp [hsame.bootID]), fun _ => ?_⟩
      have hrecorder : newRecorder S.transactionID "daemon-recovery" S.generation =
          some ⟨S.transactionID, "daemon-recovery", S.generation⟩ := by
        unfold newRecorder
        rw [if_neg]
        simp only [hsound.identified, Bool.not_true, Bool.false_or]
        decide
      rw [hrecorder, hsame.plan]
      exact wpa_convergePending _ R.bootID h

end Attempt

/-! ## Any number of attempts -/

/-- A new attempt starts with nothing rolled back. -/
def World.again (w : World) : World := { w with undone := fun _ => false }

/-- Attempts one after another, each from the record on disk, each cut off
anywhere, with any failures. -/
inductive Attempts (R : RecoveryState) (w : World) : World → Prop
  | none : Attempts R w w
  | another {w' : World} {S : RecoveryState} {tr : List (Event Net)}
      {q : Prog Net (GoError × Recovering)} (hbefore : Attempts R w w')
      (hdisk : w'.durable = some S) (hrun : Steps (recoverRecord R.bootID { state := S }) tr q)
      (hanswers : Answered (recoveryPlan R) .any w'.again tr) :
      Attempts R w (w'.again.after (recoveryPlan R) tr)

variable {tr : List (Event Net)} {plan : Plan} {h : Host}

theorem attempt_kept {R S : RecoveryState} {w : World} {q : Prog Net (GoError × Recovering)}
    (hcalm : Undisturbed R w) (hdisk : w.durable = some S)
    (hrun : Steps (recoverRecord R.bootID { state := S }) tr q)
    (hanswers : Answered (recoveryPlan R) .any w.again tr) :
    Undisturbed R (w.again.after (recoveryPlan R) tr) ∧
      Kept S (w.again.after (recoveryPlan R) tr) := by
  have hagain : Undisturbed R w.again := hcalm.congr rfl (fun _ _ => rfl) rfl
  have hwp : (converging R S .any).wpa (recoverRecord R.bootID)
      (fun a _ w' => Finished R .any a w') { state := S } w.again :=
    wpa_converge hagain hdisk rfl
  have hall := ((converging R S .any).wp_steps hwp hrun
    (relied_of_answered fun _ => hanswers)).1
  exact (converging R S .any).after_of_along (A := fun w => Undisturbed R w ∧ Kept S w)
    (fun w e _ he => he) ⟨hagain, fun sub _ hS => .inr ⟨S, hdisk, hS⟩⟩ hall

theorem Attempts.calm {R : RecoveryState} {w w' : World} (h : Attempts R w w')
    (hcalm : Undisturbed R w) : Undisturbed R w' := by
  induction h with
  | none => exact hcalm
  | another _ hdisk hrun hanswers ih => exact (attempt_kept ih hdisk hrun hanswers).1

/-- An owner counts as undone only after its rollback returned. -/
theorem rolledBack_of_undone {w : World} {sub : Subsystem} (hbefore : w.undone sub = false)
    (h : (w.after plan tr).undone sub = true) : rolledBack sub ∈ tr := by
  have hstep : ∀ (w : World) (e : Event Net), w.undone sub = false →
      ¬ (w.next plan e).undone sub = false → e = rolledBack sub := by
    rintro w ⟨c, r⟩ hw hnext
    cases c with
    | run name arguments input =>
      cases r with
      | output text => exact absurd hw hnext
      | failed message applied => cases applied <;> exact absurd hw hnext
    | save state =>
      cases r with
      | done => exact absurd hw hnext
      | failed message landed => cases landed <;> exact absurd hw hnext
    | remove =>
      cases r with
      | done => exact absurd hw hnext
      | failed message landed => cases landed <;> exact absurd hw hnext
    | leave sub' method error =>
      cases method with
      | rollback =>
        cases error with
        | none =>
          by_cases heq : sub = sub'
          · subst heq; rfl
          · exact absurd (by simp [World.next, heq, hw]) hnext
        | some e => exact absurd hw hnext
      | checkpoint => exact absurd hw hnext
      | apply => exact absurd hw hnext
    | coreStart pending => exact absurd hw hnext
    | coreStop => exact absurd hw hnext
    | linkIndex name => exact absurd hw hnext
    | write event => exact absurd hw hnext
    | enter sub' method pending => exact absurd hw hnext
  obtain ⟨e, hmem, rfl⟩ := (recovering plan True .any fun _ _ => True).exists_of_lost
    (A := fun w => w.undone sub = false) (P := (· = rolledBack sub)) hstep hbefore
    (by rw [show (recovering plan True .any fun _ _ => True).after w tr = w.after plan tr from rfl,
      h]; decide)
  exact hmem

theorem answered_any {w : World} {faults : Faults} (h : Answered plan faults w tr) :
    Answered plan .any w tr := by
  induction tr generalizing w with
  | nil => trivial
  | cons e tr ih =>
    refine ⟨?_, ih h.2⟩
    obtain ⟨c, r⟩ := e
    cases c with
    | run name arguments input =>
      cases r with
      | output text => exact h.1
      | failed message applied => exact nofun
    | save state => exact nofun
    | remove => exact fun hne => absurd rfl hne
    | _ => trivial

theorem answered_beforeRemoval {w : World} (h : Answered plan .any w tr)
    (hremove : ∀ r : StoreResult, (⟨.remove, r⟩ : Event Net) ∈ tr → r = .done) :
    Answered plan .beforeRemoval w tr := by
  induction tr generalizing w with
  | nil => trivial
  | cons e tr ih =>
    refine ⟨?_, ih h.2 fun r hr => hremove r (List.mem_cons_of_mem _ hr)⟩
    obtain ⟨c, r⟩ := e
    cases c with
    | run name arguments input =>
      cases r with
      | output text => exact h.1
      | failed message applied => exact nofun
    | save state => exact nofun
    | remove => exact fun _ => hremove r List.mem_cons_self
    | _ => trivial

/-! ## The theorem -/

/-- What the host holds in the daemon's places is the daemon's own, once at
most, and flagged in the record. -/
structure Calm (R : RecoveryState) (host : Host) : Prop where
  block : ∀ comment, host.block = some comment →
    comment = ownerComment R.token ∧ R.nftPending = true
  objects : ∀ family kind, owned host family kind = [] ∨
    owned host family kind = [printed (recoveryPlan R) family kind] ∧ R.routesPending = true

theorem Calm.undisturbed {R : RecoveryState} {host : Host} (h : Calm R host)
    (hR : Recorded R) : Undisturbed R ⟨host, some R, fun _ => false⟩ := by
  refine ⟨fun comment hc => ?_, fun family kind => ?_, ?_⟩
  · exact ⟨(h.block comment hc).1, R, rfl, (h.block comment hc).2⟩
  · rcases h.objects family kind with ho | ⟨ho, hp⟩
    · exact .inl ho
    · exact .inr ⟨ho, R, rfl, hp⟩
  · rintro state ⟨⟩
    exact ⟨⟨rfl, rfl, rfl, rfl⟩, hR.sound⟩

/-- **Recovery converges.** Take a record some run left, a host that holds
nothing foreign in the daemon's places, and any attempts at recovery on that
boot. However the next attempt goes: a flag of the block or of the routes is
cleared only after that owner's rollback returned; if it returns an error, and
not because the removal itself failed, the record is still there; and if it
meets no fault and returns, it returns nil, the record is gone, and so are the
table and every rule and route of the record's plan. -/
theorem recovery_converges {R S : RecoveryState} {host : Host} {w : World}
    {tr : List (Event Net)} {q : Prog Net (GoError × Recovering)} (hR : Recorded R)
    (hcalm : Calm R host) (hbefore : Attempts R ⟨host, some R, fun _ => false⟩ w)
    (hdisk : w.durable = some S) (hrun : Steps (recoverRecord R.bootID { state := S }) tr q)
    (hanswers : Answered (recoveryPlan R) .any w.again tr) :
    (∀ sub, sub = .nftables ∨ sub = .routes → S.pending sub = true →
      rolledBack sub ∈ tr ∨ ∃ state,
        (w.again.after (recoveryPlan R) tr).durable = some state ∧ state.pending sub = true) ∧
    (∀ e r, q = .ret (some e, r) →
      (∀ a : StoreResult, (⟨.remove, a⟩ : Event Net) ∈ tr → a = .done) →
      (w.again.after (recoveryPlan R) tr).durable.isSome = true) ∧
    (∀ a r, q = .ret (a, r) → Answered (recoveryPlan R) .none w.again tr →
      a = none ∧ Recovered R (w.again.after (recoveryPlan R) tr)) := by
  have hw : Undisturbed R w := hbefore.calm (hcalm.undisturbed hR)
  have hagain : Undisturbed R w.again := hw.congr rfl (fun _ _ => rfl) rfl
  have hend : ∀ faults, Answered (recoveryPlan R) faults w.again tr → ∀ a r, q = .ret (a, r) →
      Finished R faults a (w.again.after (recoveryPlan R) tr) := by
    rintro faults ha a r rfl
    have hwp : (converging R S faults).wpa (recoverRecord R.bootID)
        (fun a _ w' => Finished R faults a w') { state := S } w.again :=
      wpa_converge hagain hdisk rfl
    exact ((converging R S faults).wp_steps hwp hrun (relied_of_answered fun _ => ha)).2
  refine ⟨fun sub hsub hS => ?_, fun e r hq hremove => ?_, fun a r hq hstrict => ?_⟩
  · rcases (attempt_kept hw hdisk hrun hanswers).2 sub hsub hS with hu | hd
    · exact .inl (rolledBack_of_undone rfl hu)
    · exact .inr hd
  · exact (hend .beforeRemoval (answered_beforeRemoval hanswers hremove) _ r hq).2 nofun
  · have hfin := hend .none hstrict a r hq
    cases a with
    | none => exact ⟨rfl, hfin⟩
    | some e => exact absurd rfl hfin.1

/-! ### Two hosts -/

theorem truthful_tables {text : String} (hl : ListsTables false h.entries text) :
    Truthful plan h "nft" ["--json", "list", "tables"] none text :=
  ⟨fun _ _ => hl, fun _ ha => absurd ha (by decide), nofun, fun _ _ hn => absurd hn (by decide),
    fun _ _ hn => absurd hn (by decide), fun _ hn => absurd hn (by decide),
    fun _ hn => absurd hn (by decide), fun _ _ hn => absurd hn (by decide)⟩

theorem truthful_table {comment text : String} (hb : h.block = some comment)
    (hl : ListsTables true [blockEntry comment] text) :
    Truthful plan h "nft" ["--json", "list", "table", "inet", "pokrov"] none text :=
  ⟨fun _ ha => absurd ha (by decide), fun _ _ => ⟨comment, hb, hl⟩, nofun,
    fun _ _ hn => absurd hn (by decide), fun _ _ hn => absurd hn (by decide),
    fun _ hn => absurd hn (by decide), fun _ hn => absurd hn (by decide),
    fun _ _ hn => absurd hn (by decide)⟩

theorem truthful_objects {family : Family} {kind : RouteKind} {text : String}
    (hl : ListsObjects (h.objects family kind) text) :
    Truthful plan h "ip" (listArguments family kind) none text := by
  refine ⟨fun hn => absurd hn (by decide), fun hn => absurd hn (by decide),
    fun hn => absurd hn (by decide), fun f k _ ha => ?_, fun f k _ hd => ?_,
    fun _ hn => absurd hn (by decide), fun _ hn => absurd hn (by decide),
    fun _ _ hn => absurd hn (by decide)⟩
  · have : f = family ∧ k = kind := by
      revert ha
      cases f <;> cases k <;> cases family <;> cases kind <;> decide
    rw [this.1, this.2]
    exact hl
  · rw [deletes_listing rfl] at hd
    cases hd

/-- What recovery asks of a host on which nothing is left, and the answers. -/
def clearAnswer : Event Net → Bool
  | ⟨.run name arguments input, .output text⟩ =>
    input = none &&
      (name = "nft" && arguments = ["--json", "list", "tables"] &&
          text = "\x7b\"nftables\": []\x7d" ||
        name = "ip" && text = "[]" &&
          RouteParticipant.rollbackTargets.any fun target =>
            arguments = listArguments target.1 target.2)
  | ⟨.run _ _ _, .failed _ _⟩ => false
  | ⟨.save _, .failed _ _⟩ => false
  | ⟨.remove, .failed _ _⟩ => false
  | _ => true

theorem clearAnswer_rely {w : World} {e : Event Net} (hw : w.host = emptyHost)
    (he : clearAnswer e = true) : w.Rely plan .none e ∧ (w.next plan e).host = emptyHost := by
  obtain ⟨c, r⟩ := e
  cases c with
  | run name arguments input =>
    cases r with
    | failed message applied => cases he
    | output text =>
      simp only [clearAnswer, Bool.and_eq_true, Bool.or_eq_true, decide_eq_true_eq,
        List.any_eq_true] at he
      obtain ⟨rfl, ⟨⟨rfl, rfl⟩, rfl⟩ | ⟨⟨rfl, rfl⟩, ⟨family, kind⟩, -, rfl⟩⟩ := he
      · refine ⟨truthful_tables ?_, ?_⟩
        · rw [hw]
          refine ⟨_, [], [], Json.read_of_same (v := .object [("nftables".toList, "[]".toList,
            .array [])]) (by decide +kernel), rfl, .nil, fun _ => ?_⟩
          simp [Host.entries, emptyHost]
        · rw [next_readOnly rfl]
          exact hw
      · refine ⟨truthful_objects ?_, ?_⟩
        · rw [hw]
          exact ⟨[], Json.read_of_same (v := .array []) (by decide +kernel), .nil⟩
        · rw [next_readOnly rfl]
          exact hw
  | save state =>
    cases r with
    | done => exact ⟨fun _ => rfl, hw⟩
    | failed message landed => cases he
  | remove =>
    cases r with
    | done => exact ⟨fun _ => rfl, hw⟩
    | failed message landed => cases he
  | leave sub method error => cases method <;> cases error <;> exact ⟨trivial, hw⟩
  | coreStart pending => exact ⟨trivial, hw⟩
  | coreStop => exact ⟨trivial, hw⟩
  | linkIndex name => exact ⟨trivial, hw⟩
  | write event => exact ⟨trivial, hw⟩
  | enter sub method pending => exact ⟨trivial, hw⟩

theorem answered_of_clear {w : World} (hw : w.host = emptyHost) (htr : tr.all clearAnswer = true) :
    Answered plan .none w tr := by
  induction tr generalizing w with
  | nil => trivial
  | cons e tr ih =>
    simp only [List.all_cons, Bool.and_eq_true] at htr
    have hfirst : w.Rely plan .none e ∧ (w.next plan e).host = emptyHost :=
      clearAnswer_rely hw htr.1
    exact ⟨hfirst.1, ih hfirst.2 htr.2⟩

/-- The attempt after a crash that left nothing on the host but the record. -/
def clearRun : List (Event Net) × (GoError × Recovering) :=
  (recoverRecord systemRecord.bootID { state := systemRecord }).play (plainHost true) []

theorem systemRecord_converges :
    Recovered systemRecord (World.after (recoveryPlan systemRecord)
      ⟨emptyHost, some systemRecord, fun _ => false⟩ clearRun.1) := by
  have hcalm : Calm systemRecord emptyHost := ⟨nofun, fun _ _ => .inl rfl⟩
  have hrun : Steps (recoverRecord systemRecord.bootID { state := systemRecord }) clearRun.1
      (.ret clearRun.2) := steps_play (I := Net) (plainHost true) _ []
  have hstrict : Answered (recoveryPlan systemRecord) .none
      (World.again ⟨emptyHost, some systemRecord, fun _ => false⟩) clearRun.1 :=
    answered_of_clear rfl (by decide +kernel)
  have hend : (.ret clearRun.2 : Prog Net (GoError × Recovering)) =
      .ret (clearRun.2.1, clearRun.2.2) := congrArg Prog.ret (Prod.eta _).symm
  exact ((recovery_converges systemRecord_recorded hcalm .none rfl hrun
    (answered_any hstrict)).2.2 _ _ hend hstrict).2

/-- A host on which the table belongs to somebody else. -/
def foreignHost : Host := { emptyHost with block := some "foreign-owner" }

def tableFields (comment : List (List Char × Json.Raw × Json.Value)) : Json.Value :=
  .object ([("family".toList, "\"inet\"".toList, .string "inet".toList),
    ("name".toList, "\"pokrov\"".toList, .string "pokrov".toList)] ++ comment)

def tableMembers : String := "\x7b\"family\":\"inet\",\"name\":\"pokrov\""

def tableItem (members : String) : String := "\x7b\"table\":" ++ members ++ "\x7d\x7d"

def tableListing (members : String) : String :=
  "\x7b\"nftables\":[" ++ tableItem members ++ "]\x7d"

def tableDocument (members : String) (v : Json.Value) : Json.Value :=
  .object [("nftables".toList, ("[" ++ tableItem members ++ "]").toList,
    .array [((tableItem members).toList,
      .object [("table".toList, (members ++ "\x7d").toList, v)])])]

def commentMember : String := ",\"comment\":\"foreign-owner\""

def foreignTrace : List (Event Net) :=
  [⟨.run "nft" ["--json", "list", "tables"] none, RunResult.output (tableListing tableMembers)⟩,
    ⟨.run "nft" ["--json", "list", "table", "inet", "pokrov"] none,
      RunResult.output (tableListing (tableMembers ++ commentMember))⟩]

def foreignAnswer (_ : List (Event Net)) : (c : Call) → c.Answer
  | .run _ arguments _ =>
    RunResult.output (tableListing (if arguments.length = 3 then tableMembers
      else tableMembers ++ commentMember))
  | .coreStart _ => (none : GoError)
  | .coreStop => (none : GoError)
  | .save _ => StoreResult.done
  | .remove => StoreResult.done
  | .linkIndex _ => (.ok 7 : Except String Int)
  | .write _ => (none : GoError)
  | .enter _ _ _ => ()
  | .leave _ _ _ => ()

def foreignRun : List (Event Net) × (GoError × Recovering) :=
  (recoverRecord systemRecord.bootID { state := systemRecord }).play foreignAnswer []

theorem foreign_answered : Answered (recoveryPlan systemRecord) .none
    ⟨foreignHost, some systemRecord, fun _ => false⟩ foreignTrace := by
  refine ⟨truthful_tables ?_, ?_⟩
  · refine ⟨_, _, [some (blockEntry "foreign-owner")], Json.read_of_same
      (v := tableDocument tableMembers (tableFields [])) (by decide +kernel), rfl, ?_, ?_⟩
    · exact .cons (.table rfl ⟨_, rfl, rfl, rfl, nofun⟩) .nil
    · intro entry
      simp [Host.entries, foreignHost, emptyHost]
  refine ⟨?_, trivial⟩
  rw [next_readOnly rfl]
  refine truthful_table rfl ?_
  refine ⟨_, _, [some (blockEntry "foreign-owner")], Json.read_of_same
    (v := tableDocument (tableMembers ++ commentMember) (tableFields
      [("comment".toList, "\"foreign-owner\"".toList, .string "foreign-owner".toList)]))
    (by decide +kernel), rfl, ?_, ?_⟩
  · exact .cons (.table rfl ⟨_, rfl, rfl, rfl, fun _ => rfl⟩) .nil
  · intro entry
    simp

/-- Recovery of a record some run left does not converge on every host: where
the table is not its own, an attempt without any fault returns an error, as
often as it is made, and leaves everything as it is. -/
theorem recovery_refuses_foreign :
    Recorded systemRecord ∧ systemRecord.bootID = sampleBoot ∧
    ∃ tr e r, Steps (recoverRecord sampleBoot { state := systemRecord }) tr (.ret (some e, r)) ∧
      Answered (recoveryPlan systemRecord) .none
        ⟨foreignHost, some systemRecord, fun _ => false⟩ tr ∧
      (World.after (recoveryPlan systemRecord)
        ⟨foreignHost, some systemRecord, fun _ => false⟩ tr).durable = some systemRecord := by
  refine ⟨systemRecord_recorded, rfl, foreignTrace, "nftables table ownership changed",
    foreignRun.2.2, ?_, foreign_answered, ?_⟩
  · have hrun : Steps (recoverRecord systemRecord.bootID { state := systemRecord }) foreignRun.1
        (.ret foreignRun.2) := steps_play (I := Net) foreignAnswer _ []
    obtain ⟨htrace, herror⟩ : foreignRun.1 = foreignTrace ∧
        foreignRun.2.1 = some "nftables table ownership changed" := by
      decide +kernel
    rw [htrace, show foreignRun.2 = (foreignRun.2.1, foreignRun.2.2) from (Prod.eta _).symm,
      herror] at hrun
    exact hrun
  · rw [after_durable]
    decide +kernel

end Pokrov.Linux.Network
