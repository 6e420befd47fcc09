import Pokrov.Linux.Network.Durability

/-!
# What a request on a transaction leaves

`Execute` works once in the life of a transaction. When it reports a failure
that was rolled back, or `Restore` returns nil, nothing is left to do and every
later `Restore` does nothing. When the rollback failed, the next one goes on
where it stopped: it calls only the owners that are still pending, and it does
not stop Core again.
-/

namespace Pokrov.Linux.Network

open Effects Contract

/-! ## What a retry owes -/

def Pending.of (pending : Pending) : Subsystem → Bool
  | .networkManager => pending.networkManager
  | .resolved => pending.resolved
  | .nftables => pending.nftables
  | .routes => pending.routes

theorem pending_of (t : Transaction) (sub : Subsystem) :
    t.pending.of sub = t.pendingRollback sub := by
  cases sub <;> rfl

/-- Only what is pending is rolled back, and Core is not stopped twice. A retry
does nothing but roll back. -/
def Owed (retry : Prop) (g : Watch) : Call → Prop
  | .enter sub method pending =>
    (retry → method = .rollback) ∧ (method = .rollback → pending.of sub = true)
  | .coreStop => g.stopped = false
  | _ => True

/-- The contract of a request; the environment is free. -/
def settling (retry : Prop) : Contract Net Watch where
  next := Watch.next
  rely := fun _ _ => True
  guar := fun g e => Owed retry g e.call

/-- Nothing is left to do. -/
structure Clear (t : Transaction) (g : Watch) : Prop where
  pending : ∀ sub, t.pendingRollback sub = false
  corePending : t.corePending = false
  durable : g.durable = none

/-- What holds of a transaction at every call. -/
structure Owing (t : Transaction) (g : Watch) : Prop where
  stopped : g.stopped = true → t.corePending = false
  /-- A transaction without a record never writes one. -/
  bare : t.recovery = none → g.durable = none

/-- What holds of a transaction between two requests. -/
structure Resting (t : Transaction) (g : Watch) : Prop extends Owing t g where
  fresh : t.state = .fresh → g.stopped = false
  recovered : t.state = .recovered → Clear t g

/-- What the steps of a request leave alone, but for the stop of Core. -/
structure Continues (t : Transaction) (g : Watch) (t' : Transaction) (g' : Watch) : Prop where
  state : t'.state = t.state
  corePending : t'.corePending = t.corePending
  stopped : g'.stopped = g.stopped
  bare : (t.recovery = none → g.durable = none) → t'.recovery = none → g'.durable = none

section Steps

variable {retry : Prop} {t t' t'' : Transaction} {g g' g'' : Watch} {sub : Subsystem}
  {method : Method}

theorem Continues.refl (t : Transaction) (g : Watch) : Continues t g t g := ⟨rfl, rfl, rfl, id⟩

theorem Continues.trans (h : Continues t g t' g') (h' : Continues t' g' t'' g'') :
    Continues t g t'' g'' :=
  ⟨h'.state.trans h.state, h'.corePending.trans h.corePending, h'.stopped.trans h.stopped,
    fun hb => h'.bare (h.bare hb)⟩

theorem Continues.owing (h : Continues t g t' g') (ho : Owing t g) : Owing t' g' := by
  refine ⟨fun hs => ?_, h.bare ho.bare⟩
  rw [h.corePending]
  exact ho.stopped (h.stopped ▸ hs)

/-! ## Participant calls -/

theorem NftablesParticipant.static_apply {plan : Plan} {p : NftablesParticipant} :
    (static (Runs .nftables false)).wpa (apply plan) (fun _ _ _ => True) p () := by
  unfold apply
  rw [wpa_bind, wpa_get, wpa_ite]
  refine ⟨fun _ => trivial, fun _ => ?_⟩
  rw [wpa_ite]
  refine ⟨fun _ => trivial, fun _ => ?_⟩
  refine static_run (runs_own rfl) (fun _ _ => trivial) fun _ => ?_
  dsimp only
  rw [wpa_bind, wpa_modify]
  exact static_run (runs_own rfl) (fun _ _ => trivial) fun _ => trivial

variable (plan : Plan)

/-- A method changes its own participant, and a rollback says whether it is done. -/
theorem static_anyBody (t : Transaction) (sub : Subsystem) (method : Method) :
    (static (Runs sub false)).wpa (participantBody sub method plan)
      (fun r t' _ => Touches sub t (fun p => method = .rollback →
        p.pendingRollback = (t.pendingRollback sub && r.isSome)) t') t () := by
  by_cases h : sub = .nftables ∧ method = .apply
  · obtain ⟨rfl, rfl⟩ := h
    unfold participantBody
    rw [wpa_zoom]
    exact wpa_mono NftablesParticipant.static_apply fun _ p _ _ => ⟨.nftables p, rfl, rfl, nofun⟩
  · have hbody := wpa_of_static (J := fun _ : Unit => True) (C := static (Runs sub false)) (g := ())
      (fun _ e _ he _ => ⟨?_, trivial⟩) (static_body plan t h) trivial
    · refine wpa_mono hbody ?_
      rintro r t' _ ⟨⟨p, hp, rfl, hleft⟩, -⟩
      refine ⟨p, hp, rfl, ?_⟩
      rintro rfl
      exact hleft
    · cases hq : quiet sub method with
      | false => exact hq ▸ he
      | true => exact runs_of_quiet (hq ▸ he)

/-- A command changes neither the record nor what is known of Core. -/
theorem next_runs {q : Bool} {e : Event Net} (g : Watch) (he : Runs sub q e.call) :
    (g.next e).stopped = g.stopped ∧ (g.next e).durable = g.durable := by
  obtain ⟨c, r⟩ := e
  obtain ⟨name, arguments, input, rfl, -⟩ := he
  simp only [Watch.next]
  cases mutates name arguments <;> exact ⟨rfl, rfl⟩

theorem next_left (g : Watch) (sub : Subsystem) (method : Method) (r : GoError) :
    (g.next ⟨.leave sub method r, ()⟩).stopped = g.stopped ∧
      (g.next ⟨.leave sub method r, ()⟩).durable = g.durable := by
  cases method <;> cases r <;> exact ⟨rfl, rfl⟩

/-- One call of a participant. A rollback is owed by what is pending. -/
theorem wpa_settlingCall (t : Transaction) (g : Watch) (hr : retry → method = .rollback)
    (hp : method = .rollback → t.pendingRollback sub = true) :
    (settling retry).wpa (participantCall sub method plan) (fun r t' g' =>
      Continues t g t' g' ∧ (method = .rollback → Shrinks t t' ∧
        (r = none → t'.pendingRollback sub = false))) t g := by
  unfold participantCall
  rw [wpa_bind, wpa_get]
  refine wpa_call fun _ _ => ⟨⟨hr, fun hm => (pending_of t sub).trans (hp hm)⟩, ?_⟩
  rw [wpa_bind]
  have hstep : ∀ (g' : Watch) (e : Event Net), g'.stopped = g.stopped ∧ g'.durable = g.durable →
      Runs sub false e.call → (settling retry).rely g' e → (settling retry).guar g' e ∧
        ((settling retry).next g' e).stopped = g.stopped ∧ ((settling retry).next g' e).durable = g.durable := by
    rintro g' ⟨c, r⟩ ⟨hs, hd⟩ he -
    have hnext := next_runs g' he
    obtain ⟨name, arguments, input, rfl, -⟩ := he
    exact ⟨trivial, hnext.1.trans hs, hnext.2.trans hd⟩
  refine wpa_mono (wpa_of_static hstep (static_anyBody plan t sub method) ⟨rfl, rfl⟩) ?_
  rintro r t' g' ⟨⟨p, rfl, rfl, hleft⟩, hstopped, hdurable⟩
  refine wpa_call fun _ _ => ⟨trivial, ?_⟩
  obtain ⟨hs, hd⟩ := next_left g' p.subsystem method r
  refine wpa_pure.mpr ⟨⟨place_state t p, place_corePending t p, hs.trans hstopped, ?_⟩, ?_⟩
  · intro hb hnone
    rw [place_recovery] at hnone
    exact (hd.trans hdurable).trans (hb hnone)
  · intro hm
    have hown := hleft hm
    refine ⟨⟨fun s hsub => ?_, place_corePending t p⟩, ?_⟩
    · rw [place_pending]
      split
      · next heq =>
          subst heq
          rw [hp hm] at hsub
          cases hsub
      · exact hsub
    · rintro rfl
      rw [place_pending, if_pos rfl, hown]
      simp

/-! ## Records -/

theorem wpa_settlingRecord {stage : Method} {result : RecordResult} {t : Transaction} {g : Watch}
    {Q : GoError → Transaction → Watch → Prop} (h : ∀ r, Q r t g) :
    (settling retry).wpa (record stage sub result) Q t g := by
  unfold record
  rw [wpa_bind, wpa_get]
  exact fun r _ => ⟨trivial, h r⟩

/-- Only the record changed, and there is one. -/
def Saving (t : Transaction) (g : Watch) (t' : Transaction) (g' : Watch) : Prop :=
  t' = t ∧ g' = g ∨ ∃ log durable, t' = { t with recovery := some log } ∧
    g' = { g with durable := durable }

theorem Saving.continues (h : Saving t g t' g') : Continues t g t' g' := by
  rcases h with ⟨rfl, rfl⟩ | ⟨log, durable, rfl, rfl⟩
  · exact Continues.refl _ _
  · exact ⟨rfl, rfl, rfl, nofun⟩

theorem Saving.pending (h : Saving t g t' g') (sub : Subsystem) :
    t'.pendingRollback sub = t.pendingRollback sub := by
  rcases h with ⟨rfl, rfl⟩ | ⟨log, durable, rfl, rfl⟩
  · rfl
  · cases sub <;> rfl

theorem Saving.shrinks (h : Saving t g t' g') : Shrinks t t' :=
  ⟨fun sub hp => (h.pending sub).trans hp, h.continues.corePending⟩

theorem wpa_settlingState (state : RecoveryState) (t : Transaction) (g : Watch) :
    (settling retry).wpa (saveState state) (fun _ t' g' => Saving t g t' g') t g := by
  unfold saveState save
  rw [wpa_bind, wpa_modify]
  refine wpa_bind.mpr (wpa_call fun r _ => ⟨trivial, .inr ⟨{ state }, ?_⟩⟩)
  rcases r with _ | ⟨message, landed⟩
  · exact ⟨some state, rfl, rfl⟩
  · cases landed
    · exact ⟨g.durable, rfl, rfl⟩
    · exact ⟨some state, rfl, rfl⟩

theorem wpa_settlingSave (t : Transaction) (g : Watch) :
    (settling retry).wpa saveRecovery (fun _ t' g' => Saving t g t' g') t g := by
  unfold saveRecovery
  rw [wpa_bind, wpa_get]
  split
  · exact .inl ⟨rfl, rfl⟩
  · exact wpa_settlingState _ t g

theorem wpa_settlingBegin (t : Transaction) (g : Watch) :
    (settling retry).wpa (beginRecovery plan) (fun _ t' g' => Continues t g t' g') t g := by
  unfold beginRecovery
  rw [wpa_bind, wpa_get]
  split
  · exact Continues.refl t g
  · exact wpa_mono (wpa_settlingState _ t g) fun _ _ _ h => h.continues

theorem wpa_settlingLink (t : Transaction) (g : Watch) :
    (settling retry).wpa recordStartedLink (fun _ t' g' => Continues t g t' g') t g := by
  unfold recordStartedLink
  rw [wpa_bind, wpa_get]
  split
  · exact Continues.refl t g
  · refine wpa_call fun r _ => ⟨trivial, ?_⟩
    cases r with
    | error message => exact Continues.refl t g
    | ok index => exact wpa_mono (wpa_settlingState _ t g) fun _ _ _ h => h.continues

/-! ## The steps of `Execute` -/

theorem wpa_settlingCheckpoint (hr : ¬ retry) (sub : Subsystem) (t : Transaction) (g : Watch) :
    (settling retry).wpa (checkpoint sub) (fun _ t' g' => Continues t g t' g') t g := by
  unfold checkpoint
  rw [wpa_bind, wpa_get, wpa_bind]
  refine wpa_mono (wpa_settlingCall t.plan t g (fun h => absurd h hr) nofun) ?_
  rintro (_ | error) t1 g1 ⟨h1, -⟩
  · dsimp only
    refine wpa_seq (wpa_settlingSave t1 g1) ?_
    rintro (_ | error) t2 g2 h2
    · exact wpa_settlingRecord fun _ => h1.trans h2.continues
    · exact h1.trans h2.continues
  · exact wpa_bind.mpr (wpa_settlingRecord fun _ => h1)

theorem wpa_settlingApply (hr : ¬ retry) (sub : Subsystem) (t : Transaction) (g : Watch) :
    (settling retry).wpa (apply sub) (fun _ t' g' => Continues t g t' g') t g := by
  have hbefore : (settling retry).wpa (beforeApply sub) (fun _ t' g' => Continues t g t' g') t g := by
    unfold beforeApply
    rw [wpa_bind, wpa_get]
    split
    · exact Continues.refl t g
    · exact wpa_mono (wpa_settlingState _ t g) fun _ _ _ h => h.continues
  unfold apply
  refine wpa_seq hbefore ?_
  rintro (_ | error) t1 g1 h1
  swap
  · exact h1
  dsimp only
  rw [wpa_bind, wpa_get, wpa_bind]
  refine wpa_mono (wpa_settlingCall t1.plan t1 g1 (fun h => absurd h hr) nofun) ?_
  rintro (_ | error) t2 g2 ⟨h2, -⟩
  · dsimp only
    refine wpa_seq (wpa_settlingSave t2 g2) ?_
    rintro (_ | error) t3 g3 h3
    · exact wpa_settlingRecord fun _ => (h1.trans h2).trans h3.continues
    · exact (h1.trans h2).trans h3.continues
  · exact wpa_bind.mpr (wpa_settlingRecord fun _ => h1.trans h2)

theorem wpa_settlingStart (t : Transaction) (g : Watch) :
    (settling retry).wpa coreStart (fun _ t' g' => Continues t g t' g') t g := by
  unfold coreStart
  refine wpa_bind.mpr (wpa_get.mpr ?_)
  exact fun _ _ => ⟨trivial, rfl, rfl, rfl, id⟩

/-! ## Rollback -/

theorem wpa_settlingOwners (subs : List Subsystem) :
    ∀ (failed : Bool) (t : Transaction) (g : Watch),
      (settling retry).wpa (rollbackOwners plan subs failed) (fun r t' g' =>
        Continues t g t' g' ∧ Shrinks t t' ∧
          (r = false → failed = false ∧ ∀ s ∈ subs, t'.pendingRollback s = false)) t g := by
  induction subs with
  | nil => exact fun failed t g => ⟨Continues.refl t g, Shrinks.refl t, fun hr => ⟨hr, List.forall_mem_nil _⟩⟩
  | cons s rest ih =>
    intro failed t g
    -- The tail of the loop, once this owner has been dealt with.
    have tail : ∀ (failed' : Bool) (t1 : Transaction) (g1 : Watch), Continues t g t1 g1 →
        Shrinks t t1 → (failed' = false → failed = false ∧ t1.pendingRollback s = false) →
        (settling retry).wpa (rollbackOwners plan rest failed') (fun r t' g' =>
          Continues t g t' g' ∧ Shrinks t t' ∧
            (r = false → failed = false ∧ ∀ s' ∈ s :: rest, t'.pendingRollback s' = false))
          t1 g1 := by
      intro failed' t1 g1 h1 hsh hf
      refine wpa_mono (ih failed' t1 g1) ?_
      rintro r t' g' ⟨h', hsh', hr⟩
      refine ⟨h1.trans h', hsh.trans hsh', fun hrf => ?_⟩
      obtain ⟨hf', hall⟩ := hr hrf
      refine ⟨(hf hf').1, fun s' hs' => ?_⟩
      rcases List.mem_cons.mp hs' with rfl | hs'
      · exact hsh'.1 _ (hf hf').2
      · exact hall s' hs'
    rw [rollbackOwners, wpa_bind, wpa_get, wpa_ite]
    refine ⟨fun hp => ?_, fun hp => ?_⟩
    · exact tail failed t g (Continues.refl t g) (Shrinks.refl t) fun hf => ⟨hf, by simpa using hp⟩
    · refine wpa_seq (wpa_settlingCall plan t g (fun _ => rfl) fun _ => by simpa using hp) ?_
      rintro (_ | error) t1 g1 ⟨h1, hback⟩
      · obtain ⟨hsh, hclear⟩ := hback rfl
        refine wpa_bind.mpr (wpa_settlingRecord fun recorded => ?_)
        refine wpa_seq (wpa_settlingSave _ _) fun saved t2 g2 hsv => ?_
        refine tail _ t2 g2 (h1.trans hsv.continues) (hsh.trans hsv.shrinks) fun hf => ?_
        simp only [Bool.or_eq_false_iff] at hf
        exact ⟨hf.1.1, hsv.shrinks.1 s (hclear rfl)⟩
      · refine wpa_bind.mpr (wpa_settlingRecord fun _ => ?_)
        exact tail true _ _ h1 (hback rfl).1 fun hf => Bool.noConfusion hf

/-- The rollback of routes or of the block, with what is recorded after it. -/
theorem wpa_settlingRoutes (t : Transaction) (g : Watch) :
    (settling retry).wpa (rollbackRoutes plan) (fun r t' g' =>
      Continues t g t' g' ∧ Shrinks t t' ∧
        (r = false → t'.pendingRollback .routes = false)) t g := by
  unfold rollbackRoutes
  rw [wpa_bind, wpa_get, wpa_ite]
  refine ⟨fun hp => ⟨Continues.refl t g, Shrinks.refl t, fun _ => by simpa using hp⟩, fun hp => ?_⟩
  refine wpa_seq (wpa_settlingCall plan t g (fun _ => rfl) fun _ => by simpa using hp) ?_
  rintro (_ | error) t1 g1 ⟨h1, hback⟩
  · obtain ⟨hsh, hclear⟩ := hback rfl
    dsimp only
    refine wpa_seq (wpa_settlingSave t1 g1) ?_
    rintro (_ | error) t2 g2 hsv
    · refine wpa_bind.mpr (wpa_settlingRecord fun _ => ?_)
      exact ⟨h1.trans hsv.continues, hsh.trans hsv.shrinks, fun _ => hsv.shrinks.1 _ (hclear rfl)⟩
    · exact ⟨h1.trans hsv.continues, hsh.trans hsv.shrinks, nofun⟩
  · exact wpa_bind.mpr (wpa_settlingRecord fun _ => ⟨h1, (hback rfl).1, nofun⟩)

theorem wpa_settlingNftables (t : Transaction) (g : Watch) :
    (settling retry).wpa (rollbackNftables plan) (fun r t' g' =>
      Continues t g t' g' ∧ Shrinks t t' ∧
        (r = false → t'.pendingRollback .nftables = false)) t g := by
  unfold rollbackNftables
  rw [wpa_bind, wpa_get, wpa_ite]
  refine ⟨fun hp => ⟨Continues.refl t g, Shrinks.refl t, fun _ => by simpa using hp⟩, fun hp => ?_⟩
  refine wpa_seq (wpa_settlingCall plan t g (fun _ => rfl) fun _ => by simpa using hp) ?_
  rintro (_ | error) t1 g1 ⟨h1, hback⟩
  · obtain ⟨hsh, hclear⟩ := hback rfl
    refine wpa_bind.mpr (wpa_settlingRecord ?_)
    rintro (_ | error)
    · dsimp only
      refine wpa_seq (wpa_settlingSave _ _) fun saved t2 g2 hsv => ?_
      exact ⟨h1.trans hsv.continues, hsh.trans hsv.shrinks, fun _ => hsv.shrinks.1 _ (hclear rfl)⟩
    · exact ⟨h1, hsh, nofun⟩
  · exact wpa_bind.mpr (wpa_settlingRecord fun _ => ⟨h1, (hback rfl).1, nofun⟩)

/-- Core is stopped once: a stop that succeeds takes the flag with it. -/
theorem wpa_settlingStop (t : Transaction) (g : Watch) (ho : Owing t g) :
    (settling retry).wpa stopCore (fun r t' g' =>
      Owing t' g' ∧ t'.state = t.state ∧ (∀ sub, t'.pendingRollback sub = t.pendingRollback sub) ∧
        (r = false → t'.corePending = false)) t g := by
  unfold stopCore
  rw [wpa_bind, wpa_get, wpa_ite]
  refine ⟨fun hc => ⟨ho, rfl, fun _ => rfl, fun _ => by simpa using hc⟩, fun hc => ?_⟩
  have hnever : g.stopped = false := by
    by_contra hs
    have := ho.stopped (by simpa using hs)
    simp [this] at hc
  refine wpa_call fun r _ => ⟨hnever, ?_⟩
  cases r with
  | some error => exact ⟨ho, rfl, fun _ => rfl, nofun⟩
  | none => exact ⟨⟨fun _ => rfl, ho.bare⟩, rfl, fun sub => by cases sub <;> rfl, fun _ => rfl⟩

/-- A rollback that did not fail leaves nothing to do. -/
theorem wpa_settlingRollback (t : Transaction) (g : Watch) (ho : Owing t g) :
    (settling retry).wpa (rollback plan) (fun r t' g' =>
      Owing t' g' ∧ t'.state = t.state ∧ (r = false → Clear t' g')) t g := by
  unfold rollback
  refine wpa_seq (wpa_settlingOwners plan _ false t g) ?_
  rintro r1 t1 g1 ⟨h1, -, hdone1⟩
  rw [wpa_ite]
  refine ⟨fun _ => ⟨h1.owing ho, h1.state, fun hr => by simp_all⟩, fun hr => ?_⟩
  have howners := (hdone1 (by simpa using hr)).2
  refine wpa_seq (wpa_settlingRoutes plan t1 g1) ?_
  rintro r2 t2 g2 ⟨h2, hsh2, hdone2⟩
  have h12 := h1.trans h2
  rw [wpa_ite]
  refine ⟨fun _ => ⟨h12.owing ho, h12.state, fun hr => by simp_all⟩, fun hr => ?_⟩
  have hroutes := hdone2 (by simpa using hr)
  refine wpa_seq (wpa_settlingStop t2 g2 (h12.owing ho)) ?_
  rintro r3 t3 g3 ⟨ho3, hstate3, hsame, hdone3⟩
  have hstate3' : t3.state = t.state := hstate3.trans h12.state
  rw [wpa_ite]
  refine ⟨fun _ => ⟨ho3, hstate3', fun hr => by simp_all⟩, fun hr => ?_⟩
  have hcore := hdone3 (by simpa using hr)
  refine wpa_seq (wpa_settlingNftables plan t3 g3) ?_
  rintro r4 t4 g4 ⟨h4, hsh4, hdone4⟩
  rw [wpa_ite]
  refine ⟨fun _ => ⟨h4.owing ho3, h4.state.trans hstate3', fun hr => by simp_all⟩, fun hr => ?_⟩
  have hpending : ∀ sub, t4.pendingRollback sub = false := by
    intro sub
    cases sub with
    | networkManager => exact hsh4.1 _ ((hsame _).trans (hsh2.1 _ (howners _ (by decide))))
    | resolved => exact hsh4.1 _ ((hsame _).trans (hsh2.1 _ (howners _ (by decide))))
    | nftables => exact hdone4 (by simpa using hr)
    | routes => exact hsh4.1 _ ((hsame _).trans hroutes)
  have hcore4 : t4.corePending = false := h4.corePending.trans hcore
  have ho4 := h4.owing ho3
  unfold removeRecovery
  rw [wpa_bind, wpa_get]
  split
  · next hnone =>
      exact ⟨ho4, h4.state.trans hstate3', fun _ => ⟨hpending, hcore4, ho4.bare hnone⟩⟩
  · next log hlog =>
      have howing : ∀ durable, Owing t4 { g4 with durable := durable } := by
        intro durable
        refine ⟨ho4.stopped, fun hnone => ?_⟩
        rw [hlog] at hnone
        cases hnone
      unfold remove
      refine wpa_bind.mpr (wpa_call fun r _ => ⟨trivial, ?_⟩)
      rcases r with _ | ⟨message, landed⟩
      · exact ⟨howing none, h4.state.trans hstate3', fun _ => ⟨hpending, hcore4, rfl⟩⟩
      · refine ⟨?_, h4.state.trans hstate3', nofun⟩
        cases landed
        · exact ho4
        · exact howing none

/-! ## Execute and Restore -/

/-- A failure that was rolled back, or a restore that returned nil. -/
def Undone : Request → Option TransactionError → Prop
  | .execute _ _, result =>
    ∃ stage subsystem, result = some (.failure { stage, subsystem, rollbackFailed := false })
  | .restore, result => result = none

/-- A rollback that has to be tried again. -/
def RollbackFailed (result : Option TransactionError) : Prop :=
  ∃ stage subsystem, result = some (.failure { stage, subsystem, rollbackFailed := true })

theorem Owing.withState (ho : Owing t g) (state : TransactionState) : Owing { t with state } g :=
  ⟨ho.stopped, ho.bare⟩

theorem Clear.withState (hc : Clear t g) (state : TransactionState) : Clear { t with state } g :=
  ⟨fun sub => by rw [← hc.pending sub]; cases sub <;> rfl, hc.corePending, hc.durable⟩

theorem wpa_settlingFail (stage : Stage) (subsystem : Option Subsystem) (ho : Owing t g) :
    (settling retry).wpa (fail plan stage subsystem) (fun r t' g' =>
      Resting t' g' ∧ t'.state ≠ .fresh ∧ r.isSome = true ∧
        ((∃ stage subsystem, r = some (.failure { stage, subsystem, rollbackFailed := false })) →
          t'.state = .recovered)) t g := by
  unfold fail
  refine wpa_seq (wpa_settlingRollback plan t g ho) ?_
  rintro failed t' g' ⟨ho', -, hclear⟩
  cases failed with
  | true =>
    refine ⟨⟨ho'.withState _, nofun, nofun⟩, nofun, rfl, ?_⟩
    rintro ⟨_, _, h⟩
    cases h
  | false =>
    exact ⟨⟨ho'.withState _, nofun, fun _ => (hclear rfl).withState _⟩, nofun, rfl, fun _ => rfl⟩

/-- The steps of `Execute`, up to the first that fails. -/
theorem wpa_settlingSteps (steps : List (Txn GoError × Stage × Option Subsystem))
    (hsteps : ∀ step ∈ steps, ∀ t g, (settling retry).wpa step.1 (fun _ t' g' => Continues t g t' g') t g) :
    ∀ t g, Owing t g → (settling retry).wpa (runSteps plan steps) (fun r t' g' =>
      (r = none → Continues t g t' g') ∧ (r.isSome = true → Resting t' g' ∧ t'.state ≠ .fresh ∧
        ((∃ stage subsystem, r = some (.failure { stage, subsystem, rollbackFailed := false })) →
          t'.state = .recovered))) t g := by
  induction steps with
  | nil => exact fun t g _ => ⟨fun _ => Continues.refl t g, nofun⟩
  | cons step rest ih =>
    intro t g ho
    obtain ⟨step, stage, subsystem⟩ := step
    rw [runSteps, wpa_bind]
    refine wpa_mono (hsteps _ List.mem_cons_self t g) ?_
    rintro (_ | error) t' g' h
    · refine wpa_mono (ih (fun s hs => hsteps s (List.mem_cons_of_mem _ hs)) t' g' (h.owing ho)) ?_
      rintro r t'' g'' ⟨hnone, hsome⟩
      exact ⟨fun hr => h.trans (hnone hr), hsome⟩
    · refine wpa_mono (wpa_settlingFail plan stage subsystem (h.owing ho)) ?_
      rintro r t'' g'' ⟨hrest, hfresh, hr, hundone⟩
      refine ⟨fun hnone => ?_, fun _ => ⟨hrest, hfresh, hundone⟩⟩
      rw [hnone] at hr
      cases hr

theorem continues_executeSteps : ∀ step ∈ executeSteps plan, ∀ t g,
    (settling False).wpa step.1 (fun _ t' g' => Continues t g t' g') t g := by
  intro step hstep t g
  simp only [executeSteps, List.mem_cons, List.not_mem_nil, or_false] at hstep
  rcases hstep with rfl | rfl | rfl | rfl | rfl | rfl | rfl | rfl | rfl | rfl | rfl
  · exact wpa_settlingBegin plan t g
  · exact wpa_settlingCheckpoint id .routes t g
  · exact wpa_settlingCheckpoint id .nftables t g
  · exact wpa_settlingApply id .nftables t g
  · exact wpa_settlingStart t g
  · exact wpa_settlingLink t g
  · exact wpa_settlingApply id .routes t g
  · exact wpa_settlingCheckpoint id .networkManager t g
  · exact wpa_settlingCheckpoint id .resolved t g
  · exact wpa_settlingApply id .resolved t g
  · exact wpa_settlingApply id .networkManager t g

/-- A request that does not get past its checks does nothing at all. -/
theorem execute_refused (core : Bool) (h : plan.valid = false ∨ t.state ≠ .fresh ∨ core = false) :
    ∃ error, execute plan core t = .ret (some error, t) := by
  have hite : ∀ (b : Prop) [Decidable b] (m n : Txn (Option TransactionError)),
      (if b then m else n) t = if b then m t else n t := by
    intro b _ m n
    split <;> rfl
  unfold execute
  rw [hite]
  by_cases hplan : plan.valid = true
  swap
  · exact ⟨.invalidPlan, by rw [if_pos (by simpa using hplan)]; rfl⟩
  rw [if_neg (by simp [hplan])]
  show ∃ error, (if t.state ≠ .fresh then _ else _ : Txn _) t = _
  rw [hite]
  by_cases hfresh : t.state = .fresh
  swap
  · exact ⟨.invalidState, by rw [if_pos hfresh]; rfl⟩
  rw [if_neg (by simp [hfresh]), hite]
  have hcore : core = false := by simp_all
  exact ⟨.invalidParticipants, by rw [if_pos (by simp [hcore])]; rfl⟩

theorem restore_recovered (h : t.state = .recovered) : restore t = .ret (none, t) := by
  unfold restore
  show (if t.state = .recovered then _ else _ : Txn _) t = _
  rw [if_pos h]
  rfl

/-- `Execute` leaves a transaction that is not fresh any more, or does nothing. -/
theorem wpa_settlingExecute (core : Bool) (hrest : Resting t g) :
    (settling False).wpa (execute plan core) (fun r t' g' =>
      Resting t' g' ∧ (t'.state = .fresh → plan.valid = false ∨ core = false) ∧
        (t.state ≠ .fresh → t'.state ≠ .fresh) ∧
        (Undone (.execute plan core) r → t'.state = .recovered)) t g := by
  unfold execute
  rw [wpa_ite]
  refine ⟨fun hp => ⟨hrest, fun _ => .inl (by simpa using hp), id, ?_⟩, fun _ => ?_⟩
  · rintro ⟨_, _, h⟩
    cases h
  rw [wpa_bind, wpa_get, wpa_ite]
  refine ⟨fun hs => ⟨hrest, fun h => absurd h hs, id, ?_⟩, fun hfresh => ?_⟩
  · rintro ⟨_, _, h⟩
    cases h
  rw [wpa_ite]
  refine ⟨fun hc => ⟨hrest, fun _ => .inr (by simpa using hc), id, ?_⟩, fun _ => ?_⟩
  · rintro ⟨_, _, h⟩
    cases h
  have hstopped := hrest.fresh (by simpa using hfresh)
  rw [wpa_bind, wpa_modify, wpa_bind]
  have ho : Owing { t with plan, core, corePending := true } g := by
    refine ⟨fun hs => ?_, hrest.bare⟩
    rw [hstopped] at hs
    cases hs
  refine wpa_mono (wpa_settlingSteps plan _ (continues_executeSteps plan) _ g ho) ?_
  rintro (_ | error) t' g' ⟨hnone, hsome⟩
  · have hc := hnone rfl
    refine ⟨⟨(hc.owing ho).withState _, nofun, nofun⟩, nofun, fun _ => nofun, ?_⟩
    rintro ⟨_, _, h⟩
    cases h
  · obtain ⟨hrest', hfresh', hundone⟩ := hsome rfl
    exact ⟨hrest', fun h => absurd h hfresh', fun _ => hfresh', hundone⟩

theorem wpa_settlingRestore (hrest : Resting t g) :
    (settling retry).wpa restore (fun r t' g' =>
      Resting t' g' ∧ (t.state ≠ .fresh → t'.state ≠ .fresh) ∧
        (Undone .restore r → t'.state = .recovered)) t g := by
  unfold restore
  rw [wpa_bind, wpa_get, wpa_ite]
  refine ⟨fun h => ⟨hrest, id, fun _ => h⟩, fun _ => ?_⟩
  rw [wpa_ite]
  refine ⟨fun _ => ⟨hrest, id, nofun⟩, fun _ => ?_⟩
  refine wpa_seq (wpa_settlingRollback t.plan t g hrest.toOwing) ?_
  rintro failed t' g' ⟨ho, -, hclear⟩
  rw [wpa_ite]
  refine ⟨fun _ => ⟨⟨ho.withState _, nofun, nofun⟩, fun _ => nofun, nofun⟩, fun hf => ?_⟩
  have hc := hclear (by simpa using hf)
  exact ⟨⟨ho.withState _, nofun, fun _ => hc.withState _⟩, fun _ => nofun, fun _ => rfl⟩

/-- Any request, whether it is a retry or not. -/
theorem wpa_settlingRequest (request : Request) (hrest : Resting t g) :
    (settling (request = .restore)).wpa request.run (fun r t' g' =>
      Resting t' g' ∧ (t.state ≠ .fresh → t'.state ≠ .fresh) ∧
        (Undone request r → t'.state = .recovered)) t g := by
  cases request with
  | execute plan core =>
    have hretry : (Request.execute plan core = .restore) = False := by simp
    rw [hretry]
    exact wpa_mono (wpa_settlingExecute plan core hrest) fun _ _ _ h => ⟨h.1, h.2.2⟩
  | restore => exact wpa_settlingRestore hrest

end Steps

/-! ## Requests one after another -/

/-- A request that has returned. -/
structure Served where
  request : Request
  trace : List (Event Net)
  result : Option TransactionError

/-- Requests that have returned, one after another. -/
inductive Serves : Transaction → List Served → Transaction → Prop
  | nil (t : Transaction) : Serves t [] t
  | cons {t t' t'' : Transaction} {served : Served} {rest : List Served}
      (hrun : Steps (served.request.run t) served.trace (.ret (served.result, t')))
      (hrest : Serves t' rest t'') : Serves t (served :: rest) t''

/-- The calls of a life. -/
def calls (past : List Served) : List (Event Net) := past.flatMap (·.trace)

/-- What has been seen so far. -/
def seenBy (tr : List (Event Net)) (g : Watch) : Watch := tr.foldl Watch.next g

theorem seenBy_append (tr tr' : List (Event Net)) (g : Watch) :
    seenBy (tr ++ tr') g = seenBy tr' (seenBy tr g) := List.foldl_append

section Lives

variable {t t' : Transaction} {g : Watch} {request : Request} {tr : List (Event Net)}
  {result : Option TransactionError} {q : Prog Net (Option TransactionError × Transaction)}

/-- One request, cut off anywhere. -/
theorem request_owed (hrest : Resting t g) (hrun : Steps (request.run t) tr q) :
    (settling (request = .restore)).Guaranteed g tr :=
  ((settling (request = .restore)).wp_steps (wpa_settlingRequest request hrest) hrun
    (along_of_forall _ (fun _ _ => trivial) _ tr)).1

theorem request_rests (hrest : Resting t g)
    (hrun : Steps (request.run t) tr (.ret (result, t'))) :
    Resting t' (seenBy tr g) ∧ (t.state ≠ .fresh → t'.state ≠ .fresh) ∧
      (Undone request result → t'.state = .recovered) :=
  ((settling (request = .restore)).wp_steps (wpa_settlingRequest request hrest) hrun
    (along_of_forall _ (fun _ _ => trivial) _ tr)).2

/-- An `Execute` that has called something leaves the fresh state. -/
theorem execute_starts {plan : Plan} {core : Bool} (hrest : Resting t g)
    (hrun : Steps (execute plan core t) tr (.ret (result, t'))) (hcalled : tr ≠ []) :
    t'.state ≠ .fresh := by
  intro hfresh
  have hends := ((settling False).wp_steps (wpa_settlingExecute plan core hrest) hrun
    (along_of_forall _ (fun _ _ => trivial) _ tr)).2
  have hrefused : plan.valid = false ∨ t.state ≠ .fresh ∨ core = false := by
    rcases hends.2.1 hfresh with h | h
    · exact .inl h
    · exact .inr (.inr h)
  obtain ⟨error, hret⟩ := execute_refused plan core hrefused
  rw [hret] at hrun
  cases hrun
  exact hcalled rfl

/-- What rests goes on resting. -/
theorem Serves.rests {past : List Served} (h : Serves t past t') :
    ∀ {g : Watch}, Resting t g → Resting t' (seenBy (calls past) g) ∧
      (t.state ≠ .fresh → t'.state ≠ .fresh) := by
  induction h with
  | nil t => exact fun hrest => ⟨hrest, id⟩
  | cons hrun _ ih =>
    intro g hrest
    obtain ⟨hrest', hfresh, -⟩ := request_rests hrest hrun
    obtain ⟨hlast, hfresh'⟩ := ih hrest'
    refine ⟨?_, fun h => hfresh' (hfresh h)⟩
    rw [show calls (_ :: _) = _ ++ calls _ from rfl, seenBy_append]
    exact hlast

/-- Nothing is done on a transaction that has recovered. -/
theorem run_recovered (h : t.state = .recovered) (hrun : Steps (request.run t) tr q) :
    tr = [] ∧ ∃ r, q = .ret (r, t) := by
  have hret : ∃ r, request.run t = .ret (r, t) := by
    cases request with
    | execute plan core =>
      obtain ⟨error, he⟩ := execute_refused (t := t) plan core
        (.inr (.inl (by rw [h]; decide)))
      exact ⟨some error, he⟩
    | restore => exact ⟨none, restore_recovered h⟩
  obtain ⟨r, hr⟩ := hret
  rw [hr] at hrun
  cases hrun
  exact ⟨rfl, r, rfl⟩

theorem Serves.recovered {past : List Served} (h : Serves t past t')
    (hrec : t.state = .recovered) : t' = t := by
  induction h with
  | nil t => rfl
  | cons hrun _ ih =>
    obtain ⟨-, r, hr⟩ := run_recovered hrec hrun
    cases hr
    exact ih hrec

end Lives

/-! ## New transactions -/

theorem foldl_place_fresh (participants : List Participant) (t : Transaction) :
    (participants.foldl Transaction.place t).state = t.state ∧
      (participants.foldl Transaction.place t).corePending = t.corePending := by
  induction participants generalizing t with
  | nil => exact ⟨rfl, rfl⟩
  | cons p rest ih =>
    obtain ⟨hs, hc⟩ := ih (t.place p)
    exact ⟨hs.trans (place_state t p), hc.trans (place_corePending t p)⟩

theorem newTransaction_resting {recorder : Recorder} {participants : List Participant}
    {t : Transaction} (h : newTransaction recorder participants = some t)
    (recovery : Option RecoveryLog) : Resting { t with recovery } {} := by
  have hfresh : t.state = .fresh := by
    unfold newTransaction at h
    split at h
    · cases h
    split at h
    · cases h
    split at h
    · cases h
    obtain rfl := Option.some.inj h
    exact (foldl_place_fresh participants _).1
  refine ⟨⟨nofun, fun _ => rfl⟩, fun _ => rfl, fun hrec => ?_⟩
  rw [show ({ t with recovery } : Transaction).state = t.state from rfl, hfresh] at hrec
  cases hrec

/-- Once Core has been stopped, that is seen. -/
theorem seenBy_stopped {tr : List (Event Net)} {g : Watch} (h : coreStopped ∈ tr ∨ g.stopped = true) :
    (seenBy tr g).stopped = true := by
  induction tr generalizing g with
  | nil => exact h.resolve_left nofun
  | cons e tr ih =>
    refine ih ?_
    by_cases he : e = coreStopped
    · exact .inr (by rw [he]; rfl)
    · rcases h with h | h
      · exact .inl ((List.mem_cons.mp h).resolve_left (Ne.symm he))
      · exact .inr ((next_core g e he).2.trans h)

/-- **What a request leaves.** For any requests on a new transaction over the
real participants, with any answers: the first `Execute` that calls anything is
the last one that does. When a failure was rolled back or a `Restore` returned
nil, no owner is pending, Core is stopped, the record is gone, and no later
request calls anything. When the rollback failed, a later `Restore` calls only
owners that are still pending, to roll them back, and does not stop Core after a
stop that succeeded. -/
theorem outcome_states {recorder : Recorder} {participants : List Participant}
    {t t₁ t₂ t₃ : Transaction} {recovery : Option RecoveryLog} {before later : List Served}
    {request request' : Request} {tr tr' : List (Event Net)} {result : Option TransactionError}
    {q : Prog Net (Option TransactionError × Transaction)}
    (hnew : newTransaction recorder participants = some t)
    (hbefore : Serves { t with recovery } before t₁)
    (hrun : Steps (request.run t₁) tr (.ret (result, t₂)))
    (hlater : Serves t₂ later t₃) (hnow : Steps (request'.run t₃) tr' q) :
    (request ≠ .restore → tr ≠ [] → request' ≠ .restore → tr' = []) ∧
    (Undone request result →
      (∀ sub, t₂.pendingRollback sub = false) ∧ t₂.corePending = false ∧
      onDisk none (calls before ++ tr) = none ∧ tr' = []) ∧
    (RollbackFailed result → request' = .restore →
      (∀ sub method pending, ⟨.enter sub method pending, ()⟩ ∈ tr' →
        method = .rollback ∧ pending.of sub = true) ∧
      ∀ pre r post, tr' = pre ++ ⟨.coreStop, r⟩ :: post →
        coreStopped ∉ calls before ++ tr ++ calls later ++ pre) := by
  have hrest₁ := (hbefore.rests (newTransaction_resting hnew recovery)).1
  obtain ⟨hrest₂, hfresh₂, hundone⟩ := request_rests hrest₁ hrun
  obtain ⟨hrest₃, hfresh₃⟩ := hlater.rests hrest₂
  refine ⟨fun hexecute hcalled hexecute' => ?_, fun hu => ?_, fun _ hrestore => ⟨?_, ?_⟩⟩
  · -- An `Execute` that called something has left the fresh state for good.
    cases request with
    | restore => exact absurd rfl hexecute
    | execute plan core =>
    cases request' with
    | restore => exact absurd rfl hexecute'
    | execute plan' core' =>
    have hstarted := hfresh₃ (execute_starts hrest₁ hrun hcalled)
    obtain ⟨error, hret⟩ := execute_refused plan' core' (.inr (.inl hstarted))
    rw [show Request.run (.execute plan' core') t₃ = .ret (some error, t₃) from hret] at hnow
    cases hnow
    rfl
  · have hrec := hundone hu
    have hclear := hrest₂.recovered hrec
    have hsame := hlater.recovered hrec
    refine ⟨hclear.pending, hclear.corePending, ?_, ?_⟩
    · show (seenBy (calls before ++ tr) {}).durable = none
      rw [seenBy_append]
      exact hclear.durable
    · exact (run_recovered (hsame ▸ hrec) hnow).1
  · intro sub method pending hmem
    obtain ⟨pre, post, hsplit⟩ := List.append_of_mem hmem
    have howed := request_owed hrest₃ hnow
    rw [hsplit] at howed
    obtain ⟨hmethod, hpending⟩ := howed.at
    exact ⟨hmethod hrestore, hpending (hmethod hrestore)⟩
  · rintro pre r post rfl hstopped
    have howed := (request_owed hrest₃ hnow).at
    have hseen : (seenBy (calls before ++ tr ++ calls later ++ pre) {}).stopped = true :=
      seenBy_stopped (.inl hstopped)
    rw [seenBy_append, seenBy_append, seenBy_append] at hseen
    exact absurd (hseen.symm.trans howed) nofun

/-- An `Execute` with a record on a host without NetworkManager. -/
def failedExecute : List (Event Net) × (Option TransactionError × Transaction) :=
  (execute samplePlan true systemTransaction).play (plainHost false) []

theorem failedExecute_settled :
    Undone (.execute samplePlan true) failedExecute.2.1 ∧
      (failedExecute.1.any fun e => e.call matches .save _) = true ∧
      failedExecute.2.2.corePending = false ∧ onDisk none failedExecute.1 = none := by
  have hundone : Undone (.execute samplePlan true) failedExecute.2.1 :=
    ⟨.checkpoint, some .networkManager, by decide +kernel⟩
  have hrun : Steps (Request.run (.execute samplePlan true) systemTransaction) failedExecute.1
      (.ret (failedExecute.2.1, failedExecute.2.2)) := steps_play_pair (I := Net) (plainHost false) _
  have hnew : newTransaction sampleRecorder sampleParticipants = some sampleTransaction := rfl
  have hbefore : Serves { sampleTransaction with recovery := systemTransaction.recovery } []
      systemTransaction := .nil _
  have h := (outcome_states hnew hbefore hrun (.nil _)
    (.refl (Request.run .restore failedExecute.2.2))).2.1 hundone
  exact ⟨hundone, by decide +kernel, h.2.1, h.2.2.1⟩

end Pokrov.Linux.Network
