import Pokrov.Linux.Network.Invariant

/-!
# Runs of the network transaction

Each operation of the transaction keeps the invariant, so every run does: any
requests, any answers, cut off anywhere. What follows for the traffic block
and for the record on disk is read off the trace.
-/

namespace Pokrov.Linux.Network

open Effects Contract

/-! ## Checkpoint and apply -/

/-- What the steps between the block and Core's start may not disturb. -/
structure Keeps (t : Transaction) (g : Watch) (t' : Transaction) (g' : Watch) : Prop where
  corePending : t'.corePending = t.corePending
  nftables : t'.pendingRollback .nftables = t.pendingRollback .nftables
  started : g'.started = g.started
  filter : g'.filter = g.filter

section Operations

variable {system : Prop} {t t' t'' : Transaction} {g g' g'' : Watch} {sub : Subsystem}
  {method : Method}

theorem Keeps.trans (h : Keeps t g t' g') (h' : Keeps t' g' t'' g'') : Keeps t g t'' g'' :=
  ⟨h'.corePending.trans h.corePending, h'.nftables.trans h.nftables,
    h'.started.trans h.started, h'.filter.trans h.filter⟩

theorem Saved.keeps (h : Saved t g t' g') : Keeps t g t' g' := by
  obtain ⟨log, durable, rfl, rfl⟩ := h
  exact ⟨rfl, rfl, rfl, rfl⟩

theorem keeps_of_touches {R : Participant → Prop} {q : Bool} (ht : Touches sub t R t')
    (hf : Frame sub q g g') (hsub : sub ≠ .nftables) : Keeps t g t' g' := by
  obtain ⟨p, rfl, rfl, -⟩ := ht
  refine ⟨place_corePending t p, ?_, hf.started, hf.filter (.inl hsub)⟩
  rw [place_pending, if_neg (Ne.symm hsub)]

/-- A checkpoint reads, except that NetworkManager creates one of its own. -/
theorem wpa_checkpoint (h : Inv system t g) (sub : Subsystem) :
    (watching system).wpa (checkpoint sub) (fun _ t' g' =>
      Inv system t' g' ∧ Keeps t g t' g') t g := by
  unfold checkpoint
  rw [wpa_bind, wpa_get, wpa_bind]
  refine wpa_mono (wpa_participantCall h t.plan (by simp) ?_ nofun nofun nofun) ?_
  · intro hne hq
    simp [quiet, hne] at hq
  rintro r t1 g1 ⟨hi, ht, hf⟩
  have hk : Keeps t g t1 g1 := by
    by_cases hsub : sub = .nftables
    · obtain ⟨p, hp, rfl, hleft⟩ := ht
      subst hsub
      refine ⟨place_corePending t p, ?_, hf.started, hf.filter (.inr rfl)⟩
      rw [place_pending, if_pos hp.symm]
      exact hleft (by decide)
    · exact keeps_of_touches ht hf hsub
  cases r with
  | some error =>
    dsimp only
    rw [wpa_bind]
    exact wpa_record hi fun _ => ⟨hi, hk⟩
  | none =>
    dsimp only
    refine wpa_seq (wpa_saveRecovery hi) ?_
    rintro (_ | error) t2 g2 ⟨hi2, hs⟩
    · exact wpa_record hi2 fun _ => ⟨hi2, hk.trans hs.keeps⟩
    · exact ⟨hi2, hk.trans hs.keeps⟩

/-- Applying an owner on top of the block. -/
theorem wpa_apply (h : Inv system t g) (hsub : sub ≠ .nftables)
    (hblock : t.pendingRollback .nftables = true) :
    (watching system).wpa (apply sub) (fun _ t' g' =>
      Inv system t' g' ∧ Keeps t g t' g') t g := by
  unfold apply
  refine wpa_seq (wpa_beforeApply h (.inr hblock)) ?_
  rintro (_ | error) t1 g1 ⟨hi, hs, hflag⟩
  swap
  · exact ⟨hi, hs.keeps⟩
  dsimp only
  rw [wpa_bind, wpa_get, wpa_bind]
  refine wpa_mono (wpa_participantCall hi t1.plan (fun hm => hsub hm.1)
    (fun hne _ => hflag rfl hne) (fun _ => (hs.pending _).trans hblock) nofun nofun) ?_
  rintro r t2 g2 ⟨hi2, ht, hf⟩
  have hk := hs.keeps.trans (keeps_of_touches ht hf hsub)
  cases r with
  | some error =>
    dsimp only
    rw [wpa_bind]
    exact wpa_record hi2 fun _ => ⟨hi2, hk⟩
  | none =>
    dsimp only
    refine wpa_seq (wpa_saveRecovery hi2) ?_
    rintro (_ | error) t3 g3 ⟨hi3, hs3⟩
    · exact wpa_record hi3 fun _ => ⟨hi3, hk.trans hs3.keeps⟩
    · exact ⟨hi3, hk.trans hs3.keeps⟩

/-- Nft took the block as its last script, and the participant knows. -/
def Blocked (t : Transaction) (g : Watch) : Prop :=
  t.pendingRollback .nftables = true ∧ ∃ plan owner, g.filter = some (nftRules plan owner)

theorem Keeps.blocked (h : Keeps t g t' g') (hb : Blocked t g) : Blocked t' g' := by
  obtain ⟨hp, plan, owner, hf⟩ := hb
  exact ⟨h.nftables.trans hp, plan, owner, h.filter.trans hf⟩

theorem wpa_applyNftables (h : Inv system t g) (hstart : g.started = false)
    (hcore : t.corePending = true) :
    (watching system).wpa (apply .nftables) (fun r t' g' =>
      Inv system t' g' ∧ (r = none → Blocked t' g' ∧ t'.corePending = true)) t g := by
  unfold apply
  refine wpa_seq (wpa_beforeApply h (.inl rfl)) ?_
  rintro (_ | error) t1 g1 ⟨hi, hs, hflag⟩
  swap
  · exact ⟨hi, nofun⟩
  dsimp only
  rw [wpa_bind, wpa_get, wpa_bind]
  have hk := hs.keeps
  refine wpa_mono (wpa_blockTraffic hi t1.plan (hflag rfl (by decide))
    (hk.started.trans hstart) (hk.corePending.trans hcore)) ?_
  rintro r t2 g2 ⟨hi2, ⟨p, -, rfl, -⟩, hf, hblocked⟩
  have hcore2 : (t1.place p).corePending = true :=
    (place_corePending t1 p).trans (hk.corePending.trans hcore)
  cases r with
  | some error =>
    dsimp only
    rw [wpa_bind]
    exact wpa_record hi2 fun _ => ⟨hi2, nofun⟩
  | none =>
    dsimp only
    refine wpa_seq (wpa_saveRecovery hi2) ?_
    rintro (_ | error) t3 g3 ⟨hi3, hs3⟩
    · refine wpa_record hi3 fun _ => ⟨hi3, fun _ => ?_⟩
      exact ⟨hs3.keeps.blocked (hblocked rfl), hs3.keeps.corePending.trans hcore2⟩
    · exact ⟨hi3, nofun⟩

/-! ## Rollback -/

/-- Nothing becomes pending; Core is left alone. -/
def Shrinks (t t' : Transaction) : Prop :=
  (∀ sub, t.pendingRollback sub = false → t'.pendingRollback sub = false) ∧
    t'.corePending = t.corePending

theorem Shrinks.refl (t : Transaction) : Shrinks t t := ⟨fun _ h => h, rfl⟩

theorem Shrinks.trans (h : Shrinks t t') (h' : Shrinks t' t'') : Shrinks t t'' :=
  ⟨fun sub hp => h'.1 sub (h.1 sub hp), h'.2.trans h.2⟩

theorem Saved.shrinks (h : Saved t g t' g') : Shrinks t t' :=
  ⟨fun sub hp => (h.pending sub).trans hp, h.keeps.corePending⟩

/-- Rolling one owner back. -/
theorem wpa_rollbackCall (h : Inv system t g) (plan : Plan)
    (hp : t.pendingRollback sub = true)
    (hlast : sub = .nftables → t.pending = ⟨false, false, false, true, false⟩) :
    (watching system).wpa (participantCall sub .rollback plan) (fun r t' g' =>
      Inv system t' g' ∧ Shrinks t t' ∧ (r = none → t'.pendingRollback sub = false)) t g := by
  refine wpa_mono (wpa_participantCall h plan (by simp) (fun hne _ => h.flagged hne hp)
    nofun (fun _ => hp) (fun hs _ => hlast hs)) ?_
  rintro r t' g' ⟨hi, ⟨p, rfl, rfl, hleft⟩, -⟩
  have hleft' : p.pendingRollback = (t.pendingRollback p.subsystem && r.isSome) := hleft
  refine ⟨hi, ⟨fun s hs => ?_, place_corePending t p⟩, ?_⟩
  · rw [place_pending]
    split
    · next heq =>
        rw [heq, hp] at hs
        cases hs
    · exact hs
  · rintro rfl
    rw [place_pending, if_pos rfl, hleft']
    simp

theorem wpa_rollbackOwners (plan : Plan) (subs : List Subsystem) (hsubs : .nftables ∉ subs) :
    ∀ (failed : Bool) (t : Transaction) (g : Watch), Inv system t g →
      (watching system).wpa (rollbackOwners plan subs failed) (fun r t' g' =>
        Inv system t' g' ∧ Shrinks t t' ∧
          (r = false → failed = false ∧ ∀ s ∈ subs, t'.pendingRollback s = false)) t g := by
  induction subs with
  | nil =>
    intro failed t g h
    exact ⟨h, Shrinks.refl t, fun hr => ⟨hr, nofun⟩⟩
  | cons s rest ih =>
    intro failed t g h
    have hrest : Subsystem.nftables ∉ rest := fun hm => hsubs (List.mem_cons_of_mem _ hm)
    have hs : s ≠ .nftables := fun hm => hsubs (hm ▸ List.mem_cons_self ..)
    -- The tail of the loop, once this owner has been dealt with.
    have tail : ∀ (failed' : Bool) (t1 : Transaction) (g1 : Watch), Inv system t1 g1 →
        Shrinks t t1 → (failed' = false → failed = false ∧ t1.pendingRollback s = false) →
        (watching system).wpa (rollbackOwners plan rest failed') (fun r t' g' =>
          Inv system t' g' ∧ Shrinks t t' ∧
            (r = false → failed = false ∧ ∀ s' ∈ s :: rest, t'.pendingRollback s' = false))
          t1 g1 := by
      intro failed' t1 g1 h1 hsh hf
      refine wpa_mono (ih hrest failed' t1 g1 h1) ?_
      rintro r t' g' ⟨hi, hsh', hr⟩
      refine ⟨hi, hsh.trans hsh', fun hrf => ?_⟩
      obtain ⟨hf', hall⟩ := hr hrf
      refine ⟨(hf hf').1, fun s' hs' => ?_⟩
      rcases List.mem_cons.mp hs' with rfl | hs'
      · exact hsh'.1 _ (hf hf').2
      · exact hall s' hs'
    rw [rollbackOwners, wpa_bind, wpa_get, wpa_ite]
    refine ⟨fun hp => ?_, fun hp => ?_⟩
    · exact tail failed t g h (Shrinks.refl t) fun hf => ⟨hf, by simpa using hp⟩
    · refine wpa_seq (wpa_rollbackCall h plan (by simpa using hp) fun hn => absurd hn hs) ?_
      rintro (_ | error) t1 g1 ⟨hi, hsh, hclear⟩
      · dsimp only
        rw [wpa_bind]
        refine wpa_record hi fun recorded => ?_
        refine wpa_seq (wpa_saveRecovery hi) ?_
        rintro saved t2 g2 ⟨hi2, hsv⟩
        refine tail _ t2 g2 hi2 (hsh.trans hsv.shrinks) fun hf => ?_
        simp only [Bool.or_eq_false_iff] at hf
        exact ⟨hf.1.1, hsv.shrinks.1 s (hclear rfl)⟩
      · dsimp only
        rw [wpa_bind]
        exact wpa_record hi fun _ => tail true t1 g1 hi hsh nofun

theorem wpa_rollbackRoutes (h : Inv system t g) (plan : Plan) :
    (watching system).wpa (rollbackRoutes plan) (fun r t' g' =>
      Inv system t' g' ∧ Shrinks t t' ∧
        (r = false → t'.pendingRollback .routes = false)) t g := by
  unfold rollbackRoutes
  rw [wpa_bind, wpa_get, wpa_ite]
  refine ⟨fun hp => ⟨h, Shrinks.refl t, fun _ => by simpa using hp⟩, fun hp => ?_⟩
  refine wpa_seq (wpa_rollbackCall h plan (by simpa using hp) nofun) ?_
  rintro (_ | error) t1 g1 ⟨hi, hsh, hclear⟩
  · dsimp only
    refine wpa_seq (wpa_saveRecovery hi) ?_
    rintro (_ | error) t2 g2 ⟨hi2, hsv⟩
    · dsimp only
      rw [wpa_bind]
      refine wpa_record hi2 fun _ => ?_
      exact ⟨hi2, hsh.trans hsv.shrinks, fun _ => hsv.shrinks.1 _ (hclear rfl)⟩
    · exact ⟨hi2, hsh.trans hsv.shrinks, nofun⟩
  · dsimp only
    rw [wpa_bind]
    exact wpa_record hi fun _ => ⟨hi, hsh, nofun⟩

/-- A stop that succeeds is what lets the block go. -/
theorem Inv.stopped (h : Inv system t g) :
    Inv system { t with corePending := false } { g with started := false, stopped := true } where
  blocked := h.blocked
  owned := h.owned
  running := nofun
  settled := fun _ _ => rfl
  log := h.log
  recovers := h.recovers
  disk := h.disk
  records := h.records

theorem wpa_stopCore (h : Inv system t g) :
    (watching system).wpa stopCore (fun r t' g' =>
      Inv system t' g' ∧ (∀ sub, t'.pendingRollback sub = t.pendingRollback sub) ∧
        (r = false → t'.corePending = false)) t g := by
  unfold stopCore
  rw [wpa_bind, wpa_get, wpa_ite]
  refine ⟨fun hc => ⟨h, fun _ => rfl, fun _ => by simpa using hc⟩, fun _ => ?_⟩
  refine wpa_call fun r _ => ?_
  cases r with
  | some error => exact ⟨h.mark trivial rfl, h, fun _ => rfl, nofun⟩
  | none =>
    have hi := h.stopped
    refine ⟨⟨trivial, hi.kept⟩, hi, fun sub => ?_, fun _ => rfl⟩
    cases sub <;> rfl

theorem wpa_rollbackNftables (h : Inv system t g) (plan : Plan)
    (hcore : t.corePending = false)
    (hlast : ∀ sub, sub ≠ .nftables → t.pendingRollback sub = false) :
    (watching system).wpa (rollbackNftables plan) (fun r t' g' =>
      Inv system t' g' ∧
        (r = false → ∀ sub, t'.pendingRollback sub = false)) t g := by
  have hall : ∀ t' : Transaction, Shrinks t t' → t'.pendingRollback .nftables = false →
      ∀ sub, t'.pendingRollback sub = false := by
    intro t' hsh hn sub
    by_cases hs : sub = .nftables
    · rwa [hs]
    · exact hsh.1 sub (hlast sub hs)
  unfold rollbackNftables
  rw [wpa_bind, wpa_get, wpa_ite]
  refine ⟨fun hp => ⟨h, fun _ => hall t (Shrinks.refl t) (by simpa using hp)⟩, fun hp => ?_⟩
  have hpend : t.pendingRollback .nftables = true := by simpa using hp
  refine wpa_seq (wpa_rollbackCall h plan hpend fun _ => ?_) ?_
  · unfold Transaction.pending
    rw [hcore, hpend, hlast .networkManager (by decide), hlast .resolved (by decide),
      hlast .routes (by decide)]
  rintro (_ | error) t1 g1 ⟨hi, hsh, hclear⟩
  · dsimp only
    rw [wpa_bind]
    refine wpa_record hi fun recorded => ?_
    cases recorded with
    | some error => exact ⟨hi, nofun⟩
    | none =>
      dsimp only
      refine wpa_seq (wpa_saveRecovery hi) ?_
      rintro saved t2 g2 ⟨hi2, hsv⟩
      exact ⟨hi2, fun _ => hall t2 (hsh.trans hsv.shrinks) (hsv.shrinks.1 _ (hclear rfl))⟩
  · dsimp only
    rw [wpa_bind]
    exact wpa_record hi fun _ => ⟨hi, nofun⟩

/-- The record goes when nothing is owned any more. -/
theorem wpa_removeRecovery (h : Inv system t g)
    (hnone : ∀ sub, t.pendingRollback sub = false) :
    (watching system).wpa removeRecovery (fun _ t' g' => Inv system t' g') t g := by
  have hinv : Inv system t { g with durable := none } := by
    refine ⟨h.blocked, h.owned, h.running, h.settled, h.log, h.recovers, ?_, fun _ => nofun⟩
    intro _ sub _ hp
    rw [hnone sub] at hp
    cases hp
  have hstored : ∀ r : StoreResult, Inv system t (g.stored none r) := by
    intro r
    cases r with
    | done => exact hinv
    | failed message landed => cases landed <;> assumption
  unfold removeRecovery
  rw [wpa_bind, wpa_get]
  split
  · exact h
  · unfold remove
    refine wpa_bind.mpr (wpa_call fun r _ => ?_)
    have hi := hstored r
    exact ⟨⟨trivial, hi.kept⟩, hi⟩

theorem wpa_rollback (h : Inv system t g) (plan : Plan) :
    (watching system).wpa (rollback plan) (fun _ t' g' => Inv system t' g') t g := by
  unfold rollback
  refine wpa_seq (wpa_rollbackOwners plan _ (by decide) false t g h) ?_
  rintro r1 t1 g1 ⟨h1, -, hdone1⟩
  rw [wpa_ite]
  refine ⟨fun _ => h1, fun hr => ?_⟩
  have howners := (hdone1 (by simpa using hr)).2
  refine wpa_seq (wpa_rollbackRoutes h1 plan) ?_
  rintro r2 t2 g2 ⟨h2, hsh2, hdone2⟩
  rw [wpa_ite]
  refine ⟨fun _ => h2, fun hr => ?_⟩
  have hroutes := hdone2 (by simpa using hr)
  refine wpa_seq (wpa_stopCore h2) ?_
  rintro r3 t3 g3 ⟨h3, hsame, hdone3⟩
  rw [wpa_ite]
  refine ⟨fun _ => h3, fun hr => ?_⟩
  refine wpa_seq (wpa_rollbackNftables h3 plan (hdone3 (by simpa using hr)) ?_) ?_
  · intro sub hne
    rw [hsame]
    cases sub with
    | networkManager => exact hsh2.1 _ (howners _ (by decide))
    | resolved => exact hsh2.1 _ (howners _ (by decide))
    | nftables => exact absurd rfl hne
    | routes => exact hroutes
  rintro r4 t4 g4 ⟨h4, hnone⟩
  rw [wpa_ite]
  exact ⟨fun _ => h4, fun hr => wpa_removeRecovery h4 (hnone (by simpa using hr))⟩

/-! ## Execute and Restore -/

theorem wpa_coreStart (h : Inv system t g) (hb : Blocked t g) (hcore : t.corePending = true) :
    (watching system).wpa coreStart (fun _ t' g' =>
      Inv system t' g' ∧ t'.pendingRollback .nftables = true) t g := by
  have hi : Inv system t { g with started := true } :=
    ⟨h.blocked, h.owned, fun _ => hcore, h.settled, h.log, h.recovers, h.disk, h.records⟩
  unfold coreStart
  refine wpa_bind.mpr (wpa_get.mpr ?_)
  exact fun r _ => ⟨⟨hb, hi.kept⟩, hi, hb.1⟩

/-- After any `Execute` or `Restore` the invariant holds, and a transaction
that is still fresh has not started Core. -/
def Settled (system : Prop) (t : Transaction) (g : Watch) : Prop :=
  Inv system t g ∧ (t.state = .fresh → g.started = false)

theorem Inv.withState (h : Inv system t g) (state : TransactionState) :
    Inv system { t with state } g :=
  ⟨h.blocked, h.owned, h.running, h.settled, h.log, h.recovers, h.disk, h.records⟩

theorem wpa_fail (h : Inv system t g) (plan : Plan) (stage : Stage)
    (subsystem : Option Subsystem) :
    (watching system).wpa (fail plan stage subsystem) (fun r t' g' =>
      Settled system t' g' ∧ r.isSome = true) t g := by
  unfold fail
  refine wpa_seq (wpa_rollback h plan) ?_
  intro failed t' g' hi
  refine ⟨⟨hi.withState _, fun hfresh => ?_⟩, rfl⟩
  cases failed <;> cases hfresh

/-- One step of `Execute`: if it fails the rest is `fail`. -/
theorem wpa_runSteps_cons {plan : Plan} {step : Txn GoError} {stage : Stage}
    {subsystem : Option Subsystem} {rest : List (Txn GoError × Stage × Option Subsystem)}
    {Q : Option TransactionError → Transaction → Watch → Prop}
    {M : Transaction → Watch → Prop}
    (hstep : (watching system).wpa step (fun r t' g' =>
      Inv system t' g' ∧ (r = none → M t' g')) t g)
    (hfail : ∀ r t' g', Settled system t' g' ∧ r.isSome = true → Q r t' g')
    (hrest : ∀ t' g', Inv system t' g' → M t' g' →
      (watching system).wpa (runSteps plan rest) Q t' g') :
    (watching system).wpa (runSteps plan ((step, stage, subsystem) :: rest)) Q t g := by
  rw [runSteps, wpa_bind]
  refine wpa_mono hstep ?_
  rintro (_ | error) t' g' ⟨hi, hmid⟩
  · exact hrest t' g' hi (hmid rfl)
  · exact wpa_mono (wpa_fail hi plan stage subsystem) hfail

/-- The steps of `Execute`, up to the block, up to Core, and past it. -/
theorem wpa_executeSteps (h : Inv system t g) (plan : Plan) (hcore : t.corePending = true)
    (hstart : g.started = false) :
    (watching system).wpa (runSteps plan (executeSteps plan)) (fun r t' g' =>
      Inv system t' g' ∧ (r.isSome = true → Settled system t' g')) t g := by
  have hfail : ∀ (r : Option TransactionError) (t' : Transaction) (g' : Watch),
      Settled system t' g' ∧ r.isSome = true →
        Inv system t' g' ∧ (r.isSome = true → Settled system t' g') :=
    fun _ _ _ hs => ⟨hs.1.1, fun _ => hs.1⟩
  -- Before the block.
  let Before : Transaction → Watch → Prop := fun t g =>
    t.corePending = true ∧ g.started = false
  have before : ∀ {t t' : Transaction} {g g' : Watch}, Before t g → Keeps t g t' g' →
      Before t' g' := fun hb hk => ⟨hk.corePending.trans hb.1, hk.started.trans hb.2⟩
  -- Once Core has been told to start.
  let Up : Transaction → Watch → Prop := fun t _ => t.pendingRollback .nftables = true
  have up : ∀ {t t' : Transaction} {g g' : Watch}, Up t g → Keeps t g t' g' → Up t' g' :=
    fun hu hk => hk.nftables.trans hu
  unfold executeSteps
  refine wpa_runSteps_cons (M := Before) ?_ hfail fun t1 g1 h1 hb1 => ?_
  · exact wpa_mono (wpa_beginRecovery h plan)
      fun _ _ _ hr => ⟨hr.1, fun _ => before ⟨hcore, hstart⟩ hr.2.keeps⟩
  refine wpa_runSteps_cons (M := Before) ?_ hfail fun t2 g2 h2 hb2 => ?_
  · exact wpa_mono (wpa_checkpoint h1 .routes)
      fun _ _ _ hr => ⟨hr.1, fun _ => before hb1 hr.2⟩
  refine wpa_runSteps_cons (M := Before) ?_ hfail fun t3 g3 h3 hb3 => ?_
  · exact wpa_mono (wpa_checkpoint h2 .nftables)
      fun _ _ _ hr => ⟨hr.1, fun _ => before hb2 hr.2⟩
  refine wpa_runSteps_cons (wpa_applyNftables h3 hb3.2 hb3.1) hfail fun t4 g4 h4 hb4 => ?_
  refine wpa_runSteps_cons (M := Up) ?_ hfail fun t5 g5 h5 hu5 => ?_
  · exact wpa_mono (wpa_coreStart h4 hb4.1 hb4.2) fun _ _ _ hr => ⟨hr.1, fun _ => hr.2⟩
  refine wpa_runSteps_cons (M := Up) ?_ hfail fun t6 g6 h6 hu6 => ?_
  · exact wpa_mono (wpa_recordStartedLink h5)
      fun _ _ _ hr => ⟨hr.1, fun _ => up hu5 hr.2.keeps⟩
  refine wpa_runSteps_cons (M := Up) ?_ hfail fun t7 g7 h7 hu7 => ?_
  · exact wpa_mono (wpa_apply h6 (by decide) hu6) fun _ _ _ hr => ⟨hr.1, fun _ => up hu6 hr.2⟩
  refine wpa_runSteps_cons (M := Up) ?_ hfail fun t8 g8 h8 hu8 => ?_
  · exact wpa_mono (wpa_checkpoint h7 .networkManager)
      fun _ _ _ hr => ⟨hr.1, fun _ => up hu7 hr.2⟩
  refine wpa_runSteps_cons (M := Up) ?_ hfail fun t9 g9 h9 hu9 => ?_
  · exact wpa_mono (wpa_checkpoint h8 .resolved) fun _ _ _ hr => ⟨hr.1, fun _ => up hu8 hr.2⟩
  refine wpa_runSteps_cons (M := Up) ?_ hfail fun t10 g10 h10 hu10 => ?_
  · exact wpa_mono (wpa_apply h9 (by decide) hu9) fun _ _ _ hr => ⟨hr.1, fun _ => up hu9 hr.2⟩
  refine wpa_runSteps_cons (M := Up) ?_ hfail fun t11 g11 h11 _ => ?_
  · exact wpa_mono (wpa_apply h10 (by decide) hu10)
      fun _ _ _ hr => ⟨hr.1, fun _ => up hu10 hr.2⟩
  exact ⟨h11, nofun⟩

theorem wpa_execute (h : Settled system t g) (plan : Plan) (core : Bool) :
    (watching system).wpa (execute plan core) (fun _ t' g' => Settled system t' g') t g := by
  unfold execute
  rw [wpa_ite]
  refine ⟨fun _ => h, fun _ => ?_⟩
  rw [wpa_bind, wpa_get, wpa_ite]
  refine ⟨fun _ => h, fun hfresh => ?_⟩
  rw [wpa_ite]
  refine ⟨fun _ => h, fun _ => ?_⟩
  rw [wpa_bind, wpa_modify, wpa_bind]
  have hi : Inv system { t with plan, core, corePending := true } g :=
    ⟨h.1.blocked, h.1.owned, fun _ => rfl, nofun, h.1.log, h.1.recovers, h.1.disk, h.1.records⟩
  refine wpa_mono (wpa_executeSteps hi plan rfl (h.2 (by simpa using hfresh))) ?_
  rintro (_ | error) t' g' ⟨hi', hsettled⟩
  · exact ⟨hi'.withState _, nofun⟩
  · exact hsettled rfl

theorem wpa_restore (h : Settled system t g) :
    (watching system).wpa restore (fun _ t' g' => Settled system t' g') t g := by
  unfold restore
  rw [wpa_bind, wpa_get, wpa_ite]
  refine ⟨fun _ => h, fun _ => ?_⟩
  rw [wpa_ite]
  refine ⟨fun _ => h, fun _ => ?_⟩
  refine wpa_seq (wpa_rollback h.1 t.plan) ?_
  intro failed t' g' hi
  rw [wpa_ite]
  exact ⟨fun _ => ⟨hi.withState _, nofun⟩, fun _ => ⟨hi.withState _, nofun⟩⟩

/-- **Every run of a transaction keeps the invariant.** -/
theorem wpa_session (requests : List Request) :
    ∀ (t : Transaction) (g : Watch), Settled system t g →
      (watching system).wpa (session requests) (fun _ t' g' => Settled system t' g') t g := by
  induction requests with
  | nil => exact fun t g h => h
  | cons request rest ih =>
    intro t g h
    rw [session, wpa_bind]
    have hrun : (watching system).wpa request.run (fun _ t' g' => Settled system t' g') t g := by
      cases request with
      | execute plan core => exact wpa_execute h plan core
      | restore => exact wpa_restore h
    exact wpa_mono hrun fun _ t' g' hs => ih t' g' hs

end Operations

/-! ## New transactions -/

theorem foldl_place_pending (participants : List Participant)
    (hnew : ∀ p ∈ participants, p.pendingRollback = false) (t : Transaction)
    (ht : ∀ sub, t.pendingRollback sub = false) (sub : Subsystem) :
    (participants.foldl Transaction.place t).pendingRollback sub = false := by
  induction participants generalizing t with
  | nil => exact ht sub
  | cons p rest ih =>
    refine ih (fun p' hp' => hnew p' (List.mem_cons_of_mem _ hp')) (t.place p) ?_
    intro s
    rw [place_pending]
    split
    · exact hnew p List.mem_cons_self
    · exact ht s

theorem newTransaction_pending {recorder : Recorder} {participants : List Participant}
    {t : Transaction} (h : newTransaction recorder participants = some t)
    (hnew : ∀ p ∈ participants, p.pendingRollback = false) (sub : Subsystem) :
    t.pendingRollback sub = false := by
  unfold newTransaction at h
  split at h
  · cases h
  split at h
  · cases h
  split at h
  · cases h
  obtain rfl := Option.some.inj h
  exact foldl_place_pending participants hnew { recorder } (by intro s; cases s <;> rfl) sub

/-- A transaction that owns nothing yet, seen from an empty host. -/
theorem settled_of_idle {system : Prop} {t : Transaction} {recovery : Option RecoveryLog}
    (hp : ∀ sub, t.pendingRollback sub = false)
    (hrec : system → ∃ log, recovery = some log ∧ log.state.Sound) :
    Settled system { t with recovery } {} := by
  have hp' : ∀ sub, Transaction.pendingRollback { t with recovery } sub = false := by
    intro sub
    rw [← hp sub]
    cases sub <;> rfl
  have idle : ∀ sub, ¬ Transaction.pendingRollback { t with recovery } sub = true := by
    intro sub
    simp [hp' sub]
  refine ⟨⟨?_, nofun, nofun, ?_, ?_, ?_, ?_, nofun⟩, fun _ => rfl⟩
  · exact fun sub _ h => absurd h (idle sub)
  · exact fun h => absurd h (idle .nftables)
  · intro log hlog
    refine ⟨fun sub _ h => absurd h (idle sub), fun hs => ?_⟩
    obtain ⟨log', hlog', hord⟩ := hrec hs
    obtain rfl : log' = log := Option.some.inj (hlog'.symm.trans hlog)
    exact hord
  · intro hs
    obtain ⟨log, hlog, -⟩ := hrec hs
    exact Option.isSome_iff_exists.mpr ⟨log, hlog⟩
  · exact fun _ sub _ h => absurd h (idle sub)

theorem newSystemTransaction_settled {recorder : Recorder} {previous : Option RecoveryState}
    {bootID token : String} {t : Transaction}
    (h : newSystemTransaction recorder previous bootID token = some t) :
    Settled True t {} := by
  simp only [newSystemTransaction, Option.bind_eq_bind, Option.bind_eq_some_iff] at h
  obtain ⟨log, hlog, t', ht', heq⟩ := h
  obtain rfl := Option.some.inj heq
  refine settled_of_idle (newTransaction_pending ht' ?_) fun _ => ⟨log, rfl, ?_⟩
  · intro p hp
    simp only [List.mem_cons, List.not_mem_nil, or_false] at hp
    rcases hp with rfl | rfl | rfl | rfl <;> rfl
  · unfold newRecoveryLog at hlog
    unfold newTransaction at ht'
    split at hlog
    · cases hlog
    split at ht'
    · cases ht'
    next hlogged hnamed =>
      obtain rfl := Option.some.inj hlog
      simp only [Bool.or_eq_true, not_or] at hlogged hnamed
      refine ⟨?_, by simpa using hnamed.1.1, by simpa using hlogged.2⟩
      rintro (h | h) <;> cases h

end Pokrov.Linux.Network
