import Pokrov.Linux.Network.Commands

/-!
# Invariants of the network transaction

Everything a crash leaves behind, and everything the outside has seen, is
folded from the trace into a `Watch`. One invariant ties it to the memory of
the transaction; each operation keeps it, whatever the runner, Core, the
recorder and the storage answer, and so every run does.
-/

namespace Pokrov.Linux.Network

open Effects Contract

/-! ## What a trace shows -/

structure Watch where
  /-- The recovery record on disk. -/
  durable : Option RecoveryState := none
  /-- A changing command of this owner was issued, and no rollback of it has
  succeeded since. -/
  live : Subsystem → Bool := fun _ => false
  /-- Core was told to start, and no stop has succeeded since. -/
  started : Bool := false
  /-- Some stop of Core has succeeded. -/
  stopped : Bool := false
  /-- The last script given to `nft --file -`, if nft accepted it and has not
  been told anything else since. -/
  filter : Option String := none

namespace Watch

def changed (g : Watch) (subsystem : Subsystem) (arguments : List String)
    (input : Option String) (r : RunResult) : Watch :=
  { g with
    live := fun s => if s = subsystem then true else g.live s
    filter :=
      if subsystem ≠ .nftables then g.filter
      else if arguments ≠ ["--file", "-"] then none
      else
        match r with
        | .output _ => input
        | .failed _ _ => none }

/-- A store operation that leaves `value` on disk if it takes effect. -/
def stored (g : Watch) (value : Option RecoveryState) : StoreResult → Watch
  | .done => { g with durable := value }
  | .failed _ landed => if landed then { g with durable := value } else g

/-- The owner has nothing on the host any more. -/
def cleared (g : Watch) (subsystem : Subsystem) : Watch :=
  { g with live := fun s => if s = subsystem then false else g.live s }

def next (g : Watch) : Event Net → Watch
  | ⟨.run name arguments input, r⟩ =>
    match mutates name arguments with
    | some subsystem => g.changed subsystem arguments input r
    | none => g
  | ⟨.save state, r⟩ => g.stored (some state) r
  | ⟨.remove, r⟩ => g.stored none r
  | ⟨.coreStart _, _⟩ => { g with started := true }
  | ⟨.coreStop, none⟩ => { g with started := false, stopped := true }
  | ⟨.leave subsystem .rollback none, _⟩ => g.cleared subsystem
  | _ => g

end Watch

/-- What holds of every record a transaction writes. -/
structure RecoveryState.Sound (state : RecoveryState) : Prop where
  /-- Owners on top of the block are recorded only together with the block. -/
  ordered : state.routesPending = true ∨ state.resolvedPending = true → state.nftPending = true
  identified : validIdentifier state.transactionID = true
  owned : ownerTokenPattern state.token = true

theorem RecoveryState.Sound.update {state state' : RecoveryState} (h : state.Sound)
    (hid : state'.transactionID = state.transactionID) (htoken : state'.token = state.token)
    (hord : state'.routesPending = true ∨ state'.resolvedPending = true →
      state'.nftPending = true) : state'.Sound :=
  ⟨hord, by rw [hid]; exact h.identified, by rw [htoken]; exact h.owned⟩

/-- Every owner with live host state is flagged in the record on disk. The
NetworkManager checkpoint is recorded after its creation and has no flag. -/
def Watch.Covered (g : Watch) : Prop :=
  ∀ sub, sub ≠ .networkManager → g.live sub = true →
    ∃ state, g.durable = some state ∧ state.pending sub = true

def Watch.Sound (g : Watch) : Prop := ∀ state, g.durable = some state → state.Sound

/-- Obligations at a call that concern the traffic block. -/
def BlockKept (g : Watch) : Call → Prop
  | .run name arguments _ => mutates name arguments = some .nftables → g.started = false
  | .coreStart pending =>
    pending.nftables = true ∧ ∃ plan owner, g.filter = some (nftRules plan owner)
  | .enter .nftables .rollback pending =>
    pending = ⟨false, false, false, true, false⟩ ∧ g.stopped = true ∧ g.started = false
  | _ => True

/-- The contract of a transaction; `system` says that it keeps a recovery
record. The environment is free. -/
def watching (system : Prop) : Contract Net Watch where
  next := Watch.next
  rely := fun _ _ => True
  guar := fun g e =>
    BlockKept g e.call ∧ (system → (g.next e).Covered ∧ (g.next e).Sound)

/-! ## The invariant -/

/-- The record flags every owner that has something to roll back. -/
def RecoveryState.Covers (state : RecoveryState) (t : Transaction) : Prop :=
  ∀ sub, sub ≠ .networkManager → t.pendingRollback sub = true → state.pending sub = true

structure Inv (system : Prop) (t : Transaction) (g : Watch) : Prop where
  /-- The block is the first owner to be applied and the last to go. -/
  blocked : ∀ sub, sub ≠ .networkManager → t.pendingRollback sub = true →
    t.pendingRollback .nftables = true
  owned : ∀ sub, sub ≠ .networkManager → g.live sub = true → t.pendingRollback sub = true
  running : g.started = true → t.corePending = true
  settled : t.pendingRollback .nftables = true → t.corePending = false → g.stopped = true
  /-- The record in memory is at least as wide as what is owned. -/
  log : ∀ log, t.recovery = some log → log.state.Covers t ∧ (system → log.state.Sound)
  recovers : system → t.recovery.isSome = true
  /-- So is the one on disk. -/
  disk : system → ∀ sub, sub ≠ .networkManager → t.pendingRollback sub = true →
    ∃ state, g.durable = some state ∧ state.pending sub = true
  records : system → g.Sound

section Inv

variable {system : Prop} {t : Transaction} {g : Watch}

theorem Inv.covered (h : Inv system t g) (hs : system) : g.Covered :=
  fun sub hne hlive => h.disk hs sub hne (h.owned sub hne hlive)

theorem Inv.kept (h : Inv system t g) (hs : system) : g.Covered ∧ g.Sound :=
  ⟨h.covered hs, h.records hs⟩

theorem ownedState_covers (t : Transaction) (state : RecoveryState) :
    (ownedState t state).Covers t := by
  intro sub hne hp
  cases sub <;> first | exact absurd rfl hne | exact hp

theorem ownedState_sound (h : Inv system t g) {state : RecoveryState} (hs : state.Sound) :
    (ownedState t state).Sound where
  ordered := by
    rintro (hp | hp)
    · exact h.blocked .routes (by decide) hp
    · exact h.blocked .resolved (by decide) hp
  identified := hs.identified
  owned := hs.owned

end Inv

/-! ## Frames -/

section Place

variable (t : Transaction) (p : Participant)

def Participant.pendingRollback : Participant → Bool
  | .networkManager p => p.pendingRollback
  | .resolved p => p.dirty
  | .nftables p => p.dirty
  | .routes p => p.dirty

@[simp] theorem place_corePending : (t.place p).corePending = t.corePending := by
  cases p <;> rfl

@[simp] theorem place_recovery : (t.place p).recovery = t.recovery := by cases p <;> rfl

@[simp] theorem place_state : (t.place p).state = t.state := by cases p <;> rfl

theorem place_pending (sub : Subsystem) :
    (t.place p).pendingRollback sub =
      if sub = p.subsystem then p.pendingRollback else t.pendingRollback sub := by
  cases p <;> cases sub <;> rfl

end Place

/-- A method of `sub` changes only its own participant. -/
def Touches (sub : Subsystem) (t : Transaction) (R : Participant → Prop) (t' : Transaction) :
    Prop :=
  ∃ p : Participant, p.subsystem = sub ∧ t' = t.place p ∧ R p

/-- The methods that only read. -/
def quiet (sub : Subsystem) (method : Method) : Bool :=
  method = .checkpoint && sub ≠ .networkManager

/-- What a method says about its own participant, from whether something was
pending before and whether it reports an error. -/
def Left (sub : Subsystem) (method : Method) (before : Bool) (r : GoError)
    (p : Participant) : Prop :=
  match method with
  | .checkpoint => sub ≠ .networkManager → p.pendingRollback = before
  | .apply => sub ≠ .networkManager → p.pendingRollback = true
  | .rollback => p.pendingRollback = (before && r.isSome)

/-- Lifting a participant's specification to the transaction. -/
theorem static_body {sub : Subsystem} {method : Method} (plan : Plan) (t : Transaction)
    (h : ¬ (sub = .nftables ∧ method = .apply)) :
    (static (Runs sub (quiet sub method))).wpa (participantBody sub method plan)
      (fun r t' _ => Touches sub t (Left sub method (t.pendingRollback sub) r) t') t () := by
  unfold participantBody
  cases sub with
  | networkManager =>
    refine wpa_zoom.mpr ?_
    cases method with
    | checkpoint =>
      exact wpa_mono NetworkManagerParticipant.static_checkpoint
        fun _ p _ _ => ⟨.networkManager p, rfl, rfl, fun hne => absurd rfl hne⟩
    | apply =>
      exact wpa_mono NetworkManagerParticipant.static_apply
        fun _ p _ _ => ⟨.networkManager p, rfl, rfl, fun hne => absurd rfl hne⟩
    | rollback =>
      exact wpa_mono NetworkManagerParticipant.static_rollback
        fun _ p _ hr => ⟨.networkManager p, rfl, rfl, hr⟩
  | resolved =>
    refine wpa_zoom.mpr ?_
    cases method with
    | checkpoint =>
      exact wpa_mono ResolvedParticipant.static_checkpoint
        fun _ p _ hr => ⟨.resolved p, rfl, rfl, fun _ => by rw [hr]; rfl⟩
    | apply =>
      exact wpa_mono ResolvedParticipant.static_apply
        fun _ p _ hr => ⟨.resolved p, rfl, rfl, fun _ => hr⟩
    | rollback =>
      exact wpa_mono ResolvedParticipant.static_rollback
        fun _ p _ hr => ⟨.resolved p, rfl, rfl, hr⟩
  | nftables =>
    refine wpa_zoom.mpr ?_
    cases method with
    | checkpoint =>
      exact wpa_mono NftablesParticipant.static_checkpoint
        fun _ p _ hr => ⟨.nftables p, rfl, rfl, fun _ => by rw [hr]; rfl⟩
    | apply => exact absurd ⟨rfl, rfl⟩ h
    | rollback =>
      exact wpa_mono NftablesParticipant.static_rollback
        fun _ p _ hr => ⟨.nftables p, rfl, rfl, hr⟩
  | routes =>
    refine wpa_zoom.mpr ?_
    cases method with
    | checkpoint =>
      exact wpa_mono RouteParticipant.static_checkpoint
        fun _ p _ hr => ⟨.routes p, rfl, rfl, fun _ => by rw [hr]; rfl⟩
    | apply =>
      exact wpa_mono RouteParticipant.static_apply
        fun _ p _ hr => ⟨.routes p, rfl, rfl, fun _ => hr⟩
    | rollback =>
      exact wpa_mono RouteParticipant.static_rollback
        fun _ p _ hr => ⟨.routes p, rfl, rfl, hr⟩

/-- What the commands of one owner leave as it was. -/
structure Frame (sub : Subsystem) (quiet : Bool) (g g' : Watch) : Prop where
  durable : g'.durable = g.durable
  started : g'.started = g.started
  stopped : g'.stopped = g.stopped
  live : ∀ s, s ≠ sub ∨ quiet = true → g'.live s = g.live s
  filter : sub ≠ .nftables ∨ quiet = true → g'.filter = g.filter

theorem Frame.refl (sub : Subsystem) (quiet : Bool) (g : Watch) : Frame sub quiet g g :=
  ⟨rfl, rfl, rfl, fun _ _ => rfl, fun _ => rfl⟩

/-- The records in memory and on disk both flag the owner. -/
def Flagged (system : Prop) (sub : Subsystem) (t : Transaction) (g : Watch) : Prop :=
  (∀ log, t.recovery = some log → log.state.pending sub = true) ∧
    (system → ∃ state, g.durable = some state ∧ state.pending sub = true)

section Calls

variable {system : Prop} {t : Transaction} {g : Watch} {sub : Subsystem} {method : Method}

theorem Inv.flagged (h : Inv system t g) (hne : sub ≠ .networkManager)
    (hp : t.pendingRollback sub = true) : Flagged system sub t g :=
  ⟨fun log hlog => (h.log log hlog).1 sub hne hp, fun hs => h.disk hs sub hne hp⟩

variable {q : Bool} {g' : Watch}

/-- One command of an owner whose record is written. -/
theorem runs_watched {e : Event Net} (hcov : system → g.Covered) (hord : system → g.Sound)
    (hflag : sub ≠ .networkManager → q = false → Flagged system sub t g)
    (hstart : sub = .nftables → q = false → g.started = false) (hf : Frame sub q g g')
    (he : Runs sub q e.call) : (watching system).guar g' e ∧ Frame sub q g (g'.next e) := by
  have hcov' : ∀ g'' : Watch, g''.durable = g.durable →
      (∀ s, s ≠ sub ∨ q = true → g''.live s = g.live s) → system → g''.Covered := by
    intro g'' hdur hlive hs s hne hl
    rw [hdur]
    by_cases hsub : s ≠ sub ∨ q = true
    · exact hcov hs s hne (by rw [← hlive s hsub]; exact hl)
    · obtain ⟨rfl, hq⟩ : s = sub ∧ q = false := by
        simpa [not_or] using hsub
      exact (hflag hne hq).2 hs
  have hord' : ∀ g'' : Watch, g''.durable = g.durable → system → g''.Sound := by
    intro g'' hdur hs state hstate
    exact hord hs state (by rw [← hdur]; exact hstate)
  obtain ⟨c, r⟩ := e
  obtain ⟨name, arguments, input, rfl, hm | ⟨rfl, hm⟩⟩ := he
  · have hnext : g'.next ⟨.run name arguments input, r⟩ = g' := by
      simp only [Watch.next, hm]
    refine ⟨⟨?_, fun hs => ?_⟩, ?_⟩
    · intro h
      rw [hm] at h
      cases h
    · rw [hnext]; exact ⟨hcov' g' hf.durable hf.live hs, hord' g' hf.durable hs⟩
    · rw [hnext]; exact hf
  · have hnext : g'.next ⟨.run name arguments input, r⟩ = g'.changed sub arguments input r := by
      simp only [Watch.next, hm]
    have hframe : Frame sub false g (g'.changed sub arguments input r) := by
      refine ⟨hf.durable, hf.started, hf.stopped, ?_, ?_⟩
      · rintro s (hs | hs)
        · simp only [Watch.changed, if_neg hs]
          exact hf.live s (.inl hs)
        · cases hs
      · rintro (hs | hs)
        · simp only [Watch.changed, if_pos hs]
          exact hf.filter (.inl hs)
        · cases hs
    refine ⟨⟨?_, fun hs => ?_⟩, ?_⟩
    · intro h
      have : sub = .nftables := by rw [hm] at h; exact Option.some.inj h
      rw [hf.started]
      exact hstart this rfl
    · rw [hnext]; exact ⟨hcov' _ hframe.durable hframe.live hs, hord' _ hframe.durable hs⟩
    · rw [hnext]; exact hframe

/-- Exchanging the participant of one owner. -/
theorem Inv.place {p : Participant} (h : Inv system t g) (hf : Frame p.subsystem q g g')
    (hlive : p.subsystem ≠ .networkManager → g'.live p.subsystem = true → p.pendingRollback = true)
    (hflag : p.subsystem ≠ .networkManager → p.pendingRollback = true → Flagged system p.subsystem t g)
    (hup : p.subsystem ≠ .networkManager → p.pendingRollback = true → p.subsystem = .nftables ∨ t.pendingRollback .nftables = true)
    (hdown : p.subsystem = .nftables → p.pendingRollback = false → ∀ s, s ≠ .networkManager → s ≠ .nftables → t.pendingRollback s = false)
    (hstop : p.subsystem = .nftables → p.pendingRollback = true → t.corePending = false → g.stopped = true) :
    Inv system (t.place p) g' where
  blocked := by
    intro s hne hp
    rw [place_pending] at hp ⊢
    by_cases hnft : p.subsystem = .nftables
    · rw [if_pos hnft.symm]
      by_cases hs : s = p.subsystem
      · rwa [if_pos hs] at hp
      · rw [if_neg hs] at hp
        by_contra hfalse
        have := hdown hnft (by simpa using hfalse) s hne (by rwa [hnft] at hs)
        rw [this] at hp
        cases hp
    · rw [if_neg (Ne.symm hnft)]
      by_cases hs : s = p.subsystem
      · rw [if_pos hs] at hp
        exact (hup (hs ▸ hne) hp).resolve_left hnft
      · rw [if_neg hs] at hp
        exact h.blocked s hne hp
  owned := by
    intro s hne hl
    rw [place_pending]
    by_cases hs : s = p.subsystem
    · subst hs
      rw [if_pos rfl]
      exact hlive hne hl
    · rw [if_neg hs]
      exact h.owned s hne (by rw [← hf.live s (.inl hs)]; exact hl)
  running := by
    rw [hf.started, place_corePending]
    exact h.running
  settled := by
    intro hp hcore
    rw [place_corePending] at hcore
    rw [hf.stopped]
    rw [place_pending] at hp
    by_cases hs : Subsystem.nftables = p.subsystem
    · rw [if_pos hs] at hp
      exact hstop hs.symm hp hcore
    · rw [if_neg hs] at hp
      exact h.settled hp hcore
  log := by
    intro log hlog
    rw [place_recovery] at hlog
    refine ⟨?_, (h.log log hlog).2⟩
    intro s hne hp
    rw [place_pending] at hp
    by_cases hs : s = p.subsystem
    · subst hs
      rw [if_pos rfl] at hp
      exact (hflag hne hp).1 log hlog
    · rw [if_neg hs] at hp
      exact (h.log log hlog).1 s hne hp
  recovers := by
    rw [place_recovery]
    exact h.recovers
  disk := by
    intro hs s hne hp
    rw [hf.durable]
    rw [place_pending] at hp
    by_cases hsub : s = p.subsystem
    · subst hsub
      rw [if_pos rfl] at hp
      exact (hflag hne hp).2 hs
    · rw [if_neg hsub] at hp
      exact h.disk hs s hne hp
  records := by
    intro hs state hstate
    exact h.records hs state (by rw [← hf.durable]; exact hstate)

/-- Calls that carry neither a command nor an obligation. -/
theorem Inv.mark (h : Inv system t g) {e : Event Net} (hb : BlockKept g e.call)
    (hn : g.next e = g) : (watching system).guar g e :=
  ⟨hb, fun hs => by rw [hn]; exact ⟨h.covered hs, h.records hs⟩⟩

theorem next_leave (r : GoError) :
    g.next ⟨.leave sub method r, ()⟩ =
      if method = .rollback ∧ r = none then g.cleared sub else g := by
  cases method <;> cases r <;> simp [Watch.next]

/-- The end of a participant method; a successful rollback clears the owner. -/
theorem Frame.leave (hf : Frame sub q g g') (r : GoError) (hq : q = true → method = .checkpoint) :
    Frame sub q g (g'.next ⟨.leave sub method r, ()⟩) := by
  rw [next_leave]
  split
  · next h =>
      refine ⟨hf.durable, hf.started, hf.stopped, ?_, hf.filter⟩
      rintro s (hs | hs)
      · simp only [Watch.cleared, if_neg hs]
        exact hf.live s (.inl hs)
      · rw [hq hs] at h
        cases h.1
  · exact hf

theorem guar_leave (h : Inv system t g) (hf : Frame sub q g g') (hcov : system → g'.Covered)
    (r : GoError) : (watching system).guar g' ⟨.leave sub method r, ()⟩ := by
  refine ⟨trivial, fun hs => ⟨?_, fun state hstate => ?_⟩⟩
  · rw [next_leave]
    split
    · intro s hne hl
      simp only [Watch.cleared] at hl
      split at hl
      · cases hl
      · exact hcov hs s hne hl
    · exact hcov hs
  · refine h.records hs state ?_
    rw [next_leave] at hstate
    rw [← hf.durable]
    split at hstate <;> exact hstate

/-- **A participant method keeps the invariant**, when its owner is flagged
before it changes anything, the block is up before anything else is, and the
block is the last to be rolled back. -/
theorem wpa_participantCall (h : Inv system t g) (plan : Plan)
    (hm : ¬ (sub = .nftables ∧ method = .apply))
    (hflag : sub ≠ .networkManager → quiet sub method = false → Flagged system sub t g)
    (hup : method = .apply → t.pendingRollback .nftables = true)
    (hdown : method = .rollback → t.pendingRollback sub = true)
    (hlast : sub = .nftables → method = .rollback →
      t.pending = ⟨false, false, false, true, false⟩) :
    (watching system).wpa (participantCall sub method plan) (fun r t' g' =>
      Inv system t' g' ∧ Touches sub t (Left sub method (t.pendingRollback sub) r) t' ∧
        Frame sub (quiet sub method) g g') t g := by
  have hstarted : sub = .nftables → method = .rollback → g.started = false := by
    intro hs hr
    by_contra hst
    have := h.running (by simpa using hst)
    have hcore : t.corePending = false := congrArg Pending.core (hlast hs hr)
    rw [hcore] at this
    cases this
  unfold participantCall
  rw [wpa_bind, wpa_get]
  refine wpa_call fun _ _ => ⟨h.mark ?_ rfl, ?_⟩
  · cases sub <;> cases method <;> try trivial
    have hlast' := hlast rfl rfl
    exact ⟨hlast', h.settled (hdown rfl) (congrArg Pending.core hlast'), hstarted rfl rfl⟩
  rw [wpa_bind]
  have hstep : ∀ g' e, Frame sub (quiet sub method) g g' → Runs sub (quiet sub method) e.call →
      (watching system).rely g' e → (watching system).guar g' e ∧
        Frame sub (quiet sub method) g ((watching system).next g' e) := by
    intro g' e hf he _
    refine runs_watched (t := t) (fun hs => h.covered hs) h.records hflag ?_ hf he
    intro hs hq
    cases method with
    | checkpoint => subst hs; cases hq
    | apply => exact absurd ⟨hs, rfl⟩ hm
    | rollback => exact hstarted hs rfl
  refine wpa_mono (wpa_of_static hstep (static_body plan t hm) (Frame.refl ..)) ?_
  rintro r t' g' ⟨⟨p, rfl, rfl, hleft⟩, hf⟩
  have hcov : system → g'.Covered := by
    intro hs s hne hl
    rw [hf.durable]
    by_cases hsub : s ≠ p.subsystem ∨ quiet p.subsystem method = true
    · exact h.covered hs s hne (by rw [← hf.live s hsub]; exact hl)
    · obtain ⟨rfl, hq⟩ : s = p.subsystem ∧ quiet p.subsystem method = false := by
        simpa [not_or] using hsub
      exact (hflag hne hq).2 hs
  refine wpa_call fun _ _ => ⟨guar_leave h hf hcov r, ?_⟩
  have hf' : Frame p.subsystem (quiet p.subsystem method) g
      (g'.next ⟨.leave p.subsystem method r, ()⟩) := by
    refine hf.leave r fun hq => ?_
    unfold quiet at hq
    simp_all
  -- Only `apply` makes an owner pending.
  have hback : p.subsystem ≠ .networkManager → p.pendingRollback = true →
      method = .apply ∨ t.pendingRollback p.subsystem = true := by
    intro hne hp
    cases method with
    | checkpoint => exact .inr ((hleft hne).symm.trans hp)
    | apply => exact .inl rfl
    | rollback => exact .inr (hdown rfl)
  refine wpa_pure.mpr ⟨h.place hf' ?_ ?_ ?_ ?_ ?_, ⟨p, rfl, rfl, hleft⟩, hf'⟩
  · intro hne hl
    change (g'.next ⟨.leave p.subsystem method r, ()⟩).live p.subsystem = true at hl
    cases method with
    | checkpoint =>
      rw [hf'.live _ (.inr (by simpa [quiet] using hne))] at hl
      exact (hleft hne).trans (h.owned _ hne hl)
    | apply => exact hleft hne
    | rollback =>
      cases r with
      | none =>
        rw [next_leave] at hl
        simp [Watch.cleared] at hl
      | some e => exact Eq.trans hleft (by simp [hdown rfl])
  · intro hne hp
    by_cases hq : quiet p.subsystem method = true
    · refine h.flagged hne ((hback hne hp).resolve_left fun hm' => ?_)
      rw [hm'] at hq
      cases hq
    · exact hflag hne (by simpa using hq)
  · intro hne hp
    rcases hback hne hp with hm' | hp'
    · exact .inr (hup hm')
    · exact .inr (h.blocked _ hne hp')
  · intro hnft hp s hne hs
    cases method with
    | checkpoint =>
      by_contra hpend
      have := h.blocked s hne (by simpa using hpend)
      rw [← hnft, ← hleft (by rw [hnft]; decide), hp] at this
      cases this
    | apply => exact absurd ⟨hnft, rfl⟩ hm
    | rollback =>
      have hlast' := hlast hnft rfl
      cases s with
      | networkManager => exact absurd rfl hne
      | resolved => exact congrArg Pending.resolved hlast'
      | nftables => exact absurd rfl hs
      | routes => exact congrArg Pending.routes hlast'
  · intro hnft hp hcore
    rcases hback (by rw [hnft]; decide) hp with hm' | hp'
    · exact absurd ⟨hnft, hm'⟩ hm
    · exact h.settled (by rw [← hnft]; exact hp') hcore

/-- A command that changes the block, and what follows it. -/
theorem wpa_nft {σ α : Type} {arguments : List String} {input : Option String}
    {k : RunResult → Act Net σ α} {Q : α → σ → Watch → Prop} {s : σ} (h : Inv system t g)
    (hflag : Flagged system .nftables t g) (hstart : g.started = false)
    (hf : Frame .nftables false g g')
    (hk : ∀ r : RunResult, Frame .nftables false g (g'.next ⟨.run "nft" arguments input, r⟩) → (watching system).wpa (k r) Q s (g'.next ⟨.run "nft" arguments input, r⟩)) :
    (watching system).wpa (run "nft" arguments input >>= k) Q s g' := by
  refine wpa_call fun r _ => ?_
  have := runs_watched (t := t) (e := (⟨.run "nft" arguments input, r⟩ : Event Net))
    (fun hs => h.covered hs) h.records (fun _ _ => hflag) (fun _ _ => hstart) hf (runs_own rfl)
  exact ⟨this.1, hk r this.2⟩

/-- `nftables.Apply`: either nothing was issued and nothing changed, or the
participant is dirty; on success the block is what nft accepted last. -/
theorem wpa_nftApply (h : Inv system t g) (plan : Plan) (p : NftablesParticipant)
    (hflag : Flagged system .nftables t g) (hstart : g.started = false) :
    (watching system).wpa (NftablesParticipant.apply plan) (fun r p' g' =>
      Frame .nftables false g g' ∧ (p'.dirty = true ∨ p'.dirty = p.dirty ∧ g' = g) ∧
        (r = none → p'.dirty = true ∧ g'.filter = some (nftRules plan p'.owner))) p g := by
  unfold NftablesParticipant.apply
  rw [wpa_bind, wpa_get, wpa_ite]
  refine ⟨fun _ => ⟨Frame.refl .., .inr ⟨rfl, rfl⟩, nofun⟩, fun _ => ?_⟩
  rw [wpa_ite]
  refine ⟨fun _ => ⟨Frame.refl .., .inr ⟨rfl, rfl⟩, nofun⟩, fun _ => ?_⟩
  refine wpa_nft h hflag hstart (Frame.refl ..) fun r hf => ?_
  cases r with
  | failed message applied => exact ⟨hf, .inr ⟨rfl, rfl⟩, nofun⟩
  | output text =>
    dsimp only
    rw [wpa_bind, wpa_modify]
    refine wpa_nft h hflag hstart hf fun r hf => ?_
    cases r with
    | failed message applied => exact ⟨hf, .inl rfl, nofun⟩
    | output text => exact ⟨hf, .inl rfl, fun _ => ⟨rfl, rfl⟩⟩

/-- The traffic block goes up. -/
theorem wpa_blockTraffic (h : Inv system t g) (plan : Plan)
    (hflag : Flagged system .nftables t g) (hstart : g.started = false)
    (hcore : t.corePending = true) :
    (watching system).wpa (participantCall .nftables .apply plan) (fun r t' g' =>
      Inv system t' g' ∧ Touches .nftables t (fun _ => True) t' ∧
        Frame .nftables false g g' ∧
        (r = none → t'.pendingRollback .nftables = true ∧
          ∃ plan owner, g'.filter = some (nftRules plan owner))) t g := by
  unfold participantCall
  rw [wpa_bind, wpa_get]
  refine wpa_call fun _ _ => ⟨h.mark trivial rfl, ?_⟩
  rw [wpa_bind]
  unfold participantBody
  refine wpa_zoom.mpr ?_
  refine wpa_mono (wpa_nftApply h plan t.nftables hflag hstart) ?_
  rintro r p g' ⟨hf, hdirty, hnone⟩
  have hcov : system → g'.Covered := by
    intro hs s hne hl
    rw [hf.durable]
    by_cases hsub : s = .nftables
    · subst hsub
      exact hflag.2 hs
    · exact h.covered hs s hne (by rw [← hf.live s (.inl hsub)]; exact hl)
  refine wpa_call fun _ _ => ⟨guar_leave h hf hcov r, ?_⟩
  refine wpa_pure.mpr ⟨?_, ⟨.nftables p, rfl, rfl, trivial⟩, hf, ?_⟩
  · refine h.place (p := .nftables p) hf ?_ (fun _ _ => hflag) (fun _ _ => .inl rfl) ?_ ?_
    · intro hne hl
      rcases hdirty with hd | ⟨hd, rfl⟩
      · exact hd
      · exact hd.trans (h.owned .nftables hne hl)
    · intro _ hp s hne _
      rcases hdirty with hd | ⟨hd, -⟩
      · exact absurd (hd.symm.trans hp) (by decide)
      · by_contra hpend
        have : t.nftables.dirty = true := h.blocked s hne (by simpa using hpend)
        exact absurd ((hd.trans this).symm.trans hp) (by decide)
    · intro _ _ hfalse
      rw [hcore] at hfalse
      cases hfalse
  · intro hr
    exact ⟨(hnone hr).1, plan, p.owner, (hnone hr).2⟩

end Calls

/-! ## Records -/

/-- Only the record changed, in memory or on disk. -/
def Saved (t : Transaction) (g : Watch) (t' : Transaction) (g' : Watch) : Prop :=
  ∃ log durable, t' = { t with recovery := log } ∧ g' = { g with durable := durable }

section Records

variable {system : Prop} {t : Transaction} {g : Watch}

theorem Saved.refl (t : Transaction) (g : Watch) : Saved t g t g :=
  ⟨t.recovery, g.durable, rfl, rfl⟩

theorem Saved.pending {t' : Transaction} {g' : Watch} (h : Saved t g t' g') (sub : Subsystem) :
    t'.pendingRollback sub = t.pendingRollback sub := by
  obtain ⟨log, durable, rfl, rfl⟩ := h
  cases sub <;> rfl

theorem wpa_record {stage : Method} {sub : Subsystem} {result : RecordResult}
    {Q : GoError → Transaction → Watch → Prop} (h : Inv system t g) (hQ : ∀ r, Q r t g) :
    (watching system).wpa (record stage sub result) Q t g := by
  unfold record
  rw [wpa_bind, wpa_get]
  exact fun r _ => ⟨h.mark trivial rfl, hQ r⟩

theorem wpa_saveState {state : RecoveryState} (h : Inv system t g)
    (hcov : state.Covers t) (hord : system → state.Sound) :
    (watching system).wpa (saveState state) (fun r t' g' =>
      Inv system t' g' ∧ Saved t g t' g' ∧
        (r = none → ∀ sub, state.pending sub = true → Flagged system sub t' g')) t g := by
  -- Whether or not the save lands, the disk covers what is owned.
  have hinv : ∀ landed : Bool, Inv system { t with recovery := some { state } }
      (if landed then { g with durable := some state } else g) := by
    intro landed
    have hlog : ∀ log, (some { state } : Option RecoveryLog) = some log →
        log.state.Covers { t with recovery := some { state } } ∧
          (system → log.state.Sound) := by
      rintro log ⟨⟩
      exact ⟨fun sub hne hp => hcov sub hne (by cases sub <;> exact hp), hord⟩
    have hp' : ∀ sub, Transaction.pendingRollback { t with recovery := some { state } } sub =
        t.pendingRollback sub := by
      intro sub
      cases sub <;> rfl
    cases landed with
    | false =>
      refine ⟨?_, ?_, h.running, h.settled, hlog, fun _ => rfl, ?_, h.records⟩
      · exact fun sub hne hp => h.blocked sub hne (hp' sub ▸ hp)
      · exact fun sub hne hl => (hp' sub).trans (h.owned sub hne hl)
      · exact fun hs sub hne hp => h.disk hs sub hne (hp' sub ▸ hp)
    | true =>
      refine ⟨?_, ?_, h.running, h.settled, hlog, fun _ => rfl, ?_, ?_⟩
      · exact fun sub hne hp => h.blocked sub hne (hp' sub ▸ hp)
      · exact fun sub hne hl => (hp' sub).trans (h.owned sub hne hl)
      · exact fun _ sub hne hp => ⟨state, rfl, hcov sub hne (hp' sub ▸ hp)⟩
      · rintro hs R ⟨⟩
        exact hord hs
  unfold saveState save
  rw [wpa_bind, wpa_modify]
  refine wpa_call fun r _ => ?_
  obtain ⟨landed, hnext, herr⟩ : ∃ landed : Bool, g.next ⟨.save state, r⟩ =
      (if landed then { g with durable := some state } else g) ∧
      (r.error = none → landed = true) := by
    cases r with
    | done => exact ⟨true, rfl, fun _ => rfl⟩
    | failed message landed => exact ⟨landed, rfl, nofun⟩
  have hi := hinv landed
  rw [← hnext] at hi
  refine ⟨⟨trivial, hi.kept⟩, wpa_pure.mpr ⟨hi, ?_, ?_⟩⟩
  · refine ⟨_, if landed then some state else g.durable, rfl, hnext.trans ?_⟩
    cases landed <;> rfl
  · intro hr sub hp
    refine ⟨?_, fun _ => ⟨state, ?_, hp⟩⟩
    · rintro log ⟨⟩
      exact hp
    · show (g.next ⟨.save state, r⟩).durable = some state
      rw [hnext, herr hr]
      rfl

theorem wpa_beginRecovery (h : Inv system t g) (plan : Plan) :
    (watching system).wpa (beginRecovery plan) (fun _ t' g' =>
      Inv system t' g' ∧ Saved t g t' g') t g := by
  unfold beginRecovery
  rw [wpa_bind, wpa_get]
  split
  · exact ⟨h, Saved.refl t g⟩
  · next log hlog =>
      have hl := h.log log hlog
      refine wpa_mono (wpa_saveState h hl.1
        fun hs => (hl.2 hs).update rfl rfl (hl.2 hs).ordered) ?_
      exact fun _ _ _ hr => ⟨hr.1, hr.2.1⟩

theorem wpa_recordStartedLink (h : Inv system t g) :
    (watching system).wpa recordStartedLink (fun _ t' g' =>
      Inv system t' g' ∧ Saved t g t' g') t g := by
  unfold recordStartedLink
  rw [wpa_bind, wpa_get]
  split
  · exact ⟨h, Saved.refl t g⟩
  · next log hlog =>
      refine wpa_call fun r _ => ⟨h.mark trivial rfl, ?_⟩
      have hl := h.log log hlog
      cases r with
      | error message => exact ⟨h, Saved.refl t g⟩
      | ok index =>
        refine wpa_mono (wpa_saveState h hl.1
          fun hs => (hl.2 hs).update rfl rfl (hl.2 hs).ordered) ?_
        exact fun _ _ _ hr => ⟨hr.1, hr.2.1⟩

/-- After `beforeApply` the owner is flagged, in memory and on disk. -/
theorem wpa_beforeApply {sub : Subsystem} (h : Inv system t g)
    (hblock : sub = .nftables ∨ t.pendingRollback .nftables = true) :
    (watching system).wpa (beforeApply sub) (fun r t' g' =>
      Inv system t' g' ∧ Saved t g t' g' ∧
        (r = none → sub ≠ .networkManager → Flagged system sub t' g')) t g := by
  unfold beforeApply
  rw [wpa_bind, wpa_get]
  split
  · next hnone =>
      refine ⟨h, Saved.refl t g, fun _ _ => ⟨fun log hlog => ?_, fun hs => ?_⟩⟩
      · rw [hnone] at hlog
        cases hlog
      · have := h.recovers hs
        rw [hnone] at this
        cases this
  · next log hlog =>
      obtain ⟨hcov, hord⟩ := h.log log hlog
      have hnft : sub ≠ .nftables → log.state.nftPending = true := fun hne =>
        hcov .nftables (by decide) (hblock.resolve_left hne)
      cases sub with
      | nftables =>
        refine wpa_mono (wpa_saveState h ?_ fun hs => (hord hs).update rfl rfl fun _ => rfl) ?_
        · intro s hne hp
          cases s <;> first | exact rfl | exact hcov _ hne hp
        · exact fun r _ _ hr => ⟨hr.1, hr.2.1, fun hn _ => hr.2.2 hn .nftables rfl⟩
      | routes =>
        refine wpa_mono (wpa_saveState h ?_
          fun hs => (hord hs).update rfl rfl fun _ => hnft (by decide)) ?_
        · intro s hne hp
          cases s <;> first | exact rfl | exact hcov _ hne hp
        · exact fun r _ _ hr => ⟨hr.1, hr.2.1, fun hn _ => hr.2.2 hn .routes rfl⟩
      | resolved =>
        refine wpa_mono (wpa_saveState h ?_
          fun hs => (hord hs).update rfl rfl fun _ => hnft (by decide)) ?_
        · intro s hne hp
          cases s <;> first | exact rfl | exact hcov _ hne hp
        · exact fun r _ _ hr => ⟨hr.1, hr.2.1, fun hn _ => hr.2.2 hn .resolved rfl⟩
      | networkManager =>
        refine wpa_mono (wpa_saveState h hcov hord) ?_
        exact fun r _ _ hr => ⟨hr.1, hr.2.1, fun _ hne => absurd rfl hne⟩

theorem wpa_saveRecovery (h : Inv system t g) :
    (watching system).wpa saveRecovery (fun _ t' g' =>
      Inv system t' g' ∧ Saved t g t' g') t g := by
  unfold saveRecovery
  rw [wpa_bind, wpa_get]
  split
  · exact ⟨h, Saved.refl t g⟩
  · next log hlog =>
      refine wpa_mono (wpa_saveState h (ownedState_covers t _)
        fun hs => ownedState_sound h ((h.log log hlog).2 hs)) ?_
      exact fun _ _ _ hr => ⟨hr.1, hr.2.1⟩

end Records

end Pokrov.Linux.Network
