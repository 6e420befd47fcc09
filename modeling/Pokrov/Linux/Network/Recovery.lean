import Pokrov.Linux.Network.Host

/-!
# Recovery spares what is not its own

`recoverRecord` against a host: the world it runs in is the host, the record
on disk and the rollbacks done so far. Whatever record earlier runs left, the
block of another owner is never deleted, and on a new boot nothing is changed
unless the table of that very record is still there.
-/

namespace Pokrov.Linux.Network

open Effects Contract

/-! ## The world of a recovery -/

structure World where
  host : Host
  durable : Option RecoveryState
  /-- Owners whose rollback has returned without an error. -/
  undone : Subsystem → Bool := fun _ => false

/-- The failures an attempt may meet: none that the host does not explain, any
but of the removal of the record, or any. -/
inductive Faults
  | none
  | beforeRemoval
  | any
deriving DecidableEq

namespace World

def ran (plan : Plan) (w : World) (name : String) (arguments : List String)
    (input : Option String) : World :=
  { w with host := w.host.effect plan name arguments input }

def stored (w : World) (value : Option RecoveryState) : StoreResult → World
  | .done => { w with durable := value }
  | .failed _ landed => if landed then { w with durable := value } else w

def next (plan : Plan) (w : World) : Event Net → World
  | ⟨.run name arguments input, .output _⟩ => w.ran plan name arguments input
  | ⟨.run name arguments input, .failed _ applied⟩ =>
    if applied then w.ran plan name arguments input else w
  | ⟨.save state, r⟩ => w.stored (some state) r
  | ⟨.remove, r⟩ => w.stored none r
  | ⟨.leave subsystem .rollback none, _⟩ =>
    { w with undone := fun s => if s = subsystem then true else w.undone s }
  | _ => w

/-- Outputs are truthful. Commands and saves may fail, and a failed one may or
may not have taken effect; without faults they fail only where the host itself
is the reason. -/
def Rely (plan : Plan) (faults : Faults) (w : World) : Event Net → Prop
  | ⟨.run name arguments input, .output text⟩ =>
    Truthful plan w.host name arguments input text
  | ⟨.run name arguments input, .failed _ applied⟩ =>
    faults = .none → Refused plan w.host name arguments input ∧ applied = false
  | ⟨.save _, r⟩ => faults = .none → r = StoreResult.done
  | ⟨.remove, r⟩ => faults ≠ .any → r = StoreResult.done
  | _ => True

end World

/-- Contracts of a recovery. Without `truth` the answers are arbitrary. -/
def recovering (plan : Plan) (truth : Prop) (faults : Faults) (guar : World → Event Net → Prop) :
    Contract Net World where
  next := World.next plan
  rely := fun w e => truth → w.Rely plan faults e
  guar := guar

variable {arguments : List String}

theorem deletes_listing {plan : Plan} (h : arguments.take 2 = ["-N", "-j"]) :
    deletes plan arguments = none := by
  unfold deletes
  rw [List.find?_eq_none]
  rintro ⟨family, kind⟩ - heq
  rw [decide_eq_true_eq] at heq
  rw [← heq] at h
  cases family <;> cases kind <;> simp [kindArguments, ruleArguments, routeArguments,
    Family.flag] at h

/-- Commands that only read leave the host alone. -/
theorem effect_readOnly {plan : Plan} {h : Host} {name : String} {input : Option String}
    (hr : readOnly name arguments = true) : h.effect plan name arguments input = h := by
  unfold readOnly at hr
  unfold Host.effect
  split
  · next hn =>
      rw [if_pos hn] at hr
      rw [if_neg]
      rintro ⟨rfl, -⟩
      revert hr
      decide
  next hn =>
  rw [if_neg hn] at hr
  split
  · next hi =>
      rw [if_pos hi, decide_eq_true_eq] at hr
      rw [deletes_listing hr]
  next hi =>
  rw [if_neg hi] at hr
  split
  · next hb =>
      subst hb
      have hkeep : (h.checkpoints.filter fun path =>
          arguments ≠ checkpointDestroy (arguments[3]?.getD "") path) = h.checkpoints := by
        rw [List.filter_eq_self]
        intro path _
        rw [decide_eq_true_eq]
        intro heq
        rw [heq] at hr
        revert hr
        simp [checkpointDestroy, NetworkManagerParticipant.managerCall]
      simp only [hkeep]
  · rfl

theorem next_readOnly {plan : Plan} {w : World} {name : String} {input : Option String}
    (hr : readOnly name arguments = true) (r : RunResult) :
    w.next plan ⟨.run name arguments input, r⟩ = w := by
  have heff : w.ran plan name arguments input = w := by
    simp only [World.ran, effect_readOnly hr]
  cases r with
  | output text => exact heff
  | failed message applied => cases applied <;> first | rfl | exact heff

/-! ## The nftables participant in this world -/

section Nft

variable {plan : Plan} {truth : Prop} {faults : Faults} {guar : World → Event Net → Prop}
  {p : NftablesParticipant} {w : World}

/-- A command that only reads, and what follows it. -/
theorem wpa_read {σ α : Type} {name : String} {arguments : List String}
    {input : Option String} {k : RunResult → Act Net σ α} {Q : α → σ → World → Prop} {s : σ}
    (hr : readOnly name arguments = true)
    (hg : ∀ r : RunResult, guar w ⟨.run name arguments input, r⟩)
    (hk : ∀ r : RunResult, (truth → w.Rely plan faults ⟨.run name arguments input, r⟩) →
      (recovering plan truth faults guar).wpa (k r) Q s w) :
    (recovering plan truth faults guar).wpa (run name arguments input >>= k) Q s w := by
  refine wpa_call fun r hrely => ⟨hg r, ?_⟩
  have hnext : (recovering plan truth faults guar).next w ⟨.run name arguments input, r⟩ = w :=
    next_readOnly hr r
  exact hnext.symm ▸ hk r hrely

theorem wpa_tablePresent
    (hg : ∀ r : RunResult, guar w ⟨.run "nft" ["--json", "list", "tables"] none, r⟩) :
    (recovering plan truth faults guar).wpa NftablesParticipant.tablePresent (fun r p' w' =>
      p' = p ∧ w' = w ∧ (truth → (∀ present, r = .ok present → present = w.host.block.isSome) ∧
        (faults = .none → ∃ present, r = .ok present))) p w := by
  unfold NftablesParticipant.tablePresent
  refine wpa_read rfl hg fun r hrely => ?_
  cases r with
  | failed message applied =>
    refine ⟨rfl, rfl, fun ht => ⟨nofun, fun hs => ?_⟩⟩
    exact absurd ⟨rfl, rfl⟩ (hrely ht hs).1.tables
  | output text =>
    refine ⟨rfl, rfl, fun ht => ?_⟩
    rw [containsPokrovTable_lists ((hrely ht).tables rfl rfl)]
    refine ⟨fun present hp => ?_, fun _ => ⟨_, rfl⟩⟩
    cases hp
    rfl

/-- Ownership is confirmed only by a table that carries the token. -/
theorem wpa_verifyOwner (hg : ∀ r : RunResult,
      guar w ⟨.run "nft" ["--json", "list", "table", "inet", "pokrov"] none, r⟩) :
    (recovering plan truth faults guar).wpa NftablesParticipant.verifyOwner (fun r p' w' =>
      p' = p ∧ w' = w ∧ (truth →
        (r = none → w.host.block = some (ownerComment p.owner)) ∧
        (faults = .none → w.host.block = some (ownerComment p.owner) →
          ownerTokenPattern p.owner = true → r = none))) p w := by
  unfold NftablesParticipant.verifyOwner
  refine wpa_read rfl hg fun r hrely => ?_
  cases r with
  | failed message applied =>
    refine ⟨rfl, rfl, fun ht => ⟨nofun, fun hs hblock _ => ?_⟩⟩
    have habsent := (hrely ht hs).1.table rfl rfl
    rw [hblock] at habsent
    cases habsent
  | output text =>
    dsimp only
    by_cases ht : truth
    · obtain ⟨comment, hblock, hlists⟩ := (hrely ht).table rfl rfl
      obtain ⟨entries, hread, howned⟩ := ownedTable_lists p.owner hlists
      rw [hread]
      show (recovering plan truth faults guar).wpa (get >>= _) _ p w
      rw [wpa_bind, wpa_get, wpa_ite]
      refine ⟨fun hany => ⟨rfl, rfl, fun _ => ⟨fun _ => ?_, fun _ _ _ => rfl⟩⟩,
        fun hany => ⟨rfl, rfl, fun _ => ⟨nofun, fun _ hb hpat => ?_⟩⟩⟩
      · rw [hblock, (howned.mp hany).1]
      · rw [hblock] at hb
        exact absurd (howned.mpr ⟨Option.some.inj hb, hpat⟩) hany
    · split
      · exact ⟨rfl, rfl, fun h => absurd h ht⟩
      · rw [wpa_bind, wpa_get, wpa_ite]
        exact ⟨fun _ => ⟨rfl, rfl, fun h => absurd h ht⟩, fun _ => ⟨rfl, rfl, fun h => absurd h ht⟩⟩

/-- The world without the block. -/
def World.unblocked (w : World) : World := { w with host := { w.host with block := none } }

/-- `nftables.Rollback`: the table is deleted only if it carries the token, and
a success means that there is no table. -/
theorem wpa_nftRollback (hdirty : p.dirty = true)
    (hread : ∀ (arguments : List String) (input : Option String) (r : RunResult),
      readOnly "nft" arguments = true → guar w ⟨.run "nft" arguments input, r⟩)
    (hdelete : (truth → w.host.block = some (ownerComment p.owner)) →
      ∀ r : RunResult, guar w ⟨.run "nft" ["--file", "-"] (some nftDelete), r⟩) :
    (recovering plan truth faults guar).wpa (NftablesParticipant.rollback plan) (fun r p' w' =>
      p'.owner = p.owner ∧
        (w' = w ∨ (truth → w.host.block = some (ownerComment p.owner)) ∧ w' = w.unblocked) ∧
        (truth → (r = none → w'.host.block = none) ∧
          (faults = .none → ownerTokenPattern p.owner = true →
            (∀ comment, w.host.block = some comment → comment = ownerComment p.owner) →
            r = none))) p w := by
  unfold NftablesParticipant.rollback
  rw [wpa_bind, wpa_get, wpa_ite]
  refine ⟨fun h => absurd h (by simp [hdirty]), fun _ => ?_⟩
  refine wpa_seq (wpa_tablePresent (p := p) fun r => hread _ _ r rfl) ?_
  rintro present p' w' ⟨rfl, rfl, hpresent⟩
  cases present with
  | error message =>
    refine ⟨rfl, .inl rfl, fun ht => ⟨nofun, fun hs _ _ => ?_⟩⟩
    obtain ⟨b, hb⟩ := (hpresent ht).2 hs
    cases hb
  | ok present =>
    cases present with
    | false =>
      refine ⟨rfl, .inl rfl, fun ht => ⟨fun _ => ?_, fun _ _ _ => rfl⟩⟩
      simpa using ((hpresent ht).1 false rfl).symm
    | true =>
      dsimp only
      refine wpa_seq (wpa_verifyOwner (p := p') fun r => hread _ _ r rfl) ?_
      rintro changed p'' w'' ⟨rfl, rfl, howner⟩
      have hsome : truth → ∃ comment, w''.host.block = some comment := fun ht =>
        Option.isSome_iff_exists.mp ((hpresent ht).1 true rfl).symm
      cases changed with
      | some message =>
        refine ⟨rfl, .inl rfl, fun ht => ⟨nofun, fun hs hpat hown => ?_⟩⟩
        obtain ⟨comment, hc⟩ := hsome ht
        exact (howner ht).2 hs (by rw [hc, hown comment hc]) hpat
      | none =>
        have hblock : truth → w''.host.block = some (ownerComment p''.owner) :=
          fun ht => (howner ht).1 rfl
        refine wpa_read rfl (fun r => hread _ _ r rfl) fun r hrely => ?_
        cases r with
        | failed message applied =>
          refine ⟨rfl, .inl rfl, fun ht => ⟨nofun, fun hs _ _ => ?_⟩⟩
          have habsent := (hrely ht hs).1.deleted rfl rfl
          rw [hblock ht] at habsent
          cases habsent
        | output text =>
          refine wpa_call fun r hrely => ⟨hdelete hblock r, ?_⟩
          cases r with
          | failed message applied =>
            refine ⟨rfl, ?_, fun ht => ⟨nofun, fun hs _ _ => ?_⟩⟩
            · cases applied
              · exact .inl rfl
              · exact .inr ⟨hblock, rfl⟩
            · have habsent := (hrely ht hs).1.deleted rfl rfl
              rw [hblock ht] at habsent
              cases habsent
          | output text =>
            exact ⟨rfl, .inr ⟨hblock, rfl⟩, fun _ => ⟨fun _ => rfl, fun _ _ _ => rfl⟩⟩

end Nft

/-! ## What recovery must not do -/

/-- A changing nft command, and on a foreign boot any changing command, needs
the table of this token to be there. -/
def Spared (token : String) (foreign : Prop) (w : World) : Call → Prop
  | .run name arguments _ => readOnly name arguments = false → name = "nft" ∨ foreign →
      w.host.block = some (ownerComment token)
  | _ => True

/-- The obligations of `recoverRecord` on the record `R`. -/
def sparing (truth : Prop) (R : RecoveryState) (bootID : String) : Contract Net World :=
  recovering (recoveryPlan R) truth .any fun w e =>
    (∀ state, (w.next (recoveryPlan R) e).durable = some state → state.Sound) ∧
      (truth → Spared R.token (bootID ≠ R.bootID) w e.call)

structure Sparing (truth : Prop) (R : RecoveryState) (bootID : String) (r : Recovering)
    (w : World) : Prop where
  state : r.state.Sound
  disk : ∀ state, w.durable = some state → state.Sound
  owner : r.nftables.owner = R.token
  dirty : r.nftables.dirty = r.state.nftPending
  boot : r.state.bootID = R.bootID
  /-- On a foreign boot the block was verified before anything else. -/
  block : truth → bootID ≠ R.bootID → r.state.nftPending = true →
    w.host.block = some (ownerComment R.token)

section Sparing

variable {truth : Prop} {R : RecoveryState} {bootID : String} {r : Recovering} {w : World}

theorem run_durable (plan : Plan) (w : World) (name : String) (arguments : List String)
    (input : Option String) (a : RunResult) :
    (w.next plan ⟨.run name arguments input, a⟩).durable = w.durable := by
  cases a with
  | output text => rfl
  | failed message applied => cases applied <;> rfl

variable {name : String} {arguments : List String}

theorem run_block (plan : Plan) (w : World) (hname : name ≠ "nft") (arguments : List String)
    (input : Option String) (a : RunResult) :
    (w.next plan ⟨.run name arguments input, a⟩).host.block = w.host.block := by
  have heff : (w.host.effect plan name arguments input).block = w.host.block := by
    unfold Host.effect
    rw [if_neg hname]
    split
    · split <;> rfl
    · split <;> rfl
  cases a with
  | output text => exact heff
  | failed message applied => cases applied <;> first | rfl | exact heff

/-- A command is allowed, and leaves the record alone. -/
theorem Sparing.guar_run (h : Sparing truth R bootID r w) {input : Option String} (a : RunResult)
    (hspared : truth → Spared R.token (bootID ≠ R.bootID) w (.run name arguments input)) :
    (sparing truth R bootID).guar w ⟨.run name arguments input, a⟩ := by
  refine ⟨fun state hstate => h.disk state ?_, hspared⟩
  rwa [run_durable] at hstate

theorem Sparing.guar_read (h : Sparing truth R bootID r w) {input : Option String} (a : RunResult)
    (hr : readOnly name arguments = true) :
    (sparing truth R bootID).guar w ⟨.run name arguments input, a⟩ := by
  refine h.guar_run a fun _ hchange => ?_
  rw [hr] at hchange
  cases hchange

theorem wpa_recoverySave (h : Sparing truth R bootID r w) (change : RecoveryState → RecoveryState)
    (hsound : (change r.state).Sound) (hboot : (change r.state).bootID = r.state.bootID)
    (hnft : (change r.state).nftPending = r.state.nftPending) :
    (sparing truth R bootID).wpa (saveRecovering change) (fun _ r' w' =>
      Sparing truth R bootID r' w' ∧ r'.state = change r.state) r w := by
  unfold saveRecovering save
  rw [wpa_bind, wpa_modify, wpa_bind, wpa_get]
  have hinv : ∀ landed : Bool, Sparing truth R bootID { r with state := change r.state }
      (if landed then { w with durable := some (change r.state) } else w) := by
    intro landed
    refine ⟨hsound, ?_, h.owner, h.dirty.trans hnft.symm, hboot.trans h.boot, fun ht hf hp => ?_⟩
    · cases landed
      · exact h.disk
      · rintro state ⟨⟩
        exact hsound
    · cases landed <;> exact h.block ht hf (hnft.symm.trans hp)
  refine wpa_call fun a _ => ?_
  obtain ⟨landed, hnext⟩ : ∃ landed : Bool,
      w.next (recoveryPlan R) ⟨.save (change r.state), a⟩ =
        if landed then { w with durable := some (change r.state) } else w := by
    cases a with
    | done => exact ⟨true, rfl⟩
    | failed message landed => exact ⟨landed, rfl⟩
  have hi := hinv landed
  rw [← hnext] at hi
  exact ⟨⟨hi.disk, fun _ => trivial⟩, hi, rfl⟩

theorem wpa_recoveryRecord {recorder : Recorder} {stage : Method} {sub : Subsystem}
    {result : RecordResult} {Q : GoError → Recovering → World → Prop}
    (h : Sparing truth R bootID r w) (hQ : ∀ a, Q a r w) :
    (sparing truth R bootID).wpa (recorder.record stage sub result) Q r w :=
  fun a _ => ⟨⟨h.disk, fun _ => trivial⟩, hQ a⟩

variable (recorder : Recorder)

theorem wpa_recoverResolved (h : Sparing truth R bootID r w) :
    (sparing truth R bootID).wpa (recoverResolved recorder) (fun a r' w' =>
      Sparing truth R bootID r' w' ∧ (a = none → r'.state.resolvedPending = false)) r w := by
  unfold recoverResolved
  rw [wpa_bind, wpa_get, wpa_ite]
  refine ⟨fun hp => ⟨h, fun _ => by simpa using hp⟩, fun _ => ?_⟩
  refine wpa_seq (wpa_recoverySave h _ ?_ rfl rfl) ?_
  · refine h.state.update rfl rfl ?_
    rintro (hp | hp)
    · exact h.state.ordered (.inl hp)
    · cases hp
  rintro (_ | e) r' w' ⟨h', hstate⟩
  · dsimp only
    rw [wpa_bind]
    exact wpa_recoveryRecord h' fun _ => ⟨h', fun _ => by rw [hstate]⟩
  · exact ⟨h', nofun⟩

/-- The bus is asked, and told, only on the boot of the record. -/
theorem wpa_busctl {α : Type} {k : RunResult → Rec α} {Q : α → Recovering → World → Prop}
    (h : Sparing truth R bootID r w) (hboot : bootID = R.bootID)
    (hk : ∀ a w', Sparing truth R bootID r w' → (sparing truth R bootID).wpa (k a) Q r w') :
    (sparing truth R bootID).wpa (run "busctl" arguments none >>= k) Q r w := by
  refine wpa_call fun a _ => ⟨h.guar_run a fun _ _ hor => ?_, hk a _ ?_⟩
  · rcases hor with hname | hf
    · exact absurd hname (by decide)
    · exact absurd hboot hf
  · refine ⟨h.state, fun state hstate => h.disk state ?_, h.owner, h.dirty, h.boot, fun ht hf hp => ?_⟩
    · exact (run_durable _ _ _ _ _ a).symm.trans hstate
    · exact (run_block _ _ (by decide) _ _ a).trans (h.block ht hf hp)

theorem wpa_destroyOwnedCheckpoint (h : Sparing truth R bootID r w) (hboot : bootID = R.bootID)
    (state : RecoveryState) :
    (sparing truth R bootID).wpa (destroyOwnedCheckpoint state) (fun _ r' w' =>
      Sparing truth R bootID r' w' ∧ r' = r) r w := by
  unfold destroyOwnedCheckpoint
  refine wpa_busctl h hboot fun a w1 h1 => ?_
  cases a with
  | failed message applied => exact ⟨h1, rfl⟩
  | output data =>
    dsimp only
    rw [wpa_ite]
    refine ⟨fun _ => ⟨h1, rfl⟩, fun _ => ?_⟩
    rw [wpa_ite]
    refine ⟨fun _ => ⟨h1, rfl⟩, fun _ => ?_⟩
    refine wpa_busctl h1 hboot fun a w2 h2 => ?_
    cases a with
    | failed message applied => exact ⟨h2, rfl⟩
    | output data =>
      dsimp only
      split
      · rw [wpa_ite]
        refine ⟨fun _ => ⟨h2, rfl⟩, fun _ => ?_⟩
        split
        · exact ⟨h2, rfl⟩
        · rw [wpa_ite]
          refine ⟨fun _ => ⟨h2, rfl⟩, fun _ => ?_⟩
          refine wpa_busctl h2 hboot fun a w3 h3 => ?_
          cases a <;> exact ⟨h3, rfl⟩
      · exact ⟨h2, rfl⟩

theorem wpa_recoverNetworkManager (h : Sparing truth R bootID r w)
    (hres : r.state.resolvedPending = false) :
    (sparing truth R bootID).wpa (recoverNetworkManager recorder bootID) (fun a r' w' =>
      Sparing truth R bootID r' w' ∧ (a = none → r'.state.resolvedPending = false)) r w := by
  unfold recoverNetworkManager
  rw [wpa_bind, wpa_get, wpa_ite]
  refine ⟨fun _ => ⟨h, fun _ => hres⟩, fun _ => ?_⟩
  rw [wpa_bind]
  have hdestroy : (sparing truth R bootID).wpa (destroyOnBoot bootID r.state)
      (fun _ r' w' => Sparing truth R bootID r' w' ∧ r' = r) r w := by
    unfold destroyOnBoot
    rw [wpa_ite]
    refine ⟨fun hb => wpa_destroyOwnedCheckpoint h (hb.trans h.boot) _, fun _ => ⟨h, rfl⟩⟩
  refine wpa_mono hdestroy ?_
  rintro (_ | e) r1 w1 ⟨h1, rfl⟩
  · dsimp only
    refine wpa_seq (wpa_recoverySave h1 _ (h1.state.update rfl rfl h1.state.ordered) rfl rfl) ?_
    rintro (_ | e) r2 w2 ⟨h2, hstate⟩
    · dsimp only
      rw [wpa_bind]
      exact wpa_recoveryRecord h2 fun _ => ⟨h2, fun _ => by rw [hstate]; exact hres⟩
    · exact ⟨h2, nofun⟩
  · dsimp only
    rw [wpa_bind]
    exact wpa_recoveryRecord h1 fun _ => ⟨h1, nofun⟩

/-- Marks change neither the host nor the record. -/
theorem Sparing.mark (h : Sparing truth R bootID r w) (sub : Subsystem) (method : Method)
    (error : GoError) :
    (sparing truth R bootID).guar w ⟨.leave sub method error, ()⟩ ∧
      Sparing truth R bootID r (w.next (recoveryPlan R) ⟨.leave sub method error, ()⟩) := by
  have hsame : (w.next (recoveryPlan R) ⟨.leave sub method error, ()⟩).durable = w.durable ∧
      (w.next (recoveryPlan R) ⟨.leave sub method error, ()⟩).host = w.host := by
    cases method <;> cases error <;> exact ⟨rfl, rfl⟩
  refine ⟨⟨fun state hstate => h.disk state (hsame.1.symm.trans hstate), fun _ => trivial⟩,
    h.state, fun state hstate => h.disk state (hsame.1.symm.trans hstate), h.owner, h.dirty,
    h.boot, fun ht hf hp => ?_⟩
  rw [hsame.2]
  exact h.block ht hf hp

theorem wpa_recoverRoutes (plan : Plan) (h : Sparing truth R bootID r w)
    (hres : r.state.resolvedPending = false) :
    (sparing truth R bootID).wpa (recoverRoutes recorder plan) (fun a r' w' =>
      Sparing truth R bootID r' w' ∧ (a = none → r'.state.resolvedPending = false ∧
        r'.state.routesPending = false)) r w := by
  unfold recoverRoutes
  rw [wpa_bind, wpa_get, wpa_ite]
  refine ⟨fun hp => ⟨h, fun _ => ⟨hres, by simpa using hp⟩⟩, fun hp => ?_⟩
  have hnft : r.state.nftPending = true := h.state.ordered (.inl (by simpa using hp))
  refine wpa_call fun _ _ => ⟨⟨h.disk, fun _ => trivial⟩, ?_⟩
  rw [wpa_bind]
  refine wpa_zoom.mpr ?_
  -- Every command of the routes owner sees the block that was verified.
  have hstep : ∀ (w' : World) (e : Event Net), Sparing truth R bootID r w' →
      Runs .routes false e.call → (sparing truth R bootID).rely w' e →
      (sparing truth R bootID).guar w' e ∧
        Sparing truth R bootID r ((sparing truth R bootID).next w' e) := by
    rintro w' ⟨c, a⟩ h' ⟨name, arguments, input, rfl, hruns⟩ -
    have hname : readOnly name arguments = true ∨ name ≠ "nft" := by
      rcases hruns with hm | ⟨-, hm⟩
      all_goals
        unfold mutates at hm
        split at hm
        · next hr => exact .inl hr
        · refine .inr ?_
          rintro rfl
          cases hm
    refine ⟨h'.guar_run a fun ht hchange hor => ?_, h'.state, fun state hstate => ?_, h'.owner,
      h'.dirty, h'.boot, fun ht hf hp => ?_⟩
    · rcases hname with hr | hne
      · rw [hr] at hchange
        cases hchange
      · exact h'.block ht (hor.resolve_left hne) hnft
    · exact h'.disk state ((run_durable _ _ _ _ _ a).symm.trans hstate)
    · have hb := h'.block ht hf hp
      rcases hname with hr | hne
      · rwa [show (sparing truth R bootID).next w' ⟨.run name arguments input, a⟩ = w' from
          next_readOnly hr a]
      · exact (run_block _ _ hne _ _ a).trans hb
  refine wpa_mono (wpa_of_static hstep RouteParticipant.static_rollback h) ?_
  rintro a p w1 ⟨-, h1⟩
  refine wpa_call fun _ _ => ⟨(h1.mark .routes .rollback a).1, ?_⟩
  have h2 := (h1.mark .routes .rollback a).2
  cases a with
  | some e =>
    dsimp only
    rw [wpa_bind]
    exact wpa_recoveryRecord h2 fun _ => ⟨h2, nofun⟩
  | none =>
    dsimp only
    refine wpa_seq (wpa_recoverySave h2 _ ?_ rfl rfl) ?_
    · refine h2.state.update rfl rfl ?_
      rintro (hp | hp)
      · cases hp
      · exact h2.state.ordered (.inr hp)
    rintro (_ | e) r3 w3 ⟨h3, hstate⟩
    · dsimp only
      rw [wpa_bind]
      exact wpa_recoveryRecord h3 fun _ => ⟨h3, fun _ => by rw [hstate]; exact ⟨hres, rfl⟩⟩
    · exact ⟨h3, nofun⟩

theorem wpa_recoverNftables (h : Sparing truth R bootID r w)
    (hres : r.state.resolvedPending = false) (hroutes : r.state.routesPending = false) :
    (sparing truth R bootID).wpa (recoverNftables recorder (recoveryPlan R))
      (fun _ _ w' => ∀ state, w'.durable = some state → state.Sound) r w := by
  unfold recoverNftables
  rw [wpa_bind, wpa_get, wpa_ite]
  refine ⟨fun _ => h.disk, fun hp => ?_⟩
  have hnft : r.state.nftPending = true := by simpa using hp
  refine wpa_call fun _ _ => ⟨⟨h.disk, fun _ => trivial⟩, ?_⟩
  rw [wpa_bind]
  unfold onNftables
  refine wpa_zoom.mpr ?_
  refine wpa_mono (wpa_nftRollback (h.dirty.trans hnft) (fun _ _ a hr => h.guar_read a hr)
    fun hblock a => h.guar_run a fun ht _ _ => ?_) ?_
  · rw [← h.owner]
    exact hblock ht
  rintro a p w1 ⟨-, hw, -⟩
  have hdisk : ∀ state, w1.durable = some state → state.Sound := by
    rcases hw with rfl | ⟨-, rfl⟩ <;> exact h.disk
  have hmark : ∀ state, (w1.next (recoveryPlan R) ⟨.leave .nftables .rollback a, ()⟩).durable =
      some state → state.Sound := by
    intro state hstate
    refine hdisk state ?_
    cases a <;> exact hstate
  refine wpa_call fun _ _ => ⟨⟨hmark, fun _ => trivial⟩, ?_⟩
  cases a with
  | some e =>
    dsimp only
    rw [wpa_bind]
    exact fun _ _ => ⟨⟨hmark, fun _ => trivial⟩, hmark⟩
  | none =>
    dsimp only
    rw [wpa_bind]
    -- The block is the last flag to be cleared.
    have hsound : ({ r.state with nftPending := false } : RecoveryState).Sound := by
      refine h.state.update rfl rfl ?_
      rintro (hp | hp)
      · exact absurd hp (by simp [hroutes])
      · exact absurd hp (by simp [hres])
    unfold saveRecovering save
    rw [wpa_bind, wpa_modify, wpa_bind, wpa_get]
    refine wpa_bind.mpr (wpa_call fun saved _ => ?_)
    have hstored : ∀ state, ((w1.next (recoveryPlan R) ⟨.leave .nftables .rollback none, ()⟩).stored
        (some { r.state with nftPending := false }) saved).durable = some state →
        state.Sound := by
      intro state hstate
      cases saved with
      | done => cases hstate; exact hsound
      | failed message landed =>
        cases landed with
        | false => exact hmark state hstate
        | true => cases hstate; exact hsound
    refine ⟨⟨hstored, fun _ => trivial⟩, ?_⟩
    cases saved with
    | done => exact fun _ _ => ⟨⟨hstored, fun _ => trivial⟩, hstored⟩
    | failed message landed => exact hstored

theorem wpa_recoveryRemove {Q : GoError → Recovering → World → Prop}
    (h : ∀ state, w.durable = some state → state.Sound) (hQ : ∀ a r' w', Q a r' w') :
    (sparing truth R bootID).wpa remove Q r w := by
  unfold remove
  refine wpa_call fun a _ => ⟨⟨fun state hstate => ?_, fun _ => trivial⟩, hQ _ _ _⟩
  cases a with
  | done => cases hstate
  | failed message landed =>
    cases landed with
    | false => exact h state hstate
    | true => cases hstate

theorem wpa_recoverPending (h : Sparing truth R bootID r w) :
    (sparing truth R bootID).wpa (recoverPending recorder bootID (recoveryPlan R))
      (fun _ _ _ => True) r w := by
  unfold recoverPending
  rw [untilError, wpa_bind]
  refine wpa_mono (wpa_recoverResolved recorder h) ?_
  rintro (_ | e) r1 w1 ⟨h1, hres⟩
  swap
  · trivial
  dsimp only
  rw [untilError, wpa_bind]
  refine wpa_mono (wpa_recoverNetworkManager recorder h1 (hres rfl)) ?_
  rintro (_ | e) r2 w2 ⟨h2, hres2⟩
  swap
  · trivial
  dsimp only
  rw [untilError, wpa_bind]
  refine wpa_mono (wpa_recoverRoutes recorder _ h2 (hres2 rfl)) ?_
  rintro (_ | e) r3 w3 ⟨h3, hdone⟩
  swap
  · trivial
  dsimp only
  rw [untilError, wpa_bind]
  refine wpa_mono (wpa_recoverNftables recorder h3 (hdone rfl).1 (hdone rfl).2) ?_
  rintro (_ | e) r4 w4 hdisk
  swap
  · trivial
  dsimp only
  rw [untilError, wpa_bind]
  refine wpa_recoveryRemove hdisk fun a r' w' => ?_
  cases a <;> trivial

/-- Recovery of a sound record writes sound records, and spares the host. -/
theorem wpa_recoverRecord (hR : R.Sound) (hw : w.durable = some R)
    (hr : r = { state := R }) :
    (sparing truth R bootID).wpa (recoverRecord bootID) (fun _ _ _ => True) r w := by
  subst hr
  unfold recoverRecord
  rw [wpa_bind, wpa_get, wpa_bind, wpa_modify, wpa_bind]
  have hdisk : ∀ state, w.durable = some state → state.Sound := by
    intro state hstate
    obtain rfl := Option.some.inj (hw.symm.trans hstate)
    exact hR
  have hread : ∀ (arguments : List String) (input : Option String) (a : RunResult),
      readOnly "nft" arguments = true →
      (sparing truth R bootID).guar w ⟨.run "nft" arguments input, a⟩ := by
    intro arguments input a hro
    refine ⟨fun state hstate => hdisk state ?_, fun _ hchange => ?_⟩
    · rwa [run_durable] at hstate
    · rw [hro] at hchange
      cases hchange
  refine wpa_zoom.mpr ?_
  refine wpa_mono (wpa_tablePresent fun a => hread _ _ a rfl) ?_
  rintro present p w1 ⟨rfl, rfl, hpresent⟩
  cases present with
  | error message => trivial
  | ok present =>
    dsimp only
    rw [wpa_bind]
    have hverify : (sparing truth R bootID).wpa (verifyPresent present R) (fun a r' w' =>
        r' = { state := R, nftables := { dirty := R.nftPending, owner := R.token } } ∧
          w' = w1 ∧ (a = none → truth → present = true → R.nftPending = true →
            w1.host.block = some (ownerComment R.token)))
        { state := R, nftables := { dirty := R.nftPending, owner := R.token } } w1 := by
      unfold verifyPresent
      rw [wpa_ite]
      refine ⟨fun _ => ?_, fun hno => ⟨rfl, rfl, fun _ _ hp hn => ?_⟩⟩
      · refine wpa_zoom.mpr (wpa_mono (wpa_verifyOwner fun a => hread _ _ a rfl) ?_)
        rintro a p w' ⟨rfl, rfl, howner⟩
        exact ⟨rfl, rfl, fun ha ht _ _ => (howner ht).1 ha⟩
      · rw [hp, hn] at hno
        exact absurd rfl hno
    refine wpa_mono hverify ?_
    rintro changed r1 w2 ⟨rfl, rfl, hblock⟩
    cases changed with
    | some e => trivial
    | none =>
      dsimp only
      rw [wpa_ite]
      refine ⟨fun _ => wpa_recoveryRemove hdisk fun _ _ _ => trivial, fun hboot => ?_⟩
      split
      · trivial
      · next recorder _ =>
        refine wpa_recoverPending recorder ⟨hR, hdisk, rfl, rfl, rfl, fun ht hf hn => ?_⟩
        refine hblock rfl ht ?_ hn
        simpa [hf] using hboot

end Sparing

/-! ## Records that runs leave behind -/

/-- The records some run can leave on disk: a transaction over any requests,
or a recovery of such a record, cut off anywhere and whatever was answered. -/
inductive Recorded : RecoveryState → Prop
  | session {recorder : Recorder} {previous : Option RecoveryState} {bootID token : String}
      {t : Transaction} {requests : List Request} {tr : List (Event Net)}
      {q : Prog Net (Unit × Transaction)} {R : RecoveryState}
      (hnew : newSystemTransaction recorder previous bootID token = some t)
      (hrun : Steps (session requests t) tr q) (hdisk : onDisk none tr = some R) : Recorded R
  | recovery {R R' : RecoveryState} {bootID : String} {tr : List (Event Net)}
      {q : Prog Net (GoError × Recovering)} (hR : Recorded R)
      (hrun : Steps (recoverRecord bootID { state := R }) tr q)
      (hdisk : onDisk (some R) tr = some R') : Recorded R'

/-- The world after a trace. -/
def World.after (plan : Plan) (w : World) (tr : List (Event Net)) : World :=
  tr.foldl (World.next plan) w

/-- Every answer of the trace is as `Rely` says. -/
def Answered (plan : Plan) (faults : Faults) : World → List (Event Net) → Prop
  | _, [] => True
  | w, e :: tr => w.Rely plan faults e ∧ Answered plan faults (w.next plan e) tr

theorem relied_of_answered {plan : Plan} {truth : Prop} {faults : Faults}
    {guar : World → Event Net → Prop} {w : World} {tr : List (Event Net)}
    (h : truth → Answered plan faults w tr) : (recovering plan truth faults guar).Relied w tr := by
  induction tr generalizing w with
  | nil => trivial
  | cons e tr ih => exact ⟨fun ht => (h ht).1, ih fun ht => (h ht).2⟩

theorem next_durable (plan : Plan) {w : World} {g : Watch} (h : w.durable = g.durable)
    (e : Event Net) : (w.next plan e).durable = (g.next e).durable := by
  obtain ⟨c, r⟩ := e
  cases c with
  | run name arguments input =>
    refine (run_durable plan w name arguments input r).trans (h.trans ?_)
    simp only [Watch.next]
    split <;> rfl
  | save state =>
    cases r with
    | done => rfl
    | failed message landed => cases landed <;> first | rfl | exact h
  | remove =>
    cases r with
    | done => rfl
    | failed message landed => cases landed <;> first | rfl | exact h
  | coreStop => cases r <;> exact h
  | leave sub method error => cases method <;> cases error <;> exact h
  | coreStart pending => exact h
  | linkIndex name => exact h
  | write event => exact h
  | enter sub method pending => exact h

theorem after_durable (plan : Plan) (w : World) (tr : List (Event Net)) :
    (w.after plan tr).durable = onDisk w.durable tr := by
  have : ∀ (tr : List (Event Net)) (w : World) (g : Watch), w.durable = g.durable →
      (tr.foldl (World.next plan) w).durable = (tr.foldl Watch.next g).durable := by
    intro tr
    induction tr with
    | nil => exact fun w g h => h
    | cons e tr ih => exact fun w g h => ih _ _ (next_durable plan h e)
  exact this tr w _ rfl

def emptyHost : Host where
  block := none
  tables := []
  foreign := nofun
  objects := fun _ _ => []
  names := []
  checkpoints := []
  paths := nofun

theorem Recorded.sound {R : RecoveryState} (h : Recorded R) : R.Sound := by
  induction h with
  | session hnew hrun hdisk => exact (session_kept hnew hrun).2 _ hdisk
  | @recovery R R' bootID tr q _ hrun hdisk ih =>
    let w : World := ⟨emptyHost, some R, fun _ => false⟩
    have hwp : (sparing False R bootID).wpa (recoverRecord bootID) (fun _ _ _ => True)
        { state := R } w := wpa_recoverRecord ih rfl rfl
    have hall := ((sparing False R bootID).wp_steps hwp hrun (relied_of_answered nofun)).1
    have hend := (sparing False R bootID).after_of_along
      (A := fun w => ∀ state, w.durable = some state → state.Sound)
      (fun w e _ he => he.1) (by rintro state ⟨⟩; exact ih) hall
    exact hend R' ((after_durable (recoveryPlan R) w tr).trans hdisk)

/-- **Recovery spares foreign state.** In every record a run can leave, routes
or resolver settings are pending only together with the block. And on any host
whose commands answer truthfully, recovery of that record changes the nftables
state only while the table `inet pokrov` carries the record's own token; on a
boot other than the record's, that holds for every changing command. -/
theorem recovery_spares_foreign {R : RecoveryState} (hR : Recorded R) :
    (R.routesPending = true ∨ R.resolvedPending = true → R.nftPending = true) ∧
    ∀ (host : Host) (bootID : String) (tr : List (Event Net))
      (q : Prog Net (GoError × Recovering)),
      Steps (recoverRecord bootID { state := R }) tr q →
      Answered (recoveryPlan R) .any ⟨host, some R, fun _ => false⟩ tr →
      ∀ pre name arguments input r post,
        tr = pre ++ ⟨.run name arguments input, r⟩ :: post →
        readOnly name arguments = false → name = "nft" ∨ bootID ≠ R.bootID →
        (World.after (recoveryPlan R) ⟨host, some R, fun _ => false⟩ pre).host.block =
          some (ownerComment R.token) := by
  refine ⟨hR.sound.ordered, ?_⟩
  rintro host bootID tr q hrun hanswers pre name arguments input r post rfl hchange hor
  have hwp : (sparing True R bootID).wpa (recoverRecord bootID) (fun _ _ _ => True)
      { state := R } ⟨host, some R, fun _ => false⟩ := wpa_recoverRecord hR.sound rfl rfl
  have hall := ((sparing True R bootID).wp_steps hwp hrun
    (relied_of_answered fun _ => hanswers)).1
  exact hall.at.2 trivial hchange hor

/-- What a crash right after a successful `Execute` leaves. -/
def systemRecord : RecoveryState where
  transactionID := "txn-1"
  generation := 1
  bootID := sampleBoot
  token := sampleToken
  tunnelIndex := 7
  nftPending := true
  routesPending := true
  resolvedPending := true

theorem systemRecord_recorded : Recorded systemRecord := by
  have hnew : newSystemTransaction sampleRecorder none sampleBoot sampleToken =
      some systemTransaction := rfl
  have hrun : Steps (session [.execute samplePlan true] systemTransaction) systemTrace _ :=
    steps_play (I := Net) (plainHost true) _ []
  exact .session hnew hrun (by decide +kernel)

/-- On the next boot, with no table left, recovery of it starts by reading. -/
theorem systemRecord_spared :
    systemRecord.nftPending = true ∧
    ∀ (tr : List (Event Net)) (q : Prog Net (GoError × Recovering)),
      Steps (recoverRecord "" { state := systemRecord }) tr q →
      Answered (recoveryPlan systemRecord) .any
        ⟨emptyHost, some systemRecord, fun _ => false⟩ tr →
      ∀ name arguments input r post, tr = ⟨.run name arguments input, r⟩ :: post →
        readOnly name arguments = true := by
  have h := recovery_spares_foreign systemRecord_recorded
  refine ⟨h.1 (.inl rfl), fun tr q hrun hanswers name arguments input r post htr => ?_⟩
  by_contra hchange
  have hblock := h.2 emptyHost "" tr q hrun hanswers [] name arguments input r post htr
    (by simpa using hchange) (.inr (by decide))
  cases hblock

end Pokrov.Linux.Network
