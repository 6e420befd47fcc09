import Pokrov.Linux.Network.PolicyRoutes

/-!
# What a restore needs from a healthy host

From now on every command tells the truth about a host on which anything the
transaction owns may have disappeared, the tunnel link is there, Core stops and
the storage works. Absent tables, rules, routes and resolver settings do not
stand in the way of `restore`; a NetworkManager checkpoint that is pending in
memory and gone on the bus does.
-/

namespace Pokrov.Linux.Network

open Effects Contract

/-! ## Healthy hosts -/

def checkpointRollback (owner path : String) : List String :=
  NetworkManagerParticipant.managerCall owner "CheckpointRollback" ["o", path]

/-- The answer of a rollback that restored its one device. -/
def RolledBack (device text : String) : Prop :=
  GoText.fields (GoText.trimSpace text.toList) =
    ["a\x7bsu\x7d".toList, ['1'], GoText.quotePlain device, ['0']]

/-- The checkpoint is there, and with it the connection that made it. -/
def Host.Holds (h : Host) (owner path : String) : Prop := owner ∈ h.names ∧ path ∈ h.checkpoints

/-- A checkpoint that is rolled back is used up. -/
def Host.consumed (h : Host) (name : String) (arguments : List String) : Host :=
  if name = "busctl" then
    { h with
      checkpoints := h.checkpoints.filter fun path =>
        arguments ≠ checkpointRollback (arguments[3]?.getD "") path
      paths := fun path hp => h.paths path ((List.mem_filter.mp hp).1) }
  else h

namespace World

/-- `device` is what a checkpoint was made of. -/
def Healthy (plan : Plan) (device : String → String) (w : World) : Event Net → Prop
  | ⟨.run name arguments input, .output text⟩ =>
    Truthful plan w.host name arguments input text ∧
    ∀ owner path, name = "busctl" → arguments = checkpointRollback owner path →
      w.host.Holds owner path ∧ RolledBack (device path) text
  | ⟨.run name arguments input, .failed _ applied⟩ =>
    (Refused plan w.host name arguments input ∧ applied = false) ∧ name ≠ "resolvectl" ∧
    ∀ owner path, name = "busctl" → arguments = checkpointRollback owner path →
      ¬ w.host.Holds owner path
  | ⟨.save _, r⟩ => r = StoreResult.done
  | ⟨.remove, r⟩ => r = StoreResult.done
  | ⟨.coreStop, r⟩ => r = (none : GoError)
  | ⟨.write _, r⟩ => r = (none : GoError)
  | _ => True

def healed (plan : Plan) (w : World) : Event Net → World
  | ⟨.run name arguments input, .output _⟩ =>
    { w with host := (w.host.effect plan name arguments input).consumed name arguments }
  | e => w.next plan e

end World

def healing (plan : Plan) (device : String → String) : Contract Net World where
  next := World.healed plan
  rely := World.Healthy plan device
  guar := fun _ _ => True

/-- What is left on the host of a transaction: its table or none, and of its
rules and routes one or none in each listing. -/
structure Leftover (device : String → String) (t : Transaction) (h : Host) : Prop where
  block : t.nftables.dirty = true → ∀ comment, h.block = some comment →
    comment = ownerComment t.nftables.owner
  objects : t.routes.dirty = true → ∀ family kind,
    owned h family kind = [] ∨ owned h family kind = [printed t.plan family kind]
  device : t.networkManager.checkpointPath ≠ "" →
    device t.networkManager.checkpointPath = t.networkManager.devicePath

section Healing

variable {plan : Plan} {device : String → String} {w : World}

theorem World.Healthy.rely {e : Event Net} (h : w.Healthy plan device e) :
    w.Rely plan .none e := by
  obtain ⟨c, r⟩ := e
  cases c with
  | run name arguments input =>
    cases r with
    | output text => exact h.1
    | failed message applied => exact fun _ => h.1
  | save state => exact fun _ => h
  | remove => exact fun _ => h
  | _ => trivial

/-- Commands other than bus calls do to the host what they do to any. -/
theorem healed_other {name : String} (hname : name ≠ "busctl") (arguments : List String)
    (input : Option String) (r : RunResult) :
    w.healed plan ⟨.run name arguments input, r⟩ = w.next plan ⟨.run name arguments input, r⟩ := by
  cases r with
  | output text => simp [World.healed, World.next, World.ran, Host.consumed, hname]
  | failed message applied => rfl

/-! ## Participants -/

/-- With the link in place its settings can always be reverted. -/
theorem wpa_healResolved (p : ResolvedParticipant) :
    (healing plan device).wpa (ResolvedParticipant.rollback plan)
      (fun r p' w' => r = none ∧ p'.dirty = false ∧ w' = w) p w := by
  unfold ResolvedParticipant.rollback
  rw [wpa_bind, wpa_get, wpa_ite]
  refine ⟨fun hp => ⟨rfl, by simpa using hp, rfl⟩, fun _ => ?_⟩
  refine wpa_call fun r hrely => ⟨trivial, ?_⟩
  cases r with
  | output text =>
    refine ⟨rfl, rfl, ?_⟩
    simp [healing, World.healed, Host.effect, Host.consumed]
  | failed message applied =>
    have hlink := hrely.2.1
    exact absurd rfl hlink

/-- The checkpoint is rolled back where it is, and only there. -/
theorem wpa_healNetworkManager {p : NetworkManagerParticipant}
    (hpath : p.checkpointPath ≠ "" → networkManagerDevicePath p.devicePath.toList = true)
    (hdevice : p.checkpointPath ≠ "" → device p.checkpointPath = p.devicePath) :
    (healing plan device).wpa (NetworkManagerParticipant.rollback plan) (fun r p' w' =>
      w'.host.block = w.host.block ∧ w'.host.objects = w.host.objects ∧
        (r = none → p'.checkpointPath = "") ∧
        (r = none ↔ p.checkpointPath = "" ∨ w.host.Holds p.busOwner p.checkpointPath)) p w := by
  unfold NetworkManagerParticipant.rollback
  rw [wpa_bind, wpa_get, wpa_ite]
  refine ⟨fun hp => ⟨rfl, rfl, fun _ => hp, by simp [hp]⟩, fun hp => ?_⟩
  refine wpa_call fun r hrely => ⟨trivial, ?_⟩
  cases r with
  | failed message applied =>
    have habsent := hrely.2.2 p.busOwner p.checkpointPath rfl rfl
    obtain rfl := hrely.1.2
    exact ⟨rfl, rfl, nofun, by simp [hp, habsent]⟩
  | output text =>
    obtain ⟨hholds, hfields⟩ := hrely.2 p.busOwner p.checkpointPath rfl rfl
    have hplain : p.devicePath.toList.all (· ≠ '"') = true := by
      refine GoText.matchesAfter_all (hpath hp) (by decide) fun c hc => ?_
      rw [decide_eq_true_eq]
      rintro rfl
      exact absurd hc (by decide)
    dsimp only
    rw [hfields, hdevice hp]
    dsimp only
    rw [GoText.trimQuotes_quotePlain hplain, wpa_ite]
    refine ⟨fun hbad => absurd hbad (by simp), fun _ => ?_⟩
    exact ⟨rfl, rfl, fun _ => rfl, by simp [hholds]⟩

/-- One listing of `routes.Rollback`: what is left is deleted. -/
theorem wpa_healOne (p : RouteParticipant) (family : Family) (kind : RouteKind)
    (hleft : owned w.host family kind = [] ∨
      owned w.host family kind = [printed plan family kind]) :
    (healing plan device).wpa (RouteParticipant.rollbackOne plan (family, kind)) (fun r p' w' =>
      r = none ∧ p' = p ∧ w'.host.block = w.host.block ∧
        ∀ f k, (f, k) ≠ (family, kind) → owned w'.host f k = owned w.host f k) p w := by
  unfold RouteParticipant.rollbackOne RouteParticipant.list
  rw [wpa_bind]
  refine wpa_call fun r hrely => ⟨trivial, ?_⟩
  have hsame : (healing plan device).next w ⟨.run "ip" (listArguments family kind) none, r⟩ = w :=
    (healed_other (by decide) _ _ r).trans (next_readOnly rfl r)
  cases r with
  | failed message applied => exact absurd ⟨rfl, rfl⟩ (hrely.1.1.objects family kind)
  | output text =>
    have hlists := hrely.1.objects family kind rfl rfl
    rw [hsame]
    dsimp only
    rw [decodeIpObjects_lists hlists]
    dsimp only
    rw [wpa_pure]
    dsimp only
    rw [countOwned_filter]
    rcases hleft with hempty | hone
    · rw [show (w.host.objects family kind).filter inOwnedTable = [] from hempty]
      exact ⟨rfl, rfl, rfl, fun _ _ _ => rfl⟩
    · have hcount : countOwned kind family plan ((w.host.objects family kind).filter
          inOwnedTable) = .ok 1 := by
        rw [show (w.host.objects family kind).filter inOwnedTable =
          [printed plan family kind] from hone]
        simp [countOwned, printed_table, printed_object, Except.map]
      have hmem : printed plan family kind ∈ w.host.objects family kind := by
        have hfound : printed plan family kind ∈ owned w.host family kind := by simp [hone]
        exact (List.mem_filter.mp hfound).1
      rw [hcount]
      dsimp only
      rw [wpa_ite]
      refine ⟨fun hmany => absurd hmany (by decide), fun _ => ?_⟩
      rw [wpa_ite]
      refine ⟨fun _ => ?_, fun hno => absurd rfl hno⟩
      refine wpa_call fun r hrely => ⟨trivial, ?_⟩
      cases r with
      | failed message applied =>
        -- What is there can be deleted.
        exact absurd hmem (hrely.1.1.removed family kind rfl
          (deletes_kindArguments plan family kind))
      | output text =>
        have hdeleted : (healing plan device).next w
            ⟨.run "ip" (kindArguments kind family "del" plan) none, RunResult.output text⟩ =
            w.ran plan "ip" (kindArguments kind family "del" plan) none :=
          healed_other (show "ip" ≠ "busctl" by decide) _ none (.output text)
        rw [hdeleted, ran_deletes]
        refine ⟨rfl, rfl, rfl, fun f k hne => ?_⟩
        simp only [owned, if_neg hne]

/-- The rules and routes that are left are deleted. -/
theorem wpa_healRoutes (p : RouteParticipant) (hleft : p.dirty = true → ∀ family kind,
      owned w.host family kind = [] ∨ owned w.host family kind = [printed plan family kind]) :
    (healing plan device).wpa (RouteParticipant.rollback plan) (fun r p' w' =>
      r = none ∧ p'.dirty = false ∧ w'.host.block = w.host.block) p w := by
  unfold RouteParticipant.rollback
  rw [wpa_bind, wpa_get, wpa_ite]
  refine ⟨fun hp => ⟨rfl, by simpa using hp, rfl⟩, fun hp => ?_⟩
  have hdirty : p.dirty = true := by simpa using hp
  refine wpa_seq (wpa_untilError (J := fun rest _ w' => rest.Nodup ∧
    w'.host.block = w.host.block ∧ ∀ target ∈ rest,
      owned w'.host target.1 target.2 = owned w.host target.1 target.2)
    (Q := fun _ _ _ => False) RouteParticipant.rollbackTargets ?_ p w
    ⟨by decide, rfl, fun _ _ => rfl⟩) ?_
  · rintro ⟨family, kind⟩ rest p' w' ⟨hnodup, hblock, hsame⟩
    obtain ⟨hnot, hrest⟩ := List.nodup_cons.mp hnodup
    have hhere := hsame (family, kind) List.mem_cons_self
    have hone := hleft hdirty family kind
    rw [← hhere] at hone
    refine wpa_mono (wpa_healOne p' family kind hone) ?_
    rintro (_ | error) p'' w'' ⟨hnone, -, hblock', hothers⟩
    · refine ⟨hrest, hblock'.trans hblock, fun target hmem => ?_⟩
      have hne : target ≠ (family, kind) := fun heq => hnot (heq ▸ hmem)
      rw [hothers target.1 target.2 hne]
      exact hsame target (List.mem_cons_of_mem _ hmem)
    · cases hnone
  · rintro (_ | error) p' w' h'
    · exact ⟨rfl, rfl, h'.2.1⟩
    · cases h'

/-- A table that carries the token is deleted, and none is fine. -/
theorem wpa_healNftables {p : NftablesParticipant} (hdirty : p.dirty = true)
    (howner : ownerTokenPattern p.owner = true)
    (hleft : ∀ comment, w.host.block = some comment → comment = ownerComment p.owner) :
    (healing plan device).wpa (NftablesParticipant.rollback plan) (fun r _ _ => r = none) p w := by
  let nftOnly : World → Event Net → Prop := fun _ e => ∃ arguments input,
    e.call = .run "nft" arguments input
  have hnft : (recovering plan True .none nftOnly).wpa (NftablesParticipant.rollback plan) _ p w :=
    wpa_nftRollback hdirty (fun arguments input _ _ => ⟨arguments, input, rfl⟩)
      (fun _ _ => ⟨_, _, rfl⟩)
  refine wpa_mono (wpa_simulate (D := healing plan device) (R := Eq) ?_ hnft rfl) ?_
  · rintro w1 _ ⟨c, r⟩ rfl hrely
    refine ⟨fun _ => World.Healthy.rely hrely, ?_⟩
    rintro ⟨arguments, input, rfl⟩
    exact ⟨trivial, (healed_other (by decide) arguments input r).symm⟩
  · rintro r p' _ ⟨w', ⟨-, -, htruth⟩, rfl⟩
    exact (htruth trivial).2 rfl howner hleft

end Healing

/-! ## The transaction -/

/-- What the participants' fields look like once they own something. -/
structure Fit (t : Transaction) : Prop where
  device : t.networkManager.checkpointPath ≠ "" →
    networkManagerDevicePath t.networkManager.devicePath.toList = true
  owner : t.nftables.dirty = true → ownerTokenPattern t.nftables.owner = true

/-- The owners that are rolled back after those of the link are as they were. -/
structure Beyond (t : Transaction) (h : Host) (t' : Transaction) (h' : Host) : Prop where
  routes : t'.routes = t.routes
  nftables : t'.nftables = t.nftables
  corePending : t'.corePending = t.corePending
  block : h'.block = h.block
  objects : h'.objects = h.objects

section Restoring

variable {plan : Plan} {device : String → String} {t : Transaction} {w : World}

variable {sub : Subsystem}

theorem wpa_healCall {Q : GoError → Transaction → Host → Prop}
    (h : (healing plan device).wpa (participantBody sub .rollback plan) (fun r t' w' => Q r t' w'.host) t w) :
    (healing plan device).wpa (participantCall sub .rollback plan)
      (fun r t' w' => Q r t' w'.host) t w := by
  unfold participantCall
  rw [wpa_bind, wpa_get]
  refine wpa_call fun _ _ => ⟨trivial, ?_⟩
  refine wpa_seq h fun r t' w' hQ => ?_
  refine wpa_call fun _ _ => ⟨trivial, ?_⟩
  cases r <;> exact hQ

/-- The journal takes every event. -/
theorem wpa_healRecord {result : RecordResult} :
    (healing plan device).wpa (record .rollback sub result)
      (fun r t' w' => r = none ∧ t' = t ∧ w' = w) t w :=
  fun _ hrely => ⟨trivial, hrely, rfl, rfl⟩

/-- Saves succeed. -/
theorem wpa_healSave : (healing plan device).wpa saveRecovery (fun r t' w' =>
    r = none ∧ (∃ recovery, t' = { t with recovery }) ∧ w'.host = w.host) t w := by
  unfold saveRecovery
  rw [wpa_bind, wpa_get]
  cases hlog : t.recovery with
  | none => exact ⟨rfl, ⟨none, by rw [← hlog]⟩, rfl⟩
  | some log =>
    dsimp only
    unfold saveState save
    rw [wpa_bind, wpa_modify]
    refine wpa_call fun r hrely => ⟨trivial, ?_⟩
    obtain rfl : r = StoreResult.done := hrely
    exact ⟨rfl, ⟨_, rfl⟩, rfl⟩

/-- One turn of the first loop of `rollback`. -/
theorem wpa_healOwner {rest : List Subsystem} {failed : Bool}
    {Q : Bool → Transaction → World → Prop}
    (hskip : t.pendingRollback sub = false → (healing plan device).wpa (rollbackOwners plan rest failed) Q t w)
    (hturn : t.pendingRollback sub = true → (healing plan device).wpa (participantBody sub .rollback plan) (fun r t' w' => ∀ recovery w'', w''.host = w'.host → (healing plan device).wpa (rollbackOwners plan rest (failed || r.isSome)) Q { t' with recovery } w'') t w) :
    (healing plan device).wpa (rollbackOwners plan (sub :: rest) failed) Q t w := by
  rw [rollbackOwners, wpa_bind, wpa_get, wpa_ite]
  refine ⟨fun hp => hskip (by simpa using hp), fun hp => ?_⟩
  refine wpa_seq (wpa_healCall (Q := fun r t' h' => ∀ recovery w'', w''.host = h' →
    (healing plan device).wpa (rollbackOwners plan rest (failed || r.isSome)) Q
      { t' with recovery } w'') (hturn (by simpa using hp))) ?_
  rintro (_ | error) t' w' hnext
  · dsimp only
    refine wpa_seq wpa_healRecord ?_
    rintro recorded t1 w1 ⟨rfl, rfl, rfl⟩
    refine wpa_seq wpa_healSave ?_
    rintro saved t2 w2 ⟨rfl, ⟨recovery, rfl⟩, hhost⟩
    simpa using hnext recovery w2 hhost
  · dsimp only
    refine wpa_seq wpa_healRecord ?_
    rintro recorded t1 w1 ⟨-, rfl, rfl⟩
    simpa using hnext t1.recovery w1 rfl

/-- The loop over the link's owners fails for the want of the checkpoint only. -/
theorem wpa_healOwners (hfit : Fit t) (hdevice : t.networkManager.checkpointPath ≠ "" →
      device t.networkManager.checkpointPath = t.networkManager.devicePath) :
    (healing plan device).wpa (rollbackOwners plan [.resolved, .networkManager] false)
      (fun failed t' w' => Beyond t w.host t' w'.host ∧
        (failed = false ↔ t.networkManager.checkpointPath = "" ∨
          w.host.Holds t.networkManager.busOwner t.networkManager.checkpointPath)) t w := by
  -- What the second turn does, whatever the first has left in its own fields.
  have hsecond : ∀ resolved recovery w1, w1.host = w.host →
      (healing plan device).wpa (rollbackOwners plan [.networkManager] false)
        (fun failed t' w' => Beyond t w.host t' w'.host ∧
          (failed = false ↔ t.networkManager.checkpointPath = "" ∨
            w.host.Holds t.networkManager.busOwner t.networkManager.checkpointPath))
        { t with resolved, recovery } w1 := by
    intro resolved recovery w1 hhost
    refine wpa_healOwner (fun hidle => ?_) fun _ => ?_
    · have hpath : t.networkManager.checkpointPath = "" := by
        simpa [Transaction.pendingRollback, NetworkManagerParticipant.pendingRollback] using hidle
      exact ⟨⟨rfl, rfl, rfl, by rw [hhost], by rw [hhost]⟩, by simp [hpath]⟩
    · unfold participantBody
      refine wpa_zoom.mpr (wpa_mono (wpa_healNetworkManager hfit.device hdevice) ?_)
      rintro r p' w2 ⟨hblock, hobjects, -, hheld⟩ recovery' w3 hhost'
      rw [hhost] at hblock hobjects hheld
      refine ⟨⟨rfl, rfl, rfl, by rw [hhost', hblock], by rw [hhost', hobjects]⟩, ?_⟩
      rw [← hheld]
      cases r <;> simp
  refine wpa_healOwner (fun _ => ?_) fun _ => ?_
  · exact hsecond t.resolved t.recovery w rfl
  · unfold participantBody
    refine wpa_zoom.mpr (wpa_mono (wpa_healResolved _) ?_)
    rintro r p' w1 ⟨rfl, -, rfl⟩ recovery w2 hhost
    exact hsecond p' recovery w2 hhost

theorem wpa_healRoutesCall (hleft : t.routes.dirty = true → ∀ family kind,
      owned w.host family kind = [] ∨ owned w.host family kind = [printed plan family kind]) :
    (healing plan device).wpa (rollbackRoutes plan) (fun failed t' w' =>
      failed = false ∧ t'.nftables = t.nftables ∧ w'.host.block = w.host.block) t w := by
  unfold rollbackRoutes
  rw [wpa_bind, wpa_get, wpa_ite]
  refine ⟨fun _ => ⟨rfl, rfl, rfl⟩, fun _ => ?_⟩
  refine wpa_seq (wpa_healCall (Q := fun r t' h' => r = none ∧ t'.nftables = t.nftables ∧
    h'.block = w.host.block) ?_) ?_
  · unfold participantBody
    refine wpa_zoom.mpr (wpa_mono (wpa_healRoutes t.routes hleft) ?_)
    rintro r p' w' ⟨rfl, -, hblock⟩
    exact ⟨rfl, rfl, hblock⟩
  · rintro r t1 w1 ⟨rfl, hnft, hblock⟩
    dsimp only
    refine wpa_seq wpa_healSave ?_
    rintro saved t2 w2 ⟨rfl, ⟨recovery, rfl⟩, hhost⟩
    dsimp only
    refine wpa_seq wpa_healRecord ?_
    rintro recorded t3 w3 ⟨-, rfl, rfl⟩
    exact ⟨rfl, hnft, by rw [hhost, hblock]⟩

theorem wpa_healStop : (healing plan device).wpa stopCore (fun failed t' w' =>
    failed = false ∧ t'.nftables = t.nftables ∧ w'.host = w.host) t w := by
  unfold stopCore
  rw [wpa_bind, wpa_get, wpa_ite]
  refine ⟨fun _ => ⟨rfl, rfl, rfl⟩, fun _ => ?_⟩
  refine wpa_call fun r hrely => ⟨trivial, ?_⟩
  obtain rfl : r = (none : GoError) := hrely
  exact ⟨rfl, rfl, rfl⟩

theorem wpa_healNftablesCall
    (howner : t.nftables.dirty = true → ownerTokenPattern t.nftables.owner = true)
    (hleft : t.nftables.dirty = true → ∀ comment, w.host.block = some comment →
      comment = ownerComment t.nftables.owner) :
    (healing plan device).wpa (rollbackNftables plan) (fun failed _ _ => failed = false) t w := by
  unfold rollbackNftables
  rw [wpa_bind, wpa_get, wpa_ite]
  refine ⟨fun _ => rfl, fun hp => ?_⟩
  have hdirty : t.nftables.dirty = true := by simpa [Transaction.pendingRollback] using hp
  refine wpa_seq (wpa_healCall (Q := fun r _ _ => r = none) ?_) ?_
  · unfold participantBody
    exact wpa_zoom.mpr (wpa_healNftables hdirty (howner hdirty) (hleft hdirty))
  · rintro r t1 w1 rfl
    dsimp only
    refine wpa_seq wpa_healRecord ?_
    rintro recorded t2 w2 ⟨rfl, -, -⟩
    dsimp only
    refine wpa_seq wpa_healSave ?_
    rintro saved t3 w3 ⟨rfl, -, -⟩
    rfl

theorem wpa_healRemove : (healing plan device).wpa removeRecovery
    (fun failed _ _ => failed = false) t w := by
  unfold removeRecovery
  rw [wpa_bind, wpa_get]
  cases t.recovery with
  | none => rfl
  | some log =>
    dsimp only
    unfold remove
    refine wpa_call fun r hrely => ⟨trivial, ?_⟩
    obtain rfl : r = StoreResult.done := hrely
    rfl

/-- A rollback on a healthy host goes through if the checkpoint is there to be
rolled back, or none is pending; otherwise it does not. -/
theorem wpa_healRollback (hfit : Fit t) (hleft : Leftover device t w.host) :
    (healing t.plan device).wpa (rollback t.plan) (fun failed _ _ =>
      failed = false ↔ t.networkManager.checkpointPath = "" ∨
        w.host.Holds t.networkManager.busOwner t.networkManager.checkpointPath) t w := by
  unfold rollback
  refine wpa_seq (wpa_healOwners hfit hleft.device) ?_
  rintro failed t1 w1 ⟨hbeyond, hheld⟩
  rw [wpa_ite]
  refine ⟨fun hfailed => ?_, fun hpassed => ?_⟩
  · rw [hfailed] at hheld
    exact hheld
  · -- Everything after the link's owners tolerates absence.
    have hhold := hheld.mp (by simpa using hpassed)
    refine wpa_seq (wpa_healRoutesCall fun hdirty family kind => ?_) ?_
    · rw [hbeyond.routes] at hdirty
      simpa [owned, hbeyond.objects] using hleft.objects hdirty family kind
    rintro failed2 t2 w2 ⟨rfl, hnft2, hblock2⟩
    rw [wpa_ite]
    refine ⟨fun hfailed => Bool.noConfusion hfailed, fun _ => ?_⟩
    refine wpa_seq wpa_healStop ?_
    rintro failed3 t3 w3 ⟨rfl, hnft3, hhost3⟩
    rw [wpa_ite]
    refine ⟨fun hfailed => Bool.noConfusion hfailed, fun _ => ?_⟩
    rw [wpa_bind]
    have hnft : t3.nftables = t.nftables := hnft3.trans (hnft2.trans hbeyond.nftables)
    have hblock : w3.host.block = w.host.block := by rw [hhost3, hblock2, hbeyond.block]
    refine wpa_mono (wpa_healNftablesCall (t := t3) (by rw [hnft]; exact hfit.owner)
      (by rw [hnft, hblock]; exact hleft.block)) ?_
    rintro failed4 t4 w4 rfl
    rw [wpa_ite]
    refine ⟨fun hfailed => Bool.noConfusion hfailed, fun _ => ?_⟩
    refine wpa_mono wpa_healRemove ?_
    rintro failed5 t5 w5 rfl
    simp [hhold]

theorem wpa_healRestore (hstate : t.state = .active ∨ t.state = .recoveryRequired)
    (hfit : Fit t) (hleft : Leftover device t w.host) :
    (healing t.plan device).wpa restore (fun result t' _ =>
      (result = none ∧ t'.state = .recovered) ↔ t.networkManager.checkpointPath = "" ∨
        w.host.Holds t.networkManager.busOwner t.networkManager.checkpointPath) t w := by
  unfold restore
  rw [wpa_bind, wpa_get, wpa_ite]
  refine ⟨fun hrecovered => ?_, fun _ => ?_⟩
  · rcases hstate with h | h <;> rw [h] at hrecovered <;> cases hrecovered
  rw [wpa_ite]
  refine ⟨fun hother => ?_, fun _ => ?_⟩
  · rcases hstate with h | h <;> simp [h] at hother
  refine wpa_seq (wpa_healRollback hfit hleft) ?_
  rintro failed t1 w1 hheld
  rw [wpa_ite, wpa_bind, wpa_modify, wpa_bind, wpa_modify]
  refine ⟨fun hfailed => ?_, fun hpassed => ?_⟩
  · rw [hfailed] at hheld
    show (some _ = none ∧ _) ↔ _
    simpa using hheld
  · have hhold := hheld.mp (by simpa using hpassed)
    exact ⟨fun _ => hhold, fun _ => ⟨rfl, rfl⟩⟩

end Restoring

/-! ## What every run keeps -/

def FitKept (t t' : Transaction) : Prop := Fit t → Fit t'

instance : IsPreorder Transaction FitKept where
  refl _ := id
  trans _ _ _ h h' := h' ∘ h

/-- Any answers, any calls. -/
abbrev KeepsFit {α : Type} (m : Txn α) : Prop := Moves (fun _ => True) FitKept m

section Keeping

variable {plan : Plan}

theorem parsed_device {output devicePath : String}
    (h : parseNetworkManagerObject output networkManagerDevicePath = .ok devicePath) :
    networkManagerDevicePath devicePath.toList = true := by
  unfold parseNetworkManagerObject at h
  dsimp only at h
  split at h
  · cases h
  · split at h
    · cases h
    · split at h
      · next hpattern =>
          obtain rfl := Except.ok.inj h
          simpa using hpattern
      · cases h

/-- The path of a checkpoint is kept after that of its device was matched. -/
theorem fit_nmCheckpoint (p : NetworkManagerParticipant)
    (h : p.checkpointPath ≠ "" → networkManagerDevicePath p.devicePath.toList = true) :
    (static fun _ : Call => True).wpa (NetworkManagerParticipant.checkpoint plan)
      (fun _ p' _ => p'.checkpointPath ≠ "" →
        networkManagerDevicePath p'.devicePath.toList = true) p () := by
  unfold NetworkManagerParticipant.checkpoint
  rw [wpa_bind, wpa_get, wpa_ite]
  refine ⟨fun _ => h, fun hp => ?_⟩
  refine static_run trivial (fun _ _ => h) fun owner => ?_
  dsimp only
  split
  · rw [wpa_bind, wpa_modify, wpa_ite]
    refine ⟨fun _ => h, fun _ => ?_⟩
    refine static_run trivial (fun _ _ => h) fun device => ?_
    dsimp only
    split
    · exact fun hpath => absurd hpath hp
    · next devicePath hdevice =>
        have hmatched := parsed_device hdevice
        rw [wpa_bind, wpa_modify]
        refine static_run trivial (fun _ _ _ => hmatched) fun output => ?_
        dsimp only
        split
        · exact fun _ => hmatched
        · exact fun _ => hmatched
  · exact h

theorem fit_nm (method : Method) (p : NetworkManagerParticipant)
    (h : p.checkpointPath ≠ "" → networkManagerDevicePath p.devicePath.toList = true) :
    (static fun _ : Call => True).wpa (match method with
      | .checkpoint => NetworkManagerParticipant.checkpoint plan
      | .apply => NetworkManagerParticipant.apply plan
      | .rollback => NetworkManagerParticipant.rollback plan) (fun _ p' _ =>
        p'.checkpointPath ≠ "" → networkManagerDevicePath p'.devicePath.toList = true) p () := by
  cases method with
  | checkpoint => exact fit_nmCheckpoint p h
  | apply =>
    show Contract.wpa _ (NetworkManagerParticipant.apply plan) _ p ()
    unfold NetworkManagerParticipant.apply
    rw [wpa_bind, wpa_get, wpa_ite]
    refine ⟨fun _ => h, fun _ => ?_⟩
    exact static_run trivial (fun _ _ => h) fun _ hpath => absurd rfl hpath
  | rollback =>
    show Contract.wpa _ (NetworkManagerParticipant.rollback plan) _ p ()
    unfold NetworkManagerParticipant.rollback
    rw [wpa_bind, wpa_get, wpa_ite]
    refine ⟨fun _ => h, fun _ => ?_⟩
    refine static_run trivial (fun _ _ => h) fun output => ?_
    dsimp only
    split
    · rw [wpa_ite]
      exact ⟨fun _ => h, fun _ hpath => absurd rfl hpath⟩
    · exact h

/-- The table is announced after the owner's token was matched. -/
theorem fit_nft (method : Method) (p : NftablesParticipant)
    (h : p.dirty = true → ownerTokenPattern p.owner = true) :
    (static fun _ : Call => True).wpa (match method with
      | .checkpoint => NftablesParticipant.checkpoint plan
      | .apply => NftablesParticipant.apply plan
      | .rollback => NftablesParticipant.rollback plan) (fun _ p' _ =>
        p'.dirty = true → ownerTokenPattern p'.owner = true) p () := by
  cases method with
  | checkpoint =>
    show Contract.wpa _ (NftablesParticipant.checkpoint plan) _ p ()
    unfold NftablesParticipant.checkpoint
    rw [wpa_bind, wpa_get, wpa_ite]
    refine ⟨fun _ => h, fun _ => ?_⟩
    refine wpa_seq (NftablesParticipant.static_tablePresent fun _ _ => trivial) ?_
    rintro (_ | _ | _) p' g rfl <;> exact h
  | apply =>
    show Contract.wpa _ (NftablesParticipant.apply plan) _ p ()
    unfold NftablesParticipant.apply
    rw [wpa_bind, wpa_get, wpa_ite]
    refine ⟨fun _ => h, fun _ => ?_⟩
    rw [wpa_ite]
    refine ⟨fun _ => h, fun hpattern => ?_⟩
    have howner : ownerTokenPattern p.owner = true := by simpa using hpattern
    refine static_run trivial (fun _ _ => h) fun _ => ?_
    dsimp only
    rw [wpa_bind, wpa_modify]
    exact static_run trivial (fun _ _ _ => howner) fun _ _ => howner
  | rollback =>
    show Contract.wpa _ (NftablesParticipant.rollback plan) _ p ()
    unfold NftablesParticipant.rollback
    rw [wpa_bind, wpa_get, wpa_ite]
    refine ⟨fun _ => h, fun _ => ?_⟩
    refine wpa_seq (NftablesParticipant.static_tablePresent fun _ _ => trivial) ?_
    rintro (message | present) p' g rfl
    · exact h
    cases present with
    | false => exact nofun
    | true =>
      dsimp only
      refine wpa_seq (NftablesParticipant.static_verifyOwner fun _ _ => trivial) ?_
      rintro (_ | message) p' g rfl
      · refine static_run trivial (fun _ _ => h) fun _ => ?_
        exact static_run trivial (fun _ _ => h) fun _ => nofun
      · exact h

/-- Without obligations there is always something to say. -/
theorem static_any {σ α : Type} (m : Act Net σ α) (s : σ) :
    (static fun _ : Call => True).wpa m (fun _ _ _ => True) s () := by
  refine wpa_of_kept (J := fun _ => True) (fun g e _ _ => ?_) trivial
  exact ⟨(trivial : (fun _ : Call => True) e.call), trivial⟩

theorem keepsFit_of {α : Type} {m : Txn α} (h : ∀ t, Fit t →
      (static fun _ : Call => True).wpa m (fun _ t' _ => Fit t') t ()) : KeepsFit m := by
  intro t
  by_cases hfit : Fit t
  · exact wpa_mono (h t hfit) fun _ _ _ hfit' _ => hfit'
  · exact wpa_mono (static_any m t) fun _ _ _ _ hfit' => absurd hfit' hfit

theorem keepsFit_body (sub : Subsystem) (method : Method) :
    KeepsFit (participantBody sub method plan) := by
  refine keepsFit_of fun t h => ?_
  unfold participantBody
  cases sub with
  | networkManager =>
    exact wpa_zoom.mpr (wpa_mono (fit_nm method _ h.device) fun _ _ _ hd => ⟨hd, h.owner⟩)
  | resolved =>
    exact wpa_zoom.mpr (wpa_mono (static_any _ _) fun _ _ _ _ => ⟨h.device, h.owner⟩)
  | nftables =>
    exact wpa_zoom.mpr (wpa_mono (fit_nft method _ h.owner) fun _ _ _ ho => ⟨h.device, ho⟩)
  | routes =>
    exact wpa_zoom.mpr (wpa_mono (static_any _ _) fun _ _ _ _ => ⟨h.device, h.owner⟩)

theorem keepsFit_call (sub : Subsystem) (method : Method) :
    KeepsFit (participantCall sub method plan) := by
  unfold participantCall
  exact .bind .get fun _ => .bind (.perform trivial) fun _ => .bind (keepsFit_body sub method)
    fun _ => .bind (.perform trivial) fun _ => .pure _

theorem keepsFit_record (stage : Method) (sub : Subsystem) (result : RecordResult) :
    KeepsFit (record stage sub result) := by
  unfold record
  exact .bind .get fun _ => .perform trivial

theorem keepsFit_saveState (state : RecoveryState) : KeepsFit (saveState state) := by
  unfold saveState save
  exact .bind (.modify fun _ h => ⟨h.device, h.owner⟩) fun _ => .perform trivial

theorem keepsFit_saveRecovery : KeepsFit saveRecovery := by
  unfold saveRecovery
  refine .bind .get fun t => ?_
  cases t.recovery with
  | none => exact .pure _
  | some log => exact keepsFit_saveState _

theorem keepsFit_modify {f : Transaction → Transaction}
    (h : ∀ t, (f t).networkManager = t.networkManager ∧ (f t).nftables = t.nftables) :
    KeepsFit (modify f) := by
  refine .modify fun t hfit => ?_
  obtain ⟨hnm, hnft⟩ := h t
  exact ⟨by rw [hnm]; exact hfit.device, by rw [hnft]; exact hfit.owner⟩

theorem keepsFit_beforeApply (sub : Subsystem) : KeepsFit (beforeApply sub) := by
  unfold beforeApply
  refine .bind .get fun t => ?_
  cases t.recovery with
  | none => exact .pure _
  | some log => exact keepsFit_saveState _

theorem keepsFit_beginRecovery : KeepsFit (beginRecovery plan) := by
  unfold beginRecovery
  refine .bind .get fun t => ?_
  cases t.recovery with
  | none => exact .pure _
  | some log => exact keepsFit_saveState _

theorem keepsFit_recordStartedLink : KeepsFit recordStartedLink := by
  unfold recordStartedLink
  refine .bind .get fun t => ?_
  cases t.recovery with
  | none => exact .pure _
  | some log =>
    refine .bind (.perform trivial) fun found => ?_
    rcases found with message | index
    · exact .pure _
    · exact keepsFit_saveState _

theorem keepsFit_checkpoint (sub : Subsystem) : KeepsFit (checkpoint sub) := by
  unfold checkpoint
  refine .bind .get fun t => .bind (keepsFit_call sub .checkpoint) fun r => ?_
  cases r with
  | some error => exact .bind (keepsFit_record _ _ _) fun _ => .pure _
  | none =>
    refine .bind keepsFit_saveRecovery fun saved => ?_
    cases saved with
    | some error => exact .pure _
    | none => exact keepsFit_record _ _ _

theorem keepsFit_apply (sub : Subsystem) : KeepsFit (apply sub) := by
  unfold apply
  refine .bind (keepsFit_beforeApply sub) fun ready => ?_
  cases ready with
  | some error => exact .pure _
  | none =>
    refine .bind .get fun t => .bind (keepsFit_call sub .apply) fun r => ?_
    cases r with
    | some error => exact .bind (keepsFit_record _ _ _) fun _ => .pure _
    | none =>
      refine .bind keepsFit_saveRecovery fun saved => ?_
      cases saved with
      | some error => exact .pure _
      | none => exact keepsFit_record _ _ _

theorem keepsFit_rollbackOwners (subs : List Subsystem) :
    ∀ failed, KeepsFit (rollbackOwners plan subs failed) := by
  induction subs with
  | nil => exact fun failed => .pure _
  | cons sub rest ih =>
    intro failed
    rw [rollbackOwners]
    refine .bind .get fun t => .ite (ih failed) ?_
    refine .bind (keepsFit_call sub .rollback) fun r => ?_
    cases r with
    | some error => exact .bind (keepsFit_record _ _ _) fun _ => ih true
    | none =>
      exact .bind (keepsFit_record _ _ _) fun _ => .bind keepsFit_saveRecovery fun _ => ih _

theorem keepsFit_rollback : KeepsFit (rollback plan) := by
  unfold rollback
  refine .bind (keepsFit_rollbackOwners _ _) fun _ => .ite (.pure _) ?_
  have hroutes : KeepsFit (rollbackRoutes plan) := by
    unfold rollbackRoutes
    refine .bind .get fun t => .ite (.pure _) (.bind (keepsFit_call .routes .rollback) fun r => ?_)
    cases r with
    | some error => exact .bind (keepsFit_record _ _ _) fun _ => .pure _
    | none =>
      refine .bind keepsFit_saveRecovery fun saved => ?_
      cases saved with
      | some error => exact .pure _
      | none => exact .bind (keepsFit_record _ _ _) fun _ => .pure _
  have hstop : KeepsFit stopCore := by
    unfold stopCore
    refine .bind .get fun t => .ite (.pure _) (.bind (.perform trivial) fun stopped => ?_)
    cases stopped with
    | some error => exact .pure _
    | none => exact .bind (keepsFit_modify fun _ => ⟨rfl, rfl⟩) fun _ => .pure _
  have hnftables : KeepsFit (rollbackNftables plan) := by
    unfold rollbackNftables
    refine .bind .get fun t => .ite (.pure _)
      (.bind (keepsFit_call .nftables .rollback) fun r => ?_)
    cases r with
    | some error => exact .bind (keepsFit_record _ _ _) fun _ => .pure _
    | none =>
      refine .bind (keepsFit_record _ _ _) fun recorded => ?_
      cases recorded with
      | some error => exact .pure _
      | none => exact .bind keepsFit_saveRecovery fun _ => .pure _
  have hremove : KeepsFit removeRecovery := by
    unfold removeRecovery remove
    refine .bind .get fun t => ?_
    cases t.recovery with
    | none => exact .pure _
    | some log => exact .bind (.bind (.perform trivial) fun _ => .pure _) fun _ => .pure _
  exact .bind hroutes fun _ => .ite (.pure _) (.bind hstop fun _ => .ite (.pure _)
    (.bind hnftables fun _ => .ite (.pure _) hremove))

theorem keepsFit_fail (stage : Stage) (subsystem : Option Subsystem) :
    KeepsFit (fail plan stage subsystem) := by
  unfold fail setFailureState
  exact .bind keepsFit_rollback fun _ => .bind (keepsFit_modify fun _ => ⟨rfl, rfl⟩)
    fun _ => .pure _

theorem keepsFit_runSteps (steps : List (Txn GoError × Stage × Option Subsystem))
    (h : ∀ step ∈ steps, KeepsFit step.1) : KeepsFit (runSteps plan steps) := by
  induction steps with
  | nil => exact .pure _
  | cons step rest ih =>
    obtain ⟨m, stage, subsystem⟩ := step
    refine .bind (h _ List.mem_cons_self) fun r => ?_
    cases r with
    | some error => exact keepsFit_fail stage subsystem
    | none => exact ih fun step hmem => h step (List.mem_cons_of_mem _ hmem)

theorem keepsFit_executeSteps : ∀ step ∈ executeSteps plan, KeepsFit step.1 := by
  simp only [executeSteps, List.forall_mem_cons, List.not_mem_nil, false_imp_iff, implies_true,
    and_true]
  refine ⟨keepsFit_beginRecovery, keepsFit_checkpoint _, keepsFit_checkpoint _, keepsFit_apply _,
    ?_, keepsFit_recordStartedLink, keepsFit_apply _, keepsFit_checkpoint _, keepsFit_checkpoint _,
    keepsFit_apply _, keepsFit_apply _⟩
  unfold coreStart
  exact .bind .get fun _ => .perform trivial

theorem keepsFit_request (request : Request) : KeepsFit request.run := by
  cases request with
  | execute plan core =>
    show KeepsFit (execute plan core)
    unfold execute
    refine .ite (.pure _) (.bind .get fun t => .ite (.pure _) (.ite (.pure _) ?_))
    refine .bind (keepsFit_modify fun _ => ⟨rfl, rfl⟩) fun _ => ?_
    refine .bind (keepsFit_runSteps _ keepsFit_executeSteps) fun r => ?_
    cases r with
    | some error => exact .pure _
    | none => exact .bind (keepsFit_modify fun _ => ⟨rfl, rfl⟩) fun _ => .pure _
  | restore =>
    show KeepsFit restore
    unfold restore
    refine .bind .get fun t => .ite (.pure _) (.ite (.pure _) ?_)
    exact .bind keepsFit_rollback fun failed => .ite
      (.bind (keepsFit_modify fun _ => ⟨rfl, rfl⟩) fun _ => .pure _)
      (.bind (keepsFit_modify fun _ => ⟨rfl, rfl⟩) fun _ => .pure _)

theorem keepsFit_session (requests : List Request) : KeepsFit (session requests) := by
  induction requests with
  | nil => exact .pure _
  | cons request rest ih => exact .bind (keepsFit_request request) fun _ => ih

end Keeping

theorem newSystemTransaction_fit {recorder : Recorder} {previous : Option RecoveryState}
    {bootID token : String} {t : Transaction}
    (h : newSystemTransaction recorder previous bootID token = some t) : Fit t := by
  unfold newSystemTransaction at h
  obtain ⟨log, -, h⟩ := Option.bind_eq_some_iff.mp h
  obtain ⟨t1, hnew, h⟩ := Option.bind_eq_some_iff.mp h
  obtain rfl : { t1 with recovery := some log } = t := by simpa using h
  unfold newTransaction at hnew
  split_ifs at hnew
  obtain rfl := Option.some.inj hnew
  exact ⟨fun hpath => absurd rfl hpath, nofun⟩

/-- **When a restore completes.** Take any history of a transaction that has
to be restored, and a healthy host on which what it owns is there or gone. Its
`Restore` returns nil, and leaves it recovered, exactly if no checkpoint is
pending or NetworkManager still holds the one that is. -/
theorem restore_completes_iff {recorder : Recorder} {previous : Option RecoveryState}
    {bootID token : String} {requests : List Request} {t₀ t t' : Transaction}
    {history tr : List (Event Net)} {device : String → String} {w : World}
    {result : Option TransactionError}
    (hnew : newSystemTransaction recorder previous bootID token = some t₀)
    (hreach : Steps (session requests t₀) history (.ret ((), t)))
    (hstate : t.state = .active ∨ t.state = .recoveryRequired)
    (hleft : Leftover device t w.host)
    (hrun : Steps (restore t) tr (.ret (result, t')))
    (hhealthy : (healing t.plan device).Relied w tr) :
    (result = none ∧ t'.state = .recovered) ↔
      t.networkManager.checkpointPath = "" ∨
        w.host.Holds t.networkManager.busOwner t.networkManager.checkpointPath := by
  have hfit : Fit t := by
    have hkept : (static fun _ : Call => True).wpa (session requests)
        (fun _ t' _ => FitKept t₀ t') t₀ () := keepsFit_session requests t₀
    have hend := (wp_steps _ hkept hreach (along_of_forall _ (fun _ _ => trivial) () history)).2
    exact hend (newSystemTransaction_fit hnew)
  exact ((healing t.plan device).wp_steps (wpa_healRestore hstate hfit hleft) hrun hhealthy).2

/-! ## A host on which nothing is left -/

/-- What a restore asks of such a host, and the answers. -/
def settledAnswer (e : Event Net) : Bool :=
  match e with
  | ⟨.run name _ _, .output _⟩ => name = "resolvectl" || clearAnswer e
  | ⟨.coreStop, r⟩ => Option.isNone (α := String) r
  | ⟨.write _, r⟩ => Option.isNone (α := String) r
  | e => clearAnswer e

theorem truthful_resolvectl (plan : Plan) (h : Host) (arguments : List String)
    (input : Option String) (text : String) :
    Truthful plan h "resolvectl" arguments input text :=
  ⟨fun hn => absurd hn (by decide), fun hn => absurd hn (by decide),
    fun hn => absurd hn (by decide), fun _ _ hn => absurd hn (by decide),
    fun _ _ hn => absurd hn (by decide), fun _ hn => absurd hn (by decide),
    fun _ hn => absurd hn (by decide), fun _ _ hn => absurd hn (by decide)⟩

theorem settledAnswer_healthy {plan : Plan} {device : String → String} {w : World} {e : Event Net}
    (hw : w.host = emptyHost) (he : settledAnswer e = true) :
    w.Healthy plan device e ∧ (w.healed plan e).host = emptyHost := by
  obtain ⟨c, r⟩ := e
  cases c with
  | run name arguments input =>
    cases r with
    | failed message applied => cases he
    | output text =>
      simp only [settledAnswer, Bool.or_eq_true, decide_eq_true_eq] at he
      rcases he with rfl | he
      · refine ⟨⟨truthful_resolvectl _ _ _ _ _, fun _ _ hn => absurd hn (by decide)⟩, ?_⟩
        simp [World.healed, Host.effect, Host.consumed, hw]
      · have hclear : w.Rely plan .none _ ∧ _ := clearAnswer_rely hw he
        obtain ⟨hrely, hhost⟩ := hclear
        have hname : name ≠ "busctl" := by
          rintro rfl
          simp [clearAnswer] at he
        rw [healed_other hname]
        exact ⟨⟨hrely, fun _ _ hbus => absurd hbus hname⟩, hhost⟩
  | save state =>
    cases r with
    | done => exact ⟨rfl, hw⟩
    | failed message landed => cases he
  | remove =>
    cases r with
    | done => exact ⟨rfl, hw⟩
    | failed message landed => cases he
  | coreStop => exact ⟨Option.isNone_iff_eq_none.mp he, hw⟩
  | write event => exact ⟨Option.isNone_iff_eq_none.mp he, hw⟩
  | leave sub method error => cases method <;> cases error <;> exact ⟨trivial, hw⟩
  | coreStart pending => exact ⟨trivial, hw⟩
  | linkIndex name => exact ⟨trivial, hw⟩
  | enter sub method pending => exact ⟨trivial, hw⟩

theorem healthy_of_settled (plan : Plan) (device : String → String) (w : World)
    {tr : List (Event Net)} (hw : w.host = emptyHost) (htr : tr.all settledAnswer = true) :
    (healing plan device).Relied w tr := by
  induction tr generalizing w with
  | nil => trivial
  | cons e tr ih =>
    simp only [List.all_cons, Bool.and_eq_true] at htr
    have hfirst : w.Healthy plan device e ∧ (w.healed plan e).host = emptyHost :=
      settledAnswer_healthy hw htr.1
    exact ⟨hfirst.1, ih _ hfirst.2 htr.2⟩

/-- The tunnel is up, and everything the transaction made disappears. -/
def activeExecute := (session [.execute samplePlan true] systemTransaction).play (plainHost true) []

def activeRestore := (restore activeExecute.2.2).play (plainHost true) []

theorem activeRestore_completes :
    activeRestore.2.1 = none ∧ activeRestore.2.2.state = .recovered := by
  have hexecute : Steps (session [.execute samplePlan true] systemTransaction) activeExecute.1
      (.ret activeExecute.2) := by
    unfold activeExecute
    exact steps_play (I := Net) (plainHost true)
      (session [.execute samplePlan true] systemTransaction) []
  have hunit : ∀ {tr : List (Event Net)} {end₀ : Unit × Transaction},
      Steps (session [.execute samplePlan true] systemTransaction) tr (.ret end₀) →
      Steps (session [.execute samplePlan true] systemTransaction) tr (.ret ((), end₀.2)) := id
  obtain ⟨tr, htrace⟩ : ∃ tr, activeRestore.1 = tr := ⟨_, rfl⟩
  obtain ⟨hactive, hcommitted, hsettled⟩ : activeExecute.2.2.state = .active ∧
      activeExecute.2.2.networkManager.checkpointPath = "" ∧
      activeRestore.1.all settledAnswer = true := by
    decide +kernel
  have hrestore : Steps (restore activeExecute.2.2) activeRestore.1
      (.ret (activeRestore.2.1, activeRestore.2.2)) := by
    unfold activeRestore
    exact steps_play_pair (I := Net) (plainHost true) (restore activeExecute.2.2)
  rw [htrace] at hrestore hsettled
  have hleft : Leftover (fun _ => "") activeExecute.2.2 emptyHost := by
    refine ⟨fun _ comment hblock => ?_, fun _ _ _ => .inl rfl, fun hpath => ?_⟩
    · cases hblock
    · exact absurd hcommitted hpath
  have hhealthy : (healing activeExecute.2.2.plan fun _ => "").Relied
      ⟨emptyHost, some systemRecord, fun _ => false⟩ tr :=
    healthy_of_settled _ _ _ rfl hsettled
  have hnew : newSystemTransaction sampleRecorder none sampleBoot sampleToken =
      some systemTransaction := rfl
  exact (restore_completes_iff hnew (hunit hexecute) (.inl hactive) hleft hrestore hhealthy).mpr
    (.inl hcommitted)

/-! ## A checkpoint that is gone -/

/-- NetworkManager destroys the checkpoint and its answer is lost; from then on
it knows no such checkpoint. -/
def lostAnswer (seen : List (Event Net)) : (c : Call) → c.Answer
  | .run name arguments input =>
    if arguments[6]? = some "CheckpointDestroy" then RunResult.failed "signal: killed" true
    else if arguments[6]? = some "CheckpointRollback" then
      RunResult.failed "exit status 1" false
    else plainHost true seen (.run name arguments input)
  | c => plainHost true seen c

def lostExecute := (session [.execute samplePlan true] systemTransaction).play lostAnswer []

def lostRestore := (restore lostExecute.2.2).play lostAnswer []

def lostDevice : String := "/org/freedesktop/NetworkManager/Devices/3"

def lostCheckpoint : String := "/org/freedesktop/NetworkManager/Checkpoint/1"

def lostTrace : List (Event Net) :=
  [⟨.enter .networkManager .rollback ⟨true, true, false, true, true⟩, ()⟩,
    ⟨.run "busctl" (checkpointRollback ":1.7" lostCheckpoint) none,
      RunResult.failed "exit status 1" false⟩,
    ⟨.leave .networkManager .rollback (some "network manager rollback failed"), ()⟩,
    ⟨.write (sampleRecorder.event .rollback .networkManager .failed), (none : GoError)⟩]

/-- It is the truth that a rollback of what is not there fails. -/
theorem refused_rollback {plan : Plan} {w : World} (hgone : w.host.checkpoints = [])
    (owner path message : String) : w.Healthy plan (fun _ => lostDevice)
      ⟨.run "busctl" (checkpointRollback owner path) none, RunResult.failed message false⟩ := by
  have hcall : ∀ arguments : List String, arguments[6]? ≠ some "CheckpointRollback" →
      checkpointRollback owner path ≠ arguments := by
    rintro arguments hother rfl
    exact hother rfl
  refine ⟨⟨⟨fun h => absurd h.1 (by decide), fun h => absurd h (by decide),
    fun h => absurd h (by decide), fun _ _ h => absurd h.1 (by decide),
    fun _ _ h => absurd h (by decide), fun _ h => absurd h.2 (hcall _ (by simp [nameHasOwner])),
    fun _ _ h => absurd h (hcall _ (by simp [getCheckpoints])), fun _ _ _ _ h => ?_⟩, rfl⟩,
    by decide, fun _ _ _ _ h => ?_⟩
  · exact absurd h.2 (by simp [hgone])
  · exact absurd h.2 (by simp [hgone])

/-- The destroyed checkpoint stands in the way of every later `Restore`, though
nothing on the host is wrong. -/
theorem restore_blocked_by_lost_checkpoint :
    newSystemTransaction sampleRecorder none sampleBoot sampleToken = some systemTransaction ∧
    Steps (session [.execute samplePlan true] systemTransaction) lostExecute.1
      (.ret ((), lostExecute.2.2)) ∧
    lostExecute.2.2.state = .recoveryRequired ∧
    Leftover (fun _ => lostDevice) lostExecute.2.2 emptyHost ∧
    Steps (restore lostExecute.2.2) lostTrace (.ret (lostRestore.2.1, lostRestore.2.2)) ∧
    (healing lostExecute.2.2.plan fun _ => lostDevice).Relied
      ⟨emptyHost, some systemRecord, fun _ => false⟩ lostTrace ∧
    lostRestore.2.1 = some (.failure { stage := .rollback, rollbackFailed := true }) ∧
    lostRestore.2.2.state = .recoveryRequired := by
  have hunit : ∀ {tr : List (Event Net)} {end₀ : Unit × Transaction},
      Steps (session [.execute samplePlan true] systemTransaction) tr (.ret end₀) →
      Steps (session [.execute samplePlan true] systemTransaction) tr (.ret ((), end₀.2)) := id
  have hexecute : Steps (session [.execute samplePlan true] systemTransaction) lostExecute.1
      (.ret lostExecute.2) := by
    unfold lostExecute
    exact steps_play (I := Net) lostAnswer (session [.execute samplePlan true] systemTransaction) []
  obtain ⟨htrace, hstate, hdevice, hresult, hblocked⟩ : lostRestore.1 = lostTrace ∧
      lostExecute.2.2.state = .recoveryRequired ∧
      lostDevice = lostExecute.2.2.networkManager.devicePath ∧
      lostRestore.2.1 = some (.failure { stage := .rollback, rollbackFailed := true }) ∧
      lostRestore.2.2.state = .recoveryRequired := by
    decide +kernel
  have hrestore : Steps (restore lostExecute.2.2) lostRestore.1
      (.ret (lostRestore.2.1, lostRestore.2.2)) := by
    unfold lostRestore
    exact steps_play_pair (I := Net) lostAnswer (restore lostExecute.2.2)
  rw [htrace] at hrestore
  have hleft : Leftover (fun _ => lostDevice) lostExecute.2.2 emptyHost := by
    refine ⟨fun _ comment hblock => ?_, fun _ _ _ => .inl rfl, fun _ => hdevice⟩
    cases hblock
  have hhealthy : (healing lostExecute.2.2.plan fun _ => lostDevice).Relied
      ⟨emptyHost, some systemRecord, fun _ => false⟩ lostTrace :=
    ⟨trivial, refused_rollback rfl ":1.7" lostCheckpoint "exit status 1", trivial, rfl, trivial⟩
  exact ⟨rfl, hunit hexecute, hstate, hleft, hrestore, hhealthy, hresult, hblocked⟩

end Pokrov.Linux.Network
