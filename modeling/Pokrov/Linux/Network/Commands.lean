import Pokrov.Linux.Network.Transaction

/-!
# What each participant method may do

Commands are sorted by the owner whose host state they touch and by whether
they only read. Each participant method then gets one specification: which
commands it may issue, and what its memory says afterwards. Nothing is assumed
about the answers.
-/

namespace Pokrov.Linux.Network

open Effects Contract

/-! ## Commands -/

/-- The owner of the host state a command works on. -/
def commandOwner (name : String) : Option Subsystem :=
  if name = "nft" then some .nftables
  else if name = "ip" then some .routes
  else if name = "resolvectl" then some .resolved
  else if name = "busctl" then some .networkManager
  else none

/-- Commands that leave the host as it is: `nft --json list` and `nft --check`,
`ip -N -j`, `resolvectl status`, and on the bus property reads and lookups.
Whatever is not listed here counts as a change. -/
def readOnly (name : String) (arguments : List String) : Bool :=
  if name = "nft" then
    arguments.head? = some "--check" || arguments.take 2 = ["--json", "list"]
  else if name = "ip" then arguments.take 2 = ["-N", "-j"]
  else if name = "resolvectl" then arguments.head? = some "status"
  else if name = "busctl" then
    arguments[2]? = some "get-property" ||
      arguments[2]? = some "call" &&
        (arguments[6]? = some "GetNameOwner" || arguments[6]? = some "NameHasOwner" ||
          arguments[6]? = some "GetDeviceByIpIface")
  else false

/-- The owner whose state a command may change. -/
def mutates (name : String) (arguments : List String) : Option Subsystem :=
  if readOnly name arguments then none else commandOwner name

/-- Commands a method of `subsystem` may issue; a quiet method only reads. -/
def Runs (subsystem : Subsystem) (quiet : Bool) (c : Call) : Prop :=
  ∃ name arguments input, c = .run name arguments input ∧
    (mutates name arguments = none ∨ quiet = false ∧ mutates name arguments = some subsystem)

section Runs

variable {subsystem : Subsystem} {quiet : Bool} {arguments : List String}
  {input : Option String}

theorem runs_readOnly {name : String} (h : readOnly name arguments = true) :
    Runs subsystem quiet (.run name arguments input) :=
  ⟨name, arguments, input, rfl, .inl (by simp [mutates, h])⟩

theorem runs_own {name : String} (h : commandOwner name = some subsystem) :
    Runs subsystem false (.run name arguments input) := by
  refine ⟨name, arguments, input, rfl, ?_⟩
  unfold mutates
  split
  · exact .inl rfl
  · exact .inr ⟨rfl, h⟩

theorem runs_of_quiet {c : Call} (h : Runs subsystem true c) : Runs subsystem quiet c := by
  obtain ⟨name, arguments, input, rfl, hm | ⟨hq, _⟩⟩ := h
  · exact ⟨name, arguments, input, rfl, .inl hm⟩
  · cases hq

end Runs

/-- One command, whatever comes back. -/
theorem static_run {σ α : Type} {P : Call → Prop} {name : String} {arguments : List String}
    {input : Option String} {k : RunResult → Act Net σ α} {Q : α → σ → Unit → Prop} {s : σ}
    (hP : P (.run name arguments input))
    (hfail : ∀ message applied, (static P).wpa (k (.failed message applied)) Q s ())
    (hout : ∀ text, (static P).wpa (k (.output text)) Q s ()) :
    (static P).wpa (I := Net) (run name arguments input >>= k) Q s () := by
  rw [wpa_bind]
  intro r _
  refine ⟨hP, ?_⟩
  cases r with
  | failed message applied => exact hfail message applied
  | output text => exact hout text

/-! ## systemd-resolved -/

namespace ResolvedParticipant

variable {plan : Plan} {p : ResolvedParticipant}

theorem static_checkpoint :
    (static (Runs .resolved true)).wpa (checkpoint plan) (fun _ p' _ => p' = p) p () := by
  unfold checkpoint
  rw [wpa_bind, wpa_get, wpa_ite]
  refine ⟨fun _ => rfl, fun _ => ?_⟩
  exact static_run (runs_readOnly rfl) (fun _ _ => rfl) (fun _ => rfl)

theorem static_applyOne (arguments : List String) (h : p.dirty = true) :
    (static (Runs .resolved false)).wpa (applyOne arguments)
      (fun _ p' _ => p'.dirty = true) p () :=
  static_run (runs_own rfl) (fun _ _ => h) (fun _ => h)

theorem static_apply :
    (static (Runs .resolved false)).wpa (apply plan) (fun _ p' _ => p'.dirty = true) p () := by
  unfold apply
  rw [wpa_bind, wpa_get, wpa_ite]
  refine ⟨fun h => h, fun _ => ?_⟩
  rw [wpa_bind, wpa_modify]
  refine wpa_mono (wpa_untilError (J := fun _ p' _ => p'.dirty = true)
    (Q := fun _ p' _ => p'.dirty = true) _ ?_ _ _ rfl) ?_
  · intro arguments rest s g h
    refine wpa_mono (static_applyOne arguments h) ?_
    rintro (_ | e) s' g' h' <;> exact h'
  · rintro (_ | e) s' g' h' <;> exact h'

theorem static_rollback :
    (static (Runs .resolved false)).wpa (rollback plan)
      (fun r p' _ => p'.dirty = (p.dirty && r.isSome)) p () := by
  unfold rollback
  rw [wpa_bind, wpa_get, wpa_ite]
  refine ⟨fun h => ?_, fun h => ?_⟩
  · simp_all
  · have hdirty : p.dirty = true := by simpa using h
    exact static_run (runs_own rfl) (fun _ _ => by simp [hdirty]) (fun _ => by simp)

end ResolvedParticipant

/-! ## nftables -/

namespace NftablesParticipant

variable {plan : Plan} {p : NftablesParticipant} {P : Call → Prop}

theorem static_tablePresent (hP : ∀ c, Runs .nftables true c → P c) :
    (static P).wpa tablePresent (fun _ p' _ => p' = p) p () :=
  static_run (hP _ (runs_readOnly rfl)) (fun _ _ => rfl) (fun _ => rfl)

theorem static_verifyOwner (hP : ∀ c, Runs .nftables true c → P c) :
    (static P).wpa verifyOwner (fun _ p' _ => p' = p) p () := by
  refine static_run (hP _ (runs_readOnly rfl)) (fun _ _ => rfl) (fun text => ?_)
  dsimp only
  split
  · exact wpa_pure.mpr rfl
  · rw [wpa_bind, wpa_get, wpa_ite]
    exact ⟨fun _ => rfl, fun _ => rfl⟩

theorem static_checkpoint :
    (static (Runs .nftables true)).wpa (checkpoint plan) (fun _ p' _ => p' = p) p () := by
  unfold checkpoint
  rw [wpa_bind, wpa_get, wpa_ite]
  refine ⟨fun _ => rfl, fun _ => ?_⟩
  refine wpa_seq (static_tablePresent fun _ h => h) ?_
  rintro (_ | _ | _) p' g h <;> exact h

theorem static_rollback :
    (static (Runs .nftables false)).wpa (rollback plan)
      (fun r p' _ => p'.dirty = (p.dirty && r.isSome)) p () := by
  unfold rollback
  rw [wpa_bind, wpa_get, wpa_ite]
  refine ⟨fun h => by simp_all, fun h => ?_⟩
  have hdirty : p.dirty = true := by simpa using h
  refine wpa_seq (static_tablePresent fun _ => runs_of_quiet) ?_
  rintro (message | present) p' g rfl
  · simp [hdirty]
  cases present with
  | false => simp
  | true =>
    dsimp only
    refine wpa_seq (static_verifyOwner fun _ => runs_of_quiet) ?_
    rintro (_ | message) p' g rfl
    · refine static_run (runs_own rfl) (fun _ _ => by simp [hdirty]) (fun _ => ?_)
      exact static_run (runs_own rfl) (fun _ _ => by simp [hdirty]) (fun _ => by simp)
    · simp [hdirty]

end NftablesParticipant

/-! ## Policy routes -/

namespace RouteParticipant

variable {plan : Plan} {p : RouteParticipant} {P : Call → Prop}

theorem static_list (hP : ∀ c, Runs .routes true c → P c) (family : Family)
    (kind : RouteKind) :
    (static P).wpa (list family kind) (fun _ p' _ => p' = p) p () := by
  refine static_run (hP _ (runs_readOnly rfl)) (fun _ _ => rfl) (fun text => ?_)
  dsimp only
  split <;> exact wpa_pure.mpr rfl

theorem static_checkpointFamily (family : Family) :
    (static (Runs .routes true)).wpa (checkpointFamily family) (fun _ p' _ => p' = p) p () := by
  unfold checkpointFamily
  refine wpa_seq (static_list (fun _ h => h) family .rule) ?_
  rintro (message | rules) p' g rfl
  · rfl
  · dsimp only
    rw [wpa_ite]
    refine ⟨fun _ => rfl, fun _ => ?_⟩
    refine wpa_seq (static_list (fun _ h => h) family .route) ?_
    rintro (message | routes) p' g rfl
    · rfl
    · dsimp only
      rw [wpa_ite]
      exact ⟨fun _ => rfl, fun _ => rfl⟩

theorem static_checkpoint :
    (static (Runs .routes true)).wpa (checkpoint plan) (fun _ p' _ => p' = p) p () := by
  refine wpa_mono (wpa_untilError (J := fun _ p' _ => p' = p) (Q := fun _ p' _ => p' = p)
    families ?_ p () rfl) ?_
  · rintro family rest s g rfl
    refine wpa_mono (static_checkpointFamily family) ?_
    rintro (_ | e) s' g' h' <;> exact h'
  · rintro (_ | e) s' g' h' <;> exact h'

theorem static_applyFamily (family : Family) :
    (static (Runs .routes false)).wpa (applyFamily plan family) (fun _ p' _ => p' = p) p () := by
  refine static_run (runs_own rfl) (fun _ _ => rfl) (fun _ => ?_)
  exact static_run (runs_own rfl) (fun _ _ => rfl) (fun _ => rfl)

theorem static_apply :
    (static (Runs .routes false)).wpa (apply plan) (fun _ p' _ => p'.dirty = true) p () := by
  unfold apply
  rw [wpa_bind, wpa_modify]
  refine wpa_mono (wpa_untilError (J := fun _ p' _ => p'.dirty = true)
    (Q := fun _ p' _ => p'.dirty = true) families ?_ _ _ rfl) ?_
  · intro family rest s g h
    refine wpa_mono (static_applyFamily family) ?_
    rintro (_ | e) s' g' rfl <;> exact h
  · rintro (_ | e) s' g' h' <;> exact h'

theorem static_rollbackOne (target : Family × RouteKind) :
    (static (Runs .routes false)).wpa (rollbackOne plan target) (fun _ p' _ => p' = p) p () := by
  obtain ⟨family, kind⟩ := target
  unfold rollbackOne
  refine wpa_seq (static_list (fun _ => runs_of_quiet) family kind) ?_
  rintro (message | objects) p' g rfl
  · rfl
  dsimp only
  split
  · exact wpa_pure.mpr rfl
  · rw [wpa_ite]
    refine ⟨fun _ => rfl, fun _ => ?_⟩
    rw [wpa_ite]
    refine ⟨fun _ => ?_, fun _ => rfl⟩
    exact static_run (runs_own rfl) (fun _ _ => rfl) (fun _ => rfl)

theorem static_rollback :
    (static (Runs .routes false)).wpa (rollback plan)
      (fun r p' _ => p'.dirty = (p.dirty && r.isSome)) p () := by
  unfold rollback
  rw [wpa_bind, wpa_get, wpa_ite]
  refine ⟨fun h => by simp_all, fun h => ?_⟩
  have hdirty : p.dirty = true := by simpa using h
  refine wpa_seq (wpa_untilError (J := fun _ p' _ => p' = p) (Q := fun _ p' _ => p' = p)
    rollbackTargets ?_ p () rfl) ?_
  · rintro target rest s g rfl
    refine wpa_mono (static_rollbackOne target) ?_
    rintro (_ | e) s' g' h' <;> exact h'
  · rintro (_ | e) s' g' rfl
    · simp
    · simp [hdirty]

end RouteParticipant

/-! ## NetworkManager -/

namespace NetworkManagerParticipant

variable {plan : Plan} {p : NetworkManagerParticipant}

theorem static_checkpoint :
    (static (Runs .networkManager false)).wpa (checkpoint plan) (fun _ _ _ => True) p () := by
  unfold checkpoint
  rw [wpa_bind, wpa_get, wpa_ite]
  refine ⟨fun _ => trivial, fun _ => ?_⟩
  refine static_run (runs_own rfl) (fun _ _ => trivial) (fun owner => ?_)
  dsimp only
  split
  · rw [wpa_bind, wpa_modify, wpa_ite]
    refine ⟨fun _ => trivial, fun _ => ?_⟩
    refine static_run (runs_own rfl) (fun _ _ => trivial) (fun device => ?_)
    dsimp only
    split
    · trivial
    · rw [wpa_bind, wpa_modify]
      refine static_run (runs_own rfl) (fun _ _ => trivial) (fun output => ?_)
      dsimp only
      split <;> trivial
  · trivial

theorem static_apply :
    (static (Runs .networkManager false)).wpa (apply plan) (fun _ _ _ => True) p () := by
  unfold apply
  rw [wpa_bind, wpa_get, wpa_ite]
  refine ⟨fun _ => trivial, fun _ => ?_⟩
  exact static_run (runs_own rfl) (fun _ _ => trivial) (fun _ => trivial)

/-- A rollback never opens a checkpoint, and a successful one closes it. -/
theorem static_rollback :
    (static (Runs .networkManager false)).wpa (rollback plan)
      (fun r p' _ => p'.pendingRollback = (p.pendingRollback && r.isSome)) p () := by
  unfold rollback
  rw [wpa_bind, wpa_get, wpa_ite]
  refine ⟨fun h => by simp [pendingRollback, h], fun h => ?_⟩
  have hopen : p.pendingRollback = true := by simpa [pendingRollback] using h
  refine static_run (runs_own rfl) (fun _ _ => by simp [hopen]) (fun output => ?_)
  dsimp only
  split
  · rw [wpa_ite]
    refine ⟨fun _ => by simp [hopen], fun _ => ?_⟩
    simp [pendingRollback]
  · simp [hopen]

end NetworkManagerParticipant

end Pokrov.Linux.Network
