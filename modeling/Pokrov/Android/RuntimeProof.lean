import Pokrov.Android.RuntimeState
import Pokrov.Lib.Histories

/-!
# What a snapshot may say of a profile

Whatever the order of the operations, a profile is reported as effective only
after a proof that came since it was bound, and the host as healthy only with a
network, a resolver and that proof, where it is required.
-/

namespace Pokrov.Android

namespace AndroidRuntimeState

/-! ## Runs -/

/-- An operation, with what the platform answers. -/
inductive Operation
  | ensureCompiledTransportCapabilities (read : Option String)
  | resolveEnvironment (packagedCore : Option AndroidPackagedCoreLocation) (filesDir : String)
      (capabilities : Option String)
  | initializeRuntime (packagedCore : Option AndroidPackagedCoreLocation) (filesDir : String)
      (capabilities : Option String) (setup : Option CoreBinding)
  | markProfileStaged (path : String) (preserveConnectionPending : Bool)
      (profileDigest : Option String) (requiresBoundConnect : Bool)
  | invalidateStagedProfile (expectedDigest : Option String)
  | markConnectionRequested
  | recordAwgSafeDiagnostic (diagnostic : AndroidAwgSafeDiagnostic)
  | cancelPendingConnection
  | markPermissionRequested
  | bindActiveProfile (profileDigest : String)
  | markRunning (message now : String)
  | markStopRequested (message stopReason : String)
  | markStopped (message stopReason : String)
  | markStoppedAfterCoreEgressFailure (failureKind message stopReason : String)
  | markFailure (kind message : String) (error : Option Throwable) (startupPhase : Option String)
  | markDegraded (failureKind message : String)
  | markConnectionPending
  | markSystemNotificationWarning
  | clearSystemNotificationWarning
  | recordFailureKind (kind : String)
  | markDnsOperational
  | updateDefaultNetwork (interfaceName : Option String) (interfaceIndex : Option Int)
      (dnsReady : Bool)
  | markDnsTransportFailure (failureKind message : String)
  | updateVpnValidation (validated : Option Bool)
  | updateCoreEgressValidation (validated : Option Bool) (now : String)
  | updateCoreEgressRequirement (required : Bool)
  | recordTunConfiguration (ipv4RouteCount ipv6RouteCount includePackageCount
      excludePackageCount : Int)
  | beginTunnelTrafficSession (generation : Int64)
  | updateTunnelTraffic (generation : Int64) (snapshot : AndroidTunnelTrafficSnapshot)
  | endTunnelTrafficSession (generation : Option Int64)
  | updateLocalDpiObservation (generation : Int64) (summary : Option String)
  | reconcileActiveRuntime (tunEstablished : Bool) (runningMessage : Option String)

variable (lowercase : String → String)

/-- An operation that throws leaves the state. -/
def apply (s : AndroidRuntimeState) : Operation → AndroidRuntimeState
  | .ensureCompiledTransportCapabilities read => s.ensureCompiledTransportCapabilities read
  | .resolveEnvironment core dir capabilities => s.resolveEnvironment core dir capabilities
  | .initializeRuntime core dir capabilities setup => s.initializeRuntime core dir capabilities setup
  | .markProfileStaged path preserve digest bound => s.markProfileStaged path preserve digest bound
  | .invalidateStagedProfile expected => s.invalidateStagedProfile expected
  | .markConnectionRequested => s.markConnectionRequested
  | .recordAwgSafeDiagnostic diagnostic => s.recordAwgSafeDiagnostic diagnostic
  | .cancelPendingConnection => s.cancelPendingConnection
  | .markPermissionRequested => s.markPermissionRequested
  | .bindActiveProfile digest => (s.bindActiveProfile digest).getD s
  | .markRunning message now => s.markRunning message now
  | .markStopRequested message reason => s.markStopRequested message reason
  | .markStopped message reason => s.markStopped lowercase message reason
  | .markStoppedAfterCoreEgressFailure kind message reason =>
    s.markStoppedAfterCoreEgressFailure kind message reason
  | .markFailure kind message error startupPhase => s.markFailure kind message error startupPhase
  | .markDegraded kind message => s.markDegraded kind message
  | .markConnectionPending => s.markConnectionPending
  | .markSystemNotificationWarning => s.markSystemNotificationWarning
  | .clearSystemNotificationWarning => s.clearSystemNotificationWarning
  | .recordFailureKind kind => s.recordFailureKind kind
  | .markDnsOperational => s.markDnsOperational lowercase
  | .updateDefaultNetwork name index ready => s.updateDefaultNetwork lowercase name index ready
  | .markDnsTransportFailure kind message => s.markDnsTransportFailure kind message
  | .updateVpnValidation validated => s.updateVpnValidation validated
  | .updateCoreEgressValidation validated now => s.updateCoreEgressValidation validated now
  | .updateCoreEgressRequirement required => s.updateCoreEgressRequirement required
  | .recordTunConfiguration v4 v6 included excluded => s.recordTunConfiguration v4 v6 included excluded
  | .beginTunnelTrafficSession generation => s.beginTunnelTrafficSession generation
  | .updateTunnelTraffic generation snapshot => s.updateTunnelTraffic generation snapshot
  | .endTunnelTrafficSession generation => s.endTunnelTrafficSession generation
  | .updateLocalDpiObservation generation summary => s.updateLocalDpiObservation generation summary
  | .reconcileActiveRuntime established message =>
    s.reconcileActiveRuntime lowercase established message

/-- The state of a process after its operations. -/
def run (operations : List Operation) : AndroidRuntimeState :=
  operations.foldl (apply lowercase) {}

@[simp] theorem run_append (operations : List Operation) (operation : Operation) :
    run lowercase (operations ++ [operation]) = apply lowercase (run lowercase operations) operation := by
  simp [run]

/-- The operations of a run, each with the state that it has met. -/
def steps (s : AndroidRuntimeState) : List Operation → List (AndroidRuntimeState × Operation)
  | [] => []
  | operation :: rest => (s, operation) :: steps (apply lowercase s operation) rest

theorem steps_append (s : AndroidRuntimeState) (operations : List Operation) (operation : Operation) :
    steps lowercase s (operations ++ [operation]) = steps lowercase s operations ++
      [(operations.foldl (apply lowercase) s, operation)] := by
  induction operations generalizing s with
  | nil => rfl
  | cons first rest ih =>
    show (s, first) :: steps lowercase (apply lowercase s first) (rest ++ [operation]) = _
    rw [ih]
    rfl

/-! ## What an operation does to a proof -/

/-- It makes a profile the active one. -/
def Binds (digest : String) : AndroidRuntimeState × Operation → Prop
  | (_, .bindActiveProfile bound) => bound = digest ∧ isRuntimeProfileDigest (some bound) = true
  | _ => False

/-- From there on no profile is active, or it is another: a stop, a failure, a
missing Core, or a further binding. -/
def Releases : AndroidRuntimeState × Operation → Prop
  | (_, .resolveEnvironment core _ _) => core = none
  | (_, .initializeRuntime core _ _ _) => core = none
  | (_, .bindActiveProfile bound) => isRuntimeProfileDigest (some bound) = true
  | (_, .markStopRequested _ _) => True
  | (_, .markStopped _ _) => True
  | (_, .markStoppedAfterCoreEgressFailure _ _ _) => True
  | (_, .markFailure _ _ _ _) => True
  | (s, .reconcileActiveRuntime established _) => established = false ∧ s.phase = .running
  | _ => False

/-- From there on a proof of the profile does not hold: it is released, a connection
is requested, another profile is staged, no proof is required or another result
has come. -/
def Withdraws (digest : String) : AndroidRuntimeState × Operation → Prop
  | (_, .markProfileStaged _ _ staged _) =>
    staged.filter (fun value => isRuntimeProfileDigest (some value)) ≠ some digest
  | (_, .markConnectionRequested) => True
  | (_, .updateCoreEgressValidation _ _) => True
  | (_, .updateCoreEgressRequirement required) => required = false
  | step => Releases step

/-- A proof has come. -/
def Proves : AndroidRuntimeState × Operation → Prop
  | (_, .updateCoreEgressValidation validated _) => validated = some true
  | _ => False

/-- What the state knows of a profile and its proof. -/
structure Proof where
  active : Option String
  staged : Option String
  validated : Option Bool

def proof (s : AndroidRuntimeState) : Proof :=
  ⟨s.activeProfileDigest, s.stagedProfileDigest, s.coreEgressValidated⟩

/-- All that an operation may do to it. -/
inductive Moves (step : AndroidRuntimeState × Operation) (p : Proof) : Proof → Prop
  | keeps (h : ∀ digest, ¬ Withdraws digest step) : Moves step p p
  | unstages (h : ∀ digest, ¬ Withdraws digest step) : Moves step p { p with staged := none }
  | stages {staged : Option String} (h : ¬ Releases step)
      (hkept : ∀ digest, Withdraws digest step → staged ≠ some digest) :
      Moves step p { p with
        staged := staged, validated := if p.active ≠ staged then none else p.validated }
  | refutes {validated : Option Bool} (h : ¬ Releases step) (hfalse : validated ≠ some true) :
      Moves step p { p with validated := validated }
  | proves (h : ¬ Releases step) (hproof : Proves step) (hactive : p.active.isSome = true)
      (hstaged : p.staged = p.active ∨ p.staged = none) :
      Moves step p { p with validated := some true }
  | binds {digest : String} (h : Binds digest step) :
      Moves step p { p with active := some digest, validated := none }
  | releases {staged : Option String} {validated : Option Bool} (hfalse : validated ≠ some true) :
      Moves step p ⟨none, staged, validated⟩

section Steps

variable {lowercase} (s : AndroidRuntimeState)

variable {step : AndroidRuntimeState × Operation} {s' : AndroidRuntimeState}

/-- Nothing else than the proof and what it is of decides. -/
theorem moves_of_proof_eq (h : s'.proof = s.proof) (hnone : ∀ digest, ¬ Withdraws digest step) :
    Moves step s.proof s'.proof := by
  rw [h]
  exact .keeps hnone

theorem moves_of_released (hactive : s'.activeProfileDigest = none)
    (hvalidated : s'.coreEgressValidated = none ∨ s'.coreEgressValidated = some false) :
    Moves step s.proof s'.proof := by
  have hfalse : s'.coreEgressValidated ≠ some true := by
    rcases hvalidated with h | h <;> simp [h]
  have hproof : s'.proof = ⟨none, s'.stagedProfileDigest, s'.coreEgressValidated⟩ := by
    rw [proof, hactive]
  rw [hproof]
  exact .releases hfalse

theorem moves_of_unproven (hproof : s'.proof = { s.proof with validated := none })
    (h : ¬ Releases step) : Moves step s.proof s'.proof := by
  rw [hproof]
  exact .refutes h (by simp)

theorem proof_ensureCompiledTransportCapabilities (read : Option String) :
    (s.ensureCompiledTransportCapabilities read).proof = s.proof := by
  unfold ensureCompiledTransportCapabilities
  split <;> rfl

theorem proof_resolveEnvironment_some (core : AndroidPackagedCoreLocation) (dir : String)
    (capabilities : Option String) :
    (s.resolveEnvironment (some core) dir capabilities).proof = s.proof := by
  have hkept := proof_ensureCompiledTransportCapabilities
    { s with environment := some (environmentOf core dir) } capabilities
  simp only [resolveEnvironment]
  split
  · exact hkept
  · exact hkept

theorem proof_bound (binding : CoreBinding) : (s.bound binding).proof = s.proof := by
  simp only [bound]
  exact proof_ensureCompiledTransportCapabilities _ _

theorem moves_resolveEnvironment (core : Option AndroidPackagedCoreLocation) (dir : String)
    (capabilities : Option String) :
    Moves (s, .resolveEnvironment core dir capabilities) s.proof
      (s.resolveEnvironment core dir capabilities).proof := by
  cases core with
  | none => exact moves_of_released s rfl (.inl rfl)
  | some core =>
    apply moves_of_proof_eq _ (proof_resolveEnvironment_some s core dir capabilities)
    intro digest h
    cases h

theorem moves_initializeRuntime (core : Option AndroidPackagedCoreLocation) (dir : String)
    (capabilities : Option String) (setup : Option CoreBinding) :
    Moves (s, .initializeRuntime core dir capabilities setup) s.proof
      (s.initializeRuntime core dir capabilities setup).proof := by
  cases core with
  | none => exact moves_of_released s rfl (.inl rfl)
  | some core =>
    apply moves_of_proof_eq
    · cases setup with
      | none => exact proof_resolveEnvironment_some _ core dir capabilities
      | some binding =>
        exact (proof_bound _ binding).trans (proof_resolveEnvironment_some _ core dir capabilities)
    · intro digest h
      cases h

theorem moves_invalidateStagedProfile (expected : Option String) :
    Moves (s, .invalidateStagedProfile expected) s.proof (s.invalidateStagedProfile expected).proof := by
  have hnone : ∀ digest, ¬ Withdraws digest (s, .invalidateStagedProfile expected) := fun _ h => h
  unfold invalidateStagedProfile
  split
  · exact .keeps hnone
  · dsimp only
    split
    · exact .unstages hnone
    · exact .unstages hnone

theorem proof_settleStop (message reason : String) :
    (s.settleStop lowercase message reason).proof = s.proof := by
  unfold settleStop
  split
  · rfl
  · split <;> rfl

theorem proof_markStopped (message reason : String) :
    (s.markStopped lowercase message reason).proof = ⟨none, s.stagedProfileDigest, none⟩ :=
  proof_settleStop _ message reason

/-- What was proven, or why not. -/
theorem proof_updateCoreEgressValidation (validated : Option Bool) (now : String) :
    (s.updateCoreEgressValidation validated now).proof = { s.proof with
      validated := if validated = some true then some s.provesActiveProfile else validated } := by
  unfold updateCoreEgressValidation
  dsimp only
  rw [apply_ite proof]
  exact ite_self _

theorem provesActiveProfile_eq_true (h : s.provesActiveProfile = true) :
    s.activeProfileDigest.isSome = true ∧
      (s.stagedProfileDigest = s.activeProfileDigest ∨ s.stagedProfileDigest = none) := by
  simp only [provesActiveProfile, Bool.and_eq_true, Bool.or_eq_true, decide_eq_true_eq,
    Option.isNone_iff_eq_none] at h
  rcases h with ⟨hactive, hsame | ⟨⟨-, hnone⟩, -⟩⟩
  · exact ⟨hactive, .inl hsame.symm⟩
  · exact ⟨hactive, .inr hnone⟩

theorem moves_updateCoreEgressValidation (validated : Option Bool) (now : String) :
    Moves (s, .updateCoreEgressValidation validated now) s.proof
      (s.updateCoreEgressValidation validated now).proof := by
  rw [proof_updateCoreEgressValidation]
  by_cases htrue : validated = some true
  · rw [if_pos htrue]
    cases hproves : s.provesActiveProfile with
    | true =>
      rcases provesActiveProfile_eq_true s hproves with ⟨hactive, hstaged⟩
      exact .proves id htrue hactive hstaged
    | false => exact .refutes id (by simp)
  · rw [if_neg htrue]
    exact .refutes id htrue

theorem moves_reconcileActiveRuntime (established : Bool) (message : Option String) :
    Moves (s, .reconcileActiveRuntime established message) s.proof
      (s.reconcileActiveRuntime lowercase established message).proof := by
  have hnone : ¬ (established = false ∧ s.phase = .running) →
      ∀ digest, ¬ Withdraws digest (s, .reconcileActiveRuntime established message) :=
    fun h _ hstop => h hstop
  unfold reconcileActiveRuntime
  by_cases hestablished : established = false
  · rw [if_pos hestablished]
    by_cases hrunning : s.phase = .running
    · rw [if_pos hrunning, proof_markStopped]
      exact .releases (by simp)
    · rw [if_neg hrunning]
      exact .keeps (hnone fun h => hrunning h.2)
  · rw [if_neg hestablished]
    have hkeeps := hnone fun h => hestablished h.1
    split
    · exact .keeps hkeeps
    · dsimp only
      split
      · exact .keeps hkeeps
      · split
        · exact .keeps hkeeps
        · exact .keeps hkeeps

theorem moves_markProfileStaged (path : String) (preserve : Bool) (digest : Option String)
    (bound : Bool) :
    Moves (s, .markProfileStaged path preserve digest bound) s.proof
      (s.markProfileStaged path preserve digest bound).proof :=
  .stages id fun _ h => h

theorem moves_bindActiveProfile (digest : String) :
    Moves (s, .bindActiveProfile digest) s.proof ((s.bindActiveProfile digest).getD s).proof := by
  unfold bindActiveProfile
  by_cases hdigest : isRuntimeProfileDigest (some digest) = true
  · rw [if_pos hdigest]
    exact .binds ⟨rfl, hdigest⟩
  · rw [if_neg hdigest]
    exact .keeps fun _ h => hdigest h

theorem moves_updateCoreEgressRequirement (required : Bool) :
    Moves (s, .updateCoreEgressRequirement required) s.proof
      (s.updateCoreEgressRequirement required).proof := by
  cases required with
  | true => exact .keeps fun _ h => by cases h
  | false => exact moves_of_unproven s rfl id

/-- One operation at a time. -/
theorem moves_apply (operation : Operation) :
    Moves (s, operation) s.proof (apply lowercase s operation).proof := by
  cases operation with
  | ensureCompiledTransportCapabilities read =>
    exact moves_of_proof_eq s (proof_ensureCompiledTransportCapabilities s read) fun _ => id
  | resolveEnvironment core dir capabilities => exact moves_resolveEnvironment s core dir capabilities
  | initializeRuntime core dir capabilities setup =>
    exact moves_initializeRuntime s core dir capabilities setup
  | markProfileStaged path preserve digest bound =>
    exact moves_markProfileStaged s path preserve digest bound
  | invalidateStagedProfile expected => exact moves_invalidateStagedProfile s expected
  | markConnectionRequested => exact moves_of_unproven s rfl id
  | recordAwgSafeDiagnostic diagnostic =>
    apply moves_of_proof_eq s _ fun _ => id
    show (s.recordAwgSafeDiagnostic diagnostic).proof = _
    unfold recordAwgSafeDiagnostic
    split <;> rfl
  | bindActiveProfile digest => exact moves_bindActiveProfile s digest
  | markRunning message now =>
    apply moves_of_proof_eq s _ fun _ => id
    show (s.markRunning message now).proof = _
    unfold markRunning
    dsimp only
    split <;> rfl
  | markStopRequested message reason => exact moves_of_released s rfl (.inl rfl)
  | markStopped message reason =>
    show Moves _ _ (s.markStopped lowercase message reason).proof
    rw [proof_markStopped]
    exact .releases (by simp)
  | markStoppedAfterCoreEgressFailure kind message reason =>
    exact moves_of_released s rfl (.inr rfl)
  | markFailure kind message error startupPhase => exact moves_of_released s rfl (.inl rfl)
  | clearSystemNotificationWarning =>
    apply moves_of_proof_eq s _ fun _ => id
    show s.clearSystemNotificationWarning.proof = _
    unfold clearSystemNotificationWarning
    split <;> rfl
  | updateCoreEgressValidation validated now => exact moves_updateCoreEgressValidation s validated now
  | updateCoreEgressRequirement required => exact moves_updateCoreEgressRequirement s required
  | updateTunnelTraffic generation snapshot =>
    apply moves_of_proof_eq s _ fun _ => id
    show (s.updateTunnelTraffic generation snapshot).proof = _
    unfold updateTunnelTraffic
    split <;> rfl
  | endTunnelTrafficSession generation =>
    apply moves_of_proof_eq s _ fun _ => id
    show (s.endTunnelTrafficSession generation).proof = _
    unfold endTunnelTrafficSession
    split <;> rfl
  | updateLocalDpiObservation generation summary =>
    apply moves_of_proof_eq s _ fun _ => id
    show (s.updateLocalDpiObservation generation summary).proof = _
    unfold updateLocalDpiObservation
    split <;> rfl
  | reconcileActiveRuntime established message => exact moves_reconcileActiveRuntime s established message
  | _ => exact .keeps fun _ => id

end Steps

/-! ## Runs -/

/-- The profile was bound, and nothing has released it since. -/
abbrev BoundSince (digest : String) : List (AndroidRuntimeState × Operation) → Prop :=
  Histories.Since (Binds digest) Releases

/-- A proof has come, and nothing has withdrawn it since. -/
abbrev ProvenSince (digest : String) : List (AndroidRuntimeState × Operation) → Prop :=
  Histories.Since Proves (Withdraws digest)

/-- What is known of the proof after a history. -/
structure Accounted (history : List (AndroidRuntimeState × Operation)) (p : Proof) : Prop where
  bound : ∀ digest, p.active = some digest → BoundSince digest history
  validated : p.validated = some true → ∃ digest, p.active = some digest ∧
    (p.staged = some digest ∨ p.staged = none) ∧ ProvenSince digest history

variable {step : AndroidRuntimeState × Operation}

theorem Withdraws.of_releases (h : Releases step) (digest : String) : Withdraws digest step := by
  rcases step with ⟨s, operation⟩
  cases operation <;> first | exact h | exact absurd h id

theorem Binds.releases {digest : String} (h : Binds digest step) : Releases step := by
  rcases step with ⟨s, operation⟩
  cases operation <;> first | exact h.2 | exact absurd h id

/-- One step of the run. -/
theorem Accounted.moves {history : List (AndroidRuntimeState × Operation)} {p p' : Proof}
    (h : Accounted history p) (hmoves : Moves step p p') : Accounted (history ++ [step]) p' := by
  have hbound : ¬ Releases step → ∀ digest, p.active = some digest →
      BoundSince digest (history ++ [step]) := fun hfree digest hactive =>
    Histories.since_append_singleton.mpr (.inr ⟨h.bound digest hactive, hfree⟩)
  have hkept : (∀ digest, ¬ Withdraws digest step) → ¬ Releases step :=
    fun hnone hreleases => hnone "" (.of_releases hreleases "")
  cases hmoves with
  | keeps hnone =>
    refine ⟨hbound (hkept hnone), fun hvalidated => ?_⟩
    rcases h.validated hvalidated with ⟨digest, hactive, hstaged, hproven⟩
    exact ⟨digest, hactive, hstaged,
      Histories.since_append_singleton.mpr (.inr ⟨hproven, hnone digest⟩)⟩
  | unstages hnone =>
    refine ⟨hbound (hkept hnone), fun hvalidated => ?_⟩
    rcases h.validated hvalidated with ⟨digest, hactive, -, hproven⟩
    exact ⟨digest, hactive, .inr rfl,
      Histories.since_append_singleton.mpr (.inr ⟨hproven, hnone digest⟩)⟩
  | @stages staged hfree hother =>
    refine ⟨hbound hfree, fun hvalidated => ?_⟩
    dsimp only at hvalidated ⊢
    by_cases hsame : p.active = staged
    · rw [if_neg (not_not.mpr hsame)] at hvalidated
      rcases h.validated hvalidated with ⟨digest, hactive, -, hproven⟩
      have hstaged : staged = some digest := hsame.symm.trans hactive
      exact ⟨digest, hactive, .inl hstaged, Histories.since_append_singleton.mpr
        (.inr ⟨hproven, fun hwithdraws => hother digest hwithdraws hstaged⟩)⟩
    · rw [if_pos hsame] at hvalidated
      cases hvalidated
  | refutes hfree hfalse => exact ⟨hbound hfree, fun hvalidated => absurd hvalidated hfalse⟩
  | proves hfree hproof hactive hstaged =>
    refine ⟨hbound hfree, fun _ => ?_⟩
    rcases Option.isSome_iff_exists.mp hactive with ⟨digest, hdigest⟩
    refine ⟨digest, hdigest, ?_, Histories.since_append_singleton.mpr (.inl hproof)⟩
    rw [← hdigest]
    exact hstaged
  | @binds digest hbinds =>
    refine ⟨fun other hother => ?_, fun hvalidated => by cases hvalidated⟩
    cases hother
    exact Histories.since_append_singleton.mpr (.inl hbinds)
  | releases hfalse =>
    refine ⟨fun digest hactive => ?_, fun hvalidated => absurd hvalidated hfalse⟩
    cases hactive

/-- By induction on the operations. -/
theorem accounted_run (lowercase : String → String) (operations : List Operation) :
    Accounted (steps lowercase {} operations) (run lowercase operations).proof := by
  induction operations using List.reverseRecOn with
  | nil =>
    constructor
    · intro digest hactive
      cases hactive
    · intro hvalidated
      cases hvalidated
  | append_singleton operations operation ih =>
    rw [steps_append, run_append]
    exact ih.moves (moves_apply (run lowercase operations) operation)

/-- A proof that holds came after the last binding, and nothing has released the
profile since it was bound. -/
theorem proof_after_binding {digest : String} {history : List (AndroidRuntimeState × Operation)}
    (hbound : BoundSince digest history) (hproven : ProvenSince digest history) :
    ∃ before bound between proof after, history = before ++ bound :: (between ++ proof :: after) ∧
      Binds digest bound ∧ Proves proof ∧ (∀ step ∈ between ++ proof :: after, ¬ Releases step) ∧
      ∀ step ∈ after, ¬ Withdraws digest step := by
  rcases hbound with ⟨before, bound, later, rfl, hbinds, hfree⟩
  rcases hproven with ⟨earlier, proof, after, hsplit, hproof, hheld⟩
  have hdistinct : bound ≠ proof := by
    rintro rfl
    rcases bound with ⟨s, operation⟩
    cases operation <;> first | exact hproof | exact hbinds
  rcases List.append_eq_append_iff.mp hsplit with ⟨between, hearlier, hlater⟩ | ⟨rest, hbefore, hafter⟩
  · cases between with
    | nil => exact absurd (List.cons.inj hlater).1 hdistinct
    | cons first between =>
      rcases List.cons.inj hlater with ⟨-, rfl⟩
      exact ⟨before, bound, between, proof, after, rfl, hbinds, hproof, hfree, hheld⟩
  · cases rest with
    | nil => exact absurd (List.cons.inj hafter).1.symm hdistinct
    | cons first rest =>
      rcases List.cons.inj hafter with ⟨-, rfl⟩
      exact absurd (Withdraws.of_releases hbinds.releases digest)
        (hheld bound (List.mem_append_right _ List.mem_cons_self))

/-! ## Snapshots -/

section Snapshots

variable {lowercase : String → String} {s : AndroidRuntimeState} {owner : AndroidConnectRequestOwner}

theorem effectiveProfileDigest_eq_some {digest : String}
    (h : (s.snapshot lowercase owner).effectiveProfileDigest = some digest) :
    s.phase = .running ∧ s.coreEgressValidated = some true ∧ s.activeProfileDigest = some digest := by
  simp only [snapshot] at h
  split at h
  · rename_i hproven
    rw [decide_eq_true_eq] at hproven
    exact ⟨hproven.1, hproven.2, h⟩
  · cases h

/-- What has to be there of a host that is healthy. -/
structure HealthyHost (s : AndroidRuntimeState) : Prop where
  running : s.phase = .running
  noFailure : isNullOrBlank s.lastFailureKind = true
  dnsReady : s.dnsReady = true
  networkInterface : isNullOrBlank s.defaultNetworkInterface = false
  networkIndex : ∃ index, s.defaultNetworkIndex = some index ∧ 0 ≤ index
  proven : s.coreEgressValidationRequired = true → s.coreEgressValidated = some true

theorem dnsReady_of_healthy (h : s.currentDnsState lowercase = .healthy) : s.dnsReady = true := by
  unfold currentDnsState at h
  split at h
  · cases h
  · split at h
    · cases h
    · split at h
      · assumption
      · cases h

theorem network_of_healthy (h : s.currentUplinkState lowercase = .healthy) :
    isNullOrBlank s.defaultNetworkInterface = false ∧
      ∃ index, s.defaultNetworkIndex = some index ∧ 0 ≤ index := by
  unfold currentUplinkState at h
  split at h
  · cases h
  · split at h
    · cases h
    · split at h
      · rename_i hnetwork
        refine ⟨hnetwork.1, ?_⟩
        cases hindex : s.defaultNetworkIndex with
        | none =>
          rw [hindex] at hnetwork
          cases hnetwork.2
        | some index =>
          rw [hindex] at hnetwork
          exact ⟨index, rfl, of_decide_eq_true hnetwork.2⟩
      · cases h

theorem healthyHost_of_healthy (h : (s.snapshot lowercase owner).hostHealth = .healthy) :
    HealthyHost s := by
  have hhealth : s.currentHostHealth lowercase = .healthy := h
  unfold currentHostHealth at hhealth
  split at hhealth
  · cases hhealth
  rename_i hrunning
  split at hhealth
  · cases hhealth
  split at hhealth
  · cases hhealth
  split at hhealth
  · cases hhealth
  rename_i hfailure
  split at hhealth
  · cases hhealth
  split at hhealth
  · rename_i hproven
    rcases hproven with ⟨hproof, hdns, huplink⟩
    rcases network_of_healthy huplink with ⟨hinterface, hindex⟩
    refine ⟨not_not.mp hrunning, by simpa using hfailure, dnsReady_of_healthy hdns, hinterface, hindex, ?_⟩
    intro hrequired
    rcases hproof with hfree | hproof
    · rw [hrequired] at hfree
      cases hfree
    · exact hproof
  · split at hhealth <;> cases hhealth

end Snapshots

/-- Whatever operations have come, in any order: a proof is one of the active
profile, with which the staged one agrees; a profile that a snapshot has as
effective is running, and was proven since it was bound; and a host is healthy only
while its tunnel runs over a network with a resolver, without a failure, and
proven where a proof is required. -/
theorem effective_profile_is_proven (lowercase : String → String) (operations : List Operation)
    (owner : AndroidConnectRequestOwner) :
    let s := run lowercase operations
    (s.coreEgressValidated = some true → ∃ digest, s.activeProfileDigest = some digest ∧
      (s.stagedProfileDigest = some digest ∨ s.stagedProfileDigest = none)) ∧
    (∀ digest, (s.snapshot lowercase owner).effectiveProfileDigest = some digest →
      (s.snapshot lowercase owner).phase = .running ∧
        ∃ before bound between proof after,
          steps lowercase {} operations = before ++ bound :: (between ++ proof :: after) ∧
          Binds digest bound ∧ Proves proof ∧
          (∀ step ∈ between ++ proof :: after, ¬ Releases step) ∧
          ∀ step ∈ after, ¬ Withdraws digest step) ∧
    ((s.snapshot lowercase owner).hostHealth = .healthy → HealthyHost s) := by
  have haccounted := accounted_run lowercase operations
  refine ⟨fun hvalidated => ?_, fun digest heffective => ?_, healthyHost_of_healthy⟩
  · rcases haccounted.validated hvalidated with ⟨digest, hactive, hstaged, -⟩
    exact ⟨digest, hactive, hstaged⟩
  · rcases effectiveProfileDigest_eq_some heffective with ⟨hrunning, hvalidated, hactive⟩
    rcases haccounted.validated hvalidated with ⟨proven, hproven, -, hsince⟩
    cases hactive.symm.trans hproven
    exact ⟨hrunning, proof_after_binding (haccounted.bound digest hactive) hsince⟩

end AndroidRuntimeState

end Pokrov.Android
