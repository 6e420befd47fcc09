import Pokrov.AppShell.RestrictionLedger
import Pokrov.Lib.Runs

/-!
# What the coordinator never forgets

The calls of a coordinator in any order. Beside its own fields stands the list of
what the running instance has acknowledged; a snapshot of a runtime that does not
run empties it.
-/

namespace Pokrov.AppShell

open Dart Stateful

/-! ## Strictness -/

namespace SmartAccessLeaseRevocation

/-- `terminate` is stricter than `drain`. -/
instance : LE SmartAccessLeaseRevocation := ⟨fun decision other => other = .terminate ∨ decision = other⟩

instance (decision other : SmartAccessLeaseRevocation) : Decidable (decision ≤ other) :=
  inferInstanceAs (Decidable (_ ∨ _))

theorem le_terminate (decision : SmartAccessLeaseRevocation) : decision ≤ .terminate := .inl rfl

protected theorem le_trans {a b c : SmartAccessLeaseRevocation} (h : a ≤ b) (h' : b ≤ c) : a ≤ c := by
  rcases h' with h' | rfl
  · exact .inl h'
  · exact h

end SmartAccessLeaseRevocation

open SmartAccessLeaseRevocation ConnectionCoordinator

/-- A decision at least as strict is held. -/
def Holds (held : Option SmartAccessLeaseRevocation) (decision : SmartAccessLeaseRevocation) : Prop :=
  ∃ stricter, held = some stricter ∧ decision ≤ stricter

theorem holds_some {held decision : SmartAccessLeaseRevocation} (h : decision ≤ held) :
    Holds (some held) decision := ⟨held, rfl, h⟩

@[simp] theorem not_holds_none {decision : SmartAccessLeaseRevocation} : ¬ Holds none decision := by
  rintro ⟨stricter, h, -⟩
  cases h

theorem holds_terminate {held : Option SmartAccessLeaseRevocation} (h : held = some .terminate)
    (decision : SmartAccessLeaseRevocation) : Holds held decision := ⟨_, h, le_terminate decision⟩

/-! ## Acknowledgements -/

inductive Acknowledgement
  | catalog
  /-- With the leases of the service in the binding. -/
  | service (serviceId : Text) (leaseIds : List Text)
  | policy (decision : SmartAccessLeaseRevocation)
  | lease (leaseId : Text) (decision : SmartAccessLeaseRevocation)

/-- What stops a lease at least as strictly: for itself, its service or the whole
policy. -/
def Acknowledgement.Covers (leaseId : Text) (decision : SmartAccessLeaseRevocation) :
    Acknowledgement → Prop
  | .catalog => False
  | .service _ leaseIds => leaseId ∈ leaseIds
  | .policy acknowledged => decision ≤ acknowledged
  | .lease acknowledgedId acknowledged => acknowledgedId = leaseId ∧ decision ≤ acknowledged

def Covered (acknowledged : List Acknowledgement) (leaseId : Text)
    (decision : SmartAccessLeaseRevocation) : Prop :=
  ∃ acknowledgement ∈ acknowledged, acknowledgement.Covers leaseId decision

def PolicyCovered (acknowledged : List Acknowledgement) (decision : SmartAccessLeaseRevocation) : Prop :=
  ∃ stricter, .policy stricter ∈ acknowledged ∧ decision ≤ stricter

def ServiceCovered (acknowledged : List Acknowledgement) (serviceId : Text) : Prop :=
  ∃ leaseIds, .service serviceId leaseIds ∈ acknowledged

theorem PolicyCovered.covered {acknowledged : List Acknowledgement}
    {decision : SmartAccessLeaseRevocation} (h : PolicyCovered acknowledged decision) (leaseId : Text) :
    Covered acknowledged leaseId decision := by
  rcases h with ⟨stricter, hmem, hle⟩
  exact ⟨_, hmem, hle⟩

theorem Acknowledgement.Covers.le {leaseId : Text} {decision stricter : SmartAccessLeaseRevocation}
    {acknowledgement : Acknowledgement} (h : acknowledgement.Covers leaseId stricter)
    (hle : decision ≤ stricter) : acknowledgement.Covers leaseId decision := by
  cases acknowledgement with
  | catalog => exact h
  | service serviceId leaseIds => exact h
  | policy acknowledged => exact SmartAccessLeaseRevocation.le_trans hle h
  | lease acknowledgedId acknowledged => exact ⟨h.1, SmartAccessLeaseRevocation.le_trans hle h.2⟩

theorem Covered.le {acknowledged : List Acknowledgement} {leaseId : Text}
    {decision stricter : SmartAccessLeaseRevocation} (h : Covered acknowledged leaseId stricter)
    (hle : decision ≤ stricter) : Covered acknowledged leaseId decision := by
  rcases h with ⟨acknowledgement, hmem, hcovers⟩
  exact ⟨acknowledgement, hmem, hcovers.le hle⟩

namespace ConnectionCoordinator

/-! ## The invariant -/

/-- The fields agree with each other and with what has been acknowledged. -/
structure Sound (acknowledged : List Acknowledgement) (s : ConnectionCoordinator) : Prop where
  /-- A binding is of the profile that the last snapshot names. -/
  digest : ∀ digest binding, s.effectiveProfileDigest = some digest →
    s.activeLeases = some binding → binding.profileDigest = digest
  /-- Without a binding nothing has been received. -/
  idle : s.activeLeases = none → s.catalogRevoked = false ∧ s.catalogWithdrawn = false ∧
    s.smartAccessPolicyRevocation = none ∧ s.catalogServiceRevocations = ∅ ∧
    ∀ leaseId, s.pendingRevocations leaseId = none
  services : ∀ binding, s.activeLeases = some binding → s.catalogServiceRevocations.Nonempty →
    binding.catalogIdentity.isSome
  /-- Who passes a catalog passes the time that it expires. -/
  expires : ∀ binding, s.activeLeases = some binding ∨ s.stagedLeases = some binding →
    binding.catalogIdentity.isSome → binding.catalogExpiresAt.isSome
  leaseCovered : ∀ leaseId decision, s.smartAccessRevocations leaseId = some decision →
    Covered acknowledged leaseId decision
  policyCovered : ∀ decision, s.smartAccessPolicyAcknowledged = some decision →
    PolicyCovered acknowledged decision
  serviceCovered : ∀ serviceId ∈ s.catalogServiceAcknowledgements,
    ServiceCovered acknowledged serviceId
  catalogCovered : s.catalogRevocationAcknowledged = true → .catalog ∈ acknowledged
  alive : s.disposed = false

/-- Nothing received is forgotten or weaker, as far as it is about these leases. -/
structure Grows (about : Text → Prop) (s s' : ConnectionCoordinator) : Prop where
  catalogRevoked : s.catalogRevoked = true → s'.catalogRevoked = true
  catalogWithdrawn : s.catalogWithdrawn = true → s'.catalogWithdrawn = true
  policy : ∀ decision, Holds s.smartAccessPolicyRevocation decision →
    Holds s'.smartAccessPolicyRevocation decision
  services : s.catalogServiceRevocations ⊆ s'.catalogServiceRevocations
  leases : ∀ leaseId, about leaseId → ∀ decision, Holds (s.pendingRevocations leaseId) decision →
    Holds (s'.pendingRevocations leaseId) decision

/-- The active binding has the lease. -/
def Names (s : ConnectionCoordinator) (leaseId : Text) : Prop :=
  ∃ binding, s.activeLeases = some binding ∧ leaseId ∈ binding.leaseIds

variable {about : Text → Prop} {s s' s'' : ConnectionCoordinator}

theorem Grows.refl : Grows about s s :=
  ⟨id, id, fun _ => id, Finset.Subset.refl _, fun _ _ _ => id⟩

theorem Grows.trans (h : Grows about s s') (h' : Grows about s' s'') : Grows about s s'' where
  catalogRevoked hrevoked := h'.catalogRevoked (h.catalogRevoked hrevoked)
  catalogWithdrawn hwithdrawn := h'.catalogWithdrawn (h.catalogWithdrawn hwithdrawn)
  policy decision hpolicy := h'.policy decision (h.policy decision hpolicy)
  services := h.services.trans h'.services
  leases leaseId habout decision hlease :=
    h'.leases leaseId habout decision (h.leases leaseId habout decision hlease)

theorem Grows.mono {narrower : Text → Prop} (h : Grows about s s')
    (hnarrow : ∀ leaseId, narrower leaseId → about leaseId) : Grows narrower s s' :=
  { h with leases := fun leaseId hleaseId => h.leases leaseId (hnarrow leaseId hleaseId) }

/-- Where nothing has been received nothing can be forgotten. -/
theorem Sound.grows_idle {acknowledged : List Acknowledgement} (h : Sound acknowledged s)
    (hactive : s.activeLeases = none) : Grows about s s' := by
  rcases h.idle hactive with ⟨hrevoked, hwithdrawn, hpolicy, hservices, hpending⟩
  constructor
  · simp [hrevoked]
  · simp [hwithdrawn]
  · simp [hpolicy]
  · simp [hservices]
  · intro leaseId _ decision
    simp [hpending leaseId]

/-! ## The active binding -/

section

variable {binding : SmartAccessRuntimeLeases}

theorem active_of_activeSmartAccessLeases (h : s.activeSmartAccessLeases = some binding) :
    s.activeLeases = some binding := by
  unfold activeSmartAccessLeases at h
  split at h
  · exact h
  · cases h

theorem active_of_isActive (h : s.isActive binding = true) : s.activeLeases = some binding :=
  active_of_activeSmartAccessLeases (of_decide_eq_true h)

theorem isActive_iff : s.isActive binding = true ↔ s.disposed = false ∧ s.isRunning = true ∧
    s.effectiveProfileDigest = some binding.profileDigest ∧ s.activeLeases = some binding := by
  unfold isActive activeSmartAccessLeases
  by_cases hactive : s.activeLeases = some binding
  · simp [hactive, and_assoc]
  · have hnot : ∀ p : Prop, ∀ [Decidable p], (if p then s.activeLeases else none) ≠ some binding := by
      intro p _
      split
      · exact hactive
      · exact (Option.some_ne_none binding).symm
    simp [hactive, hnot]

end

/-! ## Receiving -/

/-- More has been received against the binding that is active, and no more than
that has changed. -/
structure Adds (s s' : ConnectionCoordinator) : Prop where
  kept : s' = { s with
    catalogRevoked := s'.catalogRevoked
    catalogWithdrawn := s'.catalogWithdrawn
    smartAccessPolicyRevocation := s'.smartAccessPolicyRevocation
    catalogServiceRevocations := s'.catalogServiceRevocations
    pendingRevocations := s'.pendingRevocations
    revokedCatalogSha256 := s'.revokedCatalogSha256
    revokedCatalogExpiresAt := s'.revokedCatalogExpiresAt
    revokedServiceCatalogSha256 := s'.revokedServiceCatalogSha256
    revokedServiceCatalogExpiresAt := s'.revokedServiceCatalogExpiresAt
    revokedCatalogServices := s'.revokedCatalogServices }
  grows : Grows (fun _ => True) s s'
  idle : s.activeLeases = none → s' = s
  services : s'.catalogServiceRevocations = s.catalogServiceRevocations ∨
    ∃ binding, s.activeLeases = some binding ∧ binding.catalogIdentity.isSome

namespace Adds

theorem refl : Adds s s := ⟨rfl, .refl, fun _ => rfl, .inl rfl⟩

theorem active (h : Adds s s') : s'.activeLeases = s.activeLeases := by rw [h.kept]

theorem trans (h : Adds s s') (h' : Adds s' s'') : Adds s s'' := by
  constructor
  · rw [h'.kept, h.kept]
  · exact h.grows.trans h'.grows
  · intro hidle
    have hsame := h.idle hidle
    rw [h'.idle (hsame ▸ hidle), hsame]
  · rcases h'.services with hservices | hlisted
    · rw [hservices]
      exact h.services
    · exact .inr (h.active ▸ hlisted)

instance : Std.Refl Adds := ⟨fun _ => refl⟩

instance : IsTrans ConnectionCoordinator Adds := ⟨fun _ _ _ => trans⟩

theorem isActive (h : Adds s s') (binding : SmartAccessRuntimeLeases) :
    s'.isActive binding = s.isActive binding := by
  rw [h.kept]
  rfl

theorem sound {acknowledged : List Acknowledgement} (h : Adds s s') (hs : Sound acknowledged s) :
    Sound acknowledged s' := by
  have hactive := h.active
  constructor
  · rw [h.kept]
    exact hs.digest
  · intro hidle
    rw [h.idle (hactive ▸ hidle)]
    exact hs.idle (hactive ▸ hidle)
  · intro binding hbinding hnonempty
    rw [hactive] at hbinding
    rcases h.services with hservices | ⟨listed, hlisted, hidentity⟩
    · rw [hservices] at hnonempty
      exact hs.services binding hbinding hnonempty
    · cases hbinding.symm.trans hlisted
      exact hidentity
  · rw [h.kept]
    exact hs.expires
  · rw [h.kept]
    exact hs.leaseCovered
  · rw [h.kept]
    exact hs.policyCovered
  · rw [h.kept]
    exact hs.serviceCovered
  · rw [h.kept]
    exact hs.catalogCovered
  · rw [h.kept]
    exact hs.alive

end Adds

variable (binding : SmartAccessRuntimeLeases)

theorem adds_receiveSmartAccessRevocations (s : ConnectionCoordinator) (decisions : Decisions) :
    Adds s (s.receiveSmartAccessRevocations binding decisions) := by
  unfold receiveSmartAccessRevocations
  split
  · rename_i hactive
    refine ⟨rfl, ⟨id, id, fun _ => id, Finset.Subset.refl _, ?_⟩, ?_, .inl rfl⟩
    · rintro leaseId - decision ⟨stricter, hpending, hle⟩
      show Holds (if s.pendingRevocations leaseId = some .terminate then some .terminate
        else (decisions leaseId).or (s.pendingRevocations leaseId)) decision
      by_cases hterminate : s.pendingRevocations leaseId = some .terminate
      · rw [if_pos hterminate]
        exact holds_terminate rfl decision
      · rw [if_neg hterminate, hpending]
        -- it was to drain, and every decision is at least as strict
        have hdrain : stricter = .drain := by
          cases stricter with
          | drain => rfl
          | terminate => exact absurd hpending hterminate
        have hdecision : decision = .drain := by
          rcases hle with hle | hle
          · cases hdrain.symm.trans hle
          · exact hle.trans hdrain
        subst hdrain hdecision
        cases hreceived : decisions leaseId with
        | none => exact holds_some (.inr rfl)
        | some received =>
          cases received with
          | drain => exact holds_some (.inr rfl)
          | terminate => exact holds_some (.inl rfl)
    · intro hidle
      cases hidle.symm.trans (active_of_isActive hactive)
  · exact .refl

theorem adds_receiveCatalogRevocation (s : ConnectionCoordinator) (withdrawCatalog : Bool) :
    Adds s (s.receiveCatalogRevocation binding withdrawCatalog) := by
  unfold receiveCatalogRevocation
  split
  · rename_i hactive
    have hgrows : ∀ sha expires, Grows (fun _ => True) s { s with
        catalogRevoked := true, catalogWithdrawn := s.catalogWithdrawn || withdrawCatalog
        revokedCatalogSha256 := sha, revokedCatalogExpiresAt := expires } := fun _ _ =>
      ⟨fun _ => rfl, fun h => by simp [h], fun _ => id, Finset.Subset.refl _, fun _ _ _ => id⟩
    have hidle : ∀ {s' : ConnectionCoordinator}, s.activeLeases = none → s' = s := fun hidle => by
      cases hidle.symm.trans (active_of_isActive hactive)
    dsimp only
    split
    · exact ⟨rfl, hgrows _ _, hidle, .inl rfl⟩
    · exact ⟨rfl, hgrows _ _, hidle, .inl rfl⟩
  · exact .refl

theorem holds_stricter (held : Option SmartAccessLeaseRevocation)
    {decision received : SmartAccessLeaseRevocation} (h : Holds held received) :
    received ≤ (if held = some .terminate then .terminate else decision) := by
  rcases h with ⟨stricter, rfl, hle⟩
  by_cases hterminate : some stricter = some SmartAccessLeaseRevocation.terminate
  · rw [if_pos hterminate]
    exact le_terminate received
  · rw [if_neg hterminate]
    cases stricter with
    | terminate => exact absurd rfl hterminate
    | drain =>
      have hdrain : received = .drain := by
        rcases hle with hle | hle
        · cases hle
        · exact hle
      subst hdrain
      cases decision with
      | drain => exact .inr rfl
      | terminate => exact .inl rfl

theorem adds_receiveSmartAccessPolicyRevocation (s : ConnectionCoordinator)
    (decision : SmartAccessLeaseRevocation) :
    Adds s (s.receiveSmartAccessPolicyRevocation binding decision) := by
  unfold receiveSmartAccessPolicyRevocation
  split
  · rename_i hactive
    refine .trans ?_ (adds_receiveSmartAccessRevocations binding _ _)
    refine ⟨rfl, ⟨id, id, ?_, Finset.Subset.refl _, fun _ _ _ => id⟩, ?_, .inl rfl⟩
    · intro received hreceived
      exact holds_some (holds_stricter _ hreceived)
    · intro hidle
      cases hidle.symm.trans (active_of_isActive hactive)
  · exact .refl

theorem preserves_receiveCatalogServiceRevocations (serviceIds : Finset Text) :
    Preserves Adds (receiveCatalogServiceRevocations binding serviceIds) := by
  intro s
  show wp (receiveCatalogServiceRevocations binding serviceIds) (fun _ s' => Adds s s') s
  unfold receiveCatalogServiceRevocations
  rw [wp_bind, wp_get, next_ok]
  refine wp_ite (fun _ => Adds.refl) fun hactive => ?_
  rw [not_or, Bool.not_eq_false] at hactive
  cases hidentity : binding.catalogIdentity with
  | none => exact Adds.refl
  | some identity =>
    refine wp_ite (fun _ => Adds.refl) fun _ => ?_
    have hbinding := active_of_isActive hactive.1
    rw [wp_bind]
    refine .trans ?_ (adds_receiveSmartAccessRevocations binding _ _)
    refine ⟨rfl, ⟨id, id, fun _ => id, Finset.subset_union_left, fun _ _ _ => id⟩, ?_,
      .inr ⟨binding, hbinding, by simp [hidentity]⟩⟩
    intro hidle
    cases hidle.symm.trans hbinding

/-! ## Acknowledging -/

theorem Sound.acknowledged_mono {acknowledged acknowledged' : List Acknowledgement}
    (hs : Sound acknowledged s) (hsub : acknowledged ⊆ acknowledged') : Sound acknowledged' s := by
  constructor
  · exact hs.digest
  · exact hs.idle
  · exact hs.services
  · exact hs.expires
  · intro leaseId decision h
    rcases hs.leaseCovered leaseId decision h with ⟨acknowledgement, hmem, hcovers⟩
    exact ⟨acknowledgement, hsub hmem, hcovers⟩
  · intro decision h
    rcases hs.policyCovered decision h with ⟨stricter, hmem, hle⟩
    exact ⟨stricter, hsub hmem, hle⟩
  · intro serviceId h
    rcases hs.serviceCovered serviceId h with ⟨leaseIds, hmem⟩
    exact ⟨leaseIds, hsub hmem⟩
  · intro h
    exact hsub (hs.catalogCovered h)
  · exact hs.alive

/-- No more has changed than what is acknowledged. -/
def Marks (s s' : ConnectionCoordinator) : Prop :=
  s' = { s with
    smartAccessRevocations := s'.smartAccessRevocations
    catalogRevocationAcknowledged := s'.catalogRevocationAcknowledged
    smartAccessPolicyAcknowledged := s'.smartAccessPolicyAcknowledged
    catalogServiceAcknowledgements := s'.catalogServiceAcknowledgements }

theorem Marks.trans (h : Marks s s') (h' : Marks s' s'') : Marks s s'' := by
  unfold Marks at *
  rw [h', h]

theorem Marks.grows (h : Marks s s') : Grows about s s' := by
  rw [h]
  exact ⟨id, id, fun _ => id, Finset.Subset.refl _, fun _ _ _ => id⟩

theorem Marks.sound {acknowledged : List Acknowledgement} (h : Marks s s')
    (hs : Sound acknowledged s)
    (hlease : ∀ leaseId decision, s'.smartAccessRevocations leaseId = some decision →
      Covered acknowledged leaseId decision)
    (hpolicy : ∀ decision, s'.smartAccessPolicyAcknowledged = some decision →
      PolicyCovered acknowledged decision)
    (hservice : ∀ serviceId ∈ s'.catalogServiceAcknowledgements,
      ServiceCovered acknowledged serviceId)
    (hcatalog : s'.catalogRevocationAcknowledged = true → .catalog ∈ acknowledged) :
    Sound acknowledged s' := by
  constructor
  · rw [h]
    exact hs.digest
  · rw [h]
    exact hs.idle
  · rw [h]
    exact hs.services
  · rw [h]
    exact hs.expires
  · exact hlease
  · exact hpolicy
  · exact hservice
  · exact hcatalog
  · rw [h]
    exact hs.alive

theorem marks_acknowledgeCatalogRevocation (s : ConnectionCoordinator) :
    Marks s (s.acknowledgeCatalogRevocation binding) := by
  unfold acknowledgeCatalogRevocation
  split <;> rfl

theorem marks_acknowledgeSmartAccessPolicyRevocation (s : ConnectionCoordinator)
    (decision : SmartAccessLeaseRevocation) :
    Marks s (s.acknowledgeSmartAccessPolicyRevocation binding decision) := by
  unfold acknowledgeSmartAccessPolicyRevocation
  split <;> rfl

theorem marks_acknowledgeSmartAccessRevocation (s : ConnectionCoordinator) (leaseId : Text)
    (decision : SmartAccessLeaseRevocation) :
    Marks s (s.acknowledgeSmartAccessRevocation binding leaseId decision) := by
  unfold acknowledgeSmartAccessRevocation
  split <;> rfl

section

variable {acknowledged : List Acknowledgement}

theorem sound_acknowledgeCatalogRevocation (hs : Sound acknowledged s)
    (hcatalog : s.isActive binding = true → .catalog ∈ acknowledged) :
    Sound acknowledged (s.acknowledgeCatalogRevocation binding) := by
  unfold acknowledgeCatalogRevocation
  split
  · rename_i hneeds
    have hactive : s.isActive binding = true := by
      simp only [needsCatalogRevocation, receivedCatalogRevocation, Bool.and_eq_true] at hneeds
      exact hneeds.1.1
    exact Marks.sound rfl hs hs.leaseCovered hs.policyCovered hs.serviceCovered
      fun _ => hcatalog hactive
  · exact hs

theorem sound_acknowledgeSmartAccessPolicyRevocation {decision : SmartAccessLeaseRevocation}
    (hs : Sound acknowledged s)
    (hpolicy : s.isActive binding = true → .policy decision ∈ acknowledged) :
    Sound acknowledged (s.acknowledgeSmartAccessPolicyRevocation binding decision) := by
  unfold acknowledgeSmartAccessPolicyRevocation
  split
  · rename_i hactive
    rw [Bool.and_eq_true] at hactive
    refine Marks.sound rfl hs hs.leaseCovered ?_ hs.serviceCovered hs.catalogCovered
    rintro _ ⟨⟩
    exact ⟨decision, hpolicy hactive.1, .inr rfl⟩
  · exact hs

theorem sound_acknowledgeSmartAccessRevocation {leaseId : Text}
    {decision : SmartAccessLeaseRevocation} (hs : Sound acknowledged s)
    (hlease : s.isActive binding = true → Covered acknowledged leaseId decision) :
    Sound acknowledged (s.acknowledgeSmartAccessRevocation binding leaseId decision) := by
  unfold acknowledgeSmartAccessRevocation
  split
  · rename_i hneeds
    have hactive : s.isActive binding = true := by
      by_contra hnot
      rw [Bool.not_eq_true] at hnot
      simp [needsSmartAccessRevocation, hnot] at hneeds
    refine Marks.sound rfl hs ?_ hs.policyCovered hs.serviceCovered hs.catalogCovered
    intro other held hheld
    dsimp only at hheld
    by_cases hother : other = leaseId
    · rw [if_pos hother] at hheld
      cases hheld
      rw [hother]
      exact hlease hactive
    · rw [if_neg hother] at hheld
      exact hs.leaseCovered other held hheld
  · exact hs

/-- By induction on the leases of the service. -/
theorem sound_acknowledgeLeases (leases : List SmartAccessLeaseIdentity)
    (hcovered : ∀ lease ∈ leases, Covered acknowledged lease.leaseId .terminate)
    {s : ConnectionCoordinator} (hs : Sound acknowledged s) :
    Sound acknowledged (leases.foldl
      (fun s lease => s.acknowledgeSmartAccessRevocation binding lease.leaseId .terminate) s) ∧
    Marks s (leases.foldl
      (fun s lease => s.acknowledgeSmartAccessRevocation binding lease.leaseId .terminate) s) := by
  induction leases generalizing s with
  | nil => exact ⟨hs, rfl⟩
  | cons lease leases ih =>
    have hnext := sound_acknowledgeSmartAccessRevocation binding hs
      fun _ => hcovered lease List.mem_cons_self
    have hmarks := marks_acknowledgeSmartAccessRevocation binding s lease.leaseId .terminate
    rcases ih (fun other hother => hcovered other (List.mem_cons_of_mem _ hother)) hnext with
      ⟨hsound, hrest⟩
    exact ⟨hsound, hmarks.trans hrest⟩

theorem sound_acknowledgeCatalogServiceRevocation {serviceId : Text} (hs : Sound acknowledged s)
    (hservice : s.isActive binding = true →
      .service serviceId ((binding.leases.filter (·.serviceId = serviceId)).map (·.leaseId)) ∈
        acknowledged) :
    Sound acknowledged (s.acknowledgeCatalogServiceRevocation binding serviceId) ∧
      Marks s (s.acknowledgeCatalogServiceRevocation binding serviceId) := by
  unfold acknowledgeCatalogServiceRevocation
  split
  · rename_i hactive
    rw [Bool.and_eq_true] at hactive
    have hmem := hservice hactive.1
    have hfirst : Sound acknowledged { s with
        catalogServiceAcknowledgements := insert serviceId s.catalogServiceAcknowledgements } := by
      refine Marks.sound rfl hs hs.leaseCovered hs.policyCovered ?_ hs.catalogCovered
      intro other hother
      rcases Finset.mem_insert.mp hother with rfl | hother
      · exact ⟨_, hmem⟩
      · exact hs.serviceCovered other hother
    refine (sound_acknowledgeLeases binding _ ?_ hfirst).imp_right fun hmarks => ?_
    · intro lease hlease
      exact ⟨_, hmem, List.mem_map_of_mem hlease⟩
    · exact hmarks
  · exact ⟨hs, rfl⟩

end

/-! ## Staging and renewal -/

/-- A binding with a catalog has the time that the catalog expires. -/
def Dated (binding : SmartAccessRuntimeLeases) : Prop :=
  binding.catalogIdentity.isSome → binding.catalogExpiresAt.isSome

/-- The restrictions are as they were. -/
structure Stages (s s' : ConnectionCoordinator) : Prop where
  kept : s' = { s with
    operationGeneration := s'.operationGeneration
    actionInFlight := s'.actionInFlight
    stagedLeases := s'.stagedLeases
    smartAccessRenewals := s'.smartAccessRenewals
    allocated := s'.allocated }
  staged : ∀ binding, s'.stagedLeases = some binding → s.stagedLeases = some binding ∨ Dated binding

namespace Stages

theorem refl : Stages s s := ⟨rfl, fun _ => .inl⟩

theorem trans (h : Stages s s') (h' : Stages s' s'') : Stages s s'' := by
  constructor
  · rw [h'.kept, h.kept]
  · intro binding hbinding
    rcases h'.staged binding hbinding with hstaged | hdated
    · exact h.staged binding hstaged
    · exact .inr hdated

instance : Std.Refl Stages := ⟨fun _ => refl⟩

instance : IsTrans ConnectionCoordinator Stages := ⟨fun _ _ _ => trans⟩

theorem grows (h : Stages s s') : Grows about s s' := by
  rw [h.kept]
  exact ⟨id, id, fun _ => id, Finset.Subset.refl _, fun _ _ _ => id⟩

theorem sound {acknowledged : List Acknowledgement} (h : Stages s s') (hs : Sound acknowledged s) :
    Sound acknowledged s' := by
  constructor
  · rw [h.kept]
    exact hs.digest
  · rw [h.kept]
    exact hs.idle
  · rw [h.kept]
    exact hs.services
  · rintro binding (hactive | hstaged)
    · rw [h.kept] at hactive
      exact hs.expires binding (.inl hactive)
    · rcases h.staged binding hstaged with hbefore | hdated
      · exact hs.expires binding (.inr hbefore)
      · exact hdated
  · rw [h.kept]
    exact hs.leaseCovered
  · rw [h.kept]
    exact hs.policyCovered
  · rw [h.kept]
    exact hs.serviceCovered
  · rw [h.kept]
    exact hs.catalogCovered
  · rw [h.kept]
    exact hs.alive

end Stages

theorem stages_acknowledgeSmartAccessStage (s : ConnectionCoordinator) (staged : RuntimeSnapshot)
    (grants : List VerifiedSmartAccessLease) (generation : Nat)
    (catalogIssuedAt catalogExpiresAt : Option DateTime) (catalogSha256 : Option Text)
    (catalogIdentity : Option CatalogRuntimeIdentity)
    (hdated : catalogIdentity.isSome → catalogExpiresAt.isSome) :
    Stages s (s.acknowledgeSmartAccessStage staged grants generation catalogIssuedAt
      catalogExpiresAt catalogSha256 catalogIdentity) := by
  unfold acknowledgeSmartAccessStage
  split
  · exact .refl
  · refine ⟨rfl, fun binding hbinding => .inr ?_⟩
    dsimp only at hbinding
    split at hbinding
    · split at hbinding
      · cases hbinding
        exact hdated
      · cases hbinding
    · cases hbinding

theorem stages_invalidateSmartAccessStagedReuse (s : ConnectionCoordinator) (profileDigest : Text) :
    Stages s (s.invalidateSmartAccessStagedReuse profileDigest) := by
  unfold invalidateSmartAccessStagedReuse
  split
  · refine ⟨rfl, fun binding hbinding => ?_⟩
    cases hbinding
  · exact .refl

theorem stages_discardSmartAccessRenewal (s : ConnectionCoordinator)
    (renewal : SmartAccessLeaseRenewal) (generation : Nat) :
    Stages s (s.discardSmartAccessRenewal renewal generation) := by
  unfold discardSmartAccessRenewal
  split
  · exact ⟨rfl, fun _ => .inl⟩
  · exact .refl

theorem stages_updateActionInFlight (s : ConnectionCoordinator) (value preserveOperation : Bool) :
    Stages s (s.updateActionInFlight value preserveOperation) := ⟨rfl, fun _ => .inl⟩

theorem preserves_prepareSmartAccessRenewal (previousLeaseId : Text)
    (next : VerifiedSmartAccessLease) (generation : Nat) (currentLeaseIds : List Text)
    (now now' : DateTime) :
    Preserves Stages (prepareSmartAccessRenewal binding previousLeaseId next generation
      currentLeaseIds now now') := by
  unfold prepareSmartAccessRenewal
  have hmodify : ∀ value : Option SmartAccessLeaseRenewal, Preserves Stages (Stateful.modify
      (ε := Failure) fun s : ConnectionCoordinator =>
        { s with
          allocated := s.allocated + 1
          smartAccessRenewals := fun leaseId =>
            if leaseId = previousLeaseId then value else s.smartAccessRenewals leaseId }) :=
    fun _ _ => ⟨rfl, fun _ => .inl⟩
  refine .bind .get fun s => .ite .throw (.bind .lift fun renewal => .bind (hmodify _) fun _ =>
    .bind .get fun s' => ?_)
  exact .ite .pure (.bind (hmodify _) fun _ => .throw)

/-! ## Other bindings of the same profile -/

/-- The active binding gives way to one with the same profile and catalog, and what
is about its leases stays. -/
theorem sound_install {acknowledged : List Acknowledgement} {active : SmartAccessRuntimeLeases}
    (hs : Sound acknowledged s) (hactive : s.activeLeases = some active)
    (leases : List SmartAccessLeaseIdentity) (grants : List VerifiedSmartAccessLease) :
    Sound acknowledged (s.install (s.rebind active leases grants)) ∧
      Grows (· ∈ leases.map (·.leaseId)) s (s.install (s.rebind active leases grants)) := by
  constructor
  · constructor
    · rintro digest _ hdigest ⟨⟩
      exact hs.digest digest active hdigest hactive
    · exact fun h => absurd h (Option.some_ne_none _)
    · rintro _ ⟨⟩ hnonempty
      exact hs.services active hactive hnonempty
    · rintro binding (h | hstaged)
      · cases h
        exact hs.expires active (.inl hactive)
      · exact hs.expires binding (.inr hstaged)
    · intro leaseId decision h
      simp only [install, keepLeases] at h
      split at h
      · exact hs.leaseCovered leaseId decision h
      · cases h
    · exact hs.policyCovered
    · exact hs.serviceCovered
    · exact hs.catalogCovered
    · exact hs.alive
  · refine ⟨id, id, fun _ => id, Finset.Subset.refl _, fun leaseId hmem decision h => ?_⟩
    show Holds (keepLeases _ s.pendingRevocations leaseId) decision
    rwa [keepLeases, if_pos]
    exact hmem

theorem sound_acknowledgeSmartAccessRenewal {acknowledged : List Acknowledgement}
    (hs : Sound acknowledged s) (renewal : SmartAccessLeaseRenewal) (generation : Nat)
    (now : DateTime) :
    Sound acknowledged (s.acknowledgeSmartAccessRenewal renewal generation now) ∧
      Grows about s (s.acknowledgeSmartAccessRenewal renewal generation now) := by
  unfold acknowledgeSmartAccessRenewal
  split
  · exact ⟨hs, .refl⟩
  · rename_i active hactive
    have hbinding := active_of_activeSmartAccessLeases hactive
    split
    · exact ⟨hs, .refl⟩
    · refine ⟨⟨?_, fun h => absurd h (Option.some_ne_none _), ?_, ?_, hs.leaseCovered,
        hs.policyCovered, hs.serviceCovered, hs.catalogCovered, hs.alive⟩,
        ⟨id, id, fun _ => id, Finset.Subset.refl _, fun _ _ _ => id⟩⟩
      · rintro digest _ hdigest ⟨⟩
        exact hs.digest digest active hdigest hbinding
      · rintro _ ⟨⟩ hnonempty
        exact hs.services active hbinding hnonempty
      · rintro binding (h | hstaged)
        · cases h
          exact hs.expires active (.inl hbinding)
        · dsimp only at hstaged
          split at hstaged
          · cases hstaged
          · exact hs.expires binding (.inr hstaged)

/-- What a call leaves: a sound coordinator, and everything that was received against
a lease that has stayed. -/
def Left (acknowledged : List Acknowledgement) (s s' : ConnectionCoordinator) : Prop :=
  Sound acknowledged s' ∧ Grows (fun leaseId => s.Names leaseId ∧ s'.Names leaseId) s s'

section

variable {acknowledged : List Acknowledgement}

theorem left_of_grows (hs' : Sound acknowledged s' ∧ Grows (fun _ => True) s s') :
    Left acknowledged s s' := ⟨hs'.1, hs'.2.mono fun _ _ => trivial⟩

variable (hs : Sound acknowledged s)

include hs

theorem left_refl : Left acknowledged s s := ⟨hs, .refl⟩

theorem left_of_adds (h : Adds s s') : Left acknowledged s s' :=
  left_of_grows ⟨h.sound hs, h.grows⟩

theorem left_of_stages (h : Stages s s') : Left acknowledged s s' :=
  left_of_grows ⟨h.sound hs, h.grows⟩

theorem sound_of_install {active : SmartAccessRuntimeLeases} (hactive : s.activeLeases = some active)
    {leases : List SmartAccessLeaseIdentity} {grants : List VerifiedSmartAccessLease}
    {renewals : Text → Option SmartAccessLeaseRenewal}
    (hadds : Adds { s.install (s.rebind active leases grants) with
      smartAccessRenewals := renewals } s') :
    Sound acknowledged s' ∧ Grows s'.Names s s' := by
  rcases sound_install hs hactive leases grants with ⟨hsound, hgrows⟩
  have hstages : Stages (s.install (s.rebind active leases grants))
      { s.install (s.rebind active leases grants) with smartAccessRenewals := renewals } :=
    ⟨rfl, fun _ => .inl⟩
  refine ⟨hadds.sound (hstages.sound hsound), (hgrows.mono ?_).trans
    (hstages.grows.trans (hadds.grows.mono fun _ _ => trivial))⟩
  rintro leaseId ⟨binding, hbinding, hmem⟩
  rw [hadds.active] at hbinding
  cases hbinding
  exact hmem

theorem left_retainSmartAccessRenewal (renewal : SmartAccessLeaseRenewal)
    (stored : StoredSmartAccessRuntime) (generation : Nat) (now : DateTime)
    (clock : SmartAccessLeaseIdentity → DateTime) (now' : DateTime) :
    wp (retainSmartAccessRenewal renewal stored generation now clock now')
      (fun _ s' => Left acknowledged s s') s := by
  unfold retainSmartAccessRenewal
  rw [wp_bind, wp_get, next_ok]
  cases hactive : s.activeSmartAccessLeases with
  | none => exact left_refl hs
  | some active =>
    have hbinding := active_of_activeSmartAccessLeases hactive
    refine wp_ite (fun _ => left_refl hs) fun _ => wp_ite (fun _ => left_refl hs) fun _ => ?_
    rw [wp_bind, wp_modify, next_ok]
    refine Preserves.wp (R := Adds) ?_ fun _ s' h =>
      (sound_of_install hs hbinding h).imp_right (·.mono fun _ hnames => hnames.2)
    refine .bind (fun s' => adds_receiveSmartAccessRevocations _ s' _) fun _ => .bind ?_ fun _ =>
      .bind (preserves_receiveCatalogServiceRevocations _ _) fun _ => .bind .get fun _ => .pure
    intro s'
    show Adds s' (if stored.catalogRevoked then _ else s')
    split
    · exact adds_receiveCatalogRevocation _ s' _
    · exact .refl

end

/-! ## Recovering the inventory -/

/-- Where a binding has no restriction metadata it has no lease and no catalog. -/
theorem Sound.no_services {acknowledged : List Acknowledgement} (hs : Sound acknowledged s)
    {active : SmartAccessRuntimeLeases} (hactive : s.activeLeases = some active)
    (hmetadata : active.hasRestrictionMetadata = false) :
    active.leases = [] ∧ s.catalogServiceRevocations = ∅ := by
  simp only [SmartAccessRuntimeLeases.hasRestrictionMetadata, Bool.or_eq_false_iff] at hmetadata
  rcases hmetadata with ⟨hundated, hleases⟩
  constructor
  · simpa using hleases
  · by_contra hnonempty
    have hidentity := hs.services active hactive (Finset.nonempty_iff_ne_empty.mpr hnonempty)
    have hexpires := hs.expires active (.inl hactive) hidentity
    rw [hundated] at hexpires
    cases hexpires

theorem adds_receivePolicyAgain (s : ConnectionCoordinator)
    (policyRevocation : Option SmartAccessLeaseRevocation) :
    Adds s (s.receivePolicyAgain binding policyRevocation) := by
  cases policyRevocation with
  | none => exact .refl
  | some decision => exact adds_receiveSmartAccessPolicyRevocation binding s decision

/-- A policy decision that the active binding receives is held. -/
theorem holds_receivePolicyAgain {policyRevocation : Option SmartAccessLeaseRevocation}
    (hactive : s.isActive binding = true) {decision : SmartAccessLeaseRevocation}
    (h : Holds policyRevocation decision) :
    Holds (s.receivePolicyAgain binding policyRevocation).smartAccessPolicyRevocation decision := by
  rcases h with ⟨stricter, rfl, hle⟩
  show Holds (s.receiveSmartAccessPolicyRevocation binding stricter).smartAccessPolicyRevocation
    decision
  rw [receiveSmartAccessPolicyRevocation, if_pos hactive]
  refine (adds_receiveSmartAccessRevocations binding _ _).grows.policy decision (holds_some ?_)
  split
  · exact le_terminate decision
  · exact hle

section

variable {acknowledged : List Acknowledgement}

theorem sound_recover (hs : Sound acknowledged s) (hdated : Dated binding)
    (hdigest : s.effectiveProfileDigest = some binding.profileDigest)
    (catalogRevoked catalogWithdrawn : Bool) :
    Sound acknowledged (s.recover binding catalogRevoked catalogWithdrawn) := by
  constructor
  · rintro digest _ hdigest' ⟨⟩
    exact Option.some.inj (hdigest.symm.trans hdigest')
  · exact fun h => absurd h (Option.some_ne_none _)
  · intro other _ hnonempty
    exact absurd hnonempty Finset.not_nonempty_empty
  · rintro other (hactive | hstaged)
    · cases hactive
      exact hdated
    · exact hs.expires other (.inr hstaged)
  · intro leaseId decision h
    cases h
  · intro decision h
    simp only [recover] at h
    split at h
    · exact hs.policyCovered decision h
    · cases h
  · intro serviceId h
    simp only [recover] at h
    split at h
    · exact hs.serviceCovered serviceId h
    · exact absurd h (Finset.notMem_empty serviceId)
  · intro h
    simp only [recover, Bool.and_eq_true] at h
    exact hs.catalogCovered h.2
  · exact hs.alive

/-- What a recovery clears is nothing of the profile that is there: its binding has
no lease and no service. -/
theorem grows_recover (hs : Sound acknowledged s) (hdisposed : s.disposed = false)
    (hrunning : s.isRunning = true)
    (hdigest : s.effectiveProfileDigest = some binding.profileDigest)
    (hmetadata : s.hasRestrictionMetadata = false) {catalogRevoked catalogWithdrawn : Bool}
    (hgrows : Grows (fun _ => True) (s.recover binding catalogRevoked catalogWithdrawn) s')
    (hpolicy : s.hasProfile binding = true → ∀ decision,
      Holds s.smartAccessPolicyRevocation decision →
        Holds s'.smartAccessPolicyRevocation decision) : Grows s.Names s s' := by
  cases hactive : s.activeLeases with
  | none => exact hs.grows_idle hactive
  | some active =>
    have hprofile := hs.digest _ active hdigest hactive
    have hsame : s.hasProfile binding = true := by simp [hasProfile, hactive, hprofile]
    have hbinding : s.isActive active = true :=
      isActive_iff.mpr ⟨hdisposed, hrunning, hprofile ▸ hdigest, hactive⟩
    have hempty : active.hasRestrictionMetadata = false := by
      rw [hasRestrictionMetadata, of_decide_eq_true hbinding] at hmetadata
      exact hmetadata
    rcases hs.no_services hactive hempty with ⟨hleases, hservices⟩
    constructor
    · intro h
      exact hgrows.catalogRevoked (by simp [recover, hsame, h])
    · intro h
      exact hgrows.catalogWithdrawn (by simp [recover, hsame, h])
    · exact hpolicy hsame
    · simp [hservices]
    · rintro leaseId ⟨other, hother, hmem⟩
      rw [hactive] at hother
      cases hother
      simp [SmartAccessRuntimeLeases.leaseIds, hleases] at hmem

theorem sound_restoreSmartAccessLeases (hs : Sound acknowledged s) (hdated : Dated binding)
    (decisions : Decisions) (generation : Nat) (catalogRevoked catalogWithdrawn : Bool)
    (catalogServiceRevocations : Finset Text) :
    wp (restoreSmartAccessLeases binding decisions generation catalogRevoked catalogWithdrawn
      catalogServiceRevocations) (fun _ s' => Sound acknowledged s' ∧ Grows s.Names s s') s := by
  unfold restoreSmartAccessLeases
  rw [wp_bind, wp_get, next_ok]
  refine wp_ite (fun _ => ⟨hs, .refl⟩) fun hguard => ?_
  simp only [not_or, ne_eq, not_not, Bool.not_eq_false, Bool.not_eq_true] at hguard
  rcases hguard with ⟨howns, hrunning, hdigest, hmetadata⟩
  have hdisposed : s.disposed = false := by
    simp only [ownsOperation, Bool.and_eq_true] at howns
    simpa using howns.1
  simp only [wp_bind, wp_modify, next_ok]
  refine (preserves_receiveCatalogServiceRevocations binding _).wp fun _ s' hservices => ?_
  have hreceived := adds_receiveSmartAccessRevocations binding
    (s.recover binding catalogRevoked catalogWithdrawn) decisions
  have hpolicy := hreceived.trans (adds_receivePolicyAgain binding _
    (if s.hasProfile binding then s.smartAccessPolicyRevocation else none))
  have hlast : ∀ {s3 : ConnectionCoordinator}, Adds (if s3.catalogRevoked then
      s3.receiveCatalogRevocation binding s3.catalogWithdrawn else s3) s' → Adds s3 s' := by
    intro s3 h
    refine .trans ?_ h
    split
    · exact adds_receiveCatalogRevocation binding s3 _
    · exact .refl
  have hrest := hlast hservices
  have hall := hpolicy.trans hrest
  refine ⟨hall.sound (sound_recover binding hs hdated hdigest _ _),
    grows_recover binding hs hdisposed hrunning hdigest hmetadata hall.grows ?_⟩
  intro hsame decision hholds
  refine hrest.grows.policy decision (holds_receivePolicyAgain binding ?_ ?_)
  · rw [hreceived.isActive]
    exact isActive_iff.mpr ⟨hdisposed, hrunning, hdigest, rfl⟩
  · rw [if_pos hsame]
    exact hholds

theorem sound_retainOverActive (hs : Sound acknowledged s) (stored : StoredSmartAccessRuntime)
    (currentLeaseIds : List Text) (clock : SmartAccessLeaseIdentity → DateTime) :
    wp (retainOverActive stored currentLeaseIds clock)
      (fun _ s' => Sound acknowledged s' ∧ Grows s'.Names s s') s := by
  unfold retainOverActive
  rw [wp_bind, wp_get, next_ok]
  cases hactive : s.activeSmartAccessLeases with
  | none => exact ⟨hs, .refl⟩
  | some active =>
    have hbinding := active_of_activeSmartAccessLeases hactive
    refine wp_ite (fun _ => ⟨hs, .refl⟩) fun _ => ?_
    rw [wp_bind, wp_modify, next_ok, wp_bind, wp_modify, next_ok]
    refine Preserves.wp (R := Adds) ?_ fun _ s' hadds => ?_
    · refine .bind (fun s' => adds_receiveSmartAccessRevocations _ s' _) fun _ => .bind ?_ fun _ =>
        .bind .get fun _ => .bind (preserves_receiveCatalogServiceRevocations _ _) fun _ =>
        .bind (fun s' => adds_receivePolicyAgain _ s' _) fun _ => .pure
      intro s'
      show Adds s' (if stored.catalogRevoked || s'.catalogRevoked then _ else s')
      split
      · exact adds_receiveCatalogRevocation _ s' _
      · exact .refl
    · exact sound_of_install hs hbinding hadds

theorem left_retainNativeSmartAccessLeases (hs : Sound acknowledged s)
    (stored : StoredSmartAccessRuntime) (hdated : Dated stored.binding) (generation : Nat)
    (currentLeaseIds : List Text) (ownedTransport : Bool)
    (clock : SmartAccessLeaseIdentity → DateTime) :
    wp (retainNativeSmartAccessLeases stored generation currentLeaseIds ownedTransport clock)
      (fun _ s' => Left acknowledged s s') s := by
  unfold retainNativeSmartAccessLeases
  rw [wp_bind, wp_get, next_ok]
  refine wp_ite (fun _ => left_refl hs) fun _ => ?_
  have hretain : ∀ {s1 : ConnectionCoordinator}, Sound acknowledged s1 → Grows s.Names s s1 →
      wp (retainOverActive stored currentLeaseIds clock)
        (fun _ s' => Left acknowledged s s') s1 := by
    intro s1 hs1 hgrows1
    refine wp_mono (sound_retainOverActive hs1 stored currentLeaseIds clock) ?_
    rintro _ s2 ⟨hs2, hgrows2⟩
    exact ⟨hs2, (hgrows1.mono fun _ h => h.1).trans (hgrows2.mono fun _ h => h.2)⟩
  refine wp_ite (fun _ => ?_) fun _ => hretain hs .refl
  rw [wp_bind]
  refine wp_mono (sound_restoreSmartAccessLeases _ hs hdated _ _ _ _ _) ?_
  rintro (failure | ⟨⟩) s1 ⟨hs1, hgrows1⟩
  · exact ⟨hs1, hgrows1.mono fun _ h => h.1⟩
  · exact hretain hs1 hgrows1

end

/-! ## Snapshots -/

/-- The snapshot is not of another profile than the active binding. -/
def SameProfile (s : ConnectionCoordinator) (snapshot : Option RuntimeSnapshot) : Prop :=
  ∀ digest binding, snapshot.bind (·.effectiveProfileDigest) = some digest →
    s.activeLeases = some binding → binding.profileDigest = digest

/-- A snapshot that says that the runtime does not run. -/
def Ends (snapshot : Option RuntimeSnapshot) : Prop := ∃ last, snapshot = some last ∧ last.phase ≠ .running

instance (snapshot : Option RuntimeSnapshot) : Decidable (Ends snapshot) :=
  match snapshot with
  | none => isFalse fun ⟨_, h, _⟩ => by cases h
  | some last => decidable_of_iff (last.phase ≠ .running) (by simp [Ends])

section

variable {acknowledged : List Acknowledgement}

variable {snapshot : Option RuntimeSnapshot}

/-- A new profile: nothing is left of the last one, which had nothing. -/
theorem sound_followProfile (hs : Sound acknowledged s) (hsame : SameProfile s snapshot) :
    let s' := s.followProfile (snapshot.bind (·.effectiveProfileDigest))
    Sound acknowledged { s' with snapshot } ∧ Grows (fun _ => True) s { s' with snapshot } := by
  cases hdigest : snapshot.bind (·.effectiveProfileDigest) with
  | none =>
    refine ⟨⟨?_, hs.idle, hs.services, hs.expires, hs.leaseCovered, hs.policyCovered,
      hs.serviceCovered, hs.catalogCovered, hs.alive⟩,
      ⟨id, id, fun _ => id, Finset.Subset.refl _, fun _ _ _ => id⟩⟩
    intro digest binding h
    cases hdigest.symm.trans h
  | some digest =>
    cases hactive : s.activeLeases with
    | some active =>
      have hprofile := hsame digest active hdigest hactive
      have hkept : s.followProfile (some digest) = s := by
        simp [followProfile, hactive, hprofile]
      dsimp only
      rw [hkept]
      refine ⟨⟨?_, hs.idle, hs.services, hs.expires, hs.leaseCovered, hs.policyCovered,
        hs.serviceCovered, hs.catalogCovered, hs.alive⟩,
        ⟨id, id, fun _ => id, Finset.Subset.refl _, fun _ _ _ => id⟩⟩
      exact fun other binding h hbinding => hsame other binding h hbinding
    | none =>
      have hchanged : s.followProfile (some digest) = s.changeProfile digest := by
        simp [followProfile, hactive]
      dsimp only
      rw [hchanged]
      refine ⟨⟨?_, ?_, ?_, ?_, ?_, ?_, ?_, ?_, hs.alive⟩, hs.grows_idle hactive⟩
      · intro other binding hother hbinding
        have hnew : some digest = some other := hdigest.symm.trans hother
        simp only [changeProfile] at hbinding
        split at hbinding
        · rename_i hstaged
          rw [hbinding] at hstaged
          rw [← Option.some.inj hnew]
          simpa using hstaged
        · cases hbinding
      · exact fun _ => ⟨rfl, rfl, rfl, rfl, fun _ => rfl⟩
      · intro binding _ hnonempty
        exact absurd hnonempty Finset.not_nonempty_empty
      · rintro binding (hbinding | hstaged)
        · simp only [changeProfile] at hbinding
          split at hbinding
          · exact hs.expires binding (.inr hbinding)
          · cases hbinding
        · exact hs.expires binding (.inr hstaged)
      · intro leaseId decision h
        cases h
      · intro decision h
        cases h
      · intro serviceId h
        exact absurd h (Finset.notMem_empty serviceId)
      · intro h
        cases h

theorem sound_endInstance (hs : Sound acknowledged { s with snapshot }) :
    Sound [] { s.endInstance with snapshot } := by
  have hactive : ∀ binding, s.endInstance.activeLeases = some binding →
      ∃ last, s.activeLeases = some last ∧ binding.profileDigest = last.profileDigest ∧
        binding.catalogIdentity = last.catalogIdentity ∧
        binding.catalogExpiresAt = last.catalogExpiresAt := by
    intro binding hbinding
    simp only [endInstance] at hbinding
    split at hbinding
    · rcases Option.map_eq_some_iff.mp hbinding with ⟨last, hlast, rfl⟩
      exact ⟨last, hlast, rfl, rfl, rfl⟩
    · exact ⟨binding, hbinding, rfl, rfl, rfl⟩
  constructor
  · intro digest binding hdigest hbinding
    rcases hactive binding hbinding with ⟨last, hlast, hprofile, -⟩
    rw [hprofile]
    exact hs.digest digest last hdigest hlast
  · intro hnone
    refine hs.idle ?_
    simp only [endInstance] at hnone
    split at hnone
    · exact Option.map_eq_none_iff.mp hnone
    · exact hnone
  · intro binding hbinding hnonempty
    rcases hactive binding hbinding with ⟨last, hlast, -, hidentity, -⟩
    rw [hidentity]
    exact hs.services last hlast hnonempty
  · rintro binding (hbinding | hstaged)
    · rcases hactive binding hbinding with ⟨last, hlast, -, hidentity, hexpires⟩
      rw [hidentity, hexpires]
      exact hs.expires last (.inl hlast)
    · exact hs.expires binding (.inr hstaged)
  · intro leaseId decision h
    cases h
  · intro decision h
    cases h
  · intro serviceId h
    exact absurd h (Finset.notMem_empty serviceId)
  · intro h
    cases h
  · exact hs.alive

/-- The acknowledgements of an instance are over when it is. -/
theorem sound_updateSnapshot (hs : Sound acknowledged s) (hsame : SameProfile s snapshot) :
    Sound (if Ends snapshot then [] else acknowledged) (s.updateSnapshot snapshot) ∧
      Grows (fun _ => True) s (s.updateSnapshot snapshot) := by
  rcases sound_followProfile hs hsame with ⟨hsound, hgrows⟩
  unfold updateSnapshot
  generalize s.followProfile _ = followed at *
  cases hsnapshot : snapshot with
  | none =>
    have hkept : followed.followPhase (snapshot.map (·.phase)) = followed := by
      simp [hsnapshot, followPhase]
    rw [← hsnapshot, if_neg (by simp [Ends, hsnapshot]), hkept]
    exact ⟨hsound, hgrows⟩
  | some last =>
    rw [← hsnapshot]
    by_cases hphase : last.phase = .running
    · rw [if_neg (by simp [Ends, hsnapshot, hphase])]
      have hkept : followed.followPhase (snapshot.map (·.phase)) = followed := by
        simp [hsnapshot, hphase, followPhase]
      rw [hkept]
      exact ⟨hsound, hgrows⟩
    · have hended : followed.followPhase (snapshot.map (·.phase)) = followed.endInstance := by
        cases last with
        | mk phase staged effective => cases phase <;> simp_all [followPhase]
      rw [if_pos ⟨last, hsnapshot, hphase⟩, hended]
      exact ⟨sound_endInstance hsound, hgrows.trans
        ⟨id, id, fun _ => id, Finset.Subset.refl _, fun _ _ _ => id⟩⟩

end

end ConnectionCoordinator

/-! ## Runs -/

inductive CoordinatorCall
  | acknowledgeSmartAccessStage (staged : RuntimeSnapshot) (grants : List VerifiedSmartAccessLease)
      (generation : Nat) (catalogIssuedAt catalogExpiresAt : Option DateTime)
      (catalogSha256 : Option Text) (catalogIdentity : Option CatalogRuntimeIdentity)
  | invalidateSmartAccessStagedReuse (profileDigest : Text)
  | discardSmartAccessRenewal (renewal : SmartAccessLeaseRenewal) (generation : Nat)
  | prepareSmartAccessRenewal (binding : SmartAccessRuntimeLeases) (previousLeaseId : Text)
      (next : VerifiedSmartAccessLease) (generation : Nat) (currentLeaseIds : List Text)
      (now now' : DateTime)
  | retainSmartAccessRenewal (renewal : SmartAccessLeaseRenewal) (stored : StoredSmartAccessRuntime)
      (generation : Nat) (now : DateTime) (clock : SmartAccessLeaseIdentity → DateTime)
      (now' : DateTime)
  | acknowledgeSmartAccessRenewal (renewal : SmartAccessLeaseRenewal) (generation : Nat)
      (now : DateTime)
  | retainNativeSmartAccessLeases (stored : StoredSmartAccessRuntime) (generation : Nat)
      (currentLeaseIds : List Text) (ownedTransport : Bool)
      (clock : SmartAccessLeaseIdentity → DateTime)
  | restoreSmartAccessLeases (binding : SmartAccessRuntimeLeases) (decisions : Decisions)
      (generation : Nat) (catalogRevoked catalogWithdrawn : Bool)
      (catalogServiceRevocations : Finset Text)
  | receiveCatalogRevocation (binding : SmartAccessRuntimeLeases) (withdrawCatalog : Bool)
  | receiveCatalogServiceRevocations (binding : SmartAccessRuntimeLeases) (serviceIds : Finset Text)
  | receiveSmartAccessPolicyRevocation (binding : SmartAccessRuntimeLeases)
      (decision : SmartAccessLeaseRevocation)
  | receiveSmartAccessRevocations (binding : SmartAccessRuntimeLeases) (decisions : Decisions)
  | acknowledgeCatalogRevocation (binding : SmartAccessRuntimeLeases)
  | acknowledgeCatalogServiceRevocation (binding : SmartAccessRuntimeLeases) (serviceId : Text)
  | acknowledgeSmartAccessPolicyRevocation (binding : SmartAccessRuntimeLeases)
      (decision : SmartAccessLeaseRevocation)
  | acknowledgeSmartAccessRevocation (binding : SmartAccessRuntimeLeases) (leaseId : Text)
      (decision : SmartAccessLeaseRevocation)
  | updateSnapshot (snapshot : Option RuntimeSnapshot)
  | updateActionInFlight (value preserveOperation : Bool)

namespace CoordinatorCall

/-- What a call makes of the coordinator, also where it throws. -/
def exec (s : ConnectionCoordinator) : CoordinatorCall → ConnectionCoordinator
  | acknowledgeSmartAccessStage staged grants generation issuedAt expiresAt sha256 identity =>
    s.acknowledgeSmartAccessStage staged grants generation issuedAt expiresAt sha256 identity
  | invalidateSmartAccessStagedReuse profileDigest =>
    s.invalidateSmartAccessStagedReuse profileDigest
  | discardSmartAccessRenewal renewal generation => s.discardSmartAccessRenewal renewal generation
  | prepareSmartAccessRenewal binding previousLeaseId next generation currentLeaseIds now now' =>
    (AppShell.prepareSmartAccessRenewal binding previousLeaseId next generation currentLeaseIds now
      now' s).2
  | retainSmartAccessRenewal renewal stored generation now clock now' =>
    (AppShell.retainSmartAccessRenewal renewal stored generation now clock now' s).2
  | acknowledgeSmartAccessRenewal renewal generation now =>
    s.acknowledgeSmartAccessRenewal renewal generation now
  | retainNativeSmartAccessLeases stored generation currentLeaseIds ownedTransport clock =>
    (AppShell.retainNativeSmartAccessLeases stored generation currentLeaseIds ownedTransport clock
      s).2
  | restoreSmartAccessLeases binding decisions generation revoked withdrawn services =>
    (AppShell.restoreSmartAccessLeases binding decisions generation revoked withdrawn services s).2
  | receiveCatalogRevocation binding withdrawCatalog =>
    s.receiveCatalogRevocation binding withdrawCatalog
  | receiveCatalogServiceRevocations binding serviceIds =>
    (AppShell.receiveCatalogServiceRevocations binding serviceIds s).2
  | receiveSmartAccessPolicyRevocation binding decision =>
    s.receiveSmartAccessPolicyRevocation binding decision
  | receiveSmartAccessRevocations binding decisions =>
    s.receiveSmartAccessRevocations binding decisions
  | acknowledgeCatalogRevocation binding => s.acknowledgeCatalogRevocation binding
  | acknowledgeCatalogServiceRevocation binding serviceId =>
    s.acknowledgeCatalogServiceRevocation binding serviceId
  | acknowledgeSmartAccessPolicyRevocation binding decision =>
    s.acknowledgeSmartAccessPolicyRevocation binding decision
  | acknowledgeSmartAccessRevocation binding leaseId decision =>
    s.acknowledgeSmartAccessRevocation binding leaseId decision
  | updateSnapshot snapshot => s.updateSnapshot snapshot
  | updateActionInFlight value preserveOperation => s.updateActionInFlight value preserveOperation

/-- What a call acknowledges, where its binding is the active one. -/
def acknowledges : CoordinatorCall → Option (SmartAccessRuntimeLeases × Acknowledgement)
  | acknowledgeCatalogRevocation binding => some (binding, .catalog)
  | acknowledgeCatalogServiceRevocation binding serviceId =>
    some (binding, .service serviceId
      ((binding.leases.filter (·.serviceId = serviceId)).map (·.leaseId)))
  | acknowledgeSmartAccessPolicyRevocation binding decision => some (binding, .policy decision)
  | acknowledgeSmartAccessRevocation binding leaseId decision =>
    some (binding, .lease leaseId decision)
  | _ => none

/-- Catalogs come with the time that they expire, and no snapshot is of another
profile than the active binding. -/
def Proper (s : ConnectionCoordinator) : CoordinatorCall → Prop
  | acknowledgeSmartAccessStage _ _ _ _ expiresAt _ identity => identity.isSome → expiresAt.isSome
  | retainNativeSmartAccessLeases stored _ _ _ _ => Dated stored.binding
  | restoreSmartAccessLeases binding _ _ _ _ _ => Dated binding
  | updateSnapshot snapshot => SameProfile s snapshot
  | _ => True

end CoordinatorCall

/-- A coordinator and what the running instance has acknowledged to it. -/
structure Ledger where
  coordinator : ConnectionCoordinator := {}
  acknowledged : List Acknowledgement := []

namespace Ledger

open CoordinatorCall

/-- What is acknowledged after a call. -/
def acknowledgedAfter (ledger : Ledger) (call : CoordinatorCall) : List Acknowledgement :=
  match call, call.acknowledges with
  | .updateSnapshot snapshot, _ => if Ends snapshot then [] else ledger.acknowledged
  | _, some (binding, acknowledgement) =>
    if ledger.coordinator.isActive binding then ledger.acknowledged ++ [acknowledgement]
    else ledger.acknowledged
  | _, none => ledger.acknowledged

def after (ledger : Ledger) (call : CoordinatorCall) : Ledger :=
  ⟨call.exec ledger.coordinator, ledger.acknowledgedAfter call⟩

def run (ledger : Ledger) (calls : List CoordinatorCall) : Ledger := Runs.run after ledger calls

def Properly (ledger : Ledger) : List CoordinatorCall → Prop
  | [] => True
  | call :: calls => call.Proper ledger.coordinator ∧ Properly (ledger.after call) calls

def Sound (ledger : Ledger) : Prop := ledger.coordinator.Sound ledger.acknowledged

/-- The lease is in the active binding before, between and after the calls. -/
def NamedThroughout (ledger : Ledger) (calls : List CoordinatorCall) (leaseId : Text) : Prop :=
  ∀ part, part <+: calls → (ledger.run part).coordinator.Names leaseId

/-- What has been received is reported, or it has been acknowledged as strictly. -/
structure Reported (ledger : Ledger) (binding : SmartAccessRuntimeLeases) : Prop where
  catalog : ledger.coordinator.catalogRevoked = true →
    ledger.coordinator.needsCatalogRevocation binding = true ∨ .catalog ∈ ledger.acknowledged
  policy : ∀ decision, ledger.coordinator.smartAccessPolicyRevocation = some decision →
    ledger.coordinator.pendingSmartAccessPolicyRevocation binding = some decision ∨
      PolicyCovered ledger.acknowledged decision
  services : ∀ serviceId ∈ ledger.coordinator.catalogServiceRevocations,
    serviceId ∈ ledger.coordinator.pendingCatalogServiceRevocations binding ∨
      ServiceCovered ledger.acknowledged serviceId
  leases : ∀ leaseId decision, ledger.coordinator.pendingRevocations leaseId = some decision →
    ledger.coordinator.pendingSmartAccessRevocations binding leaseId = some decision ∨
      Covered ledger.acknowledged leaseId decision

variable {ledger : Ledger}

theorem Sound.initial : Sound {} := by
  constructor
  · intro digest binding h
    cases h
  · exact fun _ => ⟨rfl, rfl, rfl, rfl, fun _ => rfl⟩
  · intro binding h
    cases h
  · rintro binding (h | h)
    · cases h
    · cases h
  · intro leaseId decision h
    cases h
  · intro decision h
    cases h
  · intro serviceId h
    exact absurd h (Finset.notMem_empty serviceId)
  · intro h
    cases h
  · rfl

/-- An acknowledgement is on the list before the coordinator takes it. -/
theorem sound_acknowledging (h : ledger.Sound) (binding : SmartAccessRuntimeLeases)
    (acknowledgement : Acknowledgement) :
    let acknowledged := if ledger.coordinator.isActive binding then
      ledger.acknowledged ++ [acknowledgement] else ledger.acknowledged
    ledger.coordinator.Sound acknowledged ∧
      (ledger.coordinator.isActive binding = true → acknowledgement ∈ acknowledged) := by
  dsimp only
  split
  · exact ⟨ConnectionCoordinator.Sound.acknowledged_mono h (List.subset_append_left _ _), fun _ => by simp⟩
  · rename_i hinactive
    exact ⟨h, fun hactive => absurd hactive hinactive⟩

/-- What one call keeps. -/
theorem Sound.after (h : ledger.Sound) {call : CoordinatorCall}
    (hproper : call.Proper ledger.coordinator) :
    Left (ledger.acknowledgedAfter call) ledger.coordinator (ledger.after call).coordinator := by
  cases call with
  | acknowledgeSmartAccessStage staged grants generation issuedAt expiresAt sha256 identity =>
    exact left_of_stages h (stages_acknowledgeSmartAccessStage _ _ _ _ _ _ _ _ hproper)
  | invalidateSmartAccessStagedReuse profileDigest =>
    exact left_of_stages h (stages_invalidateSmartAccessStagedReuse _ _)
  | discardSmartAccessRenewal renewal generation =>
    exact left_of_stages h (stages_discardSmartAccessRenewal _ _ _)
  | prepareSmartAccessRenewal binding previousLeaseId next generation currentLeaseIds now now' =>
    exact left_of_stages h (preserves_prepareSmartAccessRenewal _ _ _ _ _ _ _ _)
  | retainSmartAccessRenewal renewal stored generation now clock now' =>
    exact left_retainSmartAccessRenewal h renewal stored generation now clock now'
  | acknowledgeSmartAccessRenewal renewal generation now =>
    exact left_of_grows (sound_acknowledgeSmartAccessRenewal h renewal generation now)
  | retainNativeSmartAccessLeases stored generation currentLeaseIds ownedTransport clock =>
    exact left_retainNativeSmartAccessLeases h stored hproper generation currentLeaseIds
      ownedTransport clock
  | restoreSmartAccessLeases binding decisions generation revoked withdrawn services =>
    exact (sound_restoreSmartAccessLeases binding h hproper decisions generation revoked withdrawn
      services).imp_right (·.mono fun _ hnames => hnames.1)
  | receiveCatalogRevocation binding withdrawCatalog =>
    exact left_of_adds h (adds_receiveCatalogRevocation _ _ _)
  | receiveCatalogServiceRevocations binding serviceIds =>
    exact left_of_adds h (preserves_receiveCatalogServiceRevocations _ _ _)
  | receiveSmartAccessPolicyRevocation binding decision =>
    exact left_of_adds h (adds_receiveSmartAccessPolicyRevocation _ _ _)
  | receiveSmartAccessRevocations binding decisions =>
    exact left_of_adds h (adds_receiveSmartAccessRevocations _ _ _)
  | acknowledgeCatalogRevocation binding =>
    rcases sound_acknowledging h binding .catalog with ⟨hsound, hmem⟩
    exact ⟨sound_acknowledgeCatalogRevocation binding hsound hmem,
      (marks_acknowledgeCatalogRevocation binding _).grows⟩
  | acknowledgeCatalogServiceRevocation binding serviceId =>
    rcases sound_acknowledging h binding (.service serviceId
      ((binding.leases.filter (·.serviceId = serviceId)).map (·.leaseId))) with ⟨hsound, hmem⟩
    exact (sound_acknowledgeCatalogServiceRevocation binding hsound hmem).imp_right (·.grows)
  | acknowledgeSmartAccessPolicyRevocation binding decision =>
    rcases sound_acknowledging h binding (.policy decision) with ⟨hsound, hmem⟩
    exact ⟨sound_acknowledgeSmartAccessPolicyRevocation binding hsound hmem,
      (marks_acknowledgeSmartAccessPolicyRevocation binding _ _).grows⟩
  | acknowledgeSmartAccessRevocation binding leaseId decision =>
    rcases sound_acknowledging h binding (.lease leaseId decision) with ⟨hsound, hmem⟩
    exact ⟨sound_acknowledgeSmartAccessRevocation binding hsound
      fun hactive => ⟨_, hmem hactive, rfl, .inr rfl⟩,
      (marks_acknowledgeSmartAccessRevocation binding _ _ _).grows⟩
  | updateSnapshot snapshot => exact left_of_grows (sound_updateSnapshot h hproper)
  | updateActionInFlight value preserveOperation =>
    exact left_of_stages h (stages_updateActionInFlight _ _ _)

/-- By induction on the calls: what one keeps, they keep together. -/
theorem Sound.run (h : ledger.Sound) {calls : List CoordinatorCall}
    (hproper : ledger.Properly calls) :
    (ledger.run calls).Sound ∧ Grows (ledger.NamedThroughout calls) ledger.coordinator
      (ledger.run calls).coordinator := by
  induction calls generalizing ledger with
  | nil => exact ⟨h, .refl⟩
  | cons call calls ih =>
    have hstep := h.after hproper.1
    have hsound : (ledger.after call).Sound := hstep.1
    have hrest := ih hsound hproper.2
    refine ⟨hrest.1, (hstep.2.mono ?_).trans (hrest.2.mono ?_)⟩
    · intro leaseId hnamed
      exact ⟨hnamed [] (by simp), hnamed [call] (by simp)⟩
    · intro leaseId hnamed part hpart
      exact hnamed (call :: part) (List.cons_prefix_cons.mpr ⟨rfl, hpart⟩)

theorem Properly.split {calls calls' : List CoordinatorCall} (h : ledger.Properly (calls ++ calls')) :
    ledger.Properly calls ∧ (ledger.run calls).Properly calls' := by
  induction calls generalizing ledger with
  | nil => exact ⟨trivial, h⟩
  | cons call calls ih => exact ⟨⟨h.1, (ih h.2).1⟩, (ih h.2).2⟩

/-! ## What is reported -/

theorem Sound.reported (h : ledger.Sound) {binding : SmartAccessRuntimeLeases}
    (hactive : ledger.coordinator.isActive binding = true) : ledger.Reported binding := by
  constructor
  · intro hrevoked
    by_cases hacknowledged : ledger.coordinator.catalogRevocationAcknowledged = true
    · exact .inr (h.catalogCovered hacknowledged)
    · refine .inl ?_
      simp [needsCatalogRevocation, receivedCatalogRevocation, hactive, hrevoked, hacknowledged]
  · intro decision hpolicy
    unfold pendingSmartAccessPolicyRevocation
    split
    · rename_i hsettled
      rcases hsettled with hinactive | hnone | hterminate | hsame
      · rw [hactive] at hinactive
        cases hinactive
      · cases hnone.symm.trans hpolicy
      · rcases h.policyCovered .terminate hterminate with ⟨stricter, hmem, hle⟩
        exact .inr ⟨stricter, hmem, SmartAccessLeaseRevocation.le_trans (le_terminate decision) hle⟩
      · exact .inr (h.policyCovered decision (hsame.trans hpolicy))
    · exact .inl hpolicy
  · intro serviceId hservice
    by_cases hacknowledged : serviceId ∈ ledger.coordinator.catalogServiceAcknowledgements
    · exact .inr (h.serviceCovered serviceId hacknowledged)
    · refine .inl ?_
      simp [pendingCatalogServiceRevocations, receivedCatalogServiceRevocations, hactive, hservice,
        hacknowledged]
  · intro leaseId decision hpending
    by_cases hneeds : ledger.coordinator.needsSmartAccessRevocation binding leaseId decision = true
    · refine .inl ?_
      simp [pendingSmartAccessRevocations, hpending, hneeds]
    · refine .inr ?_
      simp only [needsSmartAccessRevocation, hactive, Bool.true_eq_false, if_false] at hneeds
      split at hneeds
      · rename_i hpolicy
        rcases hpolicy with hterminate | hsame
        · exact (PolicyCovered.covered (h.policyCovered _ hterminate) leaseId).le
            (le_terminate decision)
        · exact PolicyCovered.covered (h.policyCovered _ hsame) leaseId
      · cases happlied : ledger.coordinator.smartAccessRevocations leaseId with
        | none => simp [happlied] at hneeds
        | some applied =>
          refine (h.leaseCovered leaseId applied happlied).le ?_
          cases applied with
          | terminate => exact le_terminate decision
          | drain =>
            cases decision with
            | drain => exact .inr rfl
            | terminate => simp [happlied] at hneeds

/-- The instance that comes next has acknowledged nothing. -/
structure Unacknowledged (s : ConnectionCoordinator) : Prop where
  catalog : s.catalogRevocationAcknowledged = false
  policy : s.smartAccessPolicyAcknowledged = none
  services : s.catalogServiceAcknowledgements = ∅
  leases : ∀ leaseId, s.smartAccessRevocations leaseId = none

theorem Sound.unacknowledged (h : ledger.Sound) (hnone : ledger.acknowledged = []) :
    Unacknowledged ledger.coordinator := by
  constructor
  · by_contra hacknowledged
    have hmem := h.catalogCovered (Bool.not_eq_false _ ▸ hacknowledged)
    rw [hnone] at hmem
    cases hmem
  · cases hpolicy : ledger.coordinator.smartAccessPolicyAcknowledged with
    | none => rfl
    | some decision =>
      rcases h.policyCovered decision hpolicy with ⟨stricter, hmem, -⟩
      rw [hnone] at hmem
      cases hmem
  · refine Finset.eq_empty_of_forall_notMem fun serviceId hservice => ?_
    rcases h.serviceCovered serviceId hservice with ⟨leaseIds, hmem⟩
    rw [hnone] at hmem
    cases hmem
  · intro leaseId
    cases hlease : ledger.coordinator.smartAccessRevocations leaseId with
    | none => rfl
    | some decision =>
      rcases h.leaseCovered leaseId decision hlease with ⟨acknowledgement, hmem, -⟩
      rw [hnone] at hmem
      cases hmem

/-- No call weakens what has been received. While the runtime runs under the digest
of the active binding, all of it is reported that the instance has not acknowledged
as strictly, and the end of the instance keeps it and forgets what was
acknowledged. -/
theorem restrictions_never_weaken (calls : List CoordinatorCall) (hproper : Properly {} calls) :
    (∀ earlier later, earlier ++ later = calls →
      Grows ((run {} earlier).NamedThroughout later) (run {} earlier).coordinator
        (run {} calls).coordinator) ∧
    (∀ binding, (run {} calls).coordinator.isRunning = true →
      (run {} calls).coordinator.activeLeases = some binding →
      (run {} calls).coordinator.effectiveProfileDigest ≠ none →
      (run {} calls).Reported binding) ∧
    ∀ last : RuntimeSnapshot, last.phase ≠ .running →
      SameProfile (run {} calls).coordinator (some last) →
      Grows (fun _ => True) (run {} calls).coordinator
        ((run {} calls).coordinator.updateSnapshot (some last)) ∧
      Unacknowledged ((run {} calls).coordinator.updateSnapshot (some last)) := by
  have hall := Sound.initial.run hproper
  refine ⟨?_, ?_, ?_⟩
  · rintro earlier later rfl
    rcases hproper.split with ⟨hearlier, hlater⟩
    have hrun : run {} (earlier ++ later) = (run {} earlier).run later := Runs.run_append
    rw [hrun]
    exact ((Sound.initial.run hearlier).1.run hlater).2
  · intro binding hrunning hactive hdigest
    rcases Option.ne_none_iff_exists'.mp hdigest with ⟨digest, hdigest⟩
    have hprofile := hall.1.digest digest binding hdigest hactive
    exact hall.1.reported (isActive_iff.mpr ⟨hall.1.alive, hrunning, hprofile ▸ hdigest, hactive⟩)
  · intro last hphase hsame
    have hupdated := sound_updateSnapshot hall.1 hsame
    refine ⟨hupdated.2, ?_⟩
    have hends : Ends (some last) := ⟨last, rfl, hphase⟩
    rw [if_pos hends] at hupdated
    exact Sound.unacknowledged (show Sound ⟨_, []⟩ from hupdated.1) rfl

/-! ### A withdrawn catalog -/

def someDigest : Text := List.replicate 64 97

def someTime : DateTime := ⟨1790000000000000, by decide, by decide⟩

/-- A time in the text that `toIso8601String` gives it. -/
def storedTime (time : DateTime) : StoredTime :=
  ⟨time.toIso8601String, time, DateTime.tryParse_toIso8601String time⟩

def someScope : RenewalScope where
  profileSha256 := someDigest
  routeMode := [1]
  runtimeScopeSha256 := someDigest
  origin := [2]
  family := [3]
  feature := [4]
  providerRevision := 1
  permissionRevision := 1
  catalogRevision := 1
  catalogSecurityRevision := 1

/-- A grant of the service `[7]` under the lease `[5]`. -/
def someGrant : VerifiedSmartAccessLease where
  identity :=
    { leaseId := [5], audience := [6], platform := [6], serviceId := [7], providerId := [8]
      permissionId := [9], capabilityId := [9], providerPolicyRevision := 1
      providerSecurityRevision := 1, providerPolicySha256 := someDigest
      issuedAt := storedTime someTime, newFlowsUntil := storedTime someTime
      activeFlowsUntil := storedTime someTime, renewal := some someScope }
  scope := someScope
  externalECHOuterSNI := false
  nativeEndpoints := true
  renews := rfl

/-- A catalog of the service, and what is granted under it. -/
def bindingOf (grants : List VerifiedSmartAccessLease) (catalogExpiresAt : Option DateTime) :
    SmartAccessRuntimeLeases where
  ref := 0
  profileDigest := someDigest
  leases := grants.map (·.identity)
  catalogExpiresAt
  catalogIdentity := some ⟨{[7]}⟩
  verifiedGrants := grants

def leasedBinding : SmartAccessRuntimeLeases := bindingOf [someGrant] (some someTime)

def someSnapshot (phase : RuntimePhase) (digest : Option Text) : Option RuntimeSnapshot :=
  some { phase, effectiveProfileDigest := digest }

/-- The profile of a binding is staged and runs. -/
def staged (grants : List VerifiedSmartAccessLease) (catalogExpiresAt : Option DateTime) :
    List CoordinatorCall :=
  [.acknowledgeSmartAccessStage { phase := .configStaged, stagedProfileDigest := some someDigest }
      grants 0 none catalogExpiresAt none (some ⟨{[7]}⟩),
    .updateSnapshot (someSnapshot .running (some someDigest))]

/-- The catalog and its service are withdrawn, and the policy is first drained and then
ended. The drain and the end of the lease are acknowledged. -/
def withdrawal : List CoordinatorCall :=
  staged [someGrant] (some someTime) ++
  [.receiveCatalogRevocation leasedBinding true,
    .receiveCatalogServiceRevocations leasedBinding {[7]},
    .receiveSmartAccessPolicyRevocation leasedBinding .drain,
    .acknowledgeSmartAccessPolicyRevocation leasedBinding .drain,
    .receiveSmartAccessPolicyRevocation leasedBinding .terminate,
    .acknowledgeSmartAccessRevocation leasedBinding [5] .terminate]

theorem withdrawal_properly : Properly {} withdrawal := by
  refine ⟨fun _ => rfl, ?_, trivial, trivial, trivial, trivial, trivial, trivial, trivial⟩
  intro digest binding _ hactive
  cases hactive

theorem withdrawal_reported :
    (run {} withdrawal).Reported leasedBinding ∧
      (run {} withdrawal).coordinator.pendingSmartAccessPolicyRevocation leasedBinding =
        some .terminate ∧
      (run {} withdrawal).coordinator.pendingCatalogServiceRevocations leasedBinding = {[7]} ∧
      (run {} withdrawal).coordinator.pendingSmartAccessRevocations leasedBinding [5] = none := by
  have hstate : (run {} withdrawal).coordinator.isRunning = true ∧
      (run {} withdrawal).coordinator.activeLeases = some leasedBinding ∧
      (run {} withdrawal).coordinator.effectiveProfileDigest ≠ none := by
    decide +kernel
  refine ⟨?_, by decide +kernel⟩
  exact (restrictions_never_weaken withdrawal withdrawal_properly).2.1 leasedBinding hstate.1
    hstate.2.1 hstate.2.2

/-- A binding with neither an expiry of its catalog nor a lease is recovered as if only its
digest were known, and a stored one without an identity then forgets the services. -/
theorem undated_forgets :
    let received := staged [] none ++
      [.receiveCatalogServiceRevocations (bindingOf [] none) {[7]}]
    let recovered := { bindingOf [] none with catalogIdentity := none }
    (run {} received).coordinator.catalogServiceRevocations = {[7]} ∧
      (run {} (received ++ [.restoreSmartAccessLeases recovered (fun _ => none) 0 false false
        ∅])).coordinator.catalogServiceRevocations = ∅ := by
  decide +kernel

/-- A snapshot of a running runtime that does not carry the digest: nothing is
reported, though nothing has been acknowledged. -/
def unnamed : List CoordinatorCall :=
  withdrawal.take 3 ++ [.updateSnapshot (someSnapshot .running none)]

theorem not_reported_unnamed :
    ¬ ∀ calls, Properly {} calls → ∀ binding, (run {} calls).coordinator.isRunning = true →
      (run {} calls).coordinator.activeLeases = some binding → (run {} calls).Reported binding := by
  intro hreported
  have hproper : Properly {} unnamed := by
    refine ⟨fun _ => rfl, ?_, trivial, ?_, trivial⟩
    · intro digest binding _ hactive
      cases hactive
    · intro digest binding hdigest _
      cases hdigest
  have hstate : (run {} unnamed).coordinator.isRunning = true ∧
      (run {} unnamed).coordinator.activeLeases = some leasedBinding ∧
      (run {} unnamed).coordinator.catalogRevoked = true := by
    decide +kernel
  have h := (hreported unnamed hproper leasedBinding hstate.1 hstate.2.1).catalog hstate.2.2
  have hnone : (run {} unnamed).coordinator.needsCatalogRevocation leasedBinding = false := by
    decide +kernel
  have hacknowledged : (run {} unnamed).acknowledged = [] := by
    rfl
  rcases h with h | h
  · rw [hnone] at h
    cases h
  · rw [hacknowledged] at h
    cases h

end Ledger

end Pokrov.AppShell
