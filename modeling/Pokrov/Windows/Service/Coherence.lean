import Pokrov.Windows.Service.Journal
import Pokrov.Windows.Service.Standing

/-!
# The phase of a host and what goes with it

The phase, the two profile digests, the egress flag and the stage of the
recovery journal are assigned one by one. `Coherent` says how they fit together
between two operations, and every operation keeps it, whatever its parts
answer. Core is started only by a host that neither runs nor owes a recovery,
over a profile that was staged and not taken back since.
-/

namespace Pokrov.Windows.Service

open Codec Effects Contract

/-! ## The invariant -/

structure Coherent (s : Runtime) : Prop where
  effective : s.host.phase = .running ↔ s.host.effectiveProfileDigest ≠ []
  committed : s.host.phase = .running → s.recovery.stage = .committed
  validated : s.host.coreEgressValidated = true → s.host.phase = .running
  staged : s.host.phase = .running →
    s.host.stagedProfileDigest = [] ∨ s.host.stagedProfileDigest = s.host.effectiveProfileDigest
  /-- Taking the bytes back is forgetting their digest. -/
  profile : s.host.profileStaged = true → s.host.stagedProfileDigest ≠ []
  initialized : s.host.phase = .running ∨ s.host.phase = .recoveryRequired →
    s.host.initialized = true

/-- What is remembered of a run. -/
structure Watch where
  /-- The view that was marked by the last event. -/
  view : Option HostView
  /-- A profile was staged. -/
  fresh : Bool
  /-- A recovery has been owed from the beginning on. -/
  recovering : Bool
  /-- Core was initialized at the beginning. -/
  initialized : Bool

def Watch.next (g : Watch) (e : Event Machine) : Watch :=
  match e.call with
  | .mark (.host view) => { g with view := some view }
  | .mark .staged => { g with view := none, fresh := true }
  | .mark (.rolledBack error) =>
    { g with view := none, recovering := g.recovering && error != "" }
  | _ => { g with view := none }

/-- A host from which Core may be started. -/
def HostView.idle (view : HostView) : Prop :=
  view.phase ≠ .running ∧ view.phase ≠ .recoveryRequired

def watching : Contract Machine Watch where
  next := Watch.next
  rely := fun _ _ => True
  guar := fun g e =>
    (isStart e.call = true → g.fresh = true ∧ ∃ view, g.view = some view ∧ view.idle) ∧
      (e.call = .coreInitialize → g.initialized = false)

/-- The state and the run so far fit together. -/
structure Watched (s : Runtime) (g : Watch) : Prop extends Coherent s where
  fresh : s.host.profileStaged = true → g.fresh = true
  recovering : g.recovering = true → s.host.phase = .recoveryRequired
  remembered : g.initialized = true → s.host.initialized = true

/-- The program keeps the invariant, however it goes. -/
abbrev Coheres {α : Type} (m : RuntimeAct α) : Prop := watching.Keeps Watched m

variable {s : Runtime} {g : Watch} {host : RuntimeHost} {e : Event Machine} {c : MachineCall}

theorem Watched.of_view (h : Watched s g) (view : Option HostView) : Watched s { g with view } :=
  ⟨h.toCoherent, h.fresh, h.recovering, h.remembered⟩

/-- A host that stands where it stood keeps the invariant. -/
theorem Watched.of_settled (h : Watched s g) (hhost : Settled s.host host) :
    Watched { s with host } g := by
  obtain ⟨-, hphase, heffective, hstaged, hvalidated, hinitialized, hprofile⟩ := hhost.shaken
  constructor
  · constructor
    · simpa only [hphase, heffective] using h.effective
    · simpa only [hphase] using h.committed
    · simpa only [hphase, hvalidated] using h.validated
    · simpa only [hphase, hstaged, heffective] using h.staged
    · intro hp
      simpa only [hstaged] using h.profile (hprofile hp)
    · simpa only [hphase, hinitialized] using h.initialized
  · exact fun hp => h.fresh (hprofile hp)
  · simpa only [hphase] using h.recovering
  · simpa only [hinitialized] using h.remembered

/-! ## Calls that the run does not remember -/

def unmarked : MachineCall → Bool
  | .mark (.host _) => true
  | .mark _ => false
  | .coreInitialize => false
  | .start _ => false
  | .startInterruptible _ => false
  | _ => true

theorem next_of_unmarked (h : unmarked e.call = true) : ∃ view, g.next e = { g with view } := by
  obtain ⟨c, r⟩ := e
  cases c with
  | mark m =>
    cases m with
    | host view => exact ⟨some view, rfl⟩
    | _ => cases h
  | _ => exact ⟨none, rfl⟩

theorem isStart_of_unmarked (h : unmarked c = true) : isStart c = false := by
  cases c <;> first | rfl | cases h

theorem guar_of_unmarked (h : unmarked e.call = true) : watching.guar g e := by
  constructor
  · intro hc
    rw [isStart_of_unmarked h] at hc
    cases hc
  · intro hc
    rw [hc] at h
    cases h

theorem unmarked_of_plain (hq : quiet c = true) (h : plain c = true) : unmarked c = true := by
  cases c <;> simp_all [quiet, plain, unmarked]

theorem unmarked_of_recovery (h : ofRecovery c = true) : unmarked c = true := by
  cases c <;> first | rfl | cases h

theorem guar_of_marked {m : Mark} {r : Machine.Answer (.mark m)} :
    watching.guar g ⟨.mark m, r⟩ := by
  constructor
  · intro hc
    cases hc
  · intro hc
    cases hc

/-- An event that the run does not remember only moves the view. -/
theorem step_of_unmarked {g0 g : Watch} (hg : ∃ view, g = { g0 with view })
    (h : unmarked e.call = true) :
    watching.guar g e ∧ ∃ view, watching.next g e = { g0 with view } := by
  obtain ⟨view, rfl⟩ := hg
  refine ⟨guar_of_unmarked h, ?_⟩
  obtain ⟨view', hnext⟩ := next_of_unmarked (g := { g0 with view }) h
  exact ⟨view', hnext⟩

/-! ## Programs of the host -/

/-- The contract as the host sees it. -/
abbrev hosting : Contract Quiet Watch := watching.restrict fun c => quiet c = true

/-- A host program without marks moves the host along its relation. -/
theorem host_moves {α : Type} {R : RuntimeHost → RuntimeHost → Prop} {m : HostAct α}
    {Q : α → RuntimeHost → Watch → Prop}
    (hm : Moves (I := Quiet) (fun c => unmarked c.1 = true) R m)
    (hQ : ∀ a host' view, R host host' → Q a host' { g with view }) : hosting.wpa m Q host g := by
  refine wpa_mono (wpa_of_moves (J := fun g' => ∃ view, g' = { g with view }) ?_ hm
    ⟨g.view, rfl⟩) ?_
  · exact fun g' e hg he _ => step_of_unmarked (e := ⟨e.call.1, e.answer⟩) hg he
  · rintro a host' g' ⟨hR, view, rfl⟩
    exact hQ a host' view hR

theorem Steady.unmarked {α : Type} {m : HostAct α} (hm : Steady m) :
    Moves (I := Quiet) (fun c => unmarked c.1 = true) Settled m :=
  hm.mono (fun c hc => unmarked_of_plain c.2 hc) fun _ _ h => h

theorem host_steady {α : Type} {m : HostAct α} {Q : α → RuntimeHost → Watch → Prop} (hm : Steady m)
    (hQ : ∀ a host' view, Settled host host' → Q a host' { g with view }) :
    hosting.wpa m Q host g :=
  host_moves hm.unmarked hQ

theorem host_markHost {Q : Unit → RuntimeHost → Watch → Prop}
    (h : Q () host { g with view := some host.view }) : hosting.wpa RuntimeHost.markHost Q host g :=
  fun _ _ => ⟨guar_of_unmarked rfl, h⟩

theorem watch_onHost {α : Type} {m : HostAct α} {Q : α → Runtime → Watch → Prop}
    (h : hosting.wpa m (fun a host g' => Q a { s with host } g') s.host g) :
    watching.wpa (onHost m) Q s g :=
  wpa_confined.mpr h

theorem watch_steady {α : Type} {m : HostAct α} {Q : α → Runtime → Watch → Prop} (hm : Steady m)
    (hQ : ∀ a host view, Settled s.host host → Q a { s with host } { g with view }) :
    watching.wpa (onHost m) Q s g :=
  watch_onHost (host_steady hm hQ)

theorem watch_shaking {α : Type} {m : HostAct α} {Q : α → Runtime → Watch → Prop} (hm : Shaking m)
    (hQ : ∀ a host view, Shaken s.host host → Q a { s with host } { g with view }) :
    watching.wpa (onHost m) Q s g :=
  watch_onHost (host_moves (hm.mono (fun c hc => unmarked_of_plain c.2 hc) fun _ _ h => h) hQ)

theorem Coheres.steady {α : Type} {m : HostAct α} (hm : Steady m) : Coheres (onHost m) :=
  fun _ _ h => watch_steady hm fun _ _ view hhost => (h.of_settled hhost).of_view view

theorem Coheres.getHost : Coheres Runtime.getHost := fun _ _ h => h

/-- An assignment to the host that keeps the invariant. -/
theorem watch_modifyHost {f : RuntimeHost → RuntimeHost} {Q : Unit → Runtime → Watch → Prop}
    (h : Q () { s with host := f s.host } g) : watching.wpa (Runtime.modifyHost f) Q s g :=
  h

theorem watch_onRecovery {α : Type} {m : Act Machine DurableRuntimeRecovery α}
    {R : α → DurableRuntimeRecovery → Unit → Prop} {Q : α → Runtime → Watch → Prop}
    (hm : (static fun c => ofRecovery c = true).wpa m R s.recovery ())
    (hQ : ∀ a recovery view, R a recovery () → Q a { s with recovery } { g with view }) :
    watching.wpa (onRecovery m) Q s g := by
  refine wpa_zoom.mpr (wpa_mono (wpa_of_static
    (J := fun g' => ∃ view, g' = { g with view }) ?_ hm ⟨g.view, rfl⟩) ?_)
  · exact fun g' e hg he _ => step_of_unmarked hg (unmarked_of_recovery he)
  · rintro a recovery g' ⟨hR, view, rfl⟩
    exact hQ a recovery view hR

/-! ## Rolling back -/

namespace Runtime

variable {Q : String → Runtime → Watch → Prop} {s : Runtime} {g : Watch}

theorem watch_returned {error : String}
    (hQ : Q error s { g with view := none, recovering := g.recovering && error != "" }) :
    watching.wpa (returned error) Q s g := by
  unfold returned
  rw [wpa_bind]
  exact wpa_confined.mpr fun _ _ => ⟨guar_of_marked, hQ⟩

/-- A rollback leaves the host where it stood and the journal anywhere; a staged
profile may be lost. -/
theorem watch_rollBack {coreStopFailed : String}
    (hQ : ∀ error s' view, Shaken s.host s'.host → Q error s' { g with view }) :
    watching.wpa (rollBack coreStopFailed) Q s g := by
  unfold rollBack
  rw [wpa_bind]
  refine watch_onRecovery (DurableRuntimeRecovery.journals_beginRollback _) ?_
  intro beginError d1 v1 _
  rw [wpa_bind]
  refine watch_steady (steady_ask rfl) fun stopError host1 v2 h1 => ?_
  rw [wpa_bind]
  refine watch_shaking (m := if stopError = "" then _ else _)
    (.ite RuntimeHost.shaking_clearWindowsLocalDpiAfterCoreStopped (.pure _)) ?_
  intro stopped host2 v3 h2
  have h : Shaken s.host host2 := h1.shaken.trans h2
  rw [wpa_ite]
  refine ⟨fun _ => hQ _ _ _ h, fun _ => ?_⟩
  rw [wpa_ite]
  refine ⟨fun _ => hQ _ _ _ h, fun _ => ?_⟩
  rw [wpa_ite]
  refine ⟨fun _ => hQ _ _ _ h, fun _ => ?_⟩
  rw [wpa_bind]
  refine watch_onRecovery (DurableRuntimeRecovery.journals_restoreNetworkState _) ?_
  intro networkError d2 v4 _
  rw [wpa_ite]
  refine ⟨fun _ => hQ _ _ _ h, fun _ => ?_⟩
  refine watch_onRecovery (DurableRuntimeRecovery.journals_completeRollback _) ?_
  exact fun error d3 v5 _ => hQ _ _ _ h

/-- What a rollback leaves: the host stands where it stood but for a staged
profile, and a success is remembered. -/
abbrev Withdrawn (s : Runtime) (g : Watch) (Q : String → Runtime → Watch → Prop) : Prop :=
  ∀ error s' view, Shaken s.host s'.host →
    Q error s' { g with view, recovering := g.recovering && error != "" }

theorem watch_recoverPendingRuntime (hQ : Withdrawn s g Q) :
    watching.wpa recoverPendingRuntime Q s g := by
  unfold recoverPendingRuntime
  rw [wpa_bind]
  refine watch_steady (RuntimeHost.steady_withdrawTelegramWS []) fun _ host1 v1 h1 => ?_
  rw [wpa_bind]
  refine watch_steady RuntimeHost.steady_executorStop fun _ host2 v2 h2 => ?_
  have h : Shaken s.host host2 := (h1.trans h2).shaken
  rw [wpa_bind, wpa_get, wpa_ite]
  refine ⟨fun _ => watch_returned (hQ _ _ _ h), fun _ => ?_⟩
  rw [wpa_ite]
  refine ⟨fun _ => watch_returned (hQ _ _ _ h), fun _ => ?_⟩
  rw [wpa_bind]
  refine watch_rollBack fun error s' v3 h3 => watch_returned ?_
  exact hQ error s' none (h.trans h3)

variable (F : Functions)

theorem watch_rollbackRuntime (hQ : Withdrawn s g Q) : watching.wpa (rollbackRuntime F) Q s g := by
  unfold rollbackRuntime
  rw [wpa_bind]
  refine watch_steady (RuntimeHost.steady_readLocalDpiRuntimeObservation F) fun _ host1 v1 h1 => ?_
  rw [wpa_bind]
  refine watch_steady (RuntimeHost.steady_withdrawTelegramWS []) fun _ host2 v2 h2 => ?_
  rw [wpa_bind]
  refine watch_steady RuntimeHost.steady_executorStop fun _ host3 v3 h3 => ?_
  have h : Shaken s.host host3 := ((h1.trans h2).trans h3).shaken
  rw [wpa_withHost, wpa_ite]
  refine ⟨fun _ => ?_, fun _ => ?_⟩
  · rw [wpa_bind]
    refine watch_shaking ?_ fun _ host4 v4 h4 => ?_
    · refine .bind (steady_ask rfl).shaking fun _ => .ite ?_ (.pure _)
      exact .bind RuntimeHost.shaking_clearWindowsLocalDpiAfterCoreStopped fun _ => .pure _
    · exact watch_returned (hQ _ _ _ (h.trans h4))
  · rw [wpa_bind]
    refine watch_rollBack fun error s' v4 h4 => watch_returned ?_
    exact hQ error s' none (h.trans h4)

end Runtime

end Pokrov.Windows.Service
