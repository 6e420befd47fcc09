import Pokrov.Windows.Service.Phases

/-!
# What the staged phase says

A host in `configStaged` says that a profile is staged and nothing runs. The
phase is chosen when a connection is rolled back, and a staged profile can be
lost or taken back at other points, so the order of the two decides whether the
phase tells the truth. A disconnect and a shutdown look at the profile first.
Two other stops do not: the rollback of an attempt to connect, and the protected
stop after which the profile is taken back.
-/

namespace Pokrov.Windows.Service

open Codec Effects Contract

/-- The phase tells the truth about the staged profile. -/
def RuntimeHost.Truthful (host : RuntimeHost) : Prop :=
  host.phase = .configStaged → host.profileStaged = true

theorem RuntimeHost.Truthful.of_phase {host : RuntimeHost} (h : host.phase ≠ .configStaged) :
    host.Truthful :=
  fun hphase => absurd hphase h

theorem RuntimeHost.Truthful.of_settled {host host' : RuntimeHost} (h : host.Truthful)
    (hhost : Settled host host') : host'.Truthful := by
  intro hphase
  rw [hhost.phase] at hphase
  exact hhost.profileStaged.trans (h hphase)

/-! ## What a trace shows of a stop -/

/-- The profile on disk was not replaced. -/
def writeFailed : Event Machine → Bool
  | ⟨.writePendingProfile _, written⟩ => !written
  | ⟨.secureFile _, error⟩ => error ≠ ""
  | ⟨.moveProfile, moved⟩ => !moved
  | _ => false

def rollbackDone : Event Machine → Bool
  | ⟨.mark (.rolledBack error), _⟩ => error = ""
  | _ => false

def withdrawalFailed : Event Machine → Bool
  | ⟨.executorStop, stopped⟩ => !stopped
  | _ => false

structure Stop where
  /-- A write of the profile has failed. -/
  failed : Bool := false
  /-- Core has stopped and the network is restored. -/
  rolledBack : Bool := false
  /-- The guard was asked to start. -/
  guarded : Bool := false
  /-- Before that, the child could not be withdrawn. -/
  unwithdrawn : Bool := false

def stopping : Contract Machine Stop where
  next := fun g e =>
    { failed := g.failed || writeFailed e
      rolledBack := g.rolledBack || rollbackDone e
      guarded := g.guarded || decide (e.call = .guardStart)
      unwithdrawn := g.unwithdrawn || (!g.guarded && withdrawalFailed e) }
  rely := fun _ _ => True
  guar := fun _ _ => True

def Stop.of (tr : List (Event Machine)) : Stop := stopping.after {} tr

/-- The calls that show nothing of a stop. -/
def inert : MachineCall → Bool
  | .writePendingProfile _ => false
  | .secureFile _ => false
  | .moveProfile => false
  | .executorStop => false
  | .guardStart => false
  | .mark (.rolledBack _) => false
  | _ => true

theorem inert_of_calm {c : MachineCall} (h : calm c = true) : inert c = true := by
  cases c <;> first | rfl | cases h

theorem inert_of_recovery {c : MachineCall} (h : ofRecovery c = true) : inert c = true := by
  cases c <;> first | rfl | cases h

/-- Three marks and the guard decide the next state. -/
theorem next_eq (g : Stop) {e : Event Machine} (failed done withdrawn : Bool)
    (hshown : writeFailed e = failed ∧ rollbackDone e = done ∧ withdrawalFailed e = withdrawn) :
    stopping.next g e = ⟨g.failed || failed, g.rolledBack || done,
      g.guarded || decide (e.call = .guardStart), g.unwithdrawn || (!g.guarded && withdrawn)⟩ := by
  obtain ⟨rfl, rfl, rfl⟩ := hshown
  rfl

theorem next_of_inert {g : Stop} {e : Event Machine} (h : inert e.call = true) :
    stopping.next g e = g := by
  obtain ⟨c, r⟩ := e
  have hsilent : (writeFailed ⟨c, r⟩ = false ∧ rollbackDone ⟨c, r⟩ = false ∧
      withdrawalFailed ⟨c, r⟩ = false) ∧ c ≠ .guardStart := by
    cases c with
    | mark m =>
      cases m with
      | rolledBack error => exact absurd h Bool.false_ne_true
      | _ => exact ⟨⟨rfl, rfl, rfl⟩, by simp⟩
    | _ => first | exact absurd h Bool.false_ne_true | exact ⟨⟨rfl, rfl, rfl⟩, by simp⟩
  obtain ⟨hshown, hguard⟩ := hsilent
  exact (next_eq g false false false hshown).trans (by simp [hguard])

section Next

variable {g : Stop}

@[simp] theorem next_writePendingProfile {profile : Bytes} {written : Bool} :
    stopping.next g ⟨.writePendingProfile profile, written⟩ =
      { g with failed := g.failed || !written } :=
  (next_eq g (!written) false false ⟨rfl, rfl, rfl⟩).trans (by simp)

@[simp] theorem next_secureFile {path : Bytes} {error : String} :
    stopping.next g ⟨.secureFile path, error⟩ =
      { g with failed := g.failed || decide (error ≠ "") } :=
  (next_eq g (decide (error ≠ "")) false false ⟨rfl, rfl, rfl⟩).trans (by simp)

@[simp] theorem next_moveProfile {moved : Bool} :
    stopping.next g ⟨.moveProfile, moved⟩ = { g with failed := g.failed || !moved } :=
  (next_eq g (!moved) false false ⟨rfl, rfl, rfl⟩).trans (by simp)

@[simp] theorem next_deletePendingProfile {r : Unit} :
    stopping.next g ⟨.deletePendingProfile, r⟩ = g :=
  next_of_inert rfl

@[simp] theorem next_executorStop {stopped : Bool} :
    stopping.next g ⟨.executorStop, stopped⟩ =
      { g with unwithdrawn := g.unwithdrawn || (!g.guarded && !stopped) } :=
  (next_eq g false false (!stopped) ⟨rfl, rfl, rfl⟩).trans (by simp)

@[simp] theorem next_guardStart {error : String} :
    stopping.next g ⟨.guardStart, error⟩ = { g with guarded := true } :=
  (next_eq g false false false ⟨rfl, rfl, rfl⟩).trans (by simp)

@[simp] theorem next_rolledBack {error : String} {r : Unit} :
    stopping.next g ⟨.mark (.rolledBack error), r⟩ =
      { g with rolledBack := g.rolledBack || decide (error = "") } :=
  (next_eq g false (decide (error = "")) false ⟨rfl, rfl, rfl⟩).trans (by simp)

end Next

/-! ## Programs of the host -/

/-- The contract as the host sees it. -/
abbrev hostStopping : Contract Quiet Stop := stopping.restrict fun c => quiet c = true

section Rules

variable {α β : Type} {Q : α → RuntimeHost → Stop → Prop} {host : RuntimeHost} {g : Stop}

theorem stop_ask {c : MachineCall} {hc : quiet c = true} {f : c.Answer → HostAct α}
    (hf : ∀ r, hostStopping.wpa (f r) Q host (stopping.next g ⟨c, r⟩)) :
    hostStopping.wpa (ask c hc >>= f) Q host g :=
  wpa_call fun r _ => ⟨trivial, hf r⟩

theorem stop_moves {P : Quiet.Call → Prop} {R : RuntimeHost → RuntimeHost → Prop} {m : HostAct α}
    (hm : Moves P R m) (hQ : ∀ a host' g', R host host' → Q a host' g') :
    hostStopping.wpa m Q host g := by
  refine wpa_mono (wpa_of_moves (J := fun _ => True) ?_ hm trivial) ?_
  · exact fun _ _ _ _ _ => ⟨trivial, trivial⟩
  · exact fun a host' g' h => hQ a host' g' h.1

theorem stop_inert {R : RuntimeHost → RuntimeHost → Prop} {m : HostAct α}
    (hm : Moves (I := Quiet) (fun c => inert c.1 = true) R m)
    (hQ : ∀ a host', R host host' → Q a host' g) : hostStopping.wpa m Q host g := by
  refine wpa_mono (wpa_of_moves (J := fun g' => g' = g) ?_ hm rfl) ?_
  · rintro _ e rfl he _
    exact ⟨trivial, next_of_inert (e := ⟨e.call.1, e.answer⟩) he⟩
  · rintro a host' g' ⟨hR, rfl⟩
    exact hQ a host' hR

theorem stop_calm {m : HostAct α} (hm : Calm m) (hQ : ∀ a host', Settled host host' → Q a host' g) :
    hostStopping.wpa m Q host g :=
  stop_inert (hm.mono (fun _ hc => inert_of_calm hc) fun _ _ h => h) hQ

end Rules

/-- The second host is in the phase of the first one. -/
def SamePhase (a b : RuntimeHost) : Prop := b.phase = a.phase

instance : IsPreorder RuntimeHost SamePhase where
  refl _ := rfl
  trans _ _ _ h h' := Eq.trans h' h

/-- Whatever the program calls, the host stays in its phase. -/
abbrev KeepsPhase {α : Type} (m : HostAct α) : Prop :=
  Moves (I := Quiet) (fun _ => True) SamePhase m

theorem Steady.keepsPhase {α : Type} {m : HostAct α} (hm : Steady m) : KeepsPhase m :=
  hm.mono (fun _ _ => trivial) fun _ _ h => h.phase

theorem keepsPhase_ask {c : MachineCall} {hc : quiet c = true} : KeepsPhase (ask c hc) :=
  Moves.perform (I := Quiet) (c := ⟨c, hc⟩) trivial

section Runtime

variable {α β : Type} {Q : α → Runtime → Stop → Prop} {s : Runtime} {g : Stop}

theorem stop_onHost {m : HostAct α}
    (h : hostStopping.wpa m (fun a host g' => Q a { s with host } g') s.host g) :
    stopping.wpa (onHost m) Q s g :=
  wpa_confined.mpr h

theorem stop_onRecovery {m : Act Machine DurableRuntimeRecovery α}
    (hm : Journals m)
    (hQ : ∀ a recovery, Q a { s with recovery } g) : stopping.wpa (onRecovery m) Q s g := by
  refine wpa_zoom.mpr (wpa_mono (wpa_of_static (J := fun g' => g' = g) ?_ (hm s.recovery) rfl) ?_)
  · rintro _ e rfl he _
    exact ⟨trivial, next_of_inert (inert_of_recovery he)⟩
  · rintro a recovery g' ⟨-, rfl⟩
    exact hQ a recovery

theorem stop_call {c : MachineCall} {hc : quiet c = true} {Q : c.Answer → Runtime → Stop → Prop}
    (h : ∀ r, Q r s (stopping.next g ⟨c, r⟩)) : stopping.wpa (onHost (ask c hc)) Q s g :=
  stop_onHost fun r _ => ⟨trivial, h r⟩

theorem stop_modifyHost {f : RuntimeHost → RuntimeHost} {Q : Unit → Runtime → Stop → Prop}
    (h : Q () { s with host := f s.host } g) : stopping.wpa (Runtime.modifyHost f) Q s g :=
  h

/-- A run of the program, read off its precondition. -/
theorem ends_of_stopping {m : RuntimeAct α} (hm : stopping.wpa m Q s g) {tr : List (Event Machine)}
    {a : α} {s' : Runtime} (hrun : Steps (m s) tr (.ret (a, s'))) :
    Q a s' (stopping.after g tr) :=
  (stopping.wp_steps hm hrun (stopping.along_of_forall (fun _ _ => trivial) _ _)).2

end Runtime

/-! ## Writing the profile back -/

/-- What a part of a rollback does to the staged profile, and what its trace
shows. A profile is lost by a write that fails, and by nothing else. -/
structure Rewrites (host host' : RuntimeHost) (g g' : Stop) : Prop where
  shaken : Shaken host host'
  lost : host.profileStaged = true → host'.profileStaged = false → g'.failed = true
  kept : host'.profileStaged = true → g'.failed = g.failed
  grows : g.failed = true → g'.failed = true
  guarded : g.guarded = true → g'.guarded = true ∧ g'.unwithdrawn = g.unwithdrawn

namespace Rewrites

variable {a b c : RuntimeHost} {g g' g'' : Stop}

theorem of_settled (h : Settled a b) : Rewrites a b g g where
  shaken := h.shaken
  lost := fun hstaged hlost => by
    rw [h.profileStaged, hstaged] at hlost
    exact absurd hlost.symm Bool.false_ne_true
  kept := fun _ => rfl
  grows := id
  guarded := fun hg => ⟨hg, rfl⟩

theorem trans (h : Rewrites a b g g') (h' : Rewrites b c g' g'') : Rewrites a c g g'' where
  shaken := h.shaken.trans h'.shaken
  lost := fun hstaged hlost => by
    cases hb : b.profileStaged with
    | false => exact h'.grows (h.lost hstaged hb)
    | true => exact h'.lost hb hlost
  kept := fun hstaged => (h'.kept hstaged).trans (h.kept (h'.shaken.profileStaged hstaged))
  grows := fun hg => h'.grows (h.grows hg)
  guarded := fun hg => by
    obtain ⟨hg', hsame⟩ := h.guarded hg
    obtain ⟨hg'', hsame'⟩ := h'.guarded hg'
    exact ⟨hg'', hsame'.trans hsame⟩

end Rewrites

namespace RuntimeHost

/-- The write reports what the trace shows. -/
theorem stop_writeProfileAtomically (profile : Bytes) {Q : String → RuntimeHost → Stop → Prop}
    {host : RuntimeHost} {g : Stop} (hdone : Q "" host g)
    (hfailed : ∀ error, error ≠ "" → Q error host { g with failed := true }) :
    hostStopping.wpa (writeProfileAtomically profile) Q host g := by
  have hstuck : ∀ error : String, error ≠ "" → hostStopping.wpa (do
      ask .deletePendingProfile rfl
      return error) Q host { g with failed := true } := by
    intro error herror
    exact stop_ask fun _ => by simpa using hfailed error herror
  unfold writeProfileAtomically
  refine stop_ask fun written => ?_
  rw [wpa_ite]
  refine ⟨fun hnot => ?_, fun hyes => ?_⟩
  · obtain rfl : written = false := by simpa using hnot
    simpa using hstuck _ (by decide)
  obtain rfl : written = true := by simpa using hyes
  refine stop_ask fun error => ?_
  rw [wpa_ite]
  refine ⟨fun herror => ?_, fun hsecured => ?_⟩
  · simpa [herror] using hstuck _ (by decide)
  obtain rfl : error = "" := by simpa using hsecured
  refine stop_ask fun moved => ?_
  rw [wpa_ite]
  refine ⟨fun hnot => ?_, fun hyes => ?_⟩
  · obtain rfl : moved = false := by simpa using hnot
    simpa using hstuck _ (by decide)
  obtain rfl : moved = true := by simpa using hyes
  simpa using hdone

theorem stop_restoreStagedProfile {host : RuntimeHost} {g : Stop} :
    hostStopping.wpa restoreStagedProfile (fun _ host' g' => Rewrites host host' g g') host g := by
  unfold restoreStagedProfile
  rw [wpa_bind, wpa_get, wpa_onlyIf]
  refine ⟨fun _ => ?_, fun _ => .of_settled (.refl host)⟩
  rw [wpa_bind]
  refine stop_writeProfileAtomically _ ?_ fun error herror => ?_
  · rw [wpa_onlyIf]
    exact ⟨fun h => absurd rfl h, fun _ => .of_settled (.refl host)⟩
  · rw [wpa_onlyIf]
    refine ⟨fun _ => ?_, fun h => absurd herror h⟩
    exact ⟨⟨rfl, rfl, rfl, rfl, rfl, rfl, nofun⟩, fun _ _ => rfl, nofun, fun _ => rfl,
      fun hg => ⟨hg, rfl⟩⟩

theorem stop_clearWindowsLocalDpiAfterCoreStopped {host : RuntimeHost} {g : Stop} :
    hostStopping.wpa clearWindowsLocalDpiAfterCoreStopped
      (fun _ host' g' => Rewrites host host' g g') host g := by
  unfold clearWindowsLocalDpiAfterCoreStopped
  rw [wpa_bind]
  refine stop_inert (R := Settled) ?_ fun stopped host1 h1 => ?_
  · exact .bind .get fun _ => .ite (Moves.perform (I := Quiet) rfl) (.pure _)
  rw [wpa_ite]
  refine ⟨fun _ => .of_settled h1, fun _ => ?_⟩
  rw [wpa_bind, wpa_modify, wpa_bind]
  refine wpa_mono stop_restoreStagedProfile fun _ host2 g2 h2 => ?_
  refine Rewrites.trans (.of_settled (h1.trans ?_)) h2
  exact ⟨rfl, rfl, rfl, rfl, rfl, rfl, rfl⟩

/-- A child that is not withdrawn under the guard is not counted. -/
theorem stop_executorStop {host : RuntimeHost} {g : Stop} :
    hostStopping.wpa executorStop (fun _ host' g' => Rewrites host host' g g') host g := by
  unfold executorStop
  rw [wpa_bind, wpa_get, wpa_ite]
  refine ⟨fun _ => ?_, fun _ => .of_settled (.refl host)⟩
  refine fun stopped _ => ⟨trivial, ?_⟩
  show Rewrites host host g (stopping.next g ⟨.executorStop, stopped⟩)
  refine ⟨(Settled.refl host).shaken, fun h h' => ?_, fun _ => by simp, fun hg => by simp [hg],
    fun hg => by simp [hg]⟩
  exact absurd (h.symm.trans h') (by simp)

end RuntimeHost

/-! ## Rolling back -/

namespace Runtime

variable (F : Functions)

theorem stop_rollBack {coreStopFailed : String} {s : Runtime} {g : Stop} :
    stopping.wpa (rollBack coreStopFailed) (fun _ s' g' => Rewrites s.host s'.host g g') s g := by
  unfold rollBack
  rw [wpa_bind]
  refine stop_onRecovery DurableRuntimeRecovery.journals_beginRollback fun beginError d1 => ?_
  rw [wpa_bind]
  refine stop_onHost (stop_inert (R := Settled) (Moves.perform (I := Quiet) rfl) ?_)
  intro stopError host1 h1
  refine wpa_seq (P := fun _ s' g' => Rewrites s.host s'.host g g') ?_ ?_
  · refine stop_onHost ?_
    rw [wpa_ite]
    refine ⟨fun _ => ?_, fun _ => .of_settled h1⟩
    refine wpa_mono RuntimeHost.stop_clearWindowsLocalDpiAfterCoreStopped fun _ host2 g2 h2 => ?_
    exact .trans (.of_settled h1) h2
  intro stopped s2 g2 h2
  rw [wpa_ite]
  refine ⟨fun _ => h2, fun _ => ?_⟩
  rw [wpa_ite]
  refine ⟨fun _ => h2, fun _ => ?_⟩
  rw [wpa_ite]
  refine ⟨fun _ => h2, fun _ => ?_⟩
  rw [wpa_bind]
  refine stop_onRecovery DurableRuntimeRecovery.journals_restoreNetworkState fun error d3 => ?_
  rw [wpa_ite]
  refine ⟨fun _ => h2, fun _ => ?_⟩
  exact stop_onRecovery DurableRuntimeRecovery.journals_completeRollback fun _ _ => h2

/-- What a rollback leaves: the profile is written back or lost, and a success
shows. -/
def Rolled (s : Runtime) (g : Stop) (error : String) (s' : Runtime) (g' : Stop) : Prop :=
  Rewrites s.host s'.host g g' ∧ (error = "" → g'.rolledBack = true)

theorem stop_returned {error : String} {s s0 : Runtime} {g g0 : Stop}
    (h : Rewrites s0.host s.host g0 g) : stopping.wpa (returned error) (Rolled s0 g0) s g := by
  refine wpa_bind.mpr (stop_onHost fun _ _ => ⟨trivial, ?_⟩)
  show Rolled s0 g0 error s (stopping.next g ⟨.mark (.rolledBack error), _⟩)
  rw [next_rolledBack]
  refine ⟨⟨h.shaken, h.lost, h.kept, h.grows, h.guarded⟩, fun herror => ?_⟩
  simp [herror]

theorem stop_recoverPendingRuntime {s : Runtime} {g : Stop} :
    stopping.wpa recoverPendingRuntime (Rolled s g) s g := by
  unfold recoverPendingRuntime
  rw [wpa_bind]
  refine stop_onHost (stop_calm (RuntimeHost.calm_withdrawTelegramWS []) fun _ host1 h1 => ?_)
  rw [wpa_bind]
  refine stop_onHost (wpa_mono RuntimeHost.stop_executorStop fun _ host2 g2 h2 => ?_)
  have h : Rewrites s.host host2 g g2 := .trans (.of_settled h1) h2
  rw [wpa_bind, wpa_get, wpa_ite]
  refine ⟨fun _ => stop_returned h, fun _ => ?_⟩
  rw [wpa_ite]
  refine ⟨fun _ => stop_returned h, fun _ => ?_⟩
  exact wpa_seq stop_rollBack fun error s3 g3 h3 => stop_returned (h.trans h3)

theorem stop_rollbackRuntime {s : Runtime} {g : Stop} :
    stopping.wpa (rollbackRuntime F) (Rolled s g) s g := by
  unfold rollbackRuntime
  rw [wpa_bind]
  refine stop_onHost (stop_calm (RuntimeHost.observing_readLocalDpiRuntimeObservation F).calm ?_)
  intro _ host1 h1
  rw [wpa_bind]
  refine stop_onHost (stop_calm (RuntimeHost.calm_withdrawTelegramWS []) fun _ host2 h2 => ?_)
  rw [wpa_bind]
  refine stop_onHost (wpa_mono RuntimeHost.stop_executorStop fun _ host3 g3 h3 => ?_)
  have h : Rewrites s.host host3 g g3 := .trans (.of_settled (h1.trans h2)) h3
  rw [wpa_withHost, wpa_ite]
  refine ⟨fun _ => ?_, fun _ => ?_⟩
  · refine wpa_seq (P := fun _ s' g' => Rewrites s.host s'.host g g') ?_ ?_
    · refine stop_onHost ?_
      refine wpa_bind.mpr (stop_inert (R := Settled) (Moves.perform (I := Quiet) rfl) ?_)
      intro error host4 h4
      rw [wpa_ite]
      refine ⟨fun _ => ?_, fun _ => h.trans (.of_settled h4)⟩
      refine wpa_seq RuntimeHost.stop_clearWindowsLocalDpiAfterCoreStopped ?_
      exact fun _ host5 g5 h5 => h.trans (.trans (.of_settled h4) h5)
    · exact fun _ s4 g4 h4 => stop_returned h4
  · exact wpa_seq stop_rollBack fun error s4 g4 h4 => stop_returned (h.trans h4)

/-- The phase tells the truth, or the profile was lost in a rollback that
succeeded. -/
def Reported (s : Runtime) (g : Stop) : Prop :=
  s.host.Truthful ∨ g.rolledBack = true ∧ g.failed = true

theorem stop_rollBackAttempt {withdraw : Bool} {s : Runtime} {g : Stop}
    (hstaged : s.host.profileStaged = true) :
    stopping.wpa (rollBackAttempt F withdraw) (fun _ => Reported) s g := by
  unfold rollBackAttempt
  refine wpa_seq (stop_rollbackRuntime F) ?_
  rintro error s1 g1 ⟨hrewrites, hdone⟩
  rw [wpa_bind]
  refine stop_modifyHost ?_
  by_cases herror : error = ""
  · rcases Bool.eq_false_or_eq_true s1.host.profileStaged with hkept | hlost
    · exact .inl fun _ => hkept
    · exact .inr ⟨hdone herror, hrewrites.lost hstaged hlost⟩
  · refine .inl (.of_phase ?_)
    simp [herror]

/-- A connection that is rolled back, or stays to be. If a profile is staged
then, it was staged before, and the trace shows the rollback. -/
structure Stopped (s : Runtime) (g : Stop) (s' : Runtime) (g' : Stop) : Prop where
  truthful : s'.host.Truthful
  kept : s'.host.phase = .configStaged →
    s.host.profileStaged = true ∧ g'.rolledBack = true ∧ g'.failed = g.failed
  guarded : g.guarded = true → g'.guarded = true ∧ g'.unwithdrawn = g.unwithdrawn

theorem stop_rollBackConnection {s : Runtime} {g : Stop} :
    stopping.wpa (rollBackConnection F) (fun _ s' g' => Stopped s g s' g') s g := by
  unfold rollBackConnection
  refine wpa_seq (stop_rollbackRuntime F) ?_
  rintro error s1 g1 ⟨hrewrites, hdone⟩
  rw [wpa_bind]
  refine stop_modifyHost ?_
  have hphase : (if error = "" then (if s1.host.profileStaged then .configStaged else .initialized)
      else .recoveryRequired : Phase) = .configStaged →
      error = "" ∧ s1.host.profileStaged = true := by
    split
    · split <;> simp_all
    · simp
  constructor
  · exact fun h => (hphase h).2
  · intro h
    obtain ⟨herror, hstaged⟩ := hphase h
    exact ⟨hrewrites.shaken.profileStaged hstaged, hdone herror, hrewrites.kept hstaged⟩
  · exact hrewrites.guarded

/-! ## An attempt to connect -/

theorem stop_observing {α : Type} {m : HostAct α} {s : Runtime} {g : Stop} (hm : Observing m)
    (h : Reported s g) : stopping.wpa (onHost m) (fun _ => Reported) s g := by
  refine stop_onHost (stop_calm hm.calm fun _ host hhost => ?_)
  exact h.imp (fun htrue => htrue.of_settled hhost) id

theorem stop_fail {s : Runtime} {g : Stop} (status : Status) (failure : String)
    (h : Reported s g) : stopping.wpa (fail F status failure) (fun _ => Reported) s g :=
  stop_observing (RuntimeHost.observing_fail F status failure) h

/-- The program ends an attempt, over a profile that is staged. -/
def EndsAttempt {α : Type} (m : RuntimeAct α) : Prop :=
  ∀ s g, s.host.profileStaged = true → stopping.wpa m (fun _ => Reported) s g

theorem Reported.of_staged {s : Runtime} {g : Stop} (h : s.host.profileStaged = true) :
    Reported s g :=
  .inl fun _ => h

theorem endsAttempt_rollBackAndFail (withdraw : Bool) (failure : String) :
    EndsAttempt (rollBackAndFail F withdraw failure) := by
  intro s g hstaged
  unfold rollBackAndFail
  exact wpa_seq (stop_rollBackAttempt F hstaged) fun error s' g' h' => stop_fail F _ _ h'

section Connecting

variable (op : ConnectOperation)

theorem stop_refused (reason : OperationInterruption) (identityMismatch : Bool) {s : Runtime}
    {g : Stop} (h : Reported s g) :
    stopping.wpa (if identityMismatch then fail F .notReady "core_identity_mismatch"
      else if reason = .deadlineExceeded then
        fail F .deadlineExceeded
          (if op.expectedCoreDigest = [] then "deadline_exceeded" else "connect_deadline")
      else fail F .notReady "operation_cancelled") (fun _ => Reported) s g := by
  rw [wpa_ite]
  refine ⟨fun _ => stop_fail F _ _ h, fun _ => ?_⟩
  rw [wpa_ite]
  exact ⟨fun _ => stop_fail F _ _ h, fun _ => stop_fail F _ _ h⟩

/-- A result that ends the attempt, or none. -/
def Ended (s : Runtime) (r : Option RuntimeResult) (s' : Runtime) (g' : Stop) : Prop :=
  Reported s' g' ∧ (r = none → Settled s.host s'.host)

theorem stop_ended {m : RuntimeAct RuntimeResult} {s0 s : Runtime} {g : Stop}
    (hm : stopping.wpa m (fun _ => Reported) s g) :
    stopping.wpa (do return some (← m)) (Ended s0) s g := by
  exact wpa_seq hm fun r _ _ h => ⟨h, fun hnone => absurd hnone (Option.some_ne_none r)⟩

theorem stop_interruption (rollback : Bool) {s : Runtime} {g : Stop} (htrue : s.host.Truthful)
    (hstaged : rollback = true → s.host.profileStaged = true) :
    stopping.wpa (interruption F op rollback) (Ended s) s g := by
  unfold interruption
  rw [wpa_bind]
  refine stop_onHost (stop_calm (calm_checkInterruption op) fun reason host1 h1 => ?_)
  rw [wpa_bind]
  refine stop_onHost (stop_calm (m := if op.expectedCoreDigest = [] then _ else _) ?_ ?_)
  · exact .ite (.pure _) (.bind (calm_ask rfl) fun _ => .pure _)
  intro identityMismatch host2 h2
  have hhost : Settled s.host host2 := h1.trans h2
  have hreported : Reported { s with host := host2 } g := .inl (htrue.of_settled hhost)
  rw [wpa_ite]
  refine ⟨fun _ => ⟨hreported, fun _ => hhost⟩, fun _ => ?_⟩
  dsimp only
  rw [wpa_ite]
  refine ⟨fun _ => stop_ended (stop_refused F op reason identityMismatch hreported), fun hr => ?_⟩
  rw [Bool.not_eq_true, Bool.not_eq_false] at hr
  refine wpa_seq (stop_rollBackAttempt F (hhost.profileStaged.trans (hstaged hr))) ?_
  intro error s' g' h'
  rw [wpa_ite]
  refine ⟨fun _ => stop_ended (stop_fail F _ _ h'), fun _ => ?_⟩
  exact stop_ended (stop_refused F op reason identityMismatch h')

theorem endsAttempt_uninterrupted {m : RuntimeAct RuntimeResult} (hm : EndsAttempt m) :
    EndsAttempt (do
      if let some result ← interruption F op true then return result
      m) := by
  intro s g hstaged
  refine wpa_seq (stop_interruption F op true (fun _ => hstaged) fun _ => hstaged) ?_
  rintro (_ | result) s' g' ⟨h', hnone⟩
  · exact hm s' g' ((hnone rfl).profileStaged.trans hstaged)
  · exact h'

theorem endsAttempt_journals {α : Type} {m : Act Machine DurableRuntimeRecovery α}
    {f : α → RuntimeAct RuntimeResult} (hm : Journals m) (hf : ∀ a, EndsAttempt (f a)) :
    EndsAttempt (onRecovery m >>= f) := by
  intro s g hstaged
  rw [wpa_bind]
  exact stop_onRecovery hm fun a _ => hf a _ _ hstaged

theorem endsAttempt_record {stage : RecoveryStage} {f : String → RuntimeAct RuntimeResult}
    (hf : ∀ error, EndsAttempt (f error)) :
    EndsAttempt (onRecovery (DurableRuntimeRecovery.record stage) >>= f) :=
  endsAttempt_journals (DurableRuntimeRecovery.journals_record stage) hf

theorem endsAttempt_ite {b : Prop} [Decidable b] {m n : RuntimeAct RuntimeResult}
    (hm : EndsAttempt m) (hn : EndsAttempt n) : EndsAttempt (if b then m else n) := by
  split
  · exact hm
  · exact hn

/-- The commit leaves a host that runs. -/
theorem stop_finishConnect {outcome : DpiOutcome} {s : Runtime} {g : Stop} :
    stopping.wpa (onHost (finishConnect F op outcome)) (fun _ => Reported) s g := by
  refine stop_onHost ?_
  unfold finishConnect
  rw [wpa_bind, wpa_modify]
  refine stop_moves (R := SamePhase) (P := fun _ => True) ?_ fun _ host g' hphase => ?_
  · refine .bind (.bind .get fun host => .ite (.pure _) ?_) fun unguarded => .ite ?_ ?_
    · refine .bind RuntimeHost.steady_transitionGuardArmed.keepsPhase fun _ => .ite (.pure _) ?_
      refine .bind (.bind ?_ fun _ => keepsPhase_ask) fun _ => .pure _
      exact .bind .get fun host => keepsPhase_ask
    · exact .bind (.modify fun _ => rfl) fun _ => (RuntimeHost.steady_fail F _ _).keepsPhase
    · split
      · refine .bind (.bind (steady_localDpiOwnerCurrent op).keepsPhase fun b => ?_) fun current => ?_
        · cases b with
          | false => exact .pure _
          | true => exact keepsPhase_ask
        refine .bind (.onlyIf (.modify fun _ => rfl)) fun _ => ?_
        exact (RuntimeHost.steady_snapshot F).keepsPhase
      · exact (RuntimeHost.steady_snapshot F).keepsPhase
  · have hrunning : host.phase = .running := hphase
    exact .inl (.of_phase (by simp [hrunning]))

theorem endsAttempt_commitConnect (outcome : DpiOutcome) :
    EndsAttempt (commitConnect F op outcome) := by
  refine endsAttempt_record fun verifiedError => endsAttempt_ite ?_ ?_
  · exact endsAttempt_rollBackAndFail F _ _
  refine endsAttempt_uninterrupted F op (endsAttempt_record fun committedError => ?_)
  refine endsAttempt_ite (endsAttempt_rollBackAndFail F _ _) ?_
  refine endsAttempt_uninterrupted F op fun s g _ => ?_
  rw [wpa_bind]
  refine stop_onHost (stop_moves (steady_admitTelegramWS F op) fun _ host g' _ => ?_)
  exact stop_finishConnect F op

/-- A program that goes on with the attempt when it has no result. -/
theorem endsAttempt_unless {α : Type} {m : RuntimeAct (Option α)} {f : Option α → RuntimeAct α}
    (hm : ∀ s g, s.host.profileStaged = true → stopping.wpa m (fun r s' g' =>
      Reported s' g' ∧ (r = none → s'.host.profileStaged = true)) s g)
    (hf : EndsAttempt (f none)) (hend : ∀ a, f (some a) = pure a) : EndsAttempt (m >>= f) := by
  intro s g hstaged
  refine wpa_seq (hm s g hstaged) ?_
  rintro (_ | a) s' g' ⟨h', hnone⟩
  · exact hf s' g' (hnone rfl)
  · rw [hend a]
    exact h'

theorem stop_verifyConnected {s : Runtime} {g : Stop} (hstaged : s.host.profileStaged = true) :
    stopping.wpa (verifyConnected F op) (fun r s' g' =>
      Reported s' g' ∧ (r = none → s'.host.profileStaged = true)) s g := by
  unfold verifyConnected
  rw [wpa_withHost, wpa_ite]
  refine ⟨fun _ => ⟨.of_staged hstaged, fun _ => hstaged⟩, fun _ => ?_⟩
  rw [wpa_bind]
  refine stop_onHost (stop_moves (RuntimeHost.steady_verifyEgress F false) ?_)
  intro failure host1 g1 h1
  have hstaged1 : host1.profileStaged = true := h1.profileStaged.trans hstaged
  refine wpa_seq (stop_interruption F op true (fun _ => hstaged1) fun _ => hstaged1) ?_
  rintro (_ | result) s2 g2 ⟨h2, hnone⟩
  · have hstaged2 : s2.host.profileStaged = true := (hnone rfl).profileStaged.trans hstaged1
    dsimp only
    rw [wpa_ite]
    refine ⟨fun _ => ?_, fun _ => ⟨h2, fun _ => hstaged2⟩⟩
    refine wpa_seq (endsAttempt_rollBackAndFail F _ _ _ _ hstaged2) fun result _ _ h => ?_
    exact ⟨h, fun hnone => absurd hnone (Option.some_ne_none result)⟩
  · exact ⟨h2, fun hnone => absurd hnone (Option.some_ne_none result)⟩

theorem endsAttempt_proveConnect : EndsAttempt (proveConnect F op) := by
  refine endsAttempt_record fun appliedError => endsAttempt_ite ?_ ?_
  · exact endsAttempt_rollBackAndFail F _ _
  refine endsAttempt_uninterrupted F op ?_
  refine endsAttempt_unless (fun s g => stop_verifyConnected F op) ?_ fun _ => rfl
  intro s g hstaged
  dsimp only
  rw [wpa_bind]
  refine stop_onHost (stop_moves (steady_proveLocalDpi op) fun outcome host g' hhost => ?_)
  have hstaged' : host.profileStaged = true := hhost.profileStaged.trans hstaged
  cases outcome with
  | withdrawFailed => exact endsAttempt_rollBackAndFail F _ _ _ _ hstaged'
  | expired => exact endsAttempt_rollBackAndFail F _ _ _ _ hstaged'
  | proved strategy admitted => exact endsAttempt_commitConnect F op _ _ _ hstaged'
  | unproved => exact endsAttempt_commitConnect F op _ _ _ hstaged'

theorem endsAttempt_startCore {f : String → RuntimeAct RuntimeResult}
    (hf : ∀ error, EndsAttempt (f error)) : EndsAttempt (startCore op >>= f) := by
  intro s g hstaged
  unfold startCore
  rw [wpa_bind, wpa_bind]
  refine stop_onHost (stop_inert (R := Settled) ?_ fun _ host hhost => ?_)
  · exact .bind .get fun _ => Moves.perform (I := Quiet) rfl
  have hstaged' : host.profileStaged = true := hhost.profileStaged.trans hstaged
  rw [wpa_withHost, wpa_ite]
  exact ⟨fun _ error _ => ⟨trivial, hf error _ _ hstaged'⟩,
    fun _ error _ => ⟨trivial, hf error _ _ hstaged'⟩⟩

theorem endsAttempt_startConnect : EndsAttempt (startConnect F op) := by
  refine endsAttempt_journals DurableRuntimeRecovery.journals_begin fun beginError => ?_
  refine endsAttempt_ite (fun s g hstaged => stop_fail F _ _ (.of_staged hstaged)) ?_
  refine endsAttempt_uninterrupted F op (endsAttempt_record fun startedError => ?_)
  refine endsAttempt_ite (endsAttempt_rollBackAndFail F _ _) ?_
  refine endsAttempt_uninterrupted F op (endsAttempt_uninterrupted F op ?_)
  refine endsAttempt_startCore op fun startError => endsAttempt_ite ?_ ?_
  · exact endsAttempt_uninterrupted F op (endsAttempt_rollBackAndFail F _ _)
  · exact endsAttempt_uninterrupted F op (endsAttempt_proveConnect F op)

/-- A connection that is not made tells the truth about its profile, unless the
profile was lost in a rollback that succeeded. -/
theorem stop_connectImpl {s : Runtime} {g : Stop} (htrue : s.host.Truthful) :
    stopping.wpa (connectImpl F op) (fun _ => Reported) s g := by
  unfold connectImpl
  refine wpa_call fun _ _ => ⟨trivial, ?_⟩
  show stopping.wpa _ _ s _
  rw [wpa_withHost, wpa_ite]
  refine ⟨fun _ => stop_fail F _ _ (.inl htrue), fun hready => ?_⟩
  rw [not_or, not_not, not_not] at hready
  rw [wpa_ite]
  refine ⟨fun _ => stop_fail F _ _ (.inl htrue), fun _ => ?_⟩
  refine wpa_seq (stop_interruption F op false htrue nofun) ?_
  rintro (_ | result) s1 g1 ⟨h1, hnone⟩
  swap
  · exact h1
  have hstaged1 : s1.host.profileStaged = true := (hnone rfl).profileStaged.trans hready.2
  dsimp only
  rw [wpa_bind]
  refine stop_onHost (stop_moves (m := if op.expectedCoreDigest = [] then _ else _)
    (Moves.ite (.pure _) (steady_ask rfl)) ?_)
  intro supported host2 g2 h2
  have hstaged2 : host2.profileStaged = true := h2.profileStaged.trans hstaged1
  rw [wpa_ite]
  refine ⟨fun _ => stop_fail F _ _ (.of_staged hstaged2), fun _ => ?_⟩
  rw [wpa_ite]
  refine ⟨fun _ => stop_observing (RuntimeHost.observing_snapshot F) (.of_staged hstaged2), ?_⟩
  intro _
  rw [wpa_ite]
  refine ⟨fun _ => stop_fail F _ _ (.of_staged hstaged2), fun _ => ?_⟩
  rw [wpa_ite]
  refine ⟨fun _ => stop_fail F _ _ (.of_staged hstaged2), fun _ => ?_⟩
  rw [wpa_bind]
  refine stop_onHost (stop_moves (steady_prepareConnect F op) fun prepared host3 g3 h3 => ?_)
  have hstaged3 : host3.profileStaged = true := h3.profileStaged.trans hstaged2
  cases prepared with
  | some result => exact .of_staged hstaged3
  | none => exact endsAttempt_startConnect F op _ _ hstaged3

end Connecting

end Runtime

end Pokrov.Windows.Service
