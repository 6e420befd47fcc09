import Pokrov.Windows.Service.WriteAhead

/-!
# The service is killed and starts again

A machine sees one life of the service after another. Each starts on the journal
that the last one left, takes any operations, and is cut off anywhere.

The journal is not kept until a rollback reports success, as one may think from
the texts of the rollback functions: once the network state is back, the stage
`recovered` may be cleared by a later rollback that then fails for another
reason. It is kept until the network state has been restored.
-/

namespace Pokrov.Windows.Service

open Codec Effects Contract
open Pokrov.Windows.Service.Runtime

/-! ## Lives -/

inductive Lived (F : Functions) : Option Bytes → List (Event Machine) → Prop
  | nil (file : Option Bytes) : Lived F file []
  | life {parts : HostParts} {backend : Bool} {file : Option Bytes} {operations : List Operation}
      {tr rest : List (Event Machine)} {q : Prog Machine (Unit × Runtime)}
      (run : Steps (session F operations (boot parts backend file)) tr q)
      (later : Lived F (journalAfter file tr) rest) : Lived F file (tr ++ rest)

/-- Every life keeps its side, and leaves the next one a journal that holds what
is owed. -/
theorem guaranteed_of_lived {F : Functions} {file : Option Bytes} {tr : List (Event Machine)}
    (h : Lived F file tr) (hgen : ∀ e ∈ tr, generated e = true) :
    ∀ g : Ledger, g.file = file → g.Owing → journaling.Guaranteed g tr := by
  induction h with
  | nil file => exact fun _ _ _ => trivial
  | @life parts backend file operations tr rest q run later ih =>
    rintro g rfl howing
    have hwp := kept_session F operations (boot parts backend g.file) g
      (tracks_load backend g howing)
    have hgen1 : ∀ e ∈ tr, generated e = true := fun e he => hgen e (List.mem_append_left _ he)
    obtain ⟨hguar, -⟩ := journaling.wp_steps hwp run (journaling.along_of_mem g hgen1)
    have howing' : (journaling.after g tr).Owing :=
      journaling.after_of_along (fun g e hg he => he.1 hg) howing hguar
    refine (journaling.along_append).mpr ⟨hguar, ih ?_ _ (after_file g tr) howing'⟩
    exact fun e he => hgen e (List.mem_append_right _ he)

/-! ## From a start to the restore -/

/-- All that an event can do to the ledger. -/
theorem Ledger.next_cases (g : Ledger) (e : Event Machine) :
    (g.next e = g ∧ e.call ≠ .mark .connectImpl ∧ isStart e.call = false) ∨
    (∃ content, e = ⟨.writeJournal content, true⟩ ∧ g.next e = { g with file := some content }) ∨
    (∃ snapshot, e = ⟨.capture, ("", snapshot)⟩ ∧
      g.next e = { g with captured := some snapshot }) ∨
    (∃ snapshot, e = ⟨.restore snapshot, ""⟩ ∧ g.owed = some snapshot ∧
      g.next e = { g with owed := none }) ∨
    (isStart e.call = true ∧ g.next e = { g with owed := g.captured }) ∨
    (e.call = .mark .connectImpl ∧ g.next e = { g with captured := none }) := by
  obtain ⟨c, r⟩ := e
  cases c with
  | writeJournal content =>
    cases r with
    | true => exact .inr (.inl ⟨content, rfl, rfl⟩)
    | false => exact .inl ⟨rfl, nofun, rfl⟩
  | capture =>
    obtain ⟨error, snapshot⟩ := r
    by_cases he : error = ""
    · subst he
      exact .inr (.inr (.inl ⟨snapshot, rfl, rfl⟩))
    · exact .inl ⟨if_neg he, nofun, rfl⟩
  | restore snapshot =>
    by_cases hsettled : r = "" ∧ g.owed = some snapshot
    · obtain ⟨rfl, howed⟩ := hsettled
      exact .inr (.inr (.inr (.inl ⟨snapshot, rfl, howed, if_pos ⟨rfl, howed⟩⟩)))
    · exact .inl ⟨if_neg hsettled, nofun, rfl⟩
  | start => exact .inr (.inr (.inr (.inr (.inl ⟨rfl, rfl⟩))))
  | startInterruptible => exact .inr (.inr (.inr (.inr (.inl ⟨rfl, rfl⟩))))
  | mark m =>
    cases m with
    | connectImpl => exact .inr (.inr (.inr (.inr (.inr ⟨rfl, rfl⟩))))
    | _ => exact .inl ⟨rfl, nofun, rfl⟩
  | _ => exact .inl ⟨next_of_quiet rfl, nofun, rfl⟩

/-- What was captured was captured since the last attempt began. -/
theorem captured_since {g : Ledger} {pre : List (Event Machine)} {snapshot : Bytes}
    (hg : g.captured = none) (h : (journaling.after g pre).captured = some snapshot) :
    ∃ before between : List (Event Machine), pre = before ++ ⟨.capture, ("", snapshot)⟩ :: between ∧
      ∀ e ∈ between, e.call ≠ .mark .connectImpl := by
  have hstep : ∀ (g : Ledger) (e : Event Machine), (g.next e).captured = some snapshot →
      e = ⟨.capture, ("", snapshot)⟩ ∨
        g.captured = some snapshot ∧ ¬ (e.call = .mark .connectImpl) := by
    intro g e he
    rcases g.next_cases e with ⟨hn, hmark, -⟩ | ⟨content, rfl, hn⟩ | ⟨snapshot', rfl, hn⟩ |
      ⟨snapshot', rfl, -, hn⟩ | ⟨hstart, hn⟩ | ⟨-, hn⟩ <;> rw [hn] at he
    · exact .inr ⟨he, hmark⟩
    · exact .inr ⟨he, nofun⟩
    · cases he
      exact .inl rfl
    · exact .inr ⟨he, nofun⟩
    · refine .inr ⟨he, fun hc => ?_⟩
      rw [hc] at hstart
      cases hstart
    · cases he
  rcases journaling.since (A := fun g => g.captured = some snapshot) hstep h with
    ⟨hnone, -⟩ | ⟨before, e, between, rfl, rfl, hbetween⟩
  · rw [hg] at hnone
    cases hnone
  · exact ⟨before, between, rfl, hbetween⟩

/-- What is owed stays owed until it is restored. Another start would need a
journal that holds another network state. -/
theorem owed_next {g : Ledger} {e : Event Machine} {snapshot : Bytes} (howing : g.Owing)
    (howed : g.owed = some snapshot) (hguar : journaling.guar g e)
    (he : e ≠ ⟨.restore snapshot, ""⟩) : (g.next e).owed = some snapshot := by
  rcases g.next_cases e with ⟨hn, -⟩ | ⟨content, rfl, hn⟩ | ⟨snapshot', rfl, hn⟩ |
    ⟨snapshot', rfl, howed', -⟩ | ⟨hstart, hn⟩ | ⟨-, hn⟩
  · rw [hn]
    exact howed
  · rw [hn]
    exact howed
  · rw [hn]
    exact howed
  · cases howed.symm.trans howed'
    exact absurd rfl he
  · obtain ⟨snapshot', hcaptured, -, -, hsnapshot'⟩ := hguar.2.2 hstart
    have hsnapshot := (howing snapshot howed).2.2
    rw [hn]
    show g.captured = some snapshot
    rw [hcaptured, ← hsnapshot', hsnapshot]
  · rw [hn]
    exact howed

theorem owed_after {g : Ledger} {tr : List (Event Machine)} {snapshot : Bytes} (howing : g.Owing)
    (howed : g.owed = some snapshot) (hguar : journaling.Guaranteed g tr)
    (htr : ⟨.restore snapshot, ""⟩ ∉ tr) :
    (journaling.after g tr).Owing ∧ (journaling.after g tr).owed = some snapshot := by
  induction tr generalizing g with
  | nil => exact ⟨howing, howed⟩
  | cons e tr ih =>
    rw [List.mem_cons, not_or] at htr
    exact ih (hguar.1.1 howing) (owed_next howing howed hguar.1 (Ne.symm htr.1)) hguar.2 htr.2

/-! ## The next Initialize -/

/-- The calls that an initialization needs on its way to the restore. -/
def failure : Event Machine → Bool
  | ⟨.prepareDirectories, prepared⟩ => !prepared
  | ⟨.coreInitialize, error⟩ => error ≠ ""
  | ⟨.writeJournal _, written⟩ => !written
  | ⟨.coreStop, error⟩ => error ≠ ""
  | ⟨.executorStopAfterCoreStopped, stopped⟩ => !stopped
  | ⟨.restore _, error⟩ => error ≠ ""
  | _ => false

/-- A host that has all that it needs to recover. -/
def HostParts.equipped (parts : HostParts) (backend : Bool) : Bool :=
  parts.core && parts.runtimeRoot && parts.recovery && backend

/-- The history of a run that restores nothing but the snapshot; in a smooth
run nothing fails. -/
def restoring (snapshot : Bytes) (smooth : Prop) : Contract Machine (List (Event Machine)) :=
  history (fun e => smooth → failure e = false) fun e => ∀ other, e.call = .restore other →
    other = snapshot

section Initialize

variable {F : Functions} {snapshot : Bytes} {smooth : Prop}

/-- The recovery object holds the snapshot and has still to restore it. -/
structure Pending (snapshot : Bytes) (d : DurableRuntimeRecovery) : Prop where
  valid : d.invalid = false
  restores : d.stage.restores = true
  held : d.networkSnapshot = snapshot
  wellFormed : d.WellFormed

/-- What has been restored stays restored. -/
def Later (snapshot : Bytes) (tr tr' : List (Event Machine)) : Prop :=
  ⟨.restore snapshot, ""⟩ ∈ tr → ⟨.restore snapshot, ""⟩ ∈ tr'

/-- The contract as the host sees it. -/
abbrev quietRestoring (snapshot : Bytes) (smooth : Prop) : Contract Quiet (List (Event Machine)) :=
  (restoring snapshot smooth).restrict fun c => quiet c = true

variable {tr : List (Event Machine)} {s : Runtime} {d : DurableRuntimeRecovery}

theorem wpa_host {α : Type} {m : HostAct α} {host : RuntimeHost} :
    (quietRestoring snapshot smooth).wpa m (fun _ _ tr' => Later snapshot tr tr') host tr := by
  refine wpa_of_kept (J := Later snapshot tr) ?_ id
  rintro tr' ⟨⟨c, hc⟩, r⟩ hkept -
  refine ⟨?_, fun h => List.mem_append_left _ (hkept h)⟩
  rintro other rfl
  cases hc

theorem wpa_onHost_iff {α : Type} {m : HostAct α} {Q : α → Runtime → List (Event Machine) → Prop} :
    (restoring snapshot smooth).wpa (onHost m) Q s tr ↔
      (quietRestoring snapshot smooth).wpa m (fun a host tr' => Q a { s with host } tr')
        s.host tr :=
  wpa_confined

theorem wpa_ask {c : MachineCall} {hc : quiet c = true}
    {Q : c.Answer → Runtime → List (Event Machine) → Prop}
    (h : ∀ r, (smooth → failure ⟨c, r⟩ = false) → Q r s (tr ++ [⟨c, r⟩])) :
    (restoring snapshot smooth).wpa (onHost (ask c hc)) Q s tr := by
  refine wpa_onHost_iff.mpr fun r hr => ⟨?_, h r hr⟩
  rintro other rfl
  cases hc

theorem wpa_modifyHost {f : RuntimeHost → RuntimeHost}
    {Q : Unit → Runtime → List (Event Machine) → Prop} :
    (restoring snapshot smooth).wpa (modifyHost f) Q s tr ↔ Q () { s with host := f s.host } tr :=
  wpa_onHost_iff

theorem wpa_getHost {Q : RuntimeHost → Runtime → List (Event Machine) → Prop} :
    (restoring snapshot smooth).wpa getHost Q s tr ↔ Q s.host s tr :=
  wpa_onHost_iff

/-- A failure is reported as one. -/
theorem wpa_fail (status : Status) (reason : String) :
    (restoring snapshot smooth).wpa (fail F status reason) (fun r _ tr' =>
      r.status = status ∧ Later snapshot tr tr') s tr := by
  refine wpa_onHost_iff.mpr ?_
  unfold RuntimeHost.fail RuntimeHost.snapshotBody
  rw [wpa_bind, wpa_modify, wpa_bind, wpa_bind]
  exact wpa_mono wpa_host fun _ _ tr' h => ⟨rfl, h⟩

theorem RecoveryStage.forward_of_restores (stage : RecoveryStage) :
    stage.restores = true → stage ≠ .rollingBack →
      stage.isForwardTransition .rollingBack = true := by
  cases stage <;> decide

/-- The rollback is on its way, or failed at its first write. -/
theorem wpa_beginRollback (h : Pending snapshot d) :
    (restoring snapshot smooth).wpa DurableRuntimeRecovery.beginRollback (fun r d' _ =>
      (r = "" → d' = { d with stage := .rollingBack }) ∧ (smooth → r = "")) d tr := by
  have hforward := d.stage.forward_of_restores h.restores
  have hclean := RecoveryStage.ne_clean_of_restores h.restores
  have hrecovered : d.stage ≠ .recovered := by
    intro hs
    have hrestores := h.restores
    rw [hs] at hrestores
    cases hrestores
  unfold DurableRuntimeRecovery.beginRollback
  rw [wpa_bind, wpa_get, if_neg (by rw [h.valid]; decide), if_neg hclean, wpa_ite]
  refine ⟨fun hstage => ⟨fun _ => ?_, fun _ => rfl⟩, fun hstage => ?_⟩
  · rw [← hstage]
  rw [if_neg hrecovered]
  unfold DurableRuntimeRecovery.record
  rw [wpa_bind, wpa_get, if_neg (by rw [h.valid]; decide), if_neg (by simp [hforward hstage]),
    wpa_bind, wpa_set, wpa_bind]
  unfold DurableRuntimeRecovery.write
  rw [wpa_bind, wpa_get, if_neg (by simp [h.wellFormed.generation]), wpa_perform]
  rintro (_ | _) hr
  · refine ⟨nofun, ?_⟩
    show ("recovery_write_failed" = "" → _) ∧ (smooth → "recovery_write_failed" = "")
    exact ⟨fun hr => absurd hr (by decide), fun hs => nomatch hr hs⟩
  · exact ⟨nofun, fun _ => rfl, fun _ => rfl⟩

theorem wpa_record {stage : RecoveryStage} :
    (restoring snapshot smooth).wpa (DurableRuntimeRecovery.record stage)
      (fun _ _ tr' => Later snapshot tr tr') d tr := by
  unfold DurableRuntimeRecovery.record
  rw [wpa_bind, wpa_get, wpa_ite]
  refine ⟨fun _ => id, fun _ => ?_⟩
  rw [wpa_ite]
  refine ⟨fun _ => id, fun _ => ?_⟩
  rw [wpa_bind, wpa_set, wpa_bind]
  unfold DurableRuntimeRecovery.write
  rw [wpa_bind, wpa_get, wpa_ite]
  refine ⟨fun _ => id, fun _ => ?_⟩
  rw [wpa_perform]
  rintro (_ | _) -
  · exact ⟨nofun, List.mem_append_left _⟩
  · exact ⟨nofun, List.mem_append_left _⟩

/-- Completing a rollback only writes. -/
theorem wpa_completeRollback :
    (restoring snapshot smooth).wpa DurableRuntimeRecovery.completeRollback
      (fun _ _ tr' => Later snapshot tr tr') d tr := by
  unfold DurableRuntimeRecovery.completeRollback
  rw [wpa_bind, wpa_get, wpa_ite]
  refine ⟨fun _ => id, fun _ => ?_⟩
  rw [wpa_ite]
  refine ⟨fun _ => id, fun _ => ?_⟩
  rw [wpa_ite]
  refine ⟨fun _ => id, fun _ => ?_⟩
  refine wpa_seq wpa_record fun error d' tr' h => ?_
  rw [wpa_ite]
  refine ⟨fun _ => h, fun _ => ?_⟩
  unfold DurableRuntimeRecovery.finishRecovery
  rw [wpa_bind, wpa_get, wpa_bind, wpa_set, wpa_bind]
  refine wpa_mono wpa_record fun error d'' tr'' h' => ?_
  rw [wpa_ite]
  exact ⟨fun _ => fun hr => h' (h hr), fun _ => fun hr => h' (h hr)⟩

/-- The local DPI is withdrawn, unless Core or the executor did not stop. -/
theorem wpa_clearWindowsLocalDpi {host : RuntimeHost} :
    (quietRestoring snapshot smooth).wpa RuntimeHost.clearWindowsLocalDpiAfterCoreStopped
      (fun stopped _ _ => smooth → stopped = true) host tr := by
  unfold RuntimeHost.clearWindowsLocalDpiAfterCoreStopped
  rw [wpa_bind]
  have hstopped : (quietRestoring snapshot smooth).wpa (do
      if (← get).parts.core then ask .executorStopAfterCoreStopped rfl else pure true)
      (fun stopped _ _ => smooth → stopped = true) host tr := by
    rw [wpa_bind, wpa_get, wpa_ite]
    refine ⟨fun _ => ?_, fun _ _ => rfl⟩
    refine fun stopped hr => ⟨nofun, fun hs => ?_⟩
    simpa [failure] using hr hs
  refine wpa_mono hstopped fun stopped host' tr' hstopped => ?_
  rw [wpa_ite]
  refine ⟨fun hnot hs => absurd (hstopped hs) hnot, fun _ => ?_⟩
  rw [wpa_bind, wpa_modify, wpa_bind]
  exact wpa_mono wpa_host fun _ _ _ _ => fun _ => rfl

/-- A rollback that reports success, or in which nothing fails, has restored
the snapshot. -/
theorem wpa_rollBack {coreStopFailed : String} (hname : coreStopFailed ≠ "")
    (h : Pending snapshot s.recovery) (hbackend : smooth → s.recovery.backend = true) :
    (restoring snapshot smooth).wpa (rollBack coreStopFailed) (fun r _ tr' =>
      r = "" ∨ smooth → ⟨.restore snapshot, ""⟩ ∈ tr') s tr := by
  -- an exit with an error is taken only when something has failed
  have stuck : ∀ {error : String} {tr' : List (Event Machine)}, error ≠ "" → ¬ smooth →
      (error = "" ∨ smooth → ⟨.restore snapshot, ""⟩ ∈ tr') :=
    fun herror hrough => fun hr => (hr.elim herror hrough).elim
  unfold rollBack onRecovery
  rw [wpa_bind, wpa_zoom]
  refine wpa_mono (wpa_beginRollback h) ?_
  rintro beginError d tr1 ⟨hbegun, hbegin⟩
  rw [wpa_bind]
  refine wpa_ask fun stopError hstop => ?_
  have hstop : smooth → stopError = "" := fun hs => by simpa [failure] using hstop hs
  rw [wpa_bind, wpa_onHost_iff]
  have hcleared : (quietRestoring snapshot smooth).wpa (do
      if stopError = "" then RuntimeHost.clearWindowsLocalDpiAfterCoreStopped else pure false)
      (fun stopped _ _ => smooth → stopped = true) s.host (tr1 ++ [⟨.coreStop, stopError⟩]) := by
    rw [wpa_ite]
    exact ⟨fun _ => wpa_clearWindowsLocalDpi, fun hne hs => absurd (hstop hs) hne⟩
  refine wpa_mono hcleared fun stopped host tr2 hcleared => ?_
  rw [wpa_ite]
  refine ⟨fun herror => stuck herror fun hs => herror (hbegin hs), fun hok => ?_⟩
  obtain rfl := hbegun (not_not.mp hok)
  rw [wpa_ite]
  refine ⟨fun herror => stuck hname fun hs => herror (hstop hs), fun _ => ?_⟩
  rw [wpa_ite]
  refine ⟨fun herror => ?_, fun _ => ?_⟩
  · exact stuck (show "local_dpi_withdraw_failed" ≠ "" by decide) fun hs => herror (hcleared hs)
  rw [wpa_bind, wpa_zoom]
  unfold DurableRuntimeRecovery.restoreNetworkState
  have hwf := h.wellFormed
  have hclean := RecoveryStage.ne_clean_of_restores h.restores
  rw [wpa_bind, wpa_get, if_neg (by rw [h.valid]; decide), if_neg nofun, if_neg (by simp), wpa_ite]
  refine ⟨fun hnone => ?_, fun _ => ?_⟩
  · rw [wpa_pure, wpa_ite]
    refine ⟨fun herror => stuck herror fun hs => hnone (hbackend hs), fun hr => ?_⟩
    exact absurd (show "recovery_network_unavailable" ≠ "" by decide) hr
  rw [if_neg (not_or.mpr ⟨(hwf.running hclean).2, Nat.not_lt.mpr hwf.size⟩), wpa_perform]
  intro networkError hr
  refine ⟨fun other hother => ?_, ?_⟩
  · cases hother
    exact h.held
  rw [wpa_ite]
  refine ⟨fun herror => stuck herror fun hs => ?_, fun hok => ?_⟩
  · exact herror (by simpa [failure] using hr hs)
  obtain rfl := not_not.mp hok
  rw [wpa_zoom]
  refine wpa_mono wpa_completeRollback fun r d tr3 hlater => fun _ => hlater ?_
  rw [← h.held]
  exact List.mem_append_right _ List.mem_cons_self

theorem wpa_recoverPendingRuntime (hhost : s.host.telegramWSPreparation = none)
    (h : Pending snapshot s.recovery)
    (hequipped : smooth → s.host.parts.recovery = true ∧ s.recovery.backend = true) :
    (restoring snapshot smooth).wpa recoverPendingRuntime (fun r _ tr' =>
      r = "" ∨ smooth → ⟨.restore snapshot, ""⟩ ∈ tr') s tr := by
  have returned : ∀ {error : String} {s' : Runtime} {tr' : List (Event Machine)},
      (error = "" ∨ smooth → ⟨.restore snapshot, ""⟩ ∈ tr') →
      (restoring snapshot smooth).wpa (returned error) (fun r _ tr' =>
        r = "" ∨ smooth → ⟨.restore snapshot, ""⟩ ∈ tr') s' tr' := by
    intro error s' tr' h'
    unfold Runtime.returned
    rw [wpa_bind]
    exact wpa_ask fun _ _ => fun hr => List.mem_append_left _ (h' hr)
  unfold recoverPendingRuntime
  rw [wpa_bind, wpa_onHost_iff]
  unfold RuntimeHost.withdrawTelegramWS
  rw [wpa_bind, wpa_get, hhost, wpa_pure, wpa_bind, wpa_onHost_iff]
  have hstopped : (quietRestoring snapshot smooth).wpa RuntimeHost.executorStop
      (fun _ host _ => host = s.host) s.host tr := by
    unfold RuntimeHost.executorStop
    rw [wpa_bind, wpa_get, wpa_ite]
    exact ⟨fun _ => fun r _ => ⟨nofun, rfl⟩, fun _ => rfl⟩
  refine wpa_mono hstopped ?_
  rintro _ _ tr1 rfl
  rw [wpa_bind, wpa_get, wpa_ite]
  refine ⟨fun hnone => returned fun hr => ?_, fun _ => ?_⟩
  · refine hr.elim (fun herror => ?_) fun hs => absurd (hequipped hs).1 hnone
    exact absurd (show "recovery_unavailable" = "" from herror) (by decide)
  have hrequires : s.recovery.requiresRecovery = true := by
    simp [DurableRuntimeRecovery.requiresRecovery, RecoveryStage.ne_clean_of_restores h.restores]
  rw [if_neg (not_not.mpr hrequires), wpa_bind]
  refine wpa_mono (wpa_rollBack (by decide) h fun hs => (hequipped hs).2) ?_
  exact fun error s' tr' h' => returned h'

theorem RuntimeHost.new_fields (parts : HostParts) :
    (RuntimeHost.new parts).parts = parts ∧ (RuntimeHost.new parts).initialized = false ∧
      (RuntimeHost.new parts).telegramWSPreparation = none := by
  unfold RuntimeHost.new
  split
  · exact ⟨rfl, rfl, rfl⟩
  · exact ⟨rfl, rfl, rfl⟩

theorem wpa_initializeRuntime {parts : HostParts} {backend : Bool} {file : Option Bytes}
    (h : Pending snapshot (.load backend file))
    (hequipped : smooth → parts.equipped backend = true) :
    (restoring snapshot smooth).wpa (initializeRuntime F) (fun r _ tr' =>
      r.status = .ok ∨ smooth → ⟨.restore snapshot, ""⟩ ∈ tr') (boot parts backend file) [] := by
  have hparts : smooth → ((parts.core = true ∧ parts.runtimeRoot = true) ∧
      parts.recovery = true) ∧ backend = true := by
    intro hs
    simpa [HostParts.equipped] using hequipped hs
  have stuck : ∀ {reason : String} {s : Runtime} {tr : List (Event Machine)}, ¬ smooth →
      (restoring snapshot smooth).wpa (fail F .notReady reason) (fun r _ tr' =>
        r.status = .ok ∨ smooth → ⟨.restore snapshot, ""⟩ ∈ tr') s tr := by
    intro reason s tr hrough
    refine wpa_mono (wpa_fail .notReady reason) ?_
    rintro r s' tr' ⟨hstatus, -⟩ (hok | hs)
    · exact absurd (hstatus.symm.trans hok) (by decide)
    · exact absurd hs hrough
  obtain ⟨hsame, hfresh, htelegram⟩ := RuntimeHost.new_fields parts
  unfold boot initializeRuntime
  rw [wpa_bind, wpa_getHost, hsame, if_neg (by simp [hfresh]), wpa_ite]
  refine ⟨fun hnone => stuck fun hs => ?_, fun _ => ?_⟩
  · exact hnone.elim (fun hc => hc (hparts hs).1.1.1) fun hr => hr (hparts hs).1.1.2
  rw [wpa_bind]
  refine wpa_ask fun prepared hprepared => ?_
  rw [wpa_ite]
  refine ⟨fun hnot => stuck fun hs => hnot (by simpa [failure] using hprepared hs), fun _ => ?_⟩
  rw [wpa_bind, wpa_modifyHost, wpa_bind]
  refine wpa_ask fun error herror => ?_
  rw [wpa_ite]
  refine ⟨fun hnot => stuck fun hs => hnot (by simpa [failure] using herror hs), fun _ => ?_⟩
  rw [wpa_bind, wpa_modifyHost, wpa_bind]
  refine wpa_mono (wpa_recoverPendingRuntime htelegram h fun hs => ?_)
    fun recoveryError s tr hdone => ?_
  · exact ⟨hsame.symm ▸ (hparts hs).1.2, load_backend backend true file ▸ (hparts hs).2⟩
  rw [wpa_ite]
  refine ⟨fun herror => ?_, fun hok => ?_⟩
  · rw [wpa_bind, wpa_modifyHost]
    refine wpa_mono (wpa_fail .notReady recoveryError) ?_
    rintro r s' tr' ⟨hstatus, hlater⟩ (hok | hs)
    · exact absurd (hstatus.symm.trans hok) (by decide)
    · exact hlater (hdone (.inr hs))
  · have hrestored := hdone (.inl (not_not.mp hok))
    rw [wpa_bind, wpa_onHost_iff]
    refine wpa_mono wpa_host fun _ host tr' hlater => ?_
    refine wpa_onHost_iff.mpr (wpa_mono wpa_host fun _ _ tr'' hlater' => fun _ => ?_)
    exact hlater' (hlater hrestored)

end Initialize

/-- **The next Initialize restores.** It restores nothing but the snapshot; and
when it reports success, or when nothing fails on a host that has all it needs,
it has restored it. -/
theorem initialize_restores {F : Functions} {parts : HostParts} {backend : Bool}
    {file : Option Bytes} {tr : List (Event Machine)} {q : Prog Machine (RuntimeResult × Runtime)}
    (hvalid : (durable file).invalid = false) (hrestores : (durable file).stage.restores = true)
    (hrun : Steps (initializeRuntime F (boot parts backend file)) tr q) :
    (∀ other r, ⟨.restore other, r⟩ ∈ tr → other = (durable file).networkSnapshot) ∧
      ∀ result s, q = .ret (result, s) →
        result.status = .ok ∨ (parts.equipped backend ∧ ∀ e ∈ tr, failure e = false) →
        ⟨.restore (durable file).networkSnapshot, ""⟩ ∈ tr := by
  have hload := load_backend backend true file
  have hpending : Pending (durable file).networkSnapshot (.load backend file) := by
    have hvalid' : (DurableRuntimeRecovery.load backend file).invalid = false := by
      rw [hload]
      exact hvalid
    refine ⟨hvalid', ?_, ?_, wellFormed_load hvalid'⟩
    · rw [hload]
      exact hrestores
    · rw [hload]
      rfl
  have hwp := wpa_initializeRuntime (F := F) hpending
    (And.left : (parts.equipped backend = true ∧ ∀ e ∈ tr, failure e = false) → _)
  obtain ⟨hguar, hend⟩ := Contract.wp_steps _ hwp hrun
    (Contract.along_of_mem _ [] fun e he hsmooth => hsmooth.2 e he)
  refine ⟨fun other r he => ?_, ?_⟩
  · exact Contract.mem_of_along _ hguar ⟨.restore other, r⟩ he other rfl
  · rintro result s rfl hdone
    have hrestored := hend hdone
    rw [restoring, after_history] at hrestored
    exact hrestored

/-! ## The law -/

/-- **Write-ahead law.** Let a machine live through any lives of the service.
Whenever Core is started, the journal is at `core_started` with the network
state captured since the attempt to connect began. From there until a restore of
this very state succeeds, the journal stays valid, keeps it, and is in a stage
that makes a new service restore it; and a service that starts from there
restores nothing else, and restores it before its Initialize reports success. -/
theorem start_owed_until_restored {F : Functions} {file : Option Bytes}
    {pre post : List (Event Machine)} {e : Event Machine}
    (hlived : Lived F file (pre ++ e :: post))
    (hgen : ∀ e' ∈ pre ++ e :: post, generated e' = true) (hstart : isStart e.call = true) :
    ∃ snapshot,
      (∃ before between : List (Event Machine), pre = before ++ ⟨.capture, ("", snapshot)⟩ :: between ∧
        ∀ e' ∈ between, e'.call ≠ .mark .connectImpl) ∧
      ((durable (journalAfter file pre)).invalid = false ∧
        (durable (journalAfter file pre)).stage = .coreStarted ∧
        (durable (journalAfter file pre)).networkSnapshot = snapshot) ∧
      ∀ mid rest, post = mid ++ rest → ⟨.restore snapshot, ""⟩ ∉ mid →
        ((durable (journalAfter file (pre ++ e :: mid))).invalid = false ∧
          (durable (journalAfter file (pre ++ e :: mid))).stage.restores = true ∧
          (durable (journalAfter file (pre ++ e :: mid))).networkSnapshot = snapshot) ∧
        ∀ parts backend tr q,
          Steps (initializeRuntime F (boot parts backend (journalAfter file (pre ++ e :: mid))))
            tr q →
          (∀ other r, ⟨.restore other, r⟩ ∈ tr → other = snapshot) ∧
          ∀ result s, q = .ret (result, s) →
            result.status = .ok ∨ (parts.equipped backend ∧ ∀ e' ∈ tr, failure e' = false) →
            ⟨.restore snapshot, ""⟩ ∈ tr := by
  have hguar := guaranteed_of_lived hlived hgen { file } rfl nofun
  have hsplit := (journaling.along_append).mp hguar
  have howing : (journaling.after { file } pre).Owing :=
    journaling.after_of_along (fun g e hg he => he.1 hg) nofun hsplit.1
  have hhere : journaling.guar (journaling.after { file } pre) e := hsplit.2.1
  obtain ⟨snapshot, hcaptured, hready⟩ := hhere.2.2 hstart
  rw [after_file] at hready
  refine ⟨snapshot, captured_since rfl hcaptured, hready, ?_⟩
  rintro mid rest rfl hmid
  -- the start makes the captured state owed
  have howed : (journaling.next (journaling.after { file } pre) e).owed = some snapshot := by
    rcases Ledger.next_cases (journaling.after { file } pre) e with ⟨-, -, hnot⟩ |
      ⟨content, rfl, -⟩ | ⟨snapshot', rfl, -⟩ | ⟨snapshot', rfl, -⟩ | ⟨-, hn⟩ | ⟨hmark, -⟩
    · rw [hnot] at hstart
      cases hstart
    · cases hstart
    · cases hstart
    · cases hstart
    · exact (congrArg Ledger.owed hn).trans hcaptured
    · rw [hmark] at hstart
      cases hstart
  have hmidguar := ((journaling.along_append).mp hsplit.2.2).1
  obtain ⟨howing', howed'⟩ := owed_after (hhere.1 howing) howed hmidguar hmid
  have hafter : (journaling.after ((journaling.after { file } pre).next e) mid).file =
      journalAfter file (pre ++ e :: mid) := by
    show (journaling.after (journaling.after { file } pre) (e :: mid)).file = _
    rw [← after_append, after_file]
  have hkept := howing' snapshot howed'
  rw [hafter] at hkept
  refine ⟨hkept, fun parts backend tr q hrun => ?_⟩
  have h := initialize_restores hkept.1 hkept.2.1 hrun
  rw [hkept.2.2] at h
  exact h

/-! ## A rollback that fails after the restore -/

/-- Profiles are taken as they are. -/
def plainFunctions : Functions where
  profileDigest := fun _ => List.replicate 64 '0'.toUInt8
  parseProfilePayload := fun profile => some (profile, [])
  replaceRuleSetSlot := fun _ profile => profile
  isValidUtf8JsonObject := fun _ => true
  stripWindowsLocalDpiMetadata := fun profile => some (profile, false, false)
  readWindowsTelegramWSPreparation := fun _ => none
  readWindowsLocalDpiPreparation := fun _ => none
  readWindowsLocalDpiHolderObservation := fun _ => none
  readWindowsSmartAccessProbeTarget := fun _ _ => (none, .none)
  isWindowsFirstProviderQaRuntimeControl := fun _ => false
  safeEgressFailure := fun failure => failure

def plainParts : HostParts :=
  { core := true, egressProbe := true, recovery := true, transitionGuard := false
    runtimeRoot := true, catalogTrustEnabled := false }

/-- Connect once and disconnect twice. -/
def sampleOperations : List Operation :=
  [.stageProfile (text "0\n\x7b\x7d") false, .connect (List.replicate 64 '0'.toUInt8) none,
    .disconnect false, .disconnect false]

/-- The eighth write of the journal fails, and so does the second stop of Core. -/
def failingTwice (seen : List (Event Machine)) : (c : MachineCall) → Machine.Answer c
  | .writeJournal _ =>
    decide ((seen.filter fun e => e.call matches .writeJournal _).length ≠ 7)
  | .coreStop => if seen.any fun e => e.call matches .coreStop then "core_busy" else ""
  | c => plainAnswer c

def failingTwiceRun : List (Event Machine) × (Unit × Runtime) :=
  (session plainFunctions sampleOperations (boot plainParts true none)).play failingTwice []

/-- The events before the first start of Core, and those after it. -/
def beforeStart (tr : List (Event Machine)) : List (Event Machine) :=
  tr.takeWhile fun e => !isStart e.call

def afterStart (tr : List (Event Machine)) : List (Event Machine) :=
  (tr.dropWhile fun e => !isStart e.call).tail

theorem split_at_start {tr : List (Event Machine)} (h : tr.any (isStart ·.call) = true) :
    ∃ e, isStart e.call = true ∧ tr = beforeStart tr ++ e :: afterStart tr := by
  induction tr with
  | nil => cases h
  | cons e tr ih =>
    unfold beforeStart afterStart
    by_cases he : isStart e.call = true
    · refine ⟨e, he, ?_⟩
      rw [List.takeWhile_cons_of_neg (by simp [he]), List.dropWhile_cons_of_neg (by simp [he])]
      rfl
    · rw [List.any_cons, Bool.or_eq_true, or_iff_right he] at h
      obtain ⟨e', he', htr⟩ := ih h
      refine ⟨e', he', ?_⟩
      rw [List.takeWhile_cons_of_pos (by simp [he]), List.dropWhile_cons_of_pos (by simp [he])]
      exact congrArg (e :: ·) htr

theorem steps_failingTwiceRun :
    Steps (session plainFunctions sampleOperations (boot plainParts true none)) failingTwiceRun.1
      (.ret failingTwiceRun.2) :=
  steps_play (I := Machine) failingTwice _ []

theorem generated_failingTwiceRun : ∀ e ∈ failingTwiceRun.1, generated e = true :=
  List.all_eq_true.mp (by decide +kernel)

theorem start_failingTwiceRun : failingTwiceRun.1.any (isStart ·.call) = true := by
  decide +kernel

theorem failingTwiceRun_starts_ahead :
    ∃ e, failingTwiceRun.1 = beforeStart failingTwiceRun.1 ++ e :: afterStart failingTwiceRun.1 ∧
      (durable (journalAfter none (beforeStart failingTwiceRun.1))).stage = .coreStarted := by
  obtain ⟨e, he, htr⟩ := split_at_start start_failingTwiceRun
  have hlived : Lived plainFunctions none failingTwiceRun.1 := by
    have := Lived.life steps_failingTwiceRun (.nil _)
    rwa [List.append_nil] at this
  have hgen := generated_failingTwiceRun
  rw [htr] at hlived hgen
  obtain ⟨snapshot, -, hready, -⟩ := start_owed_until_restored hlived hgen he
  exact ⟨e, htr, hready.2.1⟩

/-- The last write of the first rollback fails, and the second rollback clears
the journal and then fails to stop Core: after the start no rollback has
reported success, and the journal is clean. -/
theorem journal_clean_without_rollback :
    ∃ (tr : List (Event Machine)) (q : Prog Machine (Unit × Runtime)),
      Steps (session plainFunctions sampleOperations (boot plainParts true none)) tr q ∧
      (∀ e ∈ tr, generated e = true) ∧
      ∃ pre e post, tr = pre ++ e :: post ∧ isStart e.call = true ∧
        (∀ e' ∈ post, e'.call ≠ .mark (.rolledBack "")) ∧
        (durable (journalAfter none tr)).stage = .clean := by
  obtain ⟨e, he, htr⟩ := split_at_start start_failingTwiceRun
  have hnone : (afterStart failingTwiceRun.1).all (·.call ≠ .mark (.rolledBack "")) = true := by
    decide +kernel
  refine ⟨_, _, steps_failingTwiceRun, generated_failingTwiceRun, _, e, _, htr, he, ?_, ?_⟩
  · exact fun e' he' => of_decide_eq_true (List.all_eq_true.mp hnone e' he')
  · decide +kernel

end Pokrov.Windows.Service
