import Pokrov.Windows.Service.Recovery

/-!
# The journal file follows the live object

The ledger of a run keeps the journal file, the network state captured since
the last connection attempt began, and the network state that Core was started
over and that has not been restored since. `Tracks` ties the live object to it,
and every operation of the object keeps it, whatever fails.
-/

namespace Pokrov.Windows.Service

open Codec Effects Contract

/-! ## The ledger -/

structure Ledger where
  file : Option Bytes
  captured : Option Bytes := none
  owed : Option Bytes := none

/-- What a new object reads from the file. -/
def durable (file : Option Bytes) : DurableRuntimeRecovery := .load true file

/-- The network state was put back: what is owed is settled by that very state. -/
def Ledger.restored (g : Ledger) (snapshot : Bytes) (error : String) : Ledger :=
  if error = "" ∧ g.owed = some snapshot then { g with owed := none } else g

def Ledger.next (g : Ledger) : Event Machine → Ledger
  | ⟨.writeJournal content, true⟩ => { g with file := some content }
  | ⟨.capture, (error, snapshot)⟩ => if error = "" then { g with captured := some snapshot } else g
  | ⟨.restore snapshot, error⟩ => g.restored snapshot error
  | ⟨.start _, _⟩ => { g with owed := g.captured }
  | ⟨.startInterruptible _, _⟩ => { g with owed := g.captured }
  | ⟨.mark .connectImpl, _⟩ => { g with captured := none }
  | _ => g

/-- The stages in which the journal makes a new service restore the network. -/
def RecoveryStage.restores : RecoveryStage → Bool
  | .clean => false
  | .snapshotted => true
  | .coreStarted => true
  | .networkApplied => true
  | .verified => true
  | .committed => true
  | .rollingBack => true
  | .recovered => false

/-- The file holds the network state that is owed. -/
def Ledger.Owing (g : Ledger) : Prop :=
  ∀ snapshot, g.owed = some snapshot →
    (durable g.file).invalid = false ∧ (durable g.file).stage.restores = true ∧
      (durable g.file).networkSnapshot = snapshot

def isStart : MachineCall → Bool
  | .start _ => true
  | .startInterruptible _ => true
  | _ => false

/-- Core may be started: the file is at `core_started` with the network state
captured by this attempt. -/
def Ledger.Ready (g : Ledger) : Prop :=
  ∃ snapshot, g.captured = some snapshot ∧ (durable g.file).invalid = false ∧
    (durable g.file).stage = .coreStarted ∧ (durable g.file).networkSnapshot = snapshot

/-- A generation that was generated is not all zero. -/
def generated : Event Machine → Bool
  | ⟨.genRandom, some bytes⟩ => !isZeroIdentifier bytes
  | _ => true

def journaling : Contract Machine Ledger where
  next := Ledger.next
  rely := fun _ e => generated e = true
  guar := fun g e =>
    (g.Owing → (g.next e).Owing) ∧
      ((durable g.file).invalid = false → (durable (g.next e).file).invalid = false) ∧
      (isStart e.call = true → g.Ready)

theorem next_of_quiet {g : Ledger} {e : Event Machine} (h : quiet e.call = true) :
    g.next e = g := by
  unfold Ledger.next
  split <;> first | rfl | cases h

theorem guar_of_quiet {g : Ledger} {e : Event Machine} (h : quiet e.call = true) :
    journaling.guar g e := by
  have hnext := next_of_quiet (g := g) h
  refine ⟨fun ho => hnext.symm ▸ ho, fun hv => hnext.symm ▸ hv, fun hs => ?_⟩
  obtain ⟨c, r⟩ := e
  cases c <;> first | (cases h; done) | cases hs

section Rules

variable {σ α : Type}

/-- A quiet call and what follows it. -/
theorem wpa_quiet {c : MachineCall} {k : Machine.Answer c → Act Machine σ α}
    {Q : α → σ → Ledger → Prop} {s : σ} {g : Ledger} (hc : quiet c = true)
    (h : ∀ r, generated ⟨c, r⟩ = true → journaling.wpa (k r) Q s g) :
    journaling.wpa (perform (I := Machine) c >>= k) Q s g := by
  refine wpa_call fun r hr => ⟨guar_of_quiet hc, ?_⟩
  show journaling.wpa (k r) Q s (g.next ⟨c, r⟩)
  rw [next_of_quiet hc]
  exact h r hr

end Rules

/-! ## The live object and the file -/

/-- What the live object and the file say of each other. -/
structure Tracks (d : DurableRuntimeRecovery) (g : Ledger) : Prop where
  invalid : (durable g.file).invalid = d.invalid
  stage : d.invalid = false → (durable g.file).stage = d.stage
  fields : d.invalid = false → d.stage ≠ .clean →
    (durable g.file).generation = d.generation ∧
      (durable g.file).networkSnapshot = d.networkSnapshot ∧ d.WellFormed
  owed : ∀ snapshot, g.owed = some snapshot →
    d.invalid = false ∧ d.stage.restores = true ∧ d.networkSnapshot = snapshot

theorem RecoveryStage.ne_clean_of_restores {stage : RecoveryStage} (h : stage.restores = true) :
    stage ≠ .clean := by
  rintro rfl
  cases h

theorem Tracks.owing {d : DurableRuntimeRecovery} {g : Ledger} (h : Tracks d g) : g.Owing := by
  intro snapshot hs
  obtain ⟨hvalid, hstage, hsnapshot⟩ := h.owed snapshot hs
  refine ⟨h.invalid.trans hvalid, ?_, ?_⟩
  · rw [h.stage hvalid]
    exact hstage
  · rw [(h.fields hvalid (RecoveryStage.ne_clean_of_restores hstage)).2.1, hsnapshot]

/-- Nothing is owed once the object is past restoring. -/
theorem Tracks.owed_none {d : DurableRuntimeRecovery} {g : Ledger} (h : Tracks d g)
    (hstage : d.stage.restores = false) : g.owed = none := by
  cases howed : g.owed with
  | none => rfl
  | some snapshot =>
    have := (h.owed snapshot howed).2.1
    rw [hstage] at this
    cases this

/-- After a successful write the file holds what the object holds. -/
theorem tracks_of_write {d : DurableRuntimeRecovery} {g : Ledger} (hvalid : d.invalid = false)
    (hd : d.WellFormed) (howed : ∀ snapshot, g.owed = some snapshot →
      d.stage.restores = true ∧ d.networkSnapshot = snapshot) :
    Tracks d { g with file := some d.content } := by
  have hload := load_content true hd
  constructor
  · show (DurableRuntimeRecovery.load true (some d.content)).invalid = _
    rw [hload, hvalid]
  · intro _
    show (DurableRuntimeRecovery.load true (some d.content)).stage = _
    rw [hload]
  · intro _ _
    show (DurableRuntimeRecovery.load true (some d.content)).generation = _ ∧
      (DurableRuntimeRecovery.load true (some d.content)).networkSnapshot = _ ∧ _
    rw [hload]
    exact ⟨rfl, rfl, hd⟩
  · exact fun snapshot hs => ⟨hvalid, howed snapshot hs⟩

theorem tracks_load (backend : Bool) (g : Ledger) (h : g.Owing) :
    Tracks (.load backend g.file) g := by
  have hload := load_backend backend true g.file
  constructor
  · rw [hload]
    rfl
  · intro _
    rw [hload]
    rfl
  · intro hvalid _
    refine ⟨?_, ?_, wellFormed_load hvalid⟩
    · rw [hload]
      rfl
    · rw [hload]
      rfl
  · intro snapshot hs
    rw [hload]
    exact h snapshot hs

/-! ## The operations keep the two together -/

namespace DurableRuntimeRecovery

variable {d : DurableRuntimeRecovery} {g : Ledger} {stage : RecoveryStage}

/-- `Record` either leaves everything as it was, or moves the stage and writes
the object out. -/
theorem wpa_record {Q : String → DurableRuntimeRecovery → Ledger → Prop}
    (hfail : ∀ error, error ≠ "" → Q error d g)
    (hok : d.invalid = false → d.stage.isForwardTransition stage = true →
      Tracks { d with stage } { g with file := some { d with stage }.content } ∧
        Q "" { d with stage } { g with file := some { d with stage }.content }) :
    journaling.wpa (record stage) Q d g := by
  unfold record
  rw [wpa_bind, wpa_get, wpa_ite]
  refine ⟨fun _ => hfail "recovery_journal_invalid" (by decide), fun hvalid => ?_⟩
  rw [wpa_ite]
  refine ⟨fun _ => hfail "recovery_stage_invalid" (by decide), fun hforward => ?_⟩
  obtain ⟨htracks, hdone⟩ := hok (by simpa using hvalid) (by simpa using hforward)
  rw [wpa_bind, wpa_set, wpa_bind]
  unfold write
  rw [wpa_bind, wpa_get, wpa_ite]
  refine ⟨fun _ => hfail "recovery_write_failed" (by decide), fun _ => ?_⟩
  rw [wpa_perform]
  rintro (_ | _) -
  · refine ⟨⟨id, id, fun hs => nomatch hs⟩, ?_⟩
    exact hfail "recovery_write_failed" (by decide)
  · refine ⟨⟨fun _ => htracks.owing, fun _ => ?_, fun hs => nomatch hs⟩, hdone⟩
    exact htracks.invalid.trans (by simpa using hvalid)

/-- What the operations other than `Restore` leave of the ledger. -/
structure Frame (g g' : Ledger) : Prop where
  captured : g'.captured = g.captured
  owed : g'.owed = g.owed

theorem Frame.refl (g : Ledger) : Frame g g := ⟨rfl, rfl⟩

/-- Only the first record leaves the clean stage. -/
theorem ne_clean_of_forward (hstage : stage ≠ .snapshotted)
    (h : d.stage.isForwardTransition stage = true) : d.stage ≠ .clean := by
  intro hclean
  rw [hclean] at h
  exact hstage (by simpa [RecoveryStage.isForwardTransition] using h)

/-- The records of `RuntimeHost`, and the one that begins a rollback. -/
theorem wpa_recordForward (h : Tracks d g) (hrestores : stage.restores = true)
    (hstage : stage ≠ .snapshotted) :
    journaling.wpa (record stage) (fun r d' g' =>
      Tracks d' g' ∧ Frame g g' ∧ d'.networkSnapshot = d.networkSnapshot ∧
        (r = "" → d'.invalid = false ∧ d'.stage = stage)) d g := by
  refine wpa_record (fun error hne => ?_) fun hvalid hforward => ?_
  · exact ⟨h, Frame.refl g, rfl, fun hr => absurd hr hne⟩
  · have hne := ne_clean_of_forward hstage hforward
    obtain ⟨-, -, hwf⟩ := h.fields hvalid hne
    have hclean : stage ≠ .clean := RecoveryStage.ne_clean_of_restores hrestores
    have htracks : Tracks { d with stage } { g with file := some { d with stage }.content } := by
      refine tracks_of_write hvalid ⟨hwf.generation, hwf.size, ?_, fun _ => hwf.running hne⟩ ?_
      · exact fun hs => absurd hs hclean
      · exact fun snapshot hs => ⟨hrestores, (h.owed snapshot hs).2.2⟩
    exact ⟨htracks, htracks, ⟨rfl, rfl⟩, rfl, fun _ => ⟨hvalid, rfl⟩⟩

theorem isHexGeneration_hexEncode (bytes : Identifier) :
    isHexGeneration (hexEncode bytes.bytes) = true := by
  rw [isHexGeneration_iff, length_hexEncode, bytes.size]
  exact ⟨rfl, all_hexEncode _⟩

theorem hexEncode_ne_zeroGeneration {bytes : Identifier} (h : isZeroIdentifier bytes = false) :
    hexEncode bytes.bytes ≠ zeroGeneration := by
  intro heq
  have hzero : zeroGeneration = hexEncode (List.replicate 16 0) := by decide
  have hbytes : bytes.bytes = List.replicate 16 0 := by
    rw [← hexDecode_hexEncode bytes.bytes, heq, hzero, hexDecode_hexEncode]
  rw [isZeroIdentifier, hbytes] at h
  exact absurd h (by decide)

theorem wpa_begin (h : Tracks d g) :
    journaling.wpa begin (fun r d' g' =>
      Tracks d' g' ∧ g'.owed = g.owed ∧
        (r = "" → d'.invalid = false ∧ d'.stage = .snapshotted ∧
          g'.captured = some d'.networkSnapshot)) d g := by
  unfold begin
  rw [wpa_bind, wpa_get, wpa_ite]
  refine ⟨fun _ => ⟨h, rfl, fun hr => absurd (show "recovery_journal_invalid" = "" from hr) (by decide)⟩, fun hvalid => ?_⟩
  rw [wpa_ite]
  refine ⟨fun _ => ⟨h, rfl, fun hr => absurd (show "recovery_required" = "" from hr) (by decide)⟩, fun hclean => ?_⟩
  have hclean : d.stage = .clean := not_not.mp hclean
  have howed : g.owed = none := h.owed_none (by rw [hclean]; rfl)
  refine wpa_quiet rfl fun bytes hbytes => ?_
  cases bytes with
  | none => exact ⟨h, rfl, fun hr => absurd (show "recovery_generation_failed" = "" from hr) (by decide)⟩
  | some bytes =>
    dsimp only
    rw [wpa_ite]
    refine ⟨fun _ => ⟨h, rfl, fun hr => absurd (show "recovery_network_unavailable" = "" from hr) (by decide)⟩, fun _ => ?_⟩
    refine wpa_call fun captured _ => ?_
    obtain ⟨captureError, snapshot⟩ := captured
    -- the capture changes nothing but the ledger's note of it
    have hnext : ∃ g1 : Ledger, g.next ⟨.capture, (captureError, snapshot)⟩ = g1 ∧
        g1.file = g.file ∧ g1.owed = g.owed ∧
        (captureError = "" → g1.captured = some snapshot) := by
      refine ⟨_, rfl, ?_⟩
      by_cases he : captureError = "" <;> simp [Ledger.next, he]
    obtain ⟨g1, hg1, hfile, howed1, hcaptured⟩ := hnext
    have h1 : Tracks d g1 :=
      ⟨hfile ▸ h.invalid, hfile ▸ h.stage, hfile ▸ h.fields, howed1 ▸ h.owed⟩
    refine ⟨⟨fun _ => ?_, fun hv => ?_, nofun⟩, ?_⟩
    · exact hg1 ▸ h1.owing
    · rw [hg1, hfile]
      exact hv
    rw [show journaling.next g ⟨.capture, (captureError, snapshot)⟩ = g1 from hg1]
    dsimp only
    rw [wpa_ite]
    refine ⟨fun _ => ⟨h1, howed1, ?_⟩, fun hcapture => ?_⟩
    · rename_i hne
      exact fun hr => absurd hr hne
    rw [wpa_ite]
    refine ⟨fun _ => ⟨h1, howed1, fun hr => absurd (show "recovery_network_snapshot_invalid" = "" from hr) (by decide)⟩, fun hsize => ?_⟩
    rw [wpa_bind, wpa_modify]
    have hnone : g1.owed = none := howed1.trans howed
    refine wpa_record (fun error hne => ⟨?_, howed1, fun hr => absurd hr hne⟩) ?_
    · exact ⟨h1.invalid, h1.stage, fun _ hstage => absurd hclean hstage,
        fun snapshot hs => absurd (hnone.symm.trans hs) nofun⟩
    · intro hvalid' _
      have htracks := tracks_of_write (g := g1) (d := { d with
        stage := .snapshotted, generation := hexEncode bytes.bytes, networkSnapshot := snapshot })
        hvalid'
        ⟨isHexGeneration_hexEncode bytes, Nat.not_lt.mp (not_or.mp hsize).2, nofun,
          fun _ => ⟨hexEncode_ne_zeroGeneration (by simpa [generated] using hbytes), (not_or.mp hsize).1⟩⟩
        (fun snapshot hs => absurd (hnone.symm.trans hs) nofun)
      exact ⟨htracks, htracks, howed1, fun _ => ⟨hvalid', rfl, hcaptured (not_not.mp hcapture)⟩⟩

theorem wpa_finishRecovery (h : Tracks d g) (hvalid : d.invalid = false)
    (hstage : d.stage = .recovered) :
    journaling.wpa finishRecovery (fun _ d' g' => Tracks d' g' ∧ Frame g g') d g := by
  have howed : g.owed = none := h.owed_none (by rw [hstage]; rfl)
  obtain ⟨-, -, hwf⟩ := h.fields hvalid (by rw [hstage]; decide)
  unfold finishRecovery
  rw [wpa_bind, wpa_get, wpa_bind, wpa_set, wpa_bind]
  refine wpa_record (fun error hne => ?_) fun _ _ => ?_
  · rw [wpa_ite]
    refine ⟨fun _ => ?_, fun hr => absurd hne hr⟩
    rw [wpa_bind, wpa_modify, wpa_pure]
    exact ⟨h, Frame.refl g⟩
  · have htracks := tracks_of_write (g := g) (d := { d with stage := .clean, networkSnapshot := [] })
      hvalid ⟨hwf.generation, Nat.zero_le _, fun _ => rfl, fun hne => absurd rfl hne⟩
      (fun snapshot hs => absurd (howed.symm.trans hs) nofun)
    refine ⟨htracks, ?_⟩
    rw [wpa_ite]
    exact ⟨fun hne => absurd rfl hne, fun _ => ⟨htracks, ⟨rfl, rfl⟩⟩⟩

theorem wpa_beginRollback (h : Tracks d g) :
    journaling.wpa beginRollback (fun _ d' g' => Tracks d' g' ∧ Frame g g') d g := by
  unfold beginRollback
  rw [wpa_bind, wpa_get, wpa_ite]
  refine ⟨fun _ => ⟨h, Frame.refl g⟩, fun hvalid => ?_⟩
  have hvalid : d.invalid = false := by simpa using hvalid
  rw [wpa_ite]
  refine ⟨fun _ => ⟨h, Frame.refl g⟩, fun _ => ?_⟩
  rw [wpa_ite]
  refine ⟨fun _ => ⟨h, Frame.refl g⟩, fun _ => ?_⟩
  rw [wpa_ite]
  refine ⟨fun hstage => wpa_finishRecovery h hvalid hstage, fun _ => ?_⟩
  refine wpa_mono (wpa_recordForward h rfl (by decide)) ?_
  rintro r d' g' ⟨h', hframe, -, -⟩
  exact ⟨h', hframe⟩

/-- Once the restore has succeeded nothing is owed. -/
theorem wpa_restoreNetworkState (h : Tracks d g) :
    journaling.wpa restoreNetworkState (fun r d' g' =>
      d' = d ∧ Tracks d g' ∧ g'.captured = g.captured ∧ (g.owed = none → g'.owed = none) ∧
        (r = "" → g'.owed = none)) d g := by
  unfold restoreNetworkState
  rw [wpa_bind, wpa_get, wpa_ite]
  refine ⟨fun _ => ⟨rfl, h, rfl, id, fun hr => absurd (show "recovery_journal_invalid" = "" from hr) (by decide)⟩, fun hvalid => ?_⟩
  rw [wpa_ite]
  refine ⟨fun hstage => ⟨rfl, h, rfl, id, fun _ => h.owed_none (by rw [hstage]; rfl)⟩,
    fun _ => ?_⟩
  rw [wpa_ite]
  refine ⟨fun _ => ⟨rfl, h, rfl, id, fun hr => absurd (show "recovery_stage_invalid" = "" from hr) (by decide)⟩, fun _ => ?_⟩
  rw [wpa_ite]
  refine ⟨fun _ => ⟨rfl, h, rfl, id, fun hr => absurd (show "recovery_network_unavailable" = "" from hr) (by decide)⟩, fun _ => ?_⟩
  rw [wpa_ite]
  refine ⟨fun _ => ⟨rfl, h, rfl, id, fun hr => absurd (show "recovery_network_snapshot_invalid" = "" from hr) (by decide)⟩, fun _ => ?_⟩
  rw [wpa_perform]
  intro error _
  show journaling.guar g _ ∧ _ ∧ Tracks d (g.restored d.networkSnapshot error) ∧
    (g.restored d.networkSnapshot error).captured = g.captured ∧
    (_ → (g.restored d.networkSnapshot error).owed = none) ∧
    (_ → (g.restored d.networkSnapshot error).owed = none)
  have hguar : ∀ g', Tracks d g' → g'.file = g.file → g.restored d.networkSnapshot error = g' →
      journaling.guar g ⟨.restore d.networkSnapshot, error⟩ := by
    intro g' h' hfile heq
    refine ⟨fun _ => ?_, fun hv => ?_, nofun⟩
    · show (g.restored d.networkSnapshot error).Owing
      exact heq ▸ h'.owing
    · show (durable (g.restored d.networkSnapshot error).file).invalid = false
      rw [heq, hfile]
      exact hv
  by_cases hsettled : error = "" ∧ g.owed = some d.networkSnapshot
  · have heq : g.restored d.networkSnapshot error = { g with owed := none } := if_pos hsettled
    have h' : Tracks d { g with owed := none } := ⟨h.invalid, h.stage, h.fields, nofun⟩
    refine ⟨hguar _ h' rfl heq, rfl, ?_⟩
    rw [heq]
    exact ⟨h', rfl, fun _ => rfl, fun _ => rfl⟩
  · have heq : g.restored d.networkSnapshot error = g := if_neg hsettled
    refine ⟨hguar _ h rfl heq, rfl, ?_⟩
    rw [heq]
    refine ⟨h, rfl, id, fun he => ?_⟩
    cases howed : g.owed with
    | none => rfl
    | some snapshot =>
      have hsame := (h.owed snapshot howed).2.2
      exact absurd ⟨he, howed.trans (congrArg some hsame.symm)⟩ hsettled

theorem wpa_completeRollback (h : Tracks d g) (howed : g.owed = none) :
    journaling.wpa completeRollback (fun _ d' g' => Tracks d' g' ∧ Frame g g') d g := by
  unfold completeRollback
  rw [wpa_bind, wpa_get, wpa_ite]
  refine ⟨fun _ => ⟨h, Frame.refl g⟩, fun hvalid => ?_⟩
  have hvalid : d.invalid = false := by simpa using hvalid
  rw [wpa_ite]
  refine ⟨fun _ => ⟨h, Frame.refl g⟩, fun _ => ?_⟩
  rw [wpa_ite]
  refine ⟨fun _ => ⟨h, Frame.refl g⟩, fun hstage => ?_⟩
  have hstage : d.stage = .rollingBack := not_not.mp hstage
  obtain ⟨-, -, hwf⟩ := h.fields hvalid (by rw [hstage]; decide)
  rw [wpa_bind]
  refine wpa_record (fun error hne => ?_) fun _ _ => ?_
  · rw [wpa_ite]
    exact ⟨fun _ => ⟨h, Frame.refl g⟩, fun hr => absurd hne hr⟩
  · have htracks := tracks_of_write (g := g) (d := { d with stage := .recovered }) hvalid
      ⟨hwf.generation, hwf.size, nofun, fun _ => hwf.running (by rw [hstage]; decide)⟩
      (fun snapshot hs => absurd (howed.symm.trans hs) nofun)
    refine ⟨htracks, ?_⟩
    rw [wpa_ite]
    refine ⟨fun hne => absurd rfl hne, fun _ => ?_⟩
    refine wpa_mono (wpa_finishRecovery htracks hvalid rfl) ?_
    rintro r d' g' ⟨h', hframe⟩
    exact ⟨h', ⟨hframe.captured, hframe.owed⟩⟩

end DurableRuntimeRecovery

/-! ## Runs of the recovery object -/

/-- The stages that `RuntimeHost` records itself. -/
inductive RecordedStage
  | coreStarted
  | networkApplied
  | verified
  | committed

def RecordedStage.stage : RecordedStage → RecoveryStage
  | coreStarted => .coreStarted
  | networkApplied => .networkApplied
  | verified => .verified
  | committed => .committed

/-- The calls that `RuntimeHost` makes. -/
inductive RecoveryCall
  | begin
  | record (recorded : RecordedStage)
  | beginRollback
  | restoreNetworkState
  | completeRollback

def RecoveryCall.run : RecoveryCall → Act Machine DurableRuntimeRecovery String
  | begin => DurableRuntimeRecovery.begin
  | record recorded => DurableRuntimeRecovery.record recorded.stage
  | beginRollback => DurableRuntimeRecovery.beginRollback
  | restoreNetworkState => DurableRuntimeRecovery.restoreNetworkState
  | completeRollback => DurableRuntimeRecovery.completeRollback

def recoverySession : List RecoveryCall → Act Machine DurableRuntimeRecovery Unit
  | [] => pure ()
  | call :: rest => do
      let _ ← call.run
      recoverySession rest

theorem wpa_recoveryCall {d : DurableRuntimeRecovery} {g : Ledger} (call : RecoveryCall)
    (h : Tracks d g) (howed : g.owed = none) :
    journaling.wpa call.run (fun _ d' g' => Tracks d' g' ∧ g'.owed = none) d g := by
  cases call with
  | begin =>
    refine wpa_mono (DurableRuntimeRecovery.wpa_begin h) ?_
    rintro r d' g' ⟨h', hsame, -⟩
    exact ⟨h', hsame.trans howed⟩
  | record recorded =>
    have hrestores : recorded.stage.restores = true := by cases recorded <;> rfl
    have hstage : recorded.stage ≠ .snapshotted := by cases recorded <;> decide
    refine wpa_mono (DurableRuntimeRecovery.wpa_recordForward h hrestores hstage) ?_
    rintro r d' g' ⟨h', hframe, -, -⟩
    exact ⟨h', hframe.owed.trans howed⟩
  | beginRollback =>
    refine wpa_mono (DurableRuntimeRecovery.wpa_beginRollback h) ?_
    rintro r d' g' ⟨h', hframe⟩
    exact ⟨h', hframe.owed.trans howed⟩
  | restoreNetworkState =>
    refine wpa_mono (DurableRuntimeRecovery.wpa_restoreNetworkState h) ?_
    rintro r d' g' ⟨rfl, h', -, hnone, -⟩
    exact ⟨h', hnone howed⟩
  | completeRollback =>
    refine wpa_mono (DurableRuntimeRecovery.wpa_completeRollback h howed) ?_
    rintro r d' g' ⟨h', hframe⟩
    exact ⟨h', hframe.owed.trans howed⟩

theorem wpa_recoverySession (calls : List RecoveryCall) :
    ∀ (d : DurableRuntimeRecovery) (g : Ledger), Tracks d g → g.owed = none →
      journaling.wpa (recoverySession calls) (fun _ d' g' => Tracks d' g') d g := by
  induction calls with
  | nil => exact fun d g h _ => h
  | cons call rest ih =>
    intro d g h howed
    rw [recoverySession, wpa_bind]
    refine wpa_mono (wpa_recoveryCall call h howed) ?_
    rintro r d' g' ⟨h', howed'⟩
    exact ih d' g' h' howed'

theorem next_file (g : Ledger) (e : Event Machine) : (g.next e).file = journalStep g.file e := by
  by_cases hq : quiet e.call = true
  · rw [next_of_quiet hq]
    unfold journalStep
    split
    · cases hq
    · rfl
  · obtain ⟨c, r⟩ := e
    cases c with
    | writeJournal content => cases r <;> rfl
    | capture =>
      obtain ⟨error, snapshot⟩ := r
      show (if error = "" then _ else _ : Ledger).file = g.file
      split <;> rfl
    | restore snapshot =>
      show (Ledger.restored g snapshot r).file = g.file
      unfold Ledger.restored
      split <;> rfl
    | start disableMemoryLimit => rfl
    | startInterruptible disableMemoryLimit => rfl
    | mark m => cases m <;> rfl
    | _ => exact absurd rfl hq

theorem after_file (g : Ledger) (tr : List (Event Machine)) :
    (journaling.after g tr).file = journalAfter g.file tr := by
  induction tr generalizing g with
  | nil => rfl
  | cons e tr ih =>
    rw [after_cons, ih]
    show journalAfter (g.next e).file tr = journalAfter g.file (e :: tr)
    rw [next_file]
    rfl

/-- **The journal is crash-consistent.** Start from an absent or valid journal
and let the object take any calls, with any captures, restores and failing
writes. Whenever the run is cut off, a new object finds a valid journal; and
between two calls it finds the stage of the live object and, unless that is
clean, its generation and its network state. -/
theorem journal_crash_consistent {backend : Bool} {file : Option Bytes}
    {calls : List RecoveryCall} {tr : List (Event Machine)}
    {q : Prog Machine (Unit × DurableRuntimeRecovery)}
    (hvalid : (DurableRuntimeRecovery.load backend file).invalid = false)
    (hgen : ∀ e ∈ tr, generated e = true)
    (hrun : Steps (recoverySession calls (.load backend file)) tr q) :
    (DurableRuntimeRecovery.load backend (journalAfter file tr)).invalid = false ∧
      ∀ live, q = .ret ((), live) →
        (DurableRuntimeRecovery.load backend (journalAfter file tr)).stage = live.stage ∧
        (live.stage ≠ .clean →
          (DurableRuntimeRecovery.load backend (journalAfter file tr)).generation =
            live.generation ∧
          (DurableRuntimeRecovery.load backend (journalAfter file tr)).networkSnapshot =
            live.networkSnapshot) := by
  have hwp := wpa_recoverySession calls _ ({ file } : Ledger) (tracks_load backend _ nofun) rfl
  obtain ⟨hall, hend⟩ := journaling.wp_steps hwp hrun (journaling.along_of_mem _ hgen)
  have hdurable : (durable (journalAfter file tr)).invalid = false := by
    have hstart : (durable file).invalid = false := by
      rw [load_backend backend true file] at hvalid
      exact hvalid
    have := journaling.after_of_along (A := fun g => (durable g.file).invalid = false)
      (fun g e hg he => he.2.1 hg) (g := { file }) hstart hall
    rwa [after_file] at this
  have hload := load_backend backend true (journalAfter file tr)
  rw [hload]
  refine ⟨hdurable, ?_⟩
  rintro live rfl
  have htracks : Tracks live (journaling.after { file } tr) := hend
  have hlive : live.invalid = false := by
    rw [← htracks.invalid, after_file]
    exact hdurable
  have hstage := htracks.stage hlive
  have hfields := htracks.fields hlive
  rw [after_file] at hstage hfields
  exact ⟨hstage, fun hne => ⟨(hfields hne).1, (hfields hne).2.1⟩⟩

/-- A machine on which the second write of the journal fails. -/
def failingSecondWrite (seen : List (Event Machine)) : (c : MachineCall) → Machine.Answer c
  | .writeJournal _ => !(seen.any fun e => e.call matches .writeJournal _)
  | c => plainAnswer c

def sampleCalls : List RecoveryCall := [.begin, .record .coreStarted, .beginRollback]

def sampleRun : List (Event Machine) × (Unit × DurableRuntimeRecovery) :=
  (recoverySession sampleCalls (.load true none)).play failingSecondWrite []

/-- The first call is on the file, the failed second one is not. -/
theorem sampleRun_consistent :
    (DurableRuntimeRecovery.load true (journalAfter none sampleRun.1)).invalid = false ∧
      (DurableRuntimeRecovery.load true (journalAfter none sampleRun.1)).networkSnapshot =
        sampleRun.2.2.networkSnapshot := by
  have hrun : Steps (recoverySession sampleCalls (.load true none)) sampleRun.1
      (.ret ((), sampleRun.2.2)) := steps_play (I := Machine) failingSecondWrite _ []
  have hgen : ∀ e ∈ sampleRun.1, generated e = true :=
    List.all_eq_true.mp (by decide +kernel)
  have h := journal_crash_consistent rfl hgen hrun
  exact ⟨h.1, ((h.2 _ rfl).2 (by decide +kernel)).2⟩

end Pokrov.Windows.Service
