import Pokrov.Windows.Service.Machine

/-!
# The recovery journal

`DurableRuntimeRecovery` of `service_recovery.cpp`. The object keeps the stage
of a connection, its generation and the network state captured before it, and
writes all three to the journal file at every change of the stage. A new object
takes them from the file, and one that finds a file it cannot read in full is
invalid for good.

The fields in memory are changed before the write and put back by hand when it
fails. The invariant that carries through is `Tracks`: what a new object would
read is what the live object holds, as far as its stage says that it matters.
-/

namespace Pokrov.Windows.Service

open Codec Effects Contract

/-! ## Stages -/

inductive RecoveryStage
  | clean
  | snapshotted
  | coreStarted
  | networkApplied
  | verified
  | committed
  | rollingBack
  | recovered
deriving DecidableEq

namespace RecoveryStage

def name : RecoveryStage → Bytes
  | clean => text "clean"
  | snapshotted => text "snapshotted"
  | coreStarted => text "core_started"
  | networkApplied => text "network_applied"
  | verified => text "verified"
  | committed => text "committed"
  | rollingBack => text "rolling_back"
  | recovered => text "recovered"

def all : List RecoveryStage :=
  [clean, snapshotted, coreStarted, networkApplied, verified, committed, rollingBack, recovered]

def parse (value : Bytes) : Option RecoveryStage := all.find? fun stage => value = stage.name

def isForwardTransition : RecoveryStage → RecoveryStage → Bool
  | clean, next => next = snapshotted
  | snapshotted, next => next = coreStarted || next = rollingBack
  | coreStarted, next => next = networkApplied || next = rollingBack
  | networkApplied, next => next = verified || next = rollingBack
  | verified, next => next = committed || next = rollingBack
  | committed, next => next = rollingBack
  | rollingBack, next => next = recovered
  | recovered, next => next = clean

theorem parse_name (stage : RecoveryStage) : parse stage.name = some stage := by
  cases stage <;> decide

theorem length_name_le (stage : RecoveryStage) : stage.name.length ≤ 15 := by
  cases stage <;> decide

theorem newline_not_mem_name (stage : RecoveryStage) : newline ∉ stage.name := by
  cases stage <;> decide

end RecoveryStage

/-! ## The file -/

def journalMagic : Bytes := text "POKROV_RECOVERY_V1"

def maximumNetworkSnapshotSize : Nat := 64 * 1024

def maximumJournalSize : Nat := maximumNetworkSnapshotSize * 2 + 256

def zeroGeneration : Bytes := List.replicate 32 '0'.toUInt8

/-- `IsHexGeneration` in the "C" locale. -/
def isHexGeneration (value : Bytes) : Bool := value.length = 32 && value.all isLowerHex

/-- `HexDecode`: an even number of lower-case digits, up to the size limit. -/
def decodeSnapshot (value : Bytes) : Option Bytes :=
  if value.length % 2 ≠ 0 ∨ value.length > maximumNetworkSnapshotSize * 2 then none
  else if value.all isLowerHex then some (hexDecode value)
  else none

structure DurableRuntimeRecovery where
  /-- Whether there is a `network_state_` backend. -/
  backend : Bool
  stage : RecoveryStage := .clean
  generation : Bytes := zeroGeneration
  networkSnapshot : Bytes := []
  invalid : Bool := false

/-- The three fields read from the lines of a journal. -/
def readJournal (content : Bytes) : Option (RecoveryStage × Bytes × Bytes) :=
  if content = [] ∨ content.length > maximumJournalSize then none
  else
    -- four lines, each of them ended, and nothing after the last
    match cuts newline 4 content with
    | some ([magic, stageLine, generationLine, networkLine], []) =>
      if magic ≠ journalMagic ∨ ¬ (text "stage=").isPrefixOf stageLine ∨
          ¬ (text "generation=").isPrefixOf generationLine ∨
          ¬ (text "network_state=").isPrefixOf networkLine then none
      else
        let generation := generationLine.drop 11
        match RecoveryStage.parse (stageLine.drop 6), decodeSnapshot (networkLine.drop 14) with
        | some parsed, some networkSnapshot =>
          if ¬ isHexGeneration generation ∨
              (parsed ≠ .clean ∧ (generation = zeroGeneration ∨ networkSnapshot = [])) ∨
              (parsed = .clean ∧ networkSnapshot ≠ []) then none
          else some (parsed, generation, networkSnapshot)
        | _, _ => none
    | _ => none

/-- The constructor and `Load`, on a file that is absent or can be read. -/
def DurableRuntimeRecovery.load (backend : Bool) : Option Bytes → DurableRuntimeRecovery
  | none => { backend }
  | some content =>
    match readJournal content with
    | none => { backend, invalid := true }
    | some (stage, generation, networkSnapshot) =>
      { backend, stage, generation, networkSnapshot }

/-- The text that `Write` writes. -/
def DurableRuntimeRecovery.content (d : DurableRuntimeRecovery) : Bytes :=
  journalMagic ++ text "\nstage=" ++ d.stage.name ++ text "\ngeneration=" ++ d.generation ++
    text "\nnetwork_state=" ++ hexEncode d.networkSnapshot ++ text "\n"

/-! ## The operations -/

namespace DurableRuntimeRecovery

def requiresRecovery (d : DurableRuntimeRecovery) : Bool := d.invalid || d.stage ≠ .clean

/-- `Write`. A journal without a path fails like a write that fails. -/
def write : Act Machine DurableRuntimeRecovery Bool := do
  let d ← get
  if ¬ isHexGeneration d.generation then pure false
  else perform (I := Machine) (.writeJournal d.content)

def record (stage : RecoveryStage) : Act Machine DurableRuntimeRecovery String := do
  let d ← get
  if d.invalid then pure "recovery_journal_invalid"
  else if ¬ d.stage.isForwardTransition stage then pure "recovery_stage_invalid"
  else
    set { d with stage }
    if ← write then pure ""
    else
      modify fun d' => { d' with stage := d.stage }
      pure "recovery_write_failed"

def begin : Act Machine DurableRuntimeRecovery String := do
  let d ← get
  if d.invalid then pure "recovery_journal_invalid"
  else if d.stage ≠ .clean then pure "recovery_required"
  else
    match ← perform (I := Machine) .genRandom with
    | none => pure "recovery_generation_failed"
    | some bytes =>
      if ¬ d.backend then pure "recovery_network_unavailable"
      else
        let (captureError, snapshot) ← perform (I := Machine) .capture
        if captureError ≠ "" then pure captureError
        else if snapshot = [] ∨ snapshot.length > maximumNetworkSnapshotSize then
          pure "recovery_network_snapshot_invalid"
        else
          modify fun d =>
            { d with generation := hexEncode bytes.bytes, networkSnapshot := snapshot }
          record .snapshotted

def finishRecovery : Act Machine DurableRuntimeRecovery String := do
  let d ← get
  set { d with networkSnapshot := [] }
  let error ← record .clean
  if error ≠ "" then
    modify fun d' => { d' with networkSnapshot := d.networkSnapshot }
    pure error
  else pure error

def beginRollback : Act Machine DurableRuntimeRecovery String := do
  let d ← get
  if d.invalid then pure "recovery_journal_invalid"
  else if d.stage = .clean then pure ""
  else if d.stage = .rollingBack then pure ""
  else if d.stage = .recovered then finishRecovery
  else record .rollingBack

def restoreNetworkState : Act Machine DurableRuntimeRecovery String := do
  let d ← get
  if d.invalid then pure "recovery_journal_invalid"
  else if d.stage = .clean then pure ""
  else if d.stage ≠ .rollingBack then pure "recovery_stage_invalid"
  else if ¬ d.backend then pure "recovery_network_unavailable"
  else if d.networkSnapshot = [] ∨ d.networkSnapshot.length > maximumNetworkSnapshotSize then
    pure "recovery_network_snapshot_invalid"
  else perform (I := Machine) (.restore d.networkSnapshot)

def completeRollback : Act Machine DurableRuntimeRecovery String := do
  let d ← get
  if d.invalid then pure "recovery_journal_invalid"
  else if d.stage = .clean then pure ""
  else if d.stage ≠ .rollingBack then pure "recovery_stage_invalid"
  else
    let error ← record .recovered
    if error ≠ "" then pure error else finishRecovery

end DurableRuntimeRecovery

/-! ## What is written can be read -/

theorem isHexGeneration_iff {value : Bytes} :
    isHexGeneration value = true ↔ value.length = 32 ∧ value.all isLowerHex = true := by
  rw [isHexGeneration, Bool.and_eq_true, decide_eq_true_eq]

/-- Fields that `Load` accepts. -/
structure DurableRuntimeRecovery.WellFormed (d : DurableRuntimeRecovery) : Prop where
  generation : isHexGeneration d.generation = true
  size : d.networkSnapshot.length ≤ maximumNetworkSnapshotSize
  clean : d.stage = .clean → d.networkSnapshot = []
  running : d.stage ≠ .clean → d.generation ≠ zeroGeneration ∧ d.networkSnapshot ≠ []

theorem decodeSnapshot_hexEncode {snapshot : Bytes}
    (h : snapshot.length ≤ maximumNetworkSnapshotSize) :
    decodeSnapshot (hexEncode snapshot) = some snapshot := by
  have hlen := length_hexEncode snapshot
  rw [decodeSnapshot, if_neg (by omega), if_pos (all_hexEncode snapshot), hexDecode_hexEncode]

theorem content_eq_lines (d : DurableRuntimeRecovery) :
    d.content = [newline].intercalate ([journalMagic, text "stage=" ++ d.stage.name,
      text "generation=" ++ d.generation, text "network_state=" ++ hexEncode d.networkSnapshot] ++
        [[]]) := by
  have h1 : text "\nstage=" = newline :: text "stage=" := by decide
  have h2 : text "\ngeneration=" = newline :: text "generation=" := by decide
  have h3 : text "\nnetwork_state=" = newline :: text "network_state=" := by decide
  have h4 : text "\n" = [newline] := by decide
  simp only [DurableRuntimeRecovery.content, h1, h2, h3, h4, List.cons_append, List.nil_append,
    List.intercalate_cons_cons, List.intercalate_singleton, List.append_assoc, List.append_nil]

theorem readJournal_content {d : DurableRuntimeRecovery} (h : d.WellFormed) :
    readJournal d.content = some (d.stage, d.generation, d.networkSnapshot) := by
  obtain ⟨hlen, hhex⟩ := isHexGeneration_iff.mp h.generation
  have hlines : ∀ line ∈ [journalMagic, text "stage=" ++ d.stage.name,
      text "generation=" ++ d.generation, text "network_state=" ++ hexEncode d.networkSnapshot],
      newline ∉ line := by
    simp only [List.mem_cons, List.not_mem_nil, or_false]
    rintro line (rfl | rfl | rfl | rfl)
    · decide
    · rw [List.mem_append, not_or]
      exact ⟨by decide, d.stage.newline_not_mem_name⟩
    · rw [List.mem_append, not_or]
      exact ⟨by decide, not_mem_of_all hhex (by decide)⟩
    · rw [List.mem_append, not_or]
      exact ⟨by decide, not_mem_of_all (all_hexEncode _) (by decide)⟩
  have hcuts := cuts_intercalate [] hlines
  rw [← content_eq_lines] at hcuts
  have hsize : ¬ (d.content = [] ∨ d.content.length > maximumJournalSize) := by
    have hname := d.stage.length_name_le
    have hsnapshot := h.size
    have htotal : d.content.length =
        journalMagic.length + (text "\nstage=").length + d.stage.name.length +
          (text "\ngeneration=").length + d.generation.length +
          (text "\nnetwork_state=").length + 2 * d.networkSnapshot.length + (text "\n").length := by
      simp only [DurableRuntimeRecovery.content, List.length_append, length_hexEncode]
    have hfixed : journalMagic.length = 18 ∧ (text "\nstage=").length = 7 ∧
        (text "\ngeneration=").length = 12 ∧ (text "\nnetwork_state=").length = 15 ∧
        (text "\n").length = 1 := by decide
    have hmax : maximumJournalSize = maximumNetworkSnapshotSize * 2 + 256 := rfl
    rintro (hnil | hlong)
    · rw [hnil, List.length_nil] at htotal
      omega
    · omega
  have hfront : ∀ a b : Bytes, a.isPrefixOf (a ++ b) = true := fun a b =>
    List.isPrefixOf_iff_prefix.mpr (List.prefix_append a b)
  rw [readJournal, if_neg hsize, show cuts newline 4 d.content = _ from hcuts]
  dsimp only
  rw [if_neg (by simp [hfront])]
  rw [List.drop_left' (by decide), List.drop_left' (by decide), List.drop_left' (by decide),
    RecoveryStage.parse_name, decodeSnapshot_hexEncode h.size]
  dsimp only
  refine if_neg ?_
  rintro (hgen | ⟨hstage, hbad⟩ | ⟨hstage, hbad⟩)
  · exact hgen h.generation
  · exact hbad.elim (h.running hstage).1 (h.running hstage).2
  · exact hbad (h.clean hstage)

theorem load_content {d : DurableRuntimeRecovery} (backend : Bool) (h : d.WellFormed) :
    DurableRuntimeRecovery.load backend (some d.content) =
      { backend, stage := d.stage, generation := d.generation,
        networkSnapshot := d.networkSnapshot } := by
  rw [DurableRuntimeRecovery.load, readJournal_content h]

theorem length_decodeSnapshot {value snapshot : Bytes} (h : decodeSnapshot value = some snapshot) :
    snapshot.length ≤ maximumNetworkSnapshotSize := by
  unfold decodeSnapshot at h
  split at h
  · exact absurd h (by simp)
  rename_i hsize
  split at h
  · cases h
    rw [length_hexDecode]
    omega
  · exact absurd h (by simp)

/-- What `Load` accepts is well formed. -/
theorem wellFormed_load {backend : Bool} {file : Option Bytes}
    (h : (DurableRuntimeRecovery.load backend file).invalid = false) :
    (DurableRuntimeRecovery.load backend file).WellFormed := by
  cases file with
  | none =>
    have hzero : isHexGeneration zeroGeneration = true := by decide
    exact ⟨hzero, Nat.zero_le _, fun _ => rfl, fun hne => absurd rfl hne⟩
  | some content =>
    unfold DurableRuntimeRecovery.load at h ⊢
    dsimp only at h ⊢
    split at h
    · cases h
    rename_i stage generation snapshot hread
    unfold readJournal at hread
    split at hread
    · exact absurd hread (by simp)
    split at hread
    · split at hread
      · exact absurd hread (by simp)
      dsimp only at hread
      split at hread
      · rename_i parsed decoded hparsed hdecoded
        split at hread
        · exact absurd hread (by simp)
        rename_i hok
        simp only [not_or, not_and_or, not_not] at hok
        cases hread
        obtain ⟨hgen, hrunning, hclean⟩ := hok
        refine ⟨hgen, length_decodeSnapshot hdecoded, fun hstage => ?_, fun hstage => ?_⟩
        · exact hclean.resolve_left fun hne => hne hstage
        · exact hrunning.resolve_left hstage
      · exact absurd hread (by simp)
    · exact absurd hread (by simp)

/-- The backend has no part in what is read. -/
theorem load_backend (backend backend' : Bool) (file : Option Bytes) :
    DurableRuntimeRecovery.load backend file =
      { DurableRuntimeRecovery.load backend' file with backend } := by
  cases file with
  | none => rfl
  | some content =>
    unfold DurableRuntimeRecovery.load
    dsimp only
    split <;> rfl

theorem cuts_of_readJournal {file : Bytes} {fields : RecoveryStage × Bytes × Bytes}
    (h : readJournal file = some fields) : ∃ lines, cuts newline 4 file = some (lines, []) := by
  unfold readJournal at h
  split at h
  · cases h
  split at h
  · next hcuts => exact ⟨_, hcuts⟩
  · cases h

/-- Of a written journal, no part from its start is a journal but the whole, and nothing may
follow it. -/
theorem torn_journal_invalid {d : DurableRuntimeRecovery} {file rest : Bytes} (backend : Bool)
    (h : d.WellFormed) (hrest : rest ≠ [])
    (hfile : d.content = file ++ rest ∨ file = d.content ++ rest) :
    (DurableRuntimeRecovery.load backend (some file)).invalid = true := by
  have hcontent := readJournal_content h
  cases hread : readJournal file with
  | none => simp only [DurableRuntimeRecovery.load, hread]
  | some fields =>
    obtain ⟨lines, hcuts⟩ := cuts_of_readJournal hcontent
    obtain ⟨lines', hcuts'⟩ := cuts_of_readJournal hread
    -- read at its length, the longer file would have the rest behind its last line
    rcases hfile with hfile | hfile
    · have hlonger := cuts_append_right rest hcuts'
      rw [← hfile, hcuts, Option.some.injEq, Prod.mk.injEq] at hlonger
      exact absurd hlonger.2.symm hrest
    · have hlonger := cuts_append_right rest hcuts
      rw [← hfile, hcuts', Option.some.injEq, Prod.mk.injEq] at hlonger
      exact absurd hlonger.2.symm hrest

def sampleJournal : DurableRuntimeRecovery where
  backend := true
  stage := .networkApplied
  generation := List.replicate 32 '7'.toUInt8
  networkSnapshot := text "routes"

/-- The write was cut off in its generation. -/
theorem torn_journal_unended :
    (DurableRuntimeRecovery.load true (some (sampleJournal.content.take 60))).invalid = true :=
  torn_journal_invalid true ⟨by decide, by decide, by decide, by decide⟩
    (by decide : sampleJournal.content.drop 60 ≠ []) (.inl (List.take_append_drop _ _).symm)

end Pokrov.Windows.Service
