import Pokrov.AppShell.ManifestRecord
import Pokrov.AppShell.StoredTimes
import Pokrov.Lib.Results

/-!
# What takes the place of a record is accepted

A floor that was validated is validated again after it was written. From that, a
record that `_load` accepts is followed by records that it accepts: the one with
an observed time, the one without envelopes, and the one of an admission.
-/

namespace Pokrov.AppShell

open Dart Results

variable {code : String} {input : Document} {s : Text} {audience : Text} {floor : Floor}
  {value : ManifestRecord}

theorem orAlways_eq_ok {α : Type} {x : Try α} {a : α} : orAlways code x = .ok a ↔ x = .ok a := by
  cases x with
  | ok b => exact Iff.rfl
  | error e =>
    constructor <;> intro h
    · cases h
    · cases h

theorem orTransport_eq_ok {α : Type} {x : Try α} {a : α} :
    orTransport code x = .ok a ↔ x = .ok a := by
  cases x with
  | ok b => exact Iff.rfl
  | error e =>
    constructor <;> intro h
    · cases e <;> cases h
    · cases h

/-! ## References and kills -/

theorem refsAfter_strings {last : Option Text} {items : List Document} {refs : List Text}
    (h : refsAfter last items = .ok refs) : items = refs.map .string := by
  induction items generalizing last refs with
  | nil =>
    cases h
    rfl
  | cons item rest ih =>
    cases item with
    | string value =>
      unfold refsAfter at h
      split at h
      · cases h
      · obtain ⟨others, hothers, hrefs⟩ := bind_eq_ok.mp h
        cases hrefs
        rw [ih hothers, List.map_cons]
    | null =>
      unfold refsAfter at h
      cases h
    | bool value =>
      unfold refsAfter at h
      cases h
    | int value =>
      unfold refsAfter at h
      cases h
    | double value =>
      unfold refsAfter at h
      cases h
    | list items =>
      unfold refsAfter at h
      cases h
    | map fields =>
      unfold refsAfter at h
      cases h

/-- References that were accepted are accepted again. -/
theorem transportRefs_refsDocument {minimum maximum : Nat} {refs : List Text}
    (h : transportRefs minimum maximum input = .ok refs) :
    transportRefs minimum maximum (refsDocument refs) = .ok refs := by
  cases input with
  | list items =>
    have hitems : items = refs.map .string := by
      simp only [transportRefs] at h
      split at h
      · cases h
      · exact refsAfter_strings h
    unfold refsDocument
    rw [← hitems]
    exact h
  | null => cases h
  | bool value => cases h
  | int value => cases h
  | double value => cases h
  | string value => cases h
  | map fields => cases h

def Kills.Valid (kills : Kills) : Prop := transportKills kills.toDocument = .ok kills

theorem transportKills_toDocument {profileRefs endpointRefs capabilityRefs : List Text}
    (h1 : transportRefs 0 4096 (refsDocument profileRefs) = .ok profileRefs)
    (h2 : transportRefs 0 4096 (refsDocument endpointRefs) = .ok endpointRefs)
    (h3 : transportRefs 0 4096 (refsDocument capabilityRefs) = .ok capabilityRefs) :
    Kills.Valid ⟨profileRefs, endpointRefs, capabilityRefs⟩ := by
  unfold Kills.Valid transportKills
  refine bind_eq_ok.mpr ⟨_, rfl, bind_eq_ok.mpr ⟨(), rfl, ?_⟩⟩
  exact bind_eq_ok.mpr ⟨_, h1, bind_eq_ok.mpr ⟨_, h2, bind_eq_ok.mpr ⟨_, h3, rfl⟩⟩⟩

theorem valid_of_transportKills {kills : Kills} (h : transportKills input = .ok kills) :
    kills.Valid := by
  unfold transportKills at h
  obtain ⟨fields, -, h⟩ := bind_eq_ok.mp h
  obtain ⟨-, -, h⟩ := bind_eq_ok.mp h
  obtain ⟨profileRefs, hprofile, h⟩ := bind_eq_ok.mp h
  obtain ⟨endpointRefs, hendpoint, h⟩ := bind_eq_ok.mp h
  obtain ⟨capabilityRefs, hcapability, h⟩ := bind_eq_ok.mp h
  cases h
  exact transportKills_toDocument (transportRefs_refsDocument hprofile)
    (transportRefs_refsDocument hendpoint) (transportRefs_refsDocument hcapability)

/-! ## Floors -/

structure Floor.Valid (floor : Floor) : Prop where
  epoch : AppShell.revision (.int floor.epoch) = .ok floor.epoch
  revision : AppShell.revision (.int floor.revision) = .ok floor.revision
  documentKind : floor.documentKind ∈ [text "manifest", text "rollback"]
  payloadSha256 : transportDigest (.string floor.payloadSha256) = .ok floor.payloadSha256
  lastObservedAt : ∃ d, time (.string floor.lastObservedAt) = .ok d
  kills : floor.kills.Valid

theorem revision_eq_ok {value : Document} {n : Int} (h : revision value = .ok n) :
    value = .int n ∧ revision (.int n) = .ok n := by
  cases value with
  | int m =>
    have heq : m = n := by
      simp only [revision] at h
      split at h
      · cases h
      · cases h
        rfl
    subst heq
    exact ⟨rfl, h⟩
  | null => cases h
  | bool value => cases h
  | double value => cases h
  | string value => cases h
  | list items => cases h
  | map fields => cases h

theorem revision_le {n : Int} (h : revision (.int n) = .ok n) : 1 ≤ n ∧ n ≤ maximumRevision := by
  simp only [revision] at h
  split at h
  · cases h
  · omega

theorem transportDigest_eq_ok {value : Document} {digest : Text}
    (h : transportDigest value = .ok digest) :
    transportDigest (.string digest) = .ok digest := by
  cases value with
  | string s =>
    have heq : s = digest := by
      simp only [transportDigest] at h
      split at h
      · cases h
        rfl
      · cases h
    subst heq
    exact h
  | null => cases h
  | bool value => cases h
  | int value => cases h
  | double value => cases h
  | list items => cases h
  | map fields => cases h

theorem stringField_eq_ok {value : Document} (h : stringField value = .ok s) :
    value = .string s := by
  cases value with
  | string value =>
    cases h
    rfl
  | null => cases h
  | bool value => cases h
  | int value => cases h
  | double value => cases h
  | list items => cases h
  | map fields => cases h

theorem oneOf_eq_ok {value : Document} {values : List Text} (h : oneOf value values code = .ok s) :
    s ∈ values := by
  unfold oneOf at h
  split at h
  · split at h
    · rename_i hmem
      cases h
      exact List.contains_iff_mem.mp hmem
    · cases h
  · cases h

theorem oneOf_mem {values : List Text} (h : s ∈ values) : oneOf (.string s) values code = .ok s :=
  if_pos (List.contains_iff_mem.mpr h)

theorem valid_of_validateFloor (h : validateFloor audience input = .ok floor) : floor.Valid := by
  unfold validateFloor at h
  rw [orAlways_eq_ok] at h
  obtain ⟨frozen, -, h⟩ := bind_eq_ok.mp h
  obtain ⟨fields, -, h⟩ := bind_eq_ok.mp h
  obtain ⟨-, -, h⟩ := bind_eq_ok.mp h
  obtain ⟨-, -, h⟩ := bind_eq_ok.mp h
  obtain ⟨-, -, h⟩ := bind_eq_ok.mp h
  obtain ⟨documentKind, hkind, h⟩ := bind_eq_ok.mp h
  obtain ⟨epoch, hepoch, h⟩ := bind_eq_ok.mp h
  obtain ⟨number, hnumber, h⟩ := bind_eq_ok.mp h
  obtain ⟨digest, hdigest, h⟩ := bind_eq_ok.mp h
  obtain ⟨d, htime, h⟩ := bind_eq_ok.mp h
  obtain ⟨kills, hkills, h⟩ := bind_eq_ok.mp h
  obtain ⟨lastObservedAt, hlast, h⟩ := bind_eq_ok.mp h
  cases h
  constructor
  · exact (revision_eq_ok hepoch).2
  · exact (revision_eq_ok hnumber).2
  · exact oneOf_eq_ok hkind
  · exact transportDigest_eq_ok hdigest
  · rw [stringField_eq_ok hlast] at htime
    exact ⟨d, htime⟩
  · exact valid_of_transportKills hkills

theorem refusalItems_strings (depth : Nat) (refs : List Text) (h : depth ≤ 32) :
    refusalItems depth (refs.map .string) = none := by
  have hdepth : ¬ 32 < depth := by omega
  induction refs with
  | nil => rfl
  | cons ref rest ih =>
    rw [List.map_cons, refusalItems, ih, refusal, if_neg hdepth]
    rfl

theorem freeze_toDocument (audience : Text) (h : floor.Valid) :
    freeze (floor.toDocument audience) = .ok (floor.toDocument audience) := by
  have hepoch := revision_le h.epoch
  have hrevision := revision_le h.revision
  have hmaximum : maximumRevision = 9007199254740991 := rfl
  have hepoch' : ¬ maximumRevision < intAbs floor.epoch := by
    unfold intAbs
    split <;> omega
  have hrevision' : ¬ maximumRevision < intAbs floor.revision := by
    unfold intAbs
    split <;> omega
  have hnone : refusal 0 (floor.toDocument audience) = none := by
    unfold Floor.toDocument Kills.toDocument refsDocument
    simp only [refusal, refusalFields, refusalItems_strings _ _ (by decide : 3 ≤ 32), if_neg hepoch',
      if_neg hrevision']
    rfl
  unfold freeze
  rw [hnone]

/-- A floor that is written is validated as it was. -/
theorem validateFloor_toDocument (audience : Text) (h : floor.Valid) :
    validateFloor audience (floor.toDocument audience) = .ok floor := by
  obtain ⟨d, htime⟩ := h.lastObservedAt
  unfold validateFloor
  rw [orAlways_eq_ok]
  refine bind_eq_ok.mpr ⟨_, freeze_toDocument audience h, bind_eq_ok.mpr ⟨_, rfl, ?_⟩⟩
  refine bind_eq_ok.mpr ⟨(), rfl, bind_eq_ok.mpr ⟨_, oneOf_mem List.mem_cons_self, ?_⟩⟩
  refine bind_eq_ok.mpr ⟨audience, oneOf_mem List.mem_cons_self, ?_⟩
  refine bind_eq_ok.mpr ⟨floor.documentKind, oneOf_mem h.documentKind, ?_⟩
  refine bind_eq_ok.mpr ⟨_, h.epoch, bind_eq_ok.mpr ⟨_, h.revision, ?_⟩⟩
  refine bind_eq_ok.mpr ⟨_, h.payloadSha256, bind_eq_ok.mpr ⟨d, htime, ?_⟩⟩
  exact bind_eq_ok.mpr ⟨_, h.kills, bind_eq_ok.mpr ⟨floor.lastObservedAt, rfl, rfl⟩⟩

/-! ## Anchors -/

theorem fromRecord_toRecord (anchor : TransportTimeAnchor) :
    TransportTimeAnchor.fromRecord anchor.toRecord = .ok anchor := by
  have hbounds : 0 ≤ (anchor.receivedElapsedMs : Int) ∧
      (anchor.receivedElapsedMs : Int).toNat ≤ maximumElapsedMs ∧
      isBootRef anchor.bootRef = true ∧
      anchor.earliestAtReceipt.micros ≤ anchor.latestAtReceipt.micros :=
    ⟨Int.natCast_nonneg _, anchor.received_le, anchor.bootRef_valid, anchor.earliest_le⟩
  have hearliest := storedTime_toIso8601String anchor.earliestAtReceipt
  have hlatest := storedTime_toIso8601String anchor.latestAtReceipt
  have hfields : ∀ fields : Fields, anchor.toRecord = .map fields →
      Fields.get fields "boot_ref" = .string anchor.bootRef ∧
      Fields.get fields "received_elapsed_ms" = .int anchor.receivedElapsedMs ∧
      Fields.get fields "earliest_at_receipt" = .string anchor.earliestAtReceipt.toIso8601String ∧
      Fields.get fields "latest_at_receipt" = .string anchor.latestAtReceipt.toIso8601String ∧
      fields.length = 4 := by
    rintro fields hfields
    cases hfields
    exact ⟨rfl, rfl, rfl, rfl, rfl⟩
  cases hrecord : anchor.toRecord with
  | map fields =>
    obtain ⟨hboot, helapsed, hfirst, hsecond, hlength⟩ := hfields fields hrecord
    simp only [TransportTimeAnchor.fromRecord, hboot, helapsed, hfirst, hsecond, hearliest,
      hlatest, hlength]
    rw [if_neg (fun h => h rfl), dif_pos hbounds]
    rfl
  | _ => cases hrecord

/-! ## Records -/

theorem ofDocument_toDocument (value : ManifestRecord) :
    ManifestRecord.ofDocument value.toDocument = some value := by
  obtain ⟨floor, manifest, rollback, lastObservedAt, clock⟩ := value
  cases clock with
  | none => rfl
  | some clock => rfl

/-- A record that is accepted is read back from its text. -/
theorem loadRecord_of (h : value.accepted audience = true)
    (hsize : (StoredText.of value.toDocument).bytes ≤ maximumRecordBytes) :
    loadRecord audience (some (.of value.toDocument)) = .ok (some value) := by
  have hlength : (StoredText.of value.toDocument).length ≤ (StoredText.of value.toDocument).bytes :=
    length_le_utf8Length _
  have hfits : ¬ (maximumRecordBytes < (StoredText.of value.toDocument).length ∨
      maximumRecordBytes < (StoredText.of value.toDocument).bytes) := by omega
  have hdecoded : (StoredText.of value.toDocument).decoded.bind ManifestRecord.ofDocument =
      some value := ofDocument_toDocument value
  simp only [loadRecord, if_neg hfits, hdecoded]
  exact if_pos h

/-- What a record has that was loaded. -/
theorem loadRecord_eq_ok {raw : Option StoredText} (h : loadRecord audience raw = .ok (some value)) :
    value.accepted audience = true := by
  unfold loadRecord at h
  split at h
  · cases h
  · split at h
    · cases h
    · split at h
      · cases h
      · split at h
        · cases h
          assumption
        · cases h

theorem eq_none_of_loadRecord {raw : Option StoredText} (h : loadRecord audience raw = .ok none) :
    raw = none := by
  unfold loadRecord at h
  split at h
  · rfl
  · split at h
    · cases h
    · split at h
      · cases h
      · split at h
        · cases h
        · cases h

/-- The parts of a record that is accepted: its floor, the time that was observed
last, and the time of the floor. -/
structure Accepted (audience : Text) (value : ManifestRecord) (floor : Floor)
    (last floorTime : DateTime) : Prop where
  shaped : value.shaped = true
  floor_eq : validateFloor audience value.floor = .ok floor
  last_eq : value.observedAt = some last
  floorTime_eq : time (.string floor.lastObservedAt) = .ok floorTime
  floorTime_le : floorTime.micros ≤ last.micros
  clock : ManifestRecord.clockAccepted last value.clock = true

theorem isBefore_eq_false {a b : DateTime} : a.isBefore b = false ↔ b.micros ≤ a.micros := by
  rw [DateTime.isBefore, decide_eq_false_iff_not, Int.not_lt]

theorem isBefore_eq_true {a b : DateTime} : a.isBefore b = true ↔ a.micros < b.micros := by
  rw [DateTime.isBefore, decide_eq_true_eq]

theorem exists_accepted (h : value.accepted audience = true) :
    ∃ floor last floorTime, Accepted audience value floor last floorTime := by
  unfold ManifestRecord.accepted at h
  rw [Bool.and_eq_true] at h
  obtain ⟨hshaped, h⟩ := h
  split at h
  · rename_i floor last hfloor hlast
    split at h
    · rename_i floorTime htime
      rw [Bool.and_eq_true, Bool.not_eq_true', isBefore_eq_false] at h
      exact ⟨floor, last, floorTime, hshaped, hfloor, hlast, htime, h.1, h.2⟩
    · cases h
  · cases h

theorem Accepted.accepted {last floorTime : DateTime}
    (h : Accepted audience value floor last floorTime) : value.accepted audience = true := by
  simp only [ManifestRecord.accepted, h.shaped, h.floor_eq, h.last_eq, h.floorTime_eq, h.clock,
    isBefore_eq_false.mpr h.floorTime_le]
  rfl

end Pokrov.AppShell
