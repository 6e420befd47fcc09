import Mathlib.Data.List.Infix
import Pokrov.AppShell.RoutingCatalogStore
import Pokrov.AppShell.Succession

/-!
# Records of the catalog that follow one another

No floor goes back, the same revision keeps its digest, and times do not go back.
What `_observe`, `accept` and `discardEnvelope` write follows what they have
loaded.
-/

namespace Pokrov.AppShell

open Dart Results

/-! ## Verification -/

theorem rejectIf_eq_ok {condition : Prop} [Decidable condition] {code : String} {result : Unit} :
    rejectIf condition code = .ok result ↔ ¬ condition := by
  unfold rejectIf
  split
  · rename_i h
    exact ⟨fun hok => (by cases hok), fun hnot => absurd h hnot⟩
  · rename_i h
    exact ⟨fun _ => h, fun _ => rfl⟩

theorem orVerificationFailed_eq_ok {α : Type} {x : Try α} {a : α} :
    orVerificationFailed x = .ok a ↔ x = .ok a := by
  cases x with
  | ok b => exact Iff.rfl
  | error e =>
    constructor <;> intro h
    · cases e <;> cases h
    · cases h

/-- Digits of a byte. -/
theorem all_hexByte (byte : UInt8) : (hexByte byte).all isLowerHex = true := by
  have hdigit : ∀ n, n < 16 → isLowerHex (lowerHexDigit n) = true := by decide
  have hhigh := hdigit (byte.toNat / 16) (by have := byte.toNat_lt; omega)
  have hlow := hdigit (byte.toNat % 16) (by omega)
  simp [hexByte, hhigh, hlow]

theorem length_flatMap_hexByte (bytes : List UInt8) :
    (bytes.flatMap hexByte).length = 2 * bytes.length := by
  induction bytes with
  | nil => rfl
  | cons byte bytes ih =>
    rw [List.flatMap_cons, List.length_append, ih]
    show 2 + 2 * bytes.length = 2 * (bytes.length + 1)
    omega

theorem isSha256_digestOf (v : RoutingCatalogVerifier) (body : Text) :
    CatalogRecord.isSha256 (.string (v.digestOf body)) = true := by
  have hlength : (v.digestOf body).length = 64 := by
    rw [RoutingCatalogVerifier.digestOf, length_flatMap_hexByte, List.length_ofFn]
  have hall : (v.digestOf body).all isLowerHex = true := by
    rw [RoutingCatalogVerifier.digestOf, List.all_flatMap, List.all_eq_true]
    exact fun byte _ => all_hexByte byte
  simp [CatalogRecord.isSha256, hlength, hall]

/-- A catalog that is verified against a floor, at a time. -/
structure VerifiedOver (minimumRevision minimumSecurityRevision : Int)
    (currentPayloadSha256 : Option Text) (now : DateTime) (catalog : VerifiedRoutingCatalog) : Prop where
  revision_le : minimumRevision ≤ catalog.revision
  security_le : minimumSecurityRevision ≤ catalog.securityRevision
  revision_pos : 1 ≤ catalog.revision
  revision_max : catalog.revision ≤ maximumRevision
  security_pos : 1 ≤ catalog.securityRevision
  security_max : catalog.securityRevision ≤ maximumRevision
  digest : CatalogRecord.isSha256 (.string catalog.payloadSha256) = true
  same : catalog.revision = minimumRevision → currentPayloadSha256 = some catalog.payloadSha256
  issued : catalog.issuedAt.micros ≤ now.micros
  current : now.micros < catalog.expiresAt.micros

theorem revision_bounds {value : Document} {n : Int} (h : revision value = .ok n) :
    1 ≤ n ∧ n ≤ maximumRevision := by
  unfold revision at h
  split at h
  · split at h
    · cases h
    · cases h
      omega
  · cases h

theorem verify_eq_ok {v : RoutingCatalogVerifier} {input : Document} {now : DateTime}
    {minimumRevision minimumSecurityRevision : Int} {currentPayloadSha256 : Option Text}
    {catalog : VerifiedRoutingCatalog}
    (h : v.verify input now minimumRevision minimumSecurityRevision currentPayloadSha256 =
      .ok catalog) :
    VerifiedOver minimumRevision minimumSecurityRevision currentPayloadSha256 now catalog := by
  unfold RoutingCatalogVerifier.verify at h
  rw [orVerificationFailed_eq_ok] at h
  obtain ⟨-, -, h⟩ := bind_eq_ok.mp h
  obtain ⟨-, -, h⟩ := bind_eq_ok.mp h
  obtain ⟨frozen, -, h⟩ := bind_eq_ok.mp h
  obtain ⟨envelope, -, h⟩ := bind_eq_ok.mp h
  obtain ⟨-, -, h⟩ := bind_eq_ok.mp h
  obtain ⟨-, -, h⟩ := bind_eq_ok.mp h
  obtain ⟨-, -, h⟩ := bind_eq_ok.mp h
  obtain ⟨payload, -, h⟩ := bind_eq_ok.mp h
  unfold RoutingCatalogVerifier.verifyPayload at h
  obtain ⟨-, -, h⟩ := bind_eq_ok.mp h
  obtain ⟨-, -, h⟩ := bind_eq_ok.mp h
  obtain ⟨-, -, h⟩ := bind_eq_ok.mp h
  obtain ⟨number, hnumber, h⟩ := bind_eq_ok.mp h
  obtain ⟨securityRevision, hsecurity, h⟩ := bind_eq_ok.mp h
  obtain ⟨_, hfloor, h⟩ := bind_eq_ok.mp h
  obtain ⟨issuedAt, -, h⟩ := bind_eq_ok.mp h
  obtain ⟨expiresAt, -, h⟩ := bind_eq_ok.mp h
  obtain ⟨_, hcurrent, h⟩ := bind_eq_ok.mp h
  obtain ⟨-, -, h⟩ := bind_eq_ok.mp h
  obtain ⟨-, -, h⟩ := bind_eq_ok.mp h
  obtain ⟨_, hsame, h⟩ := bind_eq_ok.mp h
  obtain ⟨-, -, h⟩ := bind_eq_ok.mp h
  cases h
  rw [rejectIf_eq_ok, not_or] at hfloor
  rw [rejectIf_eq_ok, not_or, not_or] at hcurrent
  rw [rejectIf_eq_ok] at hsame
  have hbounds := revision_bounds hnumber
  have hsecure := revision_bounds hsecurity
  constructor
  · exact Int.not_lt.mp hfloor.1
  · exact Int.not_lt.mp hfloor.2
  · exact hbounds.1
  · exact hbounds.2
  · exact hsecure.1
  · exact hsecure.2
  · exact isSha256_digestOf v _
  · intro heq
    by_contra hdiffers
    exact hsame ⟨heq, hdiffers⟩
  · have hissued := hcurrent.2.1
    rw [Bool.not_eq_true] at hissued
    exact isBefore_eq_false.mp hissued
  · have hexpires := hcurrent.2.2
    rw [Bool.not_eq_false] at hexpires
    exact isBefore_eq_true.mp hexpires

variable {value : CatalogRecord}

theorem admission_eq_ok {store : RoutingCatalogStore} {envelope : Document} {now : DateTime}
    {catalog : VerifiedRoutingCatalog} (h : store.admission envelope now value = .ok catalog) :
    VerifiedOver value.revision value.securityRevision value.digest now catalog := by
  unfold RoutingCatalogStore.admission at h
  obtain ⟨verified, hverified, h⟩ := bind_eq_ok.mp h
  obtain ⟨-, -, h⟩ := bind_eq_ok.mp h
  cases h
  exact verify_eq_ok hverified

/-! ## Records -/

theorem catalogRecord_read_back (value : CatalogRecord) :
    CatalogRecord.ofDocument value.toDocument = some value := rfl

/-- A record that is accepted is read back from its text. -/
theorem loadCatalog_of (h : value.accepted = true)
    (hsize : (StoredText.of value.toDocument).bytes ≤ maximumCatalogRecordBytes) :
    loadCatalog (some (.of value.toDocument)) = .ok (some value) := by
  have hlength : (StoredText.of value.toDocument).length ≤ (StoredText.of value.toDocument).bytes :=
    length_le_utf8Length _
  have hfits : ¬ (maximumCatalogRecordBytes < (StoredText.of value.toDocument).length ∨
      maximumCatalogRecordBytes < (StoredText.of value.toDocument).bytes) := by omega
  have hdecoded : (StoredText.of value.toDocument).decoded.bind CatalogRecord.ofDocument =
      some value := catalogRecord_read_back value
  simp only [loadCatalog, if_neg hfits, hdecoded, h, if_true]

/-- What was loaded is what is stored. -/
theorem loadCatalog_some {raw : Option StoredText} (h : loadCatalog raw = .ok (some value)) :
    value.accepted = true ∧ ∃ stored, raw = some stored ∧
      stored.decoded.bind CatalogRecord.ofDocument = some value := by
  cases raw with
  | none => cases h
  | some stored =>
    simp only [loadCatalog] at h
    split at h
    · cases h
    · split at h
      · cases h
      · rename_i hdecoded
        split at h
        · rename_i haccepted
          cases h
          exact ⟨haccepted, stored, rfl, hdecoded⟩
        · cases h

theorem loadCatalog_none {raw : Option StoredText} (h : loadCatalog raw = .ok none) : raw = none := by
  cases raw with
  | none => rfl
  | some stored =>
    simp only [loadCatalog] at h
    split at h
    · cases h
    · split at h
      · cases h
      · split at h <;> cases h

namespace CatalogRecord

/-- The time that was observed last. -/
def observedAt (value : CatalogRecord) : Option DateTime := DateTime.tryParseUtc value.lastObservedAt

/-- No floor is lower, the same revision has the same digest, and the time is no
earlier. -/
structure Precedes (a b : CatalogRecord) : Prop where
  revision_le : a.revision ≤ b.revision
  security_le : a.securityRevision ≤ b.securityRevision
  same : 0 < a.revision → a.revision = b.revision → a.payloadSha256 = b.payloadSha256
  observed_le : ∃ t t', a.observedAt = some t ∧ b.observedAt = some t' ∧ t.micros ≤ t'.micros

theorem Precedes.trans {a b c : CatalogRecord} (hab : a.Precedes b) (hbc : b.Precedes c) :
    a.Precedes c := by
  constructor
  · exact Int.le_trans hab.revision_le hbc.revision_le
  · exact Int.le_trans hab.security_le hbc.security_le
  · intro hpos heq
    have hle := hab.revision_le
    have hle' := hbc.revision_le
    rw [hab.same hpos (by omega), hbc.same (by omega) (by omega)]
  · rcases hab.observed_le with ⟨t, t', ht, ht', hle⟩
    rcases hbc.observed_le with ⟨u, u', hu, hu', hle'⟩
    cases ht'.symm.trans hu
    exact ⟨t, u', ht, hu', Int.le_trans hle hle'⟩

end CatalogRecord

/-- What is stored later: the same, or a record that is accepted and comes after. -/
def CatalogFollows (a b : Option StoredText) : Prop :=
  b = a ∨ ∃ value, loadCatalog b = .ok (some value) ∧
    (a = none ∨ ∃ before, loadCatalog a = .ok (some before) ∧ before.Precedes value)

theorem CatalogFollows.refl (a : Option StoredText) : CatalogFollows a a := .inl rfl

theorem CatalogFollows.trans {a b c : Option StoredText} (hab : CatalogFollows a b)
    (hbc : CatalogFollows b c) : CatalogFollows a c := by
  rcases hbc with rfl | ⟨value, hvalue, hbefore⟩
  · exact hab
  · rcases hab with rfl | ⟨middle, hmiddle, hfirst⟩
    · exact .inr ⟨value, hvalue, hbefore⟩
    · rcases hbefore with rfl | ⟨before, hload, hprecedes⟩
      · cases hmiddle
      · cases hmiddle.symm.trans hload
        rcases hfirst with rfl | ⟨first, hload', hprecedes'⟩
        · exact .inr ⟨value, hvalue, .inl rfl⟩
        · exact .inr ⟨value, hvalue, .inr ⟨first, hload', hprecedes'.trans hprecedes⟩⟩

/-- A record is stored, and it has no envelope. -/
def CatalogErased (raw : Option StoredText) : Prop :=
  ∃ stored value, raw = some stored ∧ stored.decoded.bind CatalogRecord.ofDocument = some value ∧
    value.envelope = .null

variable {value : CatalogRecord} {durable : Option StoredText}

theorem CatalogErased.load {raw : Option StoredText} (herased : CatalogErased raw)
    (h : loadCatalog raw = .ok (some value)) : value.envelope = .null := by
  rcases herased with ⟨stored, value', rfl, hdecoded, henvelope⟩
  rcases (loadCatalog_some h).2 with ⟨stored', hstored, hdecoded'⟩
  cases hstored
  cases hdecoded.symm.trans hdecoded'
  exact henvelope

/-- What `_load` has returned of what is stored. -/
def Stands (durable : Option StoredText) (value : CatalogRecord) : Prop :=
  loadCatalog durable = .ok (some value) ∨ durable = none ∧ ∃ now, value = emptyCatalog now

theorem Stands.accepted (h : Stands durable value) : value.accepted = true := by
  rcases h with h | ⟨-, now, rfl⟩
  · exact (loadCatalog_some h).1
  · rfl

/-- A record that may take the place of one that was loaded. -/
structure Succeeds (before value : CatalogRecord) : Prop where
  accepted : value.accepted = true
  precedes : before.Precedes value

theorem follows_of_succeeds {before value : CatalogRecord} (hstands : Stands durable before)
    (h : Succeeds before value)
    (hsize : (StoredText.of value.toDocument).bytes ≤ maximumCatalogRecordBytes) :
    CatalogFollows durable (some (.of value.toDocument)) := by
  refine .inr ⟨value, loadCatalog_of h.accepted hsize, ?_⟩
  rcases hstands with hload | ⟨hnone, -⟩
  · exact .inr ⟨before, hload, h.precedes⟩
  · exact .inl hnone

/-- The record of an observed time. -/
theorem succeeds_observe {previous now : DateTime} (haccepted : value.accepted = true)
    (hprevious : value.observedAt = some previous) (hnow : now.isBefore previous = false) :
    Succeeds value { value with lastObservedAt := now.toIso8601String } :=
  ⟨haccepted, Int.le_refl _, Int.le_refl _, fun _ _ => rfl,
    previous, now, hprevious, DateTime.tryParseUtc_toIso8601String now, isBefore_eq_false.mp hnow⟩

/-- The record without an envelope. -/
theorem succeeds_discard {now : DateTime} (haccepted : value.accepted = true)
    (hnow : value.observedAt = some now) : Succeeds value { value with envelope := .null } := by
  refine ⟨?_, Int.le_refl _, Int.le_refl _, fun _ _ => rfl, now, now, hnow, hnow, Int.le_refl _⟩
  simp only [CatalogRecord.accepted, Bool.and_eq_true] at haccepted ⊢
  rcases haccepted with ⟨⟨⟨hrevision, hsecurity⟩, -⟩, hdigest⟩
  refine ⟨⟨⟨hrevision, hsecurity⟩, rfl⟩, ?_⟩
  split at hdigest
  · rename_i hzero
    rw [Bool.and_eq_true] at hdigest
    rw [if_pos hzero, hdigest.1]
    rfl
  · rename_i hpos
    rw [if_neg hpos]
    exact hdigest

theorem payloadSha256_of_digest {s : Text} (h : value.digest = some s) :
    value.payloadSha256 = .string s := by
  unfold CatalogRecord.digest at h
  split at h
  · rename_i s' heq
    cases h
    exact heq
  · cases h

/-- The record of a catalog that was verified over the one before. -/
theorem succeeds_accept {now : DateTime} {catalog : VerifiedRoutingCatalog}
    (hnow : value.observedAt = some now)
    (h : VerifiedOver value.revision value.securityRevision value.digest now catalog) :
    Succeeds value (acceptedCatalog value catalog) := by
  refine ⟨?_, h.revision_le, h.security_le, ?_, now, now, hnow, hnow, Int.le_refl _⟩
  · have hpos := h.revision_pos
    have hmax := h.revision_max
    have hsecurity := h.security_pos
    have hsecurityMax := h.security_max
    have hne : catalog.revision ≠ 0 := by omega
    have hrevision : 0 ≤ catalog.revision ∧ catalog.revision ≤ maximumRevision := ⟨by omega, hmax⟩
    show (decide (0 ≤ catalog.revision ∧ catalog.revision ≤ maximumRevision) &&
      decide (1 ≤ catalog.securityRevision ∧ catalog.securityRevision ≤ maximumRevision) && true &&
      (if catalog.revision = 0 then _ else
        CatalogRecord.isSha256 (.string catalog.payloadSha256))) = true
    rw [decide_eq_true hrevision, decide_eq_true ⟨hsecurity, hsecurityMax⟩, if_neg hne, h.digest]
    rfl
  · intro _ heq
    exact payloadSha256_of_digest (h.same heq.symm)

/-! ## Floors -/

/-- The floors and the envelope that are stored; none where the record is not
accepted. -/
def floorOf (raw : Option StoredText) : Option (Int × Int × Document × Document) :=
  match loadCatalog raw with
  | .ok none => some (0, 1, .null, .null)
  | .ok (some value) => some (value.revision, value.securityRevision, value.payloadSha256, value.envelope)
  | .error _ => none

theorem floorOf_stands (h : Stands durable value) :
    floorOf durable = some (value.revision, value.securityRevision, value.payloadSha256,
      value.envelope) := by
  rcases h with h | ⟨rfl, now, rfl⟩
  · simp [floorOf, h]
  · rfl

end Pokrov.AppShell
