import Mathlib.Data.List.Dedup
import Pokrov.AppShell.RecordValidity

/-!
# Records that follow one another

A record that is accepted and later times: a floor of no older version, the same
document for the same version, and times that do not go back. The record of an
observed time, the one without envelopes and the one of an admission follow the
record that they replace, as long as their times fit the text of a floor.
-/

namespace Pokrov.AppShell

open Dart Results

/-! ## Times of a floor -/

theorem pad_three (n : Nat) : pad 3 n = pad 2 (n / 10) ++ [digit n] := rfl

/-- A text that ends in no milliseconds is one of a whole second. -/
theorem fraction_of_text {d : DateTime} {s : Text}
    (h : d.toIso8601String = s ++ text ".000Z") : d.fraction = 0 := by
  have hfraction := d.fraction_lt
  unfold DateTime.toIso8601String DateTime.isoFraction at h
  by_cases hzero : d.fraction % 1000 = 0
  · rw [if_pos hzero, List.append_nil, List.append_assoc] at h
    have hparts := List.append_inj' h (by
      rw [List.cons_append, List.length_cons, List.length_append, length_pad]
      rfl)
    have hdigits : pad 3 (d.fraction / 1000) ++ text "Z" = text "000" ++ text "Z" :=
      (List.cons.inj hparts.2).2
    have hpad : pad 3 (d.fraction / 1000) = text "000" := List.append_cancel_right hdigits
    have hnumber : number (pad 3 (d.fraction / 1000)) = d.fraction / 1000 := number_pad (by omega)
    have hvalue : number (text "000") = 0 := by decide
    rw [hpad, hvalue] at hnumber
    omega
  · rw [if_neg hzero, pad_three (d.fraction / 1000)] at h
    have hsplit : d.isoSeconds ++ (unit '.' :: (pad 2 (d.fraction / 1000 / 10) ++
        [digit (d.fraction / 1000)] ++ pad 3 (d.fraction % 1000))) ++ text "Z" =
        (d.isoSeconds ++ unit '.' :: pad 2 (d.fraction / 1000 / 10)) ++
          (digit (d.fraction / 1000) :: (pad 3 (d.fraction % 1000) ++ text "Z")) := by
      simp only [List.append_assoc, List.cons_append, List.nil_append]
    rw [hsplit] at h
    have hparts := List.append_inj' h (by
      rw [List.length_cons, List.length_append, length_pad]
      rfl)
    have hpoint : digit (d.fraction / 1000) = unit '.' := (List.cons.inj hparts.2).1
    have hdigit := isDigit_digit (d.fraction / 1000)
    rw [hpoint] at hdigit
    exact absurd hdigit (by decide)

/-- A time that is accepted is the start of its second. -/
theorem fraction_of_time {value : Document} {d : DateTime} (h : time value = .ok d) :
    d.fraction = 0 := by
  unfold time at h
  split at h
  · split at h
    · split at h
      · cases h
      · split at h
        · cases h
        · rename_i haccepted
          cases h
          rw [not_or, not_not] at haccepted
          exact fraction_of_text haccepted.2
    · cases h
  · cases h

theorem fraction_eq (d : DateTime) : (d.fraction : Int) = d.micros % 1000000 := by
  unfold DateTime.fraction DateTime.inDay
  omega

/-- The start of a second is no later than anything in it. -/
theorem le_truncated {a d : DateTime} (ha : a.fraction = 0) (h : a.micros ≤ d.micros) :
    a.micros ≤ d.truncated.micros := by
  have hzero := fraction_eq a
  have hfraction := fraction_eq d
  rw [DateTime.truncated_micros]
  omega

/-! ## Windows -/

/-- The sum of a time and a duration goes back to before the year 1, or does not
go back. -/
theorem le_of_add {d e : DateTime} {n : Nat} (h : d.add (1000 * n) = some e) (hn : n ≤ 9007199254740992)
    (hyear : 1 ≤ e.year) : d.micros ≤ e.micros := by
  have hlower := d.lower
  have hupper := d.upper
  have hvalue : e.micros = DateTime.wrap (d.micros + 1000 * n) := DateTime.micros_of_ofMicros h
  have hfirst : -100000000000000000 < e.micros := by
    by_contra hbefore
    have hle : e.year ≤ (⟨-100000000000000000, by decide, by decide⟩ : DateTime).year :=
      DateTime.year_mono (Int.not_lt.mp hbefore)
    have hold : (⟨-100000000000000000, by decide, by decide⟩ : DateTime).year = -1199 := by decide
    omega
  unfold maxMicroseconds at hlower hupper
  unfold DateTime.wrap at hvalue
  have hturns : (d.micros + 1000 * n + 9223372036854775808) / 18446744073709551616 = 0 ∨
      (d.micros + 1000 * n + 9223372036854775808) / 18446744073709551616 = 1 := by omega
  rcases hturns with hturns | hturns <;> omega

structure IsWindow (anchor : TransportTimeAnchor) (sample : RuntimeBootClockSnapshot)
    (w : TransportTimeWindow) : Prop where
  sample_eq : w.sample = sample
  received_le : anchor.receivedElapsedMs ≤ sample.elapsedMilliseconds
  latest_eq : anchor.latestAtReceipt.add
    (1000 * (sample.elapsedMilliseconds - anchor.receivedElapsedMs + 1 : Nat)) = some w.latest

variable {anchor : TransportTimeAnchor} {sample : RuntimeBootClockSnapshot}
  {w : TransportTimeWindow} {prior : Option ManifestRecord} {previous : Floor}
  {v : TransportManifestVerifier} {now earliestNow : DateTime}

theorem isWindow_of_window (h : anchor.window sample = .ok w) : IsWindow anchor sample w := by
  unfold TransportTimeAnchor.window at h
  split at h
  · cases h
  · rename_i hcontext
    dsimp only at h
    split at h
    · rename_i earliest latest _ hlatest
      cases h
      rw [not_or, Nat.not_lt] at hcontext
      exact ⟨rfl, hcontext.2, hlatest⟩
    · cases h

theorem IsWindow.le (h : IsWindow anchor sample w) (hyear : 1 ≤ w.latest.year) :
    anchor.latestAtReceipt.micros ≤ w.latest.micros := by
  apply le_of_add h.latest_eq _ hyear
  have hmax := sample.elapsed_le
  unfold maximumElapsedMs at hmax
  omega

/-- What a window is held against. -/
def requireNewer (prior : Option ManifestRecord) (sample : RuntimeBootClockSnapshot)
    (window : TransportTimeWindow) : Try TransportTimeWindow :=
  match prior with
  | none => return window
  | some prior =>
    match prior.observedAt with
    | none => .error .other
    | some last => do
        if window.latest.isBefore last then throwTransport "transport_clock_rollback"
        else if ← elapsedBack prior sample then throwTransport "transport_clock_rollback"
        else return window

theorem window_of_windowOf {deadline : Option TransportClockDeadline}
    (h : windowOf anchor prior deadline sample = .ok w) :
    ∃ w', anchor.window sample = .ok w' ∧ requireNewer prior sample w' = .ok w := by
  unfold windowOf at h
  cases deadline with
  | none => exact bind_eq_ok.mp h
  | some deadline =>
    dsimp only at h
    obtain ⟨-, -, h⟩ := bind_eq_ok.mp h
    exact bind_eq_ok.mp h

/-- A window that is held against a record is no earlier than what that has seen. -/
theorem requireNewer_eq_ok {w w' : TransportTimeWindow} (h : requireNewer prior sample w' = .ok w) :
    w' = w ∧ ∀ value, prior = some value → ∃ last, value.observedAt = some last ∧
      last.micros ≤ w.latest.micros := by
  cases prior with
  | none =>
    cases h
    exact ⟨rfl, fun value hvalue => by cases hvalue⟩
  | some prior =>
    unfold requireNewer at h
    dsimp only at h
    split at h
    · cases h
    · rename_i last hlast
      split at h
      · cases h
      · rename_i hbefore
        obtain ⟨back, -, h⟩ := bind_eq_ok.mp h
        split at h
        · cases h
        · cases h
          refine ⟨rfl, fun value hvalue => ?_⟩
          cases hvalue
          exact ⟨last, hlast, isBefore_eq_false.mp (Bool.eq_false_iff.mpr hbefore)⟩

theorem windowOf_eq_ok {deadline : Option TransportClockDeadline}
    (h : windowOf anchor prior deadline sample = .ok w) :
    IsWindow anchor sample w ∧ ∀ value, prior = some value → ∃ last, value.observedAt = some last ∧
      last.micros ≤ w.latest.micros := by
  obtain ⟨w', hwindow, hnewer⟩ := window_of_windowOf h
  obtain ⟨rfl, hlast⟩ := requireNewer_eq_ok hnewer
  exact ⟨isWindow_of_window hwindow, hlast⟩

/-! ## Floors -/

/-- No older version, and the same document for the same version. -/
structure Floor.Precedes (a b : Floor) : Prop where
  version_le : a.epoch < b.epoch ∨ a.epoch = b.epoch ∧ a.revision ≤ b.revision
  same : a.epoch = b.epoch → a.revision = b.revision →
    a.documentKind = b.documentKind ∧ a.payloadSha256 = b.payloadSha256

theorem Floor.Precedes.refl (a : Floor) : a.Precedes a :=
  ⟨.inr ⟨rfl, Int.le_refl _⟩, fun _ _ => ⟨rfl, rfl⟩⟩

theorem Floor.Precedes.trans {a b c : Floor} (hab : a.Precedes b) (hbc : b.Precedes c) :
    a.Precedes c := by
  have hle := hab.version_le
  have hle' := hbc.version_le
  constructor
  · omega
  · intro hepoch hrevision
    obtain ⟨hkind, hdigest⟩ := hab.same (by omega) (by omega)
    obtain ⟨hkind', hdigest'⟩ := hbc.same (by omega) (by omega)
    exact ⟨hkind.trans hkind', hdigest.trans hdigest'⟩

theorem oneOf_string_eq {s s' : Text} {values : List Text} {code : String}
    (h : oneOf (.string s) values code = .ok s') : s' = s := by
  unfold oneOf at h
  dsimp only at h
  split at h
  · cases h
    rfl
  · cases h

theorem transportDigest_string_eq {s s' : Text} (h : transportDigest (.string s) = .ok s') :
    s' = s := by
  simp only [transportDigest] at h
  split at h
  · cases h
    rfl
  · cases h

theorem transportRefs_refsDocument_eq {minimum maximum : Nat} {refs refs' : List Text}
    (h : transportRefs minimum maximum (refsDocument refs) = .ok refs') : refs' = refs := by
  unfold refsDocument at h
  simp only [transportRefs] at h
  split at h
  · cases h
  · have hstrings := refsAfter_strings h
    have hinjective : Function.Injective Document.string := fun a b hab => by
      cases hab
      rfl
    exact (List.map_injective_iff.mpr hinjective hstrings).symm

/-- What is read of kills that are written. -/
theorem transportKills_toDocument_eq {kills kills' : Kills}
    (h : transportKills kills.toDocument = .ok kills') : kills' = kills := by
  unfold transportKills at h
  obtain ⟨fields, hfields, h⟩ := bind_eq_ok.mp h
  cases hfields
  obtain ⟨-, -, h⟩ := bind_eq_ok.mp h
  obtain ⟨profileRefs, hprofile, h⟩ := bind_eq_ok.mp h
  obtain ⟨endpointRefs, hendpoint, h⟩ := bind_eq_ok.mp h
  obtain ⟨capabilityRefs, hcapability, h⟩ := bind_eq_ok.mp h
  cases h
  have h1 := transportRefs_refsDocument_eq hprofile
  have h2 := transportRefs_refsDocument_eq hendpoint
  have h3 := transportRefs_refsDocument_eq hcapability
  rw [h1, h2, h3]

/-- What is read of a floor that is written. -/
theorem validateFloor_toDocument_eq {audience : Text} {floor floor' : Floor}
    (h : validateFloor audience (floor.toDocument audience) = .ok floor') : floor' = floor := by
  unfold validateFloor at h
  rw [orAlways_eq_ok] at h
  obtain ⟨frozen, hfrozen, h⟩ := bind_eq_ok.mp h
  have hsame : frozen = floor.toDocument audience := by
    unfold freeze at hfrozen
    split at hfrozen
    · cases hfrozen
      rfl
    · cases hfrozen
  subst hsame
  obtain ⟨fields, hfields, h⟩ := bind_eq_ok.mp h
  cases hfields
  obtain ⟨-, -, h⟩ := bind_eq_ok.mp h
  obtain ⟨-, -, h⟩ := bind_eq_ok.mp h
  obtain ⟨-, -, h⟩ := bind_eq_ok.mp h
  obtain ⟨documentKind, hkind, h⟩ := bind_eq_ok.mp h
  obtain ⟨epoch, hepoch, h⟩ := bind_eq_ok.mp h
  obtain ⟨number, hnumber, h⟩ := bind_eq_ok.mp h
  obtain ⟨digest, hdigest, h⟩ := bind_eq_ok.mp h
  obtain ⟨d, htime, h⟩ := bind_eq_ok.mp h
  obtain ⟨kills, hkills, h⟩ := bind_eq_ok.mp h
  obtain ⟨lastObservedAt, hlast, h⟩ := bind_eq_ok.mp h
  cases h
  have h1 : documentKind = floor.documentKind := oneOf_string_eq hkind
  have h2 : Document.int floor.epoch = .int epoch := (revision_eq_ok hepoch).1
  have h3 : Document.int floor.revision = .int number := (revision_eq_ok hnumber).1
  have h4 : digest = floor.payloadSha256 := transportDigest_string_eq hdigest
  have h5 : kills = floor.kills := transportKills_toDocument_eq hkills
  have h6 : Document.string floor.lastObservedAt = .string lastObservedAt := stringField_eq_ok hlast
  cases h2
  cases h3
  cases h6
  rw [h1, h4, h5]

/-! ## Admissions -/

def Kills.Subset (a b : Kills) : Prop :=
  a.profileRefs ⊆ b.profileRefs ∧ a.endpointRefs ⊆ b.endpointRefs ∧
    a.capabilityRefs ⊆ b.capabilityRefs

theorem subset_mergeRefs (refs others : List Text) : others ⊆ mergeRefs refs others := by
  intro ref href
  unfold mergeRefs
  rw [(List.perm_insertionSort _ _).mem_iff, List.mem_dedup]
  exact List.mem_append_right refs href

theorem Kills.subset_union (a b : Kills) : b.Subset (a.union b) :=
  ⟨subset_mergeRefs _ _, subset_mergeRefs _ _, subset_mergeRefs _ _⟩

theorem checkVersion_eq_ok {epoch number : Int} {kind digest : Text}
    (h : TransportManifestVerifier.checkVersion (some previous) epoch number kind digest = .ok ()) :
    (previous.epoch < epoch ∨ previous.epoch = epoch ∧ previous.revision ≤ number) ∧
      (previous.epoch = epoch → previous.revision = number →
        previous.documentKind = kind ∧ previous.payloadSha256 = digest) := by
  simp only [TransportManifestVerifier.checkVersion] at h
  unfold transportVersionCompare Floor.version at h
  dsimp only at h
  split at h
  · cases h
  · rename_i heq
    split at h
    · cases h
    · rename_i hsame
      rw [not_or, not_not, not_not] at hsame
      split at heq
      · rename_i hepoch
        have hrevision := Int.compare_eq_eq.mp heq
        exact ⟨.inr ⟨hepoch.symm, by omega⟩, fun _ _ => ⟨hsame.1.symm, hsame.2.symm⟩⟩
      · rename_i hepoch
        exact absurd (Int.compare_eq_eq.mp heq) hepoch
  · rename_i hgt
    split at hgt
    · rename_i hepoch
      have hrevision := Int.compare_eq_gt.mp hgt
      exact ⟨.inr ⟨hepoch.symm, by omega⟩, fun _ hsame => by omega⟩
    · have hepoch := Int.compare_eq_gt.mp hgt
      exact ⟨.inl hepoch, fun hsame => by omega⟩

theorem checkClock_eq_ok {now : DateTime}
    (h : TransportManifestVerifier.checkClock (some previous) now = .ok ()) :
    ∃ last, time (.string previous.lastObservedAt) = .ok last ∧ last.micros ≤ now.micros := by
  unfold TransportManifestVerifier.checkClock at h
  obtain ⟨last, hlast, h⟩ := bind_eq_ok.mp h
  refine ⟨last, hlast, ?_⟩
  unfold refuseIf at h
  split at h
  · cases h
  · rename_i hbefore
    exact isBefore_eq_false.mp (Bool.eq_false_iff.mpr hbefore)

/-- What an authorization takes over from the floor. -/
theorem kills_of_newest {manifest payload authorization : Fields} {current : Newest}
    (h : v.newest manifest payload (some authorization) (some previous) now earliestNow = .ok current) :
    previous.kills.Subset current.kills := by
  unfold TransportManifestVerifier.newest at h
  obtain ⟨kills, -, h⟩ := bind_eq_ok.mp h
  obtain ⟨expiry, -, h⟩ := bind_eq_ok.mp h
  dsimp only at h
  unfold TransportManifestVerifier.authorized at h
  obtain ⟨-, -, h⟩ := bind_eq_ok.mp h
  obtain ⟨target, -, h⟩ := bind_eq_ok.mp h
  obtain ⟨-, -, h⟩ := bind_eq_ok.mp h
  obtain ⟨targetKills, -, h⟩ := bind_eq_ok.mp h
  dsimp only at h
  obtain ⟨united, hunited, h⟩ := bind_eq_ok.mp h
  obtain ⟨rollbackExpiry, -, h⟩ := bind_eq_ok.mp h
  cases h
  have hsame := transportKills_toDocument_eq hunited
  subst hsame
  exact Kills.subset_union _ _

/-- An admission against a floor: a floor that is not older, at a time that is not
before it, and with its kills when it was authorized to roll back. -/
structure AdmittedOver (previous : Floor) (now : DateTime) (result : TransportAdmission) : Prop where
  precedes : previous.Precedes result.nextFloor
  last_le : ∃ last, time (.string previous.lastObservedAt) = .ok last ∧ last.micros ≤ now.micros
  kills : result.rollback.isSome = true → previous.kills.Subset result.nextFloor.kills

/-- An admission ends at a time of a document. -/
theorem expiry_of_newest {manifest payload : Fields} {authorization : Option Fields}
    {previous : Option Floor} {current : Newest}
    (h : v.newest manifest payload authorization previous now earliestNow = .ok current) :
    current.expiry.year ≤ 9999 := by
  unfold TransportManifestVerifier.newest at h
  obtain ⟨kills, -, h⟩ := bind_eq_ok.mp h
  obtain ⟨expiry, hexpiry, h⟩ := bind_eq_ok.mp h
  cases authorization with
  | none =>
    cases h
    exact (year_of_time hexpiry).2
  | some authorization =>
    dsimp only at h
    unfold TransportManifestVerifier.authorized at h
    obtain ⟨-, -, h⟩ := bind_eq_ok.mp h
    obtain ⟨target, -, h⟩ := bind_eq_ok.mp h
    obtain ⟨-, -, h⟩ := bind_eq_ok.mp h
    obtain ⟨targetKills, -, h⟩ := bind_eq_ok.mp h
    dsimp only at h
    obtain ⟨united, -, h⟩ := bind_eq_ok.mp h
    obtain ⟨rollbackExpiry, hrollback, h⟩ := bind_eq_ok.mp h
    cases h
    dsimp only
    split
    · exact (year_of_time hrollback).2
    · exact (year_of_time hexpiry).2

theorem admitDocument_eq_ok {input : Document} {rollback floor : Option Document}
    {result : TransportAdmission}
    (h : v.admitDocument input rollback floor now earliestNow = .ok result) :
    result.nextFloor.Valid ∧ result.effectiveExpiresAt.year ≤ 9999 ∧ ∀ document, floor = some document →
      ∃ previous, validateFloor v.audience document = .ok previous ∧ AdmittedOver previous now result := by
  unfold TransportManifestVerifier.admitDocument at h
  rw [orTransport_eq_ok] at h
  obtain ⟨-, -, h⟩ := bind_eq_ok.mp h
  obtain ⟨frozen, -, h⟩ := bind_eq_ok.mp h
  obtain ⟨manifest, -, h⟩ := bind_eq_ok.mp h
  obtain ⟨authorization, -, h⟩ := bind_eq_ok.mp h
  obtain ⟨previous, hprevious, h⟩ := bind_eq_ok.mp h
  obtain ⟨-, -, h⟩ := bind_eq_ok.mp h
  obtain ⟨⟨⟩, hclock, h⟩ := bind_eq_ok.mp h
  obtain ⟨bindings, -, h⟩ := bind_eq_ok.mp h
  obtain ⟨payload, -, h⟩ := bind_eq_ok.mp h
  obtain ⟨current, hcurrent, h⟩ := bind_eq_ok.mp h
  obtain ⟨version, -, h⟩ := bind_eq_ok.mp h
  obtain ⟨epoch, -, h⟩ := bind_eq_ok.mp h
  obtain ⟨number, -, h⟩ := bind_eq_ok.mp h
  obtain ⟨digest, -, h⟩ := bind_eq_ok.mp h
  obtain ⟨⟨⟩, hversion, h⟩ := bind_eq_ok.mp h
  obtain ⟨next, hnext, h⟩ := bind_eq_ok.mp h
  cases h
  refine ⟨valid_of_validateFloor hnext, expiry_of_newest hcurrent, fun document hdocument => ?_⟩
  subst hdocument
  obtain ⟨floor, hfloor, hsome⟩ := bind_eq_ok.mp hprevious
  cases hsome
  have hsame := validateFloor_toDocument_eq hnext
  subst hsame
  obtain ⟨hle, hbinding⟩ := checkVersion_eq_ok hversion
  refine ⟨floor, hfloor, ⟨hle, hbinding⟩, checkClock_eq_ok hclock, fun hsome => ?_⟩
  obtain ⟨fields, rfl⟩ := Option.isSome_iff_exists.mp hsome
  exact kills_of_newest hcurrent

/-! ## Records -/

theorem Accepted.unique {audience : Text} {value : ManifestRecord} {floor floor' : Floor}
    {last last' floorTime floorTime' : DateTime} (h : Accepted audience value floor last floorTime)
    (h' : Accepted audience value floor' last' floorTime') :
    floor = floor' ∧ last = last' ∧ floorTime = floorTime' := by
  have hfloor : floor = floor' := Except.ok.inj (h.floor_eq.symm.trans h'.floor_eq)
  have hlast : last = last' := Option.some.inj (h.last_eq.symm.trans h'.last_eq)
  subst hfloor
  exact ⟨rfl, hlast, Except.ok.inj (h.floorTime_eq.symm.trans h'.floorTime_eq)⟩

/-- Both records are accepted, and neither the floor nor a time goes back. -/
def ManifestRecord.Succeeds (audience : Text) (a b : ManifestRecord) : Prop :=
  ∃ floor last floorTime floor' last' floorTime',
    Accepted audience a floor last floorTime ∧ Accepted audience b floor' last' floorTime' ∧
      floor.Precedes floor' ∧ last.micros ≤ last'.micros ∧ floorTime.micros ≤ floorTime'.micros

namespace ManifestRecord.Succeeds

variable {audience : Text} {a b c value value' : ManifestRecord}

theorem trans (hab : Succeeds audience a b) (hbc : Succeeds audience b c) :
    Succeeds audience a c := by
  obtain ⟨f1, l1, t1, f2, l2, t2, ha, hb, hfloor, hlast, htime⟩ := hab
  obtain ⟨f2', l2', t2', f3, l3, t3, hb', hc, hfloor', hlast', htime'⟩ := hbc
  obtain ⟨rfl, rfl, rfl⟩ := hb.unique hb'
  exact ⟨f1, l1, t1, f3, l3, t3, ha, hc, hfloor.trans hfloor', Int.le_trans hlast hlast',
    Int.le_trans htime htime'⟩

theorem accepted (h : Succeeds audience a b) : b.accepted audience = true := by
  obtain ⟨_, _, _, _, _, _, -, hb, -⟩ := h
  exact hb.accepted

end ManifestRecord.Succeeds

section Successors

variable {audience : Text} {value value' : ManifestRecord} {floor : Floor}
  {last floorTime : DateTime}

/-- A record that is written for a time of the years 1 to 9999. -/
theorem accepted_at {d : DateTime} (hfloor : floor.Valid) (h1 : 1 ≤ d.year) (h2 : d.year ≤ 9999)
    (hdocument : value.floor = Floor.toDocument audience
      { floor with lastObservedAt := AppShell.floorTime d })
    (hlast : value.lastObservedAt = .string d.toIso8601String) (hshaped : value.shaped = true)
    (hclock : ManifestRecord.clockAccepted d value.clock = true) :
    Accepted audience value { floor with lastObservedAt := AppShell.floorTime d } d d.truncated := by
  have hvalid : Floor.Valid { floor with lastObservedAt := AppShell.floorTime d } :=
    { hfloor with lastObservedAt := ⟨d.truncated, time_floorTime h1 h2⟩ }
  constructor
  · exact hshaped
  · rw [hdocument]
    exact validateFloor_toDocument audience hvalid
  · unfold ManifestRecord.observedAt
    rw [hlast]
    exact storedTime_toIso8601String d
  · exact time_floorTime h1 h2
  · rw [DateTime.truncated_micros]
    omega
  · exact hclock

theorem Accepted.year (h : Accepted audience value floor last floorTime) {d : DateTime}
    (hd : last.micros ≤ d.micros) : 1 ≤ d.year := by
  have hfloor := (year_of_time h.floorTime_eq).1
  have hyear : floorTime.year ≤ d.year := DateTime.year_mono (Int.le_trans h.floorTime_le hd)
  omega

variable {anchor : TransportTimeAnchor} {sample : RuntimeBootClockSnapshot}

theorem clockAccepted_window {document : Document} {w : TransportTimeWindow}
    (hrecord : TransportTimeAnchor.fromRecord document = .ok anchor) (hw : IsWindow anchor sample w)
    (hyear : 1 ≤ w.latest.year) :
    ManifestRecord.clockAccepted w.latest (some (document, .int w.sample.elapsedMilliseconds)) =
      true := by
  have hbounds : (anchor.receivedElapsedMs : Int) ≤ w.sample.elapsedMilliseconds ∧
      (w.sample.elapsedMilliseconds : Int) ≤ maximumElapsedMs := by
    have hreceived := hw.received_le
    have hmaximum := w.sample.elapsed_le
    rw [hw.sample_eq] at hmaximum ⊢
    omega
  simp only [ManifestRecord.clockAccepted, hrecord, isBefore_eq_false.mpr (hw.le hyear),
    decide_eq_true hbounds]
  rfl

/-- The record of an observed time. -/
theorem succeeds_observed {deadline : Option TransportClockDeadline} {now : TransportTimeWindow}
    (haccepted : value.accepted audience = true) (hanchor : anchorOf value = .ok anchor)
    (hwindow : windowOf anchor (some value) deadline sample = .ok now)
    (hyear : now.latest.year ≤ 9999) (hvalue : observed audience value now = .ok value') :
    value.Succeeds audience value' := by
  obtain ⟨floor, last, floorTime, h⟩ := exists_accepted haccepted
  obtain ⟨hw, hnewer⟩ := windowOf_eq_ok hwindow
  obtain ⟨last', hlast', hle⟩ := hnewer value rfl
  have hsame : last' = last := Option.some.inj (hlast'.symm.trans h.last_eq)
  subst hsame
  have hfirst : 1 ≤ now.latest.year := h.year hle
  unfold observed at hvalue
  obtain ⟨floor', hfloor', hvalue⟩ := bind_eq_ok.mp hvalue
  have hsame : floor' = floor := Except.ok.inj (hfloor'.symm.trans h.floor_eq)
  subst hsame
  cases hvalue
  obtain ⟨document, elapsed, hclock⟩ : ∃ document elapsed, value.clock = some (document, elapsed) := by
    unfold anchorOf at hanchor
    split at hanchor
    · cases hanchor
    · exact ⟨_, _, by assumption⟩
  have hrecord : TransportTimeAnchor.fromRecord document = .ok anchor := by
    unfold anchorOf at hanchor
    rw [hclock] at hanchor
    exact hanchor
  have hclocked : ManifestRecord.clockAccepted now.latest (value.clock.map fun clock =>
      (clock.1, .int now.sample.elapsedMilliseconds)) = true := by
    rw [hclock]
    exact clockAccepted_window hrecord hw hfirst
  have hnow : Accepted audience { value with
      floor := Floor.toDocument audience
        { floor' with lastObservedAt := AppShell.floorTime now.latest }
      lastObservedAt := .string now.latest.toIso8601String
      clock := value.clock.map fun clock => (clock.1, .int now.sample.elapsedMilliseconds) }
      { floor' with lastObservedAt := AppShell.floorTime now.latest } now.latest now.latest.truncated :=
    accepted_at (valid_of_validateFloor hfloor') hfirst hyear rfl rfl h.shaped hclocked
  refine ⟨floor', last', floorTime, _, _, _, h, hnow, ⟨(Floor.Precedes.refl floor').version_le,
    (Floor.Precedes.refl floor').same⟩, hle, ?_⟩
  exact le_truncated (fraction_of_time h.floorTime_eq) (Int.le_trans h.floorTime_le hle)

/-- The record without envelopes. -/
theorem succeeds_discarded (haccepted : value.accepted audience = true) :
    value.Succeeds audience (discarded value) := by
  obtain ⟨floor, last, floorTime, h⟩ := exists_accepted haccepted
  have hnext : Accepted audience (discarded value) floor last floorTime :=
    { h with shaped := rfl }
  exact ⟨floor, last, floorTime, floor, last, floorTime, h, hnext, .refl floor, Int.le_refl _,
    Int.le_refl _⟩

/-- The record of an admission. -/
theorem accepted_committed {result : TransportAdmission} {commitTime : TransportTimeWindow}
    (hvalid : result.nextFloor.Valid) (hw : IsWindow anchor sample commitTime)
    (h1 : 1 ≤ commitTime.latest.year) (h2 : commitTime.latest.year ≤ 9999) :
    Accepted audience (committed audience result anchor commitTime)
      { result.nextFloor with lastObservedAt := AppShell.floorTime commitTime.latest }
      commitTime.latest commitTime.latest.truncated := by
  apply accepted_at hvalid h1 h2 rfl rfl
  · unfold committed ManifestRecord.shaped
    cases result.rollback with
    | none => rfl
    | some fields => rfl
  · exact clockAccepted_window (fromRecord_toRecord anchor) hw h1

end Successors

end Pokrov.AppShell
