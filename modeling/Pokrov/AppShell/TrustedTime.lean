import Pokrov.AppShell.ManifestResponse
import Pokrov.AppShell.Succession
import Pokrov.Lib.Sampling
import Mathlib.Data.Rat.Floor

/-!
# Trusted time windows

What the windows of an anchor say about the time of the server. The clock of the
server and the boot clock run at one rate, a sample is the boot clock cut to the
millisecond, and what the server reports is its time cut to the second, taken
somewhere between the request and the response.
-/

namespace Pokrov.AppShell

open Dart Results

section Clocks

variable {K : Type*} [Field K] [LinearOrder K] [IsStrictOrderedRing K] [FloorRing K]

/-- A sample that is taken on a boot after so many milliseconds. -/
structure SampledAt (sample : RuntimeBootClockSnapshot) (bootRef : Text) (elapsed : K) : Prop where
  boot : sample.bootRef = bootRef
  floor : (sample.elapsedMilliseconds : ℤ) = ⌊elapsed⌋

variable (K) in
/-- A request and its response, by the milliseconds since the boot. The offset is
the time of the server at the boot, in microseconds. -/
structure Exchange where
  offset : K
  sentAt : K
  answeredAt : K
  receivedAt : K
  sent : RuntimeBootClockSnapshot
  received : RuntimeBootClockSnapshot
  observedAt : DateTime
  sent_le : sentAt ≤ answeredAt
  answered_le : answeredAt ≤ receivedAt
  sampled_sent : SampledAt sent sent.bootRef sentAt
  sampled_received : SampledAt received sent.bootRef receivedAt
  observed : (observedAt.micros : K) = Sampling.truncate 1000000 (offset + 1000 * answeredAt)
  /-- The response was decoded, which bounds its year. -/
  decoded : ∃ document, time document = .ok observedAt

namespace Exchange

/-- The time of the server in microseconds, so many milliseconds after the boot. -/
def serverTime (x : Exchange K) (elapsed : K) : K := x.offset + 1000 * elapsed

def anchor (x : Exchange K) : Try TransportTimeAnchor :=
  TransportTimeAnchor.fromOnline x.observedAt x.sent x.received

/-- The bound above that a window has. -/
def upperMicros (x : Exchange K) (sample : RuntimeBootClockSnapshot) : ℤ :=
  x.observedAt.micros + 1000 * (1000 + (sample.elapsedMilliseconds - x.sent.elapsedMilliseconds) + 3)

end Exchange

/-- The time is between the two of the window. -/
def TransportTimeWindow.Encloses (w : TransportTimeWindow) (t : K) : Prop :=
  (w.earliest.micros : K) ≤ t ∧ t ≤ w.latest.micros

/-- A document is valid at a time, by its own two times. -/
def CurrentAt (document : Fields) (t : K) : Prop :=
  ∃ (payload : Fields) (start expiry : DateTime), document.get "payload" = .map payload ∧
    time (Fields.get payload "not_before") = .ok start ∧
    time (Fields.get payload "expires_at") = .ok expiry ∧
    (start.micros : K) ≤ t ∧ t < expiry.micros

/-! ## Windows -/

/-- The first microsecond of the year 10000. -/
def afterYears : DateTime := ⟨253402300800000000, by decide, by decide⟩

theorem micros_of_time {document : Document} {d : DateTime} (h : time document = .ok d) :
    d.micros < 253402300800000000 := by
  by_contra hlate
  have hyear : afterYears.year ≤ d.year := DateTime.year_mono (not_lt.mp hlate)
  have hten : afterYears.year = 10000 := by decide
  have hlast := (year_of_time h).2
  omega

/-- A sum that is a time, of what cannot wrap around into the times. -/
theorem micros_of_add {d d' : DateTime} {n : Int} (h : d.add n = some d')
    (hlow : -maxMicroseconds ≤ d.micros + n) (hhigh : d.micros + n < 9800000000000000000) :
    d'.micros = d.micros + n ∧ d.micros + n ≤ maxMicroseconds := by
  have hvalue : d'.micros = DateTime.wrap (d.micros + n) := DateTime.micros_of_ofMicros h
  have hlower := d'.lower
  have hupper := d'.upper
  unfold maxMicroseconds at *
  unfold DateTime.wrap at hvalue
  omega

theorem add_of_le {d : DateTime} {n : Int} (hlow : 0 ≤ n)
    (hhigh : d.micros + n ≤ maxMicroseconds) : ∃ d', d.add n = some d' := by
  have hlower := d.lower
  have hwrap : DateTime.wrap (d.micros + n) = d.micros + n := by
    unfold maxMicroseconds at *
    unfold DateTime.wrap
    omega
  unfold DateTime.add
  rw [hwrap]
  refine ⟨⟨d.micros + n, by omega, hhigh⟩, dif_pos ⟨by omega, hhigh⟩⟩

namespace Exchange

variable {x : Exchange K} {anchor : TransportTimeAnchor}

omit [IsStrictOrderedRing K] in
theorem sent_le_received (x : Exchange K) :
    x.sent.elapsedMilliseconds ≤ x.received.elapsedMilliseconds := by
  have h := Sampling.readings_le x.sampled_sent.floor x.sampled_received.floor
    (x.sent_le.trans x.answered_le)
  omega

omit [IsStrictOrderedRing K] in
theorem observed_bounds (x : Exchange K) :
    -maxMicroseconds ≤ x.observedAt.micros ∧ x.observedAt.micros < 253402300800000000 := by
  obtain ⟨document, h⟩ := x.decoded
  exact ⟨x.observedAt.lower, micros_of_time h⟩

omit [IsStrictOrderedRing K] in
theorem anchor_eq (h : x.anchor = .ok anchor) :
    anchor.bootRef = x.sent.bootRef ∧
      anchor.receivedElapsedMs = x.received.elapsedMilliseconds ∧
      anchor.earliestAtReceipt = x.observedAt ∧
      anchor.latestAtReceipt.micros = x.observedAt.micros + 1000 * (1000 +
        (x.received.elapsedMilliseconds - x.sent.elapsedMilliseconds) + 2) := by
  unfold Exchange.anchor TransportTimeAnchor.fromOnline at h
  split at h
  · cases h
  · split at h
    · cases h
    · rename_i latest hlatest
      split at h
      · cases h
        have hle := x.sent_le_received
        have hmax := x.received.elapsed_le
        have hobserved := x.observed_bounds
        unfold maximumElapsedMs at hmax
        have hsum := micros_of_add hlatest (by unfold TransportTimeAnchor.milliseconds; omega)
          (by unfold TransportTimeAnchor.milliseconds; omega)
        exact ⟨x.sampled_received.boot, rfl, rfl, hsum.1⟩
      · cases h

omit [IsStrictOrderedRing K] in
/-- The two times of a window, without a sum that wraps around. -/
theorem window_eq (h : x.anchor = .ok anchor) {sample : RuntimeBootClockSnapshot}
    {w : TransportTimeWindow} (hw : anchor.window sample = .ok w) :
    x.received.elapsedMilliseconds ≤ sample.elapsedMilliseconds ∧
      w.earliest.micros = x.observedAt.micros +
        1000 * ((sample.elapsedMilliseconds - x.received.elapsedMilliseconds - 1 : Nat) : ℤ) ∧
      w.latest.micros = x.upperMicros sample := by
  obtain ⟨hboot, hreceived, hearliest, hlatest⟩ := anchor_eq h
  have hle := x.sent_le_received
  have hmax := sample.elapsed_le
  have hobserved := x.observed_bounds
  unfold maximumElapsedMs at hmax
  unfold TransportTimeAnchor.window at hw
  split at hw
  · cases hw
  · rename_i hcontext
    rw [not_or, Nat.not_lt, hreceived] at hcontext
    dsimp only at hw
    split at hw
    · rename_i earliest latest hfirst hlast
      cases hw
      rw [hearliest, hreceived] at hfirst
      rw [hreceived] at hlast
      unfold TransportTimeAnchor.milliseconds at hfirst hlast
      have hearly := micros_of_add hfirst (by split <;> omega) (by split <;> omega)
      have hlate := micros_of_add hlast (by omega) (by omega)
      refine ⟨hcontext.2, ?_, ?_⟩
      · rw [hearly.1]
        split <;> omega
      · rw [hlate.1, hlatest, upperMicros]
        omega
    · cases hw

omit [IsStrictOrderedRing K] in
/-- There is a window unless its later time is out of bounds. -/
theorem exists_window {sample : RuntimeBootClockSnapshot} (hboot : sample.bootRef = x.sent.bootRef)
    (hle : x.received.elapsedMilliseconds ≤ sample.elapsedMilliseconds)
    (hbound : x.upperMicros sample ≤ maxMicroseconds) :
    ∃ anchor w, x.anchor = .ok anchor ∧ anchor.window sample = .ok w := by
  have hsent := x.sent_le_received
  have hobserved := x.observed_bounds
  unfold upperMicros at hbound
  have hanchor : ∃ anchor, x.anchor = .ok anchor := by
    obtain ⟨latest, hlatest⟩ := add_of_le (d := x.observedAt)
      (n := TransportTimeAnchor.milliseconds (1000 +
        (x.received.elapsedMilliseconds - x.sent.elapsedMilliseconds) + 2))
      (by unfold TransportTimeAnchor.milliseconds; omega)
      (by unfold TransportTimeAnchor.milliseconds; omega)
    have hsum := (micros_of_add hlatest (by unfold TransportTimeAnchor.milliseconds; omega)
      (by unfold TransportTimeAnchor.milliseconds maxMicroseconds at *; omega)).1
    unfold TransportTimeAnchor.milliseconds at hsum
    have hcontext : ¬ (x.sent.bootRef ≠ x.received.bootRef ∨
        x.received.elapsedMilliseconds < x.sent.elapsedMilliseconds) := by
      rw [not_or, not_not, not_lt]
      exact ⟨x.sampled_received.boot.symm, hsent⟩
    have hordered : x.observedAt.micros ≤ latest.micros := by omega
    unfold Exchange.anchor TransportTimeAnchor.fromOnline
    rw [if_neg hcontext, hlatest]
    exact ⟨_, dif_pos hordered⟩
  obtain ⟨anchor, hanchor⟩ := hanchor
  obtain ⟨hb, hreceived, hearliest, hlatest⟩ := anchor_eq hanchor
  refine ⟨anchor, ?_⟩
  obtain ⟨latest, hlast⟩ := add_of_le (d := anchor.latestAtReceipt)
    (n := TransportTimeAnchor.milliseconds
      (sample.elapsedMilliseconds - anchor.receivedElapsedMs + 1 : Nat))
    (by unfold TransportTimeAnchor.milliseconds; omega)
    (by unfold TransportTimeAnchor.milliseconds; omega)
  obtain ⟨earliest, hfirst⟩ := add_of_le (d := anchor.earliestAtReceipt)
    (n := TransportTimeAnchor.milliseconds
      (if 0 < sample.elapsedMilliseconds - anchor.receivedElapsedMs then
        sample.elapsedMilliseconds - anchor.receivedElapsedMs - 1 else 0 : Nat))
    (by unfold TransportTimeAnchor.milliseconds; omega)
    (by
      rw [hearliest]
      unfold TransportTimeAnchor.milliseconds
      split <;> omega)
  have hcontext : ¬ (sample.bootRef ≠ anchor.bootRef ∨
      sample.elapsedMilliseconds < anchor.receivedElapsedMs) := by
    rw [not_or, not_not, not_lt, hb, hreceived]
    exact ⟨hboot, hle⟩
  refine ⟨⟨earliest, latest, sample⟩, hanchor, ?_⟩
  unfold TransportTimeAnchor.window
  rw [if_neg hcontext]
  dsimp only
  rw [hfirst, hlast]

/-- The time of the server is in the window of every later sample. -/
theorem encloses (h : x.anchor = .ok anchor) {sample : RuntimeBootClockSnapshot}
    {w : TransportTimeWindow} (hw : anchor.window sample = .ok w) {elapsed : K}
    (hlater : x.receivedAt ≤ elapsed) (hsample : SampledAt sample x.sent.bootRef elapsed) :
    w.Encloses (x.serverTime elapsed) := by
  obtain ⟨hle, hearliest, hlatest⟩ := window_eq h hw
  have hlow : (x.observedAt.micros : K) ≤ x.offset + 1000 * x.answeredAt :=
    x.observed ▸ Sampling.truncate_le (by norm_num) _
  have hhigh : x.offset + 1000 * x.answeredAt < x.observedAt.micros + 1000000 :=
    x.observed ▸ Sampling.lt_truncate_add (by norm_num) _
  have hanswered := x.answered_le
  have hsent := x.sent_le
  unfold serverTime
  constructor
  · rw [hearliest]
    by_cases hmoved : x.received.elapsedMilliseconds < sample.elapsedMilliseconds
    · have helapsed := Sampling.lt_elapsed x.sampled_received.floor hsample.floor
      have hcast : ((sample.elapsedMilliseconds - x.received.elapsedMilliseconds - 1 : Nat) : ℤ) =
          (sample.elapsedMilliseconds : ℤ) - x.received.elapsedMilliseconds - 1 := by omega
      rw [hcast]
      push_cast at helapsed ⊢
      linarith
    · have hzero : sample.elapsedMilliseconds - x.received.elapsedMilliseconds - 1 = 0 := by omega
      rw [hzero]
      push_cast
      linarith
  · rw [hlatest, upperMicros]
    have helapsed := Sampling.elapsed_lt x.sampled_sent.floor hsample.floor
    push_cast at helapsed ⊢
    linarith

omit [IsStrictOrderedRing K] in
theorem window_mono (h : x.anchor = .ok anchor) {sample later : RuntimeBootClockSnapshot}
    {w w' : TransportTimeWindow} (hw : anchor.window sample = .ok w)
    (hw' : anchor.window later = .ok w')
    (hle : sample.elapsedMilliseconds ≤ later.elapsedMilliseconds) :
    w.earliest.micros ≤ w'.earliest.micros ∧ w.latest.micros ≤ w'.latest.micros := by
  obtain ⟨-, hearliest, hlatest⟩ := window_eq h hw
  obtain ⟨-, hearliest', hlatest'⟩ := window_eq h hw'
  rw [hearliest, hearliest', hlatest, hlatest', upperMicros, upperMicros]
  omega

end Exchange

/-! ## Deadlines -/

/-- `Duration.inMilliseconds` of microseconds. -/
def inMilliseconds (micros : ℤ) : ℤ := micros.tdiv 1000

/-- A sample that is accepted was taken within the time that was granted. -/
theorem elapsed_of_requireCurrent {start sample : RuntimeBootClockSnapshot} {granted : ℤ}
    {deadline : TransportClockDeadline} {started elapsed : K}
    (hdeadline : TransportClockDeadline.new start (inMilliseconds granted) = .ok deadline)
    (hcurrent : deadline.requireCurrent sample = .ok ())
    (hstart : (start.elapsedMilliseconds : ℤ) = ⌊started⌋)
    (hsample : (sample.elapsedMilliseconds : ℤ) = ⌊elapsed⌋) :
    sample.bootRef = start.bootRef ∧ 1000 * (elapsed - started) < granted := by
  unfold TransportClockDeadline.new at hdeadline
  split at hdeadline
  · cases hdeadline
  · rename_i hgranted
    cases hdeadline
    unfold TransportClockDeadline.requireCurrent at hcurrent
    split at hcurrent
    · cases hcurrent
    · rename_i hwithin
      rw [not_or, not_or, not_le, not_not] at hwithin
      refine ⟨hwithin.1, ?_⟩
      have hexpires : (sample.elapsedMilliseconds : ℤ) <
          start.elapsedMilliseconds + inMilliseconds granted - 1 := hwithin.2.2
      have hsteps : (sample.elapsedMilliseconds : ℤ) - start.elapsedMilliseconds + 2 ≤
          inMilliseconds granted := by omega
      have hdiv : 1000 * ((inMilliseconds granted : ℤ) : K) ≤ (granted : K) := by
        exact_mod_cast Sampling.mul_tdiv_le (by decide) (by unfold inMilliseconds at *; omega)
      have hsteps' : (((sample.elapsedMilliseconds : ℤ) - start.elapsedMilliseconds : ℤ) : K) + 2 ≤
          (inMilliseconds granted : ℤ) := by exact_mod_cast hsteps
      -- both samples are cut, so the time between them is one more at most
      have helapsed := Sampling.elapsed_lt hstart hsample
      linarith

/-! ## Admission -/

omit [FloorRing K] in
/-- A document that is verified between two times is current at all times between
them. -/
theorem currentAt_of_verify {v : TransportManifestVerifier} {envelope : Fields} {rollback : Bool}
    {now earliestNow : DateTime} {bindings : List TransportCapabilityBinding}
    (h : v.verify envelope now rollback earliestNow = .ok bindings) {t : K}
    (hearliest : (earliestNow.micros : K) ≤ t) (hnow : t ≤ (now.micros : K)) :
    CurrentAt envelope t := by
  unfold TransportManifestVerifier.verify at h
  obtain ⟨-, -, h⟩ := bind_eq_ok.mp h
  obtain ⟨-, -, h⟩ := bind_eq_ok.mp h
  obtain ⟨payload, hpayload, h⟩ := bind_eq_ok.mp h
  obtain ⟨-, -, h⟩ := bind_eq_ok.mp h
  obtain ⟨-, -, h⟩ := bind_eq_ok.mp h
  obtain ⟨-, -, h⟩ := bind_eq_ok.mp h
  obtain ⟨-, -, h⟩ := bind_eq_ok.mp h
  obtain ⟨keyId, -, h⟩ := bind_eq_ok.mp h
  obtain ⟨-, -, h⟩ := bind_eq_ok.mp h
  obtain ⟨-, -, h⟩ := bind_eq_ok.mp h
  obtain ⟨issued, -, h⟩ := bind_eq_ok.mp h
  obtain ⟨start, hstart, h⟩ := bind_eq_ok.mp h
  obtain ⟨expiry, hexpiry, h⟩ := bind_eq_ok.mp h
  obtain ⟨⟨⟩, hcurrent, -⟩ := bind_eq_ok.mp h
  rw [refuseIf_eq_ok] at hcurrent
  simp only [not_or, DateTime.isBefore, decide_eq_true_eq, not_lt, Bool.not_eq_false] at hcurrent
  have hearly : (start.micros : K) ≤ earliestNow.micros := Int.cast_le.mpr hcurrent.2.2.1
  have hlate : (now.micros : K) < expiry.micros := Int.cast_lt.mpr hcurrent.2.2.2
  exact ⟨payload, start, expiry, transportMap_eq_ok.mp hpayload, hstart, hexpiry,
    hearly.trans hearliest, hnow.trans_lt hlate⟩

omit [FloorRing K] in
/-- Both documents of an admission are current at all times of the window that it is
given. -/
theorem currentAt_of_admitDocument {v : TransportManifestVerifier} {input : Document}
    {rollback floor : Option Document} {w : TransportTimeWindow} {result : TransportAdmission}
    (h : v.admitDocument input rollback floor w.latest w.earliest = .ok result) {t : K}
    (ht : w.Encloses t) :
    CurrentAt result.manifest t ∧
      ∀ authorization, result.rollback = some authorization → CurrentAt authorization t := by
  unfold TransportManifestVerifier.admitDocument at h
  rw [orTransport_eq_ok] at h
  obtain ⟨-, -, h⟩ := bind_eq_ok.mp h
  obtain ⟨frozen, -, h⟩ := bind_eq_ok.mp h
  obtain ⟨manifest, -, h⟩ := bind_eq_ok.mp h
  obtain ⟨authorization, -, h⟩ := bind_eq_ok.mp h
  obtain ⟨previous, -, h⟩ := bind_eq_ok.mp h
  obtain ⟨-, -, h⟩ := bind_eq_ok.mp h
  obtain ⟨-, -, h⟩ := bind_eq_ok.mp h
  obtain ⟨bindings, hbindings, h⟩ := bind_eq_ok.mp h
  obtain ⟨payload, -, h⟩ := bind_eq_ok.mp h
  obtain ⟨current, hcurrent, h⟩ := bind_eq_ok.mp h
  obtain ⟨version, -, h⟩ := bind_eq_ok.mp h
  obtain ⟨epoch, -, h⟩ := bind_eq_ok.mp h
  obtain ⟨number, -, h⟩ := bind_eq_ok.mp h
  obtain ⟨digest, -, h⟩ := bind_eq_ok.mp h
  obtain ⟨-, -, h⟩ := bind_eq_ok.mp h
  obtain ⟨next, -, h⟩ := bind_eq_ok.mp h
  cases h
  refine ⟨currentAt_of_verify hbindings ht.1 ht.2, fun document hsome => ?_⟩
  dsimp only at hsome
  subst hsome
  unfold TransportManifestVerifier.newest at hcurrent
  obtain ⟨kills, -, hcurrent⟩ := bind_eq_ok.mp hcurrent
  obtain ⟨expiry, -, hcurrent⟩ := bind_eq_ok.mp hcurrent
  unfold TransportManifestVerifier.authorized at hcurrent
  obtain ⟨others, hothers, -⟩ := bind_eq_ok.mp hcurrent
  exact currentAt_of_verify hothers ht.1 ht.2

/-- Every window of an exchange encloses the time of the server and moves with the
samples, a record gives its anchor back, and a sample that a deadline accepts was
taken in time. What is admitted in a window is current. -/
theorem trusted_time (x : Exchange K) :
    (∀ (sample : RuntimeBootClockSnapshot) (elapsed : K), x.receivedAt ≤ elapsed →
      SampledAt sample x.sent.bootRef elapsed →
        ((∃ anchor w, x.anchor = .ok anchor ∧ anchor.window sample = .ok w) ↔
          x.upperMicros sample ≤ maxMicroseconds) ∧
        ∀ anchor w, x.anchor = .ok anchor → anchor.window sample = .ok w →
          w.Encloses (x.serverTime elapsed) ∧
          (∀ later w', sample.elapsedMilliseconds ≤ later.elapsedMilliseconds →
            anchor.window later = .ok w' →
              w.earliest.micros ≤ w'.earliest.micros ∧ w.latest.micros ≤ w'.latest.micros) ∧
          ∀ (v : TransportManifestVerifier) (input : Document) (rollback floor : Option Document)
            (admission : TransportAdmission),
            v.admitDocument input rollback floor w.latest w.earliest = .ok admission →
              CurrentAt admission.manifest (x.serverTime elapsed) ∧
                ∀ authorization, admission.rollback = some authorization →
                  CurrentAt authorization (x.serverTime elapsed)) ∧
      (∀ anchor : TransportTimeAnchor, TransportTimeAnchor.fromRecord anchor.toRecord = .ok anchor) ∧
      ∀ (start sample : RuntimeBootClockSnapshot) (granted : ℤ) (deadline : TransportClockDeadline)
        (started elapsed : K), SampledAt start start.bootRef started →
          SampledAt sample sample.bootRef elapsed →
          TransportClockDeadline.new start (inMilliseconds granted) = .ok deadline →
          deadline.requireCurrent sample = .ok () →
            sample.bootRef = start.bootRef ∧ 1000 * (elapsed - started) < granted := by
  refine ⟨fun sample elapsed hlater hsample => ⟨⟨?_, ?_⟩, fun anchor w hanchor hw => ?_⟩,
    fromRecord_toRecord, ?_⟩
  · rintro ⟨anchor, w, hanchor, hw⟩
    rw [← (Exchange.window_eq hanchor hw).2.2]
    exact w.latest.upper
  · intro hbound
    have hle := Sampling.readings_le x.sampled_received.floor hsample.floor hlater
    exact Exchange.exists_window hsample.boot (by omega) hbound
  · have hencloses := Exchange.encloses hanchor hw hlater hsample
    exact ⟨hencloses, fun later w' hle hw' => Exchange.window_mono hanchor hw hw' hle,
      fun v input rollback floor admission h => currentAt_of_admitDocument h hencloses⟩
  · intro start sample granted deadline started elapsed hstart hsample hdeadline hcurrent
    exact elapsed_of_requireCurrent hdeadline hcurrent hstart.floor hsample.floor

end Clocks

/-! ## A run -/

def androidBoot (elapsed : Nat) (h : elapsed ≤ maximumElapsedMs := by decide) : RuntimeBootClockSnapshot :=
  ⟨text "android:7", elapsed, by decide, h⟩

theorem sampledAt_androidBoot (elapsed : Nat) (h : elapsed ≤ maximumElapsedMs) {boot : Text} {t : ℚ}
    (hboot : text "android:7" = boot) (hlow : (elapsed : ℚ) ≤ t) (hhigh : t < elapsed + 1) :
    SampledAt (androidBoot elapsed h) boot t :=
  ⟨hboot, by rw [eq_comm, Int.floor_eq_iff]; exact ⟨hlow, hhigh⟩⟩

theorem truncate_sampleTime :
    (1767225601000000 : ℚ) = Sampling.truncate 1000000 (1767225600250000 + 1000 * 1125) := by
  have hfloor : ⌊(1767225601375000 : ℚ) / 1000000⌋ = 1767225601 := by
    rw [Int.floor_eq_iff]
    norm_num
  norm_num [Sampling.truncate, hfloor]

theorem sampleTimes : (2001 / 2 : ℚ) ≤ 1125 ∧ (1125 : ℚ) ≤ 2501 / 2 ∧
    ((1000 : ℕ) : ℚ) ≤ 2001 / 2 ∧ (2001 / 2 : ℚ) < (1000 : ℕ) + 1 ∧
    ((1250 : ℕ) : ℚ) ≤ 2501 / 2 ∧ (2501 / 2 : ℚ) < (1250 : ℕ) + 1 := by
  norm_num

theorem sampleTime_decoded : ∃ document,
    time document = .ok ⟨1767225601000000, by decide, by decide⟩ :=
  ⟨.string (text "2026-01-01T00:00:01Z"), by decide +kernel⟩

/-- An exchange of a quarter of a second, which is answered in its middle. -/
def sampleExchange : Exchange ℚ where
  offset := 1767225600250000
  sentAt := 2001 / 2
  answeredAt := 1125
  receivedAt := 2501 / 2
  sent := androidBoot 1000
  received := androidBoot 1250
  observedAt := ⟨1767225601000000, by decide, by decide⟩
  sent_le := sampleTimes.1
  answered_le := sampleTimes.2.1
  sampled_sent := sampledAt_androidBoot _ _ rfl sampleTimes.2.2.1 sampleTimes.2.2.2.1
  sampled_received := sampledAt_androidBoot _ _ rfl sampleTimes.2.2.2.2.1 sampleTimes.2.2.2.2.2
  observed := truncate_sampleTime
  decoded := sampleTime_decoded

theorem sampleExchange_encloses : ∃ anchor w, sampleExchange.anchor = .ok anchor ∧
    anchor.window (androidBoot 4000) = .ok w ∧
      w.Encloses (sampleExchange.serverTime (8001 / 2)) := by
  have hsample : SampledAt (androidBoot 4000) sampleExchange.sent.bootRef (8001 / 2 : ℚ) :=
    ⟨rfl, by rw [eq_comm, Int.floor_eq_iff]; norm_num [androidBoot]⟩
  have hlater : sampleExchange.receivedAt ≤ (8001 / 2 : ℚ) := by norm_num [sampleExchange]
  obtain ⟨hwindow, hsound⟩ := (trusted_time sampleExchange).1 _ _ hlater hsample
  obtain ⟨anchor, w, hanchor, hw⟩ := hwindow.mpr (by decide)
  exact ⟨anchor, w, hanchor, hw, (hsound anchor w hanchor hw).1⟩

end Pokrov.AppShell
