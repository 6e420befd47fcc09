import Pokrov.AppShell.TransportManifestTime
import Pokrov.AppShell.TransportManifestVerifier

/-!
# Times in a record

The texts of times that the store writes are read back: the full text of a time,
and the text of a floor, which is cut to the second and has room for the years
1 to 9999 only.
-/

namespace Pokrov.AppShell

open Dart

theorem floorTime_eq (d : DateTime) : floorTime d = d.isoSeconds ++ text "Z" := by
  have htake : (d.isoSeconds ++ (d.isoFraction ++ text "Z")).takeWhile (· ≠ unit '.') =
      d.isoSeconds := DateTime.takeWhile_isoSeconds (by decide) (by decide)
  unfold floorTime DateTime.toIso8601String
  rw [List.append_assoc]
  exact congrArg (· ++ text "Z") htake

/-- Four digits, and so on. -/
theorem matchesPattern_floorTime {d : DateTime} (h1 : 1 ≤ d.year) (h2 : d.year ≤ 9999) :
    matchesPattern "0000-00-00T00:00:00Z" (floorTime d) = true := by
  have hfour : -9999 ≤ d.year ∧ d.year ≤ 9999 := by omega
  have hsign : ¬ d.year < 0 := by omega
  rw [floorTime_eq, DateTime.isoSeconds, DateTime.yearText, if_pos hfour, if_neg hsign]
  simp only [pad, List.nil_append, List.cons_append, matchesPattern]
  simp [isDigit_digit, text, unit]

theorem readFraction_z : DateTime.readFraction (text "Z") = some (0, text "Z") := rfl

/-- The time of a floor is read as the start of its second. -/
theorem time_floorTime {d : DateTime} (h1 : 1 ≤ d.year) (h2 : d.year ≤ 9999) :
    time (.string (floorTime d)) = .ok d.truncated := by
  have hparse : DateTime.tryParse (floorTime d) = some d.truncated := by
    rw [floorTime_eq, DateTime.tryParse_isoSeconds readFraction_z, Int.natCast_zero, Int.add_zero,
      ← DateTime.truncated_micros, DateTime.ofMicros_micros]
  have htext : d.truncated.toIso8601String = withMilliseconds (floorTime d) := by
    have htake : (d.isoSeconds ++ [unit 'Z']).takeWhile (· ≠ unit 'Z') = d.isoSeconds :=
      DateTime.takeWhile_isoSeconds (by decide) (by decide)
    unfold DateTime.toIso8601String DateTime.isoFraction withMilliseconds
    rw [floorTime_eq, DateTime.truncated_isoSeconds, DateTime.truncated_fraction]
    have hz : d.isoSeconds ++ text "Z" = d.isoSeconds ++ unit 'Z' :: [] := rfl
    rw [hz, htake, List.append_assoc]
    rfl
  have hyear : ¬ (d.truncated.year < 1 ∨
      d.truncated.toIso8601String ≠ withMilliseconds (floorTime d)) := by
    rw [DateTime.truncated_year, htext, not_or, not_not]
    exact ⟨by omega, rfl⟩
  simp only [time, if_pos (matchesPattern_floorTime h1 h2), hparse, if_neg hyear]

theorem storedTime_toIso8601String (d : DateTime) :
    TransportTimeAnchor.storedTime (.string d.toIso8601String) = some d := by
  simp only [TransportTimeAnchor.storedTime, DateTime.tryParse_toIso8601String]
  exact if_pos (decide_eq_true rfl)

theorem length_yearText_of_gt {year : Int} (h : 9999 < year) : (DateTime.yearText year).length = 7 := by
  have hsix : ¬ (-9999 ≤ year ∧ year ≤ 9999) := by omega
  have hsign : ¬ year < 0 := by omega
  rw [DateTime.yearText, if_neg hsix, if_neg hsign, List.length_append, length_pad]
  rfl

theorem length_isoSeconds (d : DateTime) :
    d.isoSeconds.length = (DateTime.yearText d.year).length + 15 := by
  unfold DateTime.isoSeconds
  simp only [List.length_append, List.length_cons, length_pad]

/-- A time that is accepted is of the years 1 to 9999. -/
theorem year_of_time {value : Document} {d : DateTime} (h : time value = .ok d) :
    1 ≤ d.year ∧ d.year ≤ 9999 := by
  unfold time at h
  split at h
  · rename_i s
    split at h
    · rename_i hpattern
      split at h
      · cases h
      · rename_i parsed hparsed
        split at h
        · cases h
        · rename_i haccepted
          cases h
          rw [not_or, not_not] at haccepted
          obtain ⟨hfirst, htext⟩ := haccepted
          have hlength : s.length = 20 := by
            unfold matchesPattern at hpattern
            rw [Bool.and_eq_true, decide_eq_true_eq] at hpattern
            exact hpattern.1
          have hwritten : (withMilliseconds s).length ≤ 25 := by
            have htake : (s.takeWhile (· ≠ unit 'Z')).length ≤ s.length :=
              (List.takeWhile_prefix _).length_le
            unfold withMilliseconds
            rw [List.length_append]
            have hend : (text ".000Z").length = 5 := rfl
            omega
          have hiso : d.toIso8601String.length =
              (DateTime.yearText d.year).length + 15 + d.isoFraction.length + 1 := by
            unfold DateTime.toIso8601String
            rw [List.length_append, List.length_append, length_isoSeconds]
            rfl
          have hfraction : 4 ≤ d.isoFraction.length := by
            unfold DateTime.isoFraction
            rw [List.length_cons, List.length_append, length_pad]
            omega
          refine ⟨by omega, ?_⟩
          by_contra hlast
          have hyear : (DateTime.yearText d.year).length = 7 :=
            length_yearText_of_gt (Int.not_le.mp hlast)
          rw [htext] at hiso
          omega
    · cases h
  · cases h

end Pokrov.AppShell
