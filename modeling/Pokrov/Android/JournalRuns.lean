import Pokrov.Android.JournalReading

/-!
# Runs of the operational journal

Records are appended to an empty store, and any operation on the files may fail. The files
always hold the last of the records that were appended, each file within its limit, and the
reader returns the candidate probes among them.
-/

namespace Pokrov.Android.OperationalJournal

open Dart Scanning

-- what a line looks like does not matter here
attribute [local irreducible] AndroidOperationalRecord.toJsonLine

/-- The files, and the records that were appended to them. -/
structure Journal where
  files : Files
  appended : List AndroidOperationalRecord

namespace Journal

def empty : Journal := ⟨⟨none, none⟩, []⟩

/-- A record is offered to the store. -/
def after (store : AndroidOperationalJournalStore) (j : Journal)
    (attempt : AndroidOperationalRecord × Disk) : Journal :=
  let done := store.append j.files attempt.1 attempt.2
  ⟨done.1, if done.2 then j.appended ++ [attempt.1] else j.appended⟩

def run (store : AndroidOperationalJournalStore) (attempts : List (AndroidOperationalRecord × Disk)) :
    Journal := attempts.foldl (after store) empty

end Journal

/-- The files hold these records, within their limit. -/
structure Holds (store : AndroidOperationalJournalStore) (files : Files)
    (previous current : List AndroidOperationalRecord) : Prop where
  previous_content : files.previousFile.getD [] = contentOf previous
  current_content : files.currentFile.getD [] = contentOf current
  previous_le : utf8Length (contentOf previous) ≤ store.maxFileBytes
  current_le : utf8Length (contentOf current) ≤ store.maxFileBytes

/-- The records in the files are the last ones. -/
def Keeps (store : AndroidOperationalJournalStore) (j : Journal) : Prop :=
  ∃ older previous current, j.appended = older ++ (previous ++ current) ∧
    Holds store j.files previous current

section

variable {store : AndroidOperationalJournalStore} {files : Files}
  {previous current : List AndroidOperationalRecord}

theorem utf8Length_payload (r : AndroidOperationalRecord) :
    utf8Length (r.toJsonLine ++ [newline]) ≤ minMaxFileBytes := by
  rw [← contentOf_singleton, utf8Length_contentOf, contentOf_singleton]
  have hline := length_line r
  simpa using hline

/-- A rotation that succeeds has moved the current records, and one that fails has at most
dropped the previous ones. -/
theorem rotate_holds (h : Holds store files previous current) (disk : Disk) :
    ((rotate files disk).2 = true → Holds store (rotate files disk).1 current []) ∧
      ((rotate files disk).2 = false →
        Holds store (rotate files disk).1 previous current ∨
          Holds store (rotate files disk).1 [] current) := by
  have hempty : utf8Length (contentOf []) ≤ store.maxFileBytes := Nat.zero_le _
  unfold rotate
  split
  · constructor
    · intro hdone
      cases hdone
    · exact fun _ => Or.inl h
  · cases hcurrent : files.currentFile with
    | none =>
      have hnil : contentOf current = [] := by
        rw [← h.current_content, hcurrent]
        rfl
      constructor
      · exact fun _ => ⟨by simp [hnil], rfl, h.current_le, hempty⟩
      · intro hdone
        cases hdone
    | some content =>
      have hcontent : content = contentOf current := by
        rw [← h.current_content, hcurrent]
        rfl
      dsimp only
      split
      · constructor
        · exact fun _ => ⟨hcontent, rfl, h.current_le, hempty⟩
        · intro hdone
          cases hdone
      · constructor
        · intro hdone
          cases hdone
        · exact fun _ => Or.inr ⟨rfl, hcontent, hempty, h.current_le⟩

/-- What the last step of `append` does to the files that it finds. -/
theorem write_holds (h : Holds store files previous current) {r : AndroidOperationalRecord}
    (hroom : utf8Length (contentOf current) + utf8Length (r.toJsonLine ++ [newline]) ≤
      store.maxFileBytes) :
    Holds store ⟨some (files.currentFile.getD [] ++ (r.toJsonLine ++ [newline])), files.previousFile⟩
        previous (current ++ [r]) ∧
      Holds store ⟨some (files.currentFile.getD []), files.previousFile⟩ previous current := by
  have hcontent : contentOf (current ++ [r]) = contentOf current ++ (r.toJsonLine ++ [newline]) := by
    rw [contentOf_append, contentOf_singleton]
  constructor
  · refine ⟨h.previous_content, ?_, h.previous_le, ?_⟩
    · rw [hcontent, ← h.current_content]
      rfl
    · have hlength := utf8Length_contentOf (current ++ [r])
      have hlast := utf8Length_contentOf [r]
      rw [contentOf_singleton] at hlast
      rw [utf8Length_contentOf, hlast] at hroom
      rw [hlength, hcontent, List.length_append]
      exact hroom
  · exact ⟨h.previous_content, h.current_content, h.previous_le, h.current_le⟩

/-- After a record was offered: it was added behind the current ones, with or without a
rotation, or it was not, and at most the previous records are gone. -/
theorem append_holds (h : Holds store files previous current) (r : AndroidOperationalRecord)
    (disk : Disk) :
    ((store.append files r disk).2 = true →
      Holds store (store.append files r disk).1 previous (current ++ [r]) ∨
        Holds store (store.append files r disk).1 current [r]) ∧
    ((store.append files r disk).2 = false →
      Holds store (store.append files r disk).1 previous current ∨
        Holds store (store.append files r disk).1 [] current ∨
          Holds store (store.append files r disk).1 current []) := by
  have hpayload := utf8Length_payload r
  have hadmitted := store.admitted
  have hrecord : ¬ maxRecordBytes < utf8Length (r.toJsonLine ++ [newline]) := by
    unfold maxRecordBytes
    unfold minMaxFileBytes at hpayload
    omega
  -- a fresh file has room for any record
  have hfresh : utf8Length (contentOf []) + utf8Length (r.toJsonLine ++ [newline]) ≤
      store.maxFileBytes := by
    rw [utf8Length_contentOf, contentOf_nil, List.length_nil]
    omega
  unfold AndroidOperationalJournalStore.append
  simp only [hrecord, if_false]
  cases hfull : files.currentFile.any fun content =>
      decide (store.maxFileBytes < utf8Length content + utf8Length (r.toJsonLine ++ [newline])) with
  | true =>
    simp only [if_true]
    obtain ⟨hmoved, hkept⟩ := rotate_holds h disk
    cases hdone : (rotate files disk).2 with
    | false =>
      simp only [if_true, hdone]
      constructor
      · intro hfalse
        cases hfalse
      · intro _
        rcases hkept hdone with hsame | hdropped
        · exact Or.inl hsame
        · exact Or.inr (Or.inl hdropped)
    | true =>
      have hrotated := hmoved hdone
      obtain ⟨hwritten, hopened⟩ := write_holds hrotated hfresh
      simp only [Bool.true_eq_false, if_false]
      split
      · exact ⟨fun hfalse => absurd hfalse (by simp), fun _ => Or.inr (Or.inr hrotated)⟩
      · split
        · exact ⟨fun _ => Or.inr hwritten, fun hfalse => absurd hfalse (by simp)⟩
        · exact ⟨fun hfalse => absurd hfalse (by simp), fun _ => Or.inr (Or.inr hopened)⟩
  | false =>
    have hroom : utf8Length (contentOf current) + utf8Length (r.toJsonLine ++ [newline]) ≤
        store.maxFileBytes := by
      have hcontent := h.current_content
      cases hcurrent : files.currentFile with
      | none =>
        rw [hcurrent] at hcontent
        rw [← hcontent]
        exact hfresh
      | some content =>
        rw [hcurrent] at hcontent hfull
        have hcontent' : content = contentOf current := hcontent
        rw [hcontent'] at hfull
        exact Nat.not_lt.mp (of_decide_eq_false hfull)
    obtain ⟨hwritten, hopened⟩ := write_holds h hroom
    simp only [Bool.false_eq_true, if_false, Bool.true_eq_false]
    split
    · exact ⟨fun hfalse => absurd hfalse (by simp), fun _ => Or.inl h⟩
    · split
      · exact ⟨fun _ => Or.inl hwritten, fun hfalse => absurd hfalse (by simp)⟩
      · exact ⟨fun hfalse => absurd hfalse (by simp), fun _ => Or.inl hopened⟩

theorem readContent_nil (records : List Diagnostic) : readContent records [] = records := rfl

/-- The reader returns the diagnostics of the records in the files. -/
theorem read_holds (h : Holds store files previous current) :
    store.readCandidateDiagnostics files =
      some (lastOf maxCandidateDiagnostics ((previous ++ current).filterMap diagnosticOf)) := by
  have hfile : ∀ (before : List Diagnostic) (file : Option Text) (records : List AndroidOperationalRecord),
      file.getD [] = contentOf records → utf8Length (contentOf records) ≤ store.maxFileBytes →
        store.readFile (lastOf maxCandidateDiagnostics before) file =
          some (lastOf maxCandidateDiagnostics (before ++ records.filterMap diagnosticOf)) := by
    intro before file records hcontent hle
    have hread := readContent_contentOf before records
    cases file with
    | none =>
      rw [← hcontent, Option.getD_none, readContent_nil] at hread
      simp only [AndroidOperationalJournalStore.readFile, ← hread]
    | some content =>
      have hcontent' : content = contentOf records := hcontent
      rw [hcontent']
      simp [AndroidOperationalJournalStore.readFile, Nat.not_lt.mpr hle, hread]
  have hprevious := hfile [] files.previousFile previous h.previous_content h.previous_le
  have hcurrent := hfile (previous.filterMap diagnosticOf) files.currentFile current
    h.current_content h.current_le
  have hempty : lastOf maxCandidateDiagnostics ([] : List Diagnostic) = [] := by simp [lastOf]
  rw [hempty, List.nil_append] at hprevious
  rw [AndroidOperationalJournalStore.readCandidateDiagnostics, Option.bind_eq_bind, hprevious,
    Option.bind_some, hcurrent, List.filterMap_append]

end

theorem Keeps.after {store : AndroidOperationalJournalStore} {j : Journal} (h : Keeps store j)
    (attempt : AndroidOperationalRecord × Disk) : Keeps store (j.after store attempt) := by
  obtain ⟨older, previous, current, happended, hholds⟩ := h
  obtain ⟨hdone, hfailed⟩ := append_holds hholds attempt.1 attempt.2
  unfold Journal.after
  cases hresult : (store.append j.files attempt.1 attempt.2).2 with
  | true =>
    rcases hdone hresult with hadded | hrotated
    · exact ⟨older, previous, current ++ [attempt.1], by simp [happended, hresult], hadded⟩
    · exact ⟨older ++ previous, current, [attempt.1], by simp [happended, hresult], hrotated⟩
  | false =>
    rcases hfailed hresult with hsame | hdropped | hrotated
    · exact ⟨older, previous, current, by simp [happended, hresult], hsame⟩
    · exact ⟨older ++ previous, [], current, by simp [happended, hresult], hdropped⟩
    · exact ⟨older ++ previous, current, [], by simp [happended, hresult], hrotated⟩

theorem keeps_run (store : AndroidOperationalJournalStore)
    (attempts : List (AndroidOperationalRecord × Disk)) : Keeps store (Journal.run store attempts) := by
  induction attempts using List.reverseRecOn with
  | nil =>
    have hempty : utf8Length (contentOf []) ≤ store.maxFileBytes := Nat.zero_le _
    exact ⟨[], [], [], rfl, rfl, rfl, hempty, hempty⟩
  | append_singleton attempts attempt ih =>
    rw [Journal.run, List.foldl_append]
    exact ih.after attempt

/-- On a disk that works every record is appended. -/
theorem append_works {store : AndroidOperationalJournalStore} {files : Files}
    (r : AndroidOperationalRecord) : (store.append files r ⟨true, true, true, true⟩).2 = true := by
  have hpayload := utf8Length_payload r
  have hrecord : ¬ maxRecordBytes < utf8Length (r.toJsonLine ++ [newline]) := by
    unfold maxRecordBytes
    unfold minMaxFileBytes at hpayload
    omega
  have hrotate : (rotate files ⟨true, true, true, true⟩).2 = true := by
    unfold rotate
    cases files.currentFile <;> simp
  unfold AndroidOperationalJournalStore.append
  simp only [hrecord, if_false]
  cases hfull : files.currentFile.any fun content =>
      decide (store.maxFileBytes < utf8Length content + utf8Length (r.toJsonLine ++ [newline])) with
  | true => simp [hrotate]
  | false => simp

theorem appended_works (store : AndroidOperationalJournalStore)
    (attempts : List (AndroidOperationalRecord × Disk))
    (h : ∀ attempt ∈ attempts, attempt.2 = ⟨true, true, true, true⟩) :
    (Journal.run store attempts).appended = attempts.map (·.1) := by
  induction attempts using List.reverseRecOn with
  | nil => rfl
  | append_singleton attempts attempt ih =>
    have hbefore := ih fun x hx => h x (by simp [hx])
    have hworks := h attempt (by simp)
    rw [Journal.run, List.foldl_append]
    show ((Journal.run store attempts).after store attempt).appended = _
    unfold Journal.after
    simp only [hworks, append_works, if_true, hbefore, List.map_append, List.map_cons,
      List.map_nil]

/-- After any appends to an empty store, failed ones among them, the two files hold lines of
the last records that were appended, and the reader does not throw and returns the last
candidate probes among these with what they said. Without failures all are appended. -/
theorem journal_reads (store : AndroidOperationalJournalStore)
    (attempts : List (AndroidOperationalRecord × Disk)) :
    (∃ older previous current,
      (Journal.run store attempts).appended = older ++ (previous ++ current) ∧
      (Journal.run store attempts).files.previousFile.getD [] = contentOf previous ∧
      (Journal.run store attempts).files.currentFile.getD [] = contentOf current ∧
      store.readCandidateDiagnostics (Journal.run store attempts).files =
        some (lastOf maxCandidateDiagnostics ((previous ++ current).filterMap diagnosticOf))) ∧
    ((∀ attempt ∈ attempts, attempt.2 = ⟨true, true, true, true⟩) →
      (Journal.run store attempts).appended = attempts.map (·.1)) := by
  obtain ⟨older, previous, current, happended, hholds⟩ := keeps_run store attempts
  constructor
  · exact ⟨older, previous, current, happended, hholds.previous_content, hholds.current_content,
      read_holds hholds⟩
  · exact appended_works store attempts

end Pokrov.Android.OperationalJournal
