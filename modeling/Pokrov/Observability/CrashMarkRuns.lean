import Pokrov.Lib.Runs
import Pokrov.Observability.CrashMarker

/-!
# A clean exit and a crash at the same time

`beginRun`, and then one `markCleanExit` beside one `markCrash` or `markCrashSynchronously`.
Each call that `_write` awaits is a step of its own. No file operation fails by itself, but a
`.next` file that the other call has moved or deleted is not found.
-/

namespace Pokrov.Observability

open Dart JsonText

inductive FileSystemException
  | pathNotFound

/-- The bytes of the marker, and of the file `.next` beside it. -/
structure Directory where
  file : Option (List UInt8)
  next : Option (List UInt8)

namespace Directory

def delete (d : Directory) : Except FileSystemException Directory :=
  if d.next.isSome then .ok { d with next := none } else .error .pathNotFound

def writeAsString (d : Directory) (encoded : Text) : Directory :=
  { d with next := some (utf8Encode encoded) }

def rename (d : Directory) : Except FileSystemException Directory :=
  match d.next with
  | some bytes => .ok ⟨some bytes, none⟩
  | none => .error .pathNotFound

/-- `_writeSynchronously` past the guard. It is `_write` as well, where nothing comes between
the calls of it. -/
def replace (d : Directory) (encoded : Text) : Except FileSystemException Directory := do
  let d ← if d.next.isSome then d.delete else .ok d
  (d.writeAsString encoded).rename

/-- Every file that is there is as it should be, and the marker is there. -/
def Holds (P : List UInt8 → Prop) (d : Directory) : Prop :=
  (∃ bytes ∈ d.file, P bytes) ∧ ∀ bytes ∈ d.next, P bytes

theorem replace_eq (d : Directory) (encoded : Text) :
    d.replace encoded = .ok ⟨some (utf8Encode encoded), none⟩ := by
  cases hnext : d.next with
  | none => simp [replace, hnext, writeAsString, rename, bind, Except.bind]
  | some bytes => simp [replace, hnext, delete, writeAsString, rename, bind, Except.bind]

end Directory

/-- Which call of `_write` comes next. -/
inductive Awaiting
  | create | existsFile | delete | writeAsString | rename
deriving DecidableEq

/-- Makes the call, and says which comes after it. -/
def Awaiting.perform (encoded : Text) (d : Directory) :
    Awaiting → Except FileSystemException (Directory × Option Awaiting)
  | .create => .ok (d, some .existsFile)
  | .existsFile => .ok (d, some (if d.next.isSome then .delete else .writeAsString))
  | .delete => do
      let d ← d.delete
      return (d, some .writeAsString)
  | .writeAsString => .ok (d.writeAsString encoded, some .rename)
  | .rename => do
      let d ← d.rename
      return (d, none)

/-- Where a call of the store stands. -/
inductive Progress
  | waiting
  | writing (encoded : Text) (next : Awaiting)
  | returned
  | thrown
deriving DecidableEq

namespace PreviousExitMarkerStore

variable (store : PreviousExitMarkerStore)

/-- What changes in a store, and its files. -/
structure Exits where
  activeRunId : Option Text
  crashMarked : Bool
  writeErrors : Nat
  directory : Directory

/-! ## Calls -/

def activeMarker (runId : Text) (now : DateTime) : Marker where
  state := "active"
  runId := runId
  occurredAt := now
  errorCode := none
  crashSignature := none
  breadcrumbs := []

/-- `beginRun`, past its `readPrevious`, which changes nothing. Nothing is returned where it
throws. -/
def beginRun (runId : Text) (now : DateTime) (s : Exits) : Option Exits :=
  if isUuid runId = true then
    let s := { s with activeRunId := some runId, crashMarked := false }
    let encoded := (activeMarker runId now).encoded
    if store.containsForbiddenMaterial encoded then none
    else match s.directory.replace encoded with
      | .ok directory => some { s with directory }
      | .error _ => some { s with writeErrors := s.writeErrors + 1 }
  else none

/-- The arguments of `markCleanExit`, with the time of the clock. -/
structure CleanExit where
  breadcrumbs : List OperationalBreadcrumb
  now : DateTime

/-- The arguments of `markCrash` or `markCrashSynchronously`. -/
structure CrashMark where
  errorCode : Text
  crashSignature : Text
  breadcrumbs : List OperationalBreadcrumb
  now : DateTime
  synchronously : Bool

def CleanExit.marker (clean : CleanExit) (runId : Text) : Marker where
  state := "clean"
  runId := runId
  occurredAt := clean.now
  errorCode := none
  crashSignature := none
  breadcrumbs := store.retained clean.breadcrumbs

def CrashMark.marker (crash : CrashMark) (runId : Text) : Marker where
  state := "crash"
  runId := runId
  occurredAt := crash.now
  errorCode := some crash.errorCode
  crashSignature := some crash.crashSignature
  breadcrumbs := store.retained crash.breadcrumbs

/-- `_write` up to its first call. -/
def startWrite (encoded : Text) : Progress :=
  if store.containsForbiddenMaterial encoded then .thrown else .writing encoded .create

/-- `markCleanExit` up to its first call. -/
def markCleanExit (clean : CleanExit) (s : Exits) : Progress :=
  match s.activeRunId with
  | none => .returned
  | some runId =>
    if s.crashMarked then .returned else store.startWrite (clean.marker store runId).encoded

def isCrashCode (code : Text) : Bool := anyOf ["CRASH-001", "CRASH-002", "CRASH-003"] code

/-- `markCrash` up to its first call, and all of `markCrashSynchronously`. -/
def markCrash (crash : CrashMark) (s : Exits) : Exits × Progress :=
  match s.activeRunId with
  | none => (s, .returned)
  | some runId =>
    if isCrashCode crash.errorCode = false then (s, .thrown)
    else if isSignature crash.crashSignature = false then (s, .thrown)
    else
      let s := { s with crashMarked := true }
      let encoded := (crash.marker store runId).encoded
      if crash.synchronously = false then (s, store.startWrite encoded)
      else if store.containsForbiddenMaterial encoded then (s, .thrown)
      else match s.directory.replace encoded with
        | .ok directory => ({ s with directory }, .returned)
        | .error _ => ({ s with writeErrors := s.writeErrors + 1 }, .returned)

/-- One call of `_write`. -/
def advance (encoded : Text) (next : Awaiting) (s : Exits) : Exits × Progress :=
  match next.perform encoded s.directory with
  | .ok (directory, some next) => ({ s with directory }, .writing encoded next)
  | .ok (directory, none) => ({ s with directory }, .returned)
  | .error _ => ({ s with writeErrors := s.writeErrors + 1 }, .returned)

section Advance

variable {encoded : Text} {bytes : List UInt8} {s : Exits}

theorem advance_delete (h : s.directory.next = some bytes) : advance encoded .delete s =
    ({ s with directory := ⟨s.directory.file, none⟩ }, .writing encoded .writeAsString) := by
  simp [advance, Awaiting.perform, Directory.delete, h, bind, Except.bind, pure, Except.pure]

theorem advance_rename (h : s.directory.next = some bytes) : advance encoded .rename s =
    ({ s with directory := ⟨some bytes, none⟩ }, .returned) := by
  simp [advance, Awaiting.perform, Directory.rename, h, bind, Except.bind, pure, Except.pure]

/-- A file that is not there is an error, and the end of the call. -/
theorem advance_missing {next : Awaiting} (h : s.directory.next = none)
    (hnext : next = .delete ∨ next = .rename) : advance encoded next s =
      ({ s with writeErrors := s.writeErrors + 1 }, .returned) := by
  rcases hnext with rfl | rfl
  · simp [advance, Awaiting.perform, Directory.delete, h, bind, Except.bind]
  · simp [advance, Awaiting.perform, Directory.rename, h, bind, Except.bind]

/-- A call of `_write` leaves bytes that were there or its own. -/
theorem holds_advance {P : List UInt8 → Prop} (h : s.directory.Holds P)
    (hencoded : P (utf8Encode encoded)) (next : Awaiting) :
    (advance encoded next s).1.activeRunId = s.activeRunId ∧
      (advance encoded next s).1.directory.Holds P ∧
      ∀ encoded' next', (advance encoded next s).2 = .writing encoded' next' →
        encoded' = encoded := by
  have hsame : ∀ {next₁ next₂ encoded'}, Progress.writing encoded next₁ = .writing encoded' next₂ →
      encoded' = encoded := by
    rintro _ _ _ ⟨⟩
    rfl
  cases next with
  | create => exact ⟨rfl, h, fun _ _ => hsame⟩
  | existsFile => exact ⟨rfl, h, fun _ _ => hsame⟩
  | writeAsString =>
    refine ⟨rfl, ⟨h.1, ?_⟩, fun _ _ => hsame⟩
    rintro bytes ⟨⟩
    exact hencoded
  | delete =>
    cases hnext : s.directory.next with
    | none =>
      rw [advance_missing hnext (.inl rfl)]
      exact ⟨rfl, h, nofun⟩
    | some bytes =>
      rw [advance_delete hnext]
      exact ⟨rfl, ⟨h.1, nofun⟩, fun _ _ => hsame⟩
  | rename =>
    cases hnext : s.directory.next with
    | none =>
      rw [advance_missing hnext (.inr rfl)]
      exact ⟨rfl, h, nofun⟩
    | some bytes =>
      rw [advance_rename hnext]
      exact ⟨rfl, ⟨⟨bytes, rfl, h.2 bytes hnext⟩, nofun⟩, nofun⟩

end Advance

/-! ## Interleavings -/

/-- The store and both calls. -/
structure Race extends Exits where
  clean : Progress
  crash : Progress

/-- Neither call was made. -/
def Race.start (s : Exits) : Race := ⟨s, .waiting, .waiting⟩

/-- Whose turn it is. -/
inductive Turn
  | clean | crash

/-- A call starts, or makes its next step. -/
def step (clean : CleanExit) (crash : CrashMark) (r : Race) : Turn → Race
  | .clean =>
    match r.clean with
    | .waiting => { r with clean := store.markCleanExit clean r.toExits }
    | .writing encoded next =>
      let (s, progress) := advance encoded next r.toExits
      { r with toExits := s, clean := progress }
    | _ => r
  | .crash =>
    match r.crash with
    | .waiting =>
      let (s, progress) := store.markCrash crash r.toExits
      { r with toExits := s, crash := progress }
    | .writing encoded next =>
      let (s, progress) := advance encoded next r.toExits
      { r with toExits := s, crash := progress }
    | _ => r

/-- The crash mark is about to make this call. -/
def Race.crashAt (r : Race) (next : Awaiting) : Bool :=
  match r.crash with
  | .writing _ next' => next' = next
  | _ => false

/-- The clean exit writes nothing after the crash mark has written, and does not take away the
file that the crash mark is about to delete or to rename. -/
def Race.yields (r : Race) : Turn → Prop
  | .crash => True
  | .clean =>
    match r.clean with
    | .writing _ .delete => r.crashAt .rename = false
    | .writing _ .writeAsString => r.crashAt .rename = false ∧ r.crash ≠ .returned
    | .writing _ .rename => r.crashAt .delete = false
    | _ => True

/-! ## The invariant -/

variable {store} {runId : Text} {now : DateTime} {clean : CleanExit} {crash : CrashMark}

/-- The crash mark has written its file. -/
def Race.written (r : Race) : Bool := r.crashAt .rename || decide (r.crash = .returned)

/-- The arguments do not make the crash mark throw. -/
def CrashMark.IsAccepted (crash : CrashMark) : Prop :=
  isCrashCode crash.errorCode = true ∧ isSignature crash.crashSignature = true

/-- The bytes of the marker of the run, of the clean exit, or of a crash mark that does not
throw. -/
def IsMarker (store : PreviousExitMarkerStore) (runId : Text) (now : DateTime) (clean : CleanExit)
    (crash : CrashMark) (bytes : List UInt8) : Prop :=
  bytes = utf8Encode (activeMarker runId now).encoded ∨
    bytes = utf8Encode (clean.marker store runId).encoded ∨
    bytes = utf8Encode (crash.marker store runId).encoded ∧ crash.IsAccepted

/-- What every interleaving keeps: each call writes its own marker, and the files hold markers. -/
structure Race.Marked (store : PreviousExitMarkerStore) (runId : Text) (now : DateTime)
    (clean : CleanExit) (crash : CrashMark) (r : Race) : Prop where
  run : r.activeRunId = some runId
  clean_eq : ∀ encoded next, r.clean = .writing encoded next →
    encoded = (clean.marker store runId).encoded
  crash_eq : ∀ encoded next, r.crash = .writing encoded next →
    encoded = (crash.marker store runId).encoded ∧ crash.IsAccepted
  holds : r.directory.Holds (IsMarker store runId now clean crash)

/-- What the two files hold, by how far the crash mark is: before it has written there is no
file `.next` but that of the clean exit, and once it has written there is its own. -/
structure Race.Inv (store : PreviousExitMarkerStore) (runId : Text) (now : DateTime)
    (clean : CleanExit) (crash : CrashMark) (r : Race) : Prop extends
    Race.Marked store runId now clean crash r where
  before : r.written = false → r.directory.next = none ∨
    r.directory.next = some (utf8Encode (clean.marker store runId).encoded) ∧
      r.clean = .writing (clean.marker store runId).encoded .rename
  deleting : r.crashAt .delete = true → r.directory.next ≠ none
  moving : r.crashAt .rename = true →
    r.directory.next = some (utf8Encode (crash.marker store runId).encoded) ∨
      r.directory = ⟨some (utf8Encode (crash.marker store runId).encoded), none⟩
  returned : r.crash = .returned → crash.IsAccepted ∧
    r.directory = ⟨some (utf8Encode (crash.marker store runId).encoded), none⟩

theorem Race.Inv.start {s : Exits} (hrun : s.activeRunId = some runId)
    (hfile : s.directory = ⟨some (utf8Encode (activeMarker runId now).encoded), none⟩) :
    (Race.start s).Inv store runId now clean crash where
  run := hrun
  clean_eq := nofun
  crash_eq := nofun
  holds := by
    rw [Race.start, hfile]
    exact ⟨⟨_, rfl, .inl rfl⟩, nofun⟩
  before := fun _ => .inl (by simp [Race.start, hfile])
  deleting := nofun
  moving := nofun
  returned := nofun

variable {r : Race}

/-- What a crash mark comes to before its first call, or all of it when it is synchronous. -/
theorem markCrash_eq (store : PreviousExitMarkerStore) (crash : CrashMark) {s : Exits}
    (hrun : s.activeRunId = some runId) :
    store.markCrash crash s = (s, .thrown) ∨
      crash.IsAccepted ∧
        (store.markCrash crash s = ({ s with crashMarked := true }, .thrown) ∨
          store.markCrash crash s = ({ s with crashMarked := true },
            .writing (crash.marker store runId).encoded .create) ∨
          store.markCrash crash s = ({ s with
            crashMarked := true
            directory := ⟨some (utf8Encode (crash.marker store runId).encoded), none⟩ },
            .returned)) := by
  unfold markCrash
  simp only [hrun, Directory.replace_eq, startWrite]
  split_ifs with hcode hsignature <;> simp_all [CrashMark.IsAccepted]

theorem Race.Marked.step_clean (h : r.Marked store runId now clean crash) :
    (store.step clean crash r .clean).Marked store runId now clean crash := by
  cases hclean : r.clean with
  | waiting =>
    simp only [step, hclean]
    refine { h with clean_eq := ?_ }
    intro encoded next hprogress
    simp only [markCleanExit, h.run] at hprogress
    split at hprogress
    · cases hprogress
    · unfold startWrite at hprogress
      split at hprogress
      · cases hprogress
      · cases hprogress
        rfl
  | writing encoded next =>
    obtain rfl := h.clean_eq encoded next hclean
    obtain ⟨hrun, hholds, hsame⟩ := holds_advance h.holds (.inr (.inl rfl)) next
    simp only [step, hclean]
    exact { h with run := hrun.trans h.run, clean_eq := hsame, holds := hholds }
  | returned =>
    simp only [step, hclean]
    exact h
  | thrown =>
    simp only [step, hclean]
    exact h

theorem Race.Marked.step_crash (h : r.Marked store runId now clean crash) :
    (store.step clean crash r .crash).Marked store runId now clean crash := by
  cases hcrash : r.crash with
  | waiting =>
    simp only [step, hcrash]
    rcases markCrash_eq store crash h.run with heq | ⟨haccepted, heq | heq | heq⟩
    · rw [heq]
      exact { h with crash_eq := nofun }
    · rw [heq]
      exact { h with crash_eq := nofun }
    · rw [heq]
      exact { h with crash_eq := by rintro _ _ ⟨⟩; exact ⟨rfl, haccepted⟩ }
    · rw [heq]
      exact { h with
        crash_eq := nofun
        holds := ⟨⟨_, rfl, .inr (.inr ⟨rfl, haccepted⟩)⟩, nofun⟩ }
  | writing encoded next =>
    obtain ⟨rfl, haccepted⟩ := h.crash_eq encoded next hcrash
    obtain ⟨hrun, hholds, hsame⟩ := holds_advance h.holds (.inr (.inr ⟨rfl, haccepted⟩)) next
    simp only [step, hcrash]
    exact { h with
      run := hrun.trans h.run
      crash_eq := fun encoded next heq => ⟨hsame encoded next heq, haccepted⟩
      holds := hholds }
  | returned =>
    simp only [step, hcrash]
    exact h
  | thrown =>
    simp only [step, hcrash]
    exact h

theorem Race.Marked.step (h : r.Marked store runId now clean crash) (turn : Turn) :
    (store.step clean crash r turn).Marked store runId now clean crash := by
  cases turn with
  | clean => exact h.step_clean
  | crash => exact h.step_crash

/-- A step of the clean exit that leaves the files as they are. -/
theorem Race.Inv.pass_clean (h : r.Inv store runId now clean crash) {errors : Nat}
    {progress : Progress}
    (hmarked : Race.Marked store runId now clean crash
      { r with writeErrors := errors, clean := progress })
    (hrename : ∀ encoded, r.clean ≠ .writing encoded .rename ∨ r.directory.next = none) :
    Race.Inv store runId now clean crash { r with writeErrors := errors, clean := progress } where
  toMarked := hmarked
  before := fun hwritten => .inl (by
    rcases h.before hwritten with hnone | ⟨-, hclean⟩
    · exact hnone
    · rcases hrename (clean.marker store runId).encoded with hne | hnone
      · exact absurd hclean hne
      · exact hnone)
  deleting := h.deleting
  moving := h.moving
  returned := h.returned

theorem Race.Inv.step_clean (h : r.Inv store runId now clean crash) (hyields : r.yields .clean) :
    (store.step clean crash r .clean).Inv store runId now clean crash := by
  have hmarked := h.toMarked.step .clean
  cases hclean : r.clean with
  | waiting =>
    simp only [step, hclean] at hmarked ⊢
    exact h.pass_clean hmarked (fun encoded => .inl (by simp [hclean]))
  | returned =>
    simp only [step, hclean]
    exact h
  | thrown =>
    simp only [step, hclean]
    exact h
  | writing encoded next =>
    obtain rfl := h.clean_eq encoded next hclean
    simp only [step, hclean] at hmarked ⊢
    cases next with
    | create => exact h.pass_clean hmarked (fun _ => .inl (by simp [hclean]))
    | existsFile => exact h.pass_clean hmarked (fun _ => .inl (by simp [hclean]))
    | delete =>
      have hnext : r.directory.next = none := by
        have hat : r.crashAt .rename = false := by simpa [Race.yields, hclean] using hyields
        by_cases hreturned : r.crash = .returned
        · rw [(h.returned hreturned).2]
        · have hwritten : r.written = false := by simp [Race.written, hat, hreturned]
          rcases h.before hwritten with hnone | ⟨-, hrename⟩
          · exact hnone
          · rw [hclean] at hrename
            cases hrename
      rw [advance_missing hnext (.inl rfl)] at hmarked ⊢
      exact h.pass_clean hmarked (fun _ => .inr hnext)
    | writeAsString =>
      obtain ⟨hat, hreturned⟩ : r.crashAt .rename = false ∧ r.crash ≠ .returned := by
        simpa [Race.yields, hclean] using hyields
      exact {
        toMarked := hmarked
        before := fun _ => .inr ⟨rfl, rfl⟩
        deleting := nofun
        moving := fun hmoving => absurd (hat.symm.trans hmoving) (by simp)
        returned := fun h' => absurd h' hreturned }
    | rename =>
      cases hnext : r.directory.next with
      | none =>
        rw [advance_missing hnext (.inr rfl)] at hmarked ⊢
        exact h.pass_clean hmarked (fun _ => .inr hnext)
      | some bytes =>
        rw [advance_rename hnext] at hmarked ⊢
        have hat : r.crashAt .delete = false := by simpa [Race.yields, hclean] using hyields
        exact {
          toMarked := hmarked
          before := fun _ => .inl rfl
          deleting := fun hdelete => absurd (hat.symm.trans hdelete) (by simp)
          moving := by
            intro hmoving
            rcases h.moving hmoving with hsome | hmoved
            · exact .inr (by rw [Option.some.inj (hnext.symm.trans hsome)])
            · rw [hmoved] at hnext
              cases hnext
          returned := by
            intro hreturned
            rw [(h.returned hreturned).2] at hnext
            cases hnext }

/-- A step of the crash mark before it writes, that leaves the files as they are. -/
theorem Race.Inv.pass_crash (h : r.Inv store runId now clean crash) (hwritten : r.written = false)
    {marked : Bool} {progress : Progress}
    (hmarked : Race.Marked store runId now clean crash
      { r with crashMarked := marked, crash := progress })
    (hprogress : ∀ encoded next, progress = .writing encoded next → next ≠ .rename ∧
      (next = .delete → r.directory.next ≠ none)) (hreturned : progress ≠ .returned) :
    Race.Inv store runId now clean crash { r with crashMarked := marked, crash := progress } where
  toMarked := hmarked
  before := fun _ => h.before hwritten
  deleting := by
    intro hdelete
    cases progress with
    | writing encoded next =>
      exact (hprogress encoded next rfl).2 (of_decide_eq_true hdelete)
    | _ => cases hdelete
  moving := by
    intro hmoving
    cases progress with
    | writing encoded next =>
      exact absurd (of_decide_eq_true hmoving) (hprogress encoded next rfl).1
    | _ => cases hmoving
  returned := fun heq => absurd heq hreturned

/-- The crash mark has its marker in place and returns. -/
theorem Race.Inv.finish_crash {next : Race} (haccepted : crash.IsAccepted)
    (hmarked : next.Marked store runId now clean crash) (hreturned : next.crash = .returned)
    (hdirectory : next.directory = ⟨some (utf8Encode (crash.marker store runId).encoded), none⟩) :
    next.Inv store runId now clean crash where
  toMarked := hmarked
  before := by simp [Race.written, hreturned]
  deleting := by simp [Race.crashAt, hreturned]
  moving := by simp [Race.crashAt, hreturned]
  returned := fun _ => ⟨haccepted, hdirectory⟩

theorem Race.Inv.step_crash (h : r.Inv store runId now clean crash) :
    (store.step clean crash r .crash).Inv store runId now clean crash := by
  have hmarked := h.toMarked.step .crash
  cases hcrash : r.crash with
  | returned =>
    simp only [step, hcrash]
    exact h
  | thrown =>
    simp only [step, hcrash]
    exact h
  | waiting =>
    simp only [step, hcrash] at hmarked ⊢
    have hwritten : r.written = false := by simp [Race.written, Race.crashAt, hcrash]
    rcases markCrash_eq store crash h.run with heq | ⟨haccepted, heq | heq | heq⟩
    · rw [heq] at hmarked ⊢
      exact h.pass_crash hwritten hmarked nofun nofun
    · rw [heq] at hmarked ⊢
      exact h.pass_crash hwritten hmarked nofun nofun
    · rw [heq] at hmarked ⊢
      refine h.pass_crash hwritten hmarked ?_ nofun
      rintro encoded next ⟨⟩
      exact ⟨nofun, nofun⟩
    · rw [heq] at hmarked ⊢
      exact .finish_crash haccepted hmarked rfl rfl
  | writing encoded next =>
    obtain ⟨rfl, haccepted⟩ := h.crash_eq encoded next hcrash
    simp only [step, hcrash] at hmarked ⊢
    cases next with
    | create =>
      have hwritten : r.written = false := by simp [Race.written, Race.crashAt, hcrash]
      refine h.pass_crash hwritten hmarked ?_ nofun
      rintro encoded next ⟨⟩
      exact ⟨nofun, nofun⟩
    | existsFile =>
      have hwritten : r.written = false := by simp [Race.written, Race.crashAt, hcrash]
      refine h.pass_crash hwritten hmarked ?_ nofun
      rintro encoded next ⟨⟩
      refine ⟨?_, ?_⟩
      · split <;> nofun
      · intro hdelete hnone
        simp [hnone] at hdelete
    | delete =>
      obtain ⟨bytes, hnext⟩ := Option.ne_none_iff_exists'.mp
        (h.deleting (by simp [Race.crashAt, hcrash]))
      rw [advance_delete hnext] at hmarked ⊢
      exact {
        toMarked := hmarked
        before := fun _ => .inl rfl
        deleting := nofun
        moving := nofun
        returned := nofun }
    | writeAsString =>
      exact {
        toMarked := hmarked
        before := nofun
        deleting := nofun
        moving := fun _ => .inl rfl
        returned := nofun }
    | rename =>
      rcases h.moving (by simp [Race.crashAt, hcrash]) with hnext | hmoved
      · rw [advance_rename hnext] at hmarked ⊢
        exact .finish_crash haccepted hmarked rfl rfl
      · rw [advance_missing (by rw [hmoved]) (.inr rfl)] at hmarked ⊢
        exact .finish_crash haccepted hmarked rfl hmoved

theorem Race.Inv.step (h : r.Inv store runId now clean crash) {turn : Turn}
    (hyields : r.yields turn) :
    (store.step clean crash r turn).Inv store runId now clean crash := by
  cases turn with
  | clean => exact h.step_clean hyields
  | crash => exact h.step_crash

/-! ## What is read -/

theorem activeMarker_fits {runId : Text} (h : isUuid runId = true) (now : DateTime) :
    (utf8Encode (activeMarker runId now).encoded).length ≤ 64 * 1024 := by
  have hbytes := length_utf8Encode_le (activeMarker runId now).encoded
  have hrun := length_encodeString_le runId
  have htime := length_encodeString_le now.toIso8601String
  have hiso := now.length_toIso8601String_le
  have huuid := length_of_isUuid h
  have htext : (activeMarker runId now).encoded.length ≤
      400 + (encodeString runId).length + (encodeString now.toIso8601String).length := by
    simp only [Marker.encoded, Marker.json, activeMarker, jsonEncode, encodeFields, List.length_cons, List.length_append, formatUtc_eq, List.map_nil, encodeItems, optional, List.length_nil]
    have : (encodeString (text "schema_version")).length = 16 := rfl
    have : (encodeString (text "state")).length = 7 := rfl
    have : (encodeString (text "run_id")).length = 8 := rfl
    have : (encodeString (text "active")).length = 8 := rfl
    have : (encodeString (text "occurred_at_utc")).length = 17 := rfl
    have : (encodeString (text "error_code")).length = 12 := rfl
    have : (encodeString (text "crash_signature")).length = 17 := rfl
    have : (encodeString (text "breadcrumbs")).length = 13 := rfl
    have : (text "null").length = 4 := rfl
    have : (encodeInt 1).length = 1 := rfl
    omega
  omega

/-- A marker that can be read: its breadcrumbs are those of events, and it has at most 64 KiB. -/
def Marker.Fits (marker : Marker) : Prop :=
  (∀ item ∈ marker.breadcrumbs, IsRecorded item) ∧ (utf8Encode marker.encoded).length ≤ 64 * 1024

theorem kindOf_active : kindOf (text "active") = some .unclean := by decide

theorem kindOf_clean : kindOf (text "clean") = some .clean := by decide

theorem kindOf_crash : kindOf (text "crash") = some .crash := by decide

theorem length_retained (breadcrumbs : List OperationalBreadcrumb) :
    (store.retained breadcrumbs).length ≤ store.maximumBreadcrumbs := by
  unfold retained
  split
  · assumption
  · rw [List.length_drop]
    omega

theorem readPrevious_active (store : PreviousExitMarkerStore) (h : isUuid runId = true) :
    (store.readPrevious (some (utf8Encode (activeMarker runId now).encoded))).kind = .unclean := by
  have hsound : (activeMarker runId now).IsSound .unclean :=
    ⟨kindOf_active, h, rfl, rfl, rfl, by simp [activeMarker]⟩
  have hlength : (activeMarker runId now).breadcrumbs.length ≤ store.maximumBreadcrumbs :=
    Nat.zero_le store.maximumBreadcrumbs
  rw [readPrevious, hsound.readMarker hlength (activeMarker_fits h now)]
  rfl

theorem readPrevious_clean (store : PreviousExitMarkerStore) (h : isUuid runId = true)
    (hfits : (clean.marker store runId).Fits) :
    (store.readPrevious (some (utf8Encode (clean.marker store runId).encoded))).kind = .clean := by
  have hsound : (clean.marker store runId).IsSound .clean :=
    ⟨kindOf_clean, h, rfl, rfl, rfl, hfits.1⟩
  rw [readPrevious, hsound.readMarker (length_retained _) hfits.2]
  rfl

/-- The report of a crash mark. -/
def CrashMark.report (store : PreviousExitMarkerStore) (crash : CrashMark) (runId : Text) :
    PreviousExitReport where
  kind := .crash
  runId := runId
  occurredAtUtc := some crash.now
  errorCode := some crash.errorCode
  crashSignature := some crash.crashSignature
  breadcrumbs := store.retained crash.breadcrumbs

/-- The codes of a crash are known, and are told from other codes by how they start. -/
theorem isCrashCode_known {code : Text} (h : isCrashCode code = true) :
    isKnownCode code = true ∧ (text "CRASH-").isPrefixOf code = true := by
  simp only [isCrashCode, anyOf, List.any_cons, List.any_nil, Bool.or_false, Bool.or_eq_true,
    decide_eq_true_eq] at h
  rcases h with rfl | rfl | rfl <;>
    exact ⟨anyOf_text (by simp [knownOperationalErrorCodes]), by decide⟩

theorem readPrevious_crash (h : isUuid runId = true) (haccepted : crash.IsAccepted)
    (hfits : (crash.marker store runId).Fits) :
    store.readPrevious (some (utf8Encode (crash.marker store runId).encoded)) =
      crash.report store runId := by
  obtain ⟨hknown, hcrash⟩ := isCrashCode_known haccepted.1
  have hsound : (crash.marker store runId).IsSound .crash :=
    ⟨kindOf_crash, h, hknown, haccepted.2, by simp [agrees, CrashMark.marker, hcrash], hfits.1⟩
  rw [readPrevious, hsound.readMarker (length_retained _) hfits.2]
  rfl

/-! ## The mark is kept -/

theorem beginRun_eq_some {s s0 : Exits} (h : store.beginRun runId now s = some s0) :
    isUuid runId = true ∧ s0.activeRunId = some runId ∧
      s0.directory = ⟨some (utf8Encode (activeMarker runId now).encoded), none⟩ := by
  unfold beginRun at h
  simp only [Directory.replace_eq] at h
  split_ifs at h with huuid
  cases h
  exact ⟨huuid, rfl, rfl⟩

/-- **The crash mark.** After `beginRun` no marker is corrupt, in any interleaving. In one in
which the clean exit yields to a crash mark that has written, the marker is that of the crash
once the crash mark has returned. -/
theorem crash_kept (store : PreviousExitMarkerStore) {runId : Text} {now : DateTime} {s s₀ : Exits}
    (hbegin : store.beginRun runId now s = some s₀) {clean : CleanExit} {crash : CrashMark}
    (hclean : (clean.marker store runId).Fits) (hcrash : (crash.marker store runId).Fits)
    (turns : List Turn) :
    let r := Runs.run (store.step clean crash) (Race.start s₀) turns
    (store.readPrevious r.directory.file).kind ≠ .corrupt ∧
      (Runs.along (store.step clean crash) Race.yields (Race.start s₀) turns →
        r.crash = .returned → store.readPrevious r.directory.file = crash.report store runId) := by
  obtain ⟨huuid, hrun, hdirectory⟩ := beginRun_eq_some hbegin
  intro r
  have hstart : (Race.start s₀).Inv store runId now clean crash := .start hrun hdirectory
  have hmarked : r.Marked store runId now clean crash :=
    Runs.keeps (fun _ turn h => h.step turn) hstart.toMarked turns
  constructor
  · obtain ⟨bytes, hfile, hbytes⟩ := hmarked.holds.1
    rw [Option.mem_def] at hfile
    rcases hbytes with rfl | rfl | ⟨rfl, haccepted⟩
    · rw [hfile, readPrevious_active store huuid]
      decide
    · rw [hfile, readPrevious_clean store huuid hclean]
      decide
    · rw [hfile, readPrevious_crash huuid haccepted hcrash]
      simp [CrashMark.report]
  · intro hyields hreturned
    have hinv : r.Inv store runId now clean crash :=
      Runs.keeps_along (fun _ _ h hyields => h.step hyields) hstart hyields
    obtain ⟨haccepted, hdirectory⟩ := hinv.returned hreturned
    rw [hdirectory]
    exact readPrevious_crash huuid haccepted hcrash

/-! ### A mark that is kept and one that is lost -/

def someStore : PreviousExitMarkerStore where
  maximumBreadcrumbs := 32
  maximum_pos := by decide
  maximum_le := by decide
  parseLocal := fun _ => none
  equalsOne := fun _ => false
  containsForbiddenMaterial := fun _ => false

def someRun : Text := text "00000000-0000-4000-8000-000000000000"

theorem someTime_lower : -maxMicroseconds ≤ 0 := by decide

theorem someTime_upper : 0 ≤ maxMicroseconds := by decide

def someTime : DateTime := ⟨0, someTime_lower, someTime_upper⟩

def someClean : CleanExit := ⟨[], someTime⟩

def someCrash : CrashMark := ⟨text "CRASH-001", text "0123456789abcdef", [], someTime, false⟩

/-- The store of a first run that has begun. -/
def someBegun : Exits where
  activeRunId := some someRun
  crashMarked := false
  writeErrors := 0
  directory := ⟨some (utf8Encode (activeMarker someRun someTime).encoded), none⟩

theorem beginRun_someStore :
    someStore.beginRun someRun someTime ⟨none, false, 0, ⟨none, none⟩⟩ = some someBegun := by
  have huuid : isUuid someRun = true := by decide
  rw [beginRun, if_pos huuid]
  simp only [Directory.replace_eq]
  rfl

theorem someClean_fits : (someClean.marker someStore someRun).Fits :=
  ⟨by simp [CleanExit.marker, someClean, retained], by decide +kernel⟩

theorem someCrash_fits : (someCrash.marker someStore someRun).Fits :=
  ⟨by simp [CrashMark.marker, someCrash, retained], by decide +kernel⟩

/-- The clean exit comes up to the call that writes, and then the crash mark to its end. -/
def overtaken : List Turn := [.clean, .clean, .clean, .crash, .crash, .crash, .crash, .crash]

/-- The clean exit writes, the crash mark replaces what it has written, and the clean exit goes
on. -/
def yielding : List Turn :=
  [.clean, .clean, .clean, .clean, .crash, .crash, .crash, .crash, .crash, .crash, .clean]

theorem crash_kept_someCrash :
    let r := Runs.run (someStore.step someClean someCrash) (Race.start someBegun) yielding
    r.crash = .returned ∧
      someStore.readPrevious r.directory.file = someCrash.report someStore someRun := by
  intro r
  have hreturned : r.crash = .returned := rfl
  have hyields : Runs.along (someStore.step someClean someCrash) Race.yields (Race.start someBegun)
      yielding :=
    ⟨trivial, trivial, trivial, ⟨rfl, nofun⟩, trivial, trivial, trivial, trivial, trivial, trivial,
      rfl, trivial⟩
  obtain ⟨-, hkept⟩ :=
    crash_kept someStore beginRun_someStore someClean_fits someCrash_fits yielding
  exact ⟨hreturned, hkept hyields hreturned⟩

/-- No file operation fails, the crash mark returns, and its marker is replaced by that of the
clean exit. -/
theorem crash_lost :
    someStore.beginRun someRun someTime ⟨none, false, 0, ⟨none, none⟩⟩ = some someBegun ∧
      let r := Runs.run (someStore.step someClean someCrash) (Race.start someBegun)
        (overtaken ++ [.clean, .clean])
      r.crash = .returned ∧ r.clean = .returned ∧ r.writeErrors = 0 ∧
        (someStore.readPrevious r.directory.file).kind = .clean := by
  refine ⟨beginRun_someStore, rfl, rfl, rfl, ?_⟩
  exact readPrevious_clean someStore (by decide) someClean_fits

end PreviousExitMarkerStore

end Pokrov.Observability
