import Pokrov.Windows.Service.TransitionGuard

/-!
# What the guard has verified

The runs of one guard over a backend that answers as it likes: its construction, and then any
operations. Each call of the backend is recorded, `LastFailure` of a reported failure as well.
-/

namespace Pokrov.Windows.Service

open Effects Contract

/-- A call that the guard made on its backend. -/
inductive BackendCall
  | called (event : Event GuardBackend)
  | lastFailure

inductive GuardOperation
  | start
  | finish
  | explicitOff

namespace GuardOperation

def act : GuardOperation → GuardAct String
  | start => TransitionGuard.start
  | finish => TransitionGuard.finish
  | explicitOff => TransitionGuard.explicitOff

/-- Whether an error of the operation is reported. -/
def reports : GuardOperation → Bool
  | start => true
  | finish => true
  | explicitOff => false

/-- What the operation asked the backend, a report of its error at the end. -/
def asked (operation : GuardOperation) (events : Bool) (calls : List (Event GuardBackend))
    (error : String) : List BackendCall :=
  calls.map .called ++ if operation.reports ∧ events ∧ error ≠ "" then [.lastFailure] else []

/-- The state that the operation is for. -/
def goal : GuardOperation → TransitionGuardState
  | start => .armed
  | finish => .off
  | explicitOff => .off

end GuardOperation

/-- What a guard has asked its backend since it was constructed, and its state. -/
inductive GuardRun (events : Bool) : List BackendCall → TransitionGuardState → Prop
  | construct {error : String} {calls : List (Event GuardBackend)} {state : TransitionGuardState}
      (run : Steps (TransitionGuard.refresh .incomplete) calls (.ret (error, state))) :
      GuardRun events (calls.map .called) state
  | operate (operation : GuardOperation) {asked : List BackendCall} {error : String}
      {calls : List (Event GuardBackend)} {state state' : TransitionGuardState}
      (before : GuardRun events asked state)
      (run : Steps (operation.act state) calls (.ret (error, state'))) :
      GuardRun events (asked ++ operation.asked events calls error) state'

/-- The last call was a read that succeeded with the state. -/
def JustRead (state : TransitionGuardState) (calls : List (Event GuardBackend)) : Prop :=
  calls.getLast? = some ⟨.read, ("", state)⟩

/-! ## What an operation leaves -/

abbrev recorded : Contract GuardBackend (List (Event GuardBackend)) := recording GuardBackend

variable {state : TransitionGuardState} {calls : List (Event GuardBackend)}

/-- A state that was read is the answer of the last call. -/
theorem refresh_recorded {Q : String → TransitionGuardState → List (Event GuardBackend) → Prop}
    (hfailed : ∀ error calls', error ≠ "" → Q error .incomplete calls')
    (hread : ∀ state' calls', JustRead state' calls' → Q "" state' calls') :
    recorded.wpa TransitionGuard.refresh Q state calls := by
  unfold TransitionGuard.refresh
  rw [wpa_bind, wpa_set]
  refine wpa_call fun answer _ => ⟨trivial, ?_⟩
  obtain ⟨error, state'⟩ := answer
  by_cases herror : error = ""
  · subst herror
    exact hread state' _ (List.getLast?_concat ..)
  · have h := hfailed error (recorded.next calls ⟨.read, (error, state')⟩) herror
    simpa only [wpa_bind, wpa_set, wpa_pure, if_pos herror] using h

/-- A success was read, and so was a guard that is off. -/
def Verified (goal : TransitionGuardState) (error : String) (state : TransitionGuardState)
    (calls : List (Event GuardBackend)) : Prop :=
  (error = "" → JustRead goal calls) ∧ (state = .off → error = "" ∧ JustRead .off calls)

/-- An error leaves a guard that is armed. -/
theorem Verified.of_error {goal : TransitionGuardState} {error : String} (h : error ≠ "")
    (calls : List (Event GuardBackend)) : Verified goal error .incomplete calls :=
  ⟨fun hempty => absurd hempty h, fun hoff => by cases hoff⟩

theorem start_recorded (state : TransitionGuardState) (calls : List (Event GuardBackend)) :
    recorded.wpa TransitionGuard.start (Verified .armed) state calls := by
  unfold TransitionGuard.start
  rw [wpa_bind]
  refine refresh_recorded (fun error calls1 herror => ?_) fun state1 calls1 hread => ?_
  · rw [wpa_ite]
    exact ⟨fun _ => .of_error herror calls1, fun h => absurd herror h⟩
  rw [wpa_ite]
  refine ⟨fun h => absurd rfl h, fun _ => ?_⟩
  rw [wpa_bind, wpa_get, wpa_ite]
  refine ⟨fun harmed => ?_, fun _ => ?_⟩
  · subst harmed
    exact ⟨fun _ => hread, fun hoff => by cases hoff⟩
  refine wpa_call fun error _ => ⟨trivial, ?_⟩
  rw [wpa_bind, wpa_set, wpa_ite]
  refine ⟨fun herror => .of_error herror _, fun _ => ?_⟩
  rw [wpa_bind]
  refine refresh_recorded (fun error calls2 herror => ?_) fun state2 calls2 hread2 => ?_
  · rw [wpa_ite]
    exact ⟨fun _ => .of_error herror calls2, fun h => absurd herror h⟩
  rw [wpa_ite]
  refine ⟨fun h => absurd rfl h, fun _ => ?_⟩
  rw [wpa_bind, wpa_get, wpa_ite]
  refine ⟨fun harmed => ?_, fun _ => .of_error (by decide) calls2⟩
  subst harmed
  exact ⟨fun _ => hread2, fun hoff => by cases hoff⟩

theorem explicitOff_recorded (state : TransitionGuardState) (calls : List (Event GuardBackend)) :
    recorded.wpa TransitionGuard.explicitOff (Verified .off) state calls := by
  unfold TransitionGuard.explicitOff
  rw [wpa_bind, wpa_set]
  refine wpa_call fun error _ => ⟨trivial, ?_⟩
  rw [wpa_ite]
  refine ⟨fun herror => .of_error herror _, fun _ => ?_⟩
  rw [wpa_bind]
  refine refresh_recorded (fun error calls1 herror => ?_) fun state1 calls1 hread => ?_
  · rw [wpa_ite]
    exact ⟨fun _ => .of_error herror calls1, fun h => absurd herror h⟩
  rw [wpa_ite]
  refine ⟨fun h => absurd rfl h, fun _ => ?_⟩
  rw [wpa_bind, wpa_get]
  by_cases hoff : state1 = .off
  · subst hoff
    exact ⟨fun _ => hread, fun _ => ⟨rfl, hread⟩⟩
  · rw [if_neg hoff]
    have herror : "transition_guard_remove_not_verified" ≠ "" := by decide
    exact ⟨fun h => absurd h herror, fun h => absurd h hoff⟩

theorem act_recorded (operation : GuardOperation) {state state' : TransitionGuardState}
    {error : String} (run : Steps (operation.act state) calls (.ret (error, state'))) :
    Verified operation.goal error state' calls := by
  have hspec : recorded.wpa operation.act (Verified operation.goal) state [] := by
    cases operation with
    | start => exact start_recorded state []
    | finish => exact explicitOff_recorded state []
    | explicitOff => exact explicitOff_recorded state []
  exact wpa_recording.mp hspec calls error state' run

/-! ## Runs -/

theorem JustRead.getLast?_map (h : JustRead state calls) :
    (calls.map BackendCall.called).getLast? = some (.called ⟨.read, ("", state)⟩) := by
  rw [List.getLast?_map, h]
  rfl

/-- What an operation asked ends in the read when it succeeded. -/
theorem JustRead.getLast?_asked {operation : GuardOperation} (h : JustRead state calls)
    (events : Bool) (asked : List BackendCall) :
    (asked ++ operation.asked events calls "").getLast? =
      some (.called ⟨.read, ("", state)⟩) := by
  have hasked : operation.asked events calls "" = calls.map BackendCall.called := by
    simp [GuardOperation.asked]
  rw [hasked, List.getLast?_append, h.getLast?_map]
  rfl

/-- **No unverified state.** However the backend answers, a guard that says it is not armed has
just read that it is off, and an operation that succeeds has just read the state it is for. -/
theorem guard_verified (events : Bool) {asked : List BackendCall} {state : TransitionGuardState}
    (h : GuardRun events asked state) :
    (TransitionGuard.isArmed state = false →
      asked.getLast? = some (.called ⟨.read, ("", .off)⟩)) ∧
    ∀ (operation : GuardOperation) (calls : List (Event GuardBackend))
      (state' : TransitionGuardState), Steps (operation.act state) calls (.ret ("", state')) →
      (asked ++ operation.asked events calls "").getLast? =
        some (.called ⟨.read, ("", operation.goal)⟩) := by
  constructor
  · intro harmed
    have hoff : state = .off := by simpa [TransitionGuard.isArmed] using harmed
    cases h with
    | construct run =>
      have hspec : recorded.wpa TransitionGuard.refresh
          (fun _ state' calls => state' = .off → JustRead .off calls) .incomplete [] :=
        refresh_recorded (fun _ _ _ h => by cases h) fun _ _ hread h => h ▸ hread
      exact (wpa_recording.mp hspec _ _ _ run hoff).getLast?_map
    | operate operation before run =>
      obtain ⟨rfl, hread⟩ := (act_recorded operation run).2 hoff
      exact hread.getLast?_asked events _
  · intro operation calls state' run
    exact ((act_recorded operation run).1 rfl).getLast?_asked events asked

/-- A guard that was armed and lifted again. -/
theorem guard_verified_lifted :
    (TransitionGuard.isArmed .off = false → (([.called ⟨.read, ("", .off)⟩] : List BackendCall) ++
      ([.called ⟨.read, ("", .armed)⟩] : List BackendCall) ++
      ([.called ⟨.remove, ""⟩, .called ⟨.read, ("", .off)⟩] : List BackendCall)).getLast? =
        some (.called ⟨.read, ("", .off)⟩)) ∧
    (([.called ⟨.read, ("", .off)⟩] : List BackendCall) ++
      ([.called ⟨.read, ("", .armed)⟩] : List BackendCall) ++
      ([.called ⟨.remove, ""⟩, .called ⟨.read, ("", .off)⟩] : List BackendCall) ++
      ([.called ⟨.read, ("", .armed)⟩] : List BackendCall)).getLast? =
        some (.called ⟨.read, ("", .armed)⟩) :=
  have constructed : GuardRun true [.called ⟨.read, ("", .off)⟩] .off :=
    @GuardRun.construct true "" _ _ (.call (I := GuardBackend) (c := .read) ("", .off) (.refl _))
  have run := GuardRun.operate .finish (.operate .start constructed (steps_start .off))
    (steps_explicitOff .armed)
  ⟨(guard_verified true run).1,
    (guard_verified true run).2 .start [⟨.read, ("", .armed)⟩] .armed (steps_start _)⟩

end Pokrov.Windows.Service
