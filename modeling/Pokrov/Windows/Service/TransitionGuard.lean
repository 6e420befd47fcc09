import Pokrov.Windows.Service.Machine

/-!
# The transition guard

`Guard` of `service_transition_guard.cpp` over a backend that answers as it
likes, and the runs of a host whose guard calls this guard answers. The guard is
armed after every `Start`, whatever it returns, and it is off exactly after an
`ExplicitOff` or a `Finish` that returned no error.

The failure events that the guard reports are written and never read, and are
left out.
-/

namespace Pokrov.Windows.Service

open Effects Contract

inductive TransitionGuardState
  | off
  | armed
  | incomplete
deriving DecidableEq

inductive GuardCall
  | read
  | install
  | remove

/-- A read answers its error and what it left of the state that was handed over. -/
@[reducible] def GuardCall.Answer : GuardCall → Type
  | read => String × TransitionGuardState
  | install => String
  | remove => String

/-- `TransitionGuardBackend`. -/
abbrev GuardBackend : Interface := ⟨GuardCall, GuardCall.Answer⟩

abbrev GuardAct := Act GuardBackend TransitionGuardState

namespace TransitionGuard

def refresh : GuardAct String := do
  set TransitionGuardState.incomplete
  let (error, state) ← perform (I := GuardBackend) .read
  set (if error ≠ "" then .incomplete else state)
  return error

def start : GuardAct String := do
  let readError ← refresh
  if readError ≠ "" then return readError
  if (← get) = .armed then return ""
  let error ← perform (I := GuardBackend) .install
  -- an interrupted mutation is unknown, never reported off
  set TransitionGuardState.incomplete
  if error ≠ "" then return error
  let read ← refresh
  if read ≠ "" then return read
  if (← get) = .armed then return ""
  set TransitionGuardState.incomplete
  return "transition_guard_not_verified"

def explicitOff : GuardAct String := do
  set TransitionGuardState.incomplete
  let removeError ← perform (I := GuardBackend) .remove
  if removeError ≠ "" then return removeError
  let readError ← refresh
  if readError ≠ "" then return readError
  return if (← get) = .off then "" else "transition_guard_remove_not_verified"

def finish : GuardAct String := explicitOff

/-- Includes an incomplete or unknown state. -/
def isArmed (state : TransitionGuardState) : Bool := state ≠ .off

/-! ## What its operations leave -/

/-- Any backend. -/
abbrev anyBackend : Contract GuardBackend Unit := static fun _ => True

theorem refresh_spec {Q : String → TransitionGuardState → Unit → Prop}
    {state : TransitionGuardState}
    (hfailed : ∀ error, error ≠ "" → Q error .incomplete ())
    (hread : ∀ state', Q "" state' ()) : anyBackend.wpa refresh Q state () := by
  unfold refresh
  rw [wpa_bind, wpa_set]
  refine wpa_call fun answer _ => ⟨trivial, ?_⟩
  obtain ⟨error, state'⟩ := answer
  by_cases herror : error = ""
  · subst herror
    exact hread state'
  · have h := hfailed error herror
    simpa only [wpa_bind, wpa_set, wpa_pure, if_pos herror] using h

theorem start_spec (state : TransitionGuardState) :
    anyBackend.wpa start (fun _ state' _ => isArmed state' = true) state () := by
  unfold start
  rw [wpa_bind]
  refine refresh_spec (fun error herror => ?_) fun state1 => ?_
  · rw [wpa_ite]
    exact ⟨fun _ => rfl, fun h => absurd herror h⟩
  rw [wpa_ite]
  refine ⟨fun h => absurd rfl h, fun _ => ?_⟩
  rw [wpa_bind, wpa_get, wpa_ite]
  refine ⟨fun harmed => by rw [harmed]; rfl, fun _ => ?_⟩
  refine wpa_call fun error _ => ⟨trivial, ?_⟩
  rw [wpa_bind, wpa_set, wpa_ite]
  refine ⟨fun _ => rfl, fun _ => ?_⟩
  rw [wpa_bind]
  refine refresh_spec (fun error herror => ?_) fun state2 => ?_
  · rw [wpa_ite]
    exact ⟨fun _ => rfl, fun h => absurd herror h⟩
  rw [wpa_ite]
  refine ⟨fun h => absurd rfl h, fun _ => ?_⟩
  rw [wpa_bind, wpa_get, wpa_ite]
  exact ⟨fun harmed => by rw [harmed]; rfl, fun _ => rfl⟩

theorem explicitOff_spec (state : TransitionGuardState) :
    anyBackend.wpa explicitOff
      (fun error state' _ => isArmed state' = decide (error ≠ "")) state () := by
  unfold explicitOff
  rw [wpa_bind, wpa_set]
  refine wpa_call fun error _ => ⟨trivial, ?_⟩
  rw [wpa_ite]
  refine ⟨fun herror => (decide_eq_true herror).symm, fun _ => ?_⟩
  rw [wpa_bind]
  refine refresh_spec (fun error herror => ?_) fun state1 => ?_
  · rw [wpa_ite]
    exact ⟨fun _ => (decide_eq_true herror).symm, fun h => absurd herror h⟩
  rw [wpa_ite]
  refine ⟨fun h => absurd rfl h, fun _ => ?_⟩
  rw [wpa_bind, wpa_get]
  cases state1 <;> rfl

end TransitionGuard

/-! ## Runs over this guard -/

/-- The calls of a host that its guard answers. -/
def ofGuard : MachineCall → Bool
  | .guardIsArmed => true
  | .guardStart => true
  | .guardFinish => true
  | .guardExplicitOff => true
  | _ => false

/-- The guard calls of a trace are answered by the guard, over some backend. -/
inductive Guarded : TransitionGuardState → List (Event Machine) → TransitionGuardState → Prop
  | nil (state : TransitionGuardState) : Guarded state [] state
  | other {state state' : TransitionGuardState} {e : Event Machine} {tr : List (Event Machine)}
      (hother : ofGuard e.call = false) (rest : Guarded state tr state') :
      Guarded state (e :: tr) state'
  | isArmed {state state' : TransitionGuardState} {tr : List (Event Machine)}
      (rest : Guarded state tr state') :
      Guarded state (⟨.guardIsArmed, TransitionGuard.isArmed state⟩ :: tr) state'
  | start {state state₁ state' : TransitionGuardState} {error : String}
      {calls : List (Event GuardBackend)} {tr : List (Event Machine)}
      (run : Steps (TransitionGuard.start state) calls (.ret (error, state₁)))
      (rest : Guarded state₁ tr state') : Guarded state (⟨.guardStart, error⟩ :: tr) state'
  | finish {state state₁ state' : TransitionGuardState} {error : String}
      {calls : List (Event GuardBackend)} {tr : List (Event Machine)}
      (run : Steps (TransitionGuard.finish state) calls (.ret (error, state₁)))
      (rest : Guarded state₁ tr state') : Guarded state (⟨.guardFinish, error⟩ :: tr) state'
  | explicitOff {state state₁ state' : TransitionGuardState} {error : String}
      {calls : List (Event GuardBackend)} {tr : List (Event Machine)}
      (run : Steps (TransitionGuard.explicitOff state) calls (.ret (error, state₁)))
      (rest : Guarded state₁ tr state') :
      Guarded state (⟨.guardExplicitOff, error⟩ :: tr) state'

/-- The state of the guard after a trace of a host over a backend that obliges,
if there is one. -/
def obliging : TransitionGuardState → List (Event Machine) → Option TransitionGuardState
  | state, [] => some state
  | state, ⟨.guardIsArmed, armed⟩ :: tr =>
    if armed = TransitionGuard.isArmed state then obliging state tr else none
  | _, ⟨.guardStart, error⟩ :: tr => if error = "" then obliging .armed tr else none
  | _, ⟨.guardFinish, error⟩ :: tr => if error = "" then obliging .off tr else none
  | _, ⟨.guardExplicitOff, error⟩ :: tr => if error = "" then obliging .off tr else none
  | state, _ :: tr => obliging state tr

theorem steps_start (state : TransitionGuardState) :
    Steps (TransitionGuard.start state) [⟨.read, ("", .armed)⟩] (.ret ("", .armed)) :=
  .call (I := GuardBackend) (c := .read) ("", .armed) (.refl _)

theorem steps_explicitOff (state : TransitionGuardState) :
    Steps (TransitionGuard.explicitOff state) [⟨.remove, ""⟩, ⟨.read, ("", .off)⟩]
      (.ret ("", .off)) :=
  .call (I := GuardBackend) (c := .remove) ""
    (.call (I := GuardBackend) (c := .read) ("", .off) (.refl _))

variable {state state' : TransitionGuardState}

theorem guarded_of_obliging {tr : List (Event Machine)} (h : obliging state tr = some state') :
    Guarded state tr state' := by
  induction tr generalizing state with
  | nil =>
    cases h
    exact .nil _
  | cons e tr ih =>
    obtain ⟨c, r⟩ := e
    cases c with
    | guardIsArmed =>
      simp only [obliging, Option.ite_none_right_eq_some] at h
      obtain ⟨rfl, h⟩ := h
      exact .isArmed (ih h)
    | guardStart =>
      simp only [obliging, Option.ite_none_right_eq_some] at h
      obtain ⟨rfl, h⟩ := h
      exact .start (steps_start state) (ih h)
    | guardFinish =>
      simp only [obliging, Option.ite_none_right_eq_some] at h
      obtain ⟨rfl, h⟩ := h
      exact .finish (steps_explicitOff state) (ih h)
    | guardExplicitOff =>
      simp only [obliging, Option.ite_none_right_eq_some] at h
      obtain ⟨rfl, h⟩ := h
      exact .explicitOff (steps_explicitOff state) (ih h)
    | _ => exact .other rfl (ih h)

/-- Whether the guard is armed after an event, read off the answer alone. -/
def armedNext (armed : Bool) : Event Machine → Bool
  | ⟨.guardStart, _⟩ => true
  | ⟨.guardFinish, error⟩ => decide (error ≠ "")
  | ⟨.guardExplicitOff, error⟩ => decide (error ≠ "")
  | _ => armed

/-- The guard reports whether it is armed. -/
def armedAnswer (armed : Bool) : Event Machine → Prop
  | ⟨.guardIsArmed, answer⟩ => answer = armed
  | _ => True

/-- The run remembers whether the guard is armed. -/
def arming : Contract Machine Bool where
  next := armedNext
  rely := armedAnswer
  guar := fun _ _ => True

theorem arming_of_other {armed : Bool} {e : Event Machine} (h : ofGuard e.call = false) :
    arming.rely armed e ∧ arming.next armed e = armed := by
  obtain ⟨c, r⟩ := e
  cases c <;> first | exact ⟨trivial, rfl⟩ | cases h

theorem ends_of_spec {m : GuardAct String} {Q : String → TransitionGuardState → Unit → Prop}
    {error : String} {calls : List (Event GuardBackend)}
    (hm : TransitionGuard.anyBackend.wpa m Q state ())
    (hrun : Steps (m state) calls (.ret (error, state'))) : Q error state' () :=
  (Contract.wp_steps _ hm hrun (Contract.along_of_forall _ (fun _ _ => trivial) _ _)).2

/-- **The guard as its host sees it.** Over any backend it answers truly, and it
is armed at the end exactly when its answers say so. -/
theorem Guarded.arming {tr : List (Event Machine)} (h : Guarded state tr state') :
    arming.Relied (TransitionGuard.isArmed state) tr ∧
      arming.after (TransitionGuard.isArmed state) tr = TransitionGuard.isArmed state' := by
  induction h with
  | nil state => exact ⟨trivial, rfl⟩
  | other hother _ ih =>
    obtain ⟨hrely, hnext⟩ := arming_of_other hother
    rw [after_cons, hnext]
    exact ⟨⟨hrely, hnext.symm ▸ ih.1⟩, ih.2⟩
  | isArmed _ ih => exact ⟨⟨rfl, ih.1⟩, ih.2⟩
  | start run _ ih =>
    have harmed := ends_of_spec (TransitionGuard.start_spec _) run
    rw [harmed] at ih
    exact ⟨⟨trivial, ih.1⟩, ih.2⟩
  | finish run _ ih =>
    have harmed := ends_of_spec (TransitionGuard.explicitOff_spec _) run
    rw [harmed] at ih
    exact ⟨⟨trivial, ih.1⟩, ih.2⟩
  | explicitOff run _ ih =>
    have harmed := ends_of_spec (TransitionGuard.explicitOff_spec _) run
    rw [harmed] at ih
    exact ⟨⟨trivial, ih.1⟩, ih.2⟩

end Pokrov.Windows.Service
