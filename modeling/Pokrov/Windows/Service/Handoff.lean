import Pokrov.Windows.Service.Lifting
import Pokrov.Windows.Service.Lives
import Pokrov.Windows.Service.TransitionGuard

/-!
# The protected handoff

`ReplaceManagedProfile` stops the old connection, stages the new profile and
connects to it, all under the transition guard. The guard is finished by a host
that runs the new profile with a validated egress, and by nothing else; every
other end of the handoff leaves it armed.
-/

namespace Pokrov.Windows.Service

open Codec Effects Contract

/-- The new profile is running and proven. -/
def HostView.replaced (profileDigest : Bytes) (view : HostView) : Prop :=
  view.proven ∧ view.effectiveProfileDigest = profileDigest

namespace Runtime

variable (F : Functions)

/-- The last steps of a handoff, from the check of the new connection on. -/
theorem lifts_replaceManagedProfile (body : Bytes) (network : Option CandidateNetworkContext) :
    Lifts (HostView.replaced (F.profileDigest body)) false
      (replaceManagedProfile F body network) := by
  refine .bind .getHost fun host => .ite (lifts_fail F _ _) ?_
  refine .bind (.steady (.ite (.pure _) (steady_ask rfl))) fun covered => ?_
  refine .ite (lifts_fail F _ _) (.bind (.steady (steady_ask rfl)) fun error => ?_)
  refine .ite (lifts_fail F _ _) (.bind (lifts_protectedDisconnect F) fun stopped => ?_)
  refine .ite (.pure _) (.bind (.steady (RuntimeHost.steady_interrupted .owner)) fun _ => ?_)
  refine .ite (lifts_fail F _ _) (.bind (lifts_stageProfile F body false) fun staged => ?_)
  refine .ite (.pure _) (.bind (lifts_connectImpl F _ ?_) fun connected => .ite (.pure _) ?_)
  · exact fun hfinish => absurd hfinish Bool.false_ne_true
  intro s g
  rw [wpa_withHost, wpa_ite]
  refine ⟨fun _ => lifts_fail F _ _ s g, fun hproven => ?_⟩
  rw [not_or, not_or, not_not, not_not, not_not] at hproven
  obtain ⟨hrunning, hvalidated, hdigest⟩ := hproven
  rw [wpa_bind]
  refine wpa_confined.mpr (lift_steady (RuntimeHost.steady_interrupted .owner) ?_)
  intro interrupted host1 g1 h1
  have hparts : host1.parts = s.host.parts := h1.parts
  rw [wpa_ite]
  refine ⟨fun _ => ?_, fun _ => ?_⟩
  · refine wpa_mono (Lifts.bind (lifts_protectedDisconnect F) (fun cancelled => ?_) _ g1) ?_
    · exact .ite (.pure _) (lifts_fail F _ _)
    · exact fun _ _ _ h => h.trans hparts
  rw [wpa_bind]
  refine wpa_confined.mpr (lift_guardFinish ⟨⟨?_, ?_⟩, ?_⟩ fun error => ?_)
  · exact h1.phase.trans hrunning
  · exact h1.validated.trans hvalidated
  · exact h1.effective.trans hdigest
  · have hrest : Lifts (HostView.replaced (F.profileDigest body)) false (do
        if error ≠ "" then
          modifyHost fun host => { host with coreEgressValidated := false }
          return ← fail F .notReady "transition_guard_failed"
        snapshot F) := by
      refine .ite (.bind (.modifyHost fun _ => rfl) fun _ => ?_) (lifts_snapshot F)
      exact lifts_fail F _ _
    exact wpa_mono (hrest _ none) fun _ _ _ h => h.trans hparts

end Runtime

/-! ## The guard at the end of a handoff -/

/-- What a run shows of the guard: whether it is armed, and whether it was
started here. -/
structure Handoff where
  armed : Bool
  started : Bool

/-- The guard was started. -/
def guardStarted : Event Machine → Bool
  | ⟨.guardStart, error⟩ => error = ""
  | _ => false

def handoff : Contract Machine Handoff where
  next := fun g e =>
    { armed := armedNext g.armed e, started := g.started || guardStarted e }
  rely := fun g e => armedAnswer g.armed e
  guar := fun _ _ => True

/-- A guard that was started is armed. -/
def Handoff.Held (g : Handoff) : Prop := g.started = true → g.armed = true

variable {e : Event Machine}

theorem guardStarted_eq (h : guardStarted e = true) : e = ⟨.guardStart, ""⟩ := by
  obtain ⟨c, r⟩ := e
  cases c with
  | guardStart => rw [of_decide_eq_true h]
  | _ => cases h

theorem guardStarted_armed {armed : Bool} (h : guardStarted e = true) :
    armedNext armed e = true := by
  obtain ⟨c, r⟩ := e
  cases c <;> first | rfl | cases h

theorem armedNext_of_holds (h : holds e.call = true) : armedNext true e = true := by
  obtain ⟨c, r⟩ := e
  cases c <;> first | rfl | cases h

theorem Handoff.Held.next {g : Handoff} (h : g.Held) (he : holds e.call = true) :
    (handoff.next g e).Held := by
  intro hstarted
  have hor : (g.started || guardStarted e) = true := hstarted
  show armedNext g.armed e = true
  rcases Bool.or_eq_true_iff.mp hor with hg | hnow
  · rw [h hg]
    exact armedNext_of_holds he
  · exact guardStarted_armed hnow

theorem holds_of_guar {g : Option HostView} (h : (lifting (fun _ => False) false).guar g e) :
    holds e.call = true := by
  obtain ⟨c, r⟩ := e
  cases c with
  | guardFinish =>
    obtain ⟨_, _, hfalse⟩ := h.1 rfl
    exact hfalse.elim
  | guardExplicitOff => exact absurd (h.2 rfl) Bool.false_ne_true
  | _ => rfl

namespace Runtime

variable (F : Functions)

/-- What a handoff leaves behind. -/
def HandedOff (r : RuntimeResult) (s : Runtime) (g : Handoff) : Prop :=
  g.started = true → r.status ≠ .ok → g.armed = true ∧ s.host.parts.transitionGuard = true

variable {s : Runtime} {g : Handoff}

/-- Under a guard that is held, what does not lift it leaves it held. -/
theorem held_of_lifts {α : Type} {m : RuntimeAct α} {Q : α → Runtime → Handoff → Prop}
    (hm : Lifts (fun _ => False) false m) (hg : g.Held)
    (hparts : s.host.parts.transitionGuard = true)
    (hQ : ∀ a s' g', s'.host.parts.transitionGuard = true → g'.Held → Q a s' g') :
    handoff.wpa m Q s g := by
  have h := wpa_simulate (D := handoff) (R := fun _ g => g.Held) ?_ (hm s none) hg
  · refine wpa_mono h ?_
    rintro a s' g' ⟨_, hsame, hheld⟩
    refine hQ a s' g' ?_ hheld
    rw [hsame]
    exact hparts
  · exact fun _ _ _ hheld _ => ⟨trivial, fun hguar => ⟨trivial, hheld.next (holds_of_guar hguar)⟩⟩

theorem held_end {m : RuntimeAct RuntimeResult} (hm : Lifts (fun _ => False) false m) (hg : g.Held)
    (hparts : s.host.parts.transitionGuard = true) : handoff.wpa m HandedOff s g :=
  held_of_lifts hm hg hparts fun _ _ _ hparts' hheld hstarted _ => ⟨hheld hstarted, hparts'⟩

/-- Looking leaves the guard as it was. -/
theorem observed {α : Type} {m : HostAct α} {Q : α → Runtime → Handoff → Prop} (hm : Observing m)
    (hQ : ∀ a host, Q a { s with host } g) : handoff.wpa (onHost m) Q s g := by
  refine wpa_confined.mpr (wpa_mono (wpa_of_moves (J := (· = g)) ?_ hm rfl) ?_)
  · rintro g' e rfl he -
    refine ⟨trivial, ?_⟩
    obtain ⟨⟨c, hq⟩, r⟩ := e
    cases c <;> first | exact congrArg (Handoff.mk _) (Bool.or_false _) | cases he
  · rintro a host g' ⟨-, rfl⟩
    exact hQ a host

/-- A snapshot reports success. -/
theorem handedOff_snapshot : handoff.wpa (snapshot F) HandedOff s g := by
  unfold snapshot onHost RuntimeHost.snapshot
  refine wpa_confined.mpr ?_
  refine wpa_seq (wpa_of_kept (J := fun _ => True) (fun _ _ _ _ => ⟨trivial, trivial⟩) trivial) ?_
  exact fun _ _ _ _ _ hnot => absurd rfl hnot

theorem handedOff_replaceManagedProfile (body : Bytes) (network : Option CandidateNetworkContext)
    (s : Runtime) (armed : Bool) :
    handoff.wpa (replaceManagedProfile F body network) HandedOff s ⟨armed, false⟩ := by
  unfold replaceManagedProfile
  rw [wpa_withHost, wpa_ite]
  refine ⟨fun _ => ?_, fun hguard => ?_⟩
  · refine observed (RuntimeHost.observing_fail F _ _) fun r host hstarted _ => ?_
    exact absurd hstarted Bool.false_ne_true
  rw [not_or, not_not] at hguard
  have hparts := hguard.1
  have hg : Handoff.Held ⟨armed, false⟩ := fun h => absurd h Bool.false_ne_true
  rw [wpa_bind]
  refine held_of_lifts (.steady (.ite (.pure _) (steady_ask rfl))) hg hparts ?_
  intro covered s1 g1 hp1 hg1
  rw [wpa_ite]
  refine ⟨fun _ => held_end (lifts_fail F _ _) hg1 hp1, fun _ => ?_⟩
  rw [wpa_bind]
  refine held_of_lifts (.steady (steady_ask rfl)) hg1 hp1 fun error s2 g2 hp2 hg2 => ?_
  rw [wpa_ite]
  refine ⟨fun _ => held_end (lifts_fail F _ _) hg2 hp2, fun _ => ?_⟩
  rw [wpa_bind]
  refine held_of_lifts (lifts_protectedDisconnect F) hg2 hp2 fun stopped s3 g3 hp3 hg3 => ?_
  rw [wpa_ite]
  refine ⟨fun _ => held_end (.pure _) hg3 hp3, fun _ => ?_⟩
  rw [wpa_bind]
  refine held_of_lifts (.steady (RuntimeHost.steady_interrupted .owner)) hg3 hp3 ?_
  intro interrupted s4 g4 hp4 hg4
  rw [wpa_ite]
  refine ⟨fun _ => held_end (lifts_fail F _ _) hg4 hp4, fun _ => ?_⟩
  rw [wpa_bind]
  refine held_of_lifts (lifts_stageProfile F body false) hg4 hp4 fun staged s5 g5 hp5 hg5 => ?_
  rw [wpa_ite]
  refine ⟨fun _ => held_end (.pure _) hg5 hp5, fun _ => ?_⟩
  rw [wpa_bind]
  refine held_of_lifts (lifts_connectImpl F _ ?_) hg5 hp5 fun connected s6 g6 hp6 hg6 => ?_
  · exact fun hfinish => absurd hfinish Bool.false_ne_true
  rw [wpa_ite]
  refine ⟨fun _ => held_end (.pure _) hg6 hp6, fun _ => ?_⟩
  rw [wpa_withHost, wpa_ite]
  refine ⟨fun _ => held_end (lifts_fail F _ _) hg6 hp6, fun _ => ?_⟩
  rw [wpa_bind]
  refine held_of_lifts (.steady (RuntimeHost.steady_interrupted .owner)) hg6 hp6 ?_
  intro interrupted s7 g7 hp7 hg7
  rw [wpa_ite]
  refine ⟨fun _ => ?_, fun _ => ?_⟩
  · refine held_end (.bind (lifts_protectedDisconnect F) fun cancelled => ?_) hg7 hp7
    exact .ite (.pure _) (lifts_fail F _ _)
  rw [wpa_bind]
  -- the guard is asked to go: an error leaves it armed, and without one all is well
  refine wpa_confined.mpr fun _ _ => ⟨trivial, fun error _ => ⟨trivial, ?_⟩⟩
  show handoff.wpa (if _ then _ else _) _ _ _
  rw [wpa_ite]
  refine ⟨fun herror => ?_, fun _ => handedOff_snapshot F⟩
  refine held_end (.bind (.modifyHost fun _ => rfl) fun _ => lifts_fail F _ _) (fun _ => ?_) hp7
  exact decide_eq_true herror

theorem handedOff_cancelProtectedHandoff (s : Runtime) (armed : Bool) :
    handoff.wpa (cancelProtectedHandoff F) HandedOff s ⟨armed, false⟩ := by
  unfold cancelProtectedHandoff
  rw [wpa_withHost, wpa_ite]
  refine ⟨fun _ => ?_, fun hguard => ?_⟩
  · refine observed (RuntimeHost.observing_fail F _ _) fun r host hstarted _ => ?_
    exact absurd hstarted Bool.false_ne_true
  refine held_end (.bind (.steady (steady_ask rfl)) fun error => ?_) (fun h => ?_)
    (not_not.mp hguard)
  · exact .ite (lifts_fail F _ _) (lifts_protectedDisconnect F)
  · exact absurd h Bool.false_ne_true

end Runtime

/-! ## Reading the run back -/

variable {tr : List (Event Machine)}

/-- The view was marked by the last event, which is not the first one. -/
theorem lifting_marked {ok : HostView → Prop} {explicitOff : Bool} {g : Option HostView}
    {first : Event Machine} {view : HostView} (hfirst : ∀ v, first.call ≠ .mark (.host v))
    (h : (lifting ok explicitOff).after g (first :: tr) = some view) :
    ∃ before, tr = before ++ [⟨.mark (.host view), ()⟩] := by
  have hlast : ∀ {k : Option HostView} {e : Event Machine},
      (lifting ok explicitOff).next k e = some view → e = ⟨.mark (.host view), ()⟩ := by
    intro g' e he
    obtain ⟨c, r⟩ := e
    cases c with
    | mark m =>
      cases m with
      | host view' =>
        cases he
        rfl
      | _ => cases he
    | _ => cases he
  induction tr using List.reverseRecOn with
  | nil =>
    have hmark := hlast (k := g) h
    exact absurd (congrArg Event.call hmark) (hfirst view)
  | append_singleton before e =>
    rw [← List.cons_append, after_append] at h
    exact ⟨before, by rw [hlast h]⟩

theorem relied_handoff {g : Handoff} (h : arming.Relied g.armed tr) : handoff.Relied g tr := by
  induction tr generalizing g with
  | nil => trivial
  | cons e tr ih => exact ⟨h.1, ih (g := handoff.next g e) h.2⟩

theorem armed_handoff (g : Handoff) (tr : List (Event Machine)) :
    (handoff.after g tr).armed = arming.after g.armed tr := by
  induction tr generalizing g with
  | nil => rfl
  | cons e tr ih =>
    rw [after_cons, ih]
    rfl

theorem started_handoff {g : Handoff} (h : g.started = true) :
    (handoff.after g tr).started = true := by
  induction tr generalizing g with
  | nil => exact h
  | cons e tr ih =>
    refine ih ?_
    show (g.started || guardStarted e) = true
    rw [h, Bool.true_or]

/-- What a handoff leaves behind, over the guard that it was run with. -/
theorem armed_of_handedOff {m : RuntimeAct RuntimeResult} {s s' : Runtime} {r : RuntimeResult}
    {pre post : List (Event Machine)} {state state' : TransitionGuardState}
    (hm : handoff.wpa m Runtime.HandedOff s ⟨TransitionGuard.isArmed state, false⟩)
    (hrun : Steps (m s) (pre ++ ⟨.guardStart, ""⟩ :: post) (.ret (r, s')))
    (hguarded : Guarded state (pre ++ ⟨.guardStart, ""⟩ :: post) state')
    (hstatus : r.status ≠ .ok) :
    s'.host.parts.transitionGuard = true ∧ TransitionGuard.isArmed state' = true := by
  obtain ⟨hrelied, hafter⟩ := hguarded.arming
  have hend := (handoff.wp_steps hm hrun (relied_handoff hrelied)).2
  have hstarted : (handoff.after ⟨TransitionGuard.isArmed state, false⟩
      (pre ++ ⟨.guardStart, ""⟩ :: post)).started = true := by
    rw [after_append, after_cons]
    refine started_handoff ?_
    show ((handoff.after ⟨TransitionGuard.isArmed state, false⟩ pre).started || _) = true
    exact Bool.or_true _
  obtain ⟨harmed, hparts⟩ := hend hstarted hstatus
  rw [armed_handoff, hafter] at harmed
  exact ⟨hparts, harmed⟩

/-- **The protected handoff keeps the guard.** For every host, every body and
every run over the guard, cut off anywhere: once the guard was started, it is
lifted only by a host that runs the replacement with a validated egress, and a
handoff that ends without success ends with the guard armed. A cancelled handoff
never lifts it at all. -/
theorem handoff_keeps_guard {F : Functions} {s : Runtime} {pre post : List (Event Machine)}
    {p : Prog Machine (RuntimeResult × Runtime)} {state state' : TransitionGuardState}
    (hguarded : Guarded state (pre ++ ⟨.guardStart, ""⟩ :: post) state') :
    (∀ body network,
      Steps (Runtime.replaceManagedProfile F body network s) (pre ++ ⟨.guardStart, ""⟩ :: post) p →
      (∀ (mid : List (Event Machine)) e rest, post = mid ++ e :: rest →
        e.call = .guardFinish ∨ e.call = .guardExplicitOff →
        ∃ (before : List (Event Machine)) (view : HostView), mid = before ++ [⟨.mark (.host view), ()⟩] ∧ view.phase = .running ∧
          view.coreEgressValidated = true ∧
          view.effectiveProfileDigest = F.profileDigest body) ∧
      ∀ r s', p = .ret (r, s') → r.status ≠ .ok →
        s'.host.parts.transitionGuard = true ∧ TransitionGuard.isArmed state' = true) ∧
    (Steps (Runtime.cancelProtectedHandoff F s) (pre ++ ⟨.guardStart, ""⟩ :: post) p →
      (∀ e ∈ post, e.call ≠ .guardFinish ∧ e.call ≠ .guardExplicitOff) ∧
      ∀ r s', p = .ret (r, s') → r.status ≠ .ok →
        s'.host.parts.transitionGuard = true ∧ TransitionGuard.isArmed state' = true) := by
  constructor
  · intro body network hrun
    constructor
    · rintro mid e rest rfl hlift
      have hwp := Runtime.lifts_replaceManagedProfile F body network s none
      obtain ⟨hguar, -⟩ := Contract.wp_steps _ hwp hrun
        (Contract.along_of_forall _ (fun _ _ => trivial) _ _)
      rw [← List.cons_append, ← List.append_assoc] at hguar
      obtain ⟨hfinish, hoff⟩ := Along.at _ hguar
      rcases hlift with hc | hc
      · obtain ⟨view, hview, hproven, hdigest⟩ := hfinish hc
        rw [after_append] at hview
        obtain ⟨before, hmid⟩ := lifting_marked (fun v hv => by cases hv) hview
        exact ⟨before, view, hmid, hproven.1, hproven.2, hdigest⟩
      · exact absurd (hoff hc) Bool.false_ne_true
    · rintro r s' rfl hstatus
      exact armed_of_handedOff (Runtime.handedOff_replaceManagedProfile F body network s _) hrun
        hguarded hstatus
  · intro hrun
    constructor
    · intro e he
      have hlifts : Lifts (fun _ => False) false (Runtime.cancelProtectedHandoff F) :=
        Runtime.lifts_cancelProtectedHandoff F
      have hwp := hlifts s none
      obtain ⟨hguar, -⟩ := Contract.wp_steps _ hwp hrun
        (Contract.along_of_forall _ (fun _ _ => trivial) _ _)
      obtain ⟨mid, rest, rfl⟩ := List.append_of_mem he
      rw [← List.cons_append, ← List.append_assoc] at hguar
      exact ne_of_holds (holds_of_guar (Along.at _ hguar))
    · rintro r s' rfl hstatus
      exact armed_of_handedOff (Runtime.handedOff_cancelProtectedHandoff F s _) hrun hguarded
        hstatus

/-! ## A handoff that fails -/

/-- A connection on a host that has a guard. -/
def guardedRun : List (Event Machine) × (Unit × Runtime) :=
  (Runtime.session plainFunctions (sampleOperations.take 2)
    (Runtime.boot { plainParts with transitionGuard := true } true none)).play
      (fun _ => plainAnswer) []

/-- The egress of the new connection is not proven. -/
def unprovenAnswer : (c : MachineCall) → Machine.Answer c
  | .verifyEgress _ _ => "core_egress_timeout"
  | c => plainAnswer c

def failedHandoff : List (Event Machine) × (RuntimeResult × Runtime) :=
  (Runtime.replaceManagedProfile plainFunctions (text "0\n\x7b\x7d") none guardedRun.2.2).play
    (fun _ => unprovenAnswer) []

theorem failedHandoff_armed :
    failedHandoff.2.1.status = .notReady ∧
      ∃ state, Guarded .off failedHandoff.1 state ∧ TransitionGuard.isArmed state = true := by
  have hstatus : failedHandoff.2.1.status = .notReady := by decide +kernel
  have hguarded : Guarded .off failedHandoff.1 .armed :=
    guarded_of_obliging (by decide +kernel)
  have hrun : Steps (Runtime.replaceManagedProfile plainFunctions (text "0\n\x7b\x7d") none
      guardedRun.2.2) failedHandoff.1 (.ret (failedHandoff.2.1, failedHandoff.2.2)) := by
    rw [failedHandoff]
    exact steps_play_pair (I := Machine) _ _
  have hstarted : failedHandoff.1.any guardStarted = true := by decide +kernel
  obtain ⟨e, he, hstart⟩ := List.any_eq_true.mp hstarted
  obtain ⟨pre, post, hsplit⟩ := List.append_of_mem he
  rw [guardStarted_eq hstart] at hsplit
  rw [hsplit] at hguarded hrun
  have hkept := ((handoff_keeps_guard hguarded).1 _ _ hrun).2 _ _ rfl (by rw [hstatus]; decide)
  exact ⟨hstatus, .armed, hsplit ▸ hguarded, hkept.2⟩

end Pokrov.Windows.Service
