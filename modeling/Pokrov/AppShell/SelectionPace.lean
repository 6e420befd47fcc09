import Pokrov.AppShell.SelectionRuns
import Pokrov.Lib.Sampling

/-!
# The pace of a selection

The budget of a stage starts with its first child and is not renewed within the
attempt. A child that is late stops the attempt, and what was stopped does not pass.
-/

namespace Pokrov.AppShell.TransportSelection

open Dart Stateful

/-! ## What the operations carry on -/

/-- A property that the later state has if the earlier one has it. -/
def Carries (Inv : TransportSelection → Prop) (s s' : TransportSelection) : Prop := Inv s → Inv s'

instance (Inv : TransportSelection → Prop) : Std.Refl (Carries Inv) := ⟨fun _ h => h⟩

instance (Inv : TransportSelection → Prop) : IsTrans TransportSelection (Carries Inv) :=
  ⟨fun _ _ _ h h' hs => h' (h hs)⟩

/-- Two selections that agree in what deadlines and stops are read from. -/
structure Beside (s s' : TransportSelection) : Prop where
  lastElapsedMs : s'.lastElapsedMs = s.lastElapsedMs
  closed : s'.closed = s.closed
  attemptStop : s'.attemptStop = s.attemptStop
  attemptRef : s'.attemptRef = s.attemptRef
  attemptRefs : s'.attemptRefs = s.attemptRefs
  candidate : s'.candidate = s.candidate
  children : s'.children = s.children
  stageDeadlines : s'.stageDeadlines = s.stageDeadlines

/-- A property that each change of a selection keeps. -/
structure Carried (policy : SelectionPolicy) (Inv : TransportSelection → Prop) : Prop where
  stopped : ∀ s reason, Inv s → Inv (s.stopped reason)
  close : ∀ s reason, Inv s → Inv (s.close reason)
  check : ∀ current now, Preserves (Carries Inv) (check policy current now)
  beside : ∀ s s', Beside s s' → Inv s → Inv s'
  candidate : ∀ s candidate query, TransportCandidate.validate candidate = .ok () → Inv s →
    Inv { s with candidate := some candidate, resolvingQuery := query }
  reserved : ∀ s attemptRef endpointRef repair, attemptRef ∉ s.attemptRefs → s.children = [] → Inv s →
    Inv (s.reserved attemptRef endpointRef repair)
  child : ∀ s attemptRef stage resource deadlineMs, s.attemptRef = some attemptRef →
    s.lastElapsedMs < deadlineMs → Inv s →
      Inv (s.withChild attemptRef stage (stageDeadline policy s stage) { resource, deadlineMs })
  ended : ∀ s, Inv s → Inv (s.ended policy)

def withoutChild (s : TransportSelection) (permit : Permit) : TransportSelection :=
  { s with children := s.children.filter fun child => child.1 ≠ permit }

/-- The permit that an operation gives back. -/
def settles : SelectionOperation → Option Permit
  | .settleChild _ permit _ _ => some permit
  | _ => none

section Carried

variable {policy : SelectionPolicy} {Inv : TransportSelection → Prop} {s : TransportSelection}
  {current current' : Currency} {now : TransportTimeWindow} {α β : Type}
  {post : Except Failure β → TransportSelection → Prop}

theorem validate_of_eligible {candidate : TransportCandidate} {eligible : Bool}
    (h : policy.eligible candidate now = .ok eligible) : candidate.validate = .ok () := by
  unfold SelectionPolicy.eligible at h
  cases hvalidate : candidate.validate with
  | error e =>
    rw [hvalidate] at h
    cases h
  | ok a => rfl

theorem wp_carried {m : Selecting α} {f : α → Selecting β} (hm : Preserves (Carries Inv) m) (hs : Inv s)
    (herror : ∀ e s', Inv s' → post (.error e) s') (hok : ∀ a s', Inv s' → wp (f a) post s') :
    wp (m >>= f) post s := by
  rw [wp_bind]
  apply hm.wp
  intro r s' hcarries
  cases r with
  | ok a => exact hok a s' (hcarries hs)
  | error e => exact herror e s' (hcarries hs)

theorem carries_refuse (b : Prop) [Decidable b] (reason : String) :
    Preserves (Carries Inv) (refuse b reason) :=
  .ite .throw .pure

namespace Carried

variable (h : Carried policy Inv)
include h

variable (reason : String) (proof : TransportProofBatch)

theorem stopAttempt : Preserves (Carries Inv) (stopAttempt reason) :=
  fun s => h.stopped s reason

theorem cancel : Preserves (Carries Inv) (cancel reason) :=
  .bind (fun s => h.close s reason) fun _ => h.stopAttempt reason

theorem cancelFor (b : Prop) [Decidable b] (reason : String) :
    Preserves (Carries Inv) (cancelFor b reason) :=
  .ite (.bind (h.cancel reason) fun _ => .throw) .pure

theorem sample (network : Bool) (source : Option TransportTimeWindow) :
    Preserves (Carries Inv) (sample policy network source current) := by
  apply Preserves.ite
  · exact .bind (h.cancel _) fun _ => .throw
  · cases source with
    | none => exact .bind (h.cancel _) fun _ => .throw
    | some now =>
      have hchecked := Preserves.catching (h.check current now) fun failure =>
        .bind (h.cancel "policy_unavailable") fun _ => .throw (e := failure)
      exact .bind hchecked fun _ => .pure

theorem observe (now : Option TransportTimeWindow) :
    Preserves (Carries Inv) (observe policy now current) := by
  refine .bind .get fun s => ?_
  refine .ite .pure ?_
  cases now with
  | none => exact h.cancel _
  | some now =>
    apply Preserves.catching (h.check current now)
    intro failure
    exact .bind .get fun s => .ite .pure .throw

theorem shortlist (candidates : List TransportCandidate) (healthyTuple : Option Text) :
    Preserves (Carries Inv) (shortlist policy candidates now healthyTuple current) := by
  refine .bind (h.check current now) fun _ => ?_
  refine .bind (carries_refuse _ _) fun _ => ?_
  refine .bind .get fun s => ?_
  exact .bind .lift fun eligible => .pure

theorem resolveCandidate (attemptRef : Text) (permit : Permit) (candidate : TransportCandidate)
    (operationIsCurrent : Bool) :
    Preserves (Carries Inv) (resolveCandidate policy attemptRef permit candidate now operationIsCurrent) := by
  apply Preserves.catching
  · intro s hs
    show wp _ (fun _ s' => Inv s') s
    rw [wp_bind, wp_get, next_ok]
    apply wp_refuse fun _ => hs
    intro _
    rw [wp_bind, wp_lift]
    rcases heligible : policy.eligible candidate now with e | eligible
    · exact hs
    · rw [next_ok]
      apply wp_refuse fun _ => hs
      intro _
      apply wp_refuse fun _ => hs
      intro _
      exact h.candidate s candidate none (validate_of_eligible heligible) hs
  · intro failure
    exact .bind (h.stopAttempt _) fun _ => .throw

theorem requireProof (staged : Bool) :
    Preserves (Carries Inv) (requireProof policy proof now current staged) := by
  refine .bind .get fun s => ?_
  refine .bind (carries_refuse _ _) fun _ => ?_
  refine .bind (h.check current now) fun _ => ?_
  refine .bind (carries_refuse _ _) fun _ => ?_
  exact .bind .get fun s => carries_refuse _ _

theorem connected (f : TransportSelection → Option TransportNativeConnect) :
    Preserves (Carries Inv) (.modify fun s => { s with nativeConnect := f s } : Selecting Unit) := by
  intro s
  apply h.beside
  constructor <;> rfl

theorem promoteProof (staged handedOver : Bool) :
    Preserves (Carries Inv) (promoteProof policy proof now current staged handedOver) := by
  refine .bind (h.requireProof proof staged) fun _ => ?_
  refine .bind .get fun s => ?_
  exact .bind (carries_refuse _ _) fun _ => h.connected _

theorem prove : Preserves (Carries Inv) (prove proof) := by
  intro s
  apply h.beside
  constructor <;> rfl

theorem stopConfirmed (owner : TransportNativeConnect) :
    Preserves (Carries Inv) (stopConfirmed owner) := by
  refine .bind .get fun s => ?_
  refine .ite ?_ .pure
  have hacknowledged : Preserves (Carries Inv) (acknowledgeTunnelStopped owner.attemptRef) := by
    refine .bind .get fun s => ?_
    refine .bind (carries_refuse _ _) fun _ => ?_
    intro s
    apply h.beside
    constructor <;> rfl
  exact .bind hacknowledged fun _ => h.connected _

theorem reserveDiagnosticBytes (attemptRef : Text) (permit : Permit) (count : Int) :
    Preserves (Carries Inv) (reserveDiagnosticBytes policy attemptRef permit count now current) := by
  refine .bind (h.check current now) fun _ => ?_
  refine .bind .get fun s => ?_
  refine .bind (carries_refuse _ _) fun _ => ?_
  refine .bind (carries_refuse _ _) fun _ => ?_
  refine .bind (carries_refuse _ _) fun _ => ?_
  refine .bind (h.cancelFor _ _) fun _ => ?_
  intro s
  apply h.beside
  constructor <;> rfl

theorem settleChild (attemptRef : Text) (permit : Permit) (time : Option TransportTimeWindow)
    (hsettled : ∀ s, Inv s → Inv (s.withoutChild permit)) :
    Preserves (Carries Inv) (settleChild policy attemptRef permit time current) := by
  refine .bind .get fun s => ?_
  refine .bind (carries_refuse _ _) fun _ => ?_
  refine .bind (h.observe time) fun _ => ?_
  exact hsettled

theorem remember (result : TransportAttemptResult) :
    Preserves (Carries Inv) (remember policy result now) := by
  refine .bind .get fun s => ?_
  rcases s.candidate with _ | candidate
  · exact .pure
  · refine .ite ?_ .pure
    refine .bind .lift fun eligible => ?_
    refine .ite ?_ .pure
    intro s
    apply h.beside
    constructor <;> rfl

theorem requirePass (attemptRef : Text) (staged : Bool) :
    Preserves (Carries Inv) (requirePass policy attemptRef now current staged) := by
  refine .bind .get fun s => ?_
  refine .bind (carries_refuse _ _) fun _ => ?_
  rcases s.candidate with _ | candidate
  · exact .throw
  refine .bind .lift fun eligible => ?_
  refine .bind (carries_refuse _ _) fun _ => ?_
  rcases s.proofBatch with _ | proof
  · exact .throw
  refine .bind (carries_refuse _ _) fun _ => ?_
  refine .bind (h.requireProof proof staged) fun _ => ?_
  exact .bind .get fun s => carries_refuse _ _

theorem finishAttempt (attemptRef : Text) (result : TransportAttemptResult) (staged : Bool) :
    Preserves (Carries Inv) (finishAttempt policy attemptRef result now current current' staged) := by
  refine .bind .get fun s => ?_
  refine .bind (carries_refuse _ _) fun _ => ?_
  refine .bind (h.observe (some now)) fun _ => ?_
  have hrest : Preserves (Carries Inv) (do
      TransportSelection.remember policy result now
      .modify (TransportSelection.ended policy)
      if result = .pass then TransportSelection.cancel "selection_finished"
      else if result = .cancelled then TransportSelection.cancel "user_cancelled"
      else pure () : Selecting Unit) := by
    refine .bind (h.remember result) fun _ => ?_
    refine .bind (fun s => h.ended s) fun _ => ?_
    exact .ite (h.cancel _) (.ite (h.cancel _) .pure)
  apply Preserves.ite
  · refine .bind (h.requirePass attemptRef staged) fun _ => ?_
    refine .bind ?_ fun _ => hrest
    intro s
    apply h.beside
    constructor <;> rfl
  · refine .bind .get fun s => ?_
    exact .bind (carries_refuse _ _) fun _ => hrest

/-! ### Attempts and children -/

theorem reserveAttempt (attemptRef endpointRef : Text) (repair : Bool) :
    Preserves (Carries Inv) (reserveAttempt policy attemptRef endpointRef now repair current) := by
  intro s hs
  show wp (TransportSelection.reserveAttempt policy attemptRef endpointRef now repair current)
    (fun _ s' => Inv s') s
  apply wp_carried (h.check current now) hs fun _ _ hs' => hs'
  intro _ s1 hs1
  apply wp_refuse fun _ => hs1
  intro _
  rw [wp_bind, wp_get, next_ok]
  apply wp_refuse fun _ => hs1
  intro howned
  apply wp_refuse fun _ => hs1
  intro hreplay
  apply wp_refuse fun _ => hs1
  intro _
  apply wp_refuse fun _ => hs1
  intro _
  apply wp_refuse fun _ => hs1
  intro _
  apply wp_refuse fun _ => hs1
  intro _
  simp only [not_or, not_not] at howned
  exact h.reserved s1 attemptRef endpointRef repair hreplay howned.2.1 hs1

theorem beginAttempt (attemptRef : Text) (candidate : TransportCandidate) (repair : Bool) :
    Preserves (Carries Inv) (beginAttempt policy attemptRef candidate now repair current current') := by
  intro s hs
  show wp (TransportSelection.beginAttempt policy attemptRef candidate now repair current current')
    (fun _ s' => Inv s') s
  apply wp_carried (h.check current now) hs fun _ _ hs' => hs'
  intro _ s1 hs1
  rw [wp_bind, wp_lift]
  rcases heligible : policy.eligible candidate now with e | eligible
  · exact hs1
  · rw [next_ok]
    apply wp_refuse fun _ => hs1
    intro _
    rw [wp_bind, wp_get, next_ok]
    apply wp_refuse fun _ => hs1
    intro _
    apply wp_carried (h.reserveAttempt attemptRef candidate.endpointRef repair) hs1 fun _ _ hs' => hs'
    intro _ s2 hs2
    exact h.candidate s2 candidate s2.resolvingQuery (validate_of_eligible heligible) hs2

theorem reserveResolution (attemptRef : Text) (query : TransportProfileQuery) (repair : Bool) :
    Preserves (Carries Inv) (reserveResolution policy attemptRef query now repair current) := by
  refine .bind .lift fun _ => ?_
  refine .bind (h.reserveAttempt attemptRef query.endpointRef repair) fun _ => ?_
  intro s
  apply h.beside
  constructor <;> rfl

/-- A child that is begun finds its attempt and time left, after a check. -/
theorem wp_beginChild (hs : Inv s) {attemptRef : Text} {stage : TransportSelectionStage}
    {resource : TransportChildResource}
    {post : Except Failure (Permit × Int) → TransportSelection → Prop}
    (herror : ∀ e s', Inv s' → post (.error e) s')
    (hok : ∀ s1, TransportSelection.check policy current now s = (.ok (), s1) → Inv s1 → s1.attemptRef = some attemptRef →
      s1.attemptStop = none → s1.lastElapsedMs < childDeadline policy s1 stage now →
        post (.ok (s1.permits, childDeadline policy s1 stage now - s1.lastElapsedMs))
          (s1.withChild attemptRef stage (stageDeadline policy s1 stage)
            { resource, deadlineMs := childDeadline policy s1 stage now })) :
    wp (beginChild policy attemptRef stage resource now current) post s := by
  unfold beginChild
  have hcarries := h.check current now s hs
  rw [wp_bind]
  unfold wp
  rcases hcheck : TransportSelection.check policy current now s with ⟨answer, s1⟩
  rw [hcheck] at hcarries
  cases answer with
  | error e => exact herror e s1 hcarries
  | ok a =>
    rw [next_ok, wp_bind, wp_get, next_ok]
    apply wp_refuse fun _ => herror _ _ hcarries
    intro hattempt
    have hrequired : wp (requireCandidate policy stage resource now)
        (fun r s' => Inv s' ∧ (r = .ok () → s' = s1)) s1 := by
      unfold requireCandidate
      rw [wp_bind, wp_get, next_ok]
      rcases s1.candidate with _ | candidate
      · rcases s1.resolvingQuery with _ | query
        · exact ⟨hcarries, nofun⟩
        · apply wp_refuse fun _ => ⟨hcarries, nofun⟩
          intro _
          exact ⟨hcarries, fun _ => rfl⟩
      · rw [wp_bind, wp_lift]
        rcases policy.eligible candidate now with e | eligible
        · exact ⟨hcarries, nofun⟩
        · rw [next_ok]
          apply wp_ite
          · intro _
            exact ⟨h.stopped s1 _ hcarries, nofun⟩
          · intro _
            exact ⟨hcarries, fun _ => rfl⟩
    rw [wp_bind]
    apply wp_mono hrequired
    rintro (e | a) s2 ⟨hs2, hsame⟩
    · exact herror e s2 hs2
    · rw [next_ok, wp_bind, wp_get, next_ok, hsame rfl]
      apply wp_refuse fun _ => herror _ _ hcarries
      intro hstop
      apply wp_refuse fun _ => herror _ _ hcarries
      intro _
      apply wp_refuse fun _ => herror _ _ hcarries
      intro _
      apply wp_ite
      · intro _
        exact herror _ _ (h.stopped s1 _ hcarries)
      · intro hlate
        rw [wp_bind, wp_modify, next_ok, wp_pure]
        exact hok s1 hcheck hcarries (not_not.mp hattempt) (by simpa using hstop) (not_le.mp hlate)

theorem beginChild (attemptRef : Text) (stage : TransportSelectionStage)
    (resource : TransportChildResource) :
    Preserves (Carries Inv) (beginChild policy attemptRef stage resource now current) := by
  intro s hs
  show wp (TransportSelection.beginChild policy attemptRef stage resource now current)
    (fun _ s' => Inv s') s
  apply h.wp_beginChild hs fun _ _ hs' => hs'
  intro s1 _ hs1 hattempt _ hlate
  exact h.child s1 attemptRef stage resource _ hattempt hlate hs1

theorem connect (attemptRef : Text) :
    Preserves (Carries Inv) (connect policy attemptRef now current) := by
  refine .bind (h.beginChild attemptRef .transport .tunnel) fun answer => ?_
  exact .bind (h.connected _) fun _ => .pure

/-- Every operation carries the property on, if giving a permit back does. -/
theorem after (operation : SelectionOperation)
    (hsettled : ∀ permit, settles operation = some permit → ∀ s, Inv s → Inv (s.withoutChild permit))
    (hs : Inv s) : Inv (after policy s operation) := by
  cases operation with
  | shortlist candidates now healthyTuple current => exact h.shortlist candidates healthyTuple s hs
  | beginAttempt attemptRef candidate now repair current current' =>
    exact h.beginAttempt attemptRef candidate repair s hs
  | reserveResolution attemptRef query now repair current =>
    exact h.reserveResolution attemptRef query repair s hs
  | resolveCandidate attemptRef permit candidate now operationIsCurrent =>
    exact h.resolveCandidate attemptRef permit candidate operationIsCurrent s hs
  | beginChild attemptRef stage resource now current => exact h.beginChild attemptRef stage resource s hs
  | connect attemptRef now current => exact h.connect attemptRef s hs
  | reserveDiagnosticBytes attemptRef permit count now current =>
    exact h.reserveDiagnosticBytes attemptRef permit count s hs
  | settleChild attemptRef permit time current =>
    exact h.settleChild attemptRef permit time (hsettled permit rfl) s hs
  | sample network source current => exact h.sample network source s hs
  | requestStop permit => exact h.connected _ s hs
  | stopConfirmed owner => exact h.stopConfirmed owner s hs
  | extendConnect permit deadlineMs => exact h.connected _ s hs
  | prove proof => exact h.prove proof s hs
  | requireProof proof now current staged => exact h.requireProof proof staged s hs
  | promoteProof proof now current staged handedOver =>
    exact h.promoteProof proof staged handedOver s hs
  | finishAttempt attemptRef result now current current' staged =>
    exact h.finishAttempt attemptRef result staged s hs
  | stopAttempt reason => exact h.stopAttempt reason s hs
  | cancel reason => exact h.cancel reason s hs

theorem run (operations : List SelectionOperation)
    (hsettled : ∀ permit s, Inv s → Inv (s.withoutChild permit)) (hs : Inv s) :
    Inv (Runs.run (TransportSelection.after policy) s operations) :=
  Runs.keeps (fun _ operation hs => h.after operation (fun permit _ => hsettled permit) hs) hs operations

end Carried

end Carried

/-! ## Checks -/

section Check

variable {policy : SelectionPolicy} {s : TransportSelection} {current : Currency}
  {now : TransportTimeWindow} {post : Except Failure Unit → TransportSelection → Prop}

/-- The exits of a check: the selection was closed before, or it is closed now, or the
candidate is invalid, or the time is taken and what is late is stopped. -/
theorem wp_check_exits (hclosed : ∀ e, s.closed.isSome = true → post (.error e) s)
    (hcancelled : ∀ e reason s1, s1 = s ∨ s1 = s.observed now →
      s.lastElapsedMs ≤ now.sample.elapsedMilliseconds ∨ s1 = s →
        post (.error e) ((s1.close reason).stopped reason))
    (hinvalid : ∀ e candidate, s.candidate = some candidate → candidate.validate ≠ .ok () →
      s.lastElapsedMs ≤ now.sample.elapsedMilliseconds → post (.error e) (s.observed now))
    (hok : ∀ s1, s1 = s.observed now ∨ s1 = (s.observed now).stopped "candidate_ineligible" →
      s.closed = none → s.lastElapsedMs ≤ now.sample.elapsedMilliseconds →
      (now.sample.elapsedMilliseconds : Int) < policy.deadline.expiresElapsedMs →
      now.latest.micros < policy.effectiveExpiresAt.micros →
        post (.ok ()) (if s1.late = true then s1.stopped "stage_deadline" else s1)) :
    wp (check policy current now) post s := by
  have hcancelFor : ∀ {b : Prop} [Decidable b] {reason : String} {f : Unit → Selecting Unit} (s1),
      (s1 = s ∨ s1 = s.observed now) →
      (s.lastElapsedMs ≤ now.sample.elapsedMilliseconds ∨ s1 = s) →
      (¬ b → wp (f ()) post s1) → wp (cancelFor b reason >>= f) post s1 := by
    intro b _ reason f s1 hs1 htime hrest
    rw [wp_bind, cancelFor]
    exact wp_ite (fun _ => hcancelled _ reason s1 hs1 htime) hrest
  unfold check
  rw [wp_bind, wp_get, next_ok]
  apply wp_refuse (hclosed _)
  intro hopen
  apply hcancelFor s (.inl rfl) (.inr rfl)
  intro _
  apply hcancelFor s (.inl rfl) (.inr rfl)
  intro _
  apply hcancelFor s (.inl rfl) (.inr rfl)
  intro _
  apply hcancelFor s (.inl rfl) (.inr rfl)
  intro hclock
  apply hcancelFor s (.inl rfl) (.inr rfl)
  intro hdeadline
  simp only [clockInvalid, not_or, not_lt] at hclock
  have hforward := hclock.2.1
  have hwithin : (now.sample.elapsedMilliseconds : Int) < policy.deadline.expiresElapsedMs := by
    unfold TransportClockDeadline.requireCurrent at hdeadline
    split at hdeadline
    · exact absurd rfl hdeadline
    · rename_i hcurrent
      rw [not_or, not_or, not_le] at hcurrent
      exact hcurrent.2.2
  rw [wp_bind, wp_modify, next_ok]
  apply hcancelFor _ (.inr rfl) (.inl hforward)
  intro hexpires
  have hearlier : now.latest.micros < policy.effectiveExpiresAt.micros := by
    simpa [DateTime.isBefore] using hexpires
  have hlate : ∀ s1, s1 = s.observed now ∨ s1 = (s.observed now).stopped "candidate_ineligible" →
      wp (do
        let s ← .get
        if s.late = true then stopAttempt "stage_deadline" else pure ()) post s1 := by
    intro s1 hs1
    have hend := hok s1 hs1 (by simpa using hopen) hforward hwithin hearlier
    rw [wp_bind, wp_get, next_ok]
    by_cases hlate : s1.late = true
    · rw [if_pos hlate] at hend ⊢
      exact hend
    · rw [if_neg hlate] at hend ⊢
      exact hend
  rw [wp_bind]
  unfold checkCandidate
  rw [wp_bind, wp_get, next_ok]
  rcases hcandidate : s.candidate with _ | candidate
  · have hnone : (s.observed now).candidate = none := hcandidate
    rw [hnone]
    exact hlate _ (.inl rfl)
  · have hsome : (s.observed now).candidate = some candidate := hcandidate
    rw [hsome, wp_bind, wp_lift]
    rcases heligible : policy.eligible candidate now with e | eligible
    · apply hinvalid e candidate hcandidate _ hforward
      intro hvalid
      unfold SelectionPolicy.eligible at heligible
      rw [hvalid] at heligible
      cases heligible
    · rw [next_ok]
      apply wp_ite
      · intro _
        exact hlate _ (.inr rfl)
      · intro _
        exact hlate _ (.inl rfl)

/-- What stopping, closing and the clock keep, a check keeps. -/
theorem carries_check {Inv : TransportSelection → Prop}
    (hstopped : ∀ s reason, Inv s → Inv (s.stopped reason))
    (hclose : ∀ s reason, Inv s → Inv (s.close reason))
    (hobserved : ∀ s now, s.lastElapsedMs ≤ now.sample.elapsedMilliseconds → Inv s → Inv (s.observed now)) :
    Preserves (Carries Inv) (check policy current now) := by
  intro s hs
  show wp (check policy current now) (fun _ s' => Inv s') s
  apply wp_check_exits
  · exact fun _ _ => hs
  · rintro e reason s1 (rfl | rfl) hforward
    · exact hstopped _ _ (hclose _ _ hs)
    · rcases hforward with hforward | hsame
      · exact hstopped _ _ (hclose _ _ (hobserved _ _ hforward hs))
      · rw [hsame]
        exact hstopped _ _ (hclose _ _ hs)
  · exact fun _ _ _ _ hforward => hobserved _ _ hforward hs
  · rintro s1 hs1 - hforward - -
    have hmoved : Inv s1 := by
      rcases hs1 with rfl | rfl
      · exact hobserved _ _ hforward hs
      · exact hstopped _ _ (hobserved _ _ hforward hs)
    by_cases hlate : s1.late = true
    · rw [if_pos hlate]
      exact hstopped _ _ hmoved
    · rw [if_neg hlate]
      exact hmoved

end Check

/-! ## Paces -/

/-- The candidate in hand is valid, the deadlines of the stages are within the limits,
and no child is late in an attempt that goes on. -/
structure Paced (policy : SelectionPolicy) (s : TransportSelection) : Prop where
  valid : ∀ candidate, s.candidate = some candidate → candidate.validate = .ok ()
  stages : ∀ stage deadline, s.stageDeadlines.lookup stage = some deadline →
    deadline ≤ policy.deadline.expiresElapsedMs ∧
      deadline ≤ s.lastElapsedMs + policy.budget.stageCapsMs stage
  late : ∀ child ∈ s.children, child.2.deadlineMs ≤ s.lastElapsedMs → s.stopReason.isSome = true

/-- The stage of an attempt ends at a time, as long as the attempt goes on. -/
structure Held (attemptRef : Text) (stage : TransportSelectionStage) (bound : Int)
    (s : TransportSelection) : Prop where
  admitted : attemptRef ∈ s.attemptRefs
  deadline : s.attemptRef = some attemptRef →
    ∃ deadline, s.stageDeadlines.lookup stage = some deadline ∧ deadline ≤ bound

/-- A child with a deadline is live, unless its attempt was stopped or is over. -/
structure Watched (attemptRef : Text) (permit : Permit) (deadlineMs : Int) (s : TransportSelection) :
    Prop where
  admitted : attemptRef ∈ s.attemptRefs
  live : s.attemptRef = some attemptRef → s.stopReason.isSome = true ∨
    ∃ child ∈ s.children, child.1 = permit ∧ child.2.deadlineMs = deadlineMs

/-- An attempt that was stopped, or that is over. -/
structure Barred (attemptRef : Text) (s : TransportSelection) : Prop where
  admitted : attemptRef ∈ s.attemptRefs
  stopped : s.attemptRef = some attemptRef → s.stopReason.isSome = true

section Paced

variable {policy : SelectionPolicy} {s : TransportSelection} {attemptRef : Text}
  {stage : TransportSelectionStage} {bound : Int}

theorem stopReason_isSome :
    s.stopReason.isSome = true ↔ s.closed.isSome = true ∨ s.attemptStop.isSome = true := by
  unfold stopReason
  cases s.closed <;> simp

@[simp] theorem stopReason_stopped (s : TransportSelection) (reason : String) :
    (s.stopped reason).stopReason.isSome = true := by
  unfold stopReason stopped
  cases s.closed <;> cases s.attemptStop <;> rfl

theorem stopReason_close (s : TransportSelection) (reason : String) :
    (s.close reason).stopReason.isSome = true := by
  unfold stopReason close
  cases s.closed <;> rfl

theorem Paced.stopped (h : Paced policy s) (reason : String) : Paced policy (s.stopped reason) where
  valid := h.valid
  stages := h.stages
  late := fun _ _ _ => stopReason_stopped s reason

theorem Paced.close (h : Paced policy s) (reason : String) : Paced policy (s.close reason) where
  valid := h.valid
  stages := h.stages
  late := fun _ _ _ => stopReason_close s reason

/-- A later time, where what is late will be stopped. -/
theorem Paced.observed (h : Paced policy s) {now : TransportTimeWindow} {s1 : TransportSelection}
    (hforward : s.lastElapsedMs ≤ now.sample.elapsedMilliseconds)
    (hs1 : s1 = s.observed now ∨ s1 = (s.observed now).stopped "candidate_ineligible") :
    Paced policy (if s1.late = true then s1.stopped "stage_deadline" else s1) := by
  have hstages : ∀ stage deadline, s.stageDeadlines.lookup stage = some deadline →
      deadline ≤ policy.deadline.expiresElapsedMs ∧
        deadline ≤ (now.sample.elapsedMilliseconds : Int) + policy.budget.stageCapsMs stage := by
    intro stage deadline hdeadline
    obtain ⟨hle, hcap⟩ := h.stages stage deadline hdeadline
    exact ⟨hle, by omega⟩
  rcases hs1 with rfl | rfl
  · by_cases hlate : (s.observed now).late = true
    · rw [if_pos hlate]
      exact ⟨h.valid, hstages, fun _ _ _ => stopReason_stopped _ _⟩
    · rw [if_neg hlate]
      refine ⟨h.valid, hstages, fun child hchild hpassed => absurd ?_ hlate⟩
      simp only [TransportSelection.late, Bool.or_eq_true, List.any_eq_true, decide_eq_true_eq]
      exact .inl ⟨child, hchild, hpassed⟩
  · have hstopped : Paced policy ((s.observed now).stopped "candidate_ineligible") :=
      ⟨h.valid, hstages, fun _ _ _ => stopReason_stopped _ _⟩
    by_cases hlate : ((s.observed now).stopped "candidate_ineligible").late = true
    · rw [if_pos hlate]
      exact hstopped.stopped _
    · rw [if_neg hlate]
      exact hstopped

theorem Paced.check {current : Currency} {now : TransportTimeWindow} (h : Paced policy s) :
    Paced policy (check policy current now s).2 := by
  show wp (TransportSelection.check policy current now) (fun _ s' => Paced policy s') s
  apply wp_check_exits
  · exact fun _ _ => h
  · rintro e reason s1 (rfl | rfl) hforward
    · exact (h.close reason).stopped reason
    · refine ⟨h.valid, ?_, fun _ _ _ => stopReason_stopped _ _⟩
      intro stage deadline hdeadline
      obtain ⟨hle, hcap⟩ := h.stages stage deadline hdeadline
      rcases hforward with hforward | hsame
      · exact ⟨hle, hcap.trans (Int.add_le_add_right hforward _)⟩
      · exact ⟨hle, hsame ▸ hcap⟩
  · exact fun e candidate hcandidate hinvalid => absurd (h.valid candidate hcandidate) hinvalid
  · exact fun s1 hs1 _ hforward _ _ => h.observed hforward hs1

/-- The deadline that a child leaves its stage with is within the limits. -/
theorem Paced.stageDeadline_le (h : Paced policy s) (stage : TransportSelectionStage) :
    stageDeadline policy s stage ≤ policy.deadline.expiresElapsedMs ∧
      stageDeadline policy s stage ≤ s.lastElapsedMs + policy.budget.stageCapsMs stage := by
  unfold stageDeadline
  cases hlookup : s.stageDeadlines.lookup stage with
  | none =>
    rw [Option.getD_none]
    exact ⟨min_le_left _ _, min_le_right _ _⟩
  | some deadline =>
    rw [Option.getD_some]
    exact h.stages stage deadline hlookup

theorem lookup_withChild (s : TransportSelection) (attemptRef : Text)
    (stage other : TransportSelectionStage) (child : TransportChild) :
    (s.withChild attemptRef stage (stageDeadline policy s stage) child).stageDeadlines.lookup other =
      if other = stage then some (stageDeadline policy s stage) else s.stageDeadlines.lookup other := by
  show List.lookup other ((stage, _) :: s.stageDeadlines) = _
  rw [List.lookup_cons]
  by_cases hsame : other = stage
  · subst hsame
    simp
  · rw [beq_eq_false_iff_ne.mpr hsame, if_neg hsame]

theorem carried_paced : Carried policy (Paced policy) where
  stopped := fun _ reason h => h.stopped reason
  close := fun _ reason h => h.close reason
  check := fun _ _ _ h => h.check
  beside := by
    intro s s' hsame h
    constructor
    · rw [hsame.candidate]
      exact h.valid
    · rw [hsame.stageDeadlines, hsame.lastElapsedMs]
      exact h.stages
    · rw [hsame.children, hsame.lastElapsedMs, stopReason, hsame.closed, hsame.attemptStop]
      exact h.late
  candidate := by
    intro s candidate query hvalid h
    refine ⟨fun other hother => ?_, h.stages, h.late⟩
    cases hother
    exact hvalid
  reserved := by
    intro s attemptRef endpointRef repair _ hchildren h
    refine ⟨fun candidate hnone => ?_, fun stage deadline hnone => ?_, fun child hchild => ?_⟩
    · cases hnone
    · cases hnone
    rw [show (s.reserved attemptRef endpointRef repair).children = [] from hchildren] at hchild
    cases hchild
  child := by
    intro s attemptRef stage resource deadlineMs hattempt hlate h
    refine ⟨h.valid, fun other deadline hdeadline => ?_, fun child hchild hpassed => ?_⟩
    · rw [lookup_withChild] at hdeadline
      split at hdeadline
      · rename_i hsame
        cases hdeadline
        exact hsame ▸ h.stageDeadline_le stage
      · exact h.stages other deadline hdeadline
    · rcases List.mem_append.mp hchild with hold | hnew
      · exact h.late child hold hpassed
      · rw [List.mem_singleton] at hnew
        subst hnew
        exact absurd hpassed (not_le.mpr hlate)
  ended := by
    intro s h
    refine ⟨fun candidate hnone => ?_, h.stages, h.late⟩
    cases hnone

theorem Paced.withoutChild (h : Paced policy s) (permit : Permit) : Paced policy (s.withoutChild permit) :=
  ⟨h.valid, h.stages, fun child hchild => h.late child (List.mem_filter.mp hchild).1⟩

theorem carried_held : Carried policy (Held attemptRef stage bound) where
  stopped := fun _ _ h => ⟨h.admitted, h.deadline⟩
  close := fun _ _ h => ⟨h.admitted, h.deadline⟩
  check := fun _ _ => carries_check (fun _ _ h => ⟨h.admitted, h.deadline⟩)
    (fun _ _ h => ⟨h.admitted, h.deadline⟩) fun _ _ _ h => ⟨h.admitted, h.deadline⟩
  beside := by
    intro s s' hsame h
    constructor
    · rw [hsame.attemptRefs]
      exact h.admitted
    · rw [hsame.attemptRef, hsame.stageDeadlines]
      exact h.deadline
  candidate := fun _ _ _ _ h => ⟨h.admitted, h.deadline⟩
  reserved := by
    intro s other endpointRef repair hnew _ h
    refine ⟨List.mem_append_left _ h.admitted, fun hsame => ?_⟩
    cases hsame
    exact absurd h.admitted hnew
  child := by
    intro s other stage' resource deadlineMs hattempt _ h
    refine ⟨h.admitted, fun hsame => ?_⟩
    obtain ⟨deadline, hlookup, hbound⟩ := h.deadline hsame
    rw [lookup_withChild]
    by_cases hstage : stage = stage'
    · subst hstage
      rw [if_pos rfl, stageDeadline, hlookup]
      exact ⟨deadline, rfl, hbound⟩
    · rw [if_neg hstage]
      exact ⟨deadline, hlookup, hbound⟩
  ended := fun _ h => ⟨h.admitted, nofun⟩

theorem carried_barred : Carried policy (Barred attemptRef) where
  stopped := fun s reason h => ⟨h.admitted, fun _ => stopReason_stopped s reason⟩
  close := fun s reason h => ⟨h.admitted, fun _ => stopReason_close s reason⟩
  check := fun _ _ => carries_check
    (fun s reason h => ⟨h.admitted, fun _ => stopReason_stopped s reason⟩)
    (fun s reason h => ⟨h.admitted, fun _ => stopReason_close s reason⟩)
    fun _ _ _ h => ⟨h.admitted, h.stopped⟩
  beside := by
    intro s s' hsame h
    constructor
    · rw [hsame.attemptRefs]
      exact h.admitted
    · rw [hsame.attemptRef, stopReason, hsame.closed, hsame.attemptStop]
      exact h.stopped
  candidate := fun _ _ _ _ h => ⟨h.admitted, h.stopped⟩
  reserved := by
    intro s other endpointRef repair hnew _ h
    refine ⟨List.mem_append_left _ h.admitted, fun hsame => ?_⟩
    cases hsame
    exact absurd h.admitted hnew
  child := fun _ _ _ _ _ _ _ h => ⟨h.admitted, h.stopped⟩
  ended := fun _ h => ⟨h.admitted, nofun⟩

variable {deadlineMs : Int}

theorem Watched.stopped {permit : Permit} (h : Watched attemptRef permit deadlineMs s)
    (reason : String) : Watched attemptRef permit deadlineMs (s.stopped reason) :=
  ⟨h.admitted, fun _ => .inl (stopReason_stopped s reason)⟩

theorem Watched.close {permit : Permit} (h : Watched attemptRef permit deadlineMs s)
    (reason : String) : Watched attemptRef permit deadlineMs (s.close reason) :=
  ⟨h.admitted, fun _ => .inl (stopReason_close s reason)⟩

theorem carried_watched {permit : Permit} :
    Carried policy (Watched attemptRef permit deadlineMs) where
  stopped := fun _ reason h => h.stopped reason
  close := fun _ reason h => h.close reason
  check := fun _ _ => carries_check (fun _ reason h => h.stopped reason)
    (fun _ reason h => h.close reason) fun _ _ _ h => ⟨h.admitted, h.live⟩
  beside := by
    intro s s' hsame h
    constructor
    · rw [hsame.attemptRefs]
      exact h.admitted
    · rw [hsame.attemptRef, stopReason, hsame.closed, hsame.attemptStop, hsame.children]
      exact h.live
  candidate := fun _ _ _ _ h => ⟨h.admitted, h.live⟩
  reserved := by
    intro s other endpointRef repair hnew _ h
    refine ⟨List.mem_append_left _ h.admitted, fun hsame => ?_⟩
    cases hsame
    exact absurd h.admitted hnew
  child := by
    intro s other stage resource deadlineMs _ _ h
    refine ⟨h.admitted, fun hsame => ?_⟩
    rcases h.live hsame with hstop | ⟨child, hchild, heq⟩
    · exact .inl hstop
    · exact .inr ⟨child, List.mem_append_left _ hchild, heq⟩
  ended := fun _ h => ⟨h.admitted, nofun⟩

/-- A child that is late in a selection in order bars its attempt. -/
theorem Watched.barred {permit : Permit} (h : Watched attemptRef permit deadlineMs s)
    (hs : Paced policy s) (hlate : deadlineMs ≤ s.lastElapsedMs) : Barred attemptRef s := by
  refine ⟨h.admitted, fun hsame => ?_⟩
  rcases h.live hsame with hstop | ⟨child, hchild, -, hdeadline⟩
  · exact hstop
  · exact hs.late child hchild (hdeadline.trans_le hlate)

/-- An attempt that is barred does not pass. -/
theorem Barred.finishAttempt_ne_ok (h : Barred attemptRef s) (now : TransportTimeWindow)
    (current current' : Currency) (staged : Bool) :
    (finishAttempt policy attemptRef .pass now current current' staged s).1 ≠ .ok () := by
  show wp (finishAttempt policy attemptRef .pass now current current' staged) (fun r _ => r ≠ .ok ()) s
  unfold finishAttempt
  rw [wp_bind, wp_get, next_ok]
  apply wp_refuse fun _ => nofun
  intro howned
  rw [not_or, not_not] at howned
  have hsame := howned.1
  have hbarred : Carried policy (Barred attemptRef) := carried_barred
  have hobserve : Barred attemptRef (observe policy (some now) current s).2 :=
    hbarred.observe (some now) s h
  have hcalm : Calm s (observe policy (some now) current s).2 := keeps_observe (some now) s
  have hkept := hcalm.attemptRef
  rw [wp_bind]
  unfold wp
  rcases hresult : observe policy (some now) current s with ⟨answer, s1⟩
  rw [hresult] at hobserve hkept
  cases answer with
  | error e => exact nofun
  | ok a =>
    have hstop : s1.stopReason.isSome = true := hobserve.stopped (hkept.trans hsame)
    rw [next_ok, if_pos rfl, wp_bind]
    unfold requirePass
    rw [wp_bind, wp_get, next_ok]
    apply wp_refuse fun _ => nofun
    intro hgoing
    exact absurd (stopReason_isSome.mp hstop) hgoing

end Paced

/-! ## Permits -/

/-- `TransportChildPermit`, with what it was given for. -/
structure TransportChildPermit where
  attemptRef : Text
  stage : TransportSelectionStage
  candidate : Option TransportCandidate
  budgetStartedAt : TransportTimeWindow
  remainingBudget : Int

namespace TransportChildPermit

variable (permit : TransportChildPermit)

def startedMs : Int := permit.budgetStartedAt.sample.elapsedMilliseconds

def endsMs : Int := permit.startedMs + permit.remainingBudget

/-- The trusted latest time in microseconds, so many milliseconds into the budget. -/
def latestAfter (elapsedMs : Int) : Int := permit.budgetStartedAt.latest.micros + 1000 * elapsedMs

/-- The four limits of a permit. -/
structure Within (policy : SelectionPolicy) : Prop where
  positive : 0 < permit.remainingBudget
  stage : permit.endsMs ≤ permit.startedMs + policy.budget.stageCapsMs permit.stage
  deadline : permit.endsMs ≤ policy.deadline.expiresElapsedMs
  expires : permit.latestAfter permit.remainingBudget ≤ policy.effectiveExpiresAt.micros
  authorized : ∀ candidate, permit.candidate = some candidate →
    permit.latestAfter permit.remainingBudget ≤ candidate.authorizedUntil.micros

end TransportChildPermit

/-- The permit that an answer of `beginChild` carries. -/
def permitOf (s : TransportSelection) (attemptRef : Text) (stage : TransportSelectionStage)
    (now : TransportTimeWindow) : Except Failure (Permit × Int) → Option TransportChildPermit
  | .ok (_, remainingBudget) => some ⟨attemptRef, stage, s.candidate, now, remainingBudget⟩
  | .error _ => none

/-- The permit that an operation gives. -/
def granted (policy : SelectionPolicy) (s : TransportSelection) :
    SelectionOperation → Option TransportChildPermit
  | .beginChild attemptRef stage resource now current =>
    permitOf s attemptRef stage now (beginChild policy attemptRef stage resource now current s).1
  | .connect attemptRef now current =>
    permitOf s attemptRef .transport now (beginChild policy attemptRef .transport .tunnel now current s).1
  | _ => none

section Granted

variable {policy : SelectionPolicy} {s : TransportSelection} {current : Currency}
  {now : TransportTimeWindow}

/-- A check that does not throw has taken the time, and kept the candidate. -/
theorem check_eq_ok {s' : TransportSelection} (h : check policy current now s = (.ok (), s')) :
    s'.lastElapsedMs = now.sample.elapsedMilliseconds ∧ s'.candidate = s.candidate ∧
      Calm s s' := by
  have hcalm : Calm s (check policy current now s).2 := keeps_check s
  have hends : wp (check policy current now) (fun r s' => r = .ok () →
      s'.lastElapsedMs = now.sample.elapsedMilliseconds ∧ s'.candidate = s.candidate) s := by
    apply wp_check_exits
    · exact fun _ _ => nofun
    · exact fun _ _ _ _ _ => nofun
    · exact fun _ _ _ _ _ => nofun
    · rintro s1 (rfl | rfl) - - - - - <;> split <;> exact ⟨rfl, rfl⟩
  unfold wp at hends
  rw [h] at hcalm hends
  exact ⟨(hends rfl).1, (hends rfl).2, hcalm⟩

/-- The time that is left of a policy, from the milliseconds that are left. -/
theorem micros_le_of_millisecondsUntil {expires latest : DateTime} {ms : Int} (hpos : 0 < ms)
    (h : ms ≤ millisecondsUntil expires latest) : latest.micros + 1000 * ms ≤ expires.micros := by
  unfold millisecondsUntil at h
  have hle := Sampling.mul_tdiv_le (d := 1000) (by decide) (hpos.trans_le h)
  omega

/-- What a permit is to the state before it and to the one after: it is within the
limits and within what is held of its stage, and its own cap is held from then on. -/
structure Given (policy : SelectionPolicy) (s : TransportSelection) (permit : TransportChildPermit)
    (s' : TransportSelection) : Prop where
  within : permit.Within policy
  bounded : ∀ bound, Held permit.attemptRef permit.stage bound s → permit.endsMs ≤ bound
  held : Held permit.attemptRef permit.stage
    (permit.startedMs + policy.budget.stageCapsMs permit.stage) s'

theorem given_child {s1 : TransportSelection} (haccounted : Accounted policy s) {attemptRef : Text}
    {stage : TransportSelectionStage} {resource : TransportChildResource}
    (hcheck : check policy current now s = (.ok (), s1)) (hs1 : Paced policy s1)
    (hattempt : s1.attemptRef = some attemptRef)
    (hlate : s1.lastElapsedMs < childDeadline policy s1 stage now) :
    Given policy s
      ⟨attemptRef, stage, s.candidate, now, childDeadline policy s1 stage now - s1.lastElapsedMs⟩
      (s1.withChild attemptRef stage (stageDeadline policy s1 stage)
        { resource, deadlineMs := childDeadline policy s1 stage now }) := by
  obtain ⟨helapsed, hcandidate, hcalm⟩ := check_eq_ok hcheck
  obtain ⟨hdeadline, hcap⟩ := hs1.stageDeadline_le stage
  have hstage : childDeadline policy s1 stage now ≤ stageDeadline policy s1 stage := min_le_left _ _
  have hvalidity : childDeadline policy s1 stage now ≤
      s1.lastElapsedMs + millisecondsUntil policy.effectiveExpiresAt now.latest := by
    unfold childDeadline
    cases s1.candidate with
    | none => exact min_le_right _ _
    | some candidate => exact (min_le_right _ _).trans (min_le_left _ _)
  have hpositive : 0 < childDeadline policy s1 stage now - s1.lastElapsedMs := by omega
  have hends : now.sample.elapsedMilliseconds +
      (childDeadline policy s1 stage now - s1.lastElapsedMs) = childDeadline policy s1 stage now := by
    omega
  constructor
  case within =>
    constructor
    · exact hpositive
    · exact hends.trans_le (hstage.trans (hcap.trans_eq (by rw [helapsed]; rfl)))
    · exact hends.trans_le (hstage.trans hdeadline)
    · exact micros_le_of_millisecondsUntil hpositive (sub_left_le_of_le_add hvalidity)
    · intro candidate hsome
      have hsome' : s1.candidate = some candidate := hcandidate.trans hsome
      have hauthorized : childDeadline policy s1 stage now ≤
          s1.lastElapsedMs + millisecondsUntil candidate.authorizedUntil now.latest := by
        unfold childDeadline
        rw [hsome']
        exact (min_le_right _ _).trans (min_le_right _ _)
      exact micros_le_of_millisecondsUntil hpositive (sub_left_le_of_le_add hauthorized)
  case bounded =>
    intro bound hheld
    have hcarried : Carried policy (Held attemptRef stage bound) := carried_held
    have hkept := hcarried.check current now s hheld
    rw [hcheck] at hkept
    obtain ⟨deadline, hlookup, hle⟩ := hkept.deadline hattempt
    have hsame : stageDeadline policy s1 stage = deadline := by
      unfold stageDeadline
      rw [show s1.stageDeadlines.lookup stage = some deadline from hlookup, Option.getD_some]
    exact hends.trans_le (hstage.trans (hsame.trans_le hle))
  case held =>
    refine ⟨(haccounted.calm hcalm).current attemptRef hattempt, fun _ => ?_⟩
    show ∃ deadline, List.lookup stage (s1.withChild _ _ _ _).stageDeadlines = _ ∧ _
    rw [lookup_withChild, if_pos rfl]
    exact ⟨_, rfl, hcap.trans_eq (by rw [helapsed]; rfl)⟩

theorem given_beginChild (hs : Paced policy s) (haccounted : Accounted policy s) {attemptRef : Text}
    {stage : TransportSelectionStage} {resource : TransportChildResource} {permit : TransportChildPermit}
    (h : permitOf s attemptRef stage now
      (beginChild policy attemptRef stage resource now current s).1 = some permit) :
    Given policy s permit (beginChild policy attemptRef stage resource now current s).2 := by
  have hends : wp (beginChild policy attemptRef stage resource now current) (fun r s' =>
      permitOf s attemptRef stage now r = some permit → Given policy s permit s') s := by
    apply carried_paced.wp_beginChild hs
    · exact fun _ _ _ => nofun
    · intro s1 hcheck hs1 hattempt _ hlate hpermit
      cases hpermit
      exact given_child haccounted hcheck hs1 hattempt hlate
  exact hends h

theorem granted_eq_some (hs : Paced policy s) (haccounted : Accounted policy s)
    {operation : SelectionOperation} {permit : TransportChildPermit}
    (h : granted policy s operation = some permit) :
    Given policy s permit (after policy s operation) := by
  cases operation with
  | beginChild attemptRef stage resource now current => exact given_beginChild hs haccounted h
  | connect attemptRef now current =>
    have hgiven : Given policy s permit
        (beginChild policy attemptRef .transport .tunnel now current s).2 :=
      given_beginChild hs haccounted h
    refine ⟨hgiven.within, hgiven.bounded, ?_⟩
    have hheld := hgiven.held
    show Held _ _ _ (Stateful.bind _ _ s).2
    unfold Stateful.bind
    rcases hresult : beginChild policy attemptRef .transport .tunnel now current s with ⟨answer, s1⟩
    rw [hresult] at hheld
    cases answer with
    | error e => exact hheld
    | ok a => exact ⟨hheld.admitted, hheld.deadline⟩
  | _ => cases h

end Granted

/-! ## Runs -/

section Runs

variable {policy : SelectionPolicy}

theorem paced_created {contextMatches : Bool} {now : TransportTimeWindow} {current : Currency}
    {s : TransportSelection} (h : create policy contextMatches now current = .ok s) : Paced policy s := by
  unfold create at h
  split at h
  · cases h
  · have hfresh : Paced policy
        { lastElapsedMs := now.sample.elapsedMilliseconds, lastLatest := now.latest } := by
      constructor <;> simp
    have hcheck : Paced policy (check policy current now _).2 := hfresh.check
    split at h
    next heq =>
      rw [heq] at hcheck
      cases h
      exact hcheck
    next => cases h

theorem Paced.after {s : TransportSelection} (hs : Paced policy s) (operation : SelectionOperation) :
    Paced policy (TransportSelection.after policy s operation) :=
  carried_paced.after operation (fun permit _ _ h => h.withoutChild permit) hs

/-- A child whose deadline an operation has observed bars the attempt. -/
theorem barred_after {s : TransportSelection} (hs : Paced policy s) {attemptRef : Text}
    (hadmitted : attemptRef ∈ s.attemptRefs) {child : Permit × TransportChild} (hchild : child ∈ s.children)
    (operation : SelectionOperation)
    (hlate : child.2.deadlineMs ≤ (after policy s operation).lastElapsedMs) :
    Barred attemptRef (after policy s operation) := by
  have hwatched : Watched attemptRef child.1 child.2.deadlineMs s :=
    ⟨hadmitted, fun _ => .inr ⟨child, hchild, rfl, rfl⟩⟩
  have hcarried : Carried policy (Watched attemptRef child.1 child.2.deadlineMs) := carried_watched
  by_cases hsettles : settles operation = some child.1
  · cases operation with
    | settleChild ref permit time current =>
      -- the clock is read before the child is given up
      have hbarred : Preserves (fun s s' => Paced policy s → Watched attemptRef child.1 child.2.deadlineMs s →
          child.2.deadlineMs ≤ s'.lastElapsedMs → Barred attemptRef s')
          (settleChild policy ref permit time current) := by
        intro s hs hwatched
        show wp (settleChild policy ref permit time current) (fun _ s' =>
          child.2.deadlineMs ≤ s'.lastElapsedMs → Barred attemptRef s') s
        unfold settleChild
        rw [wp_bind, wp_get, next_ok]
        apply wp_refuse fun _ => hwatched.barred hs
        intro _
        rw [wp_bind]
        have hpaced : Paced policy (observe policy time current s).2 := carried_paced.observe time s hs
        have hkept : Watched attemptRef child.1 child.2.deadlineMs (observe policy time current s).2 :=
          hcarried.observe time s hwatched
        unfold wp
        rcases hresult : observe policy time current s with ⟨answer, s1⟩
        rw [hresult] at hpaced hkept
        cases answer with
        | error e => exact hkept.barred hpaced
        | ok a =>
          intro hlate
          obtain ⟨hin, hstop⟩ := hkept.barred hpaced hlate
          exact ⟨hin, hstop⟩
      exact hbarred s hs hwatched hlate
    | _ => cases hsettles
  · have hkept := hcarried.after operation (fun permit hpermit s1 h => ?_) hwatched
    · exact hkept.barred (hs.after operation) hlate
    · refine ⟨h.admitted, fun hsame => (h.live hsame).imp_right fun ⟨other, hother, hkey⟩ => ?_⟩
      refine ⟨other, List.mem_filter.mpr ⟨hother, ?_⟩, hkey⟩
      rw [decide_eq_true_iff, hkey.1]
      rintro rfl
      exact hsettles hpermit

theorem barred_check {s : TransportSelection} (hs : Paced policy s) {attemptRef : Text}
    (hadmitted : attemptRef ∈ s.attemptRefs) {child : Permit × TransportChild} (hchild : child ∈ s.children)
    (current : Currency) {now : TransportTimeWindow}
    (hlate : child.2.deadlineMs ≤ now.sample.elapsedMilliseconds) :
    Barred attemptRef (check policy current now s).2 := by
  show wp (check policy current now) (fun _ s' => Barred attemptRef s') s
  apply wp_check_exits
  · exact fun _ hclosed => ⟨hadmitted, fun _ => stopReason_isSome.mpr (.inl hclosed)⟩
  · rintro e reason s1 (rfl | rfl) -
    · exact ⟨hadmitted, fun _ => stopReason_stopped _ _⟩
    · exact ⟨hadmitted, fun _ => stopReason_stopped _ _⟩
  · exact fun e candidate hcandidate hinvalid => absurd (hs.valid candidate hcandidate) hinvalid
  · rintro s1 (rfl | rfl) - - - -
    · rw [if_pos]
      · exact ⟨hadmitted, fun _ => stopReason_stopped _ _⟩
      · simp only [late, Bool.or_eq_true, List.any_eq_true, decide_eq_true_eq]
        exact .inl ⟨child, hchild, hlate⟩
    · split
      · exact ⟨hadmitted, fun _ => stopReason_stopped _ _⟩
      · exact ⟨hadmitted, fun _ => stopReason_stopped _ _⟩

theorem Barred.run {s : TransportSelection} {attemptRef : Text} (h : Barred attemptRef s)
    (operations : List SelectionOperation) :
    Barred attemptRef (Runs.run (TransportSelection.after policy) s operations) :=
  carried_barred.run operations (fun _ _ h => ⟨h.admitted, h.stopped⟩) h

/-- In every run the permits are within the limits, and all permits of a stage in an
attempt end within its cap of the first. An attempt with a child whose deadline was
observed does not pass. -/
theorem stage_budgets {contextMatches : Bool} {now : TransportTimeWindow} {current : Currency}
    {created : TransportSelection} (hcreate : create policy contextMatches now current = .ok created)
    (operations : List SelectionOperation) :
    let s := Runs.run (after policy) created operations
    (∀ operation permit, granted policy s operation = some permit →
      permit.Within policy ∧
      ∀ later operation' permit',
        granted policy (Runs.run (after policy) (after policy s operation) later) operation' =
          some permit' →
        permit'.attemptRef = permit.attemptRef → permit'.stage = permit.stage →
          permit'.endsMs ≤ permit.startedMs + policy.budget.stageCapsMs permit.stage) ∧
    ∀ attemptRef child, s.attemptRef = some attemptRef → child ∈ s.children →
      ∀ s', ((∃ current now, child.2.deadlineMs ≤ (now.sample.elapsedMilliseconds : Int) ∧
            s' = (check policy current now s).2) ∨
          ∃ operation, child.2.deadlineMs ≤ (after policy s operation).lastElapsedMs ∧
            s' = after policy s operation) →
        ∀ later now current current' staged,
          (finishAttempt policy attemptRef .pass now current current' staged
            (Runs.run (after policy) s' later)).1 ≠ .ok () := by
  intro s
  have hs : Paced policy s := Runs.keeps (fun _ operation hs => hs.after operation)
    (paced_created hcreate) operations
  have haccounted : Accounted policy s := (selection_accounting hcreate operations).1
  refine ⟨fun operation permit hgranted => ?_, fun attemptRef child hattempt hchild s' hs' => ?_⟩
  · have hgiven := granted_eq_some hs haccounted hgranted
    refine ⟨hgiven.within, fun later operation' permit' hgranted' hsame hstage => ?_⟩
    have hcarried : Carried policy (Held permit.attemptRef permit.stage
        (permit.startedMs + policy.budget.stageCapsMs permit.stage)) := carried_held
    have hheld := hcarried.run later (fun _ _ h => ⟨h.admitted, h.deadline⟩) hgiven.held
    have hpaced := Runs.keeps (fun _ operation hs => hs.after operation) (hs.after operation) later
    have haccounted' := Runs.keeps (fun _ operation hs => hs.after operation)
      (haccounted.after operation) later
    exact (granted_eq_some hpaced haccounted' hgranted').bounded _ (by rw [hsame, hstage]; exact hheld)
  · have hadmitted := haccounted.current attemptRef hattempt
    have hbarred : Barred attemptRef s' := by
      rcases hs' with ⟨current, now, hlate, rfl⟩ | ⟨operation, hlate, rfl⟩
      · exact barred_check hs hadmitted hchild current hlate
      · exact barred_after hs hadmitted hchild operation hlate
    intro later now current current' staged
    exact (hbarred.run later).finishAttempt_ne_ok now current current' staged

/-! A child that is begun a second before the policy expires. -/

def shortPolicy : SelectionPolicy :=
  { somePolicy with
    budget := { somePolicy.budget with stageCapsMs := fun _ => 5000 }
    effectiveExpiresAt := someTime 1000000 }

def shortBegin : SelectionOperation :=
  .beginAttempt (someRef "attempt") someCandidate someNow false someCurrency someCurrency

def shortChild : SelectionOperation :=
  .beginChild (someRef "attempt") .profile .preparation someNow someCurrency

theorem short_create : create shortPolicy true someNow someCurrency = .ok someSelection := rfl

/-- What is left of the policy is left to the permit, up to the time that it expires. -/
theorem short_granted :
    (granted shortPolicy (Runs.run (after shortPolicy) someSelection [shortBegin]) shortChild).map
      (fun permit => (permit.startedMs, permit.remainingBudget, permit.latestAfter permit.remainingBudget)) =
        some (5, 999, 1000000) := by decide

theorem short_not_before :
    create shortPolicy true someNow someCurrency = .ok someSelection ∧
      ∃ permit, granted shortPolicy (Runs.run (after shortPolicy) someSelection [shortBegin]) shortChild =
          some permit ∧
        ¬ permit.latestAfter permit.remainingBudget < shortPolicy.effectiveExpiresAt.micros := by
  obtain ⟨permit, hgranted, hvalues⟩ := Option.map_eq_some_iff.mp short_granted
  refine ⟨short_create, permit, hgranted, ?_⟩
  simp only [Prod.mk.injEq] at hvalues
  rw [hvalues.2.2]
  decide

def shortSettle : SelectionOperation :=
  .settleChild (someRef "attempt") 0 (some someNow) someCurrency

/-- A second child of the stage is granted after the first has settled. -/
theorem short_stages :
    (granted shortPolicy (Runs.run (after shortPolicy) someSelection [shortBegin]) shortChild).map
        (fun permit => (permit.attemptRef, permit.stage)) = some (someRef "attempt", .profile) ∧
      (granted shortPolicy (Runs.run (after shortPolicy) someSelection
        [shortBegin, shortChild, shortSettle]) shortChild).map
          (fun permit => (permit.attemptRef, permit.stage)) = some (someRef "attempt", .profile) := by
  decide

theorem short_within :
    ∃ first second,
      granted shortPolicy (Runs.run (after shortPolicy) someSelection [shortBegin]) shortChild =
        some first ∧
      granted shortPolicy (Runs.run (after shortPolicy) someSelection
        [shortBegin, shortChild, shortSettle]) shortChild = some second ∧
      first.Within shortPolicy ∧ second.endsMs ≤ first.startedMs + 5000 := by
  obtain ⟨first, hfirst, hone⟩ := Option.map_eq_some_iff.mp short_stages.1
  obtain ⟨second, hsecond, htwo⟩ := Option.map_eq_some_iff.mp short_stages.2
  obtain ⟨hattempt, hstage⟩ := Prod.mk.inj (htwo.trans hone.symm)
  obtain ⟨hwithin, hlater⟩ := (stage_budgets short_create [shortBegin]).1 shortChild first hfirst
  exact ⟨first, second, hfirst, hsecond, hwithin,
    hlater [shortSettle] shortChild second hsecond hattempt hstage⟩

end Runs

end Pokrov.AppShell.TransportSelection
