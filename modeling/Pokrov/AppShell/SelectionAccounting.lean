import Pokrov.AppShell.TransportSelection

/-!
# What a selection spends and owns

A method of the selection stops it, closes it or looks at the clock, which spends
and owns nothing, and does at most one thing more: it reserves an attempt, begins
or settles a child, reserves bytes, ends the attempt or gives up the tunnel.
-/

namespace Pokrov.AppShell.TransportSelection

open Dart Stateful

/-! ## Calm steps -/

def childKey (child : Permit × TransportChild) : Permit × TransportChildResource :=
  (child.1, child.2.resource)

def ownerKey (owner : TransportNativeConnect) : Permit × Text × Bool :=
  (owner.permit, owner.attemptRef, owner.promoted)

/-- Nothing is spent or owned, a stop stays, and the clock does not go back. -/
structure Calm (s s' : TransportSelection) : Prop where
  attemptRef : s'.attemptRef = s.attemptRef
  tunnel : s'.tunnelAttemptRef = s.tunnelAttemptRef
  attempts : s'.attempts = s.attempts
  repairs : s'.repairs = s.repairs
  bytes : s'.bytes = s.bytes
  endpoints : s'.endpoints = s.endpoints
  attemptRefs : s'.attemptRefs = s.attemptRefs
  permits : s'.permits = s.permits
  children : s'.children.map childKey = s.children.map childKey
  owner : s'.nativeConnect.map ownerKey = s.nativeConnect.map ownerKey
  closed : s.closed.isSome = true → s'.closed = s.closed
  attemptStop : s.attemptStop.isSome = true → s'.attemptStop = s.attemptStop
  elapsed : s.lastElapsedMs ≤ s'.lastElapsedMs
  latest : s.lastLatest.micros ≤ s'.lastLatest.micros

theorem Calm.refl (s : TransportSelection) : Calm s s := by
  constructor <;> first | rfl | exact fun _ => rfl

theorem Calm.trans {a b c : TransportSelection} (h : Calm a b) (h' : Calm b c) : Calm a c := by
  constructor
  · exact h'.attemptRef.trans h.attemptRef
  · exact h'.tunnel.trans h.tunnel
  · exact h'.attempts.trans h.attempts
  · exact h'.repairs.trans h.repairs
  · exact h'.bytes.trans h.bytes
  · exact h'.endpoints.trans h.endpoints
  · exact h'.attemptRefs.trans h.attemptRefs
  · exact h'.permits.trans h.permits
  · exact h'.children.trans h.children
  · exact h'.owner.trans h.owner
  · intro hclosed
    have hsame := h.closed hclosed
    rw [h'.closed (by rw [hsame]; exact hclosed), hsame]
  · intro hstopped
    have hsame := h.attemptStop hstopped
    rw [h'.attemptStop (by rw [hsame]; exact hstopped), hsame]
  · exact le_trans h.elapsed h'.elapsed
  · exact le_trans h.latest h'.latest

instance : Std.Refl Calm := ⟨Calm.refl⟩

instance : IsTrans TransportSelection Calm := ⟨fun _ _ _ => Calm.trans⟩

section Calm

variable {policy : SelectionPolicy} {current : Currency} {now : TransportTimeWindow}

theorem calm_stopped (s : TransportSelection) (reason : String) : Calm s (s.stopped reason) := by
  constructor
  case children => simp [stopped, childKey, Function.comp_def]
  case owner =>
    simp [stopped, ownerKey, Function.comp_def]
    rfl
  case attemptStop =>
    intro hstopped
    obtain ⟨earlier, hearlier⟩ := Option.isSome_iff_exists.mp hstopped
    simp [stopped, hearlier]
  all_goals first | rfl | exact fun _ => rfl

theorem calm_close (s : TransportSelection) (reason : String) : Calm s (s.close reason) := by
  constructor
  case closed =>
    intro hclosed
    obtain ⟨earlier, hearlier⟩ := Option.isSome_iff_exists.mp hclosed
    simp [close, hearlier]
  all_goals first | rfl | exact fun _ => rfl

variable (permit : Permit) (reason : String)

theorem keeps_stopAttempt : Preserves Calm (stopAttempt reason) :=
  fun s => calm_stopped s reason

theorem keeps_cancel : Preserves Calm (cancel reason) :=
  .bind (fun s => calm_close s reason) fun _ => keeps_stopAttempt reason

theorem keeps_fail {α : Type} : Preserves Calm (fail reason : Selecting α) := .throw

theorem keeps_refuse (b : Prop) [Decidable b] (reason : String) : Preserves Calm (refuse b reason) :=
  .ite (keeps_fail reason) .pure

variable {α β : Type} {post : Except Failure β → TransportSelection → Prop} {s : TransportSelection}

/-- A check that throws, and what follows it. -/
theorem wp_refuse {b : Prop} [Decidable b] {reason : String} {f : Unit → Selecting β}
    (hb : b → post (.error (selectionFailure reason)) s) (hrest : ¬ b → wp (f ()) post s) :
    wp (refuse b reason >>= f) post s := by
  rw [wp_bind, refuse]
  exact wp_ite hb hrest

/-- A check that cancels, and what follows it. -/
theorem wp_cancelFor {b : Prop} [Decidable b] {reason : String} {f : Unit → Selecting β}
    (hb : ∀ e s', Calm s s' → post (.error e) s') (hrest : ¬ b → wp (f ()) post s) :
    wp (cancelFor b reason >>= f) post s := by
  rw [wp_bind, cancelFor]
  apply wp_ite
  · intro _
    rw [wp_bind]
    apply (keeps_cancel reason).wp
    intro r s' hcalm
    cases r with
    | ok a => exact hb _ _ hcalm
    | error e => exact hb _ _ hcalm
  · exact hrest

/-- What keeps calm, and what follows it. -/
theorem wp_calm {m : Selecting α} {f : α → Selecting β} (hm : Preserves Calm m)
    (herror : ∀ e s', Calm s s' → post (.error e) s') (hok : ∀ a s', Calm s s' → wp (f a) post s') :
    wp (m >>= f) post s := by
  rw [wp_bind]
  apply hm.wp
  intro r s' hcalm
  cases r with
  | ok a => exact hok a s' hcalm
  | error e => exact herror e s' hcalm

/-- The candidate may be stopped for, but nothing is closed. -/
theorem wp_checkCandidate {post : Except Failure Unit → TransportSelection → Prop}
    (herror : ∀ e s', Calm s s' → post (.error e) s')
    (hok : ∀ s', Calm s s' → s'.closed = s.closed → post (.ok ()) s') :
    wp (checkCandidate policy now) post s := by
  unfold checkCandidate
  rw [wp_bind, wp_get, next_ok]
  rcases s.candidate with _ | candidate
  · exact hok s (Calm.refl s) rfl
  · rw [wp_bind, wp_lift]
    rcases policy.eligible candidate now with e | eligible
    · exact herror e s (Calm.refl s)
    · apply wp_ite
      · intro _
        exact hok _ (calm_stopped s _) rfl
      · intro _
        exact hok s (Calm.refl s) rfl

/-- A check that does not throw finds the selection open. -/
theorem wp_check {post : Except Failure Unit → TransportSelection → Prop}
    (herror : ∀ e s', Calm s s' → post (.error e) s')
    (hok : ∀ s', Calm s s' → s'.closed = none → post (.ok ()) s') :
    wp (check policy current now) post s := by
  unfold check
  rw [wp_bind, wp_get, next_ok]
  apply wp_refuse fun _ => herror _ _ (Calm.refl s)
  intro hopen
  apply wp_cancelFor herror
  intro _
  apply wp_cancelFor herror
  intro _
  apply wp_cancelFor herror
  intro _
  apply wp_cancelFor herror
  intro hclock
  apply wp_cancelFor herror
  intro _
  rw [wp_bind, wp_modify, next_ok]
  have hobserved : Calm s (s.observed now) := by
    simp only [clockInvalid, not_or, Bool.not_eq_true, DateTime.isBefore, decide_eq_false_iff_not,
      not_lt] at hclock
    constructor
    case elapsed => exact hclock.2.1
    case latest => exact hclock.2.2.1
    all_goals first | rfl | exact fun _ => rfl
  apply wp_cancelFor fun e s' h => herror e s' (hobserved.trans h)
  intro _
  rw [wp_bind]
  refine wp_checkCandidate (fun e s' h => ?_) (fun s' h hsame => ?_)
  · exact herror e s' (hobserved.trans h)
  have hclosed : s'.closed = none := by
    rw [hsame]
    show s.closed = none
    simpa using hopen
  rw [next_ok, wp_bind, wp_get, next_ok]
  apply wp_ite
  · intro _
    exact hok _ (hobserved.trans (h.trans (calm_stopped s' _))) hclosed
  · intro _
    exact hok _ (hobserved.trans h) hclosed

theorem keeps_check : Preserves Calm (check policy current now) := by
  intro s
  show wp (check policy current now) (fun _ s' => Calm s s') s
  exact wp_check (fun _ _ h => h) fun _ h _ => h

theorem keeps_sample (network : Bool) (source : Option TransportTimeWindow) :
    Preserves Calm (sample policy network source current) := by
  apply Preserves.ite
  · exact .bind (keeps_cancel _) fun _ => .throw
  · cases source with
    | none => exact .bind (keeps_cancel _) fun _ => .throw
    | some now =>
      refine .bind (Preserves.catching keeps_check fun failure => ?_) fun _ => .pure
      exact .bind (keeps_cancel _) fun _ => .throw

theorem keeps_observe (now : Option TransportTimeWindow) : Preserves Calm (observe policy now current) := by
  refine .bind .get fun s => .ite .pure ?_
  cases now with
  | none => exact keeps_cancel _
  | some now =>
    refine Preserves.catching keeps_check fun failure => ?_
    exact .bind .get fun s => .ite .pure .throw

theorem keeps_shortlist (candidates : List TransportCandidate) (healthyTuple : Option Text) :
    Preserves Calm (shortlist policy candidates now healthyTuple current) := by
  refine .bind keeps_check fun _ => .bind (keeps_refuse _ _) fun _ => ?_
  refine .bind .get fun s => .bind .lift fun eligible => ?_
  exact .pure

theorem calm_candidate (s : TransportSelection) (candidate : Option TransportCandidate)
    (query : Option TransportProfileQuery) :
    Calm s { s with candidate := candidate, resolvingQuery := query } := by
  constructor <;> first | rfl | exact fun _ => rfl

theorem keeps_resolveCandidate (attemptRef : Text) (permit : Permit) (candidate : TransportCandidate)
    (operationIsCurrent : Bool) :
    Preserves Calm (resolveCandidate policy attemptRef permit candidate now operationIsCurrent) := by
  refine Preserves.catching (.bind .get fun s => ?_) fun failure =>
    .bind (keeps_stopAttempt _) fun _ => .throw
  refine .bind (keeps_refuse _ _) fun _ => .bind .lift fun eligible => ?_
  refine .bind (keeps_refuse _ _) fun _ => .bind (keeps_refuse _ _) fun _ => ?_
  exact fun s => calm_candidate s _ _

theorem keeps_requestStop : Preserves Calm (requestStop permit) := by
  intro s
  constructor
  case owner =>
    show (s.nativeConnect.map _).map ownerKey = s.nativeConnect.map ownerKey
    rw [Option.map_map]
    refine Option.map_congr fun owner _ => ?_
    by_cases hsame : owner.permit = permit <;> simp [ownerKey, hsame]
  all_goals first | rfl | exact fun _ => rfl

theorem keeps_extendConnect (deadlineMs : Int) :
    Preserves Calm (extendConnect permit deadlineMs) := by
  intro s
  constructor
  case owner =>
    show (s.nativeConnect.map _).map ownerKey = s.nativeConnect.map ownerKey
    rw [Option.map_map]
    refine Option.map_congr fun owner _ => ?_
    by_cases hsame : owner.permit = permit <;> simp [ownerKey, hsame]
  all_goals first | rfl | exact fun _ => rfl

theorem keeps_prove (proof : TransportProofBatch) : Preserves Calm (prove proof) := by
  intro s
  constructor <;> first | rfl | exact fun _ => rfl

theorem keeps_requireProof (proof : TransportProofBatch) (staged : Bool) :
    Preserves Calm (requireProof policy proof now current staged) := by
  refine .bind .get fun s => .bind (keeps_refuse _ _) fun _ => ?_
  refine .bind keeps_check fun _ => .bind (keeps_refuse _ _) fun _ => ?_
  exact .bind .get fun s => keeps_refuse _ _

theorem keeps_remember (result : TransportAttemptResult) : Preserves Calm (remember policy result now) := by
  refine .bind .get fun s => ?_
  rcases s.candidate with _ | candidate
  · exact .pure
  · refine .ite (.bind .lift fun eligible => .ite ?_ .pure) .pure
    intro s
    constructor <;> first | rfl | exact fun _ => rfl

end Calm

/-! ## What a method does more -/

/-- A step of the selection. -/
inductive Change (policy : SelectionPolicy) (s : TransportSelection) :
    SelectionOperation → TransportSelection → Prop
  | calm {operation : SelectionOperation} {s' : TransportSelection} (h : Calm s s') :
      Change policy s operation s'
  | reserved {operation : SelectionOperation} {s₁ s' : TransportSelection} {attemptRef endpointRef : Text}
      {repair : Bool} (h : Calm s s₁) (hclosed : s₁.closed = none) (hattempt : s₁.attemptRef = none)
      (hchildren : s₁.children = []) (htunnel : s₁.tunnelAttemptRef = none)
      (hnew : attemptRef ∉ s₁.attemptRefs) (hattempts : s₁.attempts < policy.budget.maxAttempts)
      (hendpoints : endpointRef ∈ s₁.endpoints ∨ s₁.endpoints.length < policy.budget.maxEndpoints)
      (hrepairs : repair = true → s₁.repairs < policy.budget.maxRepairs)
      (hopens : operation.opens = some (attemptRef, endpointRef))
      (h' : Calm (s₁.reserved attemptRef endpointRef repair) s') : Change policy s operation s'
  | child {operation : SelectionOperation} {s₁ : TransportSelection} {attemptRef : Text}
      {stage : TransportSelectionStage} {deadline : Int} {child : TransportChild}
      {owner : Option TransportNativeConnect} (h : Calm s s₁)
      (hattempt : s₁.attemptRef = some attemptRef) (hclosed : s₁.closed = none)
      (hstop : s₁.attemptStop = none) (hchildren : s₁.children.length < policy.budget.maxConcurrency)
      (htunnel : child.resource = .tunnel → s₁.tunnelAttemptRef = none) :
      Change policy s operation
        { s₁.withChild attemptRef stage deadline child with nativeConnect := owner }
  | bytes {operation : SelectionOperation} {s₁ : TransportSelection} {count : Nat} (h : Calm s s₁)
      (hbytes : s₁.bytes + count ≤ policy.budget.maxDiagnosticBytes) :
      Change policy s operation { s₁ with bytes := s₁.bytes + count }
  | settled {operation : SelectionOperation} {s₁ : TransportSelection} {permit : Permit} (h : Calm s s₁) :
      Change policy s operation
        { s₁ with children := s₁.children.filter fun child => child.1 ≠ permit }
  | released {owner : TransportNativeConnect}
      (howner : (s.nativeConnect.any fun native => native.permit = owner.permit) = true)
      (htunnel : s.tunnelAttemptRef = some owner.attemptRef)
      (hchildren : (s.children.any fun child => child.2.resource = .tunnel) = false) :
      Change policy s (.stopConfirmed owner) { s with tunnelAttemptRef := none, nativeConnect := none }
  | promoted {operation : SelectionOperation} {s₁ : TransportSelection} (h : Calm s s₁) :
      Change policy s operation { s₁ with
        nativeConnect := s₁.nativeConnect.map fun owner => { owner with promoted := true } }
  | passed {attemptRef : Text} {now : TransportTimeWindow} {current current' : Currency} {staged : Bool}
      {s₁ s₂ s' : TransportSelection} {owner : TransportNativeConnect}
      (h : Calm s s₁) (hattempt : s₁.attemptRef = some attemptRef) (hchildren : s₁.children = [])
      (howner : s₁.nativeConnect = some owner) (hpromoted : owner.promoted = true)
      (hexact : owner.attemptRef = attemptRef)
      (h₂ : Calm { s₁ with nativeConnect := none, tunnelAttemptRef := none } s₂)
      (h' : Calm (s₂.ended policy) s') :
      Change policy s (.finishAttempt attemptRef .pass now current current' staged) s'
  | finished {operation : SelectionOperation} {s₁ s' : TransportSelection} {attemptRef : Text}
      (h : Calm s s₁) (hattempt : s₁.attemptRef = some attemptRef) (hchildren : s₁.children = [])
      (htunnel : s₁.tunnelAttemptRef = none) (h' : Calm (s₁.ended policy) s') :
      Change policy s operation s'

section Changes

variable {policy : SelectionPolicy} {current current' : Currency} {now : TransportTimeWindow}
  {s : TransportSelection}

theorem wp_reserveAttempt {s0 : TransportSelection} (hs : Calm s0 s) {attemptRef endpointRef : Text}
    {repair : Bool} {post : Except Failure Unit → TransportSelection → Prop}
    (herror : ∀ e s', Calm s0 s' → post (.error e) s')
    (hok : ∀ s', (∀ operation s'', SelectionOperation.opens operation = some (attemptRef, endpointRef) →
      Calm s' s'' → Change policy s0 operation s'') → post (.ok ()) s') :
    wp (reserveAttempt policy attemptRef endpointRef now repair current) post s := by
  unfold reserveAttempt
  rw [wp_bind]
  refine wp_check (fun e s1 h => ?_) (fun s1 h hclosed => ?_)
  · exact herror e s1 (hs.trans h)
  have hcalm := hs.trans h
  rw [next_ok]
  apply wp_refuse fun _ => herror _ _ hcalm
  intro _
  rw [wp_bind, wp_get, next_ok]
  apply wp_refuse fun _ => herror _ _ hcalm
  intro howned
  apply wp_refuse fun _ => herror _ _ hcalm
  intro hreplay
  apply wp_refuse fun _ => herror _ _ hcalm
  intro _
  apply wp_refuse fun _ => herror _ _ hcalm
  intro hattempts
  apply wp_refuse fun _ => herror _ _ hcalm
  intro hendpoints
  apply wp_refuse fun _ => herror _ _ hcalm
  intro hrepairs
  simp only [not_or, Bool.not_eq_true, Option.isSome_eq_false_iff, Option.isNone_iff_eq_none, ne_eq,
    not_not] at howned
  rw [wp_modify]
  apply hok
  intro operation s' hopens h'
  apply Change.reserved hcalm hclosed howned.1 howned.2.1 howned.2.2 hreplay (not_le.mp hattempts) _ _
    hopens h'
  · by_contra hneither
    rw [not_or, not_lt] at hneither
    exact hendpoints hneither
  · intro hrepair
    by_contra hfull
    exact hrepairs ⟨hrepair, not_lt.mp hfull⟩

variable (attemptRef : Text)

theorem change_beginAttempt (candidate : TransportCandidate) (repair : Bool) :
    Change policy s (.beginAttempt attemptRef candidate now repair current current')
      (beginAttempt policy attemptRef candidate now repair current current' s).2 := by
  show wp (beginAttempt policy attemptRef candidate now repair current current')
    (fun _ s' => Change policy s _ s') s
  apply wp_calm keeps_check fun _ _ h => .calm h
  intro _ s1 h
  apply wp_calm .lift fun _ _ h' => .calm (h.trans h')
  intro eligible s2 h'
  have hcalm := h.trans h'
  apply wp_refuse fun _ => .calm hcalm
  intro _
  rw [wp_bind, wp_get, next_ok]
  apply wp_refuse fun _ => .calm hcalm
  intro _
  rw [wp_bind]
  apply wp_reserveAttempt hcalm fun _ _ h => .calm h
  intro s' hs'
  exact hs' _ _ rfl (calm_candidate s' _ _)

theorem change_reserveResolution (query : TransportProfileQuery) (repair : Bool) :
    Change policy s (.reserveResolution attemptRef query now repair current)
      (reserveResolution policy attemptRef query now repair current s).2 := by
  show wp (reserveResolution policy attemptRef query now repair current)
    (fun _ s' => Change policy s _ s') s
  apply wp_calm .lift fun _ _ h => .calm h
  intro _ s1 h
  rw [wp_bind]
  apply wp_reserveAttempt h fun _ _ h => .calm h
  intro s' hs'
  exact hs' _ _ rfl (calm_candidate s' _ _)

/-- A child is begun for a candidate, or for the query of one, without a change. -/
theorem wp_requireCandidate {stage : TransportSelectionStage} {resource : TransportChildResource}
    {post : Except Failure Unit → TransportSelection → Prop}
    (herror : ∀ e s', Calm s s' → post (.error e) s') (hok : post (.ok ()) s) :
    wp (requireCandidate policy stage resource now) post s := by
  unfold requireCandidate
  rw [wp_bind, wp_get, next_ok]
  rcases s.candidate with _ | candidate
  · rcases s.resolvingQuery with _ | query
    · exact herror _ _ (Calm.refl s)
    · apply wp_refuse fun _ => herror _ _ (Calm.refl s)
      intro _
      rw [wp_lift]
      rcases policy.requireQuery query with e | ⟨⟩
      · exact herror _ _ (Calm.refl s)
      · exact hok
  · rw [wp_bind, wp_lift]
    rcases policy.eligible candidate now with e | eligible
    · exact herror _ _ (Calm.refl s)
    · apply wp_ite
      · intro _
        exact herror _ _ (calm_stopped s _)
      · intro _
        exact hok

theorem wp_beginChild {attemptRef : Text} {stage : TransportSelectionStage}
    {resource : TransportChildResource}
    {post : Except Failure (Permit × Int) → TransportSelection → Prop}
    (herror : ∀ e s', Calm s s' → post (.error e) s')
    (hok : ∀ answer s', (∀ operation owner, Change policy s operation { s' with nativeConnect := owner }) →
      post (.ok answer) s') :
    wp (beginChild policy attemptRef stage resource now current) post s := by
  unfold beginChild
  rw [wp_bind]
  apply wp_check herror
  intro s1 h hopen
  rw [next_ok, wp_bind, wp_get, next_ok]
  apply wp_refuse fun _ => herror _ _ h
  intro hattempt
  rw [wp_bind]
  apply wp_requireCandidate fun e s' h' => herror e s' (h.trans h')
  rw [next_ok, wp_bind, wp_get, next_ok]
  apply wp_refuse fun _ => herror _ _ h
  intro hstop
  apply wp_refuse fun _ => herror _ _ h
  intro hchildren
  apply wp_refuse fun _ => herror _ _ h
  intro htunnel
  apply wp_ite
  · intro _
    exact herror _ _ (h.trans (calm_stopped s1 _))
  · intro _
    rw [wp_bind, wp_modify, next_ok, wp_pure]
    apply hok
    intro operation owner
    apply Change.child h (not_not.mp hattempt) hopen (by simpa using hstop) (not_le.mp hchildren)
    intro hresource
    rw [not_and, Bool.not_eq_true, Option.isSome_eq_false_iff, Option.isNone_iff_eq_none] at htunnel
    exact htunnel hresource

theorem change_beginChild (stage : TransportSelectionStage) (resource : TransportChildResource) :
    Change policy s (.beginChild attemptRef stage resource now current)
      (beginChild policy attemptRef stage resource now current s).2 := by
  show wp (beginChild policy attemptRef stage resource now current) (fun _ s' => Change policy s _ s') s
  exact wp_beginChild (fun _ _ h => .calm h) fun _ s' h => h _ s'.nativeConnect

theorem change_connect : Change policy s (.connect attemptRef now current)
      (connect policy attemptRef now current s).2 := by
  show wp (connect policy attemptRef now current) (fun _ s' => Change policy s _ s') s
  unfold connect
  rw [wp_bind]
  apply wp_beginChild fun _ _ h => .calm h
  intro answer s' h
  rw [next_ok, wp_bind, wp_modify, next_ok, wp_pure]
  exact h _ _

theorem change_reserveDiagnosticBytes (permit : Permit) (count : Int) :
    Change policy s (.reserveDiagnosticBytes attemptRef permit count now current)
      (reserveDiagnosticBytes policy attemptRef permit count now current s).2 := by
  show wp (reserveDiagnosticBytes policy attemptRef permit count now current)
    (fun _ s' => Change policy s _ s') s
  apply wp_calm keeps_check fun _ _ h => .calm h
  intro _ s1 h
  rw [wp_bind, wp_get, next_ok]
  apply wp_refuse fun _ => .calm h
  intro _
  apply wp_refuse fun _ => .calm h
  intro _
  apply wp_refuse fun _ => .calm h
  intro hcount
  apply wp_cancelFor fun _ _ h' => .calm (h.trans h')
  intro hroom
  rw [wp_modify]
  apply Change.bytes h
  omega

theorem change_settleChild (permit : Permit) (time : Option TransportTimeWindow) :
    Change policy s (.settleChild attemptRef permit time current)
      (settleChild policy attemptRef permit time current s).2 := by
  show wp (settleChild policy attemptRef permit time current) (fun _ s' => Change policy s _ s') s
  unfold settleChild
  rw [wp_bind, wp_get, next_ok]
  apply wp_refuse fun _ => .calm (Calm.refl s)
  intro _
  apply wp_calm (keeps_observe time) fun _ _ h => .calm h
  intro _ s1 h
  exact .settled h

theorem change_stopConfirmed (owner : TransportNativeConnect) :
    Change policy s (.stopConfirmed owner)
      (stopConfirmed owner s).2 := by
  show wp (stopConfirmed owner) (fun _ s' => Change policy s _ s') s
  unfold stopConfirmed
  rw [wp_bind, wp_get, next_ok]
  apply wp_ite
  · intro hnative
    unfold acknowledgeTunnelStopped
    rw [wp_bind, wp_bind, wp_get, next_ok]
    apply wp_refuse fun _ => .calm (Calm.refl s)
    intro howned
    rw [not_or, not_not, Bool.not_eq_true] at howned
    exact .released hnative howned.1 howned.2
  · intro _
    exact .calm (Calm.refl s)

theorem change_promoteProof (proof : TransportProofBatch) (staged handedOver : Bool) :
    Change policy s (.promoteProof proof now current staged handedOver)
      (promoteProof policy proof now current staged handedOver s).2 := by
  show wp (promoteProof policy proof now current staged handedOver) (fun _ s' => Change policy s _ s') s
  apply wp_calm (keeps_requireProof proof staged) fun _ _ h => .calm h
  intro _ s1 h
  rw [wp_bind, wp_get, next_ok]
  apply wp_refuse fun _ => .calm h
  intro _
  exact .promoted h

/-- A pass finds the owner of this attempt, which was promoted. -/
theorem wp_requirePass {attemptRef : Text} {staged : Bool}
    {post : Except Failure Unit → TransportSelection → Prop}
    (herror : ∀ e s', Calm s s' → post (.error e) s')
    (hok : ∀ s' owner, Calm s s' → s'.nativeConnect = some owner → owner.promoted = true →
      owner.attemptRef = attemptRef → post (.ok ()) s') :
    wp (requirePass policy attemptRef now current staged) post s := by
  unfold requirePass
  rw [wp_bind, wp_get, next_ok]
  apply wp_refuse fun _ => herror _ _ (Calm.refl s)
  intro _
  rcases s.candidate with _ | candidate
  · exact herror _ _ (Calm.refl s)
  apply wp_calm .lift herror
  intro eligible s1 h1
  apply wp_refuse fun _ => herror _ _ h1
  intro _
  rcases s.proofBatch with _ | proof
  · exact herror _ _ h1
  apply wp_refuse fun _ => herror _ _ h1
  intro _
  apply wp_calm (keeps_requireProof proof staged) fun e s' h => herror e s' (h1.trans h)
  intro _ s2 h2
  rw [wp_bind, wp_get, next_ok]
  apply wp_ite
  · intro _
    exact herror _ _ (h1.trans h2)
  · intro howner
    rw [not_or, Bool.not_eq_false, Option.any_eq_true] at howner
    obtain ⟨⟨owner, hconnect, hpromoted⟩, _⟩ := howner
    rw [Bool.and_eq_true, decide_eq_true_iff] at hpromoted
    exact hok s2 owner (h1.trans h2) hconnect hpromoted.1 hpromoted.2

/-- What follows once nothing is owned: the attempt is not open any more. -/
theorem wp_ended {result : TransportAttemptResult} {post : Except Failure Unit → TransportSelection → Prop}
    (hremember : ∀ e s', result = .fail → Calm s s' → post (.error e) s')
    (hended : ∀ r s1 s', Calm s s1 → Calm (s1.ended policy) s' → post r s') :
    wp (do
      remember policy result now
      .modify (ended policy)
      if result = .pass then cancel "selection_finished"
      else if result = .cancelled then cancel "user_cancelled"
      else pure ()) post s := by
  have hcancel : Preserves Calm (if result = .pass then cancel "selection_finished"
      else if result = .cancelled then cancel "user_cancelled" else pure () : Selecting Unit) :=
    .ite (keeps_cancel _) (.ite (keeps_cancel _) .pure)
  have hrest : ∀ s1, Calm s s1 → wp (do
      .modify (ended policy)
      if result = .pass then cancel "selection_finished"
      else if result = .cancelled then cancel "user_cancelled"
      else pure ()) post s1 := by
    intro s1 h1
    rw [wp_bind, wp_modify, next_ok]
    exact hcancel.wp fun r s' h' => hended r s1 s' h1 h'
  by_cases hfail : result = .fail
  · exact wp_calm (keeps_remember result) (fun e s' h => hremember e s' hfail h) fun _ s1 h1 =>
      hrest s1 h1
  · have hsame : remember policy result now s = (.ok (), s) := by
      unfold remember
      show (Stateful.bind _ _ s) = _
      simp only [Stateful.bind, Stateful.get]
      rcases s.candidate with _ | candidate
      · rfl
      · simp only [hfail, and_false, if_false]
        rfl
    rw [wp_bind]
    unfold wp
    rw [hsame]
    exact hrest s (Calm.refl s)

theorem change_finishAttempt (result : TransportAttemptResult) (staged : Bool) :
    Change policy s (.finishAttempt attemptRef result now current current' staged)
      (finishAttempt policy attemptRef result now current current' staged s).2 := by
  show wp (finishAttempt policy attemptRef result now current current' staged)
    (fun _ s' => Change policy s _ s') s
  unfold finishAttempt
  rw [wp_bind, wp_get, next_ok]
  apply wp_refuse fun _ => .calm (Calm.refl s)
  intro howned
  rw [not_or, not_not, ne_eq, not_not] at howned
  apply wp_calm (keeps_observe (some now)) fun _ _ h => .calm h
  intro _ s1 h1
  have hattempt : s1.attemptRef = some attemptRef := h1.attemptRef.trans howned.1
  have hchildren : ∀ s', Calm s1 s' → s'.children = [] := by
    intro s' h'
    have hkeys := h'.children.trans h1.children
    rw [howned.2] at hkeys
    exact List.map_eq_nil_iff.mp hkeys
  apply wp_ite
  · intro hpass
    subst hpass
    rw [wp_bind]
    apply wp_requirePass fun _ _ h => .calm (h1.trans h)
    intro s2 owner h2 howner hpromoted hexact
    rw [next_ok, wp_bind, wp_modify, next_ok]
    apply wp_ended
    · intro e s' hfail _
      cases hfail
    · intro r s3 s' h3 h'
      exact .passed (h1.trans h2) (h2.attemptRef.trans hattempt) (hchildren s2 h2) howner hpromoted
        hexact h3 h'
  · intro _
    rw [wp_bind, wp_get, next_ok]
    apply wp_refuse fun _ => .calm h1
    intro htunnel
    apply wp_ended fun e s' _ h => .calm (h1.trans h)
    intro r s3 s' h3 h'
    apply Change.finished (h1.trans h3) (h3.attemptRef.trans hattempt) (hchildren s3 h3) _ h'
    rw [h3.tunnel]
    simpa using htunnel

/-- Every operation is a step. -/
theorem change_after (operation : SelectionOperation) :
    Change policy s operation (after policy s operation) := by
  cases operation with
  | shortlist candidates now healthyTuple current => exact .calm (keeps_shortlist candidates healthyTuple s)
  | beginAttempt attemptRef candidate now repair current current' =>
    exact change_beginAttempt attemptRef candidate repair
  | reserveResolution attemptRef query now repair current =>
    exact change_reserveResolution attemptRef query repair
  | resolveCandidate attemptRef permit candidate now operationIsCurrent =>
    exact .calm (keeps_resolveCandidate attemptRef permit candidate operationIsCurrent s)
  | beginChild attemptRef stage resource now current => exact change_beginChild attemptRef stage resource
  | connect attemptRef now current => exact change_connect attemptRef
  | reserveDiagnosticBytes attemptRef permit count now current =>
    exact change_reserveDiagnosticBytes attemptRef permit count
  | settleChild attemptRef permit now current => exact change_settleChild attemptRef permit now
  | sample network source current => exact .calm (keeps_sample network source s)
  | requestStop permit => exact .calm (keeps_requestStop permit s)
  | stopConfirmed owner => exact change_stopConfirmed owner
  | extendConnect permit deadlineMs => exact .calm (keeps_extendConnect permit deadlineMs s)
  | prove proof => exact .calm (keeps_prove proof s)
  | requireProof proof now current staged => exact .calm (keeps_requireProof proof staged s)
  | promoteProof proof now current staged handedOver =>
    exact change_promoteProof proof staged handedOver
  | finishAttempt attemptRef result now current current' staged =>
    exact change_finishAttempt attemptRef result staged
  | stopAttempt reason => exact .calm (keeps_stopAttempt reason s)
  | cancel reason => exact .calm (keeps_cancel reason s)

end Changes

end Pokrov.AppShell.TransportSelection
