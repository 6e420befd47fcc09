import Pokrov.Android.ConnectRequestOwner

/-!
# The flags of a request stay consistent

What any sequence of operations leaves of the owner: the lease, the proof, the
cancellation, the stop and the detached network agree with one another, and a
request that was stopped owns nothing again.
-/

namespace Pokrov.Android

open AndroidConnectRequestOwner

/-- An operation and what it is called with. -/
inductive Operation
  | begin (request : Request)
  | beginBound (request : Request) (binding : Binding)
  | bindForegroundNetwork (request : Request) (network : Network) (networkRef : String)
      (stopEpoch : Int)
  | admitService (request : Request) (service : Service)
  | bindNetwork (request : Request) (service : Service) (generation : Int)
  | settleBeforeServiceAdmission (request : Request)
  | serviceStopped (request : Request) (service : Service)
  | bridgeClosing (network : Network)
  | promote (request : Request) (service : Service) (expectedProfile : String)
      (activeUntilElapsed : Int)
  | retainFirstProviderQa (request : Request) (service : Service) (expectedProfile : String)
      (expectedDeadline proposed : AndroidConnectDeadline)
  | markTransportLeaseTerminated (request : Request) (service : Service) (expectedProfile : String)
  | expire (request : Request)
  | cancel (request : Request)
  | invalidate
  | cancelIfNetworkChanged

/-- What has happened to a request. -/
inductive Event
  /-- `begin` or `beginBound` has succeeded. -/
  | began (request : Request)
  /-- `beginBound` has succeeded. -/
  | bound (request : Request)
  /-- A service was admitted for a request that is bound. -/
  | admitted (request : Request) (service : Service)
  | promoted (request : Request)
  /-- From here on `isStopped` is true of the request. -/
  | stopped (request : Request)
deriving DecidableEq

def Event.request : Event → Request
  | began request => request
  | bound request => request
  | admitted request _ => request
  | promoted request => request
  | stopped request => request

namespace Operation

/-- The owner after an operation. -/
def after (env : Readings) (owner : AndroidConnectRequestOwner) : Operation → AndroidConnectRequestOwner
  | begin request => (owner.begin request).1
  | beginBound request binding => (owner.beginBound env request binding).1
  | bindForegroundNetwork request network networkRef stopEpoch =>
    (owner.bindForegroundNetwork env request network networkRef stopEpoch).1
  | admitService request service => (owner.admitService env request service).1
  | bindNetwork request service generation => (owner.bindNetwork env request service generation).1
  | settleBeforeServiceAdmission request => (owner.settleBeforeServiceAdmission request).1
  | serviceStopped request service => (owner.serviceStopped request service).1
  | bridgeClosing network => (owner.bridgeClosing env network).1
  | promote request service expectedProfile activeUntilElapsed =>
    (owner.promote env request service expectedProfile activeUntilElapsed).1
  | retainFirstProviderQa request service expectedProfile expectedDeadline proposed =>
    (owner.retainFirstProviderQa env request service expectedProfile expectedDeadline proposed).1
  | markTransportLeaseTerminated request service expectedProfile =>
    (owner.markTransportLeaseTerminated request service expectedProfile).1
  | expire request => (owner.expire env request).1
  | cancel request => (owner.cancel request).1
  | invalidate => owner.invalidate
  | cancelIfNetworkChanged => (owner.cancelIfNetworkChanged env).1

/-- What an operation has done, by its answer. -/
def answered (env : Readings) (owner : AndroidConnectRequestOwner) : Operation → List Event
  | begin request => if (owner.begin request).2 = some true then [.began request] else []
  | beginBound request binding =>
    if (owner.beginBound env request binding).2 = some true then [.began request, .bound request]
    else []
  | admitService request service =>
    if (owner.admitService env request service).2 = true ∧ owner.coreDigest.isSome = true then
      [.admitted request service]
    else []
  | promote request service expectedProfile activeUntilElapsed =>
    if (owner.promote env request service expectedProfile activeUntilElapsed).2 = true then
      [.promoted request]
    else []
  | _ => []

/-- The request whose stop it has made known. -/
def stops (before next : AndroidConnectRequestOwner) : List Event :=
  if next.lastStopped = before.lastStopped then [] else next.lastStopped.toList.map .stopped

/-- What has happened by an operation. -/
def events (env : Readings) (owner : AndroidConnectRequestOwner) (operation : Operation) : List Event :=
  operation.answered env owner ++ stops owner (operation.after env owner)

/-- The request that an operation may begin. -/
def begins : Operation → Option Request
  | begin request => some request
  | beginBound request _ => some request
  | _ => none

end Operation

/-! ## What an operation may change -/

/-- The fields that no operation but `begin` and those for them write. -/
structure SameFlags (owner next : AndroidConnectRequestOwner) : Prop where
  current : next.current = owner.current
  cancelled : next.cancelled = owner.cancelled
  coreDigest : next.coreDigest = owner.coreDigest
  deadline : owner.deadline = none → next.deadline = none
  promotedUntilElapsed : next.promotedUntilElapsed = owner.promotedUntilElapsed
  networkDetachedFromBridge : next.networkDetachedFromBridge = owner.networkDetachedFromBridge
  service : next.service = owner.service
  stopped : next.stopped = owner.stopped
  lastStopped : next.lastStopped = owner.lastStopped
  proofPending : next.proofPending = owner.proofPending
  leaseActive : next.leaseActive = owner.leaseActive
  preparedNetwork : owner.current = none → next.preparedNetwork = owner.preparedNetwork

/-- What an operation may do to the owner, and what has happened then. -/
inductive Change (owner : AndroidConnectRequestOwner) : AndroidConnectRequestOwner → List Event → Prop
  | kept {next : AndroidConnectRequestOwner} (h : SameFlags owner next) : Change owner next []
  | begunAgain {request : Request} (hcurrent : owner.current = some request)
      (hunbound : ¬ (owner.coreDigest.isSome = true ∧ owner.stopped = false)) :
      Change owner owner [.began request]
  | begun {request : Request} (hcurrent : owner.current ≠ some request)
      (hlast : owner.lastStopped ≠ some request)
      (hunbound : ¬ (owner.coreDigest.isSome = true ∧ owner.stopped = false)) :
      Change owner (owner.replaced request) [.began request]
  | boundAgain {request : Request} (hcurrent : owner.current = some request)
      (hbound : owner.coreDigest.isSome = true) (hstopped : owner.stopped = false) :
      Change owner owner [.began request, .bound request]
  | bound {request : Request} {next : AndroidConnectRequestOwner} {core : String}
      {deadline : AndroidConnectDeadline} {pending : Bool} (hcurrent : owner.current ≠ some request)
      (hlast : owner.lastStopped ≠ some request)
      (hunbound : ¬ (owner.coreDigest.isSome = true ∧ owner.stopped = false))
      (hnext : SameFlags { owner.replaced request with
        coreDigest := some core, deadline := some deadline, proofPending := pending } next) :
      Change owner next [.began request, .bound request]
  | admitted {request : Request} {service : Service} (hcurrent : owner.current = some request)
      (hbound : owner.coreDigest.isSome = true) (hstopped : owner.stopped = false)
      (hservice : owner.service = none) :
      Change owner { owner with service := some service } [.admitted request service]
  | promoted {request : Request} {service : Service} {elapsed : Int}
      (hcurrent : owner.current = some request) (hservice : owner.service = some service)
      (hstopped : owner.stopped = false) (hbound : owner.coreDigest.isSome = true)
      (hdeadline : owner.deadline.isSome = true) :
      Change owner { owner with
        promotedUntilElapsed := some elapsed, deadline := none, proofPending := false
        leaseActive := true } [.promoted request]
  | terminated (hlease : owner.leaseActive = true) (hattached : owner.networkDetachedFromBridge = false) :
      Change owner { owner with proofPending := true, leaseActive := false } []
  | detached (hlease : owner.leaseActive = true) :
      Change owner { owner with networkDetachedFromBridge := true } []
  | cancelled : Change owner { owner with cancelled := true } []
  | settled {request : Request} (hcurrent : owner.current = some request)
      (hservice : owner.service = none) (hstopped : owner.lastStopped ≠ some request) :
      Change owner { owner.settled (some request) with cancelled := true } [.stopped request]
  | ended {request : Request} {service : Service} {network : Option Network}
      (hcurrent : owner.current = some request) (hservice : owner.service = some service) :
      Change owner { owner.settled (some request) with
        cancelled := true, service := none, networkDetachedFromBridge := false
        preparedNetwork := network }
        (if owner.lastStopped = some request then [] else [.stopped request])

theorem SameFlags.refl (owner : AndroidConnectRequestOwner) : SameFlags owner owner :=
  ⟨rfl, rfl, rfl, id, rfl, rfl, rfl, rfl, rfl, rfl, rfl, fun _ => rfl⟩

section Changes

variable {env : Readings} {owner : AndroidConnectRequestOwner}

variable {next : AndroidConnectRequestOwner} {operation : Operation}

theorem stops_self (h : next.lastStopped = owner.lastStopped) :
    Operation.stops owner next = [] := if_pos h

theorem stops_of {request : Request} (h : next.lastStopped = some request) :
    Operation.stops owner next = if owner.lastStopped = some request then [] else [.stopped request] := by
  unfold Operation.stops
  rw [h]
  by_cases hlast : owner.lastStopped = some request
  · rw [if_pos hlast, if_pos hlast.symm]
  · rw [if_neg hlast, if_neg (Ne.symm hlast)]
    rfl

/-- An operation that makes no stop known. -/
theorem change_of {events : List Event} (h : Change owner next events)
    (hafter : operation.after env owner = next) (hanswered : operation.answered env owner = events)
    (hlast : next.lastStopped = owner.lastStopped) :
    Change owner (operation.after env owner) (operation.events env owner) := by
  unfold Operation.events
  rw [hafter, hanswered, stops_self hlast, List.append_nil]
  exact h

/-- An operation that stops a request. -/
theorem change_stops {request : Request}
    (h : Change owner next (if owner.lastStopped = some request then [] else [.stopped request]))
    (hafter : operation.after env owner = next) (hanswered : operation.answered env owner = [])
    (hlast : next.lastStopped = some request) :
    Change owner (operation.after env owner) (operation.events env owner) := by
  unfold Operation.events
  rw [hafter, hanswered, stops_of hlast, List.nil_append]
  exact h

/-- An operation that has changed nothing. -/
theorem change_none (hafter : operation.after env owner = owner)
    (hanswered : operation.answered env owner = []) :
    Change owner (operation.after env owner) (operation.events env owner) :=
  change_of (.kept (.refl owner)) hafter hanswered rfl

variable (request : Request) (service : Service) (expectedProfile : String)

theorem change_begin : Change owner ((Operation.begin request).after env owner)
      ((Operation.begin request).events env owner) := by
  have hfailed : ∀ answer : Option Bool, answer ≠ some true → owner.begin request = (owner, answer) →
      Change owner ((Operation.begin request).after env owner)
        ((Operation.begin request).events env owner) := by
    intro answer hanswer h
    exact change_none (by rw [Operation.after, h]) (by rw [Operation.answered, h, if_neg hanswer])
  unfold AndroidConnectRequestOwner.begin at hfailed
  by_cases hvalid : valid request = false
  · exact hfailed none (by simp) (by rw [if_pos hvalid])
  by_cases hlast : owner.lastStopped = some request
  · exact hfailed (some false) (by simp) (by rw [if_neg hvalid, if_pos hlast])
  by_cases hbound : owner.coreDigest.isSome = true ∧ owner.stopped = false
  · exact hfailed (some false) (by simp) (by rw [if_neg hvalid, if_neg hlast, if_pos hbound])
  have hopen : owner.begin request = if owner.current = some request then
      (owner, some !owner.cancelled) else (owner.replaced request, some true) := by
    rw [AndroidConnectRequestOwner.begin, if_neg hvalid, if_neg hlast, if_neg hbound]
  by_cases hcurrent : owner.current = some request
  · rw [if_pos hcurrent] at hopen
    cases hcancelled : owner.cancelled with
    | true =>
      rw [hcancelled] at hopen
      exact change_none (by rw [Operation.after, hopen]) (by rw [Operation.answered, hopen]; rfl)
    | false =>
      rw [hcancelled] at hopen
      exact change_of (.begunAgain hcurrent hbound) (by rw [Operation.after, hopen])
        (by rw [Operation.answered, hopen]; rfl) rfl
  · rw [if_neg hcurrent] at hopen
    exact change_of (.begun hcurrent hlast hbound) (by rw [Operation.after, hopen])
      (by rw [Operation.answered, hopen]; rfl) rfl

theorem change_beginBound (binding : Binding) :
    Change owner ((Operation.beginBound request binding).after env owner)
      ((Operation.beginBound request binding).events env owner) := by
  have hfailed : ∀ answer : Option Bool, answer ≠ some true →
      owner.beginBound env request binding = (owner, answer) →
      Change owner ((Operation.beginBound request binding).after env owner)
        ((Operation.beginBound request binding).events env owner) := by
    intro answer hanswer h
    exact change_none (by rw [Operation.after, h]) (by rw [Operation.answered, h, if_neg hanswer])
  by_cases hvalid : valid request = false
  · exact hfailed none (by simp) (by rw [AndroidConnectRequestOwner.beginBound, if_pos hvalid])
  by_cases hnetwork : env.networkMatches 0 binding.network binding.networkRef = false
  · exact hfailed (some false) (by simp)
      (by rw [AndroidConnectRequestOwner.beginBound, if_neg hvalid, if_pos hnetwork])
  by_cases hlast : owner.lastStopped = some request
  · exact hfailed (some false) (by simp)
      (by rw [AndroidConnectRequestOwner.beginBound, if_neg hvalid, if_neg hnetwork, if_pos hlast])
  by_cases hcurrent : owner.current = some request
  · have h : ∃ answer, owner.beginBound env request binding = (owner, some answer) ∧
        (answer = true → owner.stopped = false ∧ owner.coreDigest.isSome = true) := by
      rw [AndroidConnectRequestOwner.beginBound, if_neg hvalid, if_neg hnetwork, if_neg hlast,
        if_pos hcurrent]
      refine ⟨_, rfl, fun hanswer => ?_⟩
      simp only [Bool.and_eq_true, Bool.not_eq_true', decide_eq_true_eq] at hanswer
      exact ⟨hanswer.1.1.1.1.1.1.1.2, by rw [hanswer.1.1.1.1.1.1.2]; rfl⟩
    obtain ⟨answer, h, hbound⟩ := h
    cases answer with
    | false => exact hfailed (some false) (by simp) h
    | true =>
      obtain ⟨hstopped, hcore⟩ := hbound rfl
      exact change_of (.boundAgain hcurrent hcore hstopped) (by rw [Operation.after, h])
        (by rw [Operation.answered, h]; rfl) rfl
  by_cases hbound : owner.coreDigest.isSome = true ∧ owner.stopped = false
  · refine hfailed (some false) (by simp) ?_
    rw [AndroidConnectRequestOwner.beginBound, if_neg hvalid, if_neg hnetwork, if_neg hlast,
      if_neg hcurrent, if_pos hbound]
  · have h := AndroidConnectRequestOwner.beginBound.eq_1 owner env request binding
    rw [if_neg hvalid, if_neg hnetwork, if_neg hlast, if_neg hcurrent, if_neg hbound] at h
    have hchange : Change owner (owner.beginBound env request binding).1
        [.began request, .bound request] := by
      rw [h]
      exact .bound hcurrent hlast hbound
        ⟨rfl, rfl, rfl, id, rfl, rfl, rfl, rfl, rfl, rfl, rfl, fun hnone => by cases hnone⟩
    exact change_of hchange rfl (by rw [Operation.answered, h]; rfl) (by rw [h]; rfl)

theorem change_bindForegroundNetwork (network : Network) (networkRef : String) (stopEpoch : Int) :
    Change owner ((Operation.bindForegroundNetwork request network networkRef stopEpoch).after env owner)
      ((Operation.bindForegroundNetwork request network networkRef stopEpoch).events env owner) := by
  have hsame : SameFlags owner
      (owner.bindForegroundNetwork env request network networkRef stopEpoch).1 := by
    unfold AndroidConnectRequestOwner.bindForegroundNetwork
    split
    · exact .refl owner
    · rename_i hcurrent
      split
      · exact .refl owner
      · refine ⟨rfl, rfl, rfl, id, rfl, rfl, rfl, rfl, rfl, rfl, rfl, fun hnone => ?_⟩
        exact absurd (.inl (by rw [hnone]; exact Option.some_ne_none request |>.symm)) hcurrent
  exact change_of (.kept hsame) rfl rfl hsame.lastStopped

theorem change_admitService :
    Change owner ((Operation.admitService request service).after env owner)
      ((Operation.admitService request service).events env owner) := by
  have h := AndroidConnectRequestOwner.admitService.eq_1 owner env request service
  split at h
  · exact change_none (by rw [Operation.after, h]) (by rw [Operation.answered, h]; rfl)
  · rename_i hadmissible
    simp only [not_or, ne_eq, not_not, Bool.not_eq_true] at hadmissible
    split at h
    · rename_i hunbound
      have hcore : ¬ owner.coreDigest.isSome = true := by simpa using hunbound
      exact change_none (by rw [Operation.after, h])
        (by rw [Operation.answered, h, if_neg fun hboth => hcore hboth.2])
    · rename_i hbound
      have hcore : owner.coreDigest.isSome = true := by
        simpa [Option.isSome_iff_ne_none] using hbound
      split at h
      · exact change_none (by rw [Operation.after, h]) (by rw [Operation.answered, h]; rfl)
      · rename_i hservice
        have hchange : Change owner (owner.admitService env request service).1
            [.admitted request service] := by
          rw [h]
          exact .admitted hadmissible.1 hcore hadmissible.2.2.1 (by simpa using hservice)
        exact change_of hchange rfl (by rw [Operation.answered, h, if_pos ⟨rfl, hcore⟩]) (by rw [h])

theorem change_bindNetwork (generation : Int) :
    Change owner ((Operation.bindNetwork request service generation).after env owner)
      ((Operation.bindNetwork request service generation).events env owner) := by
  have hsame : SameFlags owner (owner.bindNetwork env request service generation).1 := by
    unfold AndroidConnectRequestOwner.bindNetwork
    split
    · exact .refl owner
    · split
      · exact .refl owner
      · exact ⟨rfl, rfl, rfl, id, rfl, rfl, rfl, rfl, rfl, rfl, rfl, fun _ => rfl⟩
  exact change_of (.kept hsame) rfl rfl hsame.lastStopped

theorem change_settleBeforeServiceAdmission :
    Change owner ((Operation.settleBeforeServiceAdmission request).after env owner)
      ((Operation.settleBeforeServiceAdmission request).events env owner) := by
  have h := AndroidConnectRequestOwner.settleBeforeServiceAdmission.eq_1 owner request
  split at h
  · exact change_none (by rw [Operation.after, h]) rfl
  · rename_i hlast
    split at h
    · exact change_none (by rw [Operation.after, h]) rfl
    · rename_i hsettles
      simp only [not_or, ne_eq, not_not, Bool.not_eq_true, Bool.not_eq_false] at hsettles
      obtain ⟨hcurrent, -, hcancelled, hservice⟩ := hsettles
      have hnext : (owner.settleBeforeServiceAdmission request).1 =
          { owner.settled (some request) with cancelled := true } := by
        rw [h, ← hcancelled]
        rfl
      have hchange : Change owner { owner.settled (some request) with cancelled := true }
          (if owner.lastStopped = some request then [] else [.stopped request]) := by
        rw [if_neg hlast]
        exact .settled hcurrent (by simpa using hservice) hlast
      exact change_stops hchange hnext rfl rfl

theorem change_serviceStopped :
    Change owner ((Operation.serviceStopped request service).after env owner)
      ((Operation.serviceStopped request service).events env owner) := by
  have h := AndroidConnectRequestOwner.serviceStopped.eq_1 owner request service
  split at h
  · exact change_none (by rw [Operation.after, h]) rfl
  · rename_i howned
    simp only [not_or, ne_eq, not_not] at howned
    have hchange : Change owner (owner.serviceStopped request service).1
        (if owner.lastStopped = some request then [] else [.stopped request]) := by
      rw [h]
      exact .ended howned.1 howned.2
    exact change_stops hchange rfl rfl (by rw [h]; rfl)

/-- What the closing bridge takes for granted of the owner. -/
structure Prepared (owner : AndroidConnectRequestOwner) : Prop where
  current : owner.current = none → owner.preparedNetwork = none
  stopped : ∀ request, owner.current = some request → owner.lastStopped = some request →
    owner.stopped = true

theorem change_bridgeClosing (hprepared : Prepared owner) (network : Network) :
    Change owner ((Operation.bridgeClosing network).after env owner)
      ((Operation.bridgeClosing network).events env owner) := by
  have h := AndroidConnectRequestOwner.bridgeClosing.eq_1 owner env network
  split at h
  · exact change_none (by rw [Operation.after, h]) rfl
  · rename_i howned
    simp only [not_or, ne_eq, not_not, Bool.not_eq_true] at howned
    split at h
    · rename_i hlease
      have hchange : Change owner (owner.bridgeClosing env network).1 [] := by
        rw [h]
        exact .detached hlease.2.2
      exact change_of hchange rfl rfl (by rw [h])
    · split at h
      · rename_i hservice
        cases hcurrent : owner.current with
        | none => rw [hprepared.current hcurrent] at howned; cases howned.1
        | some request =>
          have hlast : owner.lastStopped ≠ some request := fun hlast => by
            rw [hprepared.stopped request hcurrent hlast] at howned
            cases howned.2
          have hchange : Change owner (owner.bridgeClosing env network).1
              (if owner.lastStopped = some request then [] else [.stopped request]) := by
            rw [h, if_neg hlast, hcurrent]
            exact .settled hcurrent hservice hlast
          exact change_stops hchange rfl rfl (by rw [h, hcurrent]; rfl)
      · have hchange : Change owner (owner.bridgeClosing env network).1 [] := by
          rw [h]
          exact .cancelled
        exact change_of hchange rfl rfl (by rw [h])

theorem change_promote (activeUntilElapsed : Int) :
    Change owner ((Operation.promote request service expectedProfile activeUntilElapsed).after env owner)
      ((Operation.promote request service expectedProfile activeUntilElapsed).events env owner) := by
  have h := AndroidConnectRequestOwner.promote.eq_1 owner env request service expectedProfile
    activeUntilElapsed
  split at h
  · exact change_none (by rw [Operation.after, h]) (by rw [Operation.answered, h]; rfl)
  · rename_i howned
    simp only [not_or, ne_eq, not_not, Bool.not_eq_true, Bool.not_eq_false] at howned
    obtain ⟨hcurrent, hservice, -, hstopped, hcore, -, hdeadline, -⟩ := howned
    have hbound : owner.coreDigest.isSome = true := by
      simpa [Option.isSome_iff_ne_none] using hcore
    have hset : owner.deadline.isSome = true := by
      cases hset : owner.deadline with
      | none =>
        rw [hset] at hdeadline
        cases hdeadline
      | some deadline => rfl
    have hchange : Change owner
        (owner.promote env request service expectedProfile activeUntilElapsed).1
        [.promoted request] := by
      rw [h]
      exact .promoted hcurrent hservice hstopped hbound hset
    exact change_of hchange rfl (by rw [Operation.answered, h]; rfl) (by rw [h])

theorem change_retainFirstProviderQa (expectedDeadline proposed : AndroidConnectDeadline) :
    Change owner
      ((Operation.retainFirstProviderQa request service expectedProfile expectedDeadline proposed).after
        env owner)
      ((Operation.retainFirstProviderQa request service expectedProfile expectedDeadline proposed).events
        env owner) := by
  have hsame : SameFlags owner (owner.retainFirstProviderQa env request service expectedProfile
      expectedDeadline proposed).1 := by
    unfold AndroidConnectRequestOwner.retainFirstProviderQa
    split
    · exact .refl owner
    · rename_i howned
      simp only [not_or, ne_eq, not_not, Bool.not_eq_true, Bool.not_eq_false] at howned
      obtain ⟨-, -, -, -, -, -, hdeadline, -⟩ := howned
      have hkept : ∀ next : Option AndroidConnectDeadline, owner.deadline = none → next = none := by
        intro next hnone
        rw [hnone] at hdeadline
        cases hdeadline
      exact ⟨rfl, rfl, rfl, hkept _, rfl, rfl, rfl, rfl, rfl, rfl, rfl, fun _ => rfl⟩
  exact change_of (.kept hsame) rfl rfl hsame.lastStopped

theorem change_markTransportLeaseTerminated : Change owner
      ((Operation.markTransportLeaseTerminated request service expectedProfile).after env owner)
      ((Operation.markTransportLeaseTerminated request service expectedProfile).events env owner) := by
  have h := AndroidConnectRequestOwner.markTransportLeaseTerminated.eq_1 owner request service
    expectedProfile
  split at h
  · exact change_none (by rw [Operation.after, h]) rfl
  · rename_i howned
    simp only [not_or, ne_eq, not_not, Bool.not_eq_true, Bool.not_eq_false] at howned
    obtain ⟨-, -, -, -, -, hlease, hattached⟩ := howned
    have hchange : Change owner
        (owner.markTransportLeaseTerminated request service expectedProfile).1 [] := by
      rw [h]
      exact .terminated hlease hattached
    exact change_of hchange rfl rfl (by rw [h])

/-- What an operation may do to the owner. -/
theorem change_of_operation (hprepared : Prepared owner) (operation : Operation) :
    Change owner (operation.after env owner) (operation.events env owner) := by
  cases operation with
  | begin request => exact change_begin request
  | beginBound request binding => exact change_beginBound request binding
  | bindForegroundNetwork request network networkRef stopEpoch =>
    exact change_bindForegroundNetwork request network networkRef stopEpoch
  | admitService request service => exact change_admitService request service
  | bindNetwork request service generation => exact change_bindNetwork request service generation
  | settleBeforeServiceAdmission request => exact change_settleBeforeServiceAdmission request
  | serviceStopped request service => exact change_serviceStopped request service
  | bridgeClosing network => exact change_bridgeClosing hprepared network
  | promote request service expectedProfile activeUntilElapsed =>
    exact change_promote request service expectedProfile activeUntilElapsed
  | retainFirstProviderQa request service expectedProfile expectedDeadline proposed =>
    exact change_retainFirstProviderQa request service expectedProfile expectedDeadline proposed
  | markTransportLeaseTerminated request service expectedProfile =>
    exact change_markTransportLeaseTerminated request service expectedProfile
  | expire request =>
    have h := AndroidConnectRequestOwner.expire.eq_1 owner env request
    split at h
    · exact change_none (by rw [Operation.after, h]) rfl
    · exact change_of .cancelled (by rw [Operation.after, h]) rfl rfl
  | cancel request =>
    have h := AndroidConnectRequestOwner.cancel.eq_1 owner request
    split at h
    · exact change_none (by rw [Operation.after, h]) rfl
    · exact change_of .cancelled (by rw [Operation.after, h]) rfl rfl
  | invalidate => exact change_of .cancelled rfl rfl rfl
  | cancelIfNetworkChanged =>
    have h := AndroidConnectRequestOwner.cancelIfNetworkChanged.eq_1 owner env
    split at h
    · exact change_none (by rw [Operation.after, h]) rfl
    · exact change_of .cancelled (by rw [Operation.after, h]) rfl rfl

end Changes

/-! ## The flags -/

/-- The flags of the claims that the shell reads off the owner. -/
structure Flags (owner : AndroidConnectRequestOwner) : Prop where
  exclusive : ¬ (owner.proofPending = true ∧ owner.leaseActive = true)
  lease : owner.leaseActive = true → owner.coreDigest.isSome = true ∧ owner.service.isSome = true ∧
    owner.promotedUntilElapsed.isSome = true ∧ owner.stopped = false
  stopped : owner.stopped = true → owner.cancelled = true
  detached : owner.networkDetachedFromBridge = true → owner.leaseActive = true
  service : owner.service.isSome = true → owner.coreDigest.isSome = true ∧ owner.stopped = false
  bound : owner.coreDigest.isSome = true → owner.current.isSome = true
  promoted : owner.promotedUntilElapsed.isSome = true → owner.deadline = none
  prepared : owner.current = none → owner.preparedNetwork = none
  last : ∀ request, owner.current = some request → owner.lastStopped = some request →
    owner.stopped = true

theorem Flags.same {owner next : AndroidConnectRequestOwner} (h : Flags owner)
    (hsame : SameFlags owner next) : Flags next := by
  constructor
  · rw [hsame.proofPending, hsame.leaseActive]
    exact h.exclusive
  · rw [hsame.leaseActive, hsame.coreDigest, hsame.service, hsame.promotedUntilElapsed, hsame.stopped]
    exact h.lease
  · rw [hsame.stopped, hsame.cancelled]
    exact h.stopped
  · rw [hsame.networkDetachedFromBridge, hsame.leaseActive]
    exact h.detached
  · rw [hsame.service, hsame.coreDigest, hsame.stopped]
    exact h.service
  · rw [hsame.coreDigest, hsame.current]
    exact h.bound
  · rw [hsame.promotedUntilElapsed]
    exact fun hpromoted => hsame.deadline (h.promoted hpromoted)
  · rw [hsame.current]
    exact fun hnone => (hsame.preparedNetwork hnone).trans (h.prepared hnone)
  · rw [hsame.current, hsame.lastStopped, hsame.stopped]
    exact h.last

theorem Flags.initial : Flags {} := by
  constructor <;> simp

/-- A request that takes the place of another has no flags of its own yet. -/
theorem Flags.replaced {owner : AndroidConnectRequestOwner} {request : Request}
    (hlast : owner.lastStopped ≠ some request) : Flags (owner.replaced request) := by
  constructor <;> simp [AndroidConnectRequestOwner.replaced]
  exact hlast

theorem Flags.bind {owner : AndroidConnectRequestOwner} {request : Request} {core : String}
    {deadline : AndroidConnectDeadline} {pending : Bool} (hlast : owner.lastStopped ≠ some request) :
    Flags { owner.replaced request with
      coreDigest := some core, deadline := some deadline, proofPending := pending } := by
  constructor <;> simp [AndroidConnectRequestOwner.replaced]
  exact hlast

section Kept

variable {owner : AndroidConnectRequestOwner}

theorem Flags.admit (h : Flags owner) {service : Service} (hcore : owner.coreDigest.isSome = true)
    (hopen : owner.stopped = false) : Flags { owner with service := some service } := by
  obtain ⟨⟩ := h
  constructor <;> grind -ring -linarith

theorem Flags.promote (h : Flags owner) {elapsed : Int} (hserved : owner.service.isSome = true) :
    Flags { owner with
      promotedUntilElapsed := some elapsed, deadline := none, proofPending := false
      leaseActive := true } := by
  obtain ⟨⟩ := h
  constructor <;> grind -ring -linarith

theorem Flags.terminate (h : Flags owner) (hattached : owner.networkDetachedFromBridge = false) :
    Flags { owner with proofPending := true, leaseActive := false } := by
  obtain ⟨⟩ := h
  constructor <;> grind -ring -linarith

theorem Flags.detach (h : Flags owner) (hlease : owner.leaseActive = true) :
    Flags { owner with networkDetachedFromBridge := true } := by
  obtain ⟨⟩ := h
  constructor <;> grind -ring -linarith

theorem Flags.cancel (h : Flags owner) : Flags { owner with cancelled := true } := by
  obtain ⟨⟩ := h
  constructor <;> grind -ring -linarith

/-- A request without a service is settled. -/
theorem Flags.settle (h : Flags owner) {request : Request} (hfree : owner.service = none) :
    Flags { owner.settled (some request) with cancelled := true } := by
  obtain ⟨⟩ := h
  constructor <;> grind -ring -linarith [AndroidConnectRequestOwner.settled]

/-- The service of a request has stopped. -/
theorem Flags.serviceEnded (h : Flags owner) {request : Request} {network : Option Network}
    (hcurrent : owner.current = some request) :
    Flags { owner.settled (some request) with
      cancelled := true, service := none, networkDetachedFromBridge := false
      preparedNetwork := network } := by
  obtain ⟨⟩ := h
  constructor <;> grind -ring -linarith [AndroidConnectRequestOwner.settled]

theorem Flags.change (h : Flags owner) {next : AndroidConnectRequestOwner} {events : List Event}
    (hchange : Change owner next events) : Flags next := by
  cases hchange with
  | kept hsame => exact h.same hsame
  | begunAgain hcurrent hunbound => exact h
  | begun hcurrent hlast hunbound => exact .replaced hlast
  | boundAgain hcurrent hcore hopen => exact h
  | bound hcurrent hlast hunbound hnext => exact (Flags.bind hlast).same hnext
  | admitted hcurrent hcore hopen hfree => exact h.admit hcore hopen
  | promoted hcurrent howned hopen hcore hdeadline =>
    apply h.promote
    rw [howned]
    rfl
  | terminated hactive hattached => exact h.terminate hattached
  | detached hactive => exact h.detach hactive
  | cancelled => exact h.cancel
  | settled hcurrent hfree hnew => exact h.settle hfree
  | ended hcurrent howned => exact h.serviceEnded hcurrent

end Kept

end Pokrov.Android
