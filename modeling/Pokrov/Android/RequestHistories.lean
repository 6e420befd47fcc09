import Pokrov.Android.RequestOwnership
import Pokrov.Lib.Histories

/-!
# What a request owns over a history

The operations come in any order, from the bridge, the service and the network.
The events of a history tell which requests were bound, served, promoted and
stopped in it.
-/

namespace Pokrov.Android

open AndroidConnectRequestOwner Histories

/-- An owner, the requests that were current before, and what has happened. -/
structure History where
  owner : AndroidConnectRequestOwner := {}
  past : List Request := []
  events : List Event := []

def History.after (h : History) (env : Readings) (operation : Operation) : History where
  owner := operation.after env h.owner
  past := if (operation.after env h.owner).current = h.owner.current then h.past
    else h.owner.current.toList ++ h.past
  events := h.events ++ operation.events env h.owner

/-- Any sequence of operations from a history on, where no request is begun again
after another one was current. -/
inductive Leads (h : History) : History → Prop
  | refl : Leads h h
  | step {later : History} {env : Readings} {operation : Operation} (hleads : Leads h later)
      (hfresh : ∀ request, operation.begins = some request → request ∉ later.past) :
      Leads h (later.after env operation)

/-- A history of the process. -/
abbrev Reached (h : History) : Prop := Leads {} h

/-- The request was bound, and its stop is not known since. -/
def IsOpen (request : Request) (events : List Event) : Prop :=
  Since (· = .bound request) (· = .stopped request) events

@[simp] theorem isOpen_append {request : Request} {events : List Event} {event : Event} :
    IsOpen request (events ++ [event]) ↔
      event = .bound request ∨ IsOpen request events ∧ event ≠ .stopped request :=
  since_append_singleton

/-- What the events say about the request that is current. -/
structure Recorded (owner : AndroidConnectRequestOwner) (past : List Request)
    (events : List Event) : Prop where
  distinct : ∀ request, owner.current = some request → request ∉ past
  known : ∀ event ∈ events, owner.current = some event.request ∨ event.request ∈ past
  admitted : ∀ request service, .admitted request service ∈ events →
    owner.current = some request → owner.service = some service ∨ owner.stopped = true
  service : ∀ service, owner.service = some service →
    ∃ request, owner.current = some request ∧ .admitted request service ∈ events
  promoted : ∀ request, .promoted request ∈ events → owner.current = some request →
    owner.promotedUntilElapsed.isSome = true
  lease : owner.leaseActive = true →
    ∃ request, owner.current = some request ∧ .promoted request ∈ events
  stopped : ∀ request, .stopped request ∈ events → owner.current = some request →
    owner.stopped = true
  last : ∀ request, owner.lastStopped = some request → .stopped request ∈ events
  opened : ∀ request, IsOpen request events ↔ owner.current = some request ∧
    owner.coreDigest.isSome = true ∧ owner.stopped = false

section Steps

variable {owner next : AndroidConnectRequestOwner} {past : List Request} {events : List Event}

/-- Fewer leases, and the same otherwise. -/
theorem Recorded.relax (h : Recorded owner past events) (hcurrent : next.current = owner.current)
    (hcore : next.coreDigest = owner.coreDigest) (hservice : next.service = owner.service)
    (hstopped : next.stopped = owner.stopped) (hlast : next.lastStopped = owner.lastStopped)
    (hpromoted : next.promotedUntilElapsed = owner.promotedUntilElapsed)
    (hlease : next.leaseActive = true → owner.leaseActive = true) : Recorded next past events := by
  obtain ⟨⟩ := h
  constructor <;> grind -ring -linarith

theorem Recorded.same (h : Recorded owner past events) (hsame : SameFlags owner next) :
    Recorded next past events :=
  h.relax hsame.current hsame.coreDigest hsame.service hsame.stopped hsame.lastStopped
    hsame.promotedUntilElapsed (by rw [hsame.leaseActive]; exact id)

/-- Something has happened to the request that is current. -/
theorem Recorded.event (h : Recorded owner past events) (event : Event)
    (hcurrent : owner.current = some event.request) (hbegan : ∃ request, event = .began request ∨
      event = .bound request ∧ owner.coreDigest.isSome = true ∧ owner.stopped = false) :
    Recorded owner past (events ++ [event]) := by
  obtain ⟨⟩ := h
  constructor <;> grind -ring -linarith [isOpen_append, Event.request]

variable {request : Request} {what : List Event}

/-- A request takes the place of another that is not bound, or stopped. -/
theorem Recorded.replaced (h : Recorded owner past events) (hnew : request ∉ past)
    (hcurrent : owner.current ≠ some request)
    (hunbound : ¬ (owner.coreDigest.isSome = true ∧ owner.stopped = false)) :
    Recorded (owner.replaced request) (owner.current.toList ++ past)
      (events ++ [.began request]) := by
  obtain ⟨⟩ := h
  constructor <;> grind -ring -linarith [isOpen_append, Event.request, AndroidConnectRequestOwner.replaced]

/-- A request that has just taken its place is bound. -/
theorem Recorded.bind (h : Recorded (owner.replaced request) past events) (core : String)
    (deadline : AndroidConnectDeadline) (pending : Bool) : Recorded { owner.replaced request with
      coreDigest := some core, deadline := some deadline, proofPending := pending } past
      (events ++ [.bound request]) := by
  obtain ⟨⟩ := h
  constructor <;> grind -ring -linarith [isOpen_append, Event.request, AndroidConnectRequestOwner.replaced]

theorem Recorded.admit (h : Recorded owner past events) {service : Service}
    (hcurrent : owner.current = some request) (hopen : owner.stopped = false)
    (hfree : owner.service = none) :
    Recorded { owner with service := some service } past (events ++ [.admitted request service]) := by
  obtain ⟨⟩ := h
  constructor <;> grind -ring -linarith [isOpen_append, Event.request]

theorem Recorded.promote (h : Recorded owner past events) {elapsed : Int}
    (hcurrent : owner.current = some request) : Recorded { owner with
      promotedUntilElapsed := some elapsed, deadline := none, proofPending := false
      leaseActive := true } past (events ++ [.promoted request]) := by
  obtain ⟨⟩ := h
  constructor <;> grind -ring -linarith [isOpen_append, Event.request]

theorem Recorded.settle (h : Recorded owner past events) (hcurrent : owner.current = some request)
    (hfree : owner.service = none) :
    Recorded { owner.settled (some request) with cancelled := true } past
      (events ++ [.stopped request]) := by
  obtain ⟨⟩ := h
  constructor <;> grind -ring -linarith [isOpen_append, Event.request, AndroidConnectRequestOwner.settled]

theorem Recorded.serviceEnded (h : Recorded owner past events) {network : Option Network}
    (hcurrent : owner.current = some request) : Recorded { owner.settled (some request) with
      cancelled := true, service := none, networkDetachedFromBridge := false
      preparedNetwork := network } past
      (events ++ if owner.lastStopped = some request then [] else [.stopped request]) := by
  by_cases hlast : owner.lastStopped = some request
  · rw [if_pos hlast, List.append_nil]
    have hstopped := h.stopped request (h.last request hlast) hcurrent
    obtain ⟨⟩ := h
    constructor <;> grind -ring -linarith [AndroidConnectRequestOwner.settled]
  · rw [if_neg hlast]
    obtain ⟨⟩ := h
    constructor <;> grind -ring -linarith [isOpen_append, Event.request, AndroidConnectRequestOwner.settled]

theorem Recorded.change (h : Recorded owner past events) (hchange : Change owner next what)
    (hfresh : ∀ request, .began request ∈ what → request ∉ past) :
    Recorded next (if next.current = owner.current then past else owner.current.toList ++ past)
      (events ++ what) := by
  cases hchange with
  | kept hsame =>
    rw [if_pos hsame.current, List.append_nil]
    exact h.same hsame
  | begunAgain hcurrent hunbound =>
    rw [if_pos rfl]
    exact h.event _ hcurrent ⟨_, .inl rfl⟩
  | @begun request hcurrent hlast hunbound =>
    have hnew : (owner.replaced request).current ≠ owner.current := Ne.symm hcurrent
    rw [if_neg hnew]
    exact h.replaced (hfresh request (by simp)) hcurrent hunbound
  | @boundAgain request hcurrent hcore hopen =>
    rw [if_pos rfl]
    have hbegan : Recorded owner past (events ++ [.began request]) :=
      h.event _ hcurrent ⟨request, .inl rfl⟩
    have hbound := hbegan.event (.bound request) hcurrent
      ⟨request, .inr ⟨rfl, hcore, hopen⟩⟩
    rw [List.append_assoc] at hbound
    exact hbound
  | @bound request next core deadline pending hcurrent hlast hunbound hnext =>
    have hnew : next.current ≠ owner.current := by
      rw [hnext.current]
      exact Ne.symm hcurrent
    rw [if_neg hnew]
    have hreplaced := h.replaced (hfresh request (by simp)) hcurrent hunbound
    have hbound := hreplaced.bind core deadline pending
    rw [List.append_assoc] at hbound
    exact hbound.same hnext
  | admitted hcurrent hcore hopen hfree =>
    rw [if_pos rfl]
    exact h.admit hcurrent hopen hfree
  | promoted hcurrent howned hopen hcore hdeadline =>
    rw [if_pos rfl]
    exact h.promote hcurrent
  | terminated hactive hattached =>
    rw [if_pos rfl, List.append_nil]
    exact h.relax rfl rfl rfl rfl rfl rfl (by simp)
  | detached hactive =>
    rw [if_pos rfl, List.append_nil]
    exact h.relax rfl rfl rfl rfl rfl rfl id
  | cancelled =>
    rw [if_pos rfl, List.append_nil]
    exact h.relax rfl rfl rfl rfl rfl rfl id
  | settled hcurrent hfree hnew =>
    rw [if_pos (by rfl)]
    exact h.settle hcurrent hfree
  | ended hcurrent howned =>
    rw [if_pos (by rfl)]
    exact h.serviceEnded hcurrent

/-! ## At most once -/

def Event.admits (request : Request) : Event → Bool
  | admitted served _ => decide (served = request)
  | _ => false

def Event.promotes (request : Request) : Event → Bool
  | promoted lent => decide (lent = request)
  | _ => false

/-- No request is served or promoted twice. -/
structure Once (events : List Event) : Prop where
  admitted : ∀ request, events.countP (Event.admits request) ≤ 1
  promoted : ∀ request, events.countP (Event.promotes request) ≤ 1

theorem Once.initial : Once [] := ⟨by simp, by simp⟩

theorem countP_admits_eq_zero (h : ∀ service, .admitted request service ∉ events) :
    events.countP (Event.admits request) = 0 := by
  refine List.countP_eq_zero.mpr fun event hevent hadmits => ?_
  cases event with
  | admitted served service =>
    have hserved : served = request := by simpa [Event.admits] using hadmits
    exact h service (hserved ▸ hevent)
  | _ => simp [Event.admits] at hadmits

theorem countP_promotes_eq_zero (h : .promoted request ∉ events) :
    events.countP (Event.promotes request) = 0 := by
  refine List.countP_eq_zero.mpr fun event hevent hpromotes => ?_
  cases event with
  | promoted lent =>
    have hlent : lent = request := by simpa [Event.promotes] using hpromotes
    exact h (hlent ▸ hevent)
  | _ => simp [Event.promotes] at hpromotes

/-- Events that serve and promote nothing. -/
theorem Once.append (h : Once events) (hadmits : ∀ request, what.countP (Event.admits request) = 0)
    (hpromotes : ∀ request, what.countP (Event.promotes request) = 0) : Once (events ++ what) := by
  constructor
  · intro request
    rw [List.countP_append, hadmits, Nat.add_zero]
    exact h.admitted request
  · intro request
    rw [List.countP_append, hpromotes, Nat.add_zero]
    exact h.promoted request

theorem Once.admit (h : Once events) {service : Service}
    (hfirst : ∀ earlier, .admitted request earlier ∉ events) :
    Once (events ++ [.admitted request service]) := by
  constructor
  · intro served
    by_cases hsame : request = served
    · subst hsame
      simp [List.countP_append, countP_admits_eq_zero hfirst, List.countP_cons]
      split <;> omega
    · simpa [List.countP_append, List.countP_cons, Event.admits, hsame] using h.admitted served
  · intro lent
    simpa [List.countP_append, List.countP_cons, Event.promotes] using h.promoted lent

theorem Once.promote (h : Once events) (hfirst : .promoted request ∉ events) :
    Once (events ++ [.promoted request]) := by
  constructor
  · intro served
    simpa [List.countP_append, List.countP_cons, Event.admits] using h.admitted served
  · intro lent
    by_cases hsame : request = lent
    · subst hsame
      simp [List.countP_append, countP_promotes_eq_zero hfirst, List.countP_cons]
      split <;> omega
    · simpa [List.countP_append, List.countP_cons, Event.promotes, hsame] using h.promoted lent

theorem Once.change (h : Once events) (hflags : Flags owner)
    (hrecorded : Recorded owner past events) (hchange : Change owner next what) :
    Once (events ++ what) := by
  cases hchange with
  | @admitted request service hcurrent hcore hopen hfree =>
    apply h.admit
    intro earlier hearlier
    rcases hrecorded.admitted request earlier hearlier hcurrent with hserved | hstopped
    · rw [hfree] at hserved
      cases hserved
    · rw [hopen] at hstopped
      cases hstopped
  | @promoted request service elapsed hcurrent howned hopen hcore hdeadline =>
    apply h.promote
    intro hearlier
    have hspent := hflags.promoted (hrecorded.promoted request hearlier hcurrent)
    rw [hspent] at hdeadline
    cases hdeadline
  | ended hcurrent howned => split <;> exact h.append (by simp [Event.admits]) (by simp [Event.promotes])
  | _ => exact h.append (by simp [Event.admits]) (by simp [Event.promotes])

end Steps

/-! ## Runs -/

/-- What every operation keeps. -/
structure Standing (h : History) : Prop where
  flags : Flags h.owner
  recorded : Recorded h.owner h.past h.events
  once : Once h.events

theorem Flags.toPrepared {owner : AndroidConnectRequestOwner} (h : Flags owner) : Prepared owner :=
  ⟨h.prepared, h.last⟩

variable {request : Request} {h : History}

theorem begins_of_began {env : Readings} {owner : AndroidConnectRequestOwner}
    {operation : Operation} (h : .began request ∈ operation.events env owner) :
    operation.begins = some request := by
  have hanswered : .began request ∈ operation.answered env owner := by
    rcases List.mem_append.mp h with h | h
    · exact h
    · unfold Operation.stops at h
      split at h <;> simp at h
  cases operation <;> simp only [Operation.answered] at hanswered <;> try split at hanswered
  all_goals simp_all [Operation.begins]

theorem Standing.initial : Standing {} := by
  refine ⟨.initial, ?_, .initial⟩
  constructor <;> simp [IsOpen]

theorem Standing.step (hstanding : Standing h) {env : Readings} {operation : Operation}
    (hfresh : ∀ request, operation.begins = some request → request ∉ h.past) :
    Standing (h.after env operation) := by
  have hchange : Change h.owner (operation.after env h.owner) (operation.events env h.owner) :=
    change_of_operation hstanding.flags.toPrepared operation
  constructor
  · exact hstanding.flags.change hchange
  · exact hstanding.recorded.change hchange fun request hbegan => hfresh request (begins_of_began hbegan)
  · exact hstanding.once.change hstanding.flags hstanding.recorded hchange

theorem Standing.leads {h later : History} (hstanding : Standing h) (hleads : Leads h later) :
    Standing later := by
  induction hleads with
  | refl => exact hstanding
  | step _ hfresh ih => exact ih.step hfresh

/-- What has happened in a history has happened in those that it leads to. -/
theorem Leads.events {h later : History} (hleads : Leads h later) {event : Event}
    (hevent : event ∈ h.events) : event ∈ later.events := by
  induction hleads with
  | refl => exact hevent
  | step _ _ ih => exact List.mem_append_left _ ih

/-! ## What is promised of a request -/

/-- The flags agree with one another, and with what has happened. -/
structure Consistent (owner : AndroidConnectRequestOwner) (events : List Event) : Prop where
  exclusive : ¬ (owner.proofPending = true ∧ owner.leaseActive = true)
  lease : owner.leaseActive = true → ∃ request service,
    owner.current = some request ∧ IsOpen request events ∧ owner.stopped = false ∧
      owner.service = some service ∧ .admitted request service ∈ events ∧
      owner.promotedUntilElapsed.isSome = true ∧ .promoted request ∈ events
  stopped : owner.stopped = true → owner.cancelled = true
  detached : owner.networkDetachedFromBridge = true → owner.leaseActive = true

/-- No operation of the request succeeds. -/
structure Fenced (owner : AndroidConnectRequestOwner) (request : Request) : Prop where
  admitService : ∀ env service, (owner.admitService env request service).2 = false
  bindNetwork : ∀ env service generation, (owner.bindNetwork env request service generation).2 = false
  ownsStart : ∀ env core profile deadline, owner.ownsStart env request core profile deadline = false
  owns : ∀ env, owner.owns env request = false
  promote : ∀ env service profile elapsed,
    (owner.promote env request service profile elapsed).2 = false

theorem Standing.consistent (hstanding : Standing h) : Consistent h.owner h.events := by
  obtain ⟨hflags, hrecorded, -⟩ := hstanding
  refine ⟨hflags.exclusive, fun hlease => ?_, hflags.stopped, hflags.detached⟩
  obtain ⟨hcore, hserved, hpromoted, hstopped⟩ := hflags.lease hlease
  obtain ⟨service, hservice⟩ := Option.isSome_iff_exists.mp hserved
  obtain ⟨request, hcurrent, hadmitted⟩ := hrecorded.service service hservice
  obtain ⟨lent, hlent, hevent⟩ := hrecorded.lease hlease
  obtain rfl : request = lent := Option.some.inj (hcurrent.symm.trans hlent)
  have hopen : IsOpen request h.events := (hrecorded.opened request).mpr ⟨hcurrent, hcore, hstopped⟩
  exact ⟨request, service, hcurrent, hopen, hstopped, hservice, hadmitted, hpromoted, hevent⟩

/-- A request that is not the one in hand, or is stopped, owns nothing. -/
theorem Flags.fenced {owner : AndroidConnectRequestOwner} (hflags : Flags owner)
    (hstopped : owner.current = some request → owner.stopped = true) : Fenced owner request := by
  by_cases hcurrent : owner.current = some request
  · have hcancelled : owner.cancelled = true := hflags.stopped (hstopped hcurrent)
    constructor <;> intros <;>
      simp [AndroidConnectRequestOwner.admitService, AndroidConnectRequestOwner.bindNetwork,
        AndroidConnectRequestOwner.ownsStart, AndroidConnectRequestOwner.owns,
        AndroidConnectRequestOwner.promote, hcancelled]
  · constructor <;> intros <;>
      simp [AndroidConnectRequestOwner.admitService, AndroidConnectRequestOwner.bindNetwork,
        AndroidConnectRequestOwner.ownsStart, AndroidConnectRequestOwner.owns,
        AndroidConnectRequestOwner.promote, hcurrent]

theorem Standing.fenced (hstanding : Standing h) (hstopped : .stopped request ∈ h.events) :
    Fenced h.owner request :=
  hstanding.flags.fenced (hstanding.recorded.stopped request hstopped)

/-- While a request that is bound has not stopped, no other begins. -/
theorem Standing.alone (hstanding : Standing h) {request other : Request}
    (hopen : IsOpen request h.events) (hother : other ≠ request) :
    (h.owner.begin other).2 ≠ some true ∧
      ∀ env binding, (h.owner.beginBound env other binding).2 ≠ some true := by
  obtain ⟨hcurrent, hcore, hstopped⟩ := (hstanding.recorded.opened request).mp hopen
  have hnew : h.owner.current ≠ some other := by
    rw [hcurrent]
    exact fun hsame => hother (Option.some.inj hsame).symm
  constructor
  · unfold AndroidConnectRequestOwner.begin
    split_ifs with hvalid hlast hbound
    · simp
    · simp
    · simp
    all_goals exact absurd ⟨hcore, hstopped⟩ hbound
  · intro env binding
    unfold AndroidConnectRequestOwner.beginBound
    split_ifs with hvalid hnetwork hlast hbound
    · simp
    · simp
    · simp
    · simp
    · exact absurd ⟨hcore, hstopped⟩ hbound

/-- In every order of the operations the flags agree, a request is served and
promoted once, begins alone while it is bound, and owns nothing after its stop. -/
theorem request_ownership {h later : History} (hreached : Reached h) (hleads : Leads h later) :
    Consistent h.owner h.events ∧
    (∀ request, h.events.countP (Event.admits request) ≤ 1 ∧
      h.events.countP (Event.promotes request) ≤ 1) ∧
    (∀ request other, IsOpen request h.events → other ≠ request →
      (h.owner.begin other).2 ≠ some true ∧
        ∀ env binding, (h.owner.beginBound env other binding).2 ≠ some true) ∧
    ∀ request, h.owner.isStopped request = true → Fenced later.owner request := by
  have hstanding : Standing h := Standing.initial.leads hreached
  refine ⟨hstanding.consistent, ?_, fun request other => hstanding.alone, ?_⟩
  · intro request
    exact ⟨hstanding.once.admitted request, hstanding.once.promoted request⟩
  · intro request hstopped
    have hlast : h.owner.lastStopped = some request := of_decide_eq_true hstopped
    exact (hstanding.leads hleads).fenced (hleads.events (hstanding.recorded.last request hlast))

/-- Every reading finds the clock at one moment and the network unchanged. -/
def settledReadings : Readings where
  elapsedRealtime _ := 5
  now _ := 0
  stopEpoch := 0
  contextGeneration := some 1
  networkMatches _ _ _ := true
  matchesRuntimeNetwork _ _ := true

def firstRequest : Request := "0123456789abcdef0123456789abcdef"

def firstBinding : Binding where
  core := "core"
  profile := "profile"
  deadline := { bootRef := "boot", startedElapsedMs := 0, expiresElapsedMs := 10 }
  network := 0
  networkRef := "network"

/-- A request is bound, served and promoted, and its service stops. -/
def servedRequest : History :=
  ((((({} : History).after settledReadings (.beginBound firstRequest firstBinding)).after
    settledReadings (.admitService firstRequest 0)).after
    settledReadings (.promote firstRequest 0 "profile" 20)).after
    settledReadings (.serviceStopped firstRequest 0))

theorem servedRequest_reached : Reached servedRequest := by
  have hnew : ∀ {h : History} {operation : Operation}, h.past = [] →
      ∀ request, operation.begins = some request → request ∉ h.past := by
    intro h operation hpast request _
    simp [hpast]
  exact .step (.step (.step (.step .refl (hnew (by decide +kernel))) (hnew (by decide +kernel)))
    (hnew (by decide +kernel))) (hnew (by decide +kernel))

theorem servedRequest_fenced :
    .promoted firstRequest ∈ servedRequest.events ∧ Consistent servedRequest.owner servedRequest.events ∧
      Fenced servedRequest.owner firstRequest := by
  have howned := request_ownership servedRequest_reached .refl
  exact ⟨by decide +kernel, howned.1, howned.2.2.2 firstRequest (by decide +kernel)⟩

end Pokrov.Android
