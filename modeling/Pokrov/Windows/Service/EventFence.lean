import Pokrov.Windows.Service.Machine

/-!
# The fence of the Core events

`CoreOperationalEventFence` stands between the callback of Core and the event
journal. An activation names a run, an attempt and a generation; an event passes
when it carries that identity and a sequence number that is new in its generation.
The log of a sequence of calls holds the activations and the events that passed,
in order, and what the fence is for is said of the log alone.
-/

namespace Pokrov.Windows.Service

open Codec

/-- A position of a text, as `value[index]` where the length is known. -/
def byteAt (value : Bytes) (index : Nat) : UInt8 := (value[index]?).getD 0

def isLowerUuid (value : Bytes) : Bool :=
  value.length = 36 && byteAt value 8 = '-'.toUInt8 && byteAt value 13 = '-'.toUInt8 &&
    byteAt value 18 = '-'.toUInt8 && byteAt value 23 = '-'.toUInt8 &&
    '1'.toUInt8 ≤ byteAt value 14 && byteAt value 14 ≤ '5'.toUInt8 &&
    (text "89ab").contains (byteAt value 19) &&
    (List.range 36).all fun index =>
      index = 8 || index = 13 || index = 18 || index = 23 || isLowerHex (byteAt value index)

def isUtcTimestamp (value : Bytes) : Bool :=
  20 ≤ value.length && value.length ≤ 30 && value.getLast? = some 'Z'.toUInt8 &&
    byteAt value 4 = '-'.toUInt8 && byteAt value 7 = '-'.toUInt8 &&
    byteAt value 10 = 'T'.toUInt8 && byteAt value 13 = ':'.toUInt8 &&
    byteAt value 16 = ':'.toUInt8 &&
    value.dropLast.all fun b => isDigit b || (text "-T:.").contains b

structure CoreOperationalEventRecord where
  schemaVersion : Int
  eventAbi : Int
  occurredAtUtc : Bytes
  runId : Bytes
  attemptId : Bytes
  generation : Int
  sequence : Int
  name : Bytes
  subsystem : Bytes
  stage : Bytes
  severity : Bytes
  outcome : Bytes
  errorCode : Bytes
  phase : Bytes
deriving DecidableEq

/-- The definitions other than that of the DNS probe: name, subsystem, stage and
phase. -/
def coreEventDefinitions : List (Bytes × Bytes × Bytes × Bytes) :=
  [(text "core.runtime.initialize", text "core", text "initialize", text "initialization"),
    (text "core.runtime.start", text "core", text "start", text "core_start"),
    (text "core.runtime.stop", text "core", text "stop", text "stop"),
    (text "core.egress.probe", text "egress", text "verify", text "egress")]

def isCoreEventDefinition (event : CoreOperationalEventRecord) : Bool :=
  coreEventDefinitions.contains (event.name, event.subsystem, event.stage, event.phase) ||
    (event.name = text "core.dns.probe" && event.subsystem = text "dns" &&
      event.phase = text "dns" &&
      (event.stage = text "receive" || event.stage = text "exchange" ||
        event.stage = text "reply"))

def isCoreErrorCode (value : Bytes) : Bool :=
  [text "CORE-003", text "CORE-005", text "CORE-006", text "CORE-008", text "TRANSPORT-001",
    text "TRANSPORT-002", text "TRANSPORT-003", text "TRANSPORT-004", text "TRANSPORT-005",
    text "TRANSPORT-006", text "TRANSPORT-007", text "DNS-002", text "EGRESS-001"].contains value

inductive FirstOwnedDnsState
  | unknown
  | received
  | exchangeFailed
  | replyFailed
  | replyWritten

structure CoreOperationalEventFence where
  runId : Bytes := []
  attemptId : Bytes := []
  generation : Int := 0
  firstOwnedDnsState : FirstOwnedDnsState := .unknown
  lastSequence : Int := 0

namespace CoreOperationalEventFence

def intMax : Int := 2147483647

/-- `Activate`: whether the context is taken, and the fence afterwards. -/
def activate (fence : CoreOperationalEventFence) (runId attemptId : Bytes) (generation : Int) :
    Bool × CoreOperationalEventFence :=
  if !isLowerUuid runId || !isLowerUuid attemptId || generation < 1 || generation > intMax ||
      generation < fence.generation then (false, fence)
  else
    let lastSequence := if generation > fence.generation then 0 else fence.lastSequence
    let firstOwnedDnsState :=
      if runId ≠ fence.runId ∨ attemptId ≠ fence.attemptId ∨ generation ≠ fence.generation then
        .unknown
      else fence.firstOwnedDnsState
    (true, { runId, attemptId, generation, firstOwnedDnsState, lastSequence })

/-- The identity and the order that `Accept` requires of an event, and its shape. -/
def addressed (fence : CoreOperationalEventFence) (event : CoreOperationalEventRecord) : Bool :=
  event.schemaVersion = 1 && event.eventAbi = 1 && event.runId = fence.runId &&
    event.attemptId = fence.attemptId && event.generation = fence.generation &&
    fence.lastSequence < event.sequence && isUtcTimestamp event.occurredAtUtc &&
    isCoreEventDefinition event

def failed (event : CoreOperationalEventRecord) : Bool := event.outcome = text "failed"

/-- An outcome goes with its severity and its error code. -/
def outcomeSafe (event : CoreOperationalEventRecord) : Bool :=
  (event.outcome = text "started" || event.outcome = text "succeeded" || failed event) &&
    (if failed event then event.severity = text "error" && isCoreErrorCode event.errorCode
      else event.severity = text "info" && event.errorCode = [])

def isDnsProbe (event : CoreOperationalEventRecord) : Bool := event.name = text "core.dns.probe"

def dnsSafe (event : CoreOperationalEventRecord) : Bool :=
  (if event.stage = text "receive" then event.outcome = text "started"
    else event.outcome ≠ text "started") &&
    (!failed event || event.errorCode = text "DNS-002")

/-- What a DNS probe makes of the observation. -/
def observe (state : FirstOwnedDnsState) (event : CoreOperationalEventRecord) :
    FirstOwnedDnsState :=
  if event.stage = text "receive" then .received
  else if event.stage = text "exchange" && failed event then .exchangeFailed
  else if event.stage = text "reply" then
    if failed event then .replyFailed else .replyWritten
  else state

/-- `Accept`. -/
def accept (fence : CoreOperationalEventFence) (event : CoreOperationalEventRecord) :
    Bool × CoreOperationalEventFence :=
  if !fence.addressed event then (false, fence)
  else if !outcomeSafe event then (false, fence)
  else if isDnsProbe event then
    if !dnsSafe event then (false, fence)
    else
      (true, { fence with
        firstOwnedDnsState := observe fence.firstOwnedDnsState event
        lastSequence := event.sequence })
  else (true, { fence with lastSequence := event.sequence })

end CoreOperationalEventFence

/-! ## Calls and their log -/

/-- Whom an event is from. A fence that was never activated has the empty one. -/
structure CoreEventIdentity where
  runId : Bytes := []
  attemptId : Bytes := []
  generation : Int := 0
deriving DecidableEq

def CoreOperationalEventRecord.identity (event : CoreOperationalEventRecord) :
    CoreEventIdentity :=
  ⟨event.runId, event.attemptId, event.generation⟩

def CoreOperationalEventFence.identity (fence : CoreOperationalEventFence) : CoreEventIdentity :=
  ⟨fence.runId, fence.attemptId, fence.generation⟩

inductive FenceCall
  | activate (runId attemptId : Bytes) (generation : Int)
  | accept (event : CoreOperationalEventRecord)

/-- What a call that succeeds leaves in the log. -/
inductive FenceEntry
  | activated (identity : CoreEventIdentity)
  | accepted (event : CoreOperationalEventRecord)
deriving DecidableEq

namespace CoreOperationalEventFence

def step (state : CoreOperationalEventFence × List FenceEntry) :
    FenceCall → CoreOperationalEventFence × List FenceEntry
  | .activate runId attemptId generation =>
    let (taken, fence) := state.1.activate runId attemptId generation
    (fence, if taken then state.2 ++ [.activated ⟨runId, attemptId, generation⟩] else state.2)
  | .accept event =>
    let (taken, fence) := state.1.accept event
    (fence, if taken then state.2 ++ [.accepted event] else state.2)

/-- A fresh fence after a sequence of calls, with the log. -/
def run (calls : List FenceCall) : CoreOperationalEventFence × List FenceEntry :=
  calls.foldl step ({}, [])

end CoreOperationalEventFence

namespace FenceEntry

/-- The events that have passed. -/
def events (log : List FenceEntry) : List CoreOperationalEventRecord :=
  log.filterMap fun
    | .activated _ => none
    | .accepted event => some event

def nextIdentity (last : Option CoreEventIdentity) : FenceEntry → Option CoreEventIdentity
  | .activated identity => some identity
  | .accepted _ => last

/-- The most recent activation. -/
def lastActivated (log : List FenceEntry) : Option CoreEventIdentity :=
  log.foldl nextIdentity none

/-- The identity and the events that have passed since it last changed. -/
def nextSince (since : CoreEventIdentity × List CoreOperationalEventRecord) :
    FenceEntry → CoreEventIdentity × List CoreOperationalEventRecord
  | .activated identity => if identity = since.1 then since else (identity, [])
  | .accepted event => (since.1, since.2 ++ [event])

def sinceChanged (log : List FenceEntry) : CoreEventIdentity × List CoreOperationalEventRecord :=
  log.foldl nextSince ({}, [])

end FenceEntry

/-- The order in which events pass. -/
def CoreOperationalEventRecord.Before (a b : CoreOperationalEventRecord) : Prop :=
  a.generation < b.generation ∨ a.generation = b.generation ∧ a.sequence < b.sequence

/-! ## What the fence keeps -/

open CoreOperationalEventFence FenceEntry

/-- A call changes nothing, or it activates an identity that is not older, or it
passes an event of the identity with a new sequence number. -/
theorem step_cases (fence : CoreOperationalEventFence) (log : List FenceEntry)
    (call : FenceCall) :
    step (fence, log) call = (fence, log) ∨
    (∃ fence' : CoreOperationalEventFence, step (fence, log) call = (fence', log ++ [.activated fence'.identity]) ∧
      fence.generation ≤ fence'.generation ∧
      fence'.lastSequence = (if fence.generation < fence'.generation then 0
        else fence.lastSequence) ∧
      fence'.firstOwnedDnsState = (if fence'.identity = fence.identity then
        fence.firstOwnedDnsState else .unknown)) ∨
    ∃ (event : CoreOperationalEventRecord) (fence' : CoreOperationalEventFence),
      step (fence, log) call = (fence', log ++ [.accepted event]) ∧
      event.identity = fence.identity ∧ fence'.identity = fence.identity ∧
      fence.lastSequence < event.sequence ∧ fence'.lastSequence = event.sequence ∧
      fence'.firstOwnedDnsState = (if isDnsProbe event then
        observe fence.firstOwnedDnsState event else fence.firstOwnedDnsState) := by
  cases call with
  | activate runId attemptId generation =>
    unfold step activate
    dsimp only
    split
    · exact .inl rfl
    · rename_i hvalid
      simp only [Bool.or_eq_true, decide_eq_true_eq, not_or] at hvalid
      refine .inr (.inl ⟨_, rfl, ?_, rfl, ?_⟩)
      · exact not_lt.mp hvalid.2
      · simp only [identity, CoreEventIdentity.mk.injEq]
        split <;> split <;> simp_all
  | accept event =>
    unfold step accept
    dsimp only
    split
    · exact .inl rfl
    rename_i haddressed
    have haddressed : fence.addressed event = true := by simpa using haddressed
    simp only [addressed, Bool.and_eq_true, decide_eq_true_eq] at haddressed
    obtain ⟨⟨⟨⟨⟨⟨-, hrun⟩, hattempt⟩, hgeneration⟩, hsequence⟩, -⟩, -⟩ := haddressed
    have hidentity : event.identity = fence.identity := by
      rw [CoreOperationalEventRecord.identity, hrun, hattempt, hgeneration]
      rfl
    split
    · exact .inl rfl
    split
    · rename_i hdns
      split
      · exact .inl rfl
      · exact .inr (.inr ⟨event, _, rfl, hidentity, rfl, hsequence, rfl, by rw [if_pos hdns]⟩)
    · rename_i hdns
      exact .inr (.inr ⟨event, _, rfl, hidentity, rfl, hsequence, rfl, by rw [if_neg hdns]⟩)

/-- The DNS observation that a list of events makes. -/
def observation (events : List CoreOperationalEventRecord) : FirstOwnedDnsState :=
  (events.filter isDnsProbe).foldl observe .unknown

structure FenceInv (fence : CoreOperationalEventFence) (log : List FenceEntry) : Prop where
  identity : fence.identity = (lastActivated log).getD {}
  ordered : (events log).Pairwise CoreOperationalEventRecord.Before
  /-- The fence is not behind any event that has passed. -/
  bounded : ∀ event ∈ events log, event.generation < fence.generation ∨
    event.generation = fence.generation ∧ event.sequence ≤ fence.lastSequence
  carried : ∀ (front : List FenceEntry) event back, log = front ++ .accepted event :: back →
    event.identity = (lastActivated front).getD {}
  since : (sinceChanged log).1 = fence.identity
  observed : fence.firstOwnedDnsState = observation (sinceChanged log).2

@[simp] theorem events_activated (log : List FenceEntry) (identity : CoreEventIdentity) :
    events (log ++ [.activated identity]) = events log := by
  simp [events]

@[simp] theorem events_accepted (log : List FenceEntry) (event : CoreOperationalEventRecord) :
    events (log ++ [.accepted event]) = events log ++ [event] := by
  simp [events]

@[simp] theorem lastActivated_append (log : List FenceEntry) (entry : FenceEntry) :
    lastActivated (log ++ [entry]) = nextIdentity (lastActivated log) entry := by
  simp [lastActivated]

@[simp] theorem sinceChanged_append (log : List FenceEntry) (entry : FenceEntry) :
    sinceChanged (log ++ [entry]) = nextSince (sinceChanged log) entry := by
  simp [sinceChanged]

theorem observation_append (events : List CoreOperationalEventRecord)
    (event : CoreOperationalEventRecord) :
    observation (events ++ [event]) =
      if isDnsProbe event then observe (observation events) event else observation events := by
  unfold observation
  by_cases hdns : isDnsProbe event = true
  · simp [hdns]
  · simp [hdns]

/-- An event of a longer log is one of the shorter or is the new one. -/
theorem accepted_of_append {log front back : List FenceEntry} {entry : FenceEntry}
    {event : CoreOperationalEventRecord}
    (h : log ++ [entry] = front ++ .accepted event :: back) :
    (∃ back', log = front ++ .accepted event :: back') ∨
      (front = log ∧ entry = .accepted event) := by
  rcases List.eq_nil_or_concat back with rfl | ⟨back', last, rfl⟩
  · obtain ⟨rfl, hlast⟩ := List.append_inj' h rfl
    exact .inr ⟨rfl, (List.cons.inj hlast).1⟩
  · have h' : log ++ [entry] = (front ++ .accepted event :: back') ++ [last] := by
      rw [h]
      simp
    exact .inl ⟨back', (List.append_inj' h' rfl).1⟩

variable {log : List FenceEntry}

theorem FenceInv.activated {fence fence' : CoreOperationalEventFence} (hinv : FenceInv fence log)
    (hgeneration : fence.generation ≤ fence'.generation)
    (hsequence : fence'.lastSequence = if fence.generation < fence'.generation then 0 else fence.lastSequence)
    (hdns : fence'.firstOwnedDnsState = if fence'.identity = fence.identity then fence.firstOwnedDnsState else .unknown) :
    FenceInv fence' (log ++ [.activated fence'.identity]) where
  identity := by simp [nextIdentity]
  ordered := by
    rw [events_activated]
    exact hinv.ordered
  bounded := by
    intro event hevent
    rw [events_activated] at hevent
    rcases hinv.bounded event hevent with hlt | ⟨heq, hle⟩
    · exact .inl (lt_of_lt_of_le hlt hgeneration)
    · rcases hgeneration.lt_or_eq with hlt | hsame
      · exact .inl (heq ▸ hlt)
      · refine .inr ⟨heq.trans hsame, ?_⟩
        rw [hsequence, if_neg (by omega)]
        exact hle
  carried := by
    intro front event back hlog
    rcases accepted_of_append hlog with ⟨back', h⟩ | ⟨-, h⟩
    · exact hinv.carried front event back' h
    · cases h
  since := by
    rw [sinceChanged_append, nextSince]
    split
    · rename_i hsame
      exact hsame.symm
    · rfl
  observed := by
    rw [sinceChanged_append, hdns, nextSince, hinv.since]
    split
    · exact hinv.observed
    · rfl

theorem FenceInv.accepted {fence fence' : CoreOperationalEventFence}
    {event : CoreOperationalEventRecord} (hinv : FenceInv fence log)
    (hidentity : event.identity = fence.identity) (hsame : fence'.identity = fence.identity)
    (hnew : fence.lastSequence < event.sequence) (hsequence : fence'.lastSequence = event.sequence)
    (hdns : fence'.firstOwnedDnsState = if isDnsProbe event then observe fence.firstOwnedDnsState event else fence.firstOwnedDnsState) :
    FenceInv fence' (log ++ [.accepted event]) := by
  have hgeneration : event.generation = fence.generation :=
    congrArg CoreEventIdentity.generation hidentity
  have hgeneration' : fence'.generation = fence.generation :=
    congrArg CoreEventIdentity.generation hsame
  constructor
  · rw [hsame, hinv.identity, lastActivated_append]
    rfl
  · rw [events_accepted, List.pairwise_append]
    refine ⟨hinv.ordered, List.pairwise_singleton .., ?_⟩
    intro earlier hearlier later hlater
    rw [List.mem_singleton.mp hlater]
    rcases hinv.bounded earlier hearlier with hlt | ⟨heq, hle⟩
    · exact .inl (hgeneration ▸ hlt)
    · exact .inr ⟨heq.trans hgeneration.symm, lt_of_le_of_lt hle hnew⟩
  · intro other hother
    rw [events_accepted, List.mem_append, List.mem_singleton] at hother
    rcases hother with hother | rfl
    · rcases hinv.bounded other hother with hlt | ⟨heq, hle⟩
      · exact .inl (hgeneration' ▸ hlt)
      · refine .inr ⟨heq.trans hgeneration'.symm, ?_⟩
        rw [hsequence]
        exact le_of_lt (lt_of_le_of_lt hle hnew)
    · exact .inr ⟨hgeneration.trans hgeneration'.symm, le_of_eq hsequence.symm⟩
  · intro front other back hlog
    rcases accepted_of_append hlog with ⟨back', h⟩ | ⟨rfl, h⟩
    · exact hinv.carried front other back' h
    · cases h
      exact hidentity.trans hinv.identity
  · rw [sinceChanged_append, hsame]
    exact hinv.since
  · rw [sinceChanged_append, hdns, hinv.observed]
    exact (observation_append _ event).symm

theorem FenceInv.step {fence : CoreOperationalEventFence} (hinv : FenceInv fence log)
    (call : FenceCall) : FenceInv (step (fence, log) call).1 (step (fence, log) call).2 := by
  rcases step_cases fence log call with h | ⟨fence', h, hgeneration, hsequence, hdns⟩ |
    ⟨event, fence', h, hidentity, hsame, hnew, hsequence, hdns⟩
  · rw [h]
    exact hinv
  · rw [h]
    exact hinv.activated hgeneration hsequence hdns
  · rw [h]
    exact hinv.accepted hidentity hsame hnew hsequence hdns

theorem fenceInv_run (calls : List FenceCall) : FenceInv (run calls).1 (run calls).2 := by
  induction calls using List.reverseRecOn with
  | nil =>
    refine ⟨rfl, .nil, nofun, ?_, rfl, rfl⟩
    intro front event back h
    exact absurd h (by simp [run])
  | append_singleton calls call ih =>
    have hrun : run (calls ++ [call]) = CoreOperationalEventFence.step (run calls) call := by
      simp [run]
    rw [hrun]
    exact ih.step call

/-- **The fence is monotone.** In every sequence of calls the events that pass are
strictly increasing by generation and sequence number; each carries the identity
of the most recent activation, or the empty one when there was none; and the DNS
observation is made by the DNS probes that have passed since the identity last
changed. -/
theorem fence_monotone (calls : List FenceCall) :
    (events (run calls).2).Pairwise CoreOperationalEventRecord.Before ∧
    (∀ (front : List FenceEntry) event back, (run calls).2 = front ++ .accepted event :: back →
      event.identity = (lastActivated front).getD {}) ∧
    (run calls).1.firstOwnedDnsState = observation (sinceChanged (run calls).2).2 := by
  have hinv := fenceInv_run calls
  exact ⟨hinv.ordered, hinv.carried, hinv.observed⟩

/-- An event of nobody. -/
def anonymousEvent : CoreOperationalEventRecord where
  schemaVersion := 1
  eventAbi := 1
  occurredAtUtc := text "2026-08-21T12:00:00Z"
  runId := []
  attemptId := []
  generation := 0
  sequence := 1
  name := text "core.runtime.start"
  subsystem := text "core"
  stage := text "start"
  severity := text "info"
  outcome := text "started"
  errorCode := []
  phase := text "core_start"

/-- Before the first activation an event passes that carries no activated identity. -/
theorem anonymous_accepted :
    ¬ ∀ calls front event back, (run calls).2 = front ++ .accepted event :: back →
      lastActivated front = some event.identity := by
  intro h
  have hlog : (run [.accept anonymousEvent]).2 = [] ++ .accepted anonymousEvent :: [] := by
    decide +kernel
  exact absurd (h _ _ _ _ hlog) nofun

end Pokrov.Windows.Service
