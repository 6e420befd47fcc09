import Pokrov.Lib.Pool
import Pokrov.Windows.Service.Bodies

/-!
# The network observer

`ServiceNetworkObserver` of `service_network_observer.cpp`: a revision that the
callbacks of the system and the sampler itself move, the sample that is
remembered, and the reference of the context that is retained. Callbacks,
`Sample`, `ReadContext` and `IsCurrent` run as threads over them. A revision is
a number without an end.

Every step on an atomic or under a lock is one call. What the system answers
(the adapters, whether an interface is our own tunnel, random bytes) is left to
the environment. The observer is destroyed after its last call, so `ready` does
not change. A history notes when a sample begins and what the calls return; no
program reads it.
-/

namespace Pokrov.Windows.Service

open Codec Effects

structure ServiceNetworkContext where
  revision : Nat
  reference : List UInt8
deriving DecidableEq

/-- One note of the history, with the revision at that moment. -/
inductive Note
  | began (thread now : Nat)
  | sampled (thread revision : Nat) (adapters : List UInt8) (now : Nat)
  | asked (revision : Nat) (answer : Bool) (now : Nat)
  | context (value : ServiceNetworkContext) (now : Nat)
deriving DecidableEq

def Note.now : Note → Nat
  | began _ now => now
  | sampled _ _ _ now => now
  | asked _ _ now => now
  | context _ now => now

/-- `ServiceNetworkObserver::State`. A lock is held by a thread. -/
structure ObserverState where
  ready : Bool
  revision : Nat := 1
  sampleLock : Option Nat := none
  previous : Option (List UInt8) := none
  referenceLock : Option Nat := none
  retainedContext : Option ServiceNetworkContext := none
  /-- The bytes drawn so far, with the revision they were drawn for. -/
  drawn : List (Nat × Identifier) := []
  history : List Note := []

/-! ## Calls -/

inductive ObserverCall
  /-- `Sample` reads `ready` first. -/
  | ready
  | load
  | increment
  | compareExchange (expected desired : Nat)
  | readAdapters
  | isOwned (luid : Nat)
  | lockSample
  | previous
  | setPrevious (value : Option (List UInt8))
  /-- `Sample` returns, with the revision and the adapters it has read. -/
  | unlockSample (result : Option (Nat × List UInt8))
  /-- `IsCurrent`. -/
  | isCurrent (revision : Nat)
  | lockReference
  | retainedContext
  | setRetainedContext (value : ServiceNetworkContext)
  | genRandom (revision : Nat)
  /-- `ReadContext` returns. -/
  | unlockReference (result : Option ServiceNetworkContext)

@[reducible] def ObserverCall.Answer : ObserverCall → Type
  | ready => Bool
  | load => Nat
  | increment => Unit
  | compareExchange _ _ => Bool
  | readAdapters => Option (List UInt8)
  | isOwned _ => Bool
  | lockSample => Unit
  | previous => Option (List UInt8)
  | setPrevious _ => Unit
  | unlockSample _ => Unit
  | isCurrent _ => Bool
  | lockReference => Unit
  | retainedContext => Option ServiceNetworkContext
  | setRetainedContext _ => Unit
  | genRandom _ => Option Identifier
  | unlockReference _ => Unit

abbrev Observation : Interface := ⟨ObserverCall, ObserverCall.Answer⟩

namespace ObserverState

/-- The answers that a call may have, and when it may go on. -/
def allows (s : ObserverState) : Event Observation → Prop
  | ⟨.ready, r⟩ => r = s.ready
  | ⟨.load, r⟩ => r = s.revision
  | ⟨.compareExchange expected _, r⟩ => r = decide (s.revision = expected)
  | ⟨.lockSample, _⟩ => s.sampleLock = none
  | ⟨.previous, r⟩ => r = s.previous
  | ⟨.isCurrent revision, r⟩ => r = (s.ready && decide (s.revision = revision))
  | ⟨.lockReference, _⟩ => s.referenceLock = none
  | ⟨.retainedContext, r⟩ => r = s.retainedContext
  | _ => True

def note (s : ObserverState) (note : Note) : ObserverState :=
  { s with history := s.history ++ [note] }

/-- What an answered call leaves. -/
def effect (thread : Nat) (s : ObserverState) : Event Observation → ObserverState
  | ⟨.ready, _⟩ => s.note (.began thread s.revision)
  | ⟨.increment, _⟩ => { s with revision := s.revision + 1 }
  | ⟨.compareExchange expected desired, _⟩ =>
    if s.revision = expected then { s with revision := desired } else s
  | ⟨.lockSample, _⟩ => { s with sampleLock := some thread }
  | ⟨.setPrevious value, _⟩ => { s with previous := value }
  | ⟨.unlockSample none, _⟩ => { s with sampleLock := none }
  | ⟨.unlockSample (some (revision, adapters)), _⟩ =>
    { s with sampleLock := none }.note (.sampled thread revision adapters s.revision)
  | ⟨.isCurrent revision, r⟩ => s.note (.asked revision r s.revision)
  | ⟨.lockReference, _⟩ => { s with referenceLock := some thread }
  | ⟨.setRetainedContext value, _⟩ => { s with retainedContext := some value }
  | ⟨.genRandom revision, some bytes⟩ => { s with drawn := s.drawn ++ [(revision, bytes)] }
  | ⟨.unlockReference none, _⟩ => { s with referenceLock := none }
  | ⟨.unlockReference (some value), _⟩ =>
    { s with referenceLock := none }.note (.context value s.revision)
  | _ => s

end ObserverState

/-! ## Programs -/

abbrev ObserverAct := Act Observation Unit

/-- A call of the observer. -/
def observe (c : ObserverCall) : ObserverAct c.Answer := perform (I := Observation) c

/-- `IsCurrent`. -/
def isCurrent (revision : Nat) : ObserverAct Bool := observe (.isCurrent revision)

/-- A sample that is given up, and returns nothing. -/
def abandonSample : ObserverAct (Option Nat) := do
  observe (.setPrevious none)
  observe (.unlockSample none)
  return none

def finishSample (captured : Nat) (current : List UInt8) : ObserverAct (Option Nat) := do
  observe (.setPrevious (some current))
  observe (.unlockSample (some (captured, current)))
  return some captured

def sample : ObserverAct (Option Nat) := do
  if ¬ (← observe .ready) then return none
  observe .lockSample
  let before ← observe .load
  match ← observe .readAdapters with
  | none =>
    observe .increment
    abandonSample
  | some current =>
    if before ≠ (← observe .load) then
      observe .increment
      abandonSample
    else
      let previous ← observe .previous
      if previous ≠ none ∧ previous ≠ some current then
        if ¬ (← observe (.compareExchange before (before + 1))) then abandonSample
        else finishSample (before + 1) current
      else finishSample before current

def reference (bytes : Identifier) : List UInt8 := text "network_" ++ hexEncode bytes.bytes

/-- A fresh reference for a revision. -/
def renewContext (revision : Nat) : ObserverAct Bool := do
  match ← observe (.genRandom revision) with
  | none => return false
  | some bytes =>
    observe (.setRetainedContext ⟨revision, reference bytes⟩)
    return true

/-- `ReadContext` under its lock. -/
def retainContext (revision : Nat) : ObserverAct (Option ServiceNetworkContext) := do
  if ¬ (← isCurrent revision) then return none
  let retained ← observe .retainedContext
  let renewed ← (do
    if retained.map (·.revision) = some revision then return true
    renewContext revision)
  if ¬ renewed then return none
  if ¬ (← isCurrent revision) then return none
  observe .retainedContext

def readContext : ObserverAct (Option ServiceNetworkContext) := do
  match ← sample with
  | none => return none
  | some revision =>
    observe .lockReference
    let result ← retainContext revision
    observe (.unlockReference result)
    return result

/-- `Changed`: our own tunnel does not count. -/
def changed (luid : Option Nat) : ObserverAct Unit := do
  let owned ← (do
    match luid with
    | none => return false
    | some luid => observe (.isOwned luid))
  onlyIf (owned = false) (observe .increment)

/-- The sources and codes of a Wi-Fi notification that count as a change. -/
inductive WlanNotification
  | acmConnectionStart
  | acmConnectionComplete
  | acmDisconnecting
  | acmDisconnected
  | acmInterfaceArrival
  | acmInterfaceRemoval
  | acmOperationalStateChange
  | msmRoamingStart
  | msmRoamingEnd
  | msmConnected
  | msmDisconnected
  | other
deriving DecidableEq

def wifiChanged (event : Option WlanNotification) : ObserverAct Unit :=
  onlyIf (event ≠ none ∧ event ≠ some .other) (observe .increment)

/-! ## Threads -/

inductive ObserverTask
  | sample
  | readContext
  | isCurrent (revision : Nat)
  | changed (luid : Option Nat)
  | wifiChanged (event : Option WlanNotification)

inductive ObserverAnswer
  | revision (value : Option Nat)
  | context (value : Option ServiceNetworkContext)
  | current (value : Bool)
  | done

def ObserverTask.run : ObserverTask → ObserverAct ObserverAnswer
  | sample => .revision <$> Service.sample
  | readContext => .context <$> Service.readContext
  | isCurrent revision => .current <$> Service.isCurrent revision
  | changed luid => do
      Service.changed luid
      return .done
  | wifiChanged event => do
      Service.wifiChanged event
      return .done

/-- Any task may be started at any moment, in a thread of its own. -/
def observer : System Observation ObserverState ObserverTask ObserverAnswer where
  exec := fun thread s e s' => s.allows e ∧ s' = s.effect thread e
  start := fun s _ s' => s' = s
  body := fun task => task.run () >>= fun x => .ret (.inr x.1)

/-- An observer that was constructed, with or without its notifications. -/
def ObserverState.new (ready : Bool) : Pool Observation ObserverState ObserverTask ObserverAnswer :=
  ⟨{ ready }, []⟩

end Pokrov.Windows.Service
