import Pokrov.Lib.Runs

/-!
# The core child of the Linux daemon

`Session` of `core_linux.go`, as `service_linux.go` and `transport_lease_linux.go` call it. A call
writes a command to the child and reads a line, and the child writes lines without a word on what
they answer. The daemon makes one call at a time, under its lock. What an inner check answers that
is not about the session, as a clock or a peer, comes with a step.
-/

namespace Pokrov.Linux.CoreProcess

/-! ## Replies -/

structure Deadline where
  bootRef : String
  startedElapsedMS : Int
  deadlineElapsedMS : Int
deriving DecidableEq

structure ExpectedIdentity where
  coreModuleSHA256 : String
  profileSHA256 : String
  deadline : Deadline

structure ReplyPlan where
  tunnelInterface : String
  routingMark : Nat
  dnsServers : List String

structure Health where
  dnsReady : Bool
  egressValidated : Bool

/-- The phases that `read` accepts. -/
inductive ReplyPhase
  | prepared
  | started
  | health
  | promoted
  | leaseRevoked
  | stopped
deriving DecidableEq

structure Reply where
  phase : ReplyPhase
  health : Option Health := none
  coreModuleSHA256 : String := ""
  profileSHA256 : String := ""
  identitySchema : Int := 0
  deadlineSchema : Int := 0
  connectDeadline : Option Deadline := none
  leaseID : String := ""
  activeFlowsUntil : String := ""
  leaseRevoked : Option Bool := none
  plan : Option ReplyPlan := none

/-- `matches`. -/
def ExpectedIdentity.accepts (expected : ExpectedIdentity) (response : Reply) : Bool :=
  response.identitySchema = 1 && response.deadlineSchema = 1 &&
    response.coreModuleSHA256 = expected.coreModuleSHA256 &&
    response.profileSHA256 = expected.profileSHA256

/-- `boundedModuleSHA256`. -/
def boundedModuleSHA256 (value : String) : String :=
  if value.utf8ByteSize = 64 ∧
      value.toList.all (fun char => '0' ≤ char && char ≤ '9' || 'a' ≤ char && char ≤ 'f') then value
  else ""

/-- A line that the child writes, as `read` decodes it, and the command that it answers. No program
reads the latter. -/
structure Line where
  reply : Option Reply
  answers : Option Nat

/-! ## Commands -/

inductive Command
  | start
  | health
  | promote (profile lease issuedAt newFlowsUntil activeFlowsUntil : String)
  | revoke (profile lease : String) (terminateActive : Bool)
deriving DecidableEq

/-- A call that has not returned. -/
inductive Call
  /-- A command, by its number. -/
  | command (number : Nat) (command : Command)
  /-- `Stop`, and how many lines it has read. -/
  | stop (count : Nat)
  /-- `Stop` with the reply that it waits for. The child may still run. -/
  | stopping
deriving DecidableEq

inductive StopFailure
  /-- Its context is over, or the pipe is closed. -/
  | unread
  /-- It has read a line that is no reply. -/
  | refused
  /-- It has read two lines, and none that the child has stopped. -/
  | exhausted
  /-- Its context is over, and the child still runs. -/
  | running
deriving DecidableEq

/-- What happened to the sessions. No program reads it. -/
inductive CoreNote
  | prepared
  /-- A command succeeded, on a line that answers that. -/
  | succeeded (number : Nat) (answers : Option Nat)
  | failed (number : Nat)
  | readStopped
  | exited
  | stopReturned
  | stopFailed (failure : StopFailure)
deriving DecidableEq

/-- The service has no session that it started, or one that it cannot connect; one that it is
starting; or one that runs. -/
inductive ServicePhase
  | staged
  | executing
  | running
deriving DecidableEq

structure Child where
  /-- The commands that are written and not answered. -/
  inbox : List Nat := []
  lines : List Line := []
  terminated : Bool := false
  saidStopped : Bool := false
  exited : Bool := false

structure CoreState where
  phase : ServicePhase := .staged
  /-- `service.core` is there. -/
  live : Bool := false
  transportPromoted : Bool := false
  transportLeaseRef : String := ""
  /-- The transaction has not stopped its core. -/
  corePending : Bool := false
  expectedIdentity : Option ExpectedIdentity := none
  profileSHA256 : String := ""
  stopped : Bool := false
  promotedActiveUntil : Option String := none
  /-- `Start` was called, and it has succeeded. -/
  startCalled : Bool := false
  started : Bool := false
  probed : Bool := false
  child : Child := {}
  call : Option Call := none
  issued : Nat := 0
  history : List CoreNote := []

inductive CoreStep
  /-- `Prepare`, with the line that it reads and whether the deadline is current. -/
  | prepare (first : Option Reply) (expected : Option ExpectedIdentity) (current : Bool)
  /-- A command is called. It may be written or fail before that. -/
  | call (command : Command) (written : Bool)
  | callStop
  /-- The read of a call returns a line. The clock allows what it reads, and the service keeps a
  promotion, or not. -/
  | deliver (current kept : Bool)
  | readFails
  /-- `Stop` sees that the child has exited, or that its context is over. Where both hold, it may
  see either. -/
  | stopEnds (expired : Bool)
  /-- `Execute` returns. -/
  | executed (succeeded : Bool)
  /-- The network is restored, or recovered without the core. -/
  | release
  | answer (reply : Option Reply)
  | sayStopped
  | exit

/-- The checks of `prepare`, and the profile of the session. -/
def prepareReply (first : Option Reply) (expected : Option ExpectedIdentity) (current : Bool) :
    Option String := do
  let first ← first
  let plan ← first.plan
  if first.phase ≠ .prepared ∨ plan.tunnelInterface ≠ "pokrov0" ∨ plan.routingMark ≠ 0x504b then none
  else if expected.any fun identity => !identity.accepts first || !current then none
  else if plan.dnsServers = [] ∨ ¬ plan.dnsServers.Nodup ∨
      !plan.dnsServers.all ["172.19.0.2", "fdfe:dcba:9876::2"].contains then none
  else some (boundedModuleSHA256 first.profileSHA256)

namespace CoreState

def noted (s : CoreState) (note : CoreNote) : CoreState := { s with history := s.history ++ [note] }

/-- A call has returned. -/
def returned (s : CoreState) (note : CoreNote) : CoreState :=
  { s with call := none, history := s.history ++ [note] }

/-- The service makes the call, and the session writes its command. -/
def permits (s : CoreState) : Command → Bool
  | .start => s.phase = .executing && !s.startCalled
  | .health => s.phase = .running && !s.probed && s.expectedIdentity.isNone
  | .promote profile _ _ _ _ =>
    s.phase = .running && !s.transportPromoted && s.transportLeaseRef = "" && !s.child.exited &&
      s.expectedIdentity.isSome && s.promotedActiveUntil.isNone && s.profileSHA256 = profile
  | .revoke profile lease _ =>
    s.phase = .running && s.transportPromoted && s.transportLeaseRef = lease &&
      !s.child.exited && s.expectedIdentity.isSome && s.promotedActiveUntil.isSome &&
      s.profileSHA256 = profile

/-- What a call checks of the reply that it reads. -/
def accepts (s : CoreState) (command : Command) (response : Reply) (current : Bool) : Bool :=
  match command with
  | .start => response.phase = .started &&
      s.expectedIdentity.all fun expected => expected.accepts response &&
        response.connectDeadline = some expected.deadline && current
  | .health => response.phase = .health && response.health.isSome
  | .promote profile lease _ _ activeFlowsUntil => response.phase = .promoted &&
      response.profileSHA256 = profile && response.leaseID = lease &&
      response.activeFlowsUntil = activeFlowsUntil && current && !s.child.exited
  | .revoke profile lease _ => response.phase = .leaseRevoked && response.profileSHA256 = profile &&
      response.leaseID = lease && response.leaseRevoked = some true

/-- What a command that has succeeded leaves. -/
def complete (s : CoreState) (command : Command) (kept : Bool) : CoreState :=
  match command with
  | .start => { s with started := true }
  | .health => s
  | .promote _ lease _ _ activeFlowsUntil =>
    let s := { s with promotedActiveUntil := some activeFlowsUntil }
    if kept then { s with transportPromoted := true, transportLeaseRef := lease } else s
  | .revoke _ _ terminateActive =>
    if terminateActive then { s with transportPromoted := false } else s

def prepare (s : CoreState) (first : Option Reply) (expected : Option ExpectedIdentity)
    (current : Bool) : CoreState :=
  if s.live then s
  else match prepareReply first expected current with
    | none => s
    | some profile =>
      { phase := .executing, live := true, corePending := true, expectedIdentity := expected,
        profileSHA256 := profile, issued := s.issued, history := s.history ++ [.prepared] }

def callCommand (s : CoreState) (command : Command) (written : Bool) : CoreState :=
  if !s.live || s.call.isSome || !s.permits command then s
  else
    let called := match command with
      | .start => { s with startCalled := true }
      | .health => { s with probed := true }
      | _ => s
    let numbered := { called with issued := s.issued + 1 }
    if !written then numbered.noted (.failed s.issued)
    else { numbered with call := some (.command s.issued command)
                         child := { s.child with inbox := s.child.inbox ++ [s.issued] } }

/-- The first section of `Stop`. -/
def callStop (s : CoreState) : CoreState :=
  if !s.live || s.call.isSome || !s.corePending then s
  else if s.stopped then { s with call := some .stopping }
  else { s with call := some (.stop 0), child := { s.child with terminated := true } }

/-- `read` takes a line. -/
def take (s : CoreState) (line : Line) (rest : List Line) : CoreState :=
  let taken := { s with child := { s.child with lines := rest } }
  match line.reply with
  | some response =>
    if response.phase = .stopped then { taken with stopped := true }.noted .readStopped else taken
  | none => taken

def deliver (s : CoreState) (current kept : Bool) : CoreState :=
  match s.call, s.child.lines with
  | some (.command number command), line :: rest =>
    let taken := s.take line rest
    match line.reply with
    | none => taken.returned (.failed number)
    | some response =>
      if taken.accepts command response current then
        (taken.complete command kept).returned (.succeeded number line.answers)
      else taken.returned (.failed number)
  | some (.stop count), line :: rest =>
    let taken := s.take line rest
    if line.reply.isNone then taken.returned (.stopFailed .refused)
    else if taken.stopped then { taken with call := some .stopping }
    else if count + 1 < 2 then { taken with call := some (.stop (count + 1)) }
    else taken.returned (.stopFailed .exhausted)
  | _, _ => s

def readFails (s : CoreState) : CoreState :=
  match s.call with
  | some (.command number _) => s.returned (.failed number)
  | some (.stop _) => s.returned (.stopFailed .unread)
  | _ => s

def stopEnds (s : CoreState) (expired : Bool) : CoreState :=
  if s.call ≠ some .stopping then s
  else if expired then s.returned (.stopFailed .running)
  else if s.child.exited then { s with corePending := false }.returned .stopReturned
  else s

def executed (s : CoreState) (succeeded : Bool) : CoreState :=
  if s.phase ≠ .executing ∨ s.call.isSome then s
  else if succeeded then (if s.started then { s with phase := .running } else s)
  else { s with phase := .staged }

def release (s : CoreState) : CoreState :=
  if s.call.isSome ∨ (s.corePending ∧ !s.child.exited) then s
  else { s with live := false, phase := .staged, transportPromoted := false,
                transportLeaseRef := "" }

/-- The child answers the command that it has read first. -/
def answer (s : CoreState) (reply : Option Reply) : CoreState :=
  match s.child.inbox with
  | number :: rest =>
    if s.child.saidStopped || s.child.exited then s
    else { s with child := { s.child with inbox := rest
                                          lines := s.child.lines ++ [⟨reply, some number⟩] } }
  | [] => s

def sayStopped (s : CoreState) : CoreState :=
  if !s.child.terminated || s.child.saidStopped || s.child.exited then s
  else { s with child := { s.child with
          saidStopped := true
          lines := s.child.lines ++ [⟨some { phase := .stopped }, none⟩] } }

def exit (s : CoreState) : CoreState :=
  if s.child.exited || !s.live then s
  else { s with child := { s.child with exited := true } }.noted .exited

def after (s : CoreState) : CoreStep → CoreState
  | .prepare first expected current => s.prepare first expected current
  | .call command written => s.callCommand command written
  | .callStop => s.callStop
  | .deliver current kept => s.deliver current kept
  | .readFails => s.readFails
  | .stopEnds expired => s.stopEnds expired
  | .executed succeeded => s.executed succeeded
  | .release => s.release
  | .answer reply => s.answer reply
  | .sayStopped => s.sayStopped
  | .exit => s.exit

end CoreState

end Pokrov.Linux.CoreProcess
