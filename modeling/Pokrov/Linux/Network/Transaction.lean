import Pokrov.Linux.Network.Participants

/-!
# The network transaction and its recovery

`execute` brings the host into the tunnel state, `restore` takes it out again;
both share `rollback`. The write-ahead record is saved before a participant is
applied and again after every change of ownership. `recoverRecord` is what the
daemon runs on a record it finds at start.
-/

namespace Pokrov.Linux.Network

open Effects

/-! ## State -/

inductive Stage
  | checkpoint
  | apply
  | rollback
deriving DecidableEq

structure Failure where
  stage : Stage
  subsystem : Option Subsystem := none
  rollbackFailed : Bool
deriving DecidableEq

inductive TransactionError
  | invalidPlan
  | invalidParticipants
  | invalidState
  | failure (failure : Failure)
deriving DecidableEq

inductive TransactionState
  | fresh
  | active
  | recovered
  | recoveryRequired
deriving DecidableEq

/-- The in-memory copy of the write-ahead record. The file and the link lookup
are part of the environment. -/
structure RecoveryLog where
  state : RecoveryState

structure Transaction where
  recorder : Recorder
  networkManager : NetworkManagerParticipant := {}
  resolved : ResolvedParticipant := {}
  nftables : NftablesParticipant := {}
  routes : RouteParticipant := {}
  plan : Plan := {}
  state : TransactionState := .fresh
  core : Bool := false
  corePending : Bool := false
  recovery : Option RecoveryLog := none

inductive Participant
  | networkManager (p : NetworkManagerParticipant)
  | resolved (p : ResolvedParticipant)
  | nftables (p : NftablesParticipant)
  | routes (p : RouteParticipant)

def Participant.subsystem : Participant → Subsystem
  | .networkManager _ => .networkManager
  | .resolved _ => .resolved
  | .nftables _ => .nftables
  | .routes _ => .routes

def checkpointOrder : List Subsystem := [.networkManager, .resolved, .nftables, .routes]

def Transaction.place (t : Transaction) : Participant → Transaction
  | .networkManager p => { t with networkManager := p }
  | .resolved p => { t with resolved := p }
  | .nftables p => { t with nftables := p }
  | .routes p => { t with routes := p }

/-- `NewTransaction` over the real participants: each subsystem exactly once. -/
def newTransaction (recorder : Recorder) (participants : List Participant) :
    Option Transaction :=
  if !validIdentifier recorder.transactionID || !validIdentifier recorder.correlationID ||
      participants.length ≠ checkpointOrder.length then none
  else if !decide (participants.map Participant.subsystem).Nodup then none
  else if !checkpointOrder.all (participants.map Participant.subsystem).contains then none
  else some (participants.foldl Transaction.place { recorder })

/-- `newRecoveryLog`: refused while an earlier record is still on disk. The
boot id is read from the kernel and the token is sixteen random bytes in hex. -/
def newRecoveryLog (recorder : Recorder) (previous : Option RecoveryState)
    (bootID token : String) : Option RecoveryLog :=
  if previous.isSome || !bootIDPattern bootID || !ownerTokenPattern token then none
  else some { state := {
    transactionID := recorder.transactionID, generation := recorder.generation,
    bootID, token } }

def newSystemTransaction (recorder : Recorder) (previous : Option RecoveryState)
    (bootID token : String) : Option Transaction := do
  let recovery ← newRecoveryLog recorder previous bootID token
  let transaction ← newTransaction recorder
    [.networkManager {}, .resolved {}, .nftables { owner := recovery.state.token }, .routes {}]
  some { transaction with recovery := some recovery }

namespace Transaction

def pendingRollback (t : Transaction) : Subsystem → Bool
  | .networkManager => t.networkManager.pendingRollback
  | .resolved => t.resolved.dirty
  | .nftables => t.nftables.dirty
  | .routes => t.routes.dirty

def pending (t : Transaction) : Pending where
  core := t.corePending
  networkManager := t.pendingRollback .networkManager
  resolved := t.pendingRollback .resolved
  nftables := t.pendingRollback .nftables
  routes := t.pendingRollback .routes

end Transaction

/-! ## Programs over the transaction -/

abbrev Txn := Act Net Transaction

/-- `participants[subsystem].Checkpoint/Apply/Rollback`. -/
def participantBody (subsystem : Subsystem) (method : Method) (plan : Plan) : Txn GoError :=
  match subsystem with
  | .networkManager =>
    zoom (·.networkManager) (fun p t => { t with networkManager := p }) <|
      match method with
      | .checkpoint => NetworkManagerParticipant.checkpoint plan
      | .apply => NetworkManagerParticipant.apply plan
      | .rollback => NetworkManagerParticipant.rollback plan
  | .resolved =>
    zoom (·.resolved) (fun p t => { t with resolved := p }) <|
      match method with
      | .checkpoint => ResolvedParticipant.checkpoint plan
      | .apply => ResolvedParticipant.apply plan
      | .rollback => ResolvedParticipant.rollback plan
  | .nftables =>
    zoom (·.nftables) (fun p t => { t with nftables := p }) <|
      match method with
      | .checkpoint => NftablesParticipant.checkpoint plan
      | .apply => NftablesParticipant.apply plan
      | .rollback => NftablesParticipant.rollback plan
  | .routes =>
    zoom (·.routes) (fun p t => { t with routes := p }) <|
      match method with
      | .checkpoint => RouteParticipant.checkpoint plan
      | .apply => RouteParticipant.apply plan
      | .rollback => RouteParticipant.rollback plan

def participantCall (subsystem : Subsystem) (method : Method) (plan : Plan) : Txn GoError := do
  let t ← get
  perform (I := Net) (.enter subsystem method t.pending)
  let error ← participantBody subsystem method plan
  perform (I := Net) (.leave subsystem method error)
  return error

def record (stage : Method) (subsystem : Subsystem) (result : RecordResult) : Txn GoError := do
  let t ← get
  t.recorder.record stage subsystem result

/-- Write a new in-memory record and save it. -/
def saveState (state : RecoveryState) : Txn GoError := do
  modify fun t => { t with recovery := some { state } }
  save state

def beginRecovery (plan : Plan) : Txn GoError := do
  match (← get).recovery with
  | none => return none
  | some log => saveState { log.state with ipv6 := plan.ipv6 }

def recordStartedLink : Txn GoError := do
  let t ← get
  match t.recovery with
  | none => return none
  | some log =>
    let found : Except String Int ←
      perform (I := Net) (.linkIndex t.plan.tunnelInterface)
    match found with
    | .error message => return some message
    | .ok index => saveState { log.state with tunnelIndex := index }

/-- The ownership flag is set ahead of the effect it announces. -/
def beforeApply (subsystem : Subsystem) : Txn GoError := do
  match (← get).recovery with
  | none => return none
  | some log =>
    saveState <| match subsystem with
      | .nftables => { log.state with nftPending := true }
      | .routes => { log.state with routesPending := true }
      | .resolved => { log.state with resolvedPending := true }
      | .networkManager => log.state

/-- The record recomputed from the participants themselves. -/
def ownedState (t : Transaction) (state : RecoveryState) : RecoveryState :=
  { state with
    nmCheckpoint := t.networkManager.checkpointPath
    nmDevice := if t.networkManager.checkpointPath = "" then "" else t.networkManager.devicePath
    nmOwner := if t.networkManager.checkpointPath = "" then "" else t.networkManager.busOwner
    nftPending := t.pendingRollback .nftables
    routesPending := t.pendingRollback .routes
    resolvedPending := t.pendingRollback .resolved }

def saveRecovery : Txn GoError := do
  let t ← get
  match t.recovery with
  | none => return none
  | some log => saveState (ownedState t log.state)

def checkpoint (subsystem : Subsystem) : Txn GoError := do
  match ← participantCall subsystem .checkpoint (← get).plan with
  | some error =>
    let _ ← record .checkpoint subsystem .failed
    return some error
  | none =>
    match ← saveRecovery with
    | some error => return some error
    | none => record .checkpoint subsystem .passed

def apply (subsystem : Subsystem) : Txn GoError := do
  match ← beforeApply subsystem with
  | some error => return some error
  | none =>
    match ← participantCall subsystem .apply (← get).plan with
    | some error =>
      let _ ← record .apply subsystem .failed
      return some error
    | none =>
      match ← saveRecovery with
      | some error => return some error
      | none => record .apply subsystem .passed

/-! ### Rollback -/

/-- The first loop of `rollback`: per-link owners, while the tunnel exists. A
failure of one does not keep the other from being tried. -/
def rollbackOwners (plan : Plan) : List Subsystem → Bool → Txn Bool
  | [], failed => return failed
  | subsystem :: rest, failed => do
      if !(← get).pendingRollback subsystem then rollbackOwners plan rest failed
      else
        match ← participantCall subsystem .rollback plan with
        | some _ =>
          let _ ← record .rollback subsystem .failed
          rollbackOwners plan rest true
        | none =>
          let recorded ← record .rollback subsystem .passed
          let saved ← saveRecovery
          rollbackOwners plan rest (failed || recorded.isSome || saved.isSome)

/-- Routes; `true` when the rest of the rollback has to wait for a retry. -/
def rollbackRoutes (plan : Plan) : Txn Bool := do
  if !(← get).pendingRollback .routes then return false
  match ← participantCall .routes .rollback plan with
  | some _ =>
    let _ ← record .rollback .routes .failed
    return true
  | none =>
    match ← saveRecovery with
    | some _ => return true
    | none =>
      let _ ← record .rollback .routes .passed
      return false

def stopCore : Txn Bool := do
  if !(← get).corePending then return false
  let stopped : GoError ← perform (I := Net) .coreStop
  match stopped with
  | some _ => return true
  | none =>
    modify fun t => { t with corePending := false }
    return false

def rollbackNftables (plan : Plan) : Txn Bool := do
  if !(← get).pendingRollback .nftables then return false
  match ← participantCall .nftables .rollback plan with
  | some _ =>
    let _ ← record .rollback .nftables .failed
    return true
  | none =>
    match ← record .rollback .nftables .passed with
    | some _ => return true
    | none => return (← saveRecovery).isSome

def removeRecovery : Txn Bool := do
  match (← get).recovery with
  | none => return false
  | some _ => return (← remove).isSome

/-- `true` means the rollback failed and has to be retried. The traffic block
goes last: routes, then Core, then the block, then the record. -/
def rollback (plan : Plan) : Txn Bool := do
  if ← rollbackOwners plan [.resolved, .networkManager] false then return true
  if ← rollbackRoutes plan then return true
  if ← stopCore then return true
  if ← rollbackNftables plan then return true
  removeRecovery

/-! ### Execute and Restore -/

def setFailureState (rollbackFailed : Bool) : Txn Unit :=
  modify fun t =>
    { t with state := if rollbackFailed then .recoveryRequired else .recovered }

def fail (plan : Plan) (stage : Stage) (subsystem : Option Subsystem) :
    Txn (Option TransactionError) := do
  let rollbackFailed ← rollback plan
  setFailureState rollbackFailed
  return some (.failure { stage, subsystem, rollbackFailed })

def coreStart : Txn GoError := do
  let t ← get
  perform (I := Net) (.coreStart t.pending)

/-- The steps of `Execute` after its checks, each with the place its failure is
reported at. -/
def executeSteps (plan : Plan) : List (Txn GoError × Stage × Option Subsystem) :=
  [(beginRecovery plan, .checkpoint, none),
    (checkpoint .routes, .checkpoint, some .routes),
    -- The block is in place before Core creates any route.
    (checkpoint .nftables, .checkpoint, some .nftables),
    (apply .nftables, .apply, some .nftables),
    (coreStart, .apply, none),
    (recordStartedLink, .apply, none),
    (apply .routes, .apply, some .routes),
    -- Both remaining owners refer to the tunnel Core has just created.
    (checkpoint .networkManager, .checkpoint, some .networkManager),
    (checkpoint .resolved, .checkpoint, some .resolved),
    (apply .resolved, .apply, some .resolved),
    (apply .networkManager, .apply, some .networkManager)]

/-- Run the steps in order; the first one to fail is answered by `fail`. -/
def runSteps (plan : Plan) :
    List (Txn GoError × Stage × Option Subsystem) → Txn (Option TransactionError)
  | [] => return none
  | (step, stage, subsystem) :: rest => do
      match ← step with
      | some _ => fail plan stage subsystem
      | none => runSteps plan rest

def execute (plan : Plan) (core : Bool) : Txn (Option TransactionError) := do
  if !plan.valid then return some .invalidPlan
  if (← get).state ≠ .fresh then return some .invalidState
  if !core then return some .invalidParticipants
  -- The prepared child is stopped even if a checkpoint fails before its start.
  modify fun t => { t with plan, core, corePending := true }
  match ← runSteps plan (executeSteps plan) with
  | some error => return some error
  | none =>
    modify fun t => { t with state := .active }
    return none

def restore : Txn (Option TransactionError) := do
  let t ← get
  if t.state = .recovered then return none
  if t.state ≠ .active && t.state ≠ .recoveryRequired then return some .invalidState
  if ← rollback t.plan then
    modify fun t => { t with state := .recoveryRequired }
    return some (.failure { stage := .rollback, rollbackFailed := true })
  modify fun t => { t with state := .recovered }
  return none

/-- What a caller may do with one transaction. -/
inductive Request
  | execute (plan : Plan) (core : Bool)
  | restore

def Request.run : Request → Txn (Option TransactionError)
  | .execute plan core => Network.execute plan core
  | .restore => Network.restore

/-- A whole life of a transaction: requests one after another. -/
def session : List Request → Txn Unit
  | [] => return ()
  | request :: rest => do
      let _ ← request.run
      session rest

/-! ## Recovery of a record found at start -/

/-- Memory of `recoverRecord`: the loaded record and the nftables participant
made from it. -/
structure Recovering where
  state : RecoveryState
  nftables : NftablesParticipant := {}

abbrev Rec := Act Net Recovering

/-- The plan a record stands for. Core's interface, mark and resolvers are
fixed, so only the IPv6 flag has to be recorded. -/
def recoveryPlan (state : RecoveryState) : Plan :=
  let dns : List Addr := .v4 0xac130002#32 ::
    if state.ipv6 then [.v6 0xfdfedcba987600000000000000000002#128 ""] else []
  (newPlan "pokrov0" 0x504b dns).getD {}

def onNftables {α : Type} (m : Act Net NftablesParticipant α) : Rec α :=
  zoom (·.nftables) (fun p r => { r with nftables := p }) m

/-- Change the record in memory and save it. -/
def saveRecovering (change : RecoveryState → RecoveryState) : Rec GoError := do
  modify fun r => { r with state := change r.state }
  save (← get).state

def checkpointPaths : List (List Char) → Option (List (List Char))
  | [] => some []
  | field :: rest =>
    let path := GoText.trimQuotes field
    if networkManagerCheckpointPath path then (checkpointPaths rest).map (path :: ·)
    else none

def destroyOwnedCheckpoint (state : RecoveryState) : Rec GoError := do
  match ← run "busctl" ["--system", "--no-pager", "call", "org.freedesktop.DBus",
      "/org/freedesktop/DBus", "org.freedesktop.DBus", "NameHasOwner", "s", state.nmOwner]
      none with
  | .failed message _ => return some message
  | .output data =>
    let answer := GoText.trimSpace data.toList
    if answer = "b false".toList then return none
    if answer ≠ "b true".toList then return some "network manager owner response invalid"
    match ← run "busctl" ["--system", "--no-pager", "get-property", state.nmOwner,
        "/org/freedesktop/NetworkManager", "org.freedesktop.NetworkManager", "Checkpoints"]
        none with
    | .failed message _ => return some message
    | .output data =>
      let invalid : GoError := some "network manager checkpoint listing invalid"
      match GoText.fields data.toList with
      | ['a', 'o'] :: count :: paths =>
        if GoText.atoi count ≠ some (paths.length : Int) then return invalid
        match checkpointPaths paths with
        | none => return invalid
        | some found =>
          if !found.contains state.nmCheckpoint.toList then return none
          match ← run "busctl" (NetworkManagerParticipant.managerCall state.nmOwner
              "CheckpointDestroy" ["o", state.nmCheckpoint]) none with
          | .failed message _ => return some message
          | .output _ => return none
      | _ => return invalid

def recoverResolved (recorder : Recorder) : Rec GoError := do
  if !(← get).state.resolvedPending then return none
  -- The tunnel link is gone, and resolved dropped its settings with it.
  match ← saveRecovering fun s => { s with resolvedPending := false } with
  | some error => return some error
  | none =>
    let _ ← recorder.record .rollback .resolved .passed
    return none

/-- A checkpoint did not survive a reboot. -/
def destroyOnBoot (bootID : String) (state : RecoveryState) : Rec GoError :=
  if bootID = state.bootID then destroyOwnedCheckpoint state else pure none

def recoverNetworkManager (recorder : Recorder) (bootID : String) : Rec GoError := do
  let state := (← get).state
  if state.nmCheckpoint = "" then return none
  match ← destroyOnBoot bootID state with
  | some error =>
    let _ ← recorder.record .rollback .networkManager .failed
    return some error
  | none =>
    match ← saveRecovering fun s => { s with nmCheckpoint := "", nmDevice := "", nmOwner := "" } with
    | some error => return some error
    | none =>
      let _ ← recorder.record .rollback .networkManager .passed
      return none

def recoverRoutes (recorder : Recorder) (plan : Plan) : Rec GoError := do
  if !(← get).state.routesPending then return none
  perform (I := Net) (.enter .routes .rollback ⟨false, false, false, false, true⟩)
  let error ← zoom (fun _ => ({ dirty := true } : RouteParticipant)) (fun _ r => r)
    (RouteParticipant.rollback plan)
  perform (I := Net) (.leave .routes .rollback error)
  match error with
  | some error =>
    let _ ← recorder.record .rollback .routes .failed
    return some error
  | none =>
    match ← saveRecovering fun s => { s with routesPending := false } with
    | some error => return some error
    | none =>
      let _ ← recorder.record .rollback .routes .passed
      return none

def recoverNftables (recorder : Recorder) (plan : Plan) : Rec GoError := do
  if !(← get).state.nftPending then return none
  perform (I := Net) (.enter .nftables .rollback ⟨false, false, false, true, false⟩)
  let error ← onNftables (NftablesParticipant.rollback plan)
  perform (I := Net) (.leave .nftables .rollback error)
  match error with
  | some error =>
    let _ ← recorder.record .rollback .nftables .failed
    return some error
  | none =>
    match ← saveRecovering fun s => { s with nftPending := false } with
    | some error => return some error
    | none =>
      let _ ← recorder.record .rollback .nftables .passed
      return none

/-- Undo, in order, whatever the record still calls pending. -/
def recoverPending (recorder : Recorder) (bootID : String) (plan : Plan) : Rec GoError :=
  untilError id [recoverResolved recorder, recoverNetworkManager recorder bootID,
    recoverRoutes recorder plan, recoverNftables recorder plan, remove]

def verifyPresent (present : Bool) (state : RecoveryState) : Rec GoError :=
  if present && state.nftPending then onNftables NftablesParticipant.verifyOwner else pure none

def recoverRecord (bootID : String) : Rec GoError := do
  let state := (← get).state
  modify fun r => { r with nftables := { dirty := state.nftPending, owner := state.token } }
  match ← onNftables NftablesParticipant.tablePresent with
  | .error message => return some message
  | .ok present =>
    match ← verifyPresent present state with
    | some error => return some error
    | none =>
      -- A reboot erased the kernel state; routes of the current boot are
      -- not touched on the word of an older record.
      if bootID ≠ state.bootID && !present then remove
      else
        match newRecorder state.transactionID "daemon-recovery" state.generation with
        | none => return some "invalid network transaction recorder"
        | some recorder => recoverPending recorder bootID (recoveryPlan state)

end Pokrov.Linux.Network
