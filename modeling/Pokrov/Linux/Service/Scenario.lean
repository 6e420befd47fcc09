import Pokrov.Linux.Service.Handle

/-!
# Playing the daemon

A world in which nothing goes wrong but that the network may be gone. With it a
schedule of the threads is a run of the daemon.
-/

namespace Pokrov.Linux.Service

open Effects

/-- What a healthy host answers. -/
def healthyHost : HostResult := ⟨⟨true, true, true, true, true⟩, true⟩

/-- The answers of a healthy world, on the network of the request or on another. -/
def Shared.answers (onNetwork : Bool) (thread : Nat) (s : Shared) :
    (c : DaemonCall) → Option c.Answer
  | .lock => if s.mu = none then some s.fields else none
  | .unlock _ => some ()
  | .connectMu sec => some (sec.run thread s).1
  | .ownership => some s.ownership
  | .own _ _ => some ()
  | .promote _ => some ()
  | .demote => some ()
  | .cancel _ => some ()
  | .waitDone call => if s.isDone call then some () else none
  | .waitDoneOrTimeout call => some (s.isDone call)
  | .goWatchCore _ => some ()
  | .contextErr none => some none
  | .contextErr (some call) => some (if s.isCancelled call then some .other else none)
  | .deadlineCurrent _ => some true
  | .tick => some ()
  | .networkCheckDue => some true
  | .networkMatches _ => some onNetwork
  | .readNetworkContext => some none
  | .closeNetworkContext => some ()
  | .processCurrent _ => some true
  | .checkAuthorization _ => some true
  | .probe => some healthyHost
  | .clock => some none
  | .profilesExist => some true
  | .profilesBoundOnly => some true
  | .profilesStage request _ => some (some ⟨request.configPayload, 1⟩)
  | .profilesInvalidate => some true
  | .newRecorder _ _ => some true
  | .newSystemTransaction => some (some s.allocated)
  | .prepare _ => some (.ok s.allocated)
  | .abortPrepared _ => some ()
  | .execute _ _ => some .active
  | .restore _ => some true
  | .recoverSystem => some (.ok false)
  | .observeTunnel => some .gone
  | .readTransportInventory => some (some s.allocated)
  | .inventoryCurrent _ => some ("", "")
  | .coreDone _ => some ()
  | .coreExited _ => some false
  | .coreProbe _ => some none
  | .coreTransportCapabilities _ => some ""
  | .coreModuleSHA256 _ => some ""
  | .coreProfileSHA256 _ => some s.fields.stagedProfileDigest
  | .coreConnectDeadlineExpired _ => some false
  | .promoteATSLease _ _ => some true
  | .revokeATSLease _ _ _ _ => some true

theorem allows_answers {onNetwork : Bool} {thread : Nat} {s : Shared} {c : DaemonCall}
    {r : c.Answer} (h : s.answers onNetwork thread c = some r) : s.allows thread ⟨c, r⟩ := by
  cases c with
  | lock =>
    simp only [Shared.answers, Option.ite_none_right_eq_some] at h
    obtain ⟨hfree, ⟨⟩⟩ := h
    exact ⟨hfree, rfl⟩
  | connectMu sec =>
    cases h
    rfl
  | ownership =>
    cases h
    rfl
  | waitDone call =>
    simp only [Shared.answers, Option.ite_none_right_eq_some] at h
    exact h.1
  | waitDoneOrTimeout call =>
    cases h
    exact id
  | contextErr context =>
    cases context with
    | none => trivial
    | some call =>
      intro hcancelled
      rw [Shared.answers, if_pos hcancelled] at h
      cases h
      nofun
  | newSystemTransaction =>
    rintro t rfl
    cases h
    rfl
  | prepare expected =>
    rintro core rfl
    cases h
    rfl
  | readTransportInventory =>
    rintro t rfl
    cases h
    rfl
  | _ => trivial

/-- A request may come at any time, and what is spawned may start. -/
def Shared.startTask (s : Shared) (task : Task) : Option Shared :=
  match task with
  | .request _ _ => some s
  | _ => if task ∈ s.spawned then some { s with spawned := s.spawned.erase task } else none

theorem starts_startTask {s s' : Shared} {task : Task} (h : s.startTask task = some s') :
    s.Starts task s' := by
  unfold Shared.startTask at h
  split at h
  · cases h
    exact .request _ _
  · simp only [Option.ite_none_right_eq_some] at h
    obtain ⟨hspawned, ⟨⟩⟩ := h
    exact .spawned hspawned

def player (P : Payloads) : Player (daemon P) Bool where
  startTask := Shared.startTask
  respond := fun onNetwork thread s c =>
    (s.answers onNetwork thread c).map fun r => (r, s.effect thread c)
  starts := starts_startTask
  executes := by
    intro onNetwork thread s s' c r h
    simp only [Option.map_eq_some_iff, Prod.mk.injEq] at h
    obtain ⟨r, hr, rfl, rfl⟩ := h
    exact ⟨allows_answers hr, rfl⟩

/-- The pool that a schedule leaves, from a fresh daemon with a profile. -/
def played (P : Payloads) (moves : List (Move Task Bool)) : Pool Daemon Shared Task Reply :=
  (player P).play ⟨.new true, []⟩ moves

theorem reachable_played (P : Payloads) (moves : List (Move Task Bool)) :
    Reachable P (played P moves) :=
  ⟨true, (player P).run_play _ moves⟩

/-! ## Requests for schedules -/

def sampleDigest : String := "0123456789abcdef0123456789abcdef0123456789abcdef0123456789abcdef"

def sampleConnectRef : String := "0123456789abcdef0123456789abcdef"

/-- Decoders that know one text of each payload. -/
def samplePayloads : Payloads where
  expectedIdentity := fun text =>
    if text = "identity" then some ⟨"", sampleDigest, "network", "", 0, 0⟩ else none
  promotion := fun text =>
    if text = "promotion" then
      some ⟨sampleConnectRef, sampleDigest, "lease_0123456789abcdef0123456789abcdef", "", "", ""⟩
    else none
  revocation := fun _ => none
  strings := fun text => if text = "" then none else some [("connect_request_id", text)]
  stage := fun text => if text = "stage" then some ⟨"", sampleDigest, "", false, ""⟩ else none
  fieldCount := fun _ => none

def samplePeer : Peer := ⟨7, 1000, 1⟩

def otherPeer : Peer := ⟨8, 1000, 1⟩

def stageRequest : Request := ⟨"stage", .stageBoundProfile, "stage", by decide⟩

/-- A bound connect under a name. -/
def connectRequest (requestID : String) (h : validIdentifier requestID = true) : Request :=
  ⟨requestID, .connectWithIdentity, "identity", h⟩

def connectR : Request := connectRequest "R" (by decide)

def connectS : Request := connectRequest "S" (by decide)

def cancelR : Request := ⟨"cancel", .cancelConnect, "R", by decide⟩

def promoteRequest : Request := ⟨"promote", .promoteTransportLease, "promotion", by decide⟩

end Pokrov.Linux.Service
