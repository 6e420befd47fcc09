import Pokrov.Lib.Effects
import Pokrov.Lib.Json
import Pokrov.Linux.Network.Plan

/-!
# Participants of the network transaction

The four owners of host state a transaction drives: the NetworkManager
checkpoint, the resolver of the tunnel link, the nftables table that blocks
uplink traffic, and the policy routes. Each is a program over its own memory;
everything outside the daemon (commands, Core, the recovery file, the journal
sink) answers as it likes.
-/

namespace Pokrov.Linux.Network

open Effects GoText

/-! ## The environment -/

inductive Method
  | checkpoint
  | apply
  | rollback
deriving DecidableEq

/-- Which owners have something to roll back, and whether Core still has to be
stopped, at the moment of a call. -/
structure Pending where
  core : Bool
  networkManager : Bool
  resolved : Bool
  nftables : Bool
  routes : Bool
deriving DecidableEq

/-- A record handed to the journal sink. -/
structure JournalEvent where
  name : String
  outcome : String
  correlationID : String
  errorCode : String
  generation : UInt64
  transactionID : String
  subsystem : String
  stage : String
deriving DecidableEq

/-- Calls that leave the package. `enter` and `leave` bracket the transaction's
calls of a participant method; they have no effect and are there so that a
trace can be read at the level of participants. -/
inductive Call
  | run (name : String) (arguments : List String) (input : Option String)
  | coreStart (pending : Pending)
  | coreStop
  | save (state : RecoveryState)
  | remove
  | linkIndex (name : String)
  | write (event : JournalEvent)
  | enter (subsystem : Subsystem) (method : Method) (pending : Pending)
  | leave (subsystem : Subsystem) (method : Method) (error : GoError)
deriving DecidableEq

/-- A command that fails may still have had its effect (a timeout, a lost
output); the daemon sees only the failure. -/
inductive RunResult
  | output (text : String)
  | failed (message : String) (applied : Bool)
deriving DecidableEq

/-- A store operation that fails may still have landed: the rename is done and
the directory sync is what reports the error. -/
inductive StoreResult
  | done
  | failed (message : String) (landed : Bool)
deriving DecidableEq

def StoreResult.error : StoreResult → GoError
  | .done => none
  | .failed message _ => some message

/-- Answers. `Sink.Write` returns nothing in the source; the answer of `write`
leaves the recorder's own error open, so results cover a recorder that fails. -/
def Call.Answer : Call → Type
  | .run _ _ _ => RunResult
  | .coreStart _ => GoError
  | .coreStop => GoError
  | .save _ => StoreResult
  | .remove => StoreResult
  | .linkIndex _ => Except String Int
  | .write _ => GoError
  | .enter _ _ _ => Unit
  | .leave _ _ _ => Unit

instance : (c : Call) → DecidableEq c.Answer
  | .run _ _ _ => inferInstanceAs (DecidableEq RunResult)
  | .coreStart _ => inferInstanceAs (DecidableEq GoError)
  | .coreStop => inferInstanceAs (DecidableEq GoError)
  | .save _ => inferInstanceAs (DecidableEq StoreResult)
  | .remove => inferInstanceAs (DecidableEq StoreResult)
  | .linkIndex _ => inferInstanceAs (DecidableEq (Except String Int))
  | .write _ => inferInstanceAs (DecidableEq GoError)
  | .enter _ _ _ => inferInstanceAs (DecidableEq Unit)
  | .leave _ _ _ => inferInstanceAs (DecidableEq Unit)

abbrev Net : Interface := ⟨Call, Call.Answer⟩

section Calls

variable {σ : Type}

def run (name : String) (arguments : List String) (input : Option String) :
    Act Net σ RunResult :=
  perform (I := Net) (.run name arguments input)

def save (state : RecoveryState) : Act Net σ GoError := do
  let result : StoreResult ← perform (I := Net) (.save state)
  return result.error

def remove : Act Net σ GoError := do
  let result : StoreResult ← perform (I := Net) .remove
  return result.error

end Calls

/-! ## Recorder -/

structure Recorder where
  transactionID : String
  correlationID : String
  generation : UInt64

inductive RecordResult
  | passed
  | failed
  | unsupported

def Subsystem.name : Subsystem → String
  | .networkManager => "network_manager"
  | .resolved => "resolved"
  | .nftables => "nftables"
  | .routes => "routes"

def Method.name : Method → String
  | .checkpoint => "checkpoint"
  | .apply => "apply"
  | .rollback => "rollback"

def Method.errorCode : Method → String
  | .checkpoint => "linux_network_checkpoint_failed"
  | .apply => "linux_network_apply_failed"
  | .rollback => "linux_network_rollback_failed"

/-- `New`: the sink is the environment, so only the identifiers are checked. -/
def newRecorder (transactionID correlationID : String) (generation : UInt64) :
    Option Recorder :=
  if !validIdentifier transactionID || !validIdentifier correlationID then none
  else some { transactionID, correlationID, generation }

namespace Recorder

def event (recorder : Recorder) (stage : Method) (subsystem : Subsystem)
    (result : RecordResult) : JournalEvent where
  name := "network_transaction"
  outcome := match result with
    | .passed => "pass"
    | .failed => "reject"
    | .unsupported => "unavailable"
  correlationID := recorder.correlationID
  errorCode := match result with
    | .passed => ""
    | .failed => stage.errorCode
    | .unsupported => "linux_network_unsupported"
  generation := recorder.generation
  transactionID := recorder.transactionID
  subsystem := subsystem.name
  stage := stage.name

def record {σ : Type} (recorder : Recorder) (stage : Method) (subsystem : Subsystem)
    (result : RecordResult) : Act Net σ GoError :=
  perform (I := Net) (.write (recorder.event stage subsystem result))

end Recorder

/-! ## What the commands print

`encoding/json` into the anonymous structs of the source: unknown keys are
ignored, keys match a field up to case, `null` leaves a string as it was and
clears a pointer or slice, any other type mismatch is an error. -/

/-- Nesting limit of `encoding/json`. -/
def maxNestingDepth : Nat := 10000

/-- Simple case folding as far as it reaches ASCII letters. -/
def foldChar (c : Char) : Char :=
  if 'A' ≤ c && c ≤ 'Z' then Char.ofNat (c.toNat + 32)
  else if c = '\u017F' then 's'
  else if c = '\u212A' then 'k'
  else c

def sameField (name : String) (key : List Char) : Bool :=
  key.map foldChar = name.toList

structure TableEntry where
  family : String := ""
  name : String := ""
  comment : String := ""

def decodeString (old : String) : Json.Value → Option String
  | .null => some old
  | .string text => some (String.ofList text)
  | _ => none

def decodeTableField (withComment : Bool) (entry : TableEntry)
    (field : List Char × Json.Raw × Json.Value) : Option TableEntry :=
  if sameField "family" field.1 then
    (decodeString entry.family field.2.2).map fun v => { entry with family := v }
  else if sameField "name" field.1 then
    (decodeString entry.name field.2.2).map fun v => { entry with name := v }
  else if withComment && sameField "comment" field.1 then
    (decodeString entry.comment field.2.2).map fun v => { entry with comment := v }
  else some entry

def decodeTable (withComment : Bool) (old : Option TableEntry) :
    Json.Value → Option (Option TableEntry)
  | .null => some none
  | .object fields => (fields.foldlM (decodeTableField withComment) (old.getD {})).map some
  | _ => none

def decodeEntry (withComment : Bool) : Json.Value → Option (Option TableEntry)
  | .null => some none
  | .object fields =>
    fields.foldlM (fun table field =>
      if sameField "table" field.1 then decodeTable withComment table field.2.2
      else some table) none
  | _ => none

/-- The `nftables` slice of a listing; the inner `none` is a nil slice. Of a repeated key only the
last value counts here, where the source decodes it into the elements that it already has. -/
def decodeEntries (withComment : Bool) :
    Json.Value → Option (Option (List (Option TableEntry)))
  | .null => some none
  | .array items => (items.mapM fun item => decodeEntry withComment item.2).map some
  | _ => none

def decodeListing (withComment : Bool) (output : String) :
    Option (Option (List (Option TableEntry))) :=
  match Json.read maxNestingDepth output.toList with
  | some .null => some none
  | some (.object fields) =>
    fields.foldlM (fun entries field =>
      if sameField "nftables" field.1 then decodeEntries withComment field.2.2
      else some entries) none
  | _ => none

def pokrovNftFamily : String := "inet"

def pokrovNftTable : String := "pokrov"

def isPokrovTable : Option TableEntry → Bool
  | some entry => entry.family = pokrovNftFamily && entry.name = pokrovNftTable
  | none => false

def containsPokrovTable (output : String) : Except String Bool :=
  match decodeListing false output with
  | some (some entries) => .ok (entries.any isPokrovTable)
  | _ => .error "nftables table listing invalid"

/-- One object of an `ip -j` listing: keys with the raw text of their values. -/
abbrev IpObject := List (String × Json.Raw)

/-- Map lookup; of a repeated key the last one is kept. -/
def IpObject.raw? (object : IpObject) (key : String) : Option Json.Raw :=
  (object.reverse.find? (fun field => field.1 = key)).map Prod.snd

/-- `object[key]`, where a missing key reads as an empty `RawMessage`. -/
def IpObject.raw (object : IpObject) (key : String) : Json.Raw := (object.raw? key).getD []

def decodeIpObject : Json.Value → Option IpObject
  | .null => some []
  | .object fields => some (fields.map fun field => (String.ofList field.1, field.2.1))
  | _ => none

def decodeIpObjects (output : String) : Option (List IpObject) :=
  match Json.read maxNestingDepth output.toList with
  | some (.array items) => items.mapM fun item => decodeIpObject item.2
  | _ => none

/-- `number`: a decimal, quoted or not; `-1` for anything else. -/
def number (raw : Json.Raw) : Int :=
  let text := match Json.read maxNestingDepth raw with
    | some .null => []
    | some (.string text) => text
    | _ => raw
  (atoi text).getD (-1)

/-! ## NetworkManager -/

def networkManagerCheckpointSeconds : Nat := 90

def networkManagerCheckpointFlags : Nat := 0

structure NetworkManagerParticipant where
  checkpointPath : String := ""
  devicePath : String := ""
  busOwner : String := ""

def parseNetworkManagerObject (output : String) (pattern : List Char → Bool) :
    Except String String :=
  let invalid : Except String String := .error "network manager checkpoint response invalid"
  match cutPrefix "o ".toList (trimSpace output.toList) with
  | none => invalid
  | some rest =>
    let value := trimSpace rest
    let quoted := value.head? = some '"' || value.getLast? = some '"'
    let read : Option (List Char) :=
      if quoted then
        if value.length < 2 || value.head? ≠ some '"' || value.getLast? ≠ some '"' then none
        else unquote value
      else some value
    match read with
    | none => invalid
    | some text => if pattern text then .ok (String.ofList text) else invalid

def parseCheckpointPath (output : String) : Except String String :=
  parseNetworkManagerObject output networkManagerCheckpointPath

namespace NetworkManagerParticipant

/-- `busctl --system --no-pager call` on the NetworkManager object. -/
def managerCall (owner method : String) (rest : List String) : List String :=
  ["--system", "--no-pager", "call", owner, "/org/freedesktop/NetworkManager",
    "org.freedesktop.NetworkManager", method] ++ rest

def checkpoint (plan : Plan) : Act Net NetworkManagerParticipant GoError := do
  if (← get).checkpointPath ≠ "" then
    return some "network manager checkpoint unavailable"
  match ← run "busctl" ["--system", "--no-pager", "call", "org.freedesktop.DBus",
      "/org/freedesktop/DBus", "org.freedesktop.DBus", "GetNameOwner", "s",
      "org.freedesktop.NetworkManager"] none with
  | .failed _ _ => return some "network manager bus owner unavailable"
  | .output owner =>
    match fields (trimSpace owner.toList) with
    | [['s'], name] =>
      let busOwner := trimQuotes name
      modify fun p => { p with busOwner := String.ofList busOwner }
      if !busOwnerPattern busOwner then
        return some "network manager bus owner invalid"
      match ← run "busctl" (managerCall (String.ofList busOwner) "GetDeviceByIpIface"
          ["s", plan.tunnelInterface]) none with
      | .failed _ _ => return some "network manager owned link unavailable"
      | .output device =>
        match parseNetworkManagerObject device networkManagerDevicePath with
        | .error message =>
          modify fun p => { p with devicePath := "" }
          return some message
        | .ok devicePath =>
          modify fun p => { p with devicePath := devicePath }
          match ← run "busctl" (managerCall (String.ofList busOwner) "CheckpointCreate"
              ["aouu", "1", devicePath, itoa networkManagerCheckpointSeconds,
                itoa networkManagerCheckpointFlags]) none with
          | .failed _ _ => return some "network manager checkpoint unavailable"
          | .output output =>
            match parseCheckpointPath output with
            | .error message => return some message
            | .ok path =>
              modify fun p => { p with checkpointPath := path }
              return none
    | _ => return some "network manager bus owner invalid"

/-- Commit: the checkpoint is destroyed, so it can no longer roll back. -/
def apply (_ : Plan) : Act Net NetworkManagerParticipant GoError := do
  let p ← get
  if p.checkpointPath = "" then
    return some "network manager checkpoint missing"
  match ← run "busctl" (managerCall p.busOwner "CheckpointDestroy"
      ["o", p.checkpointPath]) none with
  | .failed _ _ => return some "network manager checkpoint commit failed"
  | .output _ =>
    modify fun p => { p with checkpointPath := "" }
    return none

def rollback (_ : Plan) : Act Net NetworkManagerParticipant GoError := do
  let p ← get
  if p.checkpointPath = "" then return none
  match ← run "busctl" (managerCall p.busOwner "CheckpointRollback"
      ["o", p.checkpointPath]) none with
  | .failed _ _ => return some "network manager rollback failed"
  | .output output =>
    match fields (trimSpace output.toList) with
    | [signature, count, device, result] =>
      if String.ofList signature ≠ "a\x7bsu\x7d" || count ≠ ['1'] ||
          String.ofList (trimQuotes device) ≠ p.devicePath || result ≠ ['0'] then
        return some "network manager rollback result rejected"
      modify fun p => { p with checkpointPath := "" }
      return none
    | _ => return some "network manager rollback result rejected"

def pendingRollback (p : NetworkManagerParticipant) : Bool := p.checkpointPath ≠ ""

end NetworkManagerParticipant

/-! ## systemd-resolved -/

structure ResolvedParticipant where
  dirty : Bool := false

namespace ResolvedParticipant

def checkpoint (plan : Plan) : Act Net ResolvedParticipant GoError := do
  if (← get).dirty then return some "resolved checkpoint unavailable"
  match ← run "resolvectl" ["status", plan.tunnelInterface] none with
  | .failed _ _ => return some "resolved link unavailable"
  | .output _ => return none

def applyCommands (plan : Plan) : List (List String) :=
  [["dns", plan.tunnelInterface] ++ plan.dnsServers.map Addr.text,
    ["domain", plan.tunnelInterface, "~."],
    ["default-route", plan.tunnelInterface, "true"]]

def applyOne (arguments : List String) : Act Net ResolvedParticipant GoError := do
  match ← run "resolvectl" arguments none with
  | .failed _ _ => return some "resolved apply failed"
  | .output _ => return none

def apply (plan : Plan) : Act Net ResolvedParticipant GoError := do
  if (← get).dirty then return some "resolved transaction already active"
  modify fun p => { p with dirty := true }
  untilError applyOne (applyCommands plan)

def rollback (plan : Plan) : Act Net ResolvedParticipant GoError := do
  if !(← get).dirty then return none
  match ← run "resolvectl" ["revert", plan.tunnelInterface] none with
  | .failed _ _ => return some "resolved rollback failed"
  | .output _ =>
    modify fun p => { p with dirty := false }
    return none

end ResolvedParticipant

/-! ## nftables -/

structure NftablesParticipant where
  dirty : Bool := false
  owner : String := ""

/-- The traffic block: everything but loopback, the tunnel, Core's mark and
link configuration is dropped. -/
def nftRules (plan : Plan) (owner : String) : String :=
  "table inet pokrov \x7b\n" ++
  "  comment \"pokrov-linuxd:" ++ owner ++ "\"\n" ++
  "  chain output \x7b\n" ++
  "    type filter hook output priority -150; policy drop;\n" ++
  "    oifname \"lo\" accept\n" ++
  "    oifname \"" ++ plan.tunnelInterface ++ "\" accept\n" ++
  "    meta mark 0x" ++ hex8 plan.routingMark.toNat ++ " accept\n" ++
  "    ip saddr 0.0.0.0 ip daddr 255.255.255.255 udp sport 68 udp dport 67 accept\n" ++
  "    ip6 saddr fe80::/10 ip6 daddr ff02::/16 udp sport 546 udp dport 547 accept\n" ++
  "    icmpv6 type \x7b nd-router-solicit, nd-router-advert, nd-neighbor-solicit, " ++
    "nd-neighbor-advert \x7d accept\n" ++
  "  \x7d\n" ++
  "\x7d\n"

def nftDelete : String := "delete table inet pokrov\n"

/-- The comment of a table this daemon made. -/
def ownerComment (owner : String) : String := "pokrov-linuxd:" ++ owner

def ownedTable (owner : String) : Option TableEntry → Bool
  | some entry =>
    entry.family = "inet" && entry.name = "pokrov" && entry.comment = ownerComment owner &&
      ownerTokenPattern owner
  | none => false

namespace NftablesParticipant

def tablePresent : Act Net NftablesParticipant (Except String Bool) := do
  match ← run "nft" ["--json", "list", "tables"] none with
  | .failed message _ => return .error message
  | .output output => return containsPokrovTable output

def verifyOwner : Act Net NftablesParticipant GoError := do
  match ← run "nft" ["--json", "list", "table", "inet", "pokrov"] none with
  | .failed message _ => return some message
  | .output output =>
    match decodeListing true output with
    | none => return some "nftables owner response invalid"
    | some entries =>
      let owner := (← get).owner
      if (entries.getD []).any (ownedTable owner) then return none
      else return some "nftables table ownership changed"

def checkpoint (_ : Plan) : Act Net NftablesParticipant GoError := do
  if (← get).dirty then return some "nftables checkpoint unavailable"
  match ← tablePresent with
  | .ok false => return none
  | _ => return some "nftables table ownership unavailable"

def apply (plan : Plan) : Act Net NftablesParticipant GoError := do
  let p ← get
  if p.dirty then return some "nftables transaction already active"
  if !ownerTokenPattern p.owner then return some "nftables owner unavailable"
  let rules := nftRules plan p.owner
  match ← run "nft" ["--check", "--file", "-"] (some rules) with
  | .failed _ _ => return some "nftables validation failed"
  | .output _ =>
    modify fun p => { p with dirty := true }
    match ← run "nft" ["--file", "-"] (some rules) with
    | .failed _ _ => return some "nftables apply failed"
    | .output _ => return none

def rollback (_ : Plan) : Act Net NftablesParticipant GoError := do
  if !(← get).dirty then return none
  match ← tablePresent with
  | .error _ => return some "nftables rollback inspection failed"
  | .ok false =>
    modify fun p => { p with dirty := false }
    return none
  | .ok true =>
    match ← verifyOwner with
    | some message => return some message
    | none =>
      match ← run "nft" ["--check", "--file", "-"] (some nftDelete) with
      | .failed _ _ => return some "nftables rollback validation failed"
      | .output _ =>
        match ← run "nft" ["--file", "-"] (some nftDelete) with
        | .failed _ _ => return some "nftables rollback failed"
        | .output _ =>
          modify fun p => { p with dirty := false }
          return none

end NftablesParticipant

/-! ## Policy routes -/

def ownedRouteTable : Nat := 20555

def ownedRulePriority : Nat := 20555

def ownedRouteProtocol : Nat := 243

def ownedRouteMetric : Nat := 42700

inductive Family
  | v4
  | v6
deriving DecidableEq

def Family.flag : Family → String
  | .v4 => "-4"
  | .v6 => "-6"

def families : List Family := [.v4, .v6]

inductive RouteKind
  | rule
  | route
deriving DecidableEq

def RouteKind.name : RouteKind → String
  | .rule => "rule"
  | .route => "route"

structure RouteParticipant where
  dirty : Bool := false

def listArguments (family : Family) (kind : RouteKind) : List String :=
  ["-N", "-j", family.flag, kind.name, "show"] ++
    match kind with
    | .rule => []
    | .route => ["table", "all"]

def ruleArguments (family : Family) (action : String) (plan : Plan) : List String :=
  [family.flag, "rule", action, "priority", itoa ownedRulePriority, "not", "fwmark",
    "0x" ++ hex plan.routingMark.toNat ++ "/0xffffffff", "table", itoa ownedRouteTable,
    "protocol", itoa ownedRouteProtocol]

def routeArguments (family : Family) (action : String) (plan : Plan) : List String :=
  [family.flag, "route", action] ++
  (if family = .v6 && !plan.ipv6 then ["unreachable", "default"]
    else ["default", "dev", plan.tunnelInterface]) ++
  ["table", itoa ownedRouteTable, "proto", itoa ownedRouteProtocol, "metric",
    itoa ownedRouteMetric]

def kindArguments (kind : RouteKind) (family : Family) (action : String) (plan : Plan) :
    List String :=
  match kind with
  | .rule => ruleArguments family action plan
  | .route => routeArguments family action plan

def ownedRule (object : IpObject) (plan : Plan) : Bool :=
  number (object.raw "priority") = ownedRulePriority &&
  object.raw "src" = "\"all\"".toList &&
  object.raw "fwmark" = ("\"0x" ++ hex plan.routingMark.toNat ++ "\"").toList &&
  (object.raw? "not").isSome &&
  (object.raw? "fwmask").all (fun mask => mask = "\"0xffffffff\"".toList) &&
  object.all fun field =>
    ["table", "protocol", "priority", "not", "src", "fwmark", "fwmask"].contains field.1

def ownedRoute (family : Family) (object : IpObject) (plan : Plan) : Bool :=
  object.raw "dst" = "\"default\"".toList &&
  number (object.raw "metric") = ownedRouteMetric &&
  (if family = .v6 && !plan.ipv6 then
    -- `ip -N` prints RTN_UNREACHABLE as 7, and the kernel gives the reject
    -- route the loopback device though `route add` names none.
    number (object.raw "type") = 7 && object.raw "dev" = "\"lo\"".toList
  else
    object.raw "dev" = quotePlain plan.tunnelInterface &&
      (object.raw "type" = [] || object.raw "type" = "\"unicast\"".toList)) &&
  (object.raw? "flags").all (fun flags => flags = "[]".toList) &&
  (object.raw? "scope").all (fun scope => number scope = 253 || number scope = 0) &&
  (object.raw? "pref").all (fun pref => pref = "\"medium\"".toList) &&
  object.all fun field =>
    ["table", "protocol", "dst", "dev", "type", "scope", "metric", "flags", "pref"].contains
      field.1

def ownedRouteObject (kind : RouteKind) (family : Family) (object : IpObject) (plan : Plan) :
    Bool :=
  match kind with
  | .rule => ownedRule object plan
  | .route => ownedRoute family object plan

/-- An object in the daemon's own table and protocol, whoever made it. -/
def inOwnedTable (object : IpObject) : Bool :=
  number (object.raw "table") = ownedRouteTable &&
    number (object.raw "protocol") = ownedRouteProtocol

/-- The inner loop of `Rollback`: how many listed objects are to be deleted. -/
def countOwned (kind : RouteKind) (family : Family) (plan : Plan) :
    List IpObject → Except String Nat
  | [] => .ok 0
  | object :: rest =>
    if !inOwnedTable object then countOwned kind family plan rest
    else if !ownedRouteObject kind family object plan then
      .error "policy route ownership changed"
    else (countOwned kind family plan rest).map (· + 1)

namespace RouteParticipant

def list (family : Family) (kind : RouteKind) :
    Act Net RouteParticipant (Except String (List IpObject)) := do
  match ← run "ip" (listArguments family kind) none with
  | .failed message _ => return .error message
  | .output data =>
    match decodeIpObjects data with
    | some entries => return .ok entries
    | none => return .error "policy route listing invalid"

def checkpointFamily (family : Family) : Act Net RouteParticipant GoError := do
  match ← list family .rule with
  | .error message => return some message
  | .ok rules =>
    if rules.any (fun rule => number (rule.raw "priority") = ownedRulePriority ||
        number (rule.raw "table") = ownedRouteTable) then
      return some "policy route ownership unavailable"
    match ← list family .route with
    | .error message => return some message
    | .ok routes =>
      if routes.any (fun route => number (route.raw "table") = ownedRouteTable) then
        return some "route table ownership unavailable"
      return none

def checkpoint (_ : Plan) : Act Net RouteParticipant GoError :=
  untilError checkpointFamily families

def applyFamily (plan : Plan) (family : Family) : Act Net RouteParticipant GoError := do
  match ← run "ip" (routeArguments family "add" plan) none with
  | .failed message _ => return some message
  | .output _ =>
    match ← run "ip" (ruleArguments family "add" plan) none with
    | .failed message _ => return some message
    | .output _ => return none

def apply (plan : Plan) : Act Net RouteParticipant GoError := do
  modify fun p => { p with dirty := true }
  untilError (applyFamily plan) families

def rollbackOne (plan : Plan) (target : Family × RouteKind) :
    Act Net RouteParticipant GoError := do
  let (family, kind) := target
  match ← list family kind with
  | .error message => return some message
  | .ok objects =>
    match countOwned kind family plan objects with
    | .error message => return some message
    | .ok matched =>
      if matched > 1 then return some "ambiguous policy route ownership"
      if matched = 1 then
        match ← run "ip" (kindArguments kind family "del" plan) none with
        | .failed message _ => return some message
        | .output _ => return none
      return none

/-- Every listing `Rollback` goes through, in order. -/
def rollbackTargets : List (Family × RouteKind) :=
  [(.v4, .rule), (.v4, .route), (.v6, .rule), (.v6, .route)]

def rollback (plan : Plan) : Act Net RouteParticipant GoError := do
  if !(← get).dirty then return none
  match ← untilError (rollbackOne plan) rollbackTargets with
  | some message => return some message
  | none =>
    modify fun p => { p with dirty := false }
    return none

end RouteParticipant

end Pokrov.Linux.Network
