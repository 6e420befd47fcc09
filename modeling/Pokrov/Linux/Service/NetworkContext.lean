import Pokrov.Lib.Codec
import Pokrov.Lib.GoText
import Pokrov.Lib.Runs

/-!
# The network context of the Linux daemon

`networkContextObserver` of `network_context_linux.go` and its events from netlink and from the
system bus. What runs under `mu` is one step, and `sampleMu` lets one `Read` run at a time. A
sample is assembled without a lock between two steps of its `Read`.
-/

namespace Pokrov.Linux.Service

open GoText

/-! ## Samples -/

structure DefaultRoute where
  family : String
  dst : String
  gateway : String
  dev : String
  metric : Int
  prefSrc : String
  protocol : String
deriving DecidableEq

structure PhysicalLink where
  name : String
  index : Int
  mtu : Int
  hardware : String
  addresses : List String
  resolver : String
  nmOwner : String
  nmDevice : String
  nmConnection : String
  nmIP4Config : String
  nmIP6Config : String
  nmType : Nat
  accessPoint : String
  bssid : String
deriving DecidableEq

/-- What `physicalNetworkSample` marshals. It has a link for every device of a default route. -/
structure PhysicalSample where
  routes : List DefaultRoute
  links : List PhysicalLink
  linked : links ≠ []
deriving DecidableEq

/-- `uint32(link.Index)` of every link. -/
def PhysicalSample.interfaces (sample : PhysicalSample) : List Nat :=
  sample.links.map fun link => (link.index % 2 ^ 32).toNat

/-- `selectedNetworkManagerPaths`. -/
def selectedNetworkManagerPaths (sample : PhysicalSample) : List String :=
  sample.links.flatMap fun link =>
    [link.nmDevice, link.nmConnection] ++
      [link.accessPoint, link.nmIP4Config, link.nmIP6Config].filter (· ≠ "")

/-! ## Netlink -/

structure NetlinkMessage where
  type : Nat
  data : List UInt8
deriving DecidableEq

/-- A number of bytes, the lowest first, as the machines of the daemon have it. -/
def nativeUint (bytes : List UInt8) : Nat := bytes.foldr (fun b n => b.toNat + 256 * n) 0

/-- The attributes of a route, as far as they are well-formed, up to the last table. -/
def routeTable : Nat → Nat → List UInt8 → Option Nat
  | 0, _, _ => none
  | fuel + 1, table, attributes =>
    if attributes = [] then some table
    else if attributes.length < 4 then none
    else
      let length := nativeUint (attributes.take 2)
      if length < 4 ∨ attributes.length < length then none
      else
        let isTable := decide (nativeUint ((attributes.drop 2).take 2) = 15)
        if isTable ∧ length ≠ 8 then none
        else
          let table := if isTable then nativeUint ((attributes.drop 4).take 4) else table
          let aligned := (length + 3) / 4 * 4
          if attributes.length < aligned then none
          else routeTable fuel table (attributes.drop aligned)

/-- `physicalDefaultRouteEvent`. -/
def physicalDefaultRouteEvent (data : List UInt8) : Bool :=
  if data.length < 12 then true
  else if nativeUint ((data.drop 1).take 1) ≠ 0 then false
  else match routeTable data.length (nativeUint ((data.drop 4).take 1)) (data.drop 12) with
    | none => true
    | some table => decide (table ≠ 20555)

/-- `RTM_NEWLINK`, `RTM_DELLINK`, `RTM_NEWADDR` and `RTM_DELADDR`. -/
def isLinkMessage (type : Nat) : Bool := [16, 17, 20, 21].contains type

/-- `RTM_NEWROUTE` and `RTM_DELROUTE`. -/
def isRouteMessage (type : Nat) : Bool := [24, 25].contains type

/-- `NLMSG_ERROR` and `NLMSG_OVERRUN`. -/
def isErrorMessage (type : Nat) : Bool := [2, 4].contains type

/-- The interface of a message about a link or an address. -/
def NetlinkMessage.interface (message : NetlinkMessage) : Nat :=
  nativeUint ((message.data.drop 4).take 4)

/-- `networkEventChanged`, with the interfaces that are selected. -/
def networkEventChanged (interfaces : List Nat) (message : NetlinkMessage) : Bool :=
  if isLinkMessage message.type then
    if message.data.length < 8 then true
    else if interfaces = [] then true
    else interfaces.contains message.interface
  else if isRouteMessage message.type then physicalDefaultRouteEvent message.data
  else false

/-! ## Signals -/

/-- A value of a payload, as `json.Unmarshal` reads it: as a text, as a map of which the keys are
read, and as a list of texts. -/
structure RawMessage where
  asText : Option String
  asKeys : Option (List String)
  asTexts : Option (List String)
deriving DecidableEq

structure NetworkManagerSignal where
  type : String
  path : String
  interface : String
  member : String
  data : List RawMessage
deriving DecidableEq

/-- `networkManagerPropertyRelevant`. -/
def networkManagerPropertyRelevant (iface name : String) : Bool :=
  if iface = "org.freedesktop.NetworkManager.Device" then
    ["State", "ActiveConnection", "Ip4Config", "Ip6Config", "Mtu", "HwAddress", "Interface",
      "IpInterface"].contains name
  else if iface = "org.freedesktop.NetworkManager.Device.Wireless" then name = "ActiveAccessPoint"
  else if iface = "org.freedesktop.NetworkManager.AccessPoint" then name = "HwAddress"
  else if iface = "org.freedesktop.NetworkManager.Connection.Active" then
    ["State", "Default", "Default6", "Ip4Config", "Ip6Config"].contains name
  else iface = "org.freedesktop.NetworkManager.IP4Config" ||
    iface = "org.freedesktop.NetworkManager.IP6Config"

/-- `strconv.ParseUint` of 32 bits. -/
def parseUint32 (s : List Char) : Option Nat :=
  if s.isEmpty || !s.all isDigit then none
  else if decimalNumber s < 2 ^ 32 then some (decimalNumber s) else none

/-- The index of a link of the resolver, if a path is one, and if it is a number. -/
def resolverIndex (path : String) : Option (Option Nat) :=
  (cutPrefix "/org/freedesktop/resolve1/link/_".toList path.toList).map parseUint32

def isManagerPath (path : String) : Bool :=
  (cutPrefix "/org/freedesktop/NetworkManager/".toList path.toList).isSome

/-- Whether the properties that a signal names are relevant. -/
def propertiesChanged (data : List RawMessage) : Except Unit Bool :=
  match data with
  | [first, second, third] =>
    match first.asText, second.asKeys, third.asTexts with
    | some iface, some properties, some invalidated =>
      .ok ((properties ++ invalidated).any (networkManagerPropertyRelevant iface))
    | _, _, _ => .error ()
  | _ => .error ()

/-- `NameOwnerChanged`. -/
def nameOwnerChanged (data : List RawMessage) : Except Unit Bool :=
  match data with
  | [] => .error ()
  | first :: _ =>
    match first.asText with
    | none => .error ()
    | some name =>
      .ok (name = "org.freedesktop.NetworkManager" || name = "org.freedesktop.resolve1")

/-- `invalidates`, with the paths and the interfaces that are selected. -/
def NetworkManagerSignal.invalidates (signal : NetworkManagerSignal) (selected : List String)
    (interfaces : List Nat) : Except Unit Bool :=
  if signal.type ≠ "signal" then .ok false
  else if signal.interface = "org.freedesktop.DBus" ∧ signal.member = "NameOwnerChanged" then
    nameOwnerChanged signal.data
  else match resolverIndex signal.path with
    | some none => .ok true
    | some (some index) => .ok (interfaces = [] || interfaces.contains index)
    | none =>
      if !isManagerPath signal.path then .ok false
      else if selected = [] then .ok true
      else if !selected.contains signal.path then .ok false
      else if signal.member = "StateChanged" then .ok true
      else if signal.interface ≠ "org.freedesktop.DBus.Properties" ∨
          signal.member ≠ "PropertiesChanged" then .ok false
      else propertiesChanged signal.data

/-! ## The observer -/

inductive NetworkEvent
  | netlink (message : NetlinkMessage)
  | bus (signal : NetworkManagerSignal)
deriving DecidableEq

/-- Whether an event changes what is selected. -/
def NetworkEvent.changes (event : NetworkEvent) (selected : List String) (interfaces : List Nat) :
    Bool :=
  match event with
  | netlink message => networkEventChanged interfaces message
  | bus signal =>
    match signal.invalidates selected interfaces with
    | .ok changed => changed
    | .error () => false

/-- `"network_" + hex.EncodeToString(random[:])`. -/
def networkReference (random : List UInt8) : List UInt8 :=
  Codec.text "network_" ++ Codec.hexEncode random

/-- A `Read` whose sample is being assembled. The answer is what that will come to. The events are
those that were processed meanwhile; no program reads them. -/
structure PendingRead where
  revision : UInt64
  answer : Option PhysicalSample
  events : List NetworkEvent

/-- What was processed, and what a `Read` returned. No program reads it. -/
inductive ContextNote
  | processed (event : NetworkEvent)
  | returned (reference : List UInt8) (sample : PhysicalSample) (events : List NetworkEvent)
deriving DecidableEq

structure ContextObserver where
  sample : Option PhysicalSample := none
  reference : List UInt8 := []
  eventRevision : UInt64 := 0
  interfaces : List Nat := []
  nmPaths : List String := []
  started : Bool := false
  closed : Bool := false
  failed : Bool := false
  pending : Option PendingRead := none
  /-- The random bytes that were drawn. -/
  drawn : List (List UInt8) := []
  history : List ContextNote := []

inductive ContextStep
  /-- A `Read` starts the events, if they are not, and captures the revision. -/
  | capture (starts : Bool) (answer : Option PhysicalSample)
  /-- A `Read` returns. Its context may be over, and random bytes may be there. -/
  | finish (cancelled : Bool) (random : Option (List UInt8))
  | process (event : NetworkEvent)
  | eventsFailed
  | close

namespace ContextObserver

def forget (s : ContextObserver) : ContextObserver :=
  { s with sample := none, reference := [], interfaces := [], nmPaths := [],
           eventRevision := s.eventRevision + 1 }

/-- The first section of `Read`. Another `Read` waits. -/
def capture (s : ContextObserver) (starts : Bool) (answer : Option PhysicalSample) :
    ContextObserver :=
  if s.pending.isSome then s
  else if s.closed || s.failed then s
  else if !s.started && !starts then { s with failed := true }
  else { s with started := true, pending := some ⟨s.eventRevision, answer, []⟩ }

/-- The reference that is there is returned. -/
def deliver (s : ContextObserver) (sample : PhysicalSample) (events : List NetworkEvent) :
    ContextObserver :=
  { s with history := s.history ++ [.returned s.reference sample events] }

/-- A sample that was assembled, in the second section of `Read`. -/
def accept (s : ContextObserver) (sample : PhysicalSample) (events : List NetworkEvent)
    (random : Option (List UInt8)) : ContextObserver :=
  let selected :=
    { s with interfaces := sample.interfaces, nmPaths := selectedNetworkManagerPaths sample }
  if s.reference = [] ∨ s.sample ≠ some sample then
    match random with
    | none => selected.forget
    | some bytes =>
      { selected with sample := some sample, reference := networkReference bytes,
                      drawn := s.drawn ++ [bytes] }.deliver sample events
  else selected.deliver sample events

/-- The second section of `Read`. -/
def finish (s : ContextObserver) (cancelled : Bool) (random : Option (List UInt8)) :
    ContextObserver :=
  match s.pending with
  | none => s
  | some read =>
    let s := { s with pending := none }
    if s.closed ∨ s.failed ∨ s.eventRevision ≠ read.revision then s
    else match read.answer with
      | none => if cancelled then s else s.forget
      | some sample => s.accept sample read.events random

/-- An event is there to be processed. A message about an error ends the events instead. -/
def hears (s : ContextObserver) : NetworkEvent → Bool
  | .netlink message => !s.closed && !isErrorMessage message.type
  | .bus _ => !s.closed && !s.failed

/-- `watchEvents` and `watchNetworkManagerSignals` under the lock. -/
def process (s : ContextObserver) (event : NetworkEvent) : ContextObserver :=
  if !s.hears event then s
  else
    let noted := { s with
      pending := s.pending.map fun read => { read with events := read.events ++ [event] }
      history := s.history ++ [.processed event] }
    if event.changes s.nmPaths s.interfaces then
      { noted with reference := [], eventRevision := s.eventRevision + 1 }
    else noted

/-- `eventsFailed`, after an error of the socket, of the bus or of a signal. -/
def eventsFailed (s : ContextObserver) : ContextObserver :=
  if s.closed then s
  else { s with failed := true, reference := [], eventRevision := s.eventRevision + 1,
                nmPaths := [], started := false }

def close (s : ContextObserver) : ContextObserver :=
  if s.closed then s
  else { s with closed := true, reference := [], eventRevision := s.eventRevision + 1,
                interfaces := [], nmPaths := [], started := false }

def after (s : ContextObserver) : ContextStep → ContextObserver
  | .capture starts answer => s.capture starts answer
  | .finish cancelled random => s.finish cancelled random
  | .process event => s.process event
  | .eventsFailed => s.eventsFailed
  | .close => s.close

end ContextObserver

end Pokrov.Linux.Service
