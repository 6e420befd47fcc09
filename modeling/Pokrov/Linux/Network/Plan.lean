import Pokrov.Lib.GoText

/-!
# Network plan and recovery record

`Plan` is what Core asks of the host: one tunnel interface, one routing mark,
the resolvers of the tunnel link. `RecoveryState` is the private write-ahead
record of a transaction; it names what was changed, never profile material.
-/

namespace Pokrov.Linux.Network

open GoText

/-- A Go `error`: `none` is nil. -/
abbrev GoError := Option String

/-! ## Addresses (`net/netip`) -/

inductive Addr
  | invalid
  | v4 (ip : BitVec 32)
  | v6 (ip : BitVec 128) (zone : String)
deriving DecidableEq

namespace Addr

/-- IPv4-mapped addresses become plain IPv4 ones, without their zone. -/
def unmap : Addr → Addr
  | .v6 ip zone =>
    if ip.toNat / 2 ^ 32 = 0xffff then .v4 (ip.truncate 32) else .v6 ip zone
  | addr => addr

def isValid : Addr → Bool
  | .invalid => false
  | _ => true

def zone : Addr → String
  | .v6 _ z => z
  | _ => ""

def isUnspecified : Addr → Bool
  | .invalid => false
  | .v4 ip => ip.toNat = 0
  | .v6 ip z => ip.toNat = 0 && z = ""

def isLoopback : Addr → Bool
  | .invalid => false
  | .v4 ip => ip.toNat / 2 ^ 24 = 127
  | .v6 ip _ => ip.toNat = 1

def isMulticast : Addr → Bool
  | .invalid => false
  | .v4 ip => ip.toNat / 2 ^ 28 = 0xe
  | .v6 ip _ => ip.toNat / 2 ^ 120 = 0xff

def isLinkLocalUnicast : Addr → Bool
  | .invalid => false
  | .v4 ip => ip.toNat / 2 ^ 16 = 169 * 256 + 254
  | .v6 ip _ => ip.toNat / 2 ^ 118 = 0xfe80 / 64

def is6 : Addr → Bool
  | .v6 _ _ => true
  | _ => false

/-- The eight 16-bit groups, most significant first. -/
def groups (ip : BitVec 128) : List Nat :=
  [7, 6, 5, 4, 3, 2, 1, 0].map fun i => ip.toNat / 2 ^ (16 * i) % 2 ^ 16

/-- Length of the run of zero groups at the head. -/
def zeroRun : List Nat → Nat
  | 0 :: rest => zeroRun rest + 1
  | _ => 0

/-- Start and length of the first longest run of zero groups. -/
def longestRun : List Nat → Nat → Nat × Nat → Nat × Nat
  | [], _, best => best
  | g :: rest, i, best =>
    let run := zeroRun (g :: rest)
    longestRun rest (i + 1) (if best.2 < run then (i, run) else best)

def joinGroups (gs : List Nat) : String := ":".intercalate (gs.map hex)

/-- `Addr.String`: dotted quad, or RFC 5952 text with the longest run of at
least two zero groups elided. -/
def text : Addr → String
  | .invalid => "invalid IP"
  | .v4 ip =>
    ".".intercalate ([3, 2, 1, 0].map fun i => itoa (ip.toNat / 2 ^ (8 * i) % 2 ^ 8))
  | .v6 ip zone =>
    let gs := groups ip
    let (start, run) := longestRun gs 0 (0, 0)
    let body :=
      if run < 2 then joinGroups gs
      else joinGroups (gs.take start) ++ "::" ++ joinGroups (gs.drop (start + run))
    if zone = "" then body else body ++ "%" ++ zone

example : text (.v4 0xac130002#32) = "172.19.0.2" := by decide

example : text (.v6 0xfdfedcba987600000000000000000002#128 "") = "fdfe:dcba:9876::2" := by
  decide

end Addr

/-! ## Plans -/

structure Plan where
  tunnelInterface : String := ""
  routingMark : UInt32 := 0
  dnsServers : List Addr := []

/-- `^pokrov[A-Za-z0-9_.-]{0,9}$`. -/
def tunnelInterfacePattern (name : String) : Bool :=
  match cutPrefix "pokrov".toList name.toList with
  | some rest =>
    matchesClass (fun c => isAlphanumeric c || c = '_' || c = '.' || c = '-') 0 9 rest
  | none => false

/-- Addresses a tunnel resolver may not have. -/
def refusedServer (server : Addr) : Bool :=
  !server.isValid || server.zone != "" || server.isUnspecified || server.isLoopback ||
    server.isMulticast || server.isLinkLocalUnicast

/-- The loop of `NewPlan`: `seen` holds what was accepted, newest first. -/
def normalizeServers : List Addr → List Addr → Option (List Addr)
  | [], seen => some seen.reverse
  | server :: rest, seen =>
    let server := server.unmap
    if refusedServer server || seen.contains server then none
    else normalizeServers rest (server :: seen)

def newPlan (tunnelInterface : String) (routingMark : UInt32) (dnsServers : List Addr) :
    Option Plan :=
  if !tunnelInterfacePattern tunnelInterface || routingMark = 0 ||
      dnsServers.isEmpty || dnsServers.length > 4 then none
  else
    (normalizeServers dnsServers []).map fun normalized =>
      { tunnelInterface, routingMark, dnsServers := normalized }

namespace Plan

def valid (plan : Plan) : Bool :=
  (newPlan plan.tunnelInterface plan.routingMark plan.dnsServers).isSome

def ipv6 (plan : Plan) : Bool := plan.dnsServers.any Addr.is6

end Plan

theorem Addr.unmap_unmap (addr : Addr) : addr.unmap.unmap = addr.unmap := by
  cases addr with
  | v6 ip zone =>
    have hunmap : unmap (.v6 ip zone) =
      if ip.toNat / 2 ^ 32 = 0xffff then .v4 (ip.truncate 32) else .v6 ip zone := rfl
    rw [hunmap]
    split_ifs with h
    · rfl
    · rw [hunmap, if_neg h]
  | _ => rfl

/-- What the loop of `NewPlan` accepts. -/
theorem normalizeServers_eq_some {servers seen normalized : List Addr} :
    normalizeServers servers seen = some normalized ↔
      normalized = seen.reverse ++ servers.map Addr.unmap ∧ (servers.map Addr.unmap).Nodup ∧
        ∀ server ∈ servers.map Addr.unmap, refusedServer server = false ∧ server ∉ seen := by
  induction servers generalizing seen with
  | nil =>
    rw [normalizeServers, Option.some.injEq, eq_comm]
    simp
  | cons server servers ih =>
    rw [normalizeServers]
    simp only [List.map_cons, List.nodup_cons, List.forall_mem_cons]
    split_ifs with hbad
    · simp only [Bool.or_eq_true, List.contains_iff_mem] at hbad
      grind
    · rw [ih]
      simp only [Bool.or_eq_true, List.contains_iff_mem] at hbad
      grind

/-- What `NewPlan` accepts it accepts again as it is: its resolvers are plain addresses that
differ, and none of them is refused. -/
theorem newPlan_normal {tunnelInterface : String} {routingMark : UInt32} {servers : List Addr}
    {plan : Plan} (h : newPlan tunnelInterface routingMark servers = some plan) :
    newPlan plan.tunnelInterface plan.routingMark plan.dnsServers = some plan ∧
      plan.dnsServers = servers.map Addr.unmap ∧ plan.dnsServers.Nodup ∧
      ∀ server ∈ plan.dnsServers, refusedServer server = false := by
  unfold newPlan at h
  split_ifs at h with hbad
  obtain ⟨normalized, hservers, rfl⟩ := Option.map_eq_some_iff.mp h
  obtain ⟨rfl, hnodup, hall⟩ := normalizeServers_eq_some.mp hservers
  have hagain : normalizeServers (servers.map Addr.unmap) [] = some (servers.map Addr.unmap) := by
    simp only [normalizeServers_eq_some, List.map_map, Function.comp_def, Addr.unmap_unmap]
    exact ⟨rfl, hnodup, hall⟩
  refine ⟨?_, rfl, hnodup, fun server hserver => (hall server hserver).1⟩
  simp only [List.reverse_nil, List.nil_append, newPlan, hagain, Option.map_some]
  exact if_neg (by simpa using hbad)

theorem newPlan_normal_mapped :
    newPlan "pokrov0" 1 [.v4 0xac130002#32, .v4 0xac130003#32] =
      some ⟨"pokrov0", 1, [.v4 0xac130002#32, .v4 0xac130003#32]⟩ :=
  (newPlan_normal (rfl : newPlan "pokrov0" 1
    [.v6 0xffffac130002#128 "", .v4 0xac130003#32] = some _)).1

/-! ## Identifiers -/

/-- `journal.ValidIdentifier`: `^[A-Za-z0-9_.:-]{1,96}$`. -/
def validIdentifier (value : String) : Bool :=
  matchesClass (fun c => isAlphanumeric c || c = '_' || c = '.' || c = ':' || c = '-') 1 96
    value.toList

/-- `^[a-f0-9]{32}$`. -/
def ownerTokenPattern (value : String) : Bool :=
  matchesClass isLowerHex 32 32 value.toList

/-- Lower-hex groups of the given lengths, joined by dashes. -/
def matchesDashed : List Nat → List Char → Bool
  | [], _ => false
  | [n], s => matchesClass isLowerHex n n s
  | n :: ns, s =>
    matchesClass isLowerHex n n (s.take n) &&
      match s.drop n with
      | '-' :: rest => matchesDashed ns rest
      | _ => false

/-- `^[a-f0-9]{8}-[a-f0-9]{4}-[a-f0-9]{4}-[a-f0-9]{4}-[a-f0-9]{12}$`. -/
def bootIDPattern (value : String) : Bool := matchesDashed [8, 4, 4, 4, 12] value.toList

/-- `^:[0-9]+\.[0-9]+$`. -/
def busOwnerPattern (value : List Char) : Bool :=
  match value with
  | ':' :: rest =>
    match rest.span isDigit with
    | (_ :: _, '.' :: minor) => !minor.isEmpty && minor.all isDigit
    | _ => false
  | _ => false

def networkManagerCheckpointPath (value : List Char) : Bool :=
  matchesAfter "/org/freedesktop/NetworkManager/Checkpoint/"
    (fun c => isAlphanumeric c || c = '_') value

def networkManagerDevicePath (value : List Char) : Bool :=
  matchesAfter "/org/freedesktop/NetworkManager/Devices/" isDigit value

/-! ## The recovery record -/

inductive Subsystem
  | networkManager
  | resolved
  | nftables
  | routes
deriving DecidableEq

structure RecoveryState where
  schema : Int := 1
  transactionID : String
  generation : UInt64 := 0
  bootID : String
  token : String
  tunnelIndex : Int := 0
  ipv6 : Bool := false
  nftPending : Bool := false
  routesPending : Bool := false
  resolvedPending : Bool := false
  nmCheckpoint : String := ""
  nmDevice : String := ""
  nmOwner : String := ""
deriving DecidableEq

namespace RecoveryState

def valid (s : RecoveryState) : Bool :=
  if s.schema ≠ 1 || !validIdentifier s.transactionID || !bootIDPattern s.bootID ||
      !ownerTokenPattern s.token || s.tunnelIndex < 0 then false
  else if s.nmCheckpoint = "" then s.nmDevice = "" && s.nmOwner = ""
  else networkManagerCheckpointPath s.nmCheckpoint.toList &&
    networkManagerDevicePath s.nmDevice.toList && busOwnerPattern s.nmOwner.toList

/-- The flag the record keeps for a subsystem. The NetworkManager checkpoint
has none: it is recorded by its path, after it was created. -/
def pending (s : RecoveryState) : Subsystem → Bool
  | .nftables => s.nftPending
  | .routes => s.routesPending
  | .resolved => s.resolvedPending
  | .networkManager => false

end RecoveryState

end Pokrov.Linux.Network
