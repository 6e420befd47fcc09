import Pokrov.Lib.Results
import Pokrov.Windows.Service.Machine

/-!
# Captured network state

`service_network_state.cpp`: the settings of the tunnel adapter as they are read
from the tables of Windows, the text that the journal keeps of them, and the parser
of that text. `InetNtop` and `InetPton` are parameters.
-/

namespace Pokrov.Windows.Service.NetworkState

open Codec Results

/-! ## Data -/

abbrev AddressFamily := UInt16

def afUnspec : AddressFamily := 0

def afInet : AddressFamily := 2

def afInet6 : AddressFamily := 23

/-- `SOCKADDR_INET`, a union by its family. -/
inductive SockaddrInet
  | ipv4 (port : UInt16) (address : BitVec 32)
  | ipv6 (port : UInt16) (flowinfo : UInt32) (address : BitVec 128) (scopeId : UInt32)
  | other (family : AddressFamily)

def SockaddrInet.family : SockaddrInet → AddressFamily
  | ipv4 _ _ => afInet
  | ipv6 _ _ _ _ => afInet6
  | other family => family

structure Guid where
  bytes : Bytes
  size : bytes.length = 16
deriving DecidableEq

/-- UTF-16 code units. -/
abbrev Wide := List UInt16

structure InterfaceRecord where
  family : AddressFamily
  forwarding : Bool
  weakHostSend : Bool
  weakHostReceive : Bool
  automaticMetric : Bool
  metric : UInt32
  mtu : UInt32
  routerDiscovery : Int32
  dadTransmits : UInt32
  managed : Bool
  other : Bool
  advertiseDefaultRoute : Bool

structure AddressRecord where
  address : SockaddrInet
  prefixOrigin : Int32
  suffixOrigin : Int32
  validLifetime : UInt32
  preferredLifetime : UInt32
  prefixLength : UInt8
  skipAsSource : Bool
  dadState : Int32

structure RouteRecord where
  destination : SockaddrInet
  destinationLength : UInt8
  nextHop : SockaddrInet
  sitePrefixLength : UInt32
  validLifetime : UInt32
  preferredLifetime : UInt32
  metric : UInt32
  protocol : Int32
  loopback : Bool
  autoconfigure : Bool
  publish : Bool
  immortal : Bool
  origin : Int32

structure DnsRecord where
  present : Bool
  ipv6 : Bool
  flags : UInt64
  registrationEnabled : UInt32
  registerAdapterName : UInt32
  enableLlmnr : UInt32
  queryAdapterName : UInt32
  domain : Wide
  nameServer : Wide
  searchList : Wide
  profileNameServer : Wide

/-- `NetworkSnapshot`. The guid is set together with `adapter_existed`. -/
structure NetworkSnapshot where
  adapter : Option Guid := none
  interfaces : List InterfaceRecord := []
  addresses : List AddressRecord := []
  routes : List RouteRecord := []
  dns : List DnsRecord := []

def kMaximumRoutes : Nat := 256

def kMaximumAddresses : Nat := 32

def kMaximumDnsTextLength : Nat := 2048

/-- The texts of addresses, which Windows writes and reads. -/
structure Inet where
  ntop4 : BitVec 32 → Bytes
  pton4 : Bytes → Option (BitVec 32)
  ntop6 : BitVec 128 → Bytes
  pton6 : Bytes → Option (BitVec 128)

/-! ## Capture -/

structure Adapter where
  luid : UInt64
  /-- What `ConvertInterfaceLuidToGuid` answers. -/
  guid : Option Guid
  friendlyName : Option Wide

structure InterfaceRow where
  forwardingEnabled : UInt8
  weakHostSend : UInt8
  weakHostReceive : UInt8
  useAutomaticMetric : UInt8
  metric : UInt32
  nlMtu : UInt32
  routerDiscoveryBehavior : Int32
  dadTransmits : UInt32
  managedAddressConfigurationSupported : UInt8
  otherStatefulConfigurationSupported : UInt8
  advertiseDefaultRoute : UInt8

structure UnicastRow where
  luid : UInt64
  address : SockaddrInet
  prefixOrigin : Int32
  suffixOrigin : Int32
  validLifetime : UInt32
  preferredLifetime : UInt32
  onLinkPrefixLength : UInt8
  skipAsSource : UInt8
  dadState : Int32

structure ForwardRow where
  luid : UInt64
  destination : SockaddrInet
  destinationLength : UInt8
  nextHop : SockaddrInet
  sitePrefixLength : UInt8
  validLifetime : UInt32
  preferredLifetime : UInt32
  metric : UInt32
  protocol : Int32
  loopback : UInt8
  autoconfigureAddress : UInt8
  publish : UInt8
  immortal : UInt8
  origin : Int32

structure DnsSettings where
  flags : UInt64
  registrationEnabled : UInt32
  registerAdapterName : UInt32
  enableLlmnr : UInt32
  queryAdapterName : UInt32
  domain : Option Wide
  nameServer : Option Wide
  searchList : Option Wide
  profileNameServer : Option Wide

/-- What Windows answers while a snapshot is captured, `none` where a call fails. -/
structure Tables where
  adapters : Option (List Adapter)
  interfaceEntry : UInt64 → AddressFamily → Option InterfaceRow
  unicast : Option (List UnicastRow)
  forward : Option (List ForwardRow)
  dns : Guid → Bool → Option DnsSettings

def ownedInterfaceName : Wide := "POKROV".toList.map fun c => c.toNat.toUInt16

structure OwnedAdapter where
  luid : UInt64
  guid : Guid

/-- The loop of `FindOwnedAdapter`. -/
def findAmong (preferred : Option Guid) : Option OwnedAdapter → List Adapter →
    Except Bytes (Option OwnedAdapter)
  | found, [] => .ok found
  | found, adapter :: rest =>
    match adapter.guid with
    | none => findAmong preferred found rest
    | some guid =>
      if preferred ≠ some guid ∧ adapter.friendlyName ≠ some ownedInterfaceName then
        findAmong preferred found rest
      else if found.isSome then .error (text "recovery_network_owner_ambiguous")
      else findAmong preferred (some ⟨adapter.luid, guid⟩) rest

def findOwnedAdapter (preferred : Option Guid) (adapters : Option (List Adapter)) :
    Except Bytes (Option OwnedAdapter) :=
  match adapters with
  | none => .error (text "recovery_network_capture_failed")
  | some adapters => findAmong preferred none adapters

def captureInterface (tables : Tables) (luid : UInt64) (family : AddressFamily) :
    Except Bytes InterfaceRecord :=
  match tables.interfaceEntry luid family with
  | none => .error (text "recovery_network_capture_failed")
  | some row =>
    .ok { family
          forwarding := row.forwardingEnabled != 0
          weakHostSend := row.weakHostSend != 0
          weakHostReceive := row.weakHostReceive != 0
          automaticMetric := row.useAutomaticMetric != 0
          metric := row.metric
          mtu := row.nlMtu
          routerDiscovery := row.routerDiscoveryBehavior
          dadTransmits := row.dadTransmits
          managed := row.managedAddressConfigurationSupported != 0
          other := row.otherStatefulConfigurationSupported != 0
          advertiseDefaultRoute := row.advertiseDefaultRoute != 0 }

/-- A text of Windows ends before its first NUL. -/
def wideText (value : Option Wide) : Wide := (value.getD []).takeWhile (· ≠ 0)

def captureDns (tables : Tables) (guid : Guid) (ipv6 : Bool) : Except Bytes DnsRecord :=
  match tables.dns guid ipv6 with
  | none => .error (text "recovery_network_capture_failed")
  | some settings =>
    let record : DnsRecord :=
      { present := true
        ipv6
        flags := settings.flags
        registrationEnabled := settings.registrationEnabled
        registerAdapterName := settings.registerAdapterName
        enableLlmnr := settings.enableLlmnr
        queryAdapterName := settings.queryAdapterName
        domain := wideText settings.domain
        nameServer := wideText settings.nameServer
        searchList := wideText settings.searchList
        profileNameServer := wideText settings.profileNameServer }
    if record.domain.length ≤ kMaximumDnsTextLength ∧
        record.nameServer.length ≤ kMaximumDnsTextLength ∧
        record.searchList.length ≤ kMaximumDnsTextLength ∧
        record.profileNameServer.length ≤ kMaximumDnsTextLength then .ok record
    else .error (text "recovery_network_capture_failed")

def UnicastRow.record (row : UnicastRow) : AddressRecord where
  address := row.address
  prefixOrigin := row.prefixOrigin
  suffixOrigin := row.suffixOrigin
  validLifetime := row.validLifetime
  preferredLifetime := row.preferredLifetime
  prefixLength := row.onLinkPrefixLength
  skipAsSource := row.skipAsSource != 0
  dadState := row.dadState

def ForwardRow.record (row : ForwardRow) : RouteRecord where
  destination := row.destination
  destinationLength := row.destinationLength
  nextHop := row.nextHop
  sitePrefixLength := row.sitePrefixLength.toUInt32
  validLifetime := row.validLifetime
  preferredLifetime := row.preferredLifetime
  metric := row.metric
  protocol := row.protocol
  loopback := row.loopback != 0
  autoconfigure := row.autoconfigureAddress != 0
  publish := row.publish != 0
  immortal := row.immortal != 0
  origin := row.origin

/-- The rows of the adapter. One more than the limit is an error. -/
def captureRows {ρ τ : Type} (rows : Option (List ρ)) (owned : ρ → Bool) (record : ρ → τ)
    (limit : Nat) : Except Bytes (List τ) :=
  match rows with
  | none => .error (text "recovery_network_capture_failed")
  | some rows =>
    let own := rows.filter owned
    if limit < own.length then .error (text "recovery_network_snapshot_too_large")
    else .ok (own.map record)

def captureSnapshot (tables : Tables) : Except Bytes NetworkSnapshot := do
  match ← findOwnedAdapter none tables.adapters with
  | none => return {}
  | some adapter =>
    let interface4 ← captureInterface tables adapter.luid afInet
    let interface6 ← captureInterface tables adapter.luid afInet6
    let addresses ← captureRows tables.unicast (fun row => row.luid == adapter.luid)
      UnicastRow.record kMaximumAddresses
    let routes ← captureRows tables.forward (fun row => row.luid == adapter.luid)
      ForwardRow.record kMaximumRoutes
    let dns4 ← captureDns tables adapter.guid false
    let dns6 ← captureDns tables adapter.guid true
    return { adapter := some adapter.guid, interfaces := [interface4, interface6], addresses, routes,
             dns := [dns4, dns6] }

/-! ## Text -/

def comma : UInt8 := 44

def flag (value : Bool) : Bytes := text (if value then "1" else "0")

def decimal (value : UInt32) : Bytes := toDecimal value.toNat

/-- A number of an enumeration, as `unsigned long`. -/
def enumeration (value : Int32) : Bytes := decimal value.toUInt32

/-- The bytes of code units in memory. -/
def wideBytes : Wide → Bytes
  | [] => []
  | c :: rest => toLE 2 c.toNat ++ wideBytes rest

def ofWideBytes : Bytes → Wide
  | low :: high :: rest => UInt16.ofNat (ofLE [low, high]) :: ofWideBytes rest
  | _ => []

def wideToHex (value : Wide) : Bytes :=
  let value := value.takeWhile (· ≠ 0)
  if kMaximumDnsTextLength < value.length then [] else hexEncode (wideBytes value)

/-- A record on a line of its own. -/
def recordLine (key : String) (fields : List Bytes) : Bytes :=
  text key ++ [comma].intercalate fields

section Serialize

variable (net : Inet)

def addressToString : SockaddrInet → Bytes
  | .ipv4 _ address => net.ntop4 address
  | .ipv6 _ _ address _ => net.ntop6 address
  | .other _ => []

def addressScope : SockaddrInet → UInt32
  | .ipv6 _ _ _ scopeId => scopeId
  | _ => 0

def familyDigit (family : AddressFamily) : Bytes := text (if family = afInet then "4" else "6")

def InterfaceRecord.fields (record : InterfaceRecord) : List Bytes :=
  [familyDigit record.family, flag record.forwarding, flag record.weakHostSend,
    flag record.weakHostReceive, flag record.automaticMetric, decimal record.metric, decimal record.mtu,
    enumeration record.routerDiscovery, decimal record.dadTransmits, flag record.managed,
    flag record.other, flag record.advertiseDefaultRoute]

def AddressRecord.fields (record : AddressRecord) : List Bytes :=
  [familyDigit record.address.family, addressToString net record.address,
    decimal (addressScope record.address), enumeration record.prefixOrigin,
    enumeration record.suffixOrigin, decimal record.validLifetime, decimal record.preferredLifetime,
    toDecimal record.prefixLength.toNat, flag record.skipAsSource, enumeration record.dadState]

def RouteRecord.fields (record : RouteRecord) : List Bytes :=
  [familyDigit record.destination.family, addressToString net record.destination,
    decimal (addressScope record.destination), toDecimal record.destinationLength.toNat,
    addressToString net record.nextHop, decimal (addressScope record.nextHop),
    decimal record.sitePrefixLength, decimal record.validLifetime, decimal record.preferredLifetime,
    decimal record.metric, enumeration record.protocol, flag record.loopback, flag record.autoconfigure,
    flag record.publish, flag record.immortal, enumeration record.origin]

def DnsRecord.fields (record : DnsRecord) : List Bytes :=
  [text (if record.ipv6 then "6" else "4"), toDecimal record.flags.toNat,
    decimal record.registrationEnabled, decimal record.registerAdapterName, decimal record.enableLlmnr,
    decimal record.queryAdapterName, wideToHex record.domain, wideToHex record.nameServer,
    wideToHex record.searchList, wideToHex record.profileNameServer]

def kSnapshotMagic : Bytes := text "POKROV_NETWORK_V1"

def snapshotLines (snapshot : NetworkSnapshot) : List Bytes :=
  match snapshot.adapter with
  | none => [kSnapshotMagic, text "adapter=absent"]
  | some guid =>
    [kSnapshotMagic, text "adapter=present", text "guid=" ++ hexEncode guid.bytes] ++
      snapshot.interfaces.map (fun record => recordLine "if=" record.fields) ++
      snapshot.addresses.map (fun record => recordLine "addr=" (record.fields net)) ++
      snapshot.routes.map (fun record => recordLine "route=" (record.fields net)) ++
      snapshot.dns.map fun record => recordLine "dns=" record.fields

/-- Every line is ended. -/
def serialize (snapshot : NetworkSnapshot) : Bytes :=
  (snapshotLines net snapshot).flatMap (· ++ [newline])

/-- The adapter is looked for once before it is captured. -/
def captureFound (before : Option (List Adapter)) (tables : Tables) : Except Bytes NetworkSnapshot := do
  match ← findOwnedAdapter none before with
  | none => return {}
  | some _ => captureSnapshot tables

/-- `Capture`. -/
def capture (before : Option (List Adapter)) (tables : Tables) : Except Bytes Bytes := do
  let captured ← captureFound before tables
  let serialized := serialize net captured
  if serialized = [] ∨ 64 * 1024 < serialized.length then
    .error (text "recovery_network_snapshot_too_large")
  else return serialized

end Serialize

/-! ## Parser -/

def parseUnsigned (bits : Nat) (value : Bytes) : Option Nat :=
  match parseDecimal 64 value with
  | none => none
  | some parsed => if 2 ^ bits ≤ parsed then none else some parsed

def parseUlong (value : Bytes) : Option UInt32 := (parseUnsigned 32 value).map UInt32.ofNat

def parseEnumeration (value : Bytes) : Option Int32 := (parseUlong value).map UInt32.toInt32

def parseBool (value : Bytes) : Option Bool :=
  match parseUnsigned 32 value with
  | none => none
  | some parsed => if 1 < parsed then none else some (parsed == 1)

def parseHexBytes (value : Bytes) (size : Nat) : Option Bytes :=
  if value.length ≠ size * 2 ∨ value.all isLowerHex = false then none else some (hexDecode value)

def parseGuid (value : Bytes) : Option Guid :=
  match parseHexBytes value 16 with
  | none => none
  | some bytes => if size : bytes.length = 16 then some ⟨bytes, size⟩ else none

def hexToWide (value : Bytes) : Option Wide :=
  if value.length % 4 ≠ 0 ∨ kMaximumDnsTextLength * 2 * 2 < value.length then none
  else (parseHexBytes value (value.length / 4 * 2)).map ofWideBytes

/-- The digit of a family, 4 or 6. -/
def parseFamily (value : Bytes) : Option AddressFamily :=
  match parseUnsigned 32 value with
  | some 4 => some afInet
  | some 6 => some afInet6
  | _ => none

/-- A length of a prefix, at most 128. -/
def parsePrefixLength (value : Bytes) : Option Nat :=
  match parseUnsigned 32 value with
  | none => none
  | some parsed => if 128 < parsed then none else some parsed

section Parse

variable (net : Inet)

def parseAddress (value : Bytes) (family : AddressFamily) (scopeId : UInt32) : Option SockaddrInet :=
  if family = afInet then (net.pton4 value).map (.ipv4 0 ·)
  else if family = afInet6 then (net.pton6 value).map (.ipv6 0 0 · scopeId)
  else none

def parseInterface : List Bytes → Option InterfaceRecord
  | [family, forwarding, weakHostSend, weakHostReceive, automaticMetric, metric, mtu, router, dadTransmits,
      managed, other, advertiseDefaultRoute] => do
      return { family := ← parseFamily family
               forwarding := ← parseBool forwarding
               weakHostSend := ← parseBool weakHostSend
               weakHostReceive := ← parseBool weakHostReceive
               automaticMetric := ← parseBool automaticMetric
               metric := ← parseUlong metric
               mtu := ← parseUlong mtu
               routerDiscovery := ← parseEnumeration router
               dadTransmits := ← parseUlong dadTransmits
               managed := ← parseBool managed
               other := ← parseBool other
               advertiseDefaultRoute := ← parseBool advertiseDefaultRoute }
  | _ => none

def parseAddressRecord : List Bytes → Option AddressRecord
  | [family, address, scope, prefixOrigin, suffixOrigin, validLifetime, preferredLifetime, prefixLength,
      skipAsSource, dadState] => do
      let family ← parseFamily family
      let scope ← parseUlong scope
      return { address := ← parseAddress net address family scope
               prefixOrigin := ← parseEnumeration prefixOrigin
               suffixOrigin := ← parseEnumeration suffixOrigin
               validLifetime := ← parseUlong validLifetime
               preferredLifetime := ← parseUlong preferredLifetime
               prefixLength := UInt8.ofNat (← parsePrefixLength prefixLength)
               skipAsSource := ← parseBool skipAsSource
               dadState := ← parseEnumeration dadState }
  | _ => none

def parseRoute : List Bytes → Option RouteRecord
  | [family, destination, destinationScope, prefixLength, nextHop, nextScope, sitePrefixLength,
      validLifetime, preferredLifetime, metric, protocol, loopback, autoconfigure, publish, immortal,
      origin] => do
      let family ← parseFamily family
      let destinationScope ← parseUlong destinationScope
      let destination ← parseAddress net destination family destinationScope
      let prefixLength ← parsePrefixLength prefixLength
      let nextScope ← parseUlong nextScope
      return { destination
               destinationLength := UInt8.ofNat prefixLength
               nextHop := ← parseAddress net nextHop family nextScope
               sitePrefixLength := UInt32.ofNat (← parsePrefixLength sitePrefixLength)
               validLifetime := ← parseUlong validLifetime
               preferredLifetime := ← parseUlong preferredLifetime
               metric := ← parseUlong metric
               protocol := ← parseEnumeration protocol
               loopback := ← parseBool loopback
               autoconfigure := ← parseBool autoconfigure
               publish := ← parseBool publish
               immortal := ← parseBool immortal
               origin := ← parseEnumeration origin }
  | _ => none

def parseDns : List Bytes → Option DnsRecord
  | [family, flags, registrationEnabled, registerAdapterName, enableLlmnr, queryAdapterName, domain,
      nameServer, searchList, profileNameServer] => do
      let family ← parseFamily family
      return { present := true
               ipv6 := family == afInet6
               flags := UInt64.ofNat (← parseUnsigned 64 flags)
               registrationEnabled := ← parseUlong registrationEnabled
               registerAdapterName := ← parseUlong registerAdapterName
               enableLlmnr := ← parseUlong enableLlmnr
               queryAdapterName := ← parseUlong queryAdapterName
               domain := ← hexToWide domain
               nameServer := ← hexToWide nameServer
               searchList := ← hexToWide searchList
               profileNameServer := ← hexToWide profileNameServer }
  | _ => none

/-- The fields of a line without the key that it starts with. -/
def fieldsAfter (key : String) (line : Bytes) : List Bytes :=
  match line.splitOn comma with
  | [] => []
  | first :: rest => first.drop key.length :: rest

/-- One round of the loop over the lines. -/
def parseLine (snapshot : NetworkSnapshot) (line : Bytes) : Option NetworkSnapshot :=
  if (text "if=").isPrefixOf line then
    (parseInterface (fieldsAfter "if=" line)).map fun record =>
      { snapshot with interfaces := snapshot.interfaces ++ [record] }
  else if (text "addr=").isPrefixOf line then
    if kMaximumAddresses ≤ snapshot.addresses.length then none
    else (parseAddressRecord net (fieldsAfter "addr=" line)).map fun record =>
      { snapshot with addresses := snapshot.addresses ++ [record] }
  else if (text "route=").isPrefixOf line then
    if kMaximumRoutes ≤ snapshot.routes.length then none
    else (parseRoute net (fieldsAfter "route=" line)).map fun record =>
      { snapshot with routes := snapshot.routes ++ [record] }
  else if (text "dns=").isPrefixOf line then
    if 2 ≤ snapshot.dns.length then none
    else (parseDns (fieldsAfter "dns=" line)).map fun record =>
      { snapshot with dns := snapshot.dns ++ [record] }
  else none

def parseSnapshot (serialized : Bytes) : Option NetworkSnapshot :=
  if serialized.getLast? ≠ some newline then none
  else
    match serialized.dropLast.splitOn newline with
    | magic :: adapter :: rest =>
      if magic ≠ kSnapshotMagic then none
      else if adapter = text "adapter=absent" then if rest = [] then some {} else none
      else if adapter ≠ text "adapter=present" then none
      else
        match rest with
        | [] => none
        | guid :: lines =>
          if ¬ (text "guid=").isPrefixOf guid then none
          else
            match parseGuid (guid.drop 5) with
            | none => none
            | some guid =>
              match lines.foldlM (parseLine net) { adapter := some guid } with
              | none => none
              | some snapshot =>
                if snapshot.interfaces.length = 2 ∧ snapshot.dns.length = 2 then some snapshot
                else none
    | _ => none

end Parse

/-! ## Fields -/

/-- `InetPton` takes what `InetNtop` writes, which holds no separator. -/
structure Inet.Lawful (net : Inet) : Prop where
  pton4_ntop4 : ∀ address, net.pton4 (net.ntop4 address) = some address
  pton6_ntop6 : ∀ address, net.pton6 (net.ntop6 address) = some address
  ntop4_plain : ∀ address, comma ∉ net.ntop4 address ∧ newline ∉ net.ntop4 address
  ntop6_plain : ∀ address, comma ∉ net.ntop6 address ∧ newline ∉ net.ntop6 address

/-- A field with no separator in it. -/
def Plain (field : Bytes) : Prop := comma ∉ field ∧ newline ∉ field

theorem plain_of_all {field : Bytes} (h : field.all isLowerHex = true) : Plain field :=
  ⟨not_mem_of_all h (by decide), not_mem_of_all h (by decide)⟩

theorem plain_toDecimal (n : Nat) : Plain (toDecimal n) := by
  apply plain_of_all
  rw [List.all_eq_true]
  intro b hb
  have hdigit := List.all_eq_true.mp (all_toDecimal n) b hb
  rw [isLowerHex, hdigit, Bool.true_or]

theorem plain_flag (value : Bool) : Plain (flag value) := by
  cases value <;> exact plain_of_all (by decide)

theorem plain_familyDigit (family : AddressFamily) : Plain (familyDigit family) := by
  unfold familyDigit
  split <;> exact plain_of_all (by decide)

theorem plain_wideToHex (value : Wide) : Plain (wideToHex value) := by
  unfold wideToHex
  dsimp only
  split
  · exact ⟨List.not_mem_nil, List.not_mem_nil⟩
  · exact plain_of_all (all_hexEncode _)

theorem parseUnsigned_toDecimal {bits n : Nat} (hbits : bits ≤ 64) (h : n < 2 ^ bits) :
    parseUnsigned bits (toDecimal n) = some n := by
  have hwide : n < 2 ^ 64 := h.trans_le (Nat.pow_le_pow_right (by decide) hbits)
  unfold parseUnsigned
  rw [parseDecimal_toDecimal hwide]
  exact if_neg (not_le.mpr h)

@[simp] theorem parseUlong_decimal (value : UInt32) : parseUlong (decimal value) = some value := by
  unfold parseUlong decimal
  rw [parseUnsigned_toDecimal (by decide) value.toNat_lt]
  simp

@[simp] theorem parseEnumeration_enumeration (value : Int32) :
    parseEnumeration (enumeration value) = some value := by
  unfold parseEnumeration enumeration
  rw [parseUlong_decimal]
  rfl

@[simp] theorem parseBool_flag (value : Bool) : parseBool (flag value) = some value := by
  cases value <;> decide

theorem parseFamily_familyDigit {family : AddressFamily} (h : family = afInet ∨ family = afInet6) :
    parseFamily (familyDigit family) = some family := by
  rcases h with rfl | rfl <;> decide

theorem parsePrefixLength_toDecimal {n : Nat} (h : n ≤ 128) :
    parsePrefixLength (toDecimal n) = some n := by
  unfold parsePrefixLength
  rw [parseUnsigned_toDecimal (by decide) (h.trans_lt (by decide))]
  exact if_neg (not_lt.mpr h)

theorem length_wideBytes (value : Wide) : (wideBytes value).length = value.length * 2 := by
  induction value with
  | nil => rfl
  | cons c rest ih =>
    rw [wideBytes, List.length_append, length_toLE, ih, List.length_cons]
    omega

theorem ofWideBytes_wideBytes (value : Wide) : ofWideBytes (wideBytes value) = value := by
  induction value with
  | nil => rfl
  | cons c rest ih =>
    have hunit : UInt16.ofNat (ofLE (toLE 2 c.toNat)) = c := by
      rw [ofLE_toLE c.toNat_lt]
      exact UInt16.ofNat_toNat
    show UInt16.ofNat (ofLE (toLE 2 c.toNat)) :: ofWideBytes (wideBytes rest) = c :: rest
    rw [hunit, ih]

theorem hexToWide_wideToHex {value : Wide} (hnul : 0 ∉ value)
    (hlength : value.length ≤ kMaximumDnsTextLength) : hexToWide (wideToHex value) = some value := by
  have hwhole : value.takeWhile (· ≠ 0) = value := by
    rw [List.takeWhile_eq_self_iff]
    intro c hc
    rw [decide_eq_true_iff]
    rintro rfl
    exact hnul hc
  have hbytes : (hexEncode (wideBytes value)).length = value.length * 4 := by
    rw [length_hexEncode, length_wideBytes]
    omega
  have hquarter : value.length * 4 / 4 * 2 * 2 = value.length * 4 := by omega
  unfold wideToHex
  dsimp only
  rw [hwhole, if_neg (not_lt.mpr hlength)]
  unfold hexToWide parseHexBytes
  rw [hbytes, if_neg (by unfold kMaximumDnsTextLength at *; omega), if_neg, Option.map_some,
    hexDecode_hexEncode, ofWideBytes_wideBytes]
  rw [hquarter, all_hexEncode]
  simp

theorem parseGuid_hexEncode (guid : Guid) : parseGuid (hexEncode guid.bytes) = some guid := by
  have hbytes : parseHexBytes (hexEncode guid.bytes) 16 = some guid.bytes := by
    unfold parseHexBytes
    rw [length_hexEncode, guid.size, all_hexEncode, hexDecode_hexEncode]
    rfl
  unfold parseGuid
  rw [hbytes]
  exact dif_pos guid.size

/-! ## Records -/

/-- An address of a family that is captured, with no port and no flow. -/
def SockaddrInet.Bare : SockaddrInet → Prop
  | ipv4 port _ => port = 0
  | ipv6 port flowinfo _ _ => port = 0 ∧ flowinfo = 0
  | other _ => False

theorem SockaddrInet.Bare.family {address : SockaddrInet} (h : address.Bare) :
    address.family = afInet ∨ address.family = afInet6 := by
  cases address with
  | ipv4 port address => exact .inl rfl
  | ipv6 port flowinfo address scopeId => exact .inr rfl
  | other family => exact h.elim

section Records

variable {net : Inet} (hnet : net.Lawful)
include hnet

theorem parseAddress_addressToString {address : SockaddrInet} (h : address.Bare) :
    parseAddress net (addressToString net address) address.family (addressScope address) = some address := by
  cases address with
  | ipv4 port address =>
    cases h
    unfold parseAddress
    have hfamily : (SockaddrInet.ipv4 0 address).family = afInet := rfl
    rw [hfamily, if_pos rfl]
    show (net.pton4 (net.ntop4 address)).map _ = _
    rw [hnet.pton4_ntop4]
    rfl
  | ipv6 port flowinfo address scopeId =>
    obtain ⟨rfl, rfl⟩ := h
    unfold parseAddress
    have hfamily : (SockaddrInet.ipv6 0 0 address scopeId).family = afInet6 := rfl
    rw [hfamily, if_neg (by decide), if_pos rfl]
    show (net.pton6 (net.ntop6 address)).map _ = _
    rw [hnet.pton6_ntop6]
    rfl
  | other family => exact h.elim

theorem plain_addressToString (address : SockaddrInet) : Plain (addressToString net address) := by
  cases address with
  | ipv4 port address => exact hnet.ntop4_plain address
  | ipv6 port flowinfo address scopeId => exact hnet.ntop6_plain address
  | other family => exact ⟨List.not_mem_nil, List.not_mem_nil⟩

omit hnet in
theorem parseInterface_fields {record : InterfaceRecord}
    (h : record.family = afInet ∨ record.family = afInet6) :
    parseInterface record.fields = some record := by
  simp [InterfaceRecord.fields, parseInterface, parseFamily_familyDigit h]

theorem parseAddressRecord_fields {record : AddressRecord} (h : record.address.Bare)
    (hlength : record.prefixLength.toNat ≤ 128) :
    parseAddressRecord net (record.fields net) = some record := by
  simp [AddressRecord.fields, parseAddressRecord, parseFamily_familyDigit h.family,
    parseAddress_addressToString hnet h, parsePrefixLength_toDecimal hlength]

theorem parseRoute_fields {record : RouteRecord} (hdestination : record.destination.Bare)
    (hnext : record.nextHop.Bare) (hfamily : record.nextHop.family = record.destination.family)
    (hlength : record.destinationLength.toNat ≤ 128) (hsite : record.sitePrefixLength.toNat ≤ 128) :
    parseRoute net (record.fields net) = some record := by
  have hnextHop := parseAddress_addressToString hnet hnext
  have hsite' : parsePrefixLength (decimal record.sitePrefixLength) = some record.sitePrefixLength.toNat :=
    parsePrefixLength_toDecimal hsite
  rw [hfamily] at hnextHop
  simp [RouteRecord.fields, parseRoute, parseFamily_familyDigit hdestination.family,
    parseAddress_addressToString hnet hdestination, hnextHop, parsePrefixLength_toDecimal hlength, hsite']

/-- A text that is captured from the settings of a resolver. -/
def Short (value : Wide) : Prop := 0 ∉ value ∧ value.length ≤ kMaximumDnsTextLength

omit hnet in
theorem parseDns_fields {record : DnsRecord} (hpresent : record.present = true)
    (hdomain : Short record.domain) (hserver : Short record.nameServer) (hsearch : Short record.searchList)
    (hprofile : Short record.profileNameServer) : parseDns record.fields = some record := by
  have hfamily : parseFamily (text (if record.ipv6 = true then "6" else "4")) =
      some (if record.ipv6 = true then afInet6 else afInet) := by
    cases record.ipv6 <;> decide
  have hipv6 : ((if record.ipv6 = true then afInet6 else afInet) == afInet6) = record.ipv6 := by
    cases record.ipv6 <;> decide
  have hflags := parseUnsigned_toDecimal (le_refl 64) record.flags.toNat_lt
  obtain ⟨present, ipv6, flags, registration, register, llmnr, query, domain, server, search, profile⟩ := record
  cases hpresent
  simp [DnsRecord.fields, parseDns, hfamily, hipv6, hflags, hexToWide_wideToHex hdomain.1 hdomain.2,
    hexToWide_wideToHex hserver.1 hserver.2, hexToWide_wideToHex hsearch.1 hsearch.2,
    hexToWide_wideToHex hprofile.1 hprofile.2]

end Records

/-! ## Lines -/

theorem length_text (s : String) : (text s).length = s.length := by
  rw [text, List.length_map, String.length_toList]

theorem isPrefixOf_recordLine (key : String) (fields : List Bytes) :
    (text key).isPrefixOf (recordLine key fields) = true :=
  List.isPrefixOf_iff_prefix.mpr (List.prefix_append _ _)

/-- A line is the record of one key only. -/
theorem not_isPrefixOf_recordLine {key other : String} {a b : UInt8} {rest rest' : Bytes}
    (hkey : text key = a :: rest) (hother : text other = b :: rest') (hne : b ≠ a) (fields : List Bytes) :
    ¬ (text other).isPrefixOf (recordLine key fields) = true := by
  rw [recordLine, hkey, hother, List.cons_append, List.isPrefixOf_cons_cons, Bool.and_eq_true, beq_iff_eq]
  exact fun h => hne h.1

theorem fieldsAfter_recordLine {key : String} {fields : List Bytes} (hne : fields ≠ [])
    (hkey : comma ∉ text key) (hplain : ∀ field ∈ fields, Plain field) :
    fieldsAfter key (recordLine key fields) = fields := by
  cases fields with
  | nil => exact absurd rfl hne
  | cons field fields =>
    have hline : recordLine key (field :: fields) = [comma].intercalate ((text key ++ field) :: fields) := by
      unfold recordLine
      cases fields with
      | nil => simp
      | cons next fields => rw [List.intercalate_cons_cons, List.intercalate_cons_cons]; simp
    have hfree : ∀ piece ∈ (text key ++ field) :: fields, comma ∉ piece := by
      intro piece hpiece
      rcases List.mem_cons.mp hpiece with rfl | hpiece
      · rw [List.mem_append, not_or]
        exact ⟨hkey, (hplain field List.mem_cons_self).1⟩
      · exact (hplain piece (List.mem_cons_of_mem _ hpiece)).1
    unfold fieldsAfter
    rw [hline, List.splitOn_intercalate comma hfree (List.cons_ne_nil _ _)]
    show (text key ++ field).drop key.length :: fields = _
    rw [← length_text, List.drop_left]

theorem newline_not_mem_recordLine {key : String} {fields : List Bytes} (hkey : newline ∉ text key)
    (hplain : ∀ field ∈ fields, Plain field) : newline ∉ recordLine key fields := by
  unfold recordLine
  rw [List.mem_append, not_or]
  refine ⟨hkey, fun hmem => ?_⟩
  induction fields with
  | nil => simp at hmem
  | cons field fields ih =>
    have hfield := (hplain field List.mem_cons_self).2
    cases fields with
    | nil =>
      rw [List.intercalate_singleton] at hmem
      exact hfield hmem
    | cons next fields =>
      rw [List.intercalate_cons_cons, List.mem_append, List.mem_append, List.mem_singleton] at hmem
      rcases hmem with (hmem | hmem) | hmem
      · exact hfield hmem
      · exact absurd hmem (by decide)
      · exact ih (fun piece hpiece => hplain piece (List.mem_cons_of_mem _ hpiece)) hmem

section Lines

variable {net : Inet} (hnet : net.Lawful)

theorem plain_interface (record : InterfaceRecord) : ∀ field ∈ record.fields, Plain field := by
  simp only [InterfaceRecord.fields, List.forall_mem_cons, decimal, enumeration]
  simp [plain_familyDigit, plain_flag, plain_toDecimal]

theorem plain_dns (record : DnsRecord) : ∀ field ∈ record.fields, Plain field := by
  have hfamily : Plain (text (if record.ipv6 = true then "6" else "4")) := by
    cases record.ipv6 <;> exact plain_of_all (by decide)
  simp only [DnsRecord.fields, List.forall_mem_cons, decimal]
  simp [hfamily, plain_toDecimal, plain_wideToHex]

include hnet

theorem plain_address (record : AddressRecord) : ∀ field ∈ record.fields net, Plain field := by
  simp only [AddressRecord.fields, List.forall_mem_cons, decimal, enumeration]
  simp [plain_familyDigit, plain_flag, plain_toDecimal, plain_addressToString hnet]

theorem plain_route (record : RouteRecord) : ∀ field ∈ record.fields net, Plain field := by
  simp only [RouteRecord.fields, List.forall_mem_cons, decimal, enumeration]
  simp [plain_familyDigit, plain_flag, plain_toDecimal, plain_addressToString hnet]

omit hnet in
theorem parseLine_interface {record : InterfaceRecord}
    (h : record.family = afInet ∨ record.family = afInet6) (snapshot : NetworkSnapshot) :
    parseLine net snapshot (recordLine "if=" record.fields) =
      some { snapshot with interfaces := snapshot.interfaces ++ [record] } := by
  have hfields : fieldsAfter "if=" (recordLine "if=" record.fields) = record.fields :=
    fieldsAfter_recordLine (List.cons_ne_nil _ _) (by decide) (plain_interface record)
  unfold parseLine
  rw [if_pos (isPrefixOf_recordLine _ _), hfields, parseInterface_fields h, Option.map_some]

theorem parseLine_address {record : AddressRecord} (h : record.address.Bare)
    (hlength : record.prefixLength.toNat ≤ 128) {snapshot : NetworkSnapshot}
    (hroom : snapshot.addresses.length < kMaximumAddresses) :
    parseLine net snapshot (recordLine "addr=" (record.fields net)) =
      some { snapshot with addresses := snapshot.addresses ++ [record] } := by
  have hfields : fieldsAfter "addr=" (recordLine "addr=" (record.fields net)) = record.fields net :=
    fieldsAfter_recordLine (List.cons_ne_nil _ _) (by decide) (plain_address hnet record)
  unfold parseLine
  rw [if_neg (not_isPrefixOf_recordLine rfl rfl (by decide) _), if_pos (isPrefixOf_recordLine _ _),
    if_neg (not_le.mpr hroom), hfields, parseAddressRecord_fields hnet h hlength, Option.map_some]

theorem parseLine_route {record : RouteRecord} (hdestination : record.destination.Bare)
    (hnext : record.nextHop.Bare) (hfamily : record.nextHop.family = record.destination.family)
    (hlength : record.destinationLength.toNat ≤ 128) (hsite : record.sitePrefixLength.toNat ≤ 128)
    {snapshot : NetworkSnapshot} (hroom : snapshot.routes.length < kMaximumRoutes) :
    parseLine net snapshot (recordLine "route=" (record.fields net)) =
      some { snapshot with routes := snapshot.routes ++ [record] } := by
  have hfields : fieldsAfter "route=" (recordLine "route=" (record.fields net)) = record.fields net :=
    fieldsAfter_recordLine (List.cons_ne_nil _ _) (by decide) (plain_route hnet record)
  unfold parseLine
  rw [if_neg (not_isPrefixOf_recordLine rfl rfl (by decide) _),
    if_neg (not_isPrefixOf_recordLine rfl rfl (by decide) _), if_pos (isPrefixOf_recordLine _ _),
    if_neg (not_le.mpr hroom), hfields,
    parseRoute_fields hnet hdestination hnext hfamily hlength hsite, Option.map_some]

omit hnet in
theorem parseLine_dns {record : DnsRecord} (hpresent : record.present = true)
    (hdomain : Short record.domain) (hserver : Short record.nameServer) (hsearch : Short record.searchList)
    (hprofile : Short record.profileNameServer) {snapshot : NetworkSnapshot}
    (hroom : snapshot.dns.length < 2) :
    parseLine net snapshot (recordLine "dns=" record.fields) =
      some { snapshot with dns := snapshot.dns ++ [record] } := by
  have hfields : fieldsAfter "dns=" (recordLine "dns=" record.fields) = record.fields :=
    fieldsAfter_recordLine (List.cons_ne_nil _ _) (by decide) (plain_dns record)
  unfold parseLine
  rw [if_neg (not_isPrefixOf_recordLine rfl rfl (by decide) _),
    if_neg (not_isPrefixOf_recordLine rfl rfl (by decide) _),
    if_neg (not_isPrefixOf_recordLine rfl rfl (by decide) _), if_pos (isPrefixOf_recordLine _ _),
    if_neg (not_le.mpr hroom), hfields,
    parseDns_fields hpresent hdomain hserver hsearch hprofile, Option.map_some]

end Lines

/-! ## Snapshots -/

def AddressRecord.WellFormed (record : AddressRecord) : Prop :=
  record.address.Bare ∧ record.prefixLength.toNat ≤ 128

structure RouteRecord.WellFormed (record : RouteRecord) : Prop where
  destination : record.destination.Bare
  nextHop : record.nextHop.Bare
  family : record.nextHop.family = record.destination.family
  length : record.destinationLength.toNat ≤ 128
  site : record.sitePrefixLength.toNat ≤ 128

structure DnsRecord.WellFormed (record : DnsRecord) : Prop where
  present : record.present = true
  domain : Short record.domain
  nameServer : Short record.nameServer
  searchList : Short record.searchList
  profileNameServer : Short record.profileNameServer

/-- What a capture leaves of an adapter. -/
structure NetworkSnapshot.WellFormed (snapshot : NetworkSnapshot) : Prop where
  interfaces : snapshot.interfaces.length = 2
  families : ∀ record ∈ snapshot.interfaces, record.family = afInet ∨ record.family = afInet6
  maximumAddresses : snapshot.addresses.length ≤ kMaximumAddresses
  addresses : ∀ record ∈ snapshot.addresses, record.WellFormed
  maximumRoutes : snapshot.routes.length ≤ kMaximumRoutes
  routes : ∀ record ∈ snapshot.routes, record.WellFormed
  dns : snapshot.dns.length = 2
  settings : ∀ record ∈ snapshot.dns, record.WellFormed

section Snapshots

variable {net : Inet} (hnet : net.Lawful)

theorem snapshotLines_ne_nil (snapshot : NetworkSnapshot) : snapshotLines net snapshot ≠ [] := by
  unfold snapshotLines
  cases snapshot.adapter <;> simp

include hnet

theorem newline_not_mem_snapshotLines (snapshot : NetworkSnapshot) :
    ∀ line ∈ snapshotLines net snapshot, newline ∉ line := by
  have hguid : ∀ guid : Guid, newline ∉ text "guid=" ++ hexEncode guid.bytes := by
    intro guid
    rw [List.mem_append, not_or]
    exact ⟨by decide, (plain_of_all (all_hexEncode _)).2⟩
  intro line hline
  unfold snapshotLines at hline
  cases hadapter : snapshot.adapter with
  | none =>
    rw [hadapter] at hline
    simp only [List.mem_cons, List.not_mem_nil, or_false] at hline
    rcases hline with rfl | rfl <;> decide
  | some guid =>
    rw [hadapter] at hline
    simp only [List.mem_append, List.mem_map, List.mem_cons, List.not_mem_nil, or_false] at hline
    rcases hline with ((((rfl | rfl | rfl) | ⟨record, -, rfl⟩) | ⟨record, -, rfl⟩) | ⟨record, -, rfl⟩) |
      ⟨record, -, rfl⟩
    · decide
    · decide
    · exact hguid guid
    · exact newline_not_mem_recordLine (by decide) (plain_interface record)
    · exact newline_not_mem_recordLine (by decide) (plain_address hnet record)
    · exact newline_not_mem_recordLine (by decide) (plain_route hnet record)
    · exact newline_not_mem_recordLine (by decide) (plain_dns record)

theorem splitOn_serialize (snapshot : NetworkSnapshot) :
    (serialize net snapshot).dropLast.splitOn newline = snapshotLines net snapshot := by
  unfold serialize
  rw [dropLast_terminated (snapshotLines_ne_nil snapshot)]
  exact List.splitOn_intercalate newline (newline_not_mem_snapshotLines hnet snapshot)
    (snapshotLines_ne_nil snapshot)

omit hnet in
theorem foldlM_interfaces {records : List InterfaceRecord}
    (h : ∀ record ∈ records, record.family = afInet ∨ record.family = afInet6) (s : NetworkSnapshot) :
    (records.map fun record => recordLine "if=" record.fields).foldlM (parseLine net) s =
      some { s with interfaces := s.interfaces ++ records } := by
  apply foldlM_records (fun (s : NetworkSnapshot) records => { s with interfaces := s.interfaces ++ records })
    (fun s => s.interfaces.length) (s.interfaces.length + records.length) _ _ _ _ _ h le_rfl
  · simp
  · simp
  · simp
  · exact fun s record hfamily _ => parseLine_interface hfamily s

theorem foldlM_addresses {records : List AddressRecord} (h : ∀ record ∈ records, record.WellFormed)
    {s : NetworkSnapshot} (hlimit : s.addresses.length + records.length ≤ kMaximumAddresses) :
    (records.map fun record => recordLine "addr=" (record.fields net)).foldlM (parseLine net) s =
      some { s with addresses := s.addresses ++ records } := by
  apply foldlM_records (fun (s : NetworkSnapshot) records => { s with addresses := s.addresses ++ records })
    (fun s => s.addresses.length) kMaximumAddresses _ _ _ _ _ h hlimit
  · simp
  · simp
  · simp
  · exact fun s record hrecord hroom => parseLine_address hnet hrecord.1 hrecord.2 hroom

theorem foldlM_routes {records : List RouteRecord} (h : ∀ record ∈ records, record.WellFormed)
    {s : NetworkSnapshot} (hlimit : s.routes.length + records.length ≤ kMaximumRoutes) :
    (records.map fun record => recordLine "route=" (record.fields net)).foldlM (parseLine net) s =
      some { s with routes := s.routes ++ records } := by
  apply foldlM_records (fun (s : NetworkSnapshot) records => { s with routes := s.routes ++ records })
    (fun s => s.routes.length) kMaximumRoutes _ _ _ _ _ h hlimit
  · simp
  · simp
  · simp
  · exact fun s record hrecord hroom => parseLine_route hnet hrecord.destination hrecord.nextHop
      hrecord.family hrecord.length hrecord.site hroom

omit hnet in
theorem foldlM_dns {records : List DnsRecord} (h : ∀ record ∈ records, record.WellFormed)
    {s : NetworkSnapshot} (hlimit : s.dns.length + records.length ≤ 2) :
    (records.map fun record => recordLine "dns=" record.fields).foldlM (parseLine net) s =
      some { s with dns := s.dns ++ records } := by
  apply foldlM_records (fun (s : NetworkSnapshot) records => { s with dns := s.dns ++ records })
    (fun s => s.dns.length) 2 _ _ _ _ _ h hlimit
  · simp
  · simp
  · simp
  · exact fun s record hrecord hroom => parseLine_dns hrecord.present hrecord.domain hrecord.nameServer
      hrecord.searchList hrecord.profileNameServer hroom

/-- The text of a snapshot is read back, whatever the addresses look like in it. -/
theorem parseSnapshot_serialize {snapshot : NetworkSnapshot} (hs : snapshot.adapter.isSome → snapshot.WellFormed)
    (habsent : snapshot.adapter = none → snapshot = {}) :
    parseSnapshot net (serialize net snapshot) = some snapshot := by
  have hend : (serialize net snapshot).getLast? = some newline :=
    getLast?_terminated (snapshotLines_ne_nil snapshot)
  unfold parseSnapshot
  rw [if_neg (not_not.mpr hend), splitOn_serialize hnet]
  cases hadapter : snapshot.adapter with
  | none =>
    rw [habsent hadapter]
    rfl
  | some guid =>
    have hwell := hs (by rw [hadapter]; rfl)
    have hrecords : ∀ records, (text "guid=").isPrefixOf (text "guid=" ++ records) = true := fun _ =>
      List.isPrefixOf_iff_prefix.mpr (List.prefix_append _ _)
    have hguid : parseGuid ((text "guid=" ++ hexEncode guid.bytes).drop 5) = some guid := by
      rw [show (5 : Nat) = (text "guid=").length from rfl, List.drop_left]
      exact parseGuid_hexEncode guid
    unfold snapshotLines
    rw [hadapter]
    simp only [List.cons_append, List.nil_append, List.append_assoc]
    rw [if_neg (not_not.mpr rfl), if_neg (by decide), if_neg (not_not.mpr rfl),
      if_neg (not_not.mpr (hrecords _)), hguid]
    dsimp only
    have hinterfaces := @foldlM_interfaces net _ hwell.families { adapter := some guid }
    have haddresses := foldlM_addresses hnet hwell.addresses
      (s := { adapter := some guid, interfaces := snapshot.interfaces })
      (by simpa using hwell.maximumAddresses)
    have hroutes := foldlM_routes hnet hwell.routes
      (s := { adapter := some guid, interfaces := snapshot.interfaces, addresses := snapshot.addresses })
      (by simpa using hwell.maximumRoutes)
    have hdns := @foldlM_dns net _ hwell.settings
      { adapter := some guid, interfaces := snapshot.interfaces, addresses := snapshot.addresses,
        routes := snapshot.routes }
      (by simpa using hwell.dns.le)
    simp only [List.nil_append] at hinterfaces haddresses hroutes hdns
    rw [List.foldlM_append, hinterfaces, Option.bind_eq_bind, Option.bind_some, List.foldlM_append,
      haddresses, Option.bind_eq_bind, Option.bind_some, List.foldlM_append, hroutes,
      Option.bind_eq_bind, Option.bind_some, hdns]
    dsimp only
    rw [if_pos ⟨hwell.interfaces, hwell.dns⟩, ← hadapter]

end Snapshots

/-! ## Captures -/

/-- Tables of addresses of the two families, with lengths that fit. -/
structure Tables.Sound (tables : Tables) : Prop where
  unicast : ∀ rows row, tables.unicast = some rows → row ∈ rows →
    row.address.Bare ∧ row.onLinkPrefixLength.toNat ≤ 128
  forward : ∀ rows row, tables.forward = some rows → row ∈ rows →
    row.destination.Bare ∧ row.nextHop.Bare ∧ row.nextHop.family = row.destination.family ∧
      row.destinationLength.toNat ≤ 128 ∧ row.sitePrefixLength.toNat ≤ 128

theorem family_of_captureInterface {tables : Tables} {luid : UInt64} {family : AddressFamily}
    {record : InterfaceRecord} (h : captureInterface tables luid family = .ok record) :
    record.family = family := by
  unfold captureInterface at h
  cases hrow : tables.interfaceEntry luid family with
  | none =>
    rw [hrow] at h
    cases h
  | some row =>
    rw [hrow] at h
    cases h
    rfl

theorem not_mem_wideText (value : Option Wide) : 0 ∉ wideText value := by
  intro hmem
  have hne := List.mem_takeWhile_imp hmem
  simp at hne

theorem wellFormed_captureDns {tables : Tables} {guid : Guid} {ipv6 : Bool} {record : DnsRecord}
    (h : captureDns tables guid ipv6 = .ok record) : record.WellFormed := by
  unfold captureDns at h
  cases hsettings : tables.dns guid ipv6 with
  | none =>
    rw [hsettings] at h
    cases h
  | some settings =>
    rw [hsettings] at h
    dsimp only at h
    split at h
    · rename_i hlength
      cases h
      exact ⟨rfl, ⟨not_mem_wideText _, hlength.1⟩, ⟨not_mem_wideText _, hlength.2.1⟩,
        ⟨not_mem_wideText _, hlength.2.2.1⟩, ⟨not_mem_wideText _, hlength.2.2.2⟩⟩
    · cases h

theorem captureRows_eq_ok {ρ τ : Type} {rows : Option (List ρ)} {owned : ρ → Bool} {record : ρ → τ}
    {limit : Nat} {records : List τ} (h : captureRows rows owned record limit = .ok records) :
    records.length ≤ limit ∧ ∀ r ∈ records, ∃ rows' row, rows = some rows' ∧ row ∈ rows' ∧ record row = r := by
  unfold captureRows at h
  cases rows with
  | none => cases h
  | some rows =>
    dsimp only at h
    split at h
    · cases h
    · rename_i hroom
      cases h
      rw [List.length_map]
      refine ⟨not_lt.mp hroom, fun r hr => ?_⟩
      obtain ⟨row, hrow, rfl⟩ := List.mem_map.mp hr
      exact ⟨rows, row, rfl, (List.mem_filter.mp hrow).1, rfl⟩

theorem captureSnapshot_eq_ok {tables : Tables} (htables : tables.Sound) {snapshot : NetworkSnapshot}
    (h : captureSnapshot tables = .ok snapshot) :
    (snapshot.adapter.isSome → snapshot.WellFormed) ∧ (snapshot.adapter = none → snapshot = {}) := by
  unfold captureSnapshot at h
  obtain ⟨found, -, h⟩ := bind_eq_ok.mp h
  cases found with
  | none =>
    cases h
    exact ⟨nofun, fun _ => rfl⟩
  | some adapter =>
    obtain ⟨interface4, h4, h⟩ := bind_eq_ok.mp h
    obtain ⟨interface6, h6, h⟩ := bind_eq_ok.mp h
    obtain ⟨addresses, haddresses, h⟩ := bind_eq_ok.mp h
    obtain ⟨routes, hroutes, h⟩ := bind_eq_ok.mp h
    obtain ⟨dns4, hdns4, h⟩ := bind_eq_ok.mp h
    obtain ⟨dns6, hdns6, h⟩ := bind_eq_ok.mp h
    cases h
    refine ⟨fun _ => ?_, nofun⟩
    obtain ⟨hmaximumAddresses, haddresses⟩ := captureRows_eq_ok haddresses
    obtain ⟨hmaximumRoutes, hroutes⟩ := captureRows_eq_ok hroutes
    constructor
    case interfaces => rfl
    case families =>
      intro record hrecord
      simp only [List.mem_cons, List.not_mem_nil, or_false] at hrecord
      rcases hrecord with rfl | rfl
      · exact .inl (family_of_captureInterface h4)
      · exact .inr (family_of_captureInterface h6)
    case maximumAddresses => exact hmaximumAddresses
    case addresses =>
      intro record hrecord
      obtain ⟨rows, row, hrows, hrow, rfl⟩ := haddresses record hrecord
      exact htables.unicast rows row hrows hrow
    case maximumRoutes => exact hmaximumRoutes
    case routes =>
      intro record hrecord
      obtain ⟨rows, row, hrows, hrow, rfl⟩ := hroutes record hrecord
      obtain ⟨hdestination, hnext, hfamily, hlength, hsite⟩ := htables.forward rows row hrows hrow
      refine ⟨hdestination, hnext, hfamily, hlength, ?_⟩
      show row.sitePrefixLength.toUInt32.toNat ≤ 128
      rwa [UInt8.toNat_toUInt32]
    case dns => rfl
    case settings =>
      intro record hrecord
      simp only [List.mem_cons, List.not_mem_nil, or_false] at hrecord
      rcases hrecord with rfl | rfl
      · exact wellFormed_captureDns hdns4
      · exact wellFormed_captureDns hdns6

/-- What is captured from tables in order is read back from its text, and so is the
text that `Capture` accepts. Without an adapter the text says just that. -/
theorem snapshot_round_trip {net : Inet} (hnet : net.Lawful) {tables : Tables} (htables : tables.Sound) :
    (∀ snapshot, captureSnapshot tables = .ok snapshot →
      parseSnapshot net (serialize net snapshot) = some snapshot) ∧
    (∀ before serialized, capture net before tables = .ok serialized → serialized.length ≤ 64 * 1024 ∧
      ∃ snapshot, (snapshot = {} ∨ captureSnapshot tables = .ok snapshot) ∧
        serialized = serialize net snapshot ∧ parseSnapshot net serialized = some snapshot) ∧
    ∀ snapshot : NetworkSnapshot, snapshot.adapter = none →
      ∃ parsed, parseSnapshot net (serialize net snapshot) = some parsed ∧ parsed.adapter = none := by
  have hround : ∀ snapshot, captureSnapshot tables = .ok snapshot →
      parseSnapshot net (serialize net snapshot) = some snapshot := by
    intro snapshot h
    obtain ⟨hsome, hnone⟩ := captureSnapshot_eq_ok htables h
    exact parseSnapshot_serialize hnet hsome hnone
  have hempty : parseSnapshot net (serialize net {}) = some {} :=
    parseSnapshot_serialize hnet nofun fun _ => rfl
  refine ⟨hround, fun before serialized h => ?_, fun snapshot hadapter => ⟨{}, ?_, rfl⟩⟩
  · unfold capture at h
    obtain ⟨captured, hcaptured, h⟩ := bind_eq_ok.mp h
    unfold captureFound at hcaptured
    obtain ⟨found, -, hcaptured⟩ := bind_eq_ok.mp hcaptured
    dsimp only at h
    split at h
    · cases h
    · rename_i hsize
      cases h
      rw [not_or, not_lt] at hsize
      refine ⟨hsize.2, captured, ?_⟩
      cases found with
      | none =>
        cases hcaptured
        exact ⟨.inl rfl, rfl, hempty⟩
      | some adapter => exact ⟨.inr hcaptured, rfl, hround captured hcaptured⟩
  · have hlines : serialize net snapshot = serialize net {} := by
      unfold serialize snapshotLines
      rw [hadapter]
    rw [hlines]
    exact hempty

/-! An adapter with an address and a route of the first family. -/

def dot : UInt8 := 46

def dotted (address : BitVec 32) : Bytes :=
  [dot].intercalate [toDecimal (address.toNat / 256 ^ 3), toDecimal (address.toNat / 256 ^ 2 % 256),
    toDecimal (address.toNat / 256 % 256), toDecimal (address.toNat % 256)]

def ofDotted (value : Bytes) : Option (BitVec 32) :=
  match (value.splitOn dot).map (parseUnsigned 8) with
  | [some a, some b, some c, some d] => some (BitVec.ofNat 32 (((a * 256 + b) * 256 + c) * 256 + d))
  | _ => none

/-- Dotted numbers. No address of the second family is written here. -/
def sampleInet : Inet where
  ntop4 := dotted
  pton4 := ofDotted
  ntop6 := fun address => hexEncode (toLE 16 address.toNat)
  pton6 := fun value => (parseHexBytes value 16).map fun bytes => BitVec.ofNat 128 (ofLE bytes)

theorem digit_plain (n : Nat) : ∀ c ∈ toDecimal n, c ≠ dot ∧ c ≠ comma ∧ c ≠ newline := by
  intro c hc
  have hdigit := List.all_eq_true.mp (all_toDecimal n) c hc
  refine ⟨?_, ?_, ?_⟩ <;> rintro rfl <;> exact absurd hdigit (by decide)

theorem sampleInet_lawful : sampleInet.Lawful where
  pton4_ntop4 := by
    intro address
    show ofDotted (dotted address) = some address
    have hfree : ∀ n, dot ∉ toDecimal n := fun n hmem => (digit_plain n dot hmem).1 rfl
    have hsplit : (dotted address).splitOn dot = [toDecimal (address.toNat / 256 ^ 3),
        toDecimal (address.toNat / 256 ^ 2 % 256), toDecimal (address.toNat / 256 % 256),
        toDecimal (address.toNat % 256)] := by
      apply List.splitOn_intercalate dot _ (List.cons_ne_nil _ _)
      simp [hfree]
    have hlt := address.isLt
    have hparse : ∀ n, n < 256 → parseUnsigned 8 (toDecimal n) = some n := fun n hn =>
      parseUnsigned_toDecimal (by decide) hn
    unfold ofDotted
    rw [hsplit, List.map_cons, List.map_cons, List.map_cons, List.map_cons, List.map_nil,
      hparse _ (by omega), hparse _ (by omega), hparse _ (by omega), hparse _ (by omega)]
    apply congrArg some
    apply BitVec.eq_of_toNat_eq
    rw [BitVec.toNat_ofNat]
    omega
  pton6_ntop6 := by
    intro address
    show (parseHexBytes (hexEncode (toLE 16 address.toNat)) 16).map _ = some address
    unfold parseHexBytes
    rw [length_hexEncode, length_toLE, all_hexEncode, hexDecode_hexEncode]
    show some (BitVec.ofNat 128 (ofLE (toLE 16 address.toNat))) = some address
    rw [ofLE_toLE (by have := address.isLt; omega)]
    simp
  ntop4_plain := by
    intro address
    have hfree : ∀ c, c ≠ dot → (∀ n, c ∉ toDecimal n) → c ∉ dotted address := by
      intro c hdot hc
      unfold dotted
      simp [List.intercalate_cons_cons, hc, hdot]
    exact ⟨hfree comma (by decide) fun n hmem => (digit_plain n _ hmem).2.1 rfl,
      hfree newline (by decide) fun n hmem => (digit_plain n _ hmem).2.2 rfl⟩
  ntop6_plain := fun _ => plain_of_all (all_hexEncode _)

def sampleAdapter : Adapter :=
  ⟨7, some ⟨List.replicate 16 171, rfl⟩, some ownedInterfaceName⟩

def sampleTables : Tables where
  adapters := some [sampleAdapter]
  interfaceEntry := fun _ _ => some ⟨0, 0, 0, 1, 5, 1500, -1, 3, 0, 0, 0⟩
  unicast := some [⟨7, .ipv4 0 0x0a000001, 1, 1, 0xffffffff, 0xffffffff, 24, 0, 4⟩]
  forward := some [⟨7, .ipv4 0 0, 0, .ipv4 0 0x0a0000fe, 0, 0xffffffff, 0xffffffff, 1, 3, 0, 0, 0, 1, 0⟩]
  dns := fun _ _ => some ⟨0, 1, 0, 0, 0, none, some ("10.0.0.1".toList.map fun c => c.toNat.toUInt16), none, none⟩

theorem sampleTables_sound : sampleTables.Sound where
  unicast := by
    intro rows row hrows hrow
    cases hrows
    rw [List.mem_singleton] at hrow
    subst hrow
    exact ⟨rfl, by decide⟩
  forward := by
    intro rows row hrows hrow
    cases hrows
    rw [List.mem_singleton] at hrow
    subst hrow
    exact ⟨rfl, rfl, rfl, by decide, by decide⟩

theorem sample_round_trip : ∃ snapshot, captureSnapshot sampleTables = .ok snapshot ∧
    parseSnapshot sampleInet (serialize sampleInet snapshot) = some snapshot := by
  have hcapture : ∃ snapshot, captureSnapshot sampleTables = .ok snapshot := ⟨_, rfl⟩
  obtain ⟨snapshot, hsnapshot⟩ := hcapture
  exact ⟨snapshot, hsnapshot, (snapshot_round_trip sampleInet_lawful sampleTables_sound).1 snapshot hsnapshot⟩

end Pokrov.Windows.Service.NetworkState
