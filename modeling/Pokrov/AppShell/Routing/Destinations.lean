import Pokrov.AppShell.CatalogContract
import Pokrov.Dart.InternetAddress

/-!
# Destinations

The texts of `client_routing_preferences.dart` that stand for a domain, an address or a
network: how they are normalized, and when an address is in a network.
-/

namespace Pokrov.AppShell

open Dart

inductive PokrovRouteMatchType
  | domain
  | ip
  | subnet
deriving DecidableEq

/-! ## Domains -/

def isAlphanumeric (u : UInt16) : Bool := isLower u || isDigit u

/-- `[a-z0-9](?:[a-z0-9-]{0,61}[a-z0-9])?`. -/
def isDomainLabel (label : Text) : Bool :=
  label.length ≤ 63 && (label.head?.any isAlphanumeric && label.getLast?.any isAlphanumeric) &&
    label.all fun u => isAlphanumeric u || u = unit '-'

/-- The `domainPattern`. -/
def isDomain (value : Text) : Bool :=
  let labels := value.splitOn (unit '.')
  value.length ≤ 253 && 2 ≤ labels.length && labels.all isDomainLabel

/-- `domain == suffix || domain.endsWith('.$suffix')`. -/
def domainMatches (domain suffix : Text) : Bool :=
  domain = suffix || (unit '.' :: suffix).isSuffixOf domain

section

variable (toLowerCase : Text → Text) (net : InternetAddresses)

/-! ## What a user may enter -/

def maximumPrefix (type : InternetAddressType) : Int := if type = .IPv4 then 32 else 128

/-- Without `*.` in front and without `.` behind. -/
def bareDomain (value : Text) : Text :=
  let value := if (text "*.").isPrefixOf value then value.drop 2 else value
  if value.getLast? = some (unit '.') then value.dropLast else value

/-- `_normalizeRouteMatch`. -/
def normalizeRouteMatch (raw : Text) : Option (Text × PokrovRouteMatchType) :=
  let value := toLowerCase (trim raw)
  if value = [] ∨ 253 < value.length ∨ value.any isPatternSpace then none
  else if value.contains (unit '/') then
    match value.splitOn (unit '/') with
    | [first, last] =>
      match net.tryParse first, intTryParse last with
      | some address, some length =>
        if 0 ≤ length ∧ length ≤ maximumPrefix address.type then
          some (address.address ++ unit '/' :: encodeInt length, .subnet)
        else none
      | _, _ => none
    | _ => none
  else
    match net.tryParse value with
    | some address => some (address.address, .ip)
    | none =>
      let value := bareDomain value
      if isDomain value then some (value, .domain) else none

/-! ## Networks -/

/-- `rawAddress[index]`. -/
def byteAt (bytes : List UInt8) (index : Int) : Try UInt8 :=
  if index < 0 then .error .other
  else
    match bytes[index.toNat]? with
    | some b => .ok b
    | none => .error .other

/-- The loop over whole bytes. -/
def sameBytes (ip network : List UInt8) : List Nat → Try Bool
  | [] => .ok true
  | index :: rest => do
      let a ← byteAt ip index
      let b ← byteAt network index
      if a ≠ b then return false else sameBytes ip network rest

/-- The comparison of the bytes, for a length that `int.tryParse` has read. -/
def sameNetwork (ip network : List UInt8) (length : Int) : Try Bool := do
  let fullBytes := length.tdiv 8
  let remainingBits := length.tmod 8
  if !(← sameBytes ip network (List.range fullBytes.toNat)) then return false
  if remainingBits = 0 then return true
  let mask := UInt8.ofNat ((0xff <<< (8 - remainingBits).toNat) &&& 0xff)
  return (← byteAt ip fullBytes) &&& mask == (← byteAt network fullBytes) &&& mask

/-- `_ipInSubnet`. -/
def ipInSubnet (ipText subnetText : Text) : Try Bool :=
  match subnetText.splitOn (unit '/') with
  | [first, last] =>
    match net.tryParse ipText, net.tryParse first, intTryParse last with
    | some ip, some network, some length =>
      if ip.type ≠ network.type then .ok false
      else sameNetwork ip.rawAddress network.rawAddress length
    | _, _, _ => .ok false
  | _ => .ok false

/-- `subnets.any((subnet) => _ipInSubnet(address, subnet))`. -/
def inAnySubnet (address : Text) : List Text → Try Bool
  | [] => .ok false
  | subnet :: rest => do
      if ← ipInSubnet net address subnet then return true else inAnySubnet address rest

/-! ## Local networks -/

/-- The shortest prefix that is a LAN, or more than any prefix. -/
def minimumPrefix (type : InternetAddressType) (bytes : List UInt8) : Int :=
  let first := bytes.getD 0 0
  let second := bytes.getD 1 0
  if type = .IPv4 then
    if first = 10 then 8
    else if first = 172 ∧ 16 ≤ second ∧ second ≤ 31 then 12
    else if first = 192 ∧ second = 168 then 16
    else 33
  else if first &&& 0xfe = 0xfc then 7 else 129

/-- What is left of the byte at an index. -/
def maskAt (length : Int) (index : Nat) : UInt8 :=
  let bits := max 0 (min 8 (length - index * 8))
  if bits = 0 then 0 else UInt8.ofNat ((0xff <<< (8 - bits).toNat) &&& 0xff)

def normalizePokrovLanSubnet (raw : Text) : Option Text :=
  let value := trim raw
  if 64 < value.length ∨ value.any fun u => isPatternSpace u || u = unit '%' then none
  else
    match value.splitOn (unit '/') with
    | [first, last] =>
      if 1 ≤ last.length ∧ last.length ≤ 3 ∧ last.all isDigit then
        match net.tryParse first, intTryParse last with
        | some address, some length =>
          let bytes := address.rawAddress
          if length < minimumPrefix address.type bytes ∨
              maximumPrefix address.type < length then none
          else
            let masked := bytes.mapIdx fun index b => b &&& maskAt length index
            some (net.textOfRaw masked ++ unit '/' :: encodeInt length)
        | _, _ => none
      else none
    | _ => none

/-- The classes of addresses that `_isLocalDestination` names. -/
def localNetworks : List Text :=
  ["10.0.0.0/8", "172.16.0.0/12", "192.168.0.0/16", "127.0.0.0/8", "169.254.0.0/16",
    "224.0.0.0/4", "0.0.0.0/32", "fc00::/7", "fe80::/10", "ff00::/8", "::1/128", "::/128"].map text

/-- An IPv4 address that is written as an IPv6 address. -/
def isMapped (bytes : List UInt8) : Bool :=
  bytes.length = 16 && (bytes.take 10).all (· = 0) && bytes.getD 10 0 = 0xff &&
    bytes.getD 11 0 = 0xff

/-- `_isLocalDestination`. -/
def isLocalDestination (value : Text) : Try Bool :=
  match net.tryParse value with
  | none => .ok false
  | some address =>
    let bytes := address.rawAddress
    let shown := if isMapped bytes then net.textOfRaw (bytes.drop 12) else address.address
    inAnySubnet net shown localNetworks

/-- Each item of a set is normalized, and one that is no subnet refuses them all. -/
def readLanItems : List Document → Option (List Text)
  | [] => some []
  | .string item :: rest => do
      let subnet ← normalizePokrovLanSubnet net item
      let subnets ← readLanItems rest
      return subnet :: subnets
  | _ :: _ => none

/-- `_readLanSubnets`. -/
def readLanSubnets : Document → List Text
  | .list value =>
    if 16 < value.length then []
    else ((readLanItems net value).getD []).dedup.insertionSort (· ≤ ·)
  | _ => []

end

end Pokrov.AppShell
