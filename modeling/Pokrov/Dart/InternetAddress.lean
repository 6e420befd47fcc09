import Pokrov.Dart.Parsing

/-!
# Internet addresses

What `dart:io` knows of a numeric address: its type, its bytes and its text.
-/

namespace Dart

inductive InternetAddressType
  | IPv4
  | IPv6
deriving DecidableEq

def InternetAddressType.length : InternetAddressType → Nat
  | IPv4 => 4
  | IPv6 => 16

structure InternetAddress where
  type : InternetAddressType
  rawAddress : List UInt8
  /-- The text. One that was parsed keeps the text that it was parsed from. -/
  address : Text
  length_rawAddress : rawAddress.length = type.length

/-- The part of `InternetAddress` that the app uses. -/
structure InternetAddresses where
  tryParse : Text → Option InternetAddress
  /-- `InternetAddress.fromRawAddress(bytes).address`. -/
  textOfRaw : List UInt8 → Text

end Dart
