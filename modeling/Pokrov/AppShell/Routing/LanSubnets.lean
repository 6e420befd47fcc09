import Mathlib.Data.List.Dedup
import Pokrov.AppShell.CanonicalText
import Pokrov.AppShell.Routing.Explanation
import Pokrov.Lib.BitPrefixes
import Pokrov.Lib.Results

/-!
# LAN exceptions stay local

A network that `normalizePokrovLanSubnet` lets through is one of the private networks or
lies inside one, and both tests of an address against it read the same bits.
-/

namespace Pokrov.AppShell

open Dart BitPrefixes JsonText Results

/-! ## The networks that the code names -/

structure LocalNetwork where
  host : String
  type : InternetAddressType
  bytes : List UInt8
  length : Nat

def LocalNetwork.text (network : LocalNetwork) : Text :=
  Dart.text network.host ++ unit '/' :: decimal network.length

/-- RFC 1918 and the unique local addresses of IPv6. -/
def lanNetworks : List LocalNetwork :=
  [⟨"10.0.0.0", .IPv4, [10, 0, 0, 0], 8⟩, ⟨"172.16.0.0", .IPv4, [172, 16, 0, 0], 12⟩,
    ⟨"192.168.0.0", .IPv4, [192, 168, 0, 0], 16⟩,
    ⟨"fc00::", .IPv6, 0xfc :: List.replicate 15 0, 7⟩]

/-- The classes of `localNetworks`. -/
def namedNetworks : List LocalNetwork :=
  [⟨"10.0.0.0", .IPv4, [10, 0, 0, 0], 8⟩, ⟨"172.16.0.0", .IPv4, [172, 16, 0, 0], 12⟩,
    ⟨"192.168.0.0", .IPv4, [192, 168, 0, 0], 16⟩, ⟨"127.0.0.0", .IPv4, [127, 0, 0, 0], 8⟩,
    ⟨"169.254.0.0", .IPv4, [169, 254, 0, 0], 16⟩, ⟨"224.0.0.0", .IPv4, [224, 0, 0, 0], 4⟩,
    ⟨"0.0.0.0", .IPv4, [0, 0, 0, 0], 32⟩, ⟨"fc00::", .IPv6, 0xfc :: List.replicate 15 0, 7⟩,
    ⟨"fe80::", .IPv6, 0xfe :: 0x80 :: List.replicate 14 0, 10⟩,
    ⟨"ff00::", .IPv6, 0xff :: List.replicate 15 0, 8⟩,
    ⟨"::1", .IPv6, List.replicate 15 0 ++ [1], 128⟩, ⟨"::", .IPv6, List.replicate 16 0, 128⟩]

theorem localNetworks_eq : localNetworks = namedNetworks.map LocalNetwork.text := by decide

/-- The units of an address that is written in numbers. -/
def isAddressUnit (u : UInt16) : Bool :=
  isLowerHex u || u = unit '.' || u = unit ':'

/-- Addresses are read and written as what they are. -/
structure Faithful (net : InternetAddresses) : Prop where
  reparsed : ∀ {s a}, net.tryParse s = some a →
    ∃ b, net.tryParse a.address = some b ∧ b.type = a.type ∧ b.rawAddress = a.rawAddress
  printed : ∀ (type : InternetAddressType) (bytes : List UInt8), bytes.length = type.length →
    ∃ a, net.tryParse (net.textOfRaw bytes) = some a ∧ a.type = type ∧ a.rawAddress = bytes
  plain : ∀ (type : InternetAddressType) (bytes : List UInt8), bytes.length = type.length →
    (net.textOfRaw bytes).length ≤ 45 ∧ (net.textOfRaw bytes).all isAddressUnit = true
  named : ∀ network ∈ namedNetworks, ∃ a, net.tryParse (text network.host) = some a ∧
    a.type = network.type ∧ a.rawAddress = network.bytes

/-- An address is in a network: it starts with the same bits. -/
def InNetwork (ip : InternetAddress) (type : InternetAddressType) (bytes : List UInt8)
    (length : Nat) : Prop :=
  ip.type = type ∧ (bits ip.rawAddress).take length = (bits bytes).take length

instance (ip : InternetAddress) (type : InternetAddressType) (bytes : List UInt8)
    (length : Nat) : Decidable (InNetwork ip type bytes length) :=
  inferInstanceAs (Decidable (_ ∧ _))

/-! ## Comparing bytes -/

variable {bytes : List UInt8} {n : Nat}

theorem byteAt_of_lt {i : Nat} (h : i < bytes.length) : byteAt bytes i = .ok bytes[i] := by
  have hpos : ¬ (i : Int) < 0 := by omega
  rw [byteAt, if_neg hpos, Int.toNat_natCast, List.getElem?_eq_getElem h]

theorem sameBytes_spec {ip network : List UInt8} {indices : List Nat}
    (hip : ∀ i ∈ indices, i < ip.length) (hnetwork : ∀ i ∈ indices, i < network.length) :
    sameBytes ip network indices = .ok (indices.all fun i => ip[i]? == network[i]?) := by
  induction indices with
  | nil => rfl
  | cons i rest ih =>
    have h1 := hip i List.mem_cons_self
    have h2 := hnetwork i List.mem_cons_self
    have hrest := ih (fun j hj => hip j (List.mem_cons_of_mem _ hj))
      fun j hj => hnetwork j (List.mem_cons_of_mem _ hj)
    rw [sameBytes, byteAt_of_lt h1, byteAt_of_lt h2, List.all_cons,
      List.getElem?_eq_getElem h1, List.getElem?_eq_getElem h2]
    by_cases heq : ip[i] = network[i]
    · show (if ip[i] ≠ network[i] then _ else sameBytes ip network rest) = _
      rw [if_neg (not_not.mpr heq), hrest, heq]
      simp
    · show (if ip[i] ≠ network[i] then _ else sameBytes ip network rest) = _
      rw [if_pos heq]
      have hbeq : (some ip[i] == some network[i]) = false := by simp [heq]
      rw [hbeq]
      rfl

theorem sameBytes_range {ip network : List UInt8} (hlen : ip.length = network.length) {q : Nat}
    (hq : q ≤ ip.length) :
    sameBytes ip network (List.range q) = .ok (decide (ip.take q = network.take q)) := by
  rw [sameBytes_spec (fun i hi => by have := List.mem_range.mp hi; omega)
    fun i hi => by have := List.mem_range.mp hi; omega]
  refine congrArg Except.ok ?_
  rw [Bool.eq_iff_iff, decide_eq_true_iff, List.all_eq_true]
  constructor
  · intro h
    apply List.ext_getElem?
    intro i
    by_cases hi : i < q
    · simpa [List.getElem?_take, hi] using h i (List.mem_range.mpr hi)
    · simp [hi]
  · intro h i hi
    have hget := congrArg (·[i]?) h
    simpa [List.getElem?_take, List.mem_range.mp hi] using hget

theorem mask_eq {r : Nat} (h : r ≠ 0) :
    UInt8.ofNat ((0xff <<< ((8 : Int) - r).toNat) &&& 0xff) = mask r := by
  have hshift : ((8 : Int) - r).toNat = 8 - r := by omega
  rw [mask, if_neg h, hshift]

/-- The comparison of the bytes is one of the first bits. -/
theorem sameNetwork_spec {ip network : List UInt8} (hlen : ip.length = network.length)
    (hn : n ≤ 8 * ip.length) :
    sameNetwork ip network n = .ok (decide ((bits ip).take n = (bits network).take n)) := by
  have hq : (n : Int).tdiv 8 = (n / 8 : Nat) := rfl
  have hr : (n : Int).tmod 8 = (n % 8 : Nat) := rfl
  have hsplit : 8 * (n / 8) + n % 8 = n := Nat.div_add_mod n 8
  unfold sameNetwork
  rw [hq, hr]
  dsimp only
  rw [Int.toNat_natCast, sameBytes_range hlen (by omega)]
  by_cases hbytes : ip.take (n / 8) = network.take (n / 8)
  · by_cases hrest : n % 8 = 0
    · have hwhole : n = 8 * (n / 8) := by omega
      have hbits : (bits ip).take n = (bits network).take n := by
        rw [hwhole, take_bits_mul, take_bits_mul, hbytes]
      simp [hbytes, hrest, hbits, bind, Except.bind, pure, Except.pure]
    · have hlt : n / 8 < ip.length := by omega
      have hagree := take_bits_eq_iff hlen hlt (by omega : n % 8 ≤ 8)
      rw [hsplit] at hagree
      simp only [hagree, hbytes, true_and]
      rw [byteAt_of_lt hlt, byteAt_of_lt (hlen ▸ hlt), mask_eq hrest]
      have hne : ((n % 8 : Nat) : Int) ≠ 0 := by omega
      simp only [bind, Except.bind, decide_true, Bool.not_true, Bool.false_eq_true, if_false,
        if_neg hne, pure, Except.pure]
      rfl
  · have hbits : (bits ip).take n ≠ (bits network).take n := by
      intro h
      have hfewer := take_eq_take_mono (Nat.mul_div_le n 8) h
      rw [take_bits_mul, take_bits_mul, bits_inj (by simp [hlen])] at hfewer
      exact hbytes hfewer
    simp [hbytes, hbits, bind, Except.bind, pure, Except.pure]

/-! ## Reading a network -/

theorem splitOn_two {sep : UInt16} {first last : Text} (hfirst : sep ∉ first)
    (hlast : sep ∉ last) : (first ++ sep :: last).splitOn sep = [first, last] := by
  rw [List.splitOn_append_cons_self, List.splitOn_eq_singleton hfirst,
    List.splitOn_eq_singleton hlast]
  rfl

theorem slash_notMem_decimal (n : Nat) : unit '/' ∉ decimal n := by
  intro hmem
  exact absurd (List.all_eq_true.mp (all_decimal n) _ hmem) (by decide)

variable {net : InternetAddresses}

/-- What `_ipInSubnet` says of a network that is written as an address and a length. -/
theorem ipInSubnet_spec {ipText first : Text} {ip network : InternetAddress}
    (hip : net.tryParse ipText = some ip) (hslash : unit '/' ∉ first)
    (hnetwork : net.tryParse first = some network) (hn : n ≤ 8 * network.type.length) :
    ipInSubnet net ipText (first ++ unit '/' :: decimal n) =
      .ok (decide (InNetwork ip network.type network.rawAddress n)) := by
  have hsmall : n < 2 ^ 63 := by
    have hlength : network.type.length ≤ 16 := by cases network.type <;> decide
    omega
  unfold ipInSubnet
  rw [splitOn_two hslash (slash_notMem_decimal n)]
  simp only [hip, hnetwork, intTryParse_decimal hsmall]
  by_cases htype : ip.type = network.type
  · have hlen : ip.rawAddress.length = network.rawAddress.length := by
      rw [ip.length_rawAddress, network.length_rawAddress, htype]
    rw [if_neg (not_not.mpr htype),
      sameNetwork_spec hlen (by rw [ip.length_rawAddress, htype]; exact hn)]
    simp [InNetwork, htype]
  · rw [if_pos htype]
    simp [InNetwork, htype]

theorem ipInSubnet_none {ipText subnetText : Text} (hip : net.tryParse ipText = none) :
    ipInSubnet net ipText subnetText = .ok false := by
  unfold ipInSubnet
  split
  · simp [hip]
  · rfl

/-! ## Clearing -/

theorem maskAt_eq (length index : Nat) : maskAt length index = mask (min 8 (length - 8 * index)) := by
  have hbits : max 0 (min 8 ((length : Int) - index * 8)) = (min 8 (length - 8 * index) : Nat) := by
    omega
  unfold maskAt
  rw [hbits]
  by_cases hzero : min 8 (length - 8 * index) = 0
  · simp [hzero, mask]
  · rw [if_neg (by omega), mask_eq hzero]

/-- The loop clears all bits but the first. -/
theorem mapIdx_maskAt (bytes : List UInt8) (length : Nat) :
    (bytes.mapIdx fun index b => b &&& maskAt length index) = clear length bytes := by
  have hshifted : ∀ start, (bytes.mapIdx fun index b =>
      b &&& mask (min 8 (length - 8 * (start + index)))) = clear (length - 8 * start) bytes := by
    induction bytes with
    | nil => exact fun _ => rfl
    | cons b rest ih =>
      intro start
      have hrest := ih (start + 1)
      rw [show length - 8 * (start + 1) = length - 8 * start - 8 by omega] at hrest
      rw [List.mapIdx_cons, clear, ← hrest]
      simp only [Nat.add_zero, Nat.add_assoc, Nat.add_comm 1]
  simpa [maskAt_eq] using hshifted 0

/-! ## The private networks -/

theorem and_mask_eight (b : UInt8) : b &&& mask 8 = b := by
  have hmask : mask 8 = 255 := by decide
  rw [hmask]
  apply UInt8.toBitVec_inj.mp
  exact BitVec.and_allOnes

theorem and_mask_mask (b : UInt8) {m n : Nat} (hmn : m ≤ n) (hn : n ≤ 8) :
    b &&& mask n &&& mask m = b &&& mask m := by
  have hall : ∀ k ≤ 8, ∀ j ≤ k, mask k &&& mask j = mask j := by decide
  rw [UInt8.and_assoc, hall n hn m hmn]

/-- The second byte of `172.16.0.0/12`. -/
theorem and_mask_four (b : UInt8) : (16 ≤ b ∧ b ≤ 31) ↔ b &&& mask 4 = 16 := by
  have hall : ∀ n < 256, (16 ≤ UInt8.ofNat n ∧ UInt8.ofNat n ≤ 31) ↔
      UInt8.ofNat n &&& mask 4 = 16 := by decide +kernel
  simpa using hall b.toNat b.toNat_lt

theorem take_bits_cons {a b : UInt8} {as bs : List UInt8} :
    (bits (a :: as)).take (8 + n) = (bits (b :: bs)).take (8 + n) ↔
      a = b ∧ (bits as).take n = (bits bs).take n := by
  have hsplit : ∀ (c : UInt8) (cs : List UInt8), (bits (c :: cs)).take (8 + n) =
      byteBits c ++ (bits cs).take n := by
    intro c cs
    rw [bits_cons, List.take_append, length_byteBits, List.take_of_length_le (by simp),
      Nat.add_sub_cancel_left]
  rw [hsplit, hsplit]
  constructor
  · intro h
    obtain ⟨hbyte, hrest⟩ := List.append_inj h (by simp)
    exact ⟨byteBits_inj.mp hbyte, hrest⟩
  · rintro ⟨rfl, hrest⟩
    rw [hrest]

theorem take_bits_low {a b : UInt8} {as bs : List UInt8} (hn : n ≤ 8) :
    (bits (a :: as)).take n = (bits (b :: bs)).take n ↔ a &&& mask n = b &&& mask n := by
  rw [and_mask_eq_iff hn, bits_cons, bits_cons, List.take_append, List.take_append]
  simp [hn]

theorem exists_four (h : bytes.length = 4) : ∃ a b c d, bytes = [a, b, c, d] := by
  match bytes, h with
  | [a, b, c, d], _ => exact ⟨a, b, c, d, rfl⟩

theorem exists_first (h : bytes.length = 16) : ∃ a rest, bytes = a :: rest := by
  match bytes, h with
  | a :: rest, _ => exact ⟨a, rest, rfl⟩

theorem minimumPrefix_four (a b c d : UInt8) : minimumPrefix .IPv4 [a, b, c, d] =
    if a = 10 then 8 else if a = 172 ∧ 16 ≤ b ∧ b ≤ 31 then 12
    else if a = 192 ∧ b = 168 then 16 else 33 := rfl

theorem minimumPrefix_six (a : UInt8) (rest : List UInt8) : minimumPrefix .IPv6 (a :: rest) =
    if a &&& mask 7 = 0xfc then 7 else 129 := rfl

/-- A length that is let through is that of a private network, or more. -/
theorem exists_lan {type : InternetAddressType} (hlen : bytes.length = type.length)
    (hmin : minimumPrefix type bytes ≤ n) (hmax : n ≤ 8 * type.length) :
    ∃ lan ∈ lanNetworks, lan.type = type ∧ lan.length ≤ n ∧
      (bits bytes).take lan.length = (bits lan.bytes).take lan.length := by
  cases type with
  | IPv4 =>
    obtain ⟨a, b, c, d, rfl⟩ := exists_four hlen
    rw [minimumPrefix_four] at hmin
    split_ifs at hmin with hten hprivate htwo
    · refine ⟨_, List.mem_cons_self, rfl, by simpa using hmin, ?_⟩
      exact (take_bits_cons (n := 0)).mpr ⟨hten, rfl⟩
    · refine ⟨_, List.mem_cons_of_mem _ List.mem_cons_self, rfl, by simpa using hmin, ?_⟩
      have hsecond := (and_mask_four b).mp hprivate.2
      refine (take_bits_cons (n := 4)).mpr ⟨hprivate.1, ?_⟩
      exact (take_bits_low (by omega)).mpr hsecond
    · refine ⟨_, List.mem_cons_of_mem _ (List.mem_cons_of_mem _ List.mem_cons_self), rfl,
        by simpa using hmin, ?_⟩
      refine (take_bits_cons (n := 8)).mpr ⟨htwo.1, ?_⟩
      exact (take_bits_low (by omega)).mpr (by rw [htwo.2])
    · have hshort : n ≤ 32 := hmax
      omega
  | IPv6 =>
    obtain ⟨a, rest, rfl⟩ := exists_first hlen
    rw [minimumPrefix_six] at hmin
    split_ifs at hmin with hunique
    · refine ⟨_, List.mem_cons_of_mem _ (List.mem_cons_of_mem _ (List.mem_cons_of_mem _
        List.mem_cons_self)), rfl, by simpa using hmin, ?_⟩
      exact (take_bits_low (n := 7) (by omega)).mpr hunique
    · have hshort : n ≤ 128 := hmax
      omega

/-- What was cleared counts for nothing in the class of a network. -/
theorem minimumPrefix_clear {type : InternetAddressType} (hlen : bytes.length = type.length)
    (hmin : minimumPrefix type bytes ≤ n) (hmax : n ≤ 8 * type.length) :
    minimumPrefix type (clear n bytes) = minimumPrefix type bytes := by
  cases type with
  | IPv4 =>
    obtain ⟨a, b, c, d, rfl⟩ := exists_four hlen
    have hshort : n ≤ 32 := hmax
    rw [minimumPrefix_four] at hmin ⊢
    rw [clear, clear, clear, clear, clear, minimumPrefix_four]
    have hwhole : (8 : Int) ≤ n := by
      split_ifs at hmin <;> omega
    rw [Nat.min_eq_left (by omega : 8 ≤ n), and_mask_eight]
    split_ifs at hmin with hten hprivate htwo
    · rw [if_pos hten, if_pos hten]
    · have hkept : b &&& mask (min 8 (n - 8)) &&& mask 4 = 16 := by
        rw [and_mask_mask b (by omega) (by omega), (and_mask_four b).mp hprivate.2]
      rw [if_neg hten, if_neg hten, if_pos hprivate,
        if_pos ⟨hprivate.1, (and_mask_four _).mpr hkept⟩]
    · have height : min 8 (n - 8) = 8 := by omega
      rw [height, and_mask_eight]
    · omega
  | IPv6 =>
    obtain ⟨a, rest, rfl⟩ := exists_first hlen
    have hshort : n ≤ 128 := hmax
    rw [minimumPrefix_six] at hmin ⊢
    rw [clear, minimumPrefix_six]
    split_ifs at hmin with hunique
    · rw [and_mask_mask a (by omega) (by omega), if_pos hunique]
    · omega

/-! ## What a normalized network is -/

/-- The network that a text stands for. -/
def Denotes (net : InternetAddresses) (s : Text) (network : InternetAddress) (length : Nat) :
    Prop :=
  ∃ first last, (trim s).splitOn (unit '/') = [first, last] ∧
    net.tryParse first = some network ∧ intTryParse last = some (length : Int)

/-- The text that is kept for a network. -/
def lanText (net : InternetAddresses) (network : InternetAddress) (length : Nat) : Text :=
  net.textOfRaw (clear length network.rawAddress) ++ unit '/' :: decimal length

/-- The length of a network is one that is let through. -/
def IsLan (network : InternetAddress) (length : Nat) : Prop :=
  minimumPrefix network.type network.rawAddress ≤ length ∧ length ≤ 8 * network.type.length

theorem minimumPrefix_nonneg (type : InternetAddressType) (bytes : List UInt8) :
    0 ≤ minimumPrefix type bytes := by
  unfold minimumPrefix
  dsimp only
  split_ifs <;> decide

theorem maximumPrefix_eq (type : InternetAddressType) : maximumPrefix type = 8 * type.length := by
  cases type <;> rfl

theorem encodeInt_natCast (n : Nat) : encodeInt n = decimal n := by
  have hpos : ¬ (n : Int) < 0 := by omega
  rw [encodeInt_eq, if_neg hpos, Int.natAbs_natCast]

theorem normalizePokrovLanSubnet_spec {s n : Text} (h : normalizePokrovLanSubnet net s = some n) :
    ∃ network length, Denotes net s network length ∧ IsLan network length ∧
      n = lanText net network length := by
  unfold normalizePokrovLanSubnet at h
  dsimp only at h
  split at h
  · cases h
  · split at h
    · next first last hparts =>
      split at h
      · split at h
        · next network length hnetwork hlength =>
          split at h
          · cases h
          · next hrange =>
            rw [not_or, not_lt, not_lt] at hrange
            obtain ⟨k, rfl⟩ := Int.eq_ofNat_of_zero_le
              (le_trans (minimumPrefix_nonneg network.type network.rawAddress) hrange.1)
            refine ⟨network, k, ⟨first, last, hparts, hnetwork, hlength⟩, ⟨hrange.1, ?_⟩, ?_⟩
            · have hmax := hrange.2
              rw [maximumPrefix_eq] at hmax
              omega
            · rw [mapIdx_maskAt, encodeInt_natCast] at h
              exact (Option.some.inj h).symm
        · cases h
      · cases h
    · cases h

theorem isAddressUnit_iff {u : UInt16} : isAddressUnit u = true ↔
    48 ≤ u.toNat ∧ u.toNat ≤ 57 ∨ 97 ≤ u.toNat ∧ u.toNat ≤ 102 ∨ u.toNat = 46 ∨ u.toNat = 58 := by
  have hdigit : isDigit u = true ↔ 48 ≤ u.toNat ∧ u.toNat ≤ 57 := isDigit_iff
  have ha : (unit 'a').toNat = 97 := rfl
  have hf : (unit 'f').toNat = 102 := rfl
  have hdot : (unit '.').toNat = 46 := rfl
  have hcolon : (unit ':').toNat = 58 := rfl
  simp only [isAddressUnit, isLowerHex, Bool.or_eq_true, hdigit, between, Bool.and_eq_true,
    decide_eq_true_eq, UInt16.le_iff_toNat_le, ← UInt16.toNat_inj, ha, hf, hdot, hcolon]
  omega

theorem length_decimal (h : n < 1000) : 1 ≤ (decimal n).length ∧ (decimal n).length ≤ 3 := by
  have hsmall : ∀ {k : Nat}, k < 10 → (decimal k).length = 1 := by
    intro k hk
    rw [decimal_eq, if_pos hk]
    rfl
  have hmiddle : ∀ {k : Nat}, k < 100 → 1 ≤ (decimal k).length ∧ (decimal k).length ≤ 2 := by
    intro k hk
    by_cases hten : k < 10
    · simp [hsmall hten]
    · rw [decimal_eq, if_neg hten, List.length_append, hsmall (by omega)]
      exact ⟨by simp, by simp⟩
  by_cases hten : n < 10
  · simp [hsmall hten]
  · have hrest := hmiddle (k := n / 10) (by omega)
    rw [decimal_eq, if_neg hten, List.length_append, List.length_singleton]
    omega

section Faithful

variable (hnet : Faithful net) {network : InternetAddress} {length : Nat}

include hnet

/-- The text of a cleared network, read back. -/
theorem exists_cleared (network : InternetAddress) (length : Nat) :
    ∃ cleared, net.tryParse (net.textOfRaw (clear length network.rawAddress)) = some cleared ∧
      cleared.type = network.type ∧ cleared.rawAddress = clear length network.rawAddress :=
  hnet.printed network.type _ (by rw [length_clear, network.length_rawAddress])

theorem plain_cleared (network : InternetAddress) (length : Nat) :
    (net.textOfRaw (clear length network.rawAddress)).length ≤ 45 ∧
      ∀ u ∈ net.textOfRaw (clear length network.rawAddress), isAddressUnit u = true := by
  have hplain := hnet.plain network.type (clear length network.rawAddress)
    (by rw [length_clear, network.length_rawAddress])
  exact ⟨hplain.1, List.all_eq_true.mp hplain.2⟩

theorem slash_notMem_cleared (network : InternetAddress) (length : Nat) :
    unit '/' ∉ net.textOfRaw (clear length network.rawAddress) := fun hmem =>
  absurd ((plain_cleared hnet network length).2 _ hmem) (by decide)

/-- The units of the text are visible and no percent signs. -/
theorem visible_lanText (network : InternetAddress) (length : Nat) :
    ∀ u ∈ lanText net network length, 33 ≤ u.toNat ∧ u.toNat ≤ 126 ∧ u ≠ unit '%' := by
  have hpercent : (unit '%').toNat = 37 := rfl
  intro u hu
  rw [lanText, List.mem_append, List.mem_cons] at hu
  rw [Ne, ← UInt16.toNat_inj, hpercent]
  rcases hu with hu | rfl | hu
  · have hunit := isAddressUnit_iff.mp ((plain_cleared hnet network length).2 u hu)
    omega
  · decide
  · have hdigit := isDigit_iff.mp (List.all_eq_true.mp (all_decimal length) u hu)
    omega

/-- What was normalized is normal. -/
theorem normalize_lanText (h : IsLan network length) :
    normalizePokrovLanSubnet net (lanText net network length) =
      some (lanText net network length) := by
  obtain ⟨cleared, hparse, htype, hbytes⟩ := exists_cleared hnet network length
  have hmax : length ≤ 128 := by
    have hlength := h.2
    cases htype : network.type <;> simp [htype, InternetAddressType.length] at hlength <;> omega
  have hvisible := visible_lanText hnet network length
  have hspace : ∀ u ∈ lanText net network length, isWhitespace u = false := fun u hu =>
    isWhitespace_visible (hvisible u hu).1 (hvisible u hu).2.1
  have hshort : ¬ 64 < (lanText net network length).length := by
    have hdigits := (length_decimal (n := length) (by omega)).2
    have haddress := (plain_cleared hnet network length).1
    simp only [lanText, List.length_append, List.length_cons]
    omega
  have hunits : ¬ (lanText net network length).any (fun u => isPatternSpace u || u = unit '%') := by
    rw [Bool.not_eq_true, List.any_eq_false]
    intro u hu
    simp [isPatternSpace_of_isWhitespace (hspace u hu), (hvisible u hu).2.2]
  unfold normalizePokrovLanSubnet
  dsimp only
  rw [trim_of_forall hspace, if_neg (not_or.mpr ⟨hshort, hunits⟩), lanText,
    splitOn_two (slash_notMem_cleared hnet network length) (slash_notMem_decimal length)]
  dsimp only
  have hdigits := length_decimal (n := length) (by omega)
  rw [if_pos ⟨hdigits.1, hdigits.2, all_decimal length⟩, hparse,
    intTryParse_decimal (by omega)]
  dsimp only
  have hmin := minimumPrefix_clear network.length_rawAddress h.1 h.2
  have hrange : ¬ ((length : Int) < minimumPrefix cleared.type cleared.rawAddress ∨
      maximumPrefix cleared.type < length) := by
    have hlength := h.2
    rw [htype, hbytes, hmin, not_or, not_lt, not_lt, maximumPrefix_eq]
    exact ⟨h.1, by omega⟩
  rw [if_neg hrange, mapIdx_maskAt, hbytes, clear_clear, encodeInt_natCast]

variable {ipText : Text} {ip : InternetAddress} {subnet : Text}

/-- The kept text is the network that was written, for each address. -/
theorem ipInSubnet_lanText (h : IsLan network length) (hip : net.tryParse ipText = some ip) :
    ipInSubnet net ipText (lanText net network length) =
      .ok (decide (InNetwork ip network.type network.rawAddress length)) := by
  obtain ⟨cleared, hparse, htype, hbytes⟩ := exists_cleared hnet network length
  rw [lanText, ipInSubnet_spec hip (slash_notMem_cleared hnet network length) hparse
    (by rw [htype]; exact h.2)]
  refine congrArg Except.ok (decide_eq_decide.mpr ?_)
  rw [InNetwork, InNetwork, htype, hbytes, take_bits_clear]

omit hnet in
/-- The network lies inside a private one. -/
theorem exists_lan_of_isLan (h : IsLan network length) : ∃ lan ∈ lanNetworks,
    ∀ ip, InNetwork ip network.type network.rawAddress length →
      InNetwork ip lan.type lan.bytes lan.length := by
  obtain ⟨lan, hmem, htype, hle, hbits⟩ := exists_lan network.length_rawAddress h.1 h.2
  refine ⟨lan, hmem, fun ip hip => ⟨hip.1.trans htype.symm, ?_⟩⟩
  rw [← hbits]
  exact take_eq_take_mono hle hip.2

/-! ## Private addresses are local -/

theorem inAnySubnet_named {address : Text} (hip : net.tryParse address = some ip)
    {networks : List LocalNetwork} (hnamed : ∀ named ∈ networks, named ∈ namedNetworks) :
    inAnySubnet net address (networks.map LocalNetwork.text) =
      .ok (networks.any fun named => InNetwork ip named.type named.bytes named.length) := by
  have hplain : ∀ named ∈ namedNetworks, unit '/' ∉ text named.host ∧
      named.length ≤ 8 * named.type.length := by decide
  induction networks with
  | nil => rfl
  | cons named rest ih =>
    have hmem := hnamed named List.mem_cons_self
    obtain ⟨network, hparse, htype, hbytes⟩ := hnet.named named hmem
    have hspec := ipInSubnet_spec (n := named.length) hip (hplain named hmem).1 hparse
      (by rw [htype]; exact (hplain named hmem).2)
    rw [htype, hbytes] at hspec
    rw [List.map_cons, inAnySubnet, LocalNetwork.text, hspec,
      ih fun other hother => hnamed other (List.mem_cons_of_mem _ hother)]
    by_cases hin : InNetwork ip named.type named.bytes named.length
    · simp [hin, bind, Except.bind, pure, Except.pure]
    · simp [hin, bind, Except.bind]

/-- An address in one of the private networks. -/
def IsPrivate (ip : InternetAddress) : Prop :=
  ∃ lan ∈ lanNetworks, InNetwork ip lan.type lan.bytes lan.length

omit hnet in
theorem IsPrivate.not_mapped (h : IsPrivate ip) : isMapped ip.rawAddress = false := by
  obtain ⟨lan, hmem, htype, hbits⟩ := h
  rw [Bool.eq_false_iff]
  intro hmapped
  simp only [isMapped, Bool.and_eq_true, decide_eq_true_eq] at hmapped
  obtain ⟨⟨⟨hlen, hzero⟩, -⟩, -⟩ := hmapped
  have hsix : ip.type = .IPv6 := by
    have hlength := ip.length_rawAddress
    cases hcase : ip.type with
    | IPv4 =>
      rw [hcase, hlen] at hlength
      cases hlength
    | IPv6 => rfl
  obtain ⟨a, rest, hbytes⟩ := exists_first hlen
  have ha : a = 0 := by simpa [hbytes] using List.all_eq_true.mp hzero a (by simp [hbytes])
  rw [hsix] at htype
  simp only [lanNetworks, List.mem_cons, List.not_mem_nil, or_false] at hmem
  rcases hmem with rfl | rfl | rfl | rfl
  · cases htype
  · cases htype
  · cases htype
  · rw [hbytes, ha] at hbits
    have hfirst := (take_bits_low (n := 7) (by omega)).mp hbits
    exact absurd hfirst (by decide)

theorem IsPrivate.isLocal (hip : net.tryParse ipText = some ip) (h : IsPrivate ip) :
    isLocalDestination net ipText = .ok true := by
  obtain ⟨shown, hshown, htype, hbytes⟩ := hnet.reparsed hip
  have hany := inAnySubnet_named hnet hshown fun _ hmem => hmem
  unfold isLocalDestination
  simp only [hip, h.not_mapped]
  rw [localNetworks_eq]
  refine hany.trans (congrArg Except.ok ?_)
  obtain ⟨lan, hmem, hlan⟩ := h
  have hsubset : ∀ lan ∈ lanNetworks, lan ∈ namedNetworks := by
    simp [lanNetworks, namedNetworks]
  refine List.any_eq_true.mpr ⟨lan, hsubset lan hmem, decide_eq_true ?_⟩
  rwa [InNetwork, htype, hbytes]

/-! ## Preferences -/

omit hnet in
theorem mem_readLanItems {items : List Document} {subnets : List Text}
    (h : readLanItems net items = some subnets) (hmem : subnet ∈ subnets) :
    ∃ item, normalizePokrovLanSubnet net item = some subnet := by
  induction items generalizing subnets with
  | nil =>
    cases h
    cases hmem
  | cons item rest ih =>
    cases item with
    | string item =>
      rw [readLanItems] at h
      obtain ⟨first, hfirst, h⟩ := Option.bind_eq_some_iff.mp h
      obtain ⟨others, hothers, h⟩ := Option.bind_eq_some_iff.mp h
      cases h
      rcases List.mem_cons.mp hmem with rfl | hmem
      · exact ⟨item, hfirst⟩
      · exact ih hothers hmem
    | null | bool _ | int _ | double _ | list _ | map _ => cases h

omit hnet in
theorem mem_readLanSubnets {value : Document} (h : subnet ∈ readLanSubnets net value) :
    ∃ item, normalizePokrovLanSubnet net item = some subnet := by
  unfold readLanSubnets at h
  split at h
  · next items =>
    split at h
    · cases h
    · rw [List.mem_insertionSort, List.mem_dedup] at h
      cases hitems : readLanItems net items with
      | none =>
        rw [hitems] at h
        cases h
      | some subnets =>
        rw [hitems] at h
        exact mem_readLanItems hitems h
  · cases h

omit hnet in
theorem mem_enabledLanSubnets {preferences : PokrovRoutingPreferences} {subnets : List Text}
    (h : enabledLanSubnets net preferences = .ok subnets) (hmem : subnet ∈ subnets) :
    ∃ item, normalizePokrovLanSubnet net item = some subnet := by
  unfold enabledLanSubnets at h
  split at h
  · dsimp only at h
    split at h
    · cases h
    · cases h
      exact mem_readLanSubnets hmem
  · cases h
    cases hmem

/-- An address that is in a subnet of the preferences. -/
theorem isPrivate_of_mem {item subnet : Text}
    (hsubnet : normalizePokrovLanSubnet net item = some subnet)
    (hin : ipInSubnet net ipText subnet = .ok true) :
    ∃ ip, net.tryParse ipText = some ip ∧ IsPrivate ip := by
  obtain ⟨network, length, -, hlan, rfl⟩ := normalizePokrovLanSubnet_spec hsubnet
  cases hip : net.tryParse ipText with
  | none =>
    rw [ipInSubnet_none hip] at hin
    cases hin
  | some ip =>
    rw [ipInSubnet_lanText hnet hlan hip] at hin
    obtain ⟨lan, hmem, hinside⟩ := exists_lan_of_isLan hlan
    exact ⟨ip, rfl, lan, hmem, hinside ip (of_decide_eq_true (Except.ok.inj hin))⟩

end Faithful

/-- `{'ip_cidr': lanSubnets, 'outbound': directTag}`, which is left out without subnets. -/
def lanRules (lanSubnets : List Text) (directTag : Text) : List Fields :=
  if lanSubnets = [] then []
  else [[(text "ip_cidr", .list (lanSubnets.map .string)), (text "outbound", .string directTag)]]

/-- `_routingList`. -/
def routingList : Document → List Document
  | .list items => items
  | _ => []

/-- An address is in one of the networks of a rule. -/
def CidrMatches (net : InternetAddresses) (rule : Fields) (ipText : Text) : Prop :=
  ∃ cidr, Document.string cidr ∈ routingList (rule.get "ip_cidr") ∧
    ipInSubnet net ipText cidr = .ok true

theorem mem_of_firstSubnet {address allowed : Text} {subnets : List Text}
    (h : firstSubnet net address subnets = .ok (some allowed)) :
    allowed ∈ subnets ∧ ipInSubnet net address allowed = .ok true := by
  induction subnets with
  | nil => cases h
  | cons subnet rest ih =>
    rw [firstSubnet] at h
    obtain ⟨inside, hinside, h⟩ := bind_eq_ok.mp h
    cases inside with
    | true =>
      cases h
      exact ⟨List.mem_cons_self, hinside⟩
    | false =>
      have hrest := ih h
      exact ⟨List.mem_cons_of_mem _ hrest.1, hrest.2⟩

/-- The reason for a LAN is given for nothing else. -/
theorem reason_lanDecision_none (destination : Text) :
    (lanDecision destination none).reason ≠ Reasons.lanDirect := by
  simp [lanDecision, Reasons.lanBlocked, Reasons.lanDirect]

theorem reason_overrideDecision (rule : PokrovRouteOverride) :
    (overrideDecision rule).reason ≠ Reasons.lanDirect := by
  unfold overrideDecision
  cases rule.action <;> simp [Reasons.overrideVpn, Reasons.overrideDirect, Reasons.lanDirect]

theorem reason_purposeDecision (purpose : PokrovPurposeRoute) :
    (purposeDecision purpose).reason ≠ Reasons.lanDirect := by
  cases purpose <;> decide +kernel

theorem reason_fallbackDecision (mode : RouteMode) :
    (fallbackDecision mode).reason ≠ Reasons.lanDirect := by
  cases mode <;> simp [fallbackDecision, Reasons.lanDirect]

theorem reason_remoteDecision {value : Text} {type : PokrovRouteMatchType}
    {preferences : PokrovRoutingPreferences} {mode : RouteMode} {decision : PokrovRouteDecision}
    (h : remoteDecision net value type preferences mode = .ok decision) :
    decision.reason ≠ Reasons.lanDirect := by
  obtain ⟨rule, -, h⟩ := bind_eq_ok.mp h
  cases rule with
  | some rule =>
    cases h
    exact reason_overrideDecision rule
  | none =>
    dsimp only at h
    split at h
    · split at h
      · cases h
        exact reason_purposeDecision _
      · cases h
        exact reason_fallbackDecision mode
    · cases h
      exact reason_fallbackDecision mode

variable {toLowerCase : Text → Text}

theorem explain_lanDirect {destination : Text} {preferences : PokrovRoutingPreferences}
    {mode : RouteMode} {decision : PokrovRouteDecision}
    (h : explainPokrovRouteDecision toLowerCase net destination preferences mode = .ok decision)
    (hreason : decision.reason = Reasons.lanDirect) :
    ∃ value subnets allowed, normalizeRouteMatch toLowerCase net destination = some (value, .ip) ∧
      enabledLanSubnets net preferences = .ok subnets ∧ allowed ∈ subnets ∧
      ipInSubnet net value allowed = .ok true := by
  unfold explainPokrovRouteDecision at h
  split at h
  · cases h
    exact absurd hreason (reason_fallbackDecision mode)
  · next value type hnormal =>
    obtain ⟨isLocal, hlocal, h⟩ := bind_eq_ok.mp h
    cases isLocal with
    | false => exact absurd hreason (reason_remoteDecision h)
    | true =>
      obtain ⟨subnets, hsubnets, h⟩ := bind_eq_ok.mp h
      obtain ⟨allowed, hallowed, h⟩ := bind_eq_ok.mp h
      cases h
      cases allowed with
      | none => exact absurd hreason (reason_lanDecision_none value)
      | some allowed =>
        have hmem := mem_of_firstSubnet hallowed
        cases type with
        | ip => exact ⟨value, subnets, allowed, hnormal, hsubnets, hmem⟩
        | domain => cases hlocal
        | subnet => cases hlocal

theorem mem_of_lanRules {subnets : List Text} {directTag : Text} {rule : Fields}
    (h : rule ∈ lanRules subnets directTag) {cidr : Text}
    (hcidr : Document.string cidr ∈ routingList (rule.get "ip_cidr")) : cidr ∈ subnets := by
  unfold lanRules at h
  split at h
  · cases h
  · rw [List.mem_singleton.mp h] at hcidr
    have hvalue : Fields.get [(text "ip_cidr", Document.list (subnets.map .string)),
        (text "outbound", .string directTag)] "ip_cidr" = .list (subnets.map .string) := rfl
    rw [hvalue, routingList] at hcidr
    obtain ⟨other, hmem, heq⟩ := List.mem_map.mp hcidr
    cases heq
    exact hmem

/-! ## Addresses in numbers

A library that reads IPv4 addresses as they are written everywhere, and IPv6 addresses as
thirty-two digits or as one of the named ones. -/

def readOctet (s : Text) : Option UInt8 :=
  if number s < 256 ∧ decimal (number s) = s then some (UInt8.ofNat (number s)) else none

def dotted (bytes : List UInt8) : Text :=
  List.intercalate [unit '.'] (bytes.map fun b => decimal b.toNat)

def readDotted (s : Text) : Option InternetAddress := do
  let bytes ← (s.splitOn (unit '.')).mapM readOctet
  if h : bytes.length = 4 then some ⟨.IPv4, bytes, s, h⟩ else none

def hexText (bytes : List UInt8) : Text :=
  bytes.flatMap fun b => [lowerHexDigit (b.toNat / 16), lowerHexDigit (b.toNat % 16)]

def readHexBytes : Text → Option (List UInt8)
  | [] => some []
  | a :: b :: rest => do
      let high ← hexValue a
      let low ← hexValue b
      let bytes ← readHexBytes rest
      return UInt8.ofNat (high * 16 + low) :: bytes
  | _ => none

def readHexAddress (s : Text) : Option InternetAddress := do
  let bytes ← readHexBytes s
  if h : bytes.length = 16 then some ⟨.IPv6, bytes, s, h⟩ else none

def readNamed (s : Text) : Option InternetAddress := do
  let named ← namedNetworks.find? fun named => text named.host = s
  if h : named.bytes.length = named.type.length then some ⟨named.type, named.bytes, s, h⟩ else none

def numericAddresses : InternetAddresses where
  tryParse s := (readDotted s).or ((readHexAddress s).or (readNamed s))
  textOfRaw bytes := if bytes.length = 4 then dotted bytes else
    match namedNetworks.find? fun named => named.bytes = bytes with
    | some named => text named.host
    | none => hexText bytes

theorem readOctet_decimal (b : UInt8) : readOctet (decimal b.toNat) = some b := by
  have hlt : b.toNat < 256 := b.toNat_lt
  rw [readOctet, number_decimal, if_pos ⟨hlt, rfl⟩, UInt8.ofNat_toNat]

theorem dot_notMem_decimal (n : Nat) : unit '.' ∉ decimal n := fun hmem =>
  absurd (List.all_eq_true.mp (all_decimal n) _ hmem) (by decide)

theorem readDotted_dotted (a b c d : UInt8) : ∃ ip, readDotted (dotted [a, b, c, d]) = some ip ∧
    ip.type = .IPv4 ∧ ip.rawAddress = [a, b, c, d] := by
  have hparts : (dotted [a, b, c, d]).splitOn (unit '.') =
      [decimal a.toNat, decimal b.toNat, decimal c.toNat, decimal d.toNat] := by
    have htext : dotted [a, b, c, d] = decimal a.toNat ++ unit '.' :: (decimal b.toNat ++
        unit '.' :: (decimal c.toNat ++ unit '.' :: decimal d.toNat)) := by
      simp [dotted, List.intercalate, List.intersperse]
    rw [htext, List.splitOn_append_cons_self, List.splitOn_append_cons_self,
      splitOn_two (dot_notMem_decimal _) (dot_notMem_decimal _),
      List.splitOn_eq_singleton (dot_notMem_decimal _),
      List.splitOn_eq_singleton (dot_notMem_decimal _)]
    rfl
  have hbytes : ((dotted [a, b, c, d]).splitOn (unit '.')).mapM readOctet = some [a, b, c, d] := by
    rw [hparts]
    simp [List.mapM_cons, readOctet_decimal]
  exact ⟨⟨.IPv4, [a, b, c, d], dotted [a, b, c, d], rfl⟩, by simp [readDotted, hbytes], rfl, rfl⟩

theorem hexText_units (bytes : List UInt8) : ∀ u ∈ hexText bytes, isLowerHex u = true := by
  have hall : ∀ n < 16, isLowerHex (lowerHexDigit n) = true := by decide
  intro u hu
  obtain ⟨b, -, hu⟩ := List.mem_flatMap.mp hu
  have hlt : b.toNat < 256 := b.toNat_lt
  rcases List.mem_pair.mp hu with rfl | rfl
  · exact hall _ (by omega)
  · exact hall _ (by omega)

theorem readHexBytes_hexText (bytes : List UInt8) : readHexBytes (hexText bytes) = some bytes := by
  induction bytes with
  | nil => rfl
  | cons b rest ih =>
    have hlt : b.toNat < 256 := b.toNat_lt
    have hvalue : UInt8.ofNat (b.toNat / 16 * 16 + b.toNat % 16) = b := by
      rw [Nat.div_add_mod', UInt8.ofNat_toNat]
    have htext : hexText (b :: rest) = lowerHexDigit (b.toNat / 16) ::
        lowerHexDigit (b.toNat % 16) :: hexText rest := rfl
    rw [htext, readHexBytes, hexValue_lowerHexDigit (by omega), hexValue_lowerHexDigit (by omega), ih]
    exact congrArg (fun byte => some (byte :: rest)) hvalue

/-- One part is no IPv4 address. -/
theorem readDotted_none {s : Text} (h : unit '.' ∉ s) : readDotted s = none := by
  rw [readDotted, List.splitOn_eq_singleton h]
  cases hoctet : readOctet s with
  | none => simp [List.mapM_cons, hoctet]
  | some b => simp [List.mapM_cons, hoctet]

theorem readHexAddress_hexText {bytes : List UInt8} (h : bytes.length = 16) :
    numericAddresses.tryParse (hexText bytes) = some ⟨.IPv6, bytes, hexText bytes, h⟩ := by
  have hdot : unit '.' ∉ hexText bytes := fun hmem =>
    absurd (hexText_units bytes _ hmem) (by decide)
  show (readDotted (hexText bytes)).or ((readHexAddress (hexText bytes)).or _) = _
  rw [readDotted_none hdot, readHexAddress, readHexBytes_hexText]
  simp [h]

theorem address_tryParse {s : Text} {a : InternetAddress}
    (h : numericAddresses.tryParse s = some a) : a.address = s := by
  have hdotted : ∀ {b}, readDotted s = some b → b.address = s := by
    intro b hb
    obtain ⟨bytes, -, hb⟩ := Option.bind_eq_some_iff.mp hb
    split at hb <;> cases hb
    rfl
  have hhex : ∀ {b}, readHexAddress s = some b → b.address = s := by
    intro b hb
    obtain ⟨bytes, -, hb⟩ := Option.bind_eq_some_iff.mp hb
    split at hb <;> cases hb
    rfl
  have hnamed : ∀ {b}, readNamed s = some b → b.address = s := by
    intro b hb
    obtain ⟨named, -, hb⟩ := Option.bind_eq_some_iff.mp hb
    split at hb <;> cases hb
    rfl
  rcases Option.or_eq_some_iff.mp h with h | ⟨-, h⟩
  · exact hdotted h
  · rcases Option.or_eq_some_iff.mp h with h | ⟨-, h⟩
    · exact hhex h
    · exact hnamed h

theorem tryParse_dotted (a b c d : UInt8) : ∃ ip,
    numericAddresses.tryParse (dotted [a, b, c, d]) = some ip ∧ ip.type = .IPv4 ∧
      ip.rawAddress = [a, b, c, d] := by
  obtain ⟨ip, hip, htype, hbytes⟩ := readDotted_dotted a b c d
  refine ⟨ip, ?_, htype, hbytes⟩
  show (readDotted _).or _ = _
  rw [hip, Option.some_or]

theorem plain_dotted (a b c d : UInt8) : (dotted [a, b, c, d]).length ≤ 45 ∧
    (dotted [a, b, c, d]).all isAddressUnit = true := by
  have hlength : ∀ x : UInt8, (decimal x.toNat).length ≤ 3 := fun x =>
    (length_decimal (by have := x.toNat_lt; omega)).2
  have hunits : ∀ x : UInt8, (decimal x.toNat).all isAddressUnit = true := by
    intro x
    refine List.all_eq_true.mpr fun u hu => isAddressUnit_iff.mpr (.inl ?_)
    exact isDigit_iff.mp (List.all_eq_true.mp (all_decimal _) u hu)
  have hdot : isAddressUnit (unit '.') = true := by decide
  have htext : dotted [a, b, c, d] = decimal a.toNat ++ unit '.' :: (decimal b.toNat ++
      unit '.' :: (decimal c.toNat ++ unit '.' :: decimal d.toNat)) := by
    simp [dotted, List.intercalate, List.intersperse]
  constructor
  · have ha := hlength a
    have hb := hlength b
    have hc := hlength c
    have hd := hlength d
    rw [htext]
    simp only [List.length_append, List.length_cons]
    omega
  · rw [htext]
    simp only [List.all_append, List.all_cons, hunits, hdot, Bool.and_self]

theorem plain_hexText {bytes : List UInt8} (h : bytes.length = 16) :
    (hexText bytes).length ≤ 45 ∧ (hexText bytes).all isAddressUnit = true := by
  constructor
  · have hlength : (hexText bytes).length = 2 * bytes.length := by
      rw [hexText, List.length_flatMap, Nat.mul_comm]
      simp
    omega
  · refine List.all_eq_true.mpr fun u hu => ?_
    simp [isAddressUnit, hexText_units bytes u hu]

theorem tryParse_named : ∀ named ∈ namedNetworks,
    (numericAddresses.tryParse (text named.host)).map (fun a => (a.type, a.rawAddress)) =
      some (named.type, named.bytes) := by decide

theorem v6_named : ∀ named ∈ namedNetworks, named.bytes.length = 16 → named.type = .IPv6 := by
  decide

theorem plain_named : ∀ named ∈ namedNetworks, (text named.host).length ≤ 45 ∧
    (text named.host).all isAddressUnit = true := by decide

theorem textOfRaw_v6 {bytes : List UInt8} (h : bytes.length = 16) :
    numericAddresses.textOfRaw bytes = hexText bytes ∨
      ∃ named ∈ namedNetworks, named.bytes = bytes ∧
        numericAddresses.textOfRaw bytes = text named.host := by
  have hnot : bytes.length ≠ 4 := by omega
  simp only [numericAddresses, if_neg hnot]
  cases hfind : namedNetworks.find? fun named => named.bytes = bytes with
  | none => exact .inl rfl
  | some named =>
    exact .inr ⟨named, List.mem_of_find?_eq_some hfind, by simpa using List.find?_some hfind, rfl⟩

theorem faithful_numericAddresses : Faithful numericAddresses where
  reparsed := by
    intro s a h
    rw [address_tryParse h]
    exact ⟨a, h, rfl, rfl⟩
  printed := by
    intro type bytes hlen
    cases type with
    | IPv4 =>
      obtain ⟨a, b, c, d, rfl⟩ := exists_four hlen
      exact tryParse_dotted a b c d
    | IPv6 =>
      rcases textOfRaw_v6 hlen with htext | ⟨named, hmem, rfl, htext⟩
      · exact ⟨_, htext ▸ readHexAddress_hexText hlen, rfl, rfl⟩
      · obtain ⟨a, ha, heq⟩ := Option.map_eq_some_iff.mp (tryParse_named named hmem)
        obtain ⟨htype, hbytes⟩ := Prod.mk.inj heq
        exact ⟨a, htext ▸ ha, htype.trans (v6_named named hmem hlen), hbytes⟩
  plain := by
    intro type bytes hlen
    cases type with
    | IPv4 =>
      obtain ⟨a, b, c, d, rfl⟩ := exists_four hlen
      exact plain_dotted a b c d
    | IPv6 =>
      rcases textOfRaw_v6 hlen with htext | ⟨named, hmem, rfl, htext⟩
      · exact htext ▸ plain_hexText hlen
      · exact htext ▸ plain_named named hmem
  named := by
    intro network hmem
    obtain ⟨a, ha, heq⟩ := Option.map_eq_some_iff.mp (tryParse_named network hmem)
    obtain ⟨htype, hbytes⟩ := Prod.mk.inj heq
    exact ⟨a, ha, htype, hbytes⟩

/-! ## The exceptions of the user -/

/-- A LAN exception is normal, holds exactly the addresses of the network that was written,
which are local, and lies inside a private network. So neither the explanation nor the rule
for a LAN sends a public address direct, whatever the preferences hold. -/
theorem lan_exceptions_private (toLowerCase : Text → Text) {net : InternetAddresses}
    (hnet : Faithful net) :
    (∀ s n, normalizePokrovLanSubnet net s = some n →
      normalizePokrovLanSubnet net n = some n ∧
      (∃ network length, Denotes net s network length ∧ ∀ ipText ip, net.tryParse ipText = some ip →
        (ipInSubnet net ipText n = .ok true ↔
          InNetwork ip network.type network.rawAddress length)) ∧
      (∀ ipText, ipInSubnet net ipText n = .ok true → isLocalDestination net ipText = .ok true) ∧
      ∃ lan ∈ lanNetworks, ∀ ipText ip, net.tryParse ipText = some ip →
        ipInSubnet net ipText n = .ok true → InNetwork ip lan.type lan.bytes lan.length) ∧
    (∀ destination preferences mode decision,
      explainPokrovRouteDecision toLowerCase net destination preferences mode = .ok decision →
      decision.reason = Reasons.lanDirect → ∃ value ip,
        normalizeRouteMatch toLowerCase net destination = some (value, .ip) ∧
        net.tryParse value = some ip ∧ IsPrivate ip) ∧
    ∀ preferences subnets directTag, enabledLanSubnets net preferences = .ok subnets →
      ∀ rule ∈ lanRules subnets directTag, ∀ ipText, CidrMatches net rule ipText →
        ∃ ip, net.tryParse ipText = some ip ∧ IsPrivate ip := by
  refine ⟨?_, ?_, ?_⟩
  · intro s n hn
    have hprivate : ∀ ipText, ipInSubnet net ipText n = .ok true →
        ∃ ip, net.tryParse ipText = some ip ∧ IsPrivate ip :=
      fun _ hin => isPrivate_of_mem hnet hn hin
    obtain ⟨network, length, hdenotes, hlan, rfl⟩ := normalizePokrovLanSubnet_spec hn
    have hin : ∀ ipText ip, net.tryParse ipText = some ip →
        (ipInSubnet net ipText (lanText net network length) = .ok true ↔
          InNetwork ip network.type network.rawAddress length) := by
      intro ipText ip hip
      rw [ipInSubnet_lanText hnet hlan hip]
      simp
    obtain ⟨lan, hmem, hinside⟩ := exists_lan_of_isLan hlan
    refine ⟨normalize_lanText hnet hlan, ⟨network, length, hdenotes, hin⟩, ?_, lan, hmem, ?_⟩
    · intro ipText h
      obtain ⟨ip, hip, hpriv⟩ := hprivate ipText h
      exact IsPrivate.isLocal hnet hip hpriv
    · exact fun ipText ip hip h => hinside ip ((hin ipText ip hip).mp h)
  · intro destination preferences mode decision h hreason
    obtain ⟨value, subnets, allowed, hnormal, hsubnets, hmem, hin⟩ := explain_lanDirect h hreason
    obtain ⟨item, hitem⟩ := mem_enabledLanSubnets hsubnets hmem
    obtain ⟨ip, hip, hpriv⟩ := isPrivate_of_mem hnet hitem hin
    exact ⟨value, ip, hnormal, hip, hpriv⟩
  · intro preferences subnets directTag hsubnets rule hrule ipText hmatches
    obtain ⟨cidr, hcidr, hin⟩ := hmatches
    obtain ⟨item, hitem⟩ := mem_enabledLanSubnets hsubnets (mem_of_lanRules hrule hcidr)
    exact isPrivate_of_mem hnet hitem hin

theorem sampleLan_local :
    normalizePokrovLanSubnet numericAddresses (text " 172.20.1.2/14") =
        some (text "172.20.0.0/14") ∧
      isLocalDestination numericAddresses (text "172.21.0.9") = .ok true ∧
      normalizePokrovLanSubnet numericAddresses (text "fc00::/7") = some (text "fc00::/7") ∧
      isLocalDestination numericAddresses (text "fc00::") = .ok true := by
  obtain ⟨hlan, -, -⟩ := lan_exceptions_private id faithful_numericAddresses
  have hnormal : normalizePokrovLanSubnet numericAddresses (text " 172.20.1.2/14") =
      some (text "172.20.0.0/14") := by decide
  have hnormal' : normalizePokrovLanSubnet numericAddresses (text "fc00::/7") =
      some (text "fc00::/7") := by decide
  obtain ⟨-, -, hlocal, -⟩ := hlan _ _ hnormal
  obtain ⟨-, -, hlocal', -⟩ := hlan _ _ hnormal'
  exact ⟨hnormal, hlocal _ (by decide), hnormal', hlocal' _ (by decide)⟩

end Pokrov.AppShell
