import Pokrov.AppShell.CanonicalPython
import Pokrov.AppShell.RecordValidity

/-!
# Responses of the transport endpoint

`decodeTransportManifestResponse` and `decodeTransportBootstrapResponse`: canonical
text and one newline. A value has one text that is accepted, and nothing of it is
written in another way.
-/

namespace Pokrov.AppShell

open Dart JsonText Results

def transportManifestResponseMaximumBytes : Nat := 2 * transportManifestMaximumBytes + 1024

def transportBootstrapResponseMaximumBytes : Nat := 4 * transportManifestMaximumBytes + 4096

def isString (value : Document) (s : String) : Bool := sameField value (.string (text s))

/-- `^[a-f0-9]{32}$`. -/
def isNonce : Document → Bool
  | .string value => decide (value.length = 32) && value.all isLowerHex
  | _ => false

/-- What both decoders do: a frozen map with the expected keys, whose canonical
text with a newline is the text that was read. -/
def decodeCanonical (maximum : Nat) (expected : List String) (valid : Fields → Bool) (raw : Text) :
    Try Fields := do
  refuseIf (maximum < raw.length ∨ maximum < utf8Length raw) "transport_response_too_large"
  let decoded ← (jsonDecode raw).elim (.error .other) .ok
  let value ← transportMap (← freeze decoded)
  keys value expected
  refuseIf (valid value = false ∨ raw ≠ canonical (.map value) ++ [10]) "transport_response_invalid"
  return value

/-- `decodeTransportBootstrapResponse`. -/
def decodeTransportBootstrapResponse (raw : Text) : Try Fields :=
  orTransport "transport_response_invalid" do
    let value ← decodeCanonical transportBootstrapResponseMaximumBytes
      ["schema", "manifest", "rollback", "floor", "observed_at", "request_nonce"]
      (fun value => isString (value.get "schema") "transport-bootstrap-response-v1" &&
        (value.get "manifest").isMap && (value.get "floor").isMap &&
        ((value.get "rollback").isNull || (value.get "rollback").isMap) &&
        isNonce (value.get "request_nonce")) raw
    let _ ← time (value.get "observed_at")
    return value

/-- `decodeTransportManifestResponse`. -/
def decodeTransportManifestResponse (raw : Text) : Try Fields :=
  orTransport "transport_response_invalid" do
    decodeCanonical transportManifestResponseMaximumBytes ["schema", "manifest", "rollback"]
      (fun value => isString (value.get "schema") "transport-manifest-response-v1" &&
        (value.get "manifest").isMap &&
        ((value.get "rollback").isNull || (value.get "rollback").isMap)) raw

/-- The decoders of responses. -/
def responseDecoders : List (Text → Try Fields) :=
  [decodeTransportBootstrapResponse, decodeTransportManifestResponse]

/-! ## What is accepted -/

theorem refuseIf_eq_ok {b : Prop} [Decidable b] {code : String} {a : Unit} :
    refuseIf b code = .ok a ↔ ¬ b := by
  unfold refuseIf
  by_cases h : b
  · rw [if_pos h]
    constructor
    · intro hok
      cases hok
    · exact fun hnot => absurd h hnot
  · rw [if_neg h]
    exact ⟨fun _ => h, fun _ => rfl⟩

variable {value : Document} {fields : Fields}

theorem transportMap_eq_ok : transportMap value = .ok fields ↔ value = .map fields := by
  cases value with
  | map other => simp [transportMap]
  | _ => simp [transportMap, throwTransport]

theorem decodeCanonical_eq_ok {maximum : Nat} {expected : List String} {valid : Fields → Bool}
    {raw : Text} (h : decodeCanonical maximum expected valid raw = .ok fields) :
    Frozen (.map fields) ∧ raw = canonical (.map fields) ++ [10] := by
  unfold decodeCanonical at h
  obtain ⟨-, -, h⟩ := bind_eq_ok.mp h
  obtain ⟨decoded, hdecoded, h⟩ := bind_eq_ok.mp h
  obtain ⟨frozen, hfrozen, h⟩ := bind_eq_ok.mp h
  obtain ⟨value, hvalue, h⟩ := bind_eq_ok.mp h
  obtain ⟨-, -, h⟩ := bind_eq_ok.mp h
  obtain ⟨⟨⟩, hexact, h⟩ := bind_eq_ok.mp h
  obtain rfl : value = fields := Except.ok.inj h
  have hdistinct : DistinctKeys decoded := by
    cases hread : jsonDecode raw with
    | none =>
      rw [hread] at hdecoded
      cases hdecoded
    | some read =>
      rw [hread] at hdecoded
      obtain rfl : read = decoded := Except.ok.inj hdecoded
      exact distinct_jsonDecode hread
  obtain ⟨rfl, hfrozen⟩ := frozen_of_freeze hdistinct hfrozen
  obtain rfl := transportMap_eq_ok.mp hvalue
  rw [refuseIf_eq_ok, not_or, ne_eq, not_not] at hexact
  exact ⟨hfrozen, hexact.2⟩

theorem responseDecoders_eq_ok {decode : Text → Try Fields} (hdecode : decode ∈ responseDecoders)
    {raw : Text} (h : decode raw = .ok fields) :
    Frozen (.map fields) ∧ raw = canonical (.map fields) ++ [10] := by
  rcases List.mem_pair.mp hdecode with rfl | rfl
  · rw [decodeTransportBootstrapResponse, orTransport_eq_ok] at h
    obtain ⟨value, hvalue, h⟩ := bind_eq_ok.mp h
    obtain ⟨-, -, h⟩ := bind_eq_ok.mp h
    obtain rfl : value = fields := Except.ok.inj h
    exact decodeCanonical_eq_ok hvalue
  · rw [decodeTransportManifestResponse, orTransport_eq_ok] at h
    exact decodeCanonical_eq_ok h

/-- A text without space but for a newline at its end, with strings, numbers and
keys as canonical text has them. -/
structure Exact (reading : Reading) : Prop where
  spaces : ∀ space ∈ reading.spaced.map Prod.fst, space = []
  last : reading.last = [10]
  tokens : ∀ token ∈ reading.node.tokens, IsCanonical token
  keys : Unrepeated reading.node

theorem exact_canonicalReading (h : Frozen value) :
    Exact (canonicalReading h [10] (by decide)) := by
  refine ⟨fun space hspace => ?_, rfl, tokens_canonicalNode h, unrepeated_canonicalNode h⟩
  obtain ⟨spaced, hspaced, rfl⟩ := List.mem_map.mp hspace
  obtain ⟨token, -, rfl⟩ := List.mem_map.mp hspaced
  rfl

/-- A text that is read as canonical text is read is exact. -/
theorem exact_of_text {reading : Reading} (h : Frozen value)
    (htext : reading.text = canonical value ++ [10]) : Exact reading := by
  have hcanonical := exact_canonicalReading h
  rw [← text_canonicalReading h [10] (by decide)] at htext
  obtain ⟨hnode, hspaced, hlast⟩ := Reading.unique htext
  constructor
  · rw [hspaced]
    exact hcanonical.spaces
  · rw [hlast]
    exact hcanonical.last
  · rw [hnode]
    exact hcanonical.tokens
  · rw [hnode]
    exact hcanonical.keys

theorem isPrintable_iff {u : UInt16} : isPrintable u = true ↔ 0x20 ≤ u ∧ u ≤ 0x7e := by
  simp only [isPrintable, Bool.and_eq_true, decide_eq_true_eq, UInt16.le_iff_toNat_le,
    UInt16.lt_iff_toNat_lt, UInt16.reduceToNat]
  omega

/-- Canonical text is read back, is ASCII and is what Python writes; no two values
have the same, and a response of the endpoint is accepted in no other form. -/
theorem canonical_exact :
    (∀ value frozen, DistinctKeys value → freeze value = .ok frozen →
      jsonDecode (canonical frozen) = some (arranged value) ∧
      (∀ u ∈ canonical frozen, 0x20 ≤ u ∧ u ≤ 0x7e) ∧
      canonical frozen = (Python.dumps (toPython value)).map unit) ∧
    (∀ value other frozen frozen', DistinctKeys value → DistinctKeys other →
      freeze value = .ok frozen → freeze other = .ok frozen' →
      (canonical frozen = canonical frozen' ↔ arranged value = arranged other)) ∧
    ∀ decode ∈ responseDecoders, ∀ raw fields, decode raw = .ok fields →
      (∀ raw' fields', decode raw' = .ok fields' →
        arranged (.map fields) = arranged (.map fields') → raw = raw') ∧
      (∃ reading : Reading, reading.text = raw) ∧
      ∀ reading : Reading, reading.text = raw → Exact reading := by
  refine ⟨fun value frozen hdistinct hfreeze => ?_, fun value other frozen frozen' hdistinct hdistinct'
    hfreeze hfreeze' => ?_, fun decode hdecode raw fields h => ?_⟩
  · obtain ⟨rfl, hfrozen⟩ := frozen_of_freeze hdistinct hfreeze
    refine ⟨?_, fun u hu => ?_, (dumps_toPython hfrozen).symm⟩
    · have hread := jsonDecode_canonical hfrozen [] rfl
      rw [List.append_nil] at hread
      exact hread
    · exact isPrintable_iff.mp (List.all_eq_true.mp (canonical_printable hfrozen) u hu)
  · obtain ⟨rfl, hfrozen⟩ := frozen_of_freeze hdistinct hfreeze
    obtain ⟨rfl, hfrozen'⟩ := frozen_of_freeze hdistinct' hfreeze'
    exact canonical_eq_iff hfrozen hfrozen'
  · obtain ⟨hfrozen, rfl⟩ := responseDecoders_eq_ok hdecode h
    refine ⟨fun raw' fields' h' hsame => ?_, ⟨_, text_canonicalReading hfrozen [10] (by decide)⟩,
      fun reading => exact_of_text hfrozen⟩
    obtain ⟨hfrozen', rfl⟩ := responseDecoders_eq_ok hdecode h'
    rw [(canonical_eq_iff hfrozen hfrozen').mpr hsame]

/-- A response without a rollback. -/
def someResponse : Text :=
  text "\x7b\"manifest\":\x7b\x7d,\"rollback\":null,\"schema\":\"transport-manifest-response-v1\"\x7d\n"

theorem someResponse_exact :
    ∃ reading : Reading, reading.text = someResponse ∧ Exact reading := by
  have haccepted : (decodeTransportManifestResponse someResponse).isOk = true := by decide +kernel
  cases hdecoded : decodeTransportManifestResponse someResponse with
  | error e =>
    rw [hdecoded] at haccepted
    cases haccepted
  | ok fields =>
    obtain ⟨-, ⟨reading, hreading⟩, hexact⟩ := canonical_exact.2.2 decodeTransportManifestResponse
      (List.mem_pair.mpr (.inr rfl)) someResponse fields hdecoded
    exact ⟨reading, hreading, hexact reading hreading⟩

end Pokrov.AppShell
