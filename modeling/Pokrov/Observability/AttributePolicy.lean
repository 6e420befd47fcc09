import Pokrov.Dart.Document

/-!
# What the attributes of an event may say

`OperationalAttributePolicy`: the keys of each privacy class, and for each key the values
that the contract of the events knows. Sets of literals are lists.
-/

namespace Pokrov.Observability

open Dart

/-- `ArgumentError`, with the name of the argument where it gives one. -/
inductive ArgumentError
  | plain (message : String)
  | value (name : Text) (message : String)
deriving DecidableEq

/-- Whether a set of literals contains a text. -/
def anyOf (values : List String) (s : Text) : Bool := values.any fun value => text value = s

theorem anyOf_text {values : List String} {s : String} (h : s ∈ values) :
    anyOf values (text s) = true :=
  List.any_eq_true.mpr ⟨s, h, decide_eq_true rfl⟩

inductive ObservabilityPrivacyClass
  | localOperational | releaseHealth | supportBundle | serverSecurityAudit

/-! ## The contracts -/

/-- `ObservabilityAttributeKeys.allowed`. -/
def allowedAttributeKeys : List String :=
  ["api_failure_kind", "artifact_kind", "bundle_item_count", "bundle_size_bytes", "bytes_in",
   "bytes_out", "contract_sha256", "contract_version", "core_abi", "crash_signature", "dns_ready",
   "dropped_count", "duration_ms", "effective_mtu", "egress_ready", "error_count",
   "fallback_kind", "failure_kind", "failure_operation", "failure_reason", "from_version",
   "http_status", "interface_ready", "journal_kind", "manifest_version", "network_class",
   "offline_classification_elapsed_ms", "operation", "os_error_code", "permission_state", "phase",
   "preparation", "prepare_reason", "probe_stage", "http_64k_failure", "http_64k_observation",
   "probe_error", "queue_depth", "reason_class", "refresh_elapsed_ms", "retention_days",
   "retry_after_ms", "retry_count", "routes_ready", "segment_number", "selected_app_count",
   "status_class", "support_mode", "to_version", "update_channel"]

/-- The wire values of `PortalFailureReason`. -/
def portalFailureReasons : List String :=
  ["device_limit_reached", "device_limit_exceeded", "pairing_not_found", "pairing_code_invalid",
   "pairing_code_expired", "pairing_code_used", "device_already_registered",
   "device_identity_conflict", "device_invalid", "pairing_not_configured", "auth_session_expired",
   "fresh_auth_required", "device_recovery_required", "access_expired", "refresh_token_invalid",
   "refresh_reuse_detected", "refresh_expired", "session_revoked", "device_revoked",
   "device_credential_changed", "session_epoch_changed", "account_not_found",
   "account_unavailable", "account_restricted", "rate_limited", "service_unavailable",
   "node_capacity_exhausted", "email_otp_invalid", "email_otp_expired", "redeem_code_required",
   "subscription_link_not_redeem_code", "redeem_code_not_supported", "access_key_not_found",
   "access_key_revoked", "access_key_already_redeemed", "access_key_self_redeem",
   "access_key_type_unsupported", "terms_required", "promo_not_found", "promo_exhausted",
   "promo_expired", "promo_already_redeemed", "promo_invalid", "promo_campaign_restricted",
   "gift_code_invalid", "gift_code_not_found", "gift_code_revoked", "gift_code_type_unsupported",
   "gift_code_already_redeemed", "gift_code_self_redeem", "payment_pending",
   "payment_claim_reversed", "payment_manual_review", "payment_account_conflict",
   "active_access_required", "session_not_configured", "payment_not_redeemable",
   "gift_campaign_restricted"]

def connectionFailureOperations : List String :=
  ["managed_profile_stage", "core_connect", "tunnel_settle", "managed_profile_refresh",
   "qa_claim", "managed_profile", "routing_catalog", "auth_refresh", "redeem",
   "device_pairing_claim", "session_start_trial", "subscription_refresh", "email_otp_start",
   "email_otp_finish"]

def connectionClosedGuardCodes : List String :=
  ["request_socket", "request_http", "request_timeout", "candidate_selection_exhausted",
   "catalog_clock_rollback", "runtime_clock_unavailable", "runtime_busy",
   "network_context_unavailable", "connect_owner_changed", "core_identity_connect_unavailable",
   "catalog_native_control_unsupported", "invalid_connect_identity", "invalid_connect_deadline",
   "managed_profile_stage_failed", "smart_access_stage_identity_invalid",
   "profile_payload_invalid", "core_identity_stage_binding_mismatch",
   "core_identity_stage_superseded", "smart_access_stage_superseded", "connect_deadline",
   "operation_cancelled", "core_identity_connect_superseded",
   "core_identity_connect_unacknowledged", "core_identity_connect_mismatch",
   "core_identity_connect_cancel_unconfirmed", "smart_access_qa_binding_mismatch",
   "smart_access_qa_verification_failed", "smart_access_qa_response_invalid",
   "smart_access_qa_not_current", "smart_access_qa_superseded", "smart_access_qa_stage_changed",
   "smart_access_qa_scope_changed", "smart_access_qa_core_changed",
   "smart_access_qa_connect_unsupported"]

namespace OperationalAttributePolicy

def candidateHTTP64KFailures : List String :=
  ["write_error", "header_error", "body_short", "body_read_error"]

def candidateProbeStages : List String :=
  ["parse_profile", "create_instance", "start_instance", "select_outbound", "proxy_dial",
   "egress_check", "tls_handshake", "tls_read", "tls_write", "tls_processing",
   "tls_certificate_verified", "tls_complete", "http_204", "http_64k"]

def candidateProbeFailureKinds : List String :=
  ["none", "invalid_request", "invalid_profile", "unavailable", "start_failed", "probe_failed",
   "probe_budget_expired", "connect_failed", "data_stalled", "tls_failed", "unexpected_status",
   "timeout", "cancelled", "cancelled_before_dispatch", "prepare_timeout", "prepare_http",
   "prepare_socket", "prepare_tls", "prepare_failed", "prepare_route_policy_timeout",
   "prepare_managed_timeout", "prepare_materialize_timeout", "prepare_state_timeout",
   "probe_adapter_failed", "probe_channel_rejected", "probe_reply_invalid", "network_changed",
   "duplicate_probe"]

def booleanKeys : List String :=
  ["interface_ready", "routes_ready", "dns_ready", "egress_ready"]

def integerKeys : List String :=
  ["duration_ms", "refresh_elapsed_ms", "offline_classification_elapsed_ms", "retry_count",
   "retry_after_ms", "effective_mtu", "bytes_in", "bytes_out", "queue_depth", "dropped_count",
   "segment_number", "selected_app_count", "core_abi", "bundle_item_count", "bundle_size_bytes",
   "retention_days", "error_count", "http_status", "os_error_code"]

def releaseHealthKeys : List String :=
  ["phase", "duration_ms", "status_class", "network_class", "reason_class", "retry_count",
   "dropped_count", "core_abi", "update_channel", "artifact_kind", "error_count",
   "selected_app_count"]

def serverAuditKeys : List String :=
  ["operation", "duration_ms", "status_class", "reason_class", "retry_count", "error_count"]

def prepareReasons : List String :=
  ["access_preparing", "account_restricted", "acquisition_expired", "acquisition_replayed",
   "auth_session_expired", "candidate_selection_exhausted", "catalog_algorithm_invalid",
   "catalog_android_identity", "catalog_android_lineage", "catalog_app_scope_changed",
   "catalog_audience_mismatch", "catalog_blocked_service_direct", "catalog_browser_auto_direct",
   "catalog_cache_invalid", "catalog_cache_too_large", "catalog_cache_unavailable",
   "catalog_clock_rollback", "catalog_collection_invalid", "catalog_control_trust_unconfigured",
   "catalog_digest_mismatch", "catalog_disabled", "catalog_discovery_invalid",
   "catalog_discovery_too_large", "catalog_discovery_unavailable",
   "catalog_discovery_unsupported", "catalog_dns_lane_invalid", "catalog_domain_conflict",
   "catalog_domain_scope", "catalog_duplicate_evidence", "catalog_duplicate_network",
   "catalog_duplicate_service", "catalog_duplicate_source", "catalog_duplicate_windows_identity",
   "catalog_envelope_invalid", "catalog_evidence_service_mismatch", "catalog_fetch_superseded",
   "catalog_field_invalid", "catalog_full_coverage", "catalog_gateway_authority",
   "catalog_gateway_binding", "catalog_gateway_lease_missing", "catalog_gateway_pokrov",
   "catalog_gateway_scope", "catalog_gateway_service_not_eligible", "catalog_host_unsupported",
   "catalog_key_not_trusted", "catalog_local_dpi_authority", "catalog_local_dpi_control_scope",
   "catalog_native_control_unsupported", "catalog_native_targets_invalid",
   "catalog_native_window_unsupported", "catalog_nesting_invalid", "catalog_not_current",
   "catalog_payload_invalid", "catalog_policy_eligibility", "catalog_policy_expired",
   "catalog_preview_superseded", "catalog_probe_bootstrap_conflict",
   "catalog_process_dns_transport_unsupported", "catalog_process_scope_invalid",
   "catalog_profile_access_changed", "catalog_profile_access_invalid",
   "catalog_profile_binding_invalid", "catalog_profile_invalid", "catalog_projection_boolean",
   "catalog_projection_digest", "catalog_projection_domain", "catalog_projection_enum",
   "catalog_projection_id", "catalog_projection_lifetime", "catalog_projection_set",
   "catalog_projection_shape", "catalog_projection_text", "catalog_projection_time",
   "catalog_replacement_not_current", "catalog_response_invalid",
   "catalog_revision_floor_invalid", "catalog_revision_invalid", "catalog_rollback_rejected",
   "catalog_route_intent", "catalog_runtime_identity_invalid", "catalog_same_revision_changed",
   "catalog_schema_unsupported", "catalog_selected_service_unsupported",
   "catalog_selective_policy_required", "catalog_selective_unavailable",
   "catalog_service_revocation_invalid", "catalog_service_selection_changed",
   "catalog_service_selection_empty", "catalog_service_selection_scope",
   "catalog_service_stage_revoked", "catalog_session_changed", "catalog_shape_invalid",
   "catalog_shared_domain_not_routable", "catalog_signature_invalid", "catalog_source_url",
   "catalog_stage_revoked", "catalog_synthetic_production_evidence", "catalog_time_invalid",
   "catalog_too_large", "catalog_trust_unconfigured", "catalog_tun_scope_missing",
   "catalog_unknown_evidence_service", "catalog_unknown_source",
   "catalog_unverified_route_authority", "catalog_value_invalid", "catalog_verification_failed",
   "catalog_verified_evidence_missing", "catalog_windows_path_not_public",
   "catalog_windows_platform", "device_limit_exceeded", "device_recovery_required",
   "fresh_auth_required", "managed_profile_superseded", "node_capacity_exhausted",
   "routing_catalog_disabled", "routing_catalog_unavailable", "smart_access_budget_exhausted",
   "smart_access_capability_mismatch", "smart_access_clock_rollback",
   "smart_access_control_binding_mismatch", "smart_access_control_not_current",
   "smart_access_control_request_invalid", "smart_access_disabled",
   "smart_access_envelope_invalid", "smart_access_fetch_superseded", "smart_access_floor_invalid",
   "smart_access_grant_binding_mismatch", "smart_access_lease_invalid",
   "smart_access_lease_not_current", "smart_access_lease_scope_mismatch",
   "smart_access_native_binding_mismatch", "smart_access_native_projection_invalid",
   "smart_access_native_recovery_required", "smart_access_native_recovery_unsupported",
   "smart_access_native_tag_collision", "smart_access_native_unsupported",
   "smart_access_policy_invalid", "smart_access_policy_not_current",
   "smart_access_profile_already_leased", "smart_access_profile_changed",
   "smart_access_recovery_changed", "smart_access_recovery_requires_stopped_runtime",
   "smart_access_recovery_superseded", "smart_access_reference_invalid",
   "smart_access_relay_budget_invalid", "smart_access_renewal_binding_missing",
   "smart_access_renewal_revoked", "smart_access_renewal_scope_mismatch",
   "smart_access_renewal_superseded", "smart_access_request_invalid",
   "smart_access_response_invalid", "smart_access_restage_requires_fresh_profile",
   "smart_access_runtime_binding_missing", "smart_access_runtime_capability_expired",
   "smart_access_runtime_capability_invalid", "smart_access_runtime_inventory_full",
   "smart_access_runtime_origin_invalid", "smart_access_runtime_renewal_capability_expired",
   "smart_access_runtime_renewal_capability_invalid", "smart_access_runtime_storage_invalid",
   "smart_access_service_not_eligible", "smart_access_signature_invalid",
   "smart_access_stage_expired", "smart_access_stage_revoked", "smart_access_stage_unsupported",
   "smart_access_storage_unavailable", "smart_access_trust_unconfigured",
   "smart_access_verification_failed", "transport_https_required"]

/-- `_enums`. -/
def enums : List (String × List String) := [
  ("fallback_kind",
    ["timeout", "permitted_transient"]),
  ("api_failure_kind",
    ["origin_socket", "origin_http", "origin_tls", "origin_timeout", "origin_content_type",
     "origin_http_status", "origin_json_syntax", "origin_json_not_object",
     "origin_response_rejected", "request_socket", "request_http", "request_tls",
     "request_timeout"]),
  ("phase",
    ["bootstrap", "auth", "profile", "core", "tun", "routes", "dns", "egress", "recovery", "stop",
     "update", "support"]),
  ("operation",
    ["initialize", "connect", "disconnect", "reconnect", "verify", "install", "upload", "export",
     "recover", "refresh", "request"]),
  ("status_class",
    ["success", "client_error", "server_error", "timeout", "cancelled", "unavailable",
     "rate_limited", "invalid"]),
  ("network_class",
    ["unknown", "offline", "wifi", "ethernet", "cellular", "vpn"]),
  ("reason_class",
    ["unknown", "permission", "timeout", "integrity", "compatibility", "policy", "network",
     "provider", "operating_system", "user", "superseded"]),
  ("journal_kind",
    ["none", "runtime", "network", "update", "service"]),
  ("update_channel",
    ["direct", "store", "windows"]),
  ("artifact_kind",
    ["apk", "aab", "exe", "msix", "zip", "dll"]),
  ("permission_state",
    ["unknown", "required", "granted", "denied", "revoked"]),
  ("support_mode",
    ["off", "temporary"]),
  ("prepare_reason", prepareReasons),
  ("probe_stage", candidateProbeStages),
  ("http_64k_failure", candidateHTTP64KFailures),
  ("failure_kind", candidateProbeFailureKinds ++ connectionClosedGuardCodes),
  ("failure_operation", connectionFailureOperations),
  ("failure_reason", portalFailureReasons)]

/-! ## Values -/

/-- A string that is one of some literals. -/
def isOneOf (values : List String) : Document → Bool
  | .string s => anyOf values s
  | _ => false

/-- An integer within bounds. -/
def isBetween (low high : Int) : Document → Bool
  | .int n => decide (low ≤ n ∧ n ≤ high)
  | _ => false

/-- `value[key] as int`, where it is one. -/
def intOf (fields : Fields) (key : String) : Int :=
  match fields.get key with
  | .int n => n
  | _ => 0

def hasKey (fields : Fields) (key : String) : Bool := (fields.lookup (text key)).isSome

/-- `value is Map`, with its fields. -/
def entries : Document → Option Fields
  | .map fields => some fields
  | _ => none

def managedProfilePreparation (value : Document) : Option Fields := do
  let fields ← entries value
  if fields.keys.any (fun key => !anyOf ["stage", "elapsed_ms", "http_status"] key) ||
      !isOneOf ["session", "route_policy", "candidate_network", "api_origin", "http_connect",
        "http_headers", "http_body", "http_retry", "materialize", "state_read"]
        (fields.get "stage") ||
      !isBetween 0 3600000 (fields.get "elapsed_ms") ||
      (!(fields.get "http_status").isNull && !isBetween 100 599 (fields.get "http_status")) then
    none
  else
    some ([(text "stage", fields.get "stage"), (text "elapsed_ms", fields.get "elapsed_ms")] ++
      if (fields.get "http_status").isNull then []
      else [(text "http_status", fields.get "http_status")])

/-- The fields that every probe error has. -/
def probeErrorFields : List String :=
  ["operation", "cause", "cancel_state", "target", "request", "elapsed_ms", "stage_started_ms",
   "duration_ms"]

/-- The checks of `candidateProbeError` on a map, but for the primary error in it. -/
def isProbeError (allowPrimary : Bool) (fields : Fields) : Bool :=
  probeErrorFields.all (hasKey fields) &&
    fields.keys.all (fun key => anyOf probeErrorFields key || anyOf ["status", "os_error_code"] key ||
      (allowPrimary && decide (key = text "primary_error"))) &&
    isOneOf ["dial", "tls", "write", "read_headers", "read_body", "validate_response"]
      (fields.get "operation") &&
    isOneOf ["io", "timeout", "cancelled", "eof", "unexpected_eof", "closed", "dns",
      "tls_certificate", "invalid_response"] (fields.get "cause") &&
    isOneOf ["active", "deadline", "cancelled"] (fields.get "cancel_state") &&
    isOneOf ["owned_api", "owned_reserve"] (fields.get "target") &&
    isOneOf ["egress_204", "egress_64k"] (fields.get "request") &&
    ["elapsed_ms", "stage_started_ms", "duration_ms"].all (fun key =>
      isBetween 0 86400000 (fields.get key)) &&
    decide (intOf fields "stage_started_ms" ≤ intOf fields "duration_ms") &&
    decide (intOf fields "elapsed_ms" ≤ intOf fields "duration_ms") &&
    (!hasKey fields "status" || isBetween 100 599 (fields.get "status")) &&
    (!hasKey fields "os_error_code" || isBetween 1 2147483647 (fields.get "os_error_code"))

/-- `candidateProbeError`. The error of the primary target has no further one in it. -/
def candidateProbeError (value : Document) : Option Fields := do
  let fields ← entries value
  if !isProbeError true fields then none
  else if !hasKey fields "primary_error" then some fields
  else
    let primary ← entries (fields.get "primary_error")
    if isProbeError false primary && isOneOf ["owned_reserve"] (fields.get "target") &&
        isOneOf ["owned_api"] (primary.get "target") &&
        decide (intOf primary "duration_ms" ≤ intOf fields "duration_ms") then some fields
    else none

def candidateHTTP64KObservation (value : Document) : Option Fields := do
  let fields ← entries value
  if fields.length ≠ 4 || !isOneOf ["owned_api", "owned_reserve"] (fields.get "target") ||
      !isBetween 200 200 (fields.get "status") ||
      !isBetween 0 65535 (fields.get "received_bytes") ||
      !isBetween 65536 65536 (fields.get "expected_bytes") then none
  else
    some [(text "target", fields.get "target"), (text "status", .int 200),
      (text "received_bytes", fields.get "received_bytes"), (text "expected_bytes", .int 65536)]

/-! ## Patterns -/

/-- `[0-9]+\.[0-9]+\.[0-9]+(?:[-+][A-Za-z0-9.-]+)?`. -/
def isVersion (s : Text) : Bool :=
  let core := s.takeWhile fun u => isDigit u || u = unit '.'
  let rest := s.drop core.length
  (match pieces (unit '.') core with
    | [a, b, c] => !a.isEmpty && !b.isEmpty && !c.isEmpty
    | _ => false) &&
  (match rest with
    | [] => true
    | sign :: rest => (sign = unit '-' || sign = unit '+') && !rest.isEmpty &&
        rest.all fun u => isDigit u || isLower u || isUpper u || u = unit '.' || u = unit '-')

/-- Lower-case hexadecimal digits, as many as the bounds say. -/
def isHexOf (low high : Nat) (s : Text) : Bool :=
  decide (low ≤ s.length ∧ s.length ≤ high) && s.all isLowerHex

/-! ## Attributes -/

/-- The largest value of a key, where it has one. -/
def largest (key : Text) : Option Int :=
  if anyOf ["duration_ms", "retry_after_ms", "refresh_elapsed_ms",
      "offline_classification_elapsed_ms"] key then some 86400000
  else if key = text "retry_count" then some 100
  else if key = text "selected_app_count" then some 128
  else if key = text "bundle_item_count" then some 1000
  else if key = text "bundle_size_bytes" then some 268435456
  else if key = text "retention_days" then some 365
  else none

/-- What is wrong with a value that is above it. -/
def largestMessage (key : Text) : String :=
  if key = text "retry_count" then "Retry count outside contract"
  else if key = text "selected_app_count" then "Selected app count outside contract"
  else if key = text "bundle_item_count" then "Bundle item count outside contract"
  else if key = text "bundle_size_bytes" then "Bundle size outside contract"
  else if key = text "retention_days" then "Retention outside contract"
  else "Duration outside contract"

def validateInteger (key : Text) (value : Document) : Except ArgumentError Unit :=
  match value with
  | .int n =>
    if n < 0 then .error (.value key "Non-negative integer required")
    else if key = text "effective_mtu" ∧ (n < 576 ∨ 9000 < n) then
      .error (.value key "MTU outside contract")
    else if key = text "http_status" ∧ (n < 100 ∨ 599 < n) then
      .error (.value key "HTTP status outside contract")
    else if (largest key).any (fun bound => decide (bound < n)) then
      .error (.value key (largestMessage key))
    else .ok ()
  | _ => .error (.value key "Non-negative integer required")

def validateString (key : Text) (value : Document) : Except ArgumentError Unit :=
  match value with
  | .string s =>
    match enums.find? fun entry => text entry.1 = key with
    | some (_, values) =>
      if anyOf values s then .ok () else .error (.value key "Unknown enum value")
    | none =>
      if (anyOf ["manifest_version", "contract_version", "from_version", "to_version"] key &&
            isVersion s) ||
          (decide (key = text "contract_sha256") && isHexOf 64 64 s) ||
          (decide (key = text "crash_signature") && isHexOf 16 64 s) then .ok ()
      else .error (.value key "Value is outside contract")
  | _ => .error (.value key "String required")

/-- `_validateValue`. -/
def validateValue (key : Text) (value : Document) : Except ArgumentError Unit :=
  if key = text "preparation" then
    if (managedProfilePreparation value).isNone then .error (.plain "Invalid profile preparation")
    else .ok ()
  else if key = text "probe_error" then
    if (candidateProbeError value).isNone then .error (.plain "Invalid probe error") else .ok ()
  else if key = text "http_64k_observation" then
    if (candidateHTTP64KObservation value).isNone then .error (.plain "Invalid HTTP64 observation")
    else .ok ()
  else if anyOf booleanKeys key then
    match value with
    | .bool _ => .ok ()
    | _ => .error (.value key "Boolean required")
  else if anyOf integerKeys key then validateInteger key value
  else validateString key value

/-- The keys of a privacy class. -/
def allowedForMode : ObservabilityPrivacyClass → List String
  | .releaseHealth => releaseHealthKeys
  | .serverSecurityAudit => serverAuditKeys
  | .localOperational | .supportBundle => allowedAttributeKeys

/-- `OperationalAttributePolicy.validate`. -/
def validate (attributes : Fields) (privacyClass : ObservabilityPrivacyClass) :
    Except ArgumentError Unit :=
  if 12 < attributes.length then .error (.value (text "attributes") "")
  else if hasKey attributes "http_64k_observation" &&
      (!isOneOf ["probe_failed"] (attributes.get "failure_kind") ||
        !isOneOf ["http_64k"] (attributes.get "probe_stage") ||
        !isOneOf ["body_short", "body_read_error"] (attributes.get "http_64k_failure")) then
    .error (.plain "HTTP64 observation requires a failed body read")
  else attributes.forM fun (key, value) =>
    if !anyOf allowedAttributeKeys key || !anyOf (allowedForMode privacyClass) key then
      .error (.value (text "attributes") "Field is not allowed")
    else validateValue key value

end OperationalAttributePolicy

end Pokrov.Observability
