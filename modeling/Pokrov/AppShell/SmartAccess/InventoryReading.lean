import Pokrov.AppShell.CatalogSuccession
import Pokrov.AppShell.SmartAccess.NativeJournal

/-!
# What an inventory gives back

An inventory that was written and can be read has the same entries: the same
profile, leases and catalog window, and what was received against them.
-/

namespace Pokrov.AppShell.SmartAccess

open Dart Results Stateful

/-! ## Fields -/

theorem stringsOf_map_string (values : List Text) : stringsOf (values.map .string) = some values := by
  induction values with
  | nil => rfl
  | cons value rest ih => simp [stringsOf, ih]

theorem storedServices_sorted {identity : Option CatalogRuntimeIdentity} {values ids : List Text}
    (h : SmartAccessRuntimeStore.storedServices identity (CatalogRuntimeIdentity.sorted values) =
      .ok ids) : ids.Perm values := by
  simp only [SmartAccessRuntimeStore.storedServices, CatalogRuntimeIdentity.sorted,
    stringsOf_map_string] at h
  split at h
  · cases h
    exact List.perm_insertionSort _ values
  · cases h

theorem decisionOf_name (decision : SmartAccessLeaseRevocation) :
    decisionOf (.string (text (decisionName decision))) = some decision := by
  cases decision with
  | drain => decide
  | terminate => decide

theorem decisions_read {ids : List Text} {decisions read : LeaseDecisions}
    (h : (decisions.map fun (id, decision) => (id, Document.string (text (decisionName decision)))).mapM
      (storedDecision ids) = .ok read) : read = decisions := by
  induction decisions generalizing read with
  | nil =>
    cases h
    rfl
  | cons decision rest ih =>
    rw [List.map_cons, List.mapM_cons] at h
    obtain ⟨first, hfirst, h⟩ := bind_eq_ok.mp h
    obtain ⟨others, hothers, h⟩ := bind_eq_ok.mp h
    cases h
    simp only [storedDecision, decisionOf_name] at hfirst
    split at hfirst
    · cases hfirst
      rw [ih hothers]
    · cases hfirst

theorem leases_read {leases read : List SmartAccessLeaseIdentity}
    (h : (leases.map fun lease => Document.map lease.lease).mapM SmartAccessLeaseIdentity.fromStored =
      .ok read) : read = leases := by
  induction leases generalizing read with
  | nil =>
    cases h
    rfl
  | cons lease rest ih =>
    rw [List.map_cons, List.mapM_cons] at h
    obtain ⟨first, hfirst, h⟩ := bind_eq_ok.mp h
    obtain ⟨others, hothers, h⟩ := bind_eq_ok.mp h
    cases h
    have hsame := SmartAccessLeaseIdentity.lease_of_fromStored hfirst
    rw [ih hothers, SmartAccessLeaseIdentity.ext hsame]

theorem parseStored_written {completed observed : DateTime} {items read : List Document}
    (h : parseStored "bindings" (.of (storedDocument "bindings" completed items)) =
      .ok (observed, read)) : read = items := by
  unfold parseStored at h
  split at h
  · cases h
  · simp only [StoredText.of, storedDocument] at h
    have hversion : Fields.get [(text "version", .int 1),
        (text "last_observed_at", .string completed.toIso8601String),
        (text "bindings", .list items)] "version" = .int 1 := rfl
    have hobserved : Fields.get [(text "version", .int 1),
        (text "last_observed_at", .string completed.toIso8601String),
        (text "bindings", .list items)] "last_observed_at" =
          .string completed.toIso8601String := rfl
    have hrows : Fields.get [(text "version", .int 1),
        (text "last_observed_at", .string completed.toIso8601String),
        (text "bindings", .list items)] "bindings" = .list items := rfl
    simp only [hversion, hobserved, hrows, DateTime.tryParseUtc_toIso8601String] at h
    cases h
    rfl

/-! ## Entries -/

/-- What the restrictions of an entry depend on is the same. -/
structure SameRestrictions (e e' : StoredSmartAccessRuntime) : Prop where
  digest : e'.digest = e.digest
  leases : e'.binding.leases = e.binding.leases
  expires : e'.binding.catalogExpiresAt = e.binding.catalogExpiresAt
  decisions : e'.decisions = e.decisions
  revoked : e'.catalogRevoked = e.catalogRevoked
  services : e'.catalogServiceRevocations.Perm e.catalogServiceRevocations

theorem storedCatalog_written {e : StoredSmartAccessRuntime} {fields : Fields} {catalog : StoredCatalog}
    (hfields : e.toDocument = .map fields) (h : storedCatalog fields = .ok catalog) :
    catalog.expiresAt = e.binding.catalogExpiresAt ∧ catalog.revoked = e.catalogRevoked := by
  have hissuedAt : Fields.get fields "catalog_issued_at" =
      timeOrNull e.binding.catalogIssuedAt := by cases hfields; rfl
  have hexpiresAt : Fields.get fields "catalog_expires_at" =
      timeOrNull e.binding.catalogExpiresAt := by cases hfields; rfl
  have hsha256 : Fields.get fields "catalog_sha256" =
      textOrNull e.binding.catalogSha256 := by cases hfields; rfl
  have hrevoked : Fields.get fields "catalog_revoked" = .bool e.catalogRevoked := by
    cases hfields; rfl
  have hwithdrawn : Fields.get fields "catalog_withdrawn" = .bool e.catalogWithdrawn := by
    cases hfields; rfl
  have hlong : ¬ fields.length < 8 := by cases hfields; simp
  have hread := h
  simp only [storedCatalog, if_neg hlong, hissuedAt, hexpiresAt, hsha256, hrevoked,
    hwithdrawn] at hread
  clear h
  split at hread
  · cases hread
  · cases hissued : e.binding.catalogIssuedAt <;> cases hexpires : e.binding.catalogExpiresAt <;>
      cases hsha : e.binding.catalogSha256 <;>
      simp only [hissued, hexpires, hsha, timeOrNull, textOrNull,
        DateTime.tryParseUtc_toIso8601String] at hread <;> try cases hread
    · exact ⟨rfl, rfl⟩
    · split at hread
      · cases hread
        exact ⟨rfl, rfl⟩
      · cases hread

variable {store : SmartAccessRuntimeStore}

theorem entry_written {e e' : StoredSmartAccessRuntime} (h : store.entry e.toDocument = .ok e') :
    SameRestrictions e e' := by
  have hentry : store.entryOf _ e.digest (e.binding.leases.map fun lease => .map lease.lease)
      (e.decisions.map fun (id, decision) => (id, .string (text (decisionName decision)))) = .ok e' := h
  unfold SmartAccessRuntimeStore.entryOf at hentry
  obtain ⟨⟨⟩, -, hentry⟩ := bind_eq_ok.mp hentry
  obtain ⟨⟨⟩, -, hentry⟩ := bind_eq_ok.mp hentry
  obtain ⟨catalog, hcatalog, hentry⟩ := bind_eq_ok.mp hentry
  obtain ⟨⟨⟩, -, hentry⟩ := bind_eq_ok.mp hentry
  obtain ⟨scope, hscope, hentry⟩ := bind_eq_ok.mp hentry
  obtain ⟨leases, hleases, hentry⟩ := bind_eq_ok.mp hentry
  obtain ⟨⟨⟩, -, hentry⟩ := bind_eq_ok.mp hentry
  obtain ⟨decisions, hdecisions, hentry⟩ := bind_eq_ok.mp hentry
  cases hentry
  obtain ⟨hexpires, hrevoked⟩ := storedCatalog_written rfl hcatalog
  unfold SmartAccessRuntimeStore.storedScope at hscope
  rw [if_pos (by rfl)] at hscope
  obtain ⟨⟨⟩, -, hscope⟩ := bind_eq_ok.mp hscope
  obtain ⟨identity, -, hscope⟩ := bind_eq_ok.mp hscope
  obtain ⟨services, hservices, hscope⟩ := bind_eq_ok.mp hscope
  cases hscope
  exact ⟨rfl, leases_read hleases, hexpires, decisions_read hdecisions, hrevoked,
    storedServices_sorted hservices⟩

theorem nodup_of_entries {items : List Document} {es : List StoredSmartAccessRuntime}
    (h : store.entries items = .ok es) : (es.map (·.digest)).Nodup := by
  unfold SmartAccessRuntimeStore.entries at h
  obtain ⟨⟨⟩, -, h⟩ := bind_eq_ok.mp h
  obtain ⟨read, -, h⟩ := bind_eq_ok.mp h
  obtain ⟨⟨⟩, hnodup, h⟩ := bind_eq_ok.mp h
  cases h
  exact not_not.mp (rejectIf_eq_ok.mp hnodup)

/-- Each entry that was written is read again. -/
theorem exists_of_entries {es read : List StoredSmartAccessRuntime}
    (h : store.entries (es.map (·.toDocument)) = .ok read) {e : StoredSmartAccessRuntime}
    (he : e ∈ es) : ∃ e' ∈ read, SameRestrictions e e' := by
  unfold SmartAccessRuntimeStore.entries at h
  obtain ⟨⟨⟩, -, h⟩ := bind_eq_ok.mp h
  obtain ⟨entries, hentries, h⟩ := bind_eq_ok.mp h
  obtain ⟨⟨⟩, -, h⟩ := bind_eq_ok.mp h
  cases h
  obtain ⟨e', he', hread⟩ := Results.exists_of_mapM hentries (List.mem_map_of_mem he)
  exact ⟨e', he', entry_written hread⟩

end Pokrov.AppShell.SmartAccess
