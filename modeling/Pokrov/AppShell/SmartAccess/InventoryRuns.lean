import Pokrov.AppShell.SmartAccess.InventoryReading
import Pokrov.Lib.Runs

/-!
# Revoked profiles over runs

What was received against a profile stays with its entry for as long as the entry is
kept, and a profile with such an entry is not staged again. An entry goes when all its
authority is over, and when another profile is prepared while its own is neither active
nor staged; a renewal and a snapshot of Core drop the decisions on leases that are over.
-/

namespace Pokrov.AppShell.SmartAccess

open Dart Results Stateful SmartAccessRuntimeStore

/-! ## One entry after another -/

namespace StoredSmartAccessRuntime

def decided (entry : StoredSmartAccessRuntime) : List Text := entry.decisions.map Prod.fst

/-- The catalog of the entry is revoked, or some of its services are. -/
def Withdrawn (entry : StoredSmartAccessRuntime) : Prop :=
  entry.catalogRevoked = true ∨ entry.catalogServiceRevocations ≠ []

end StoredSmartAccessRuntime

/-- At a time, the second entry has what the first one is restricted by. When leases may
have been pruned, this is about those that are active. -/
structure Continues (pruned : Prop) (t : DateTime) (e e' : StoredSmartAccessRuntime) : Prop where
  digest : e'.digest = e.digest
  expires : e'.binding.catalogExpiresAt = e.binding.catalogExpiresAt
  withdrawn : e.Withdrawn → e'.Withdrawn
  leases : ∀ lease ∈ e.binding.leases, (pruned → t.isBefore lease.activeFlowsUntil = true) →
    lease ∈ e'.binding.leases ∧ (lease.leaseId ∈ e.decided → lease.leaseId ∈ e'.decided)
  decided : ¬ pruned → ∀ id ∈ e.decided, id ∈ e'.decided

/-- The restrictions of an entry no longer keep its profile from being staged. -/
structure Released (pruned : Prop) (t : DateTime) (e : StoredSmartAccessRuntime) : Prop where
  expired : e.Withdrawn ∨ ¬ pruned → e.binding.hasLiveAuthority t = false
  leases : ∀ lease ∈ e.binding.leases, lease.leaseId ∈ e.decided →
    t.isBefore lease.activeFlowsUntil = false

variable {pruned : Prop} {t t' : DateTime} {e e' e'' : StoredSmartAccessRuntime}

theorem isBefore_mono {bound : DateTime} (h : t.micros ≤ t'.micros)
    (hbefore : t'.isBefore bound = true) : t.isBefore bound = true := by
  simp only [DateTime.isBefore, decide_eq_true_eq] at hbefore ⊢
  omega

theorem not_isBefore_mono {bound : DateTime} (h : t.micros ≤ t'.micros)
    (hafter : t.isBefore bound = false) : t'.isBefore bound = false := by
  simp only [DateTime.isBefore, decide_eq_false_iff_not] at hafter ⊢
  omega

theorem hasLiveAuthority_iff {binding : SmartAccessRuntimeLeases} :
    binding.hasLiveAuthority t = true ↔
      (∃ bound, binding.catalogExpiresAt = some bound ∧ t.isBefore bound = true) ∨
        ∃ lease ∈ binding.leases, t.isBefore lease.activeFlowsUntil = true := by
  simp only [SmartAccessRuntimeLeases.hasLiveAuthority, Bool.or_eq_true, Option.any_eq_true,
    List.any_eq_true]

theorem over_mono {binding : SmartAccessRuntimeLeases} (h : t.micros ≤ t'.micros)
    (hover : binding.hasLiveAuthority t = false) : binding.hasLiveAuthority t' = false := by
  rw [Bool.eq_false_iff, Ne, hasLiveAuthority_iff] at hover ⊢
  rintro (⟨bound, hbound, hlive⟩ | ⟨lease, hmem, hlive⟩)
  · exact hover (.inl ⟨bound, hbound, isBefore_mono h hlive⟩)
  · exact hover (.inr ⟨lease, hmem, isBefore_mono h hlive⟩)

namespace Released

theorem mono (h : Released pruned t e) (hle : t.micros ≤ t'.micros) : Released pruned t' e where
  expired := fun hcase => over_mono hle (h.expired hcase)
  leases := fun lease hmem hdecided => not_isBefore_mono hle (h.leases lease hmem hdecided)

theorem of_over (h : e.binding.hasLiveAuthority t = false) : Released pruned t e where
  expired := fun _ => h
  leases := by
    intro lease hmem _
    rw [Bool.eq_false_iff, Ne, hasLiveAuthority_iff] at h
    rw [Bool.eq_false_iff]
    exact fun hlive => h (.inr ⟨lease, hmem, hlive⟩)

end Released

namespace Continues

theorem refl (e : StoredSmartAccessRuntime) : Continues pruned t e e :=
  ⟨rfl, rfl, id, fun _ hmem _ => ⟨hmem, id⟩, fun _ _ hmem => hmem⟩

theorem mono (h : Continues pruned t e e') (hle : t.micros ≤ t'.micros) : Continues pruned t' e e' where
  digest := h.digest
  expires := h.expires
  withdrawn := h.withdrawn
  leases := fun lease hmem hactive => h.leases lease hmem fun hpruned => isBefore_mono hle (hactive hpruned)
  decided := h.decided

theorem trans (h : Continues pruned t e e') (h' : Continues pruned t e' e'') :
    Continues pruned t e e'' where
  digest := h'.digest.trans h.digest
  expires := h'.expires.trans h.expires
  withdrawn := h'.withdrawn ∘ h.withdrawn
  leases := by
    intro lease hmem hactive
    obtain ⟨hmem', hdecided⟩ := h.leases lease hmem hactive
    obtain ⟨hmem'', hdecided'⟩ := h'.leases lease hmem' hactive
    exact ⟨hmem'', hdecided' ∘ hdecided⟩
  decided := fun hpruned id hmem => h'.decided hpruned id (h.decided hpruned id hmem)

theorem of_same (h : SameRestrictions e e') : Continues pruned t e e' where
  digest := h.digest
  expires := h.expires
  withdrawn := by
    rintro (hrevoked | hservices)
    · exact .inl (h.revoked.trans hrevoked)
    · refine .inr fun hempty => hservices ?_
      have hperm := h.services
      rw [hempty] at hperm
      exact hperm.symm.eq_nil
  leases := by
    intro lease hmem _
    simp only [h.leases, StoredSmartAccessRuntime.decided, h.decisions]
    exact ⟨hmem, id⟩
  decided := by
    intro _ id hmem
    simpa only [StoredSmartAccessRuntime.decided, h.decisions] using hmem

/-- As long as the first one has authority, so has the second. -/
theorem live (h : Continues pruned t e e') (hlive : e.binding.hasLiveAuthority t = true) :
    e'.binding.hasLiveAuthority t = true := by
  rw [hasLiveAuthority_iff] at hlive ⊢
  rcases hlive with ⟨bound, hbound, hbefore⟩ | ⟨lease, hmem, hbefore⟩
  · exact .inl ⟨bound, h.expires.trans hbound, hbefore⟩
  · exact .inr ⟨lease, (h.leases lease hmem fun _ => hbefore).1, hbefore⟩

/-- An entry that nothing was received against keeps nobody from being staged. -/
theorem released (h : Continues pruned t e e') (hrestricted : e.Withdrawn ∨ e.decided ≠ [])
    (hclear : ¬ e'.Withdrawn) (hnone : e'.decided = []) : Released pruned t e where
  expired := by
    rintro (hwithdrawn | hpruned)
    · exact absurd (h.withdrawn hwithdrawn) hclear
    · rcases hrestricted with hwithdrawn | hdecided
      · exact absurd (h.withdrawn hwithdrawn) hclear
      · obtain ⟨id, hid⟩ := List.exists_mem_of_ne_nil _ hdecided
        have hmem := h.decided hpruned id hid
        rw [hnone] at hmem
        cases hmem
  leases := by
    intro lease hmem hdecided
    rw [Bool.eq_false_iff]
    intro hactive
    have hmem' := (h.leases lease hmem fun _ => hactive).2 hdecided
    rw [hnone] at hmem'
    cases hmem'

end Continues

/-! ## What the operations make of an entry -/

section Entries

variable {es : List StoredSmartAccessRuntime}

theorem continues_retaining {retained : List SmartAccessLeaseIdentity} (hpruned : pruned)
    (h : ∀ lease ∈ e.binding.leases, t.isBefore lease.activeFlowsUntil = true → lease ∈ retained) :
    Continues pruned t e (retaining e retained) where
  digest := rfl
  expires := rfl
  withdrawn := id
  leases := by
    intro lease hmem hactive
    have hretained := h lease hmem (hactive hpruned)
    refine ⟨hretained, fun hdecided => ?_⟩
    obtain ⟨decision, hdecision, hid⟩ := List.mem_map.mp hdecided
    refine List.mem_map.mpr ⟨decision, List.mem_filter.mpr ⟨hdecision, ?_⟩, hid⟩
    simp only [List.contains_iff_mem, hid]
    exact List.mem_map_of_mem hretained
  decided := fun hnot => absurd hpruned hnot

theorem mem_setDecision {id : Text} {decision : SmartAccessLeaseRevocation}
    {decisions : LeaseDecisions} {key : Text} :
    key ∈ (setDecision id decision decisions).map Prod.fst ↔
      key = id ∨ key ∈ decisions.map Prod.fst := by
  induction decisions with
  | nil => simp [setDecision]
  | cons first rest ih =>
    obtain ⟨k, value⟩ := first
    simp only [setDecision]
    split
    · rename_i hkey
      simp [hkey]
    · simp only [List.map_cons, List.mem_cons, ih]
      tauto

theorem mem_of_mergeDecision {ids : List Text} {merged merged' : LeaseDecisions}
    {decision : Text × SmartAccessLeaseRevocation}
    (h : mergeDecision ids merged decision = .ok merged') :
    decision.1 ∈ merged'.map Prod.fst ∧ ∀ id ∈ merged.map Prod.fst, id ∈ merged'.map Prod.fst := by
  obtain ⟨⟨⟩, -, h⟩ := bind_eq_ok.mp h
  cases h
  split
  · rename_i hterminated
    obtain ⟨before, after, rfl, -⟩ := List.lookup_eq_some_iff.mp hterminated
    exact ⟨by simp, fun _ hmem => hmem⟩
  · exact ⟨mem_setDecision.mpr (.inl rfl), fun id hmem => mem_setDecision.mpr (.inr hmem)⟩

theorem mem_of_mergeDecisions {ids : List Text} {decisions merged merged' : LeaseDecisions}
    (h : decisions.foldlM (mergeDecision ids) merged = .ok merged') :
    (∀ decision ∈ decisions, decision.1 ∈ merged'.map Prod.fst) ∧
      ∀ id ∈ merged.map Prod.fst, id ∈ merged'.map Prod.fst := by
  induction decisions generalizing merged with
  | nil =>
    cases h
    exact ⟨by simp, fun _ hmem => hmem⟩
  | cons decision rest ih =>
    rw [List.foldlM_cons] at h
    obtain ⟨next, hnext, h⟩ := bind_eq_ok.mp h
    obtain ⟨hset, hkept⟩ := mem_of_mergeDecision hnext
    obtain ⟨hrest, hlater⟩ := ih h
    refine ⟨fun later hmem => ?_, fun id hmem => hlater id (hkept id hmem)⟩
    rcases List.mem_cons.mp hmem with rfl | hmem
    · exact hlater _ hset
    · exact hrest later hmem

/-- What is received against an entry is recorded in what is written for it. -/
theorem continues_decidedEntry {received : ReceivedRestrictions}
    (h : decidedEntry received e = .ok e') :
    Continues pruned t e e' ∧ e'.binding = e.binding ∧
      (∀ decision ∈ received.decisions, decision.1 ∈ e'.decided) ∧
      (received.catalogRevoked = true ∨ received.catalogServiceRevocations ≠ [] → e'.Withdrawn) := by
  unfold decidedEntry at h
  obtain ⟨merged, hmerged, h⟩ := bind_eq_ok.mp h
  obtain ⟨⟨⟩, -, h⟩ := bind_eq_ok.mp h
  obtain ⟨⟨⟩, -, h⟩ := bind_eq_ok.mp h
  cases h
  obtain ⟨hreceived, hkept⟩ := mem_of_mergeDecisions hmerged
  have hservices : ∀ {a b : List Text}, a ≠ [] ∨ b ≠ [] → a ∪ b ≠ [] := by
    intro a b h
    rcases h with h | h
    · obtain ⟨id, hid⟩ := List.exists_mem_of_ne_nil _ h
      exact List.ne_nil_of_mem (List.mem_union_iff.mpr (.inl hid))
    · obtain ⟨id, hid⟩ := List.exists_mem_of_ne_nil _ h
      exact List.ne_nil_of_mem (List.mem_union_iff.mpr (.inr hid))
  refine ⟨⟨rfl, rfl, ?_, fun lease hmem _ => ⟨hmem, hkept _⟩, fun _ => hkept⟩, rfl, hreceived, ?_⟩
  · rintro (hrevoked | hwithdrawn)
    · exact .inl (by simp [hrevoked])
    · exact .inr (hservices (.inl hwithdrawn))
  · rintro (hrevoked | hwithdrawn)
    · exact .inl (by simp [hrevoked])
    · exact .inr (hservices (.inr hwithdrawn))

theorem map_digest_replaceEntry (updated : StoredSmartAccessRuntime) :
    (SmartAccess.replaceEntry updated es).map (·.digest) = es.map (·.digest) := by
  induction es with
  | nil => rfl
  | cons entry rest ih =>
    simp only [replaceEntry]
    split
    · rename_i hdigest
      simp [hdigest]
    · simp [ih]

variable {updated : StoredSmartAccessRuntime}

theorem mem_replaceEntry_of_ne (h : e ∈ es) (hne : e.digest ≠ updated.digest) :
    e ∈ replaceEntry updated es := by
  induction es with
  | nil => cases h
  | cons entry rest ih =>
    simp only [replaceEntry]
    rcases List.mem_cons.mp h with rfl | h
    · rw [if_neg hne]
      exact List.mem_cons_self
    · split
      · exact List.mem_cons_of_mem _ h
      · exact List.mem_cons_of_mem _ (ih h)

theorem mem_replaceEntry_self (h : e ∈ es) (hdigest : e.digest = updated.digest) :
    updated ∈ replaceEntry updated es := by
  induction es with
  | nil => cases h
  | cons entry rest ih =>
    simp only [replaceEntry]
    split
    · exact List.mem_cons_self
    · rename_i hne
      rcases List.mem_cons.mp h with rfl | h
      · exact absurd hdigest hne
      · exact List.mem_cons_of_mem _ (ih h)

theorem eq_of_digest (hnodup : (es.map (·.digest)).Nodup) (he : e ∈ es) (he' : e' ∈ es)
    (h : e.digest = e'.digest) : e = e' :=
  List.inj_on_of_nodup_map hnodup he he' h

/-- An entry in the place of one that continues another. -/
theorem continues_replaceEntry (hnodup : (es.map (·.digest)).Nodup)
    (h : ∃ e' ∈ es, Continues pruned t e e') (hmem : e'' ∈ es)
    (hupdated : Continues pruned t e'' updated) :
    ∃ e' ∈ replaceEntry updated es, Continues pruned t e e' := by
  obtain ⟨e', he', hcontinues⟩ := h
  by_cases hdigest : e'.digest = updated.digest
  · obtain rfl := eq_of_digest hnodup he' hmem (hdigest.trans hupdated.digest)
    exact ⟨updated, mem_replaceEntry_self he' hdigest, hcontinues.trans hupdated⟩
  · exact ⟨e', mem_replaceEntry_of_ne he' hdigest, hcontinues⟩

theorem of_entryFor {digest : Text} (h : entryFor digest es = some e) : e ∈ es ∧ e.digest = digest :=
  ⟨List.mem_of_find?_eq_some h, by simpa using List.find?_some h⟩

end Entries

/-! ## Entries that are updated -/

theorem continues_renewedEntry {renewal : SmartAccessLeaseRenewal} {next : SmartAccessLeaseIdentity}
    {later : DateTime} (hpruned : pruned)
    (h : renewedEntry renewal next t later e = .ok e') :
    Continues pruned t e e' := by
  unfold renewedEntry at h
  obtain ⟨⟨⟩, -, h⟩ := bind_eq_ok.mp h
  obtain ⟨⟨⟩, -, h⟩ := bind_eq_ok.mp h
  obtain ⟨retained, hretained, h⟩ := bind_eq_ok.mp h
  obtain ⟨⟨⟩, -, h⟩ := bind_eq_ok.mp h
  cases h
  refine continues_retaining hpruned fun lease hmem hactive => ?_
  obtain ⟨⟨⟩, -, hretained⟩ := bind_eq_ok.mp hretained
  cases hretained
  have hkept : lease ∈ e.binding.leases.filter fun lease =>
      (currentIds renewal).contains lease.leaseId ||
        lease.leaseId = next.leaseId || t.isBefore lease.activeFlowsUntil :=
    List.mem_filter.mpr ⟨hmem, by simp [hactive]⟩
  split
  · exact hkept
  · exact List.mem_append_left _ hkept

theorem mem_of_mergeLease {binding : SmartAccessRuntimeLeases}
    {merged merged' : List SmartAccessLeaseIdentity} {lease incoming : SmartAccessLeaseIdentity}
    (hmem : lease ∈ merged)
    (h : mergeLease binding merged incoming = .ok merged') :
    lease ∈ merged' := by
  unfold mergeLease at h
  split at h
  · obtain ⟨⟨⟩, -, h⟩ := bind_eq_ok.mp h
    cases h
    exact hmem
  · obtain ⟨newUntil, -, h⟩ := bind_eq_ok.mp h
    obtain ⟨issued, -, h⟩ := bind_eq_ok.mp h
    obtain ⟨⟨⟩, -, h⟩ := bind_eq_ok.mp h
    cases h
    exact List.mem_append_left _ hmem

section Store

variable {store : SmartAccessRuntimeStore} {active : Option Text} {ids : List Text}

theorem continues_journaledEntry {incoming : List SmartAccessLeaseIdentity} {sha256 : Text}
    (hpruned : pruned) (h : store.journaledEntry active ids t incoming sha256 e = .ok e') :
    Continues pruned t e e' := by
  unfold journaledEntry at h
  obtain ⟨⟨⟩, -, h⟩ := bind_eq_ok.mp h
  obtain ⟨merged, hmerged, h⟩ := bind_eq_ok.mp h
  obtain ⟨⟨⟩, -, h⟩ := bind_eq_ok.mp h
  cases h
  refine continues_retaining hpruned fun lease hmem hactive => ?_
  have hkept : lease ∈ merged := Results.foldlM_keeps (P := (lease ∈ ·))
    (fun _ _ _ _ hmem h => mem_of_mergeLease hmem h) hmem hmerged
  exact List.mem_filter.mpr ⟨hkept, by simp [hactive]⟩

/-- What the rounds of `_mergeNativeLeaseIdentities` keep of an entry. -/
def JournalKeeps (pruned : Prop) (t : DateTime) (e : StoredSmartAccessRuntime)
    (merged : List StoredSmartAccessRuntime × List StoredSmartAccessRuntime) : Prop :=
  (merged.1.map (·.digest)).Nodup ∧ ∃ e' ∈ merged.1, Continues pruned t e e'

theorem journalKeeps_mergeJournaled
    {merged merged' : List StoredSmartAccessRuntime × List StoredSmartAccessRuntime}
    {journaled : JournalEntry} (hpruned : pruned) (hkeeps : JournalKeeps pruned t e merged)
    (h : store.mergeJournaled active ids t merged journaled = .ok merged') :
    JournalKeeps pruned t e merged' := by
  unfold mergeJournaled at h
  split at h
  · cases h
    exact hkeeps
  · split at h
    · cases h
    · rename_i entry hentry
      obtain ⟨updated, hupdated, h⟩ := bind_eq_ok.mp h
      cases h
      obtain ⟨hnodup, hexists⟩ := hkeeps
      refine ⟨by rwa [map_digest_replaceEntry], ?_⟩
      exact continues_replaceEntry hnodup hexists (of_entryFor hentry).1
        (continues_journaledEntry hpruned hupdated)

/-- Without entries there is nothing to update. -/
theorem mergeJournaled_nil {merged' : List StoredSmartAccessRuntime × List StoredSmartAccessRuntime}
    {received : List JournalEntry}
    (h : received.foldlM (store.mergeJournaled active ids t) ([], []) = .ok merged') :
    merged'.2 = [] := by
  have hempty : merged' = ([], []) := by
    refine Results.foldlM_keeps (P := (· = ([], []))) ?_ rfl h
    rintro _ journaled - b rfl hround
    unfold mergeJournaled at hround
    split at hround
    · cases hround
      rfl
    · cases hround
  rw [hempty]

end Store

end Pokrov.AppShell.SmartAccess
