import Pokrov.AppShell.SmartAccess.InventoryRuns

/-!
# A revoked profile is not staged again

The operations on a device with a clock that does not go back, and runs of them. What is
received against a profile is followed by what the inventory says of it later, until its
authority is over.
-/

namespace Pokrov.AppShell.SmartAccess

open Dart Results Stateful SmartAccessRuntimeStore

/-! ## Staging -/

section Staging

variable {binding : SmartAccessRuntimeLeases} {active staged : Option Text} {t : DateTime}
  {es next : List StoredSmartAccessRuntime} {e : StoredSmartAccessRuntime}

theorem mem_stagedEntries
    (h : stagedEntries binding active staged t es = .ok next) (he : e ∈ es)
    (hne : e.digest ≠ binding.profileDigest) (hkept : active = some e.digest ∨ staged = some e.digest) :
    e ∈ next := by
  unfold stagedEntries at h
  obtain ⟨⟨⟩, -, h⟩ := bind_eq_ok.mp h
  obtain ⟨⟨⟩, -, h⟩ := bind_eq_ok.mp h
  have hmem : e ∈ es.filter fun entry => entry.digest ≠ binding.profileDigest &&
      (some entry.digest = active || some entry.digest = staged) := by
    refine List.mem_filter.mpr ⟨he, ?_⟩
    rcases hkept with rfl | rfl <;> simp [hne]
  split at h
  · obtain ⟨retained, -, h⟩ := bind_eq_ok.mp h
    cases h
    exact List.mem_append_left _ hmem
  · cases h
    exact hmem

/-- A profile that something was received against is refused. -/
theorem clear_of_stagedEntries
    (h : stagedEntries binding active staged t es = .ok next)
    (hmetadata : binding.hasRestrictionMetadata = true) (he : e ∈ es)
    (hdigest : e.digest = binding.profileDigest) : ¬ e.Withdrawn ∧ e.decided = [] := by
  unfold stagedEntries at h
  obtain ⟨⟨⟩, -, h⟩ := bind_eq_ok.mp h
  obtain ⟨⟨⟩, -, h⟩ := bind_eq_ok.mp h
  rw [if_pos hmetadata] at h
  obtain ⟨retained, hretained, -⟩ := bind_eq_ok.mp h
  obtain ⟨before, after, hround⟩ := Results.exists_of_foldlM hretained he
  unfold restagedDecisions at hround
  rw [if_pos hdigest] at hround
  obtain ⟨⟨⟩, hclear, -⟩ := bind_eq_ok.mp hround
  obtain ⟨hdecisions, hrevoked, hservices⟩ : _ ∧ _ ∧ _ := by
    simpa only [not_or, not_not] using rejectIf_eq_ok.mp hclear
  refine ⟨?_, by simp [StoredSmartAccessRuntime.decided, hdecisions]⟩
  rintro (h | h)
  · exact hrevoked h
  · exact h hservices

end Staging

/-! ## What the operations do to the device -/

/-- The clock goes on and is the same clock. -/
structure Advances (s s' : Device) : Prop where
  clock : s'.clock = s.clock
  ticks : s.ticks ≤ s'.ticks

/-- The inventory is not written. -/
structure Spares (s s' : Device) : Prop extends Advances s s' where
  inventory : s'.inventory = s.inventory

instance : Std.Refl Advances := ⟨fun _ => ⟨rfl, Nat.le_refl _⟩⟩

instance : IsTrans Device Advances :=
  ⟨fun _ _ _ h h' => ⟨h'.clock.trans h.clock, h.ticks.trans h'.ticks⟩⟩

instance : Std.Refl Spares := ⟨fun _ => ⟨⟨rfl, Nat.le_refl _⟩, rfl⟩⟩

instance : IsTrans Device Spares :=
  ⟨fun _ _ _ h h' => ⟨IsTrans.trans _ _ _ h.toAdvances h'.toAdvances, h'.inventory.trans h.inventory⟩⟩

theorem spares_tick (s : Device) : Spares s s.tick := ⟨⟨rfl, Nat.le_succ _⟩, rfl⟩

theorem spares_now : Preserves Spares now := spares_tick

theorem spares_isCurrent : Preserves Spares isCurrent := spares_tick

theorem spares_readStorage (key : StorageKey) : Preserves Spares (readStorage key) := by
  intro s
  unfold readStorage
  split
  · exact spares_tick s
  · exact spares_tick s

theorem spares_writeRestrictions (raw : StoredText) :
    Preserves Spares (writeStorage .restrictions raw) := by
  intro s
  unfold writeStorage
  split
  · exact ⟨⟨rfl, Nat.le_succ _⟩, rfl⟩
  · exact spares_tick s
  · exact ⟨⟨rfl, Nat.le_succ _⟩, rfl⟩

theorem spares_writeNative (records : List NativeSmartAccessRestriction) (observed : DateTime) :
    Preserves Spares (writeNative records observed) := by
  refine .bind .lift fun _ => ?_
  refine .bind spares_now fun completed => ?_
  refine .bind .lift fun _ => ?_
  exact .bind .lift fun _ => spares_writeRestrictions _

section Store

variable (store : SmartAccessRuntimeStore)

theorem spares_readNative (now : DateTime) : Preserves Spares (store.readNative now) := by
  refine .bind .lift fun _ => ?_
  exact .bind (spares_readStorage _) fun _ => .lift

theorem spares_guardNativeStage (binding : SmartAccessRuntimeLeases)
    (leases : List SmartAccessLeaseIdentity) (now : DateTime) :
    Preserves Spares (store.guardNativeStage binding leases now) := by
  refine .bind (spares_readNative store now) fun records => ?_
  refine .bind (spares_writeNative records now) fun _ => ?_
  split
  · exact .throw
  · exact .pure

theorem spares_readEntries (now : DateTime) (includeExpired : Bool) :
    Preserves Spares (store.readEntries now includeExpired) := by
  refine .bind .lift fun _ => ?_
  refine .bind (spares_readStorage _) fun _ => ?_
  exact .bind .lift fun _ => .pure

theorem spares_requireCurrent (renewal : SmartAccessLeaseRenewal) :
    Preserves Spares (requireCurrent renewal) := by
  refine .bind spares_isCurrent fun _ => ?_
  exact .bind spares_now fun _ => .lift

theorem spares_requireRecovery : Preserves Spares requireRecovery :=
  .bind spares_isCurrent fun _ => .lift

end Store

theorem wp_now {post : Except Failure DateTime → Device → Prop} {s : Device} :
    wp now post s ↔ post (.ok s.time) s.tick := Iff.rfl

theorem wp_isCurrent {post : Except Failure Bool → Device → Prop} {s : Device} :
    wp isCurrent post s ↔ post (.ok (s.current s.ticks)) s.tick := Iff.rfl

theorem wp_readStorage {key : StorageKey} {post : Except Failure (Option StoredText) → Device → Prop}
    {s : Device} (hread : post (.ok (s.stored key)) s.tick) (hfailed : post (.error .other) s.tick) :
    wp (readStorage key) post s := by
  show post (readStorage key s).1 (readStorage key s).2
  unfold readStorage
  cases s.storage s.ticks with
  | done => exact hread
  | failed => exact hfailed
  | unreported => exact hfailed

theorem wp_writeStorage {key : StorageKey} {raw : StoredText}
    {post : Except Failure Unit → Device → Prop} {s : Device}
    (hwritten : ∀ r, post r (s.put raw key).tick) (hfailed : post (.error .other) s.tick) :
    wp (writeStorage key raw) post s := by
  show post (writeStorage key raw s).1 (writeStorage key raw s).2
  unfold writeStorage
  cases s.storage s.ticks with
  | done => exact hwritten _
  | failed => exact hfailed
  | unreported => exact hwritten _

/-- What is read is what is stored. -/
theorem wp_readEntries {store : SmartAccessRuntimeStore} {now : DateTime} {includeExpired : Bool}
    (s : Device) : wp (store.readEntries now includeExpired) (fun r s' => Spares s s' ∧
      ∀ es, r = .ok es → ∃ all, store.inventoryAt now s.inventory = .ok all ∧
        es = if includeExpired then all else all.filter (·.binding.hasLiveAuthority now)) s := by
  unfold readEntries
  apply wp_lift_bind
  · exact fun e _ => ⟨Std.Refl.refl s, nofun⟩
  · intro _ _
    rw [wp_bind]
    apply wp_readStorage
    · rw [next_ok]
      apply wp_lift_bind
      · exact fun e _ => ⟨spares_tick s, nofun⟩
      · intro all hall
        exact ⟨spares_tick s, fun es h => ⟨all, hall, by cases h; rfl⟩⟩
    · exact ⟨spares_tick s, nofun⟩

/-- What is written to the inventory, if anything is. -/
theorem wp_writeEntries {es : List StoredSmartAccessRuntime} {observed : DateTime} (s : Device) :
    wp (writeEntries es observed) (fun r s' => Advances s s' ∧
      ((r ≠ .ok () ∧ s'.inventory = s.inventory) ∨ ∃ completed, s'.inventory = some
        (.of (storedDocument "bindings" completed (es.map (·.toDocument)))))) s := by
  unfold writeEntries writeRows
  rw [wp_bind, wp_now, next_ok]
  apply wp_lift_bind
  · exact fun e _ => ⟨(spares_tick s).toAdvances, .inl ⟨nofun, rfl⟩⟩
  · intro _ _
    apply wp_lift_bind
    · exact fun e _ => ⟨(spares_tick s).toAdvances, .inl ⟨nofun, rfl⟩⟩
    · intro _ _
      have hticks : s.ticks ≤ s.tick.tick.ticks := by simp only [Device.tick]; omega
      apply wp_writeStorage
      · exact fun _ => ⟨⟨rfl, hticks⟩, .inr ⟨s.time, rfl⟩⟩
      · exact ⟨⟨rfl, hticks⟩, .inl ⟨nofun, rfl⟩⟩

theorem advances_of_spares {α : Type} {m : Operation α} (h : Preserves Spares m) :
    Preserves Advances m := fun s => (h s).toAdvances

theorem advances_writeEntries (es : List StoredSmartAccessRuntime) (observed : DateTime) :
    Preserves Advances (writeEntries es observed) := fun s => (wp_writeEntries s).1

theorem advances_prepareStage (store : SmartAccessRuntimeStore) (binding : SmartAccessRuntimeLeases)
    (active staged : Option Text) : Preserves Advances (store.prepareStage binding active staged) := by
  refine .bind (advances_of_spares spares_isCurrent) fun _ => .ite ?_ .pure
  refine .bind (advances_of_spares spares_now) fun now => ?_
  refine .bind (advances_of_spares (spares_guardNativeStage store _ _ _)) fun _ => ?_
  refine .bind (advances_of_spares (spares_readEntries store _ _)) fun entries => ?_
  refine .bind (advances_of_spares spares_isCurrent) fun _ => .ite ?_ .pure
  refine .bind .lift fun next => ?_
  exact .bind (advances_writeEntries next now) fun _ => .pure

/-! ## The invariant -/

/-- The clock does not go back. -/
def Steady (s : Device) : Prop := ∀ i j, i ≤ j → (s.clock i).micros ≤ (s.clock j).micros

/-- An entry is released, or one that continues it is stored. -/
def Kept (store : SmartAccessRuntimeStore) (pruned : Prop) (e : StoredSmartAccessRuntime)
    (s : Device) : Prop :=
  Released pruned s.time e ∨ ∃ raw, s.inventory = some raw ∧
    ∀ observed items es, parseStored "bindings" raw = .ok (observed, items) →
      store.entries items = .ok es → ∃ e' ∈ es, Continues pruned s.time e e'

/-- What holds of a device between two steps. -/
structure Follows (store : SmartAccessRuntimeStore) (pruned : Prop) (e : StoredSmartAccessRuntime)
    (s : Device) : Prop where
  steady : Steady s
  kept : Kept store pruned e s

variable {store : SmartAccessRuntimeStore} {pruned : Prop} {e : StoredSmartAccessRuntime}
  {s s' : Device} {α β : Type}

theorem Steady.advance (h : Steady s) (hadvances : Advances s s') : Steady s' := by
  intro i j hij
  rw [hadvances.clock]
  exact h i j hij

theorem Steady.time_le (h : Steady s) (hadvances : Advances s s') : s.time.micros ≤ s'.time.micros := by
  unfold Device.time
  rw [hadvances.clock]
  exact h _ _ hadvances.ticks

namespace Follows

theorem spare (h : Follows store pruned e s) (hspares : Spares s s') : Follows store pruned e s' := by
  have hle := h.steady.time_le hspares.toAdvances
  refine ⟨h.steady.advance hspares.toAdvances, ?_⟩
  rcases h.kept with hreleased | ⟨raw, hraw, hstored⟩
  · exact .inl (hreleased.mono hle)
  · refine .inr ⟨raw, hspares.inventory.trans hraw, fun observed items es hparse hentries => ?_⟩
    obtain ⟨e', he', hcontinues⟩ := hstored observed items es hparse hentries
    exact ⟨e', he', hcontinues.mono hle⟩

/-- What is written where an entry goes on. -/
theorem write {es : List StoredSmartAccessRuntime} {completed : DateTime}
    (h : Steady s) (hadvances : Advances s s')
    (hnext : Released pruned s.time e ∨ ∃ e' ∈ es, Continues pruned s.time e e')
    (hwritten : s'.inventory = some
      (.of (storedDocument "bindings" completed (es.map (·.toDocument))))) :
    Follows store pruned e s' := by
  have hle := h.time_le hadvances
  refine ⟨h.advance hadvances, ?_⟩
  rcases hnext with hreleased | ⟨e', he', hcontinues⟩
  · exact .inl (hreleased.mono hle)
  · refine .inr ⟨_, hwritten, fun observed items read hparse hentries => ?_⟩
    obtain rfl := parseStored_written hparse
    obtain ⟨e'', he'', hsame⟩ := exists_of_entries hentries he'
    exact ⟨e'', he'', (hcontinues.trans (.of_same hsame)).mono hle⟩

/-- The entries that are read at a time. -/
theorem entries {all : List StoredSmartAccessRuntime} (h : Follows store pruned e s)
    (hread : store.inventoryAt s.time s.inventory = .ok all) :
    Released pruned s.time e ∨ ((all.map (·.digest)).Nodup ∧
      ∃ e' ∈ all, Continues pruned s.time e e' ∧ e'.binding.hasLiveAuthority s.time = true) := by
  rcases h.kept with hreleased | ⟨raw, hraw, hstored⟩
  · exact .inl hreleased
  · rw [hraw] at hread
    obtain ⟨⟨observed, items⟩, hparse, hread⟩ := bind_eq_ok.mp hread
    obtain ⟨⟨⟩, -, hentries⟩ := bind_eq_ok.mp hread
    obtain ⟨e', he', hcontinues⟩ := hstored observed items all hparse hentries
    by_cases hlive : e.binding.hasLiveAuthority s.time = true
    · exact .inr ⟨nodup_of_entries hentries, e', he', hcontinues, hcontinues.live hlive⟩
    · exact .inl (.of_over (Bool.eq_false_iff.mpr hlive))

end Follows

/-! ### Rules -/

/-- The invariant at the end of a computation, whatever it answers. -/
abbrev Leaves (store : SmartAccessRuntimeStore) (pruned : Prop) (e : StoredSmartAccessRuntime)
    (m : Operation α) (s : Device) : Prop := wp m (fun _ s' => Follows store pruned e s') s

variable {m : Operation α} {f : α → Operation β} {s₀ : Device}

theorem leaves_sparing (hm : Preserves Spares m) (h : Follows store pruned e s) :
    Leaves store pruned e m s :=
  hm.wp fun _ _ hspares => h.spare hspares

theorem leaves_bind (hm : Preserves Spares m) (h : Follows store pruned e s)
    (hf : ∀ a s', Spares s s' → Follows store pruned e s' → Leaves store pruned e (f a) s') :
    Leaves store pruned e (m >>= f) s := by
  refine wp_bind.mpr (hm.wp ?_)
  rintro (error | a) s' hspares
  · exact h.spare hspares
  · exact hf a s' hspares (h.spare hspares)

theorem leaves_lift {x : Try α} (h : Follows store pruned e s)
    (hf : ∀ a, x = .ok a → Leaves store pruned e (f a) s) :
    Leaves store pruned e (lift x >>= f) s :=
  wp_lift_bind (fun _ _ => h) hf

/-- The inventory is written at a time after the one that its entries were made at. -/
theorem leaves_writeEntries {es : List StoredSmartAccessRuntime} {observed : DateTime}
    (h0 : Follows store pruned e s₀) (hspares : Spares s₀ s)
    (hnext : Released pruned s₀.time e ∨ ∃ e' ∈ es, Continues pruned s₀.time e e') :
    Leaves store pruned e (writeEntries es observed) s := by
  refine wp_mono (wp_writeEntries s) ?_
  rintro r s' ⟨hadvances, ⟨-, hsame⟩ | ⟨completed, hwritten⟩⟩
  · exact (h0.spare hspares).spare ⟨hadvances, hsame⟩
  · exact .write h0.steady (IsTrans.trans _ _ _ hspares.toAdvances hadvances) hnext hwritten

/-- What has become of an entry among those that are read. -/
def Remains (pruned : Prop) (t : DateTime) (e : StoredSmartAccessRuntime)
    (es : List StoredSmartAccessRuntime) : Prop :=
  Released pruned t e ∨ ((es.map (·.digest)).Nodup ∧ ∃ e' ∈ es, Continues pruned t e e')

/-- The entries are read that were stored at a time. -/
theorem wp_remains {includeExpired : Bool} (h0 : Follows store pruned e s₀) (hspares : Spares s₀ s) :
    wp (store.readEntries s₀.time includeExpired) (fun r s' => Spares s₀ s' ∧
      ∀ es, r = .ok es → Remains pruned s₀.time e es) s := by
  refine wp_mono (wp_readEntries s) ?_
  rintro r s' ⟨hspares', hread⟩
  refine ⟨IsTrans.trans _ _ _ hspares hspares', fun es hes => ?_⟩
  obtain ⟨all, hall, rfl⟩ := hread es hes
  rw [hspares.inventory] at hall
  rcases h0.entries hall with hreleased | ⟨hnodup, e', he', hcontinues, hlive⟩
  · exact .inl hreleased
  · right
    cases includeExpired with
    | true => exact ⟨hnodup, e', he', hcontinues⟩
    | false =>
      exact ⟨hnodup.sublist (List.filter_sublist.map _), e', List.mem_filter.mpr ⟨he', hlive⟩,
        hcontinues⟩

theorem leaves_readEntries {includeExpired : Bool} {f : List StoredSmartAccessRuntime → Operation β}
    (h0 : Follows store pruned e s₀) (hspares : Spares s₀ s)
    (hf : ∀ es s', Spares s₀ s' → Remains pruned s₀.time e es → Leaves store pruned e (f es) s') :
    Leaves store pruned e (store.readEntries s₀.time includeExpired >>= f) s := by
  refine wp_bind.mpr (wp_mono (wp_remains h0 hspares) ?_)
  rintro (error | es) s' ⟨hspares', hes⟩
  · exact h0.spare hspares'
  · exact hf es s' hspares' (hes es rfl)

/-- The same where an inventory that cannot be read counts as empty. -/
theorem leaves_readEntries_orNone {f : List StoredSmartAccessRuntime → Operation β}
    (h0 : Follows store pruned e s₀) (hspares : Spares s₀ s)
    (hf : ∀ es s', Spares s₀ s' → es = [] ∨ Remains pruned s₀.time e es → Leaves store pruned e (f es) s') :
    Leaves store pruned e
      (catching (store.readEntries s₀.time true) (fun _ => pure []) >>= f) s := by
  refine wp_bind.mpr (wp_catching (wp_mono (wp_remains h0 hspares) ?_))
  rintro (error | es) s' ⟨hspares', hes⟩
  · exact hf [] s' hspares' (.inl rfl)
  · exact hf es s' hspares' (.inr (hes es rfl))

theorem leaves_then (hm : Leaves store pruned e m s)
    (hf : ∀ a s', Follows store pruned e s' → Leaves store pruned e (f a) s') :
    Leaves store pruned e (m >>= f) s := by
  refine wp_bind.mpr (wp_mono hm ?_)
  rintro (error | a) s' h
  · exact h
  · exact hf a s' h

theorem leaves_now {f : DateTime → Operation β} (h : Leaves store pruned e (f s.time) s.tick) :
    Leaves store pruned e (now >>= f) s := h

/-! ### The operations -/

theorem leaves_read {digest : Text} (h : Follows store pruned e s) :
    Leaves store pruned e (store.read digest) s := by
  apply leaves_now
  refine leaves_readEntries h (spares_tick s) fun es s' hspares hes => ?_
  refine leaves_then (leaves_writeEntries h hspares (hes.imp_right And.right)) fun _ s'' h'' => ?_
  exact leaves_sparing .pure h''

theorem leaves_readNativeRestrictions (h : Follows store pruned e s) :
    Leaves store pruned e store.readNativeRestrictions s := by
  refine leaves_sparing ?_ h
  refine .bind spares_now fun now => ?_
  refine .bind (spares_readNative store now) fun records => ?_
  exact .bind (spares_writeNative records now) fun _ => .pure

theorem leaves_retainDecisions {binding : SmartAccessRuntimeLeases}
    {received : ReceivedRestrictions} (h : Follows store pruned e s) :
    Leaves store pruned e (store.retainDecisions binding received) s := by
  apply leaves_now
  refine leaves_readEntries h (spares_tick s) fun es s' hspares hes => ?_
  cases hentry : entryFor binding.profileDigest es with
  | none => exact leaves_sparing .throw (h.spare hspares)
  | some entry =>
    refine leaves_lift (h.spare hspares) fun updated hupdated => ?_
    refine leaves_writeEntries h hspares (hes.imp_right fun hes => ?_)
    exact continues_replaceEntry hes.1 hes.2 (of_entryFor hentry).1
      (continues_decidedEntry hupdated).1

theorem leaves_retainRenewal {renewal : SmartAccessLeaseRenewal} (hpruned : pruned)
    (h : Follows store pruned e s) : Leaves store pruned e (store.retainRenewal renewal) s := by
  refine leaves_bind (spares_requireCurrent renewal) h fun _ s₀ _ h0 => ?_
  apply leaves_now
  refine leaves_bind (spares_guardNativeStage store _ _ _) (h0.spare (spares_tick s₀)) ?_
  intro _ s1 hguard _
  refine leaves_readEntries h0 (IsTrans.trans _ _ _ (spares_tick s₀) hguard) fun es s2 hspares hes => ?_
  refine leaves_bind (spares_requireCurrent renewal) (h0.spare hspares) fun _ s3 hcurrent h3 => ?_
  cases hentry : entryFor renewal.binding.profileDigest es with
  | none => exact leaves_sparing .throw h3
  | some entry =>
    refine leaves_lift h3 fun next _ => ?_
    refine leaves_bind spares_now h3 fun later s4 hlater h4 => ?_
    refine leaves_lift h4 fun updated hupdated => ?_
    refine leaves_bind (spares_requireCurrent renewal) h4 fun _ s5 hcurrent' _ => ?_
    have hspares5 : Spares s₀ s5 :=
      IsTrans.trans _ _ _ (IsTrans.trans _ _ _ (IsTrans.trans _ _ _ hspares hcurrent) hlater) hcurrent'
    refine leaves_then (leaves_writeEntries h0 hspares5 (hes.imp_right fun hes => ?_)) ?_
    · exact continues_replaceEntry hes.1 hes.2 (of_entryFor hentry).1
        (continues_renewedEntry hpruned hupdated)
    · intro _ s6 h6
      refine leaves_bind (spares_requireCurrent renewal) h6 fun _ s7 _ h7 => ?_
      exact leaves_sparing .pure h7

/-- A snapshot of Core is merged into the entries that were stored. -/
theorem leaves_retainNativeJournal {encoded : Text} {active : Option Text} {ids : List Text}
    (hpruned : pruned) (h : Follows store pruned e s) :
    Leaves store pruned e (store.retainNativeJournal encoded active ids) s := by
  refine leaves_bind spares_requireRecovery h fun _ s₀ _ h0 => ?_
  refine leaves_lift h0 fun journal _ => ?_
  obtain ⟨snapshotSha256, received⟩ := journal
  apply leaves_now
  refine leaves_bind (spares_readNative store _) (h0.spare (spares_tick s₀)) fun retained s1 hnative _ => ?_
  refine leaves_readEntries_orNone h0 (IsTrans.trans _ _ _ (spares_tick s₀) hnative) ?_
  intro es s2 hspares hes
  refine leaves_lift (h0.spare hspares) fun result _ => ?_
  refine leaves_bind spares_requireRecovery (h0.spare hspares) fun _ s3 hcurrent h3 => ?_
  refine leaves_bind (spares_writeNative _ _) h3 fun _ s4 hwritten h4 => ?_
  refine leaves_bind spares_requireRecovery h4 fun _ s5 hcurrent' h5 => ?_
  refine leaves_lift h5 fun merged hmerged => ?_
  have hspares5 : Spares s₀ s5 :=
    IsTrans.trans _ _ _ (IsTrans.trans _ _ _ (IsTrans.trans _ _ _ hspares hcurrent) hwritten) hcurrent'
  have hupdated : Leaves store pruned e (writeUpdated merged s₀.time) s5 := by
    unfold writeUpdated
    apply wp_ite
    · exact fun _ => leaves_sparing .pure h5
    · intro hsome
      have hentries : Released pruned s₀.time e ∨ ∃ e' ∈ merged.1, Continues pruned s₀.time e e' := by
        rcases hes with rfl | hes
        · exact absurd (by rw [mergeJournaled_nil hmerged]; rfl) hsome
        · refine hes.imp_right fun hes => ?_
          have hstart : JournalKeeps pruned s₀.time e (es, []) := hes
          have hkeeps := Results.foldlM_keeps (P := JournalKeeps pruned s₀.time e)
            (fun _ _ _ _ hkeeps hround => journalKeeps_mergeJournaled hpruned hkeeps hround) hstart
            hmerged
          exact hkeeps.2
      refine leaves_then (leaves_writeEntries h0 hspares5 hentries) fun _ s6 h6 => ?_
      exact leaves_sparing spares_requireRecovery h6
  exact leaves_then hupdated fun _ s6 h6 => leaves_sparing .pure h6

/-- Whether a call on the store leaves the entry of a profile in its slot: what is
prepared is the profile with its authority, or its profile is active or staged. -/
def StagesBeside (digest : Text) (binding : SmartAccessRuntimeLeases)
    (active staged : Option Text) : Prop :=
  if binding.profileDigest = digest then binding.hasRestrictionMetadata = true
  else active = some digest ∨ staged = some digest

theorem leaves_prepareStage {binding : SmartAccessRuntimeLeases} {active staged : Option Text}
    (hrestricted : e.Withdrawn ∨ e.decided ≠ []) (hbeside : StagesBeside e.digest binding active staged)
    (h : Follows store pruned e s) :
    wp (store.prepareStage binding active staged) (fun r s' => Follows store pruned e s' ∧
      (binding.profileDigest = e.digest → r = .ok true → Released pruned s.tick.time e)) s := by
  have h0 := h.spare (spares_tick s)
  unfold prepareStage
  rw [wp_bind, wp_isCurrent, next_ok]
  apply wp_ite
  · intro _
    rw [wp_bind, wp_now, next_ok, wp_bind]
    refine (spares_guardNativeStage store _ _ _).wp ?_
    rintro (error | _) s1 hguard
    · exact ⟨(h0.spare (spares_tick _)).spare hguard, fun _ => nofun⟩
    · rw [next_ok, wp_bind]
      refine wp_mono (wp_remains h0 (IsTrans.trans _ _ _ (spares_tick _) hguard)) ?_
      rintro (error | es) s2 ⟨hspares, hes⟩
      · exact ⟨h0.spare hspares, fun _ => nofun⟩
      · rw [next_ok, wp_bind, wp_isCurrent, next_ok]
        have hspares3 : Spares s.tick s2.tick := IsTrans.trans _ _ _ hspares (spares_tick _)
        apply wp_ite
        · intro _
          apply wp_lift_bind
          · exact fun error _ => ⟨h0.spare hspares3, fun _ => nofun⟩
          · intro next hnext
            -- the entry that is left says whether the profile may be staged
            have hreleased : binding.profileDigest = e.digest → Released pruned s.tick.time e := by
              intro hdigest
              rcases hes es rfl with hreleased | ⟨-, e', he', hcontinues⟩
              · exact hreleased
              · rw [StagesBeside, if_pos hdigest] at hbeside
                obtain ⟨hclear, hnone⟩ := clear_of_stagedEntries hnext hbeside he'
                  (hcontinues.digest.trans hdigest.symm)
                exact hcontinues.released hrestricted hclear hnone
            have hkept : Released pruned s.tick.time e ∨
                ∃ e' ∈ next, Continues pruned s.tick.time e e' := by
              by_cases hdigest : binding.profileDigest = e.digest
              · exact .inl (hreleased hdigest)
              · refine (hes es rfl).imp_right fun ⟨_, e', he', hcontinues⟩ => ?_
                rw [StagesBeside, if_neg hdigest, ← hcontinues.digest] at hbeside
                rw [← hcontinues.digest] at hdigest
                exact ⟨e', mem_stagedEntries hnext he' (Ne.symm hdigest) hbeside, hcontinues⟩
            refine wp_bind.mpr (wp_mono (leaves_writeEntries h0 hspares3 hkept) ?_)
            rintro (error | _) s3 h3
            · exact ⟨h3, fun _ => nofun⟩
            · exact ⟨h3, fun hdigest _ => hreleased hdigest⟩
        · exact fun _ => ⟨h0.spare hspares3, fun _ => nofun⟩
  · exact fun _ => ⟨h0, fun _ => nofun⟩

/-! ## Runs -/

inductive StoreCall
  | read (profileDigest : Text)
  | readNativeRestrictions
  | prepareStage (binding : SmartAccessRuntimeLeases) (activeDigest stagedDigest : Option Text)
  | retainRenewal (renewal : SmartAccessLeaseRenewal)
  | retainDecisions (binding : SmartAccessRuntimeLeases)
      (received : ReceivedRestrictions)
  | retainNativeJournal (encoded : Text) (activeProfileDigest : Option Text)
      (currentLeaseIds : List Text)

namespace StoreCall

/-- The device after a call, whatever its answer was. -/
def after (store : SmartAccessRuntimeStore) (s : Device) : StoreCall → Device
  | read digest => (store.read digest s).2
  | readNativeRestrictions => (store.readNativeRestrictions s).2
  | prepareStage binding active staged => (store.prepareStage binding active staged s).2
  | retainRenewal renewal => (store.retainRenewal renewal s).2
  | retainDecisions binding received => (store.retainDecisions binding received s).2
  | retainNativeJournal encoded active ids => (store.retainNativeJournal encoded active ids s).2

/-- It may drop decisions on leases that are over. -/
def prunes : StoreCall → Bool
  | retainRenewal _ => true
  | retainNativeJournal _ _ _ => true
  | _ => false

/-- It leaves the entry of a profile in its slot. -/
def Spares (digest : Text) : StoreCall → Prop
  | prepareStage binding active staged => StagesBeside digest binding active staged
  | _ => True

end StoreCall

theorem follows_after {call : StoreCall} (hrestricted : e.Withdrawn ∨ e.decided ≠ [])
    (hspares : call.Spares e.digest) (hprunes : call.prunes = true → pruned)
    (h : Follows store pruned e s) : Follows store pruned e (call.after store s) := by
  cases call with
  | read digest => exact leaves_read h
  | readNativeRestrictions => exact leaves_readNativeRestrictions h
  | prepareStage binding active staged => exact (leaves_prepareStage hrestricted hspares h).1
  | retainRenewal renewal => exact leaves_retainRenewal (hprunes rfl) h
  | retainDecisions binding received => exact leaves_retainDecisions h
  | retainNativeJournal encoded active ids => exact leaves_retainNativeJournal (hprunes rfl) h

theorem follows_run {calls : List StoreCall} (hrestricted : e.Withdrawn ∨ e.decided ≠ [])
    (hspares : ∀ call ∈ calls, call.Spares e.digest)
    (hprunes : ∀ call ∈ calls, call.prunes = true → pruned) (h : Follows store pruned e s) :
    Follows store pruned e (Runs.run (StoreCall.after store) s calls) := by
  induction calls generalizing s with
  | nil => exact h
  | cons call calls ih =>
    refine ih (fun c hc => hspares c (List.mem_cons_of_mem _ hc))
      (fun c hc => hprunes c (List.mem_cons_of_mem _ hc)) ?_
    exact follows_after hrestricted (hspares call List.mem_cons_self)
      (hprunes call List.mem_cons_self) h

/-- The entry that `retainDecisions` found for a profile, and what it wrote for it. -/
structure Recorded (store : SmartAccessRuntimeStore) (received : ReceivedRestrictions)
    (digest : Text) (s : Device) (entry updated : StoredSmartAccessRuntime) : Prop where
  stored : ∃ all, store.inventoryAt s.time s.inventory = .ok all ∧ entry ∈ all
  digest : entry.digest = digest
  decided : decidedEntry received entry = .ok updated

theorem follows_retainDecisions {binding : SmartAccessRuntimeLeases}
    {received : ReceivedRestrictions} (hsteady : Steady s)
    (h : store.retainDecisions binding received s = (.ok (), s')) :
    ∃ entry updated, Recorded store received binding.profileDigest s entry updated ∧
      ∀ pruned, Follows store pruned updated s' := by
  have hspec : wp (store.retainDecisions binding received) (fun r s' => r = .ok () →
      ∃ entry updated, Recorded store received binding.profileDigest s entry updated ∧
        ∀ pruned, Follows store pruned updated s') s := by
    unfold retainDecisions
    rw [wp_bind, wp_now, next_ok, wp_bind]
    refine wp_mono (wp_readEntries s.tick) ?_
    rintro (error | es) s1 ⟨hspares, hread⟩
    · exact nofun
    · obtain ⟨all, hall, hes⟩ := hread es rfl
      rw [next_ok]
      cases hentry : entryFor binding.profileDigest es with
      | none => exact nofun
      | some entry =>
        obtain ⟨hmem, hdigest⟩ := of_entryFor hentry
        have hstored : entry ∈ all := List.mem_of_mem_filter (hes ▸ hmem)
        apply wp_lift_bind
        · exact fun _ _ => nofun
        · intro updated hupdated
          refine wp_mono (wp_writeEntries s1) ?_
          rintro r s2 ⟨hadvances, hwritten⟩ rfl
          refine ⟨entry, updated, ⟨⟨all, hall, hstored⟩, hdigest, hupdated⟩, fun pruned => ?_⟩
          have hcontinues : Continues pruned s1.time entry updated :=
            (continues_decidedEntry hupdated).1
          rcases hwritten with ⟨hfailed, -⟩ | ⟨completed, hwritten⟩
          · exact absurd rfl hfailed
          · have hsteady1 : Steady s1 :=
              hsteady.advance (IsTrans.trans _ _ _ (spares_tick s) hspares).toAdvances
            exact .write hsteady1 hadvances
              (.inr ⟨updated, mem_replaceEntry_self hmem hcontinues.digest.symm, .refl _⟩) hwritten
  rw [wp, h] at hspec
  exact hspec rfl

/-- The time that `prepareStage` reads when it comes after some calls. -/
def stagingTime (store : SmartAccessRuntimeStore) (s : Device) (calls : List StoreCall) : DateTime :=
  (Runs.run (StoreCall.after store) s calls).tick.time

/-- What was received against a profile is over when the profile is staged again: if its
catalog or a service was revoked, none of the authority that was recorded with it is
live; and the leases that were decided on are no longer active. Unless some call may have
dropped the decisions on those, there is no live authority then either. All this is as
long as the entry keeps its slot. -/
theorem revoked_not_restaged (store : SmartAccessRuntimeStore) (binding next : SmartAccessRuntimeLeases)
    (received : ReceivedRestrictions) (calls : List StoreCall)
    (active staged : Option Text) (s s₁ s₃ : Device) (hsteady : Steady s)
    (hrecorded : store.retainDecisions binding received s = (.ok (), s₁))
    (hspares : ∀ call ∈ calls, call.Spares binding.profileDigest)
    (hdigest : next.profileDigest = binding.profileDigest)
    (hmetadata : next.hasRestrictionMetadata = true)
    (hstaged : store.prepareStage next active staged (Runs.run (StoreCall.after store) s₁ calls) =
      (.ok true, s₃)) :
    ∃ entry updated, Recorded store received binding.profileDigest s entry updated ∧
      (received.catalogRevoked = true ∨ received.catalogServiceRevocations ≠ [] →
        entry.binding.hasLiveAuthority (stagingTime store s₁ calls) = false) ∧
      ∀ lease ∈ entry.binding.leases, (∃ decision ∈ received.decisions, decision.1 = lease.leaseId) →
        (stagingTime store s₁ calls).isBefore lease.activeFlowsUntil = false ∧
          ((∀ call ∈ calls, call.prunes = false) →
            entry.binding.hasLiveAuthority (stagingTime store s₁ calls) = false) := by
  obtain ⟨entry, updated, hentry, hfollows⟩ := follows_retainDecisions hsteady hrecorded
  refine ⟨entry, updated, hentry, ?_⟩
  let pruned : Prop := ∃ call ∈ calls, call.prunes = true
  obtain ⟨hcontinues, hbinding, hdecided, hwithdrawn⟩ : Continues pruned s.time entry updated ∧ _ :=
    continues_decidedEntry hentry.decided
  have hsame : updated.digest = binding.profileDigest := hcontinues.digest.trans hentry.digest
  have hreleased : updated.Withdrawn ∨ updated.decided ≠ [] →
      Released pruned (stagingTime store s₁ calls) updated := by
    intro hrestricted
    rw [← hsame] at hspares hdigest
    have hrun := follows_run hrestricted hspares (fun call hmem h => ⟨call, hmem, h⟩) (hfollows pruned)
    have hbeside : StagesBeside updated.digest next active staged := by
      rwa [StagesBeside, if_pos hdigest]
    have hspec := leaves_prepareStage hrestricted hbeside hrun
    rw [wp, hstaged] at hspec
    exact hspec.2 hdigest rfl
  rw [← hbinding]
  constructor
  · intro hcase
    exact (hreleased (.inl (hwithdrawn hcase))).expired (.inl (hwithdrawn hcase))
  · rintro lease hlease ⟨decision, hmem, hid⟩
    have hmem' : lease.leaseId ∈ updated.decided := hid ▸ hdecided decision hmem
    have hover := hreleased (.inr (List.ne_nil_of_mem hmem'))
    refine ⟨hover.leases lease hlease hmem', fun hnone => hover.expired (.inr ?_)⟩
    rintro ⟨call, hcall, hprunes⟩
    rw [hnone call hcall] at hprunes
    cases hprunes

/-! ## A profile that is forgotten -/

def sampleStore : SmartAccessRuntimeStore where
  platform := text "windows"
  audience := text "lab"
  sha256 := fun _ _ => 0
  sortByIssue := id

def midnight : DateTime := ⟨1767225600000000, by decide, by decide⟩

def oneOClock : DateTime := ⟨1767229200000000, by decide, by decide⟩

def halfPastOne : DateTime := ⟨1767231000000000, by decide, by decide⟩

def twoOClock : DateTime := ⟨1767232800000000, by decide, by decide⟩

/-- A device without anything stored, on which an hour passes at some tick. -/
def sampleDevice (passing : Nat) : Device where
  inventory := none
  restrictions := none
  clock := fun i => if i < passing then oneOClock else twoOClock
  current := fun _ => true
  storage := fun _ => .done

theorem steady_sampleDevice (passing : Nat) : Steady (sampleDevice passing) := by
  intro i j hij
  show (if i < passing then oneOClock else twoOClock).micros ≤
    (if j < passing then oneOClock else twoOClock).micros
  split
  · split
    · exact Int.le_refl _
    · decide
  · rw [if_neg (by omega)]

def digestOf (c : Char) : Text := List.replicate 64 (unit c)

/-- A profile with a catalog that expires at half past one. -/
def sampleBinding (c : Char) : SmartAccessRuntimeLeases where
  profileDigest := digestOf c
  leases := []
  catalogIssuedAt := some midnight
  catalogExpiresAt := some halfPastOne
  catalogSha256 := some (digestOf 'c')

def catalogWithdrawal : ReceivedRestrictions where
  decisions := []
  catalogRevoked := true

/-- The first profile is staged. -/
def stagedDevice (passing : Nat) : Device :=
  (sampleStore.prepareStage (sampleBinding 'a') none none (sampleDevice passing)).2

/-- Its catalog is revoked. -/
def revokedDevice (passing : Nat) : Device :=
  (sampleStore.retainDecisions (sampleBinding 'a') catalogWithdrawal (stagedDevice passing)).2

def isStaged (r : Except Failure Bool × Device) : Bool :=
  match r.1 with
  | .ok recorded => recorded
  | .error _ => false

theorem eq_of_isStaged {r : Except Failure Bool × Device} (h : isStaged r = true) :
    r = (.ok true, r.2) := by
  obtain ⟨answer, s⟩ := r
  cases answer with
  | error e => cases h
  | ok recorded =>
    obtain rfl : recorded = true := h
    rfl

theorem revokedDevice_recorded (passing : Nat)
    (h : (sampleStore.retainDecisions (sampleBinding 'a') catalogWithdrawal
      (stagedDevice passing)).1.isOk = true) :
    sampleStore.retainDecisions (sampleBinding 'a') catalogWithdrawal (stagedDevice passing) =
      (.ok (), revokedDevice passing) := by
  unfold revokedDevice
  rcases hresult : sampleStore.retainDecisions (sampleBinding 'a') catalogWithdrawal
    (stagedDevice passing) with ⟨answer, s⟩
  rw [hresult] at h
  cases answer with
  | error e => cases h
  | ok _ => rfl

/-- Another profile is prepared while the revoked one is active; then its catalog
expires, and it is staged again. -/
theorem sampleProfile_restaged : ∃ entry updated,
    Recorded sampleStore catalogWithdrawal (digestOf 'a') (stagedDevice 22) entry updated ∧
      entry.binding.hasLiveAuthority (stagingTime sampleStore (revokedDevice 22)
        [.prepareStage (sampleBinding 'b') (some (digestOf 'a')) none]) = false := by
  have hsteady : Steady (stagedDevice 22) :=
    (steady_sampleDevice 22).advance (advances_prepareStage _ _ _ _ _)
  obtain ⟨hrevoked, hstaged⟩ : (sampleStore.retainDecisions (sampleBinding 'a') catalogWithdrawal
        (stagedDevice 22)).1.isOk = true ∧
      isStaged (sampleStore.prepareStage (sampleBinding 'a') none none
        (Runs.run (StoreCall.after sampleStore) (revokedDevice 22)
          [.prepareStage (sampleBinding 'b') (some (digestOf 'a')) none])) = true := by
    decide +kernel
  obtain ⟨entry, updated, hentry, hover, -⟩ := revoked_not_restaged sampleStore (sampleBinding 'a')
    (sampleBinding 'a') catalogWithdrawal [.prepareStage (sampleBinding 'b') (some (digestOf 'a')) none]
    none none (stagedDevice 22) (revokedDevice 22) _ hsteady
    (revokedDevice_recorded 22 hrevoked)
    (by
      rintro call (_ | _)
      · exact .inl rfl
      · rename_i h
        cases h) rfl rfl (eq_of_isStaged hstaged)
  exact ⟨entry, updated, hentry, hover (.inl rfl)⟩

/-- Another profile is prepared while the revoked one is neither active nor staged, and
then that is staged again with its catalog as it was. -/
theorem revoked_profile_forgotten :
    Steady (sampleDevice 100) ∧
    sampleStore.retainDecisions (sampleBinding 'a') catalogWithdrawal (stagedDevice 100) =
      (.ok (), revokedDevice 100) ∧
    isStaged (sampleStore.prepareStage (sampleBinding 'b') none none (revokedDevice 100)) = true ∧
    isStaged (sampleStore.prepareStage (sampleBinding 'a') none none
      (sampleStore.prepareStage (sampleBinding 'b') none none (revokedDevice 100)).2) = true ∧
    (sampleBinding 'a').hasLiveAuthority (stagingTime sampleStore (revokedDevice 100)
      [.prepareStage (sampleBinding 'b') none none]) = true :=
  ⟨steady_sampleDevice 100, revokedDevice_recorded 100 (by decide +kernel), by decide +kernel⟩

/-! ## Decisions that are pruned -/

theorem mem_renewedLeases {ids : List Text} {next lease : SmartAccessLeaseIdentity} {now : DateTime}
    {leases retained : List SmartAccessLeaseIdentity}
    (h : renewedLeases ids next now leases = .ok retained) (hmem : lease ∈ retained) :
    lease.leaseId = next.leaseId ∨
      lease ∈ leases ∧ (lease.leaseId ∈ ids ∨ now.isBefore lease.activeFlowsUntil = true) := by
  obtain ⟨⟨⟩, -, h⟩ := bind_eq_ok.mp h
  cases h
  split at hmem <;> grind

/-- A renewal drops the decisions on leases that are over and not current. Then the profile
is staged again, though others of its leases or its catalog may be live. -/
theorem renewedEntry_forgets {renewal : SmartAccessLeaseRenewal} {next : SmartAccessLeaseIdentity}
    {now later time : DateTime} {entry updated : StoredSmartAccessRuntime}
    {binding : SmartAccessRuntimeLeases}
    (hrenewed : renewedEntry renewal next now later entry = .ok updated)
    (hservices : entry.catalogServiceRevocations = [])
    (hover : ∀ lease ∈ entry.binding.leases, lease.leaseId ∈ entry.decided →
      now.isBefore lease.activeFlowsUntil = false ∧ lease.leaseId ∉ currentIds renewal)
    (hlisted : (updated.binding.leases.any fun old => time.isBefore old.activeFlowsUntil &&
      !binding.leases.any fun lease => lease.matchesLease old) = false) :
    updated.decisions = [] ∧ restagedDecisions binding time [] updated = .ok [] := by
  unfold renewedEntry at hrenewed
  obtain ⟨⟨⟩, -, h⟩ := bind_eq_ok.mp hrenewed
  obtain ⟨⟨⟩, hunrevoked, h⟩ := bind_eq_ok.mp h
  obtain ⟨retained, hretained, h⟩ := bind_eq_ok.mp h
  obtain ⟨⟨⟩, -, h⟩ := bind_eq_ok.mp h
  obtain rfl := Except.ok.inj h
  rw [rejectIf_eq_ok] at hunrevoked
  simp only [not_or, Bool.not_eq_true] at hunrevoked
  obtain ⟨hcatalog, -, -, -, hnext⟩ := hunrevoked
  have hnone : (retaining entry retained).decisions = [] := by
    refine List.filter_eq_nil_iff.mpr fun decision hdecision hkept => ?_
    obtain ⟨lease, hlease, hid⟩ := List.mem_map.mp (List.contains_iff_mem.mp hkept)
    rcases mem_renewedLeases hretained hlease with hsame | ⟨hmem, hcounts⟩
    · -- a renewal is refused where its new lease is decided on
      have := List.lookup_isSome_iff.mpr ⟨decision, hdecision, beq_iff_eq.mpr (hsame.symm.trans hid)⟩
      rw [hnext] at this
      cases this
    · obtain ⟨hended, hcurrent⟩ := hover lease hmem (List.mem_map.mpr ⟨decision, hdecision, hid.symm⟩)
      rcases hcounts with hids | hactive
      · exact hcurrent hids
      · rw [hended] at hactive
        cases hactive
  refine ⟨hnone, ?_⟩
  unfold restagedDecisions
  split
  · refine bind_eq_ok.mpr ⟨⟨⟩, rejectIf_eq_ok.mpr ?_, bind_eq_ok.mpr ⟨⟨⟩, rejectIf_eq_ok.mpr ?_, ?_⟩⟩
    · rintro (h | h | h)
      · exact h hnone
      · exact absurd (hcatalog.symm.trans h) Bool.false_ne_true
      · exact h hservices
    · exact Bool.eq_false_iff.mp hlisted
    · exact congrArg Except.ok hnone
  · rfl

end Pokrov.AppShell.SmartAccess
