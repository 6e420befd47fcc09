import Pokrov.AppShell.CatalogTurns

/-!
# What the operations of the catalog store leave

One lemma for each program. A program in a turn has loaded what is stored, and its
record may take its place. What the thread has noted itself is known at its end.
-/

namespace Pokrov.AppShell

open Dart Effects

/-! ## What an operation has noted -/

/-- Its writes have left the floors and the envelope alone, or have failed. -/
def Unharmed (i : Nat) (history : List CatalogNote) : Prop :=
  ∀ before raw reported, .wrote i before raw reported ∈ history →
    floorOf (some raw) = floorOf before ∨ reported = false

/-- It has not ended a suspension. -/
def Unresumed (i : Nat) (history : List CatalogNote) : Prop := ∀ g, .resumed i g ∉ history

/-- A denial came after it went on to write. -/
def Overtaken (i : Nat) (history : List CatalogNote) : Prop :=
  ∃ (before : List CatalogNote) (g : Nat) (between : List CatalogNote) (denied : Nat)
    (late : List CatalogNote), .discarded denied ∈ between ∧
    history = before ++ .committing i g :: (between ++ .superseded i :: late)

/-- It has denied what came before, and erased the envelope in its turn. -/
def Denies (i : Nat) (history : List CatalogNote) : Prop :=
  ∃ (before : List CatalogNote) (g : Nat) (between late : List CatalogNote),
    history = before ++ .discarded g :: (between ++ .erased i g :: late)

/-- What an operation that has ended has noted. -/
def CatalogAnswer.Ended (i : Nat) (history : List CatalogNote) : CatalogAnswer → Prop
  | .read (.ok (some catalog)) => ∃ now raw, .returned i catalog now raw ∈ history
  | .accept (.error _) => (Unharmed i history ∨ Overtaken i history) ∧ Unresumed i history
  | .accept (.ok _) => ∃ g, .resumed i g ∈ history
  | .discardEnvelope (.ok _) => Denies i history
  | _ => True

/-- What the notes of others leave alone. -/
def Lasting (i : Nat) (P : List CatalogNote → Prop) : Prop :=
  ∀ history added, (∀ note ∈ added, note.thread ≠ some i) → P history → P (history ++ added)

theorem lasting_unharmed {i : Nat} : Lasting i (Unharmed i) := by
  intro history added hothers h before raw reported hmem
  rcases List.mem_append.mp hmem with hmem | hmem
  · exact h before raw reported hmem
  · exact absurd rfl (hothers _ hmem)

theorem lasting_unresumed {i : Nat} : Lasting i (Unresumed i) := by
  intro history added hothers h g hmem
  rcases List.mem_append.mp hmem with hmem | hmem
  · exact h g hmem
  · exact absurd rfl (hothers _ hmem)

theorem lasting_overtaken {i : Nat} : Lasting i (Overtaken i) := by
  rintro history added - ⟨before, g, between, denied, late, hdenied, rfl⟩
  exact ⟨before, g, between, denied, late ++ added, hdenied, by simp⟩

theorem lasting_denies {i : Nat} : Lasting i (Denies i) := by
  rintro history added - ⟨before, g, between, late, rfl⟩
  exact ⟨before, g, between, late ++ added, by simp⟩

theorem Lasting.or {i : Nat} {P R : List CatalogNote → Prop} (hP : Lasting i P) (hR : Lasting i R) :
    Lasting i fun history => P history ∨ R history := by
  intro history added hothers h
  rcases h with h | h
  · exact .inl (hP history added hothers h)
  · exact .inr (hR history added hothers h)

theorem Lasting.and {i : Nat} {P R : List CatalogNote → Prop} (hP : Lasting i P) (hR : Lasting i R) :
    Lasting i fun history => P history ∧ R history :=
  fun history added hothers h => ⟨hP history added hothers h.1, hR history added hothers h.2⟩

theorem Lasting.const {i : Nat} {p : Prop} : Lasting i fun _ => p := fun _ _ _ h => h

theorem CatalogAnswer.lasting_ended {i : Nat} (answer : CatalogAnswer) :
    Lasting i fun history => answer.Ended i history := by
  cases answer with
  | read result =>
    rcases result with _ | _ | catalog
    · exact .const
    · exact .const
    · rintro history added - ⟨now, raw, hmem⟩
      exact ⟨now, raw, List.mem_append_left _ hmem⟩
  | accept result =>
    cases result with
    | error e => exact (lasting_unharmed.or lasting_overtaken).and lasting_unresumed
    | ok catalog =>
      rintro history added - ⟨g, hmem⟩
      exact ⟨g, List.mem_append_left _ hmem⟩
  | discardEnvelope result =>
    cases result with
    | error e => exact .const
    | ok u => exact lasting_denies

/-! ## The outline -/

/-- A thread starts with nothing noted in its name. -/
def catalogOutline (first : Option StoredText) : Outline catalogStore where
  inv := CatalogInv first
  rely := CatalogRely first
  pre := fun i _ s => i < s.called ∧ ∀ note ∈ s.history, note.thread ≠ some i
  post := fun i answer s => answer.Ended i s.history
  refl := CatalogRely.refl
  trans := CatalogRely.trans

namespace CatalogSpec

variable {first : Option StoredText} {i : Nat} {s : CatalogState} {α β : Type}
  {E : CatalogState → Prop} {P : List CatalogNote → Prop}

theorem Lasting.stable {P : List CatalogNote → Prop} (hP : Lasting i P) :
    (catalogOutline first).Stable i fun s => P s.history := by
  intro s s' hrely hs
  rcases hrely.grows with ⟨added, hgrows, hothers⟩
  show P s'.history
  rw [hgrows]
  exact hP _ _ hothers hs

theorem stable_turned : (catalogOutline first).Stable i (Turned i) :=
  fun _ _ hrely hs => CatalogRely.turned hrely hs

theorem stable_called : (catalogOutline first).Stable i fun s => i < s.called :=
  fun _ _ hrely hs => Nat.lt_of_lt_of_le hs hrely.called_le

/-- The turn is the thread's, and it has noted this. -/
structure Keeping (i : Nat) (P : List CatalogNote → Prop) (s : CatalogState) : Prop where
  turned : Turned i s
  noted : P s.history

theorem stable_keeping (hP : Lasting i P) : (catalogOutline first).Stable i (Keeping i P) :=
  fun s s' hrely h => ⟨stable_turned s s' hrely h.turned, Lasting.stable hP s s' hrely h.noted⟩

/-! ### Calls -/

variable {c : CatalogCall}

/-- One call, for which is done what is owed. -/
theorem turn_owed {Q : c.Answer → CatalogState → Prop}
    (h : ∀ s1, CatalogRely first i s s1 → CatalogInv first s1 → OwedCatalog first i s1 c ∧ ∀ r, CatalogState.Honest ⟨c, r⟩ → s1.allows i ⟨c, r⟩ → ∀ s2, CatalogRely first i (s1.effect i ⟨c, r⟩) s2 → Q r s2) :
    (catalogOutline first).Turn i E (RoutingCatalogStore.call c) Q s := by
  apply Outline.Turn.call
  rintro s1 hrely hinv r s2 ⟨hhonest, hallows, rfl⟩
  rcases h s1 hrely hinv with ⟨howed, hnext⟩
  exact ⟨hinv.effect howed hallows, fun j hj => catalogRely_effect hj hinv howed hallows,
    hnext r hhonest hallows⟩

/-- A call that leaves the storage and the statics as they are. -/
def Plain : CatalogCall → Prop
  | .now => True
  | .requireGeneration _ => True
  | .readStorage => True
  | .isSuspended => True
  | .verification => True
  | _ => False

theorem effect_of_plain (hc : Plain c) (r : c.Answer) : s.effect i ⟨c, r⟩ = s := by
  cases c <;> first | rfl | exact absurd hc id

theorem owed_of_plain (hc : Plain c) : OwedCatalog first i s c := by
  cases c <;> trivial

theorem turn_plain {K : CatalogState → Prop} {Q : c.Answer → CatalogState → Prop} (hc : Plain c)
    (hK : (catalogOutline first).Stable i K) (hs : K s)
    (h : ∀ r s1 s2, K s1 → CatalogInv first s1 → s1.allows i ⟨c, r⟩ → CatalogRely first i s1 s2 → K s2 → Q r s2) :
    (catalogOutline first).Turn i E (RoutingCatalogStore.call c) Q s := by
  apply turn_owed
  intro s1 hrely hinv
  refine ⟨owed_of_plain hc, fun r _ hallows s2 hrely2 => ?_⟩
  rw [effect_of_plain hc] at hrely2
  have hs1 : K s1 := hK s s1 hrely hs
  exact h r s1 s2 hs1 hinv hallows hrely2 (hK s1 s2 hrely2 hs1)

theorem turn_require {hc : c.Answer = Try α} {K : CatalogState → Prop} {Q : α → CatalogState → Prop}
    (hplain : Plain c) (hE : (catalogOutline first).Stable i E)
    (hK : (catalogOutline first).Stable i K) (hthrown : ∀ s, K s → E s) (hs : K s)
    (h : ∀ a s', K s' → Q a s') :
    (catalogOutline first).Turn i E (RoutingCatalogStore.require c hc) Q s := by
  apply Outline.Turn.bind hE
  apply turn_plain hplain hK hs
  intro r s1 s2 _ _ _ _ hs2
  exact .attempt hK hthrown hs2 fun a s' _ hs' => h a s' hs'

/-! ### The record -/

/-- The thread has this of the storage. -/
structure Loaded (first : Option StoredText) (i : Nat) (P : List CatalogNote → Prop)
    (value : CatalogRecord) (s : CatalogState) : Prop extends Keeping i P s where
  stands : Stands s.durable value
  erased : (s.view first).erased = true → value.envelope = .null

theorem stable_loaded {value : CatalogRecord} (hP : Lasting i P) :
    (catalogOutline first).Stable i (Loaded first i P value) := by
  intro s s' hrely h
  rcases hrely.held h.turned with ⟨-, hdurable, herased⟩
  constructor
  · exact stable_keeping hP s s' hrely h.toKeeping
  · rw [hdurable]
    exact h.stands
  · rw [herased]
    exact h.erased

theorem erased_of_inv (hinv : CatalogInv first s) (hfence : (s.view first).erased = true) :
    CatalogErased s.durable := by
  rw [← hinv.shows.durable]
  exact hinv.fitting.erased (fun h => by cases h) hfence

/-- `_load`. -/
theorem turn_load {Q : CatalogRecord → CatalogState → Prop} (hE : (catalogOutline first).Stable i E)
    (hP : Lasting i P) (hthrown : ∀ s, Keeping i P s → E s) (hs : Keeping i P s)
    (h : ∀ value s', Loaded first i P value s' → Q value s') :
    (catalogOutline first).Turn i E RoutingCatalogStore.load Q s := by
  have hkeeping : (catalogOutline first).Stable i (Keeping i P) := stable_keeping hP
  unfold RoutingCatalogStore.load
  apply Outline.Turn.bind hE
  apply Outline.Turn.bind hE
  apply turn_plain (by trivial) hkeeping hs
  intro r s1 s2 hs1 hinv hallows hrely hs2
  have hknown : Keeping i P s2 ∧ s2.durable = s1.durable ∧
      ((s2.view first).erased = true → CatalogErased s1.durable) := by
    rcases hrely.held hs1.turned with ⟨-, hdurable, herased⟩
    rw [herased]
    exact ⟨hs2, hdurable, erased_of_inv hinv⟩
  have hstable : (catalogOutline first).Stable i fun s => Keeping i P s ∧ s.durable = s1.durable ∧
      ((s.view first).erased = true → CatalogErased s1.durable) := by
    rintro a b hmoves ⟨ha, hdurable, herased⟩
    rcases CatalogRely.held hmoves ha.turned with ⟨-, hdurable', herased'⟩
    exact ⟨hkeeping a b hmoves ha, hdurable'.trans hdurable, fun hb => herased (herased' ▸ hb)⟩
  apply Outline.Turn.attempt hstable (fun s hs => hthrown s hs.1) hknown
  intro raw s3 hr hs3
  have hraw : raw = s1.durable := hallows raw hr
  subst hraw
  apply Outline.Turn.bind hE
  apply Outline.Turn.attempt hstable (fun s hs => hthrown s hs.1) hs3
  intro loaded s4 hload hs4
  cases loaded with
  | some value =>
    apply Outline.Turn.pure hstable hs4
    rintro s5 ⟨hs5, hdurable, herased⟩
    refine h value s5 ⟨hs5, .inl (hdurable ▸ hload), fun hfence => ?_⟩
    exact (herased hfence).load hload
  | none =>
    have hnone : s1.durable = none := loadCatalog_none hload
    apply Outline.Turn.bind hE
    apply turn_plain (by trivial) hstable hs4
    intro now _ s5 _ _ _ _ hs5
    apply Outline.Turn.pure hstable hs5
    rintro s6 ⟨hs6, hdurable, herased⟩
    exact h _ s6 ⟨hs6, .inr ⟨hdurable.trans hnone, now, rfl⟩, fun _ => rfl⟩

/-- `_write` of a record that may take the place of the one that was loaded. -/
theorem turn_write {P' : List CatalogNote → Prop} {before value : CatalogRecord}
    {Q : Unit → CatalogState → Prop} (hE : (catalogOutline first).Stable i E) (hP' : Lasting i P')
    (hthrown : ∀ s, Keeping i P s → E s) (hP : Lasting i P) (hs : Loaded first i P before s)
    (hsucceeds : Succeeds before value)
    (herased : (s.view first).erased = true → value.envelope = .null)
    (hfailed : ∀ (history : List CatalogNote) raw, Stands raw before → Stands (some (.of value.toDocument)) value →
      P history → P (history ++ [.wrote i raw (.of value.toDocument) false]))
    (hwritten : ∀ (history : List CatalogNote) raw, Stands raw before → Stands (some (.of value.toDocument)) value →
      P history → P' (history ++ [.wrote i raw (.of value.toDocument) true]))
    (h : ∀ s', Loaded first i P' value s' → loadCatalog s'.durable = .ok (some value) → Q () s') :
    (catalogOutline first).Turn i E (RoutingCatalogStore.write value) Q s := by
  unfold RoutingCatalogStore.write
  apply Outline.Turn.ite
  · exact fun _ => .throw hE (hthrown s hs.toKeeping)
  · intro hsize
    have hfits : (StoredText.of value.toDocument).bytes ≤ maximumCatalogRecordBytes :=
      Nat.not_lt.mp hsize
    apply Outline.Turn.bind hE
    apply turn_owed
    intro s1 hrely _
    have hs1 : Loaded first i P before s1 := stable_loaded hP s s1 hrely hs
    have hload : loadCatalog (some (.of value.toDocument)) = .ok (some value) :=
      loadCatalog_of hsucceeds.accepted hfits
    have herased1 : (s1.view first).erased = true → value.envelope = .null := by
      rw [(hrely.held hs.turned).2.2]
      exact herased
    refine ⟨⟨hs1.turned, follows_of_succeeds hs1.stands hsucceeds hfits, fun hfence =>
      ⟨_, value, rfl, catalogRecord_read_back value, herased1 hfence⟩⟩, ?_⟩
    rintro ⟨replaced, reported⟩ hhonest - s2 hrely2
    have hfail : reported = false → Keeping i P s2 := by
      rintro rfl
      apply stable_keeping hP _ s2 hrely2
      cases replaced with
      | false => exact hs1.toKeeping
      | true => exact ⟨⟨hs1.turned.head, hs1.turned.lt⟩, hfailed _ _ hs1.stands (.inl hload) hs1.noted⟩
    apply Outline.Turn.ite
    · exact fun hreported => .throw hE (hthrown s2 (hfail hreported))
    · intro hreported
      obtain rfl : reported = true := by simpa using hreported
      obtain rfl : replaced = true := hhonest rfl
      have hstable : (catalogOutline first).Stable i fun s =>
          Loaded first i P' value s ∧ loadCatalog s.durable = .ok (some value) := by
        rintro a b hmoves ⟨ha, hloads⟩
        refine ⟨stable_loaded hP' a b hmoves ha, ?_⟩
        rw [(CatalogRely.held hmoves ha.turned).2.1]
        exact hloads
      have hs2 : Loaded first i P' value s2 ∧ loadCatalog s2.durable = .ok (some value) := by
        apply hstable _ s2 hrely2
        refine ⟨?_, hload⟩
        refine ⟨⟨⟨hs1.turned.head, hs1.turned.lt⟩, hwritten _ _ hs1.stands (.inl hload) hs1.noted⟩, .inl hload, ?_⟩
        intro hfence
        apply herased1
        rw [← hfence, CatalogState.view, CatalogState.view]
        simp [CatalogState.effect, CatalogState.note, CatalogView.after]
      exact .pure hstable hs2 fun s3 hs3 => h s3 hs3.1 hs3.2

/-- `_observe` leaves a record with the same floors and the same envelope. -/
theorem turn_observe {value : CatalogRecord} {Q : DateTime × CatalogRecord → CatalogState → Prop}
    (hE : (catalogOutline first).Stable i E) (hthrown : ∀ s, Keeping i P s → E s) (hP : Lasting i P)
    (hs : Loaded first i P value s)
    (hwritten : ∀ history before raw reported, floorOf (some raw) = floorOf before → P history →
      P (history ++ [.wrote i before raw reported]))
    (h : ∀ now value' s', value'.observedAt = some now → Loaded first i P value' s' →
      Q (now, value') s') :
    (catalogOutline first).Turn i E (RoutingCatalogStore.observe value) Q s := by
  unfold RoutingCatalogStore.observe
  apply Outline.Turn.bind hE
  apply turn_plain (by trivial) (stable_loaded hP) hs
  intro now _ s1 _ _ _ _ hs1
  split
  · exact .throw hE (hthrown s1 hs1.toKeeping)
  · rename_i previous hprevious
    apply Outline.Turn.ite
    · exact fun _ => .throw hE (hthrown s1 hs1.toKeeping)
    · intro hnow
      have hsucceeds : Succeeds value { value with lastObservedAt := now.toIso8601String } :=
        succeeds_observe hs1.stands.accepted hprevious (by simpa using hnow)
      have hfloor : ∀ history raw after reported, Stands raw value →
          Stands (some after) { value with lastObservedAt := now.toIso8601String } → P history →
          P (history ++ [.wrote i raw after reported]) := by
        intro history raw after reported hraw hvalue hnoted
        apply hwritten history raw after reported _ hnoted
        rw [floorOf_stands hvalue, floorOf_stands hraw]
      apply Outline.Turn.bind hE
      apply turn_write hE hP hthrown hP hs1 hsucceeds hs1.erased
      · exact fun history raw => hfloor history raw _ false
      · exact fun history raw => hfloor history raw _ true
      · intro s2 hs2 _
        exact .pure (stable_loaded hP) hs2 fun s3 hs3 =>
          h now _ s3 (DateTime.tryParseUtc_toIso8601String now) hs3

/-! ### Turns -/

/-- An operation that waits for its turn, takes it and gives it back. -/
theorem safex_takeTurn {m : CatalogAsync α} {Q : α → List CatalogNote → Prop}
    {R : List CatalogNote → Prop} (hP : Lasting i P) (hQ : ∀ a, Lasting i (Q a)) (hR : Lasting i R)
    (hlt : i < s.called) (hs : P s.history)
    (h : ∀ s', Keeping i P s' →
      (catalogOutline first).Turn i (Keeping i R) m (fun a => Keeping i (Q a)) s') :
    (catalogOutline first).safex i (RoutingCatalogStore.takeTurn m) (fun a s => Q a s.history)
      (fun _ s => R s.history) s := by
  have hwaiting : (catalogOutline first).Stable i fun s => i < s.called ∧ P s.history :=
    stable_called.and (Lasting.stable hP)
  have henter : (catalogOutline first).Turn i (fun _ => False) (RoutingCatalogStore.call .enter)
      (fun _ => Keeping i P) s := by
    apply turn_owed
    intro s1 hrely _
    refine ⟨trivial, fun r _ hallows s2 hrely2 => ?_⟩
    rcases hwaiting s s1 hrely ⟨hlt, hs⟩ with ⟨hlt1, hs1⟩
    exact stable_keeping hP s1 s2 hrely2 ⟨⟨hallows, hlt1⟩, hs1⟩
  unfold RoutingCatalogStore.takeTurn
  apply Outline.safex_bind
  refine Outline.safex_mono henter.safe (fun _ s1 hs1 => ?_) fun _ _ hnever => absurd hnever id
  apply Outline.safe_bind
  apply Outline.safe_mono _ (h s1 hs1).safe
  rintro result s2 hended s3 hrely hinv ⟨⟩ s4 ⟨-, hallows, rfl⟩
  have hkept : ∀ {K : List CatalogNote → Prop}, Lasting i K → Keeping i K s2 →
      OwedCatalog first i s3 .leave ∧ ∀ s5, CatalogRely first i (s3.effect i ⟨.leave, ()⟩) s5 →
        K s5.history := by
    intro K hK hs2
    have hs3 := stable_keeping hK s2 s3 hrely hs2
    exact ⟨hs3.turned, fun s5 hrely5 => Lasting.stable hK _ s5 hrely5 hs3.noted⟩
  cases result with
  | ok a =>
    rcases hkept (hQ a) hended with ⟨howed, hend⟩
    exact ⟨hinv.effect howed hallows, fun j hj => catalogRely_effect hj hinv howed hallows, hend⟩
  | error e =>
    rcases hkept hR hended with ⟨howed, hend⟩
    exact ⟨hinv.effect howed hallows, fun j hj => catalogRely_effect hj hinv howed hallows, hend⟩

/-- The same for one that is queued first. -/
theorem safex_serialize {store : RoutingCatalogStore} {m : CatalogAsync α}
    {Q : α → List CatalogNote → Prop} {R : List CatalogNote → Prop} (hP : Lasting i P)
    (hPR : ∀ history, P history → R history) (hQ : ∀ a, Lasting i (Q a)) (hR : Lasting i R)
    (hlt : i < s.called) (hs : P s.history)
    (h : ∀ s', Keeping i P s' →
      (catalogOutline first).Turn i (Keeping i R) m (fun a => Keeping i (Q a)) s') :
    (catalogOutline first).safex i (store.serialize m) (fun a s => Q a s.history)
      (fun _ s => R s.history) s := by
  have hwaiting : (catalogOutline first).Stable i fun s => i < s.called ∧ P s.history :=
    stable_called.and (Lasting.stable hP)
  have henqueue : (catalogOutline first).Turn i (fun _ => False) (RoutingCatalogStore.call .enqueue)
      (fun _ s => i < s.called ∧ P s.history) s := by
    apply turn_owed
    intro s1 hrely _
    exact ⟨trivial, fun r _ _ s2 hrely2 => hwaiting _ s2 hrely2 (hwaiting s s1 hrely ⟨hlt, hs⟩)⟩
  unfold RoutingCatalogStore.serialize
  apply Outline.safex_ite
  · exact fun _ => Outline.safex_throw fun s' hrely => hPR _ (Lasting.stable hP s s' hrely hs)
  · intro _
    apply Outline.safex_bind
    exact Outline.safex_mono henqueue.safe
      (fun _ s1 hs1 => safex_takeTurn hP hQ hR hs1.1 hs1.2 h) fun _ _ hnever => absurd hnever id

/-! ## Operations -/

section Operations

variable {store : RoutingCatalogStore}

/-- What a thread knows that has noted nothing of interest. -/
abbrev Idle : List CatalogNote → Prop := fun _ => True

theorem stable_idle : (catalogOutline first).Stable i (Keeping i Idle) := stable_keeping .const

/-- A catalog that is returned has been noted. -/
def Returned (i : Nat) : Option VerifiedRoutingCatalog → List CatalogNote → Prop
  | some catalog, history => ∃ now raw, .returned i catalog now raw ∈ history
  | none, _ => True

theorem lasting_returned (result : Option VerifiedRoutingCatalog) : Lasting i (Returned i result) := by
  cases result with
  | none => exact .const
  | some catalog =>
    rintro history added - ⟨now, raw, hmem⟩
    exact ⟨now, raw, List.mem_append_left _ hmem⟩

theorem turn_none (hs : Keeping i Idle s) :
    (catalogOutline first).Turn i (Keeping i Idle)
      (pure none : CatalogAsync (Option VerifiedRoutingCatalog))
      (fun a => Keeping i (Returned i a)) s :=
  .pure stable_idle hs fun _ h => ⟨h.turned, trivial⟩

theorem turn_orNone {m : CatalogAsync (Option VerifiedRoutingCatalog)}
    (h : (catalogOutline first).Turn i (Keeping i Idle) m (fun a => Keeping i (Returned i a)) s) :
    (catalogOutline first).Turn i (Keeping i Idle) (RoutingCatalogStore.orNone m)
      (fun a => Keeping i (Returned i a)) s := by
  constructor
  apply Outline.safe_bind
  apply Outline.safe_mono _ h.safe
  intro r s1 hended
  cases r with
  | ok a => exact fun s2 hrely => stable_keeping (lasting_returned a) s1 s2 hrely hended
  | error e =>
    have hkept : ∀ s2, CatalogRely first i s1 s2 → Keeping i Idle s2 :=
      fun s2 hrely => stable_idle s1 s2 hrely hended
    cases e with
    | catalog code => exact fun s2 hrely => ⟨(hkept s2 hrely).turned, trivial⟩
    | _ => exact hkept

variable {value : CatalogRecord} {now : DateTime} {catalog : VerifiedRoutingCatalog}
  {history : List CatalogNote} {note : CatalogNote} {g : Nat}

/-- A record with the envelope that is admitted again is that of its catalog. -/
theorem returnable_of {envelope : Document} {durable : Option StoredText}
    (hadmission : store.admission envelope now value = .ok catalog) (hstands : Stands durable value)
    (hnow : value.observedAt = some now)
    (hsame : ¬ (catalog.revision ≠ value.revision ∨ catalog.securityRevision ≠ value.securityRevision)) :
    Returnable catalog now durable := by
  have hverified := admission_eq_ok hadmission
  rw [not_or, not_not, not_not] at hsame
  have hpos := hverified.revision_pos
  refine ⟨value, ?_, hnow, hsame.1, hsame.2, payloadSha256_of_digest (hverified.same hsame.1),
    hverified.issued, hverified.current⟩
  rcases hstands with hload | ⟨-, time, rfl⟩
  · exact hload
  · have hzero : catalog.revision = 0 := hsame.1
    omega

theorem turn_readEnvelope (hnow : value.observedAt = some now) (hs : Loaded first i Idle value s) :
    (catalogOutline first).Turn i (Keeping i Idle) (store.readEnvelope now value)
      (fun a => Keeping i (Returned i a)) s := by
  have hloaded : (catalogOutline first).Stable i (Loaded first i Idle value) := stable_loaded .const
  unfold RoutingCatalogStore.readEnvelope
  apply Outline.Turn.bind stable_idle
  apply turn_plain (by trivial) hloaded hs
  intro _ _ s1 _ _ _ _ hs1
  apply Outline.Turn.bind stable_idle
  apply Outline.Turn.attempt hloaded (fun s hs => hs.toKeeping) hs1
  intro catalog s2 hadmission hs2
  apply Outline.Turn.ite
  · exact fun _ => turn_none hs2.toKeeping
  · intro hsame
    apply Outline.Turn.bind stable_idle
    apply turn_owed
    intro s3 hrely _
    have hs3 : Loaded first i Idle value s3 := hloaded s2 s3 hrely hs2
    refine ⟨⟨hs3.turned, returnable_of hadmission hs3.stands hnow hsame⟩, ?_⟩
    intro r _ hallows s4 hrely4
    cases r with
    | false => exact turn_none (stable_idle s3 s4 hrely4 hs3.toKeeping)
    | true =>
      have hnoted : Keeping i (Returned i (some catalog)) s4 := by
        apply stable_keeping (lasting_returned _) _ s4 hrely4
        exact ⟨⟨hs3.turned.head, hs3.turned.lt⟩, now, s3.durable,
          List.mem_append_right _ List.mem_cons_self⟩
      exact .pure (stable_keeping (lasting_returned _)) hnoted fun s5 hs5 => hs5

theorem safex_read (hlt : i < s.called) :
    (catalogOutline first).safex i store.read (fun a s => Returned i a s.history)
      (fun _ _ => True) s := by
  apply safex_serialize (P := Idle) .const (fun _ h => h) lasting_returned .const hlt trivial
  intro s1 hs1
  apply Outline.Turn.bind stable_idle
  apply turn_plain (by trivial) stable_idle hs1
  intro r _ s2 _ _ _ _ hs2
  apply Outline.Turn.ite
  · exact fun _ => turn_none hs2
  · intro _
    apply Outline.Turn.bind stable_idle
    apply turn_load stable_idle .const (fun _ h => h) hs2
    intro value s3 hs3
    apply Outline.Turn.bind stable_idle
    apply turn_observe stable_idle (fun _ h => h) .const hs3 (fun _ _ _ _ _ _ => trivial)
    intro now value' s4 hnow hs4
    apply Outline.Turn.ite
    · exact fun _ => turn_none hs4.toKeeping
    · exact fun _ => turn_orNone (turn_readEnvelope hnow hs4)

/-- How an admission that fails leaves the record. -/
abbrev Settled (i : Nat) : List CatalogNote → Prop :=
  fun history => (Unharmed i history ∨ Overtaken i history) ∧ Unresumed i history

theorem stable_settled : (catalogOutline first).Stable i (Keeping i (Settled i)) :=
  stable_keeping ((lasting_unharmed.or lasting_overtaken).and lasting_unresumed)

/-- What it has noted until it goes on to write. -/
abbrev Harmless (i : Nat) : List CatalogNote → Prop :=
  fun history => Unharmed i history ∧ Unresumed i history

theorem lasting_harmless : Lasting i (Harmless i) := lasting_unharmed.and lasting_unresumed

theorem settled_of_harmless (h : Keeping i (Harmless i) s) : Keeping i (Settled i) s :=
  ⟨h.turned, .inl h.noted.1, h.noted.2⟩

/-- It goes on to write. -/
def Committing (i g : Nat) (history : List CatalogNote) : Prop :=
  (∃ before between, history = before ++ .committing i g :: between) ∧ Unresumed i history

theorem unresumed_append (h : Unresumed i history) (hnote : ∀ g, note ≠ .resumed i g) :
    Unresumed i (history ++ [note]) := by
  intro g hmem
  rcases List.mem_append.mp hmem with hmem | hmem
  · exact h g hmem
  · exact hnote g (List.mem_singleton.mp hmem).symm

theorem committing_append (h : Committing i g history) (hnote : ∀ g, note ≠ .resumed i g) :
    Committing i g (history ++ [note]) := by
  rcases h with ⟨⟨before, between, rfl⟩, hunresumed⟩
  exact ⟨⟨before, between ++ [note], by simp⟩, unresumed_append hunresumed hnote⟩

theorem lasting_committing : Lasting i (Committing i g) := by
  rintro _ added hothers ⟨⟨before, between, rfl⟩, hunresumed⟩
  exact ⟨⟨before, between ++ added, by simp⟩, lasting_unresumed _ added hothers hunresumed⟩

theorem harmless_append (h : Harmless i history)
    (hwrote : ∀ before raw reported, note = .wrote i before raw reported → floorOf (some raw) = floorOf before ∨ reported = false)
    (hresumed : ∀ g, note ≠ .resumed i g) : Harmless i (history ++ [note]) := by
  refine ⟨?_, unresumed_append h.2 hresumed⟩
  intro before raw reported hmem
  rcases List.mem_append.mp hmem with hmem | hmem
  · exact h.1 before raw reported hmem
  · exact hwrote before raw reported (List.mem_singleton.mp hmem).symm

/-- Where another generation is found, a denial has come. -/
theorem settled_of_moved (hinv : CatalogInv first s) (h : Committing i g s.history)
    (hmoved : s.generation ≠ g) : Settled i (s.history ++ [.superseded i]) := by
  rcases h with ⟨⟨before, between, hhistory⟩, hunresumed⟩
  refine ⟨.inr ?_, unresumed_append hunresumed fun _ h => by cases h⟩
  have hfitting := hinv.fitting
  rw [hhistory, CatalogView.fitting_append] at hfitting
  have hcommitted : g = (CatalogView.run ⟨first, 0, false, false⟩ before).generation := hfitting.2.1
  have hgeneration : (s.view first).generation = s.generation := hinv.shows.generation
  rw [CatalogState.view, hhistory, CatalogView.run_append_list] at hgeneration
  by_cases hdenied : ∃ denied, .discarded denied ∈ between
  · rcases hdenied with ⟨denied, hmem⟩
    exact ⟨before, g, between, denied, [], hmem, by simp [hhistory]⟩
  · exfalso
    apply hmoved
    rw [← hgeneration, hcommitted]
    exact CatalogView.run_generation fun denied hmem => by
      rcases List.mem_cons.mp hmem with hmem | hmem
      · cases hmem
      · exact hdenied ⟨denied, hmem⟩

/-- The write of an admission and its second look at the generation. -/
theorem turn_resume (hs : Keeping i (Committing i g) s) :
    (catalogOutline first).Turn i (Keeping i (Settled i))
      (RoutingCatalogStore.require (.resume g) rfl >>= fun _ => pure catalog)
      (fun _ => Keeping i fun history => ∃ g, .resumed i g ∈ history) s := by
  apply Outline.Turn.bind stable_settled
  apply Outline.Turn.bind stable_settled
  apply turn_owed
  intro s1 hrely hinv
  have hs1 := stable_keeping lasting_committing s s1 hrely hs
  refine ⟨hs1.turned, fun r _ hallows s2 hrely2 => ?_⟩
  cases r with
  | error e =>
    have hmoved : s1.generation ≠ g := by
      intro hsame
      have hok : s1.requireGeneration g = .ok () := by simp [CatalogState.requireGeneration, hsame]
      cases Eq.trans hallows hok
    have hsettled : Keeping i (Settled i) s2 := by
      apply stable_settled _ s2 hrely2
      exact ⟨⟨hs1.turned.head, hs1.turned.lt⟩, settled_of_moved hinv hs1.noted hmoved⟩
    exact .throw stable_settled hsettled
  | ok u =>
    have hlasting : Lasting i fun history => ∃ g, .resumed i g ∈ history := by
      rintro history added - ⟨g, hmem⟩
      exact ⟨g, List.mem_append_left _ hmem⟩
    have hresumed : Keeping i (fun history => ∃ g, .resumed i g ∈ history) s2 := by
      apply stable_keeping hlasting _ s2 hrely2
      exact ⟨⟨hs1.turned.head, hs1.turned.lt⟩, g, List.mem_append_right _ List.mem_cons_self⟩
    exact .pure (stable_keeping hlasting) hresumed fun s3 hs3 =>
      .pure (stable_keeping hlasting) hs3 fun s4 hs4 => hs4

theorem turn_commit (hnow : value.observedAt = some now)
    (hverified : VerifiedOver value.revision value.securityRevision value.digest now catalog)
    (hs : Loaded first i (Harmless i) value s) :
    (catalogOutline first).Turn i (Keeping i (Settled i))
      (RoutingCatalogStore.commit g now value catalog)
      (fun _ => Keeping i fun history => ∃ g, .resumed i g ∈ history) s := by
  have hloaded : (catalogOutline first).Stable i (Loaded first i (Harmless i) value) :=
    stable_loaded lasting_harmless
  unfold RoutingCatalogStore.commit
  apply Outline.Turn.bind stable_settled
  apply turn_plain (by trivial) hloaded hs
  intro first' _ s1 _ _ _ _ hs1
  apply Outline.Turn.ite
  · exact fun _ => .throw stable_settled (settled_of_harmless hs1.toKeeping)
  intro _
  apply Outline.Turn.bind stable_settled
  apply turn_plain (by trivial) hloaded hs1
  intro second _ s2 _ _ _ _ hs2
  apply Outline.Turn.ite
  · exact fun _ => .throw stable_settled (settled_of_harmless hs2.toKeeping)
  intro _
  apply Outline.Turn.bind stable_settled
  apply Outline.Turn.bind stable_settled
  apply turn_owed
  intro s3 hrely _
  have hs3 := hloaded s2 s3 hrely hs2
  refine ⟨hs3.turned, fun r _ _ s4 hrely4 => ?_⟩
  cases r with
  | error e =>
    exact .throw stable_settled (settled_of_harmless (hloaded s3 s4 hrely4 hs3).toKeeping)
  | ok u =>
    have hlasting : Lasting i fun history => Harmless i history ∧ Committing i g history :=
      lasting_harmless.and lasting_committing
    have hopen : (catalogOutline first).Stable i fun s =>
        Loaded first i (fun history => Harmless i history ∧ Committing i g history) value s ∧
          (s.view first).erased = false := by
      rintro a b hmoves ⟨ha, hfence⟩
      exact ⟨stable_loaded hlasting a b hmoves ha,
        (CatalogRely.held hmoves ha.turned).2.2.trans hfence⟩
    have hs4 : Loaded first i (fun history => Harmless i history ∧ Committing i g history) value s4 ∧
        (s4.view first).erased = false := by
      apply hopen _ s4 hrely4
      have hfence : ((s3.effect i ⟨.commit g, .ok u⟩).view first).erased = false := by
        rw [CatalogState.view]
        simp [CatalogState.effect, CatalogState.note, CatalogView.after]
      refine ⟨⟨⟨⟨hs3.turned.head, hs3.turned.lt⟩, ?_, ?_⟩, hs3.stands, ?_⟩, hfence⟩
      · exact harmless_append hs3.noted (fun _ _ _ h => by cases h) fun _ h => by cases h
      · exact ⟨⟨s3.history, [], rfl⟩,
          unresumed_append hs3.noted.2 fun _ h => by cases h⟩
      · exact fun h => by rw [hfence] at h; cases h
    refine .attempt (x := .ok u) hopen (fun s hs => settled_of_harmless ⟨hs.1.turned, hs.1.noted.1⟩) hs4 ?_
    rintro _ s5 - ⟨hs5, hfence⟩
    apply Outline.Turn.bind stable_settled
    apply turn_write stable_settled (lasting_committing (g := g))
      (fun s hs => settled_of_harmless ⟨hs.turned, hs.noted.1⟩) hlasting hs5 (succeeds_accept hnow hverified)
    · intro h
      rw [hfence] at h
      cases h
    · intro history raw _ _ hnoted
      refine ⟨harmless_append hnoted.1 (fun _ _ _ h => ?_) (fun _ h => by cases h),
        committing_append hnoted.2 fun _ h => by cases h⟩
      cases h
      exact .inr rfl
    · exact fun history raw _ _ hnoted => committing_append hnoted.2 fun _ h => by cases h
    · exact fun s6 hs6 _ => turn_resume hs6.toKeeping

theorem safex_accept {envelope : Document} (hlt : i < s.called) (hfresh : Harmless i s.history) :
    (catalogOutline first).safex i (store.accept envelope g)
      (fun _ s => ∃ g, .resumed i g ∈ s.history) (fun _ s => Settled i s.history) s := by
  have hresumed : Lasting i fun history => ∃ g, .resumed i g ∈ history := by
    rintro history added - ⟨g, hmem⟩
    exact ⟨g, List.mem_append_left _ hmem⟩
  have hkeeping : (catalogOutline first).Stable i (Keeping i (Harmless i)) :=
    stable_keeping lasting_harmless
  have hloaded : ∀ value, (catalogOutline first).Stable i (Loaded first i (Harmless i) value) :=
    fun _ => stable_loaded lasting_harmless
  have hsettled : ∀ s, Keeping i (Harmless i) s → Keeping i (Settled i) s :=
    fun _ h => settled_of_harmless h
  apply safex_serialize (Q := fun _ history => ∃ g, .resumed i g ∈ history) (R := Settled i)
    lasting_harmless (fun _ h => ⟨.inl h.1, h.2⟩) (fun _ => hresumed)
    ((lasting_unharmed.or lasting_overtaken).and lasting_unresumed) hlt hfresh
  intro s1 hs1
  apply Outline.Turn.bind stable_settled
  apply turn_require (by trivial) stable_settled hkeeping hsettled hs1
  intro _ s2 hs2
  apply Outline.Turn.bind stable_settled
  apply turn_load stable_settled lasting_harmless hsettled hs2
  intro value s3 hs3
  apply Outline.Turn.bind stable_settled
  apply turn_observe stable_settled hsettled lasting_harmless hs3
  · intro history before raw reported hfloor hnoted
    refine harmless_append hnoted (fun _ _ _ h => ?_) fun _ h => by cases h
    cases h
    exact .inl hfloor
  · intro now value' s4 hnow hs4
    apply Outline.Turn.bind stable_settled
    apply turn_plain (by trivial) (hloaded value') hs4
    intro _ _ s5 _ _ _ _ hs5
    apply Outline.Turn.bind stable_settled
    apply Outline.Turn.attempt (hloaded value') (fun s hs => hsettled s hs.toKeeping) hs5
    exact fun catalog s6 hadmission hs6 => turn_commit hnow (admission_eq_ok hadmission) hs6

/-- It has denied what came before. -/
def Denying (g : Nat) (history : List CatalogNote) : Prop :=
  ∃ before between, history = before ++ .discarded g :: between

theorem Denying.append (h : Denying g history) (added : List CatalogNote) :
    Denying g (history ++ added) := by
  rcases h with ⟨before, between, rfl⟩
  exact ⟨before, between ++ added, by simp⟩

theorem lasting_denying : Lasting i (Denying g) := fun _ added _ h => h.append added

theorem Denying.le (hinv : CatalogInv first s) (h : Denying g s.history) : g ≤ s.generation := by
  rcases h with ⟨before, between, hhistory⟩
  have hfitting := hinv.fitting
  rw [hhistory, CatalogView.fitting_append] at hfitting
  have hgeneration : (s.view first).generation = s.generation := hinv.shows.generation
  rw [CatalogState.view, hhistory, CatalogView.run_append_list] at hgeneration
  rw [← hgeneration]
  exact hfitting.2.2.le_run

theorem safex_discardEnvelope (hlt : i < s.called) :
    (catalogOutline first).safex i store.discardEnvelope (fun _ s => Denies i s.history)
      (fun _ _ => True) s := by
  unfold RoutingCatalogStore.discardEnvelope
  apply Outline.safex_ite
  · exact fun _ => Outline.safex_throw fun _ _ => trivial
  intro _
  have hdiscard : (catalogOutline first).Turn i (fun _ => False) (RoutingCatalogStore.call .discard)
      (fun g s => i < s.called ∧ Denying g s.history) s := by
    apply turn_owed
    intro s1 hrely _
    refine ⟨trivial, fun g _ _ s2 hrely2 => ?_⟩
    apply stable_called.and (Lasting.stable lasting_denying) _ s2 hrely2
    exact ⟨stable_called s s1 hrely hlt, s1.history, [], rfl⟩
  apply Outline.safex_bind
  refine Outline.safex_mono hdiscard.safe (fun g s1 hs1 => ?_) fun _ _ hnever => absurd hnever id
  have hE : (catalogOutline first).Stable i (Keeping i Idle) := stable_idle
  have hidle : ∀ s, Keeping i (Denying g) s → Keeping i Idle s := fun _ h => ⟨h.turned, trivial⟩
  apply safex_takeTurn (Q := fun _ => Denies i) (R := Idle) (lasting_denying (g := g))
    (fun _ => lasting_denies) .const hs1.1 hs1.2
  intro s2 hs2
  apply Outline.Turn.bind hE
  apply turn_load hE lasting_denying hidle hs2
  intro value s3 hs3
  apply Outline.Turn.bind hE
  apply turn_observe hE hidle lasting_denying hs3 (fun _ _ _ _ _ h => h.append _)
  intro now value' s4 hnow hs4
  apply Outline.Turn.bind hE
  apply turn_write hE lasting_denying hidle lasting_denying hs4
    (succeeds_discard hs4.stands.accepted hnow) (fun _ => rfl)
    (fun _ _ _ _ h => h.append _) (fun _ _ _ _ h => h.append _)
  intro s5 hs5 hload
  apply turn_owed
  intro s6 hrely hinv
  have hs6 := stable_loaded lasting_denying s5 s6 hrely hs5
  have herased : CatalogErased s6.durable := by
    rw [(hrely.held hs5.turned).2.1]
    rcases (loadCatalog_some hload).2 with ⟨stored, hstored, hdecoded⟩
    exact ⟨stored, _, hstored, hdecoded, rfl⟩
  refine ⟨⟨hs6.turned, Denying.le hinv hs6.noted, herased⟩, fun r _ _ s7 hrely7 => ?_⟩
  apply stable_keeping lasting_denies _ s7 hrely7
  refine ⟨⟨hs6.turned.head, hs6.turned.lt⟩, ?_⟩
  rcases hs6.noted with ⟨before, between, hhistory⟩
  refine ⟨before, g, between, [], ?_⟩
  show s6.history ++ [.erased i g] = _
  rw [hhistory, List.append_assoc]
  rfl

/-! ## Tasks -/

theorem safe_answer {m : CatalogAsync α} {f : Try α → CatalogAnswer} {Q : α → CatalogState → Prop}
    {R : Failure → CatalogState → Prop} (h : (catalogOutline first).safex i m Q R s)
    (hok : ∀ a s, Q a s → (f (.ok a)).Ended i s.history)
    (hthrown : ∀ e s, R e s → (f (.error e)).Ended i s.history) :
    (catalogOutline first).safe i
      ((m.run >>= fun r => .ret (f r) : Prog CatalogStorage CatalogAnswer) >>= fun r => .ret (.inr r))
      ((catalogOutline first).ending i) s := by
  apply Outline.safe_bind
  apply Outline.safe_bind
  apply Outline.safe_mono _ h
  intro r s1 hended
  have hdone : (f r).Ended i s1.history := by
    cases r with
    | ok a => exact hok a s1 hended
    | error e => exact hthrown e s1 hended
  have hlater : ∀ s2, CatalogRely first i s1 s2 → (f r).Ended i s2.history :=
    fun s2 hrely => Lasting.stable (f r).lasting_ended s1 s2 hrely hdone
  exact fun s2 hrely s3 hrely' => hlater s3 (CatalogRely.trans hrely hrely')

theorem safe_body {task : CatalogTask} (hlt : i < s.called)
    (hfresh : ∀ note ∈ s.history, note.thread ≠ some i) :
    (catalogOutline first).safe i (catalogStore.body task) ((catalogOutline first).ending i) s := by
  cases task with
  | read store =>
    apply safe_answer (f := CatalogAnswer.read) (safex_read hlt)
    · rintro (_ | catalog) s h
      · trivial
      · exact h
    · exact fun _ _ _ => trivial
  | accept store envelope g =>
    have hnone : Harmless i s.history :=
      ⟨fun before raw reported hmem => absurd rfl (hfresh _ hmem),
        fun g hmem => absurd rfl (hfresh _ hmem)⟩
    exact safe_answer (f := CatalogAnswer.accept) (safex_accept hlt hnone) (fun _ _ h => h)
      fun _ _ h => h
  | discardEnvelope store =>
    exact safe_answer (f := CatalogAnswer.discardEnvelope) (safex_discardEnvelope hlt)
      (fun _ _ h => h) fun _ _ _ => trivial

theorem outline_numbered : (catalogOutline first).Numbered CatalogState.called := by
  constructor
  · rintro s s' task hinv rfl
    have hshows := hinv.shows
    refine ⟨⟨hinv.fitting, ⟨hshows.durable, hshows.generation, hshows.suspended⟩, ?_⟩, fun j => ?_,
      ⟨?_, ?_⟩, rfl⟩
    · exact fun note hnote i hi => Nat.lt_succ_of_lt (hinv.numbered note hnote i hi)
    · exact ⟨Nat.le_succ _, ⟨[], by simp, by simp⟩, fun h => ⟨h.head, rfl, rfl⟩⟩
    · exact Nat.lt_succ_self _
    · exact fun note hnote hthread => Nat.lt_irrefl _ (hinv.numbered note hnote _ hthread)
  · rintro i s s' ⟨c, r⟩ ⟨-, -, rfl⟩
    exact CatalogState.effect_called
  · rintro i task s - ⟨hlt, hfresh⟩
    exact safe_body hlt hfresh

theorem outline_good (first : Option StoredText) :
    (catalogOutline first).Good (CatalogState.new first) := by
  refine ⟨⟨trivial, ⟨rfl, rfl, rfl⟩, fun note hnote => by cases hnote⟩, fun i program hi => by cases hi⟩

end Operations

end CatalogSpec

end Pokrov.AppShell
