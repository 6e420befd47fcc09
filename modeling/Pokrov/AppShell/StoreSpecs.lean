import Pokrov.AppShell.ManifestTurns

/-!
# Specifications of the store's operations

For each step of the operations on the record: what it may take for granted in
its turn, and what it leaves.
-/

namespace Pokrov.AppShell

open Dart Effects Results

section Specs

variable {audience : Text} {allowed : Event Storage → Prop} {i : Nat} {s : StoreState} {α β : Type}

/-! ## Rules for single calls -/

/-- What holds as long as nothing moves that the thread relies on. -/
def Stable (i : Nat) (K : StoreState → Prop) : Prop := ∀ s s', Keeps i s s' → K s → K s'

theorem Stable.and {K L : StoreState → Prop} (hK : Stable i K) (hL : Stable i L) :
    Stable i fun s => K s ∧ L s :=
  fun s s' hkeeps h => ⟨hK s s' hkeeps h.1, hL s s' hkeeps h.2⟩

theorem stable_later (s : StoreState) : Stable i (Later s) :=
  fun _ _ hkeeps h => h.trans hkeeps.toLater

theorem stable_holding : Stable i (Holding i) := fun _ _ hkeeps h => (hkeeps.held h).1

variable {c : StoreCall} {E : Failure → StoreState → Prop} {K : StoreState → Prop} {x : Try α}
  {Q : α → StoreState → Prop} {m : Async α} {f : α → Async β}

theorem safex_call {Q : c.Answer → StoreState → Prop}
    (h : ∀ s1, StoreRely audience allowed i s s1 → StoreInv audience allowed s1 → Owed audience allowed i s1 c ∧ ∀ r, allowed ⟨c, r⟩ → s1.allows i ⟨c, r⟩ → ∀ s2, StoreRely audience allowed i (s1.effect i ⟨c, r⟩) s2 → Q r s2) :
    (storeOutline audience allowed).safex i (call c) Q E s := by
  intro s1 hrely hinv r s2 hexec
  obtain ⟨hallowed, hallows, rfl⟩ := hexec
  obtain ⟨howed, hnext⟩ := h s1 hrely hinv
  exact ⟨hinv.effect howed hallows, fun j hj => rely_effect hj howed hallows,
    fun s3 h3 => hnext r hallowed hallows s3 h3⟩

theorem owed_of_quiescent (h : Quiescent c) : Owed audience allowed i s c := by
  cases c with
  | leave => exact absurd h id
  | writeStorage raw => exact absurd h id
  | commit expected checked value => exact absurd h id
  | erased generation => exact absurd h id
  | _ => trivial

/-- A call that leaves the record and its envelopes alone. -/
theorem safex_quiescent {Q : c.Answer → StoreState → Prop} (hc : Quiescent c) (hK : Stable i K)
    (hs : K s)
    (h : ∀ r s1 s2, K s1 → StoreInv audience allowed s1 → allowed ⟨c, r⟩ → s1.allows i ⟨c, r⟩ → Keeps i s1 s2 → K s2 → Q r s2) :
    (storeOutline audience allowed).safex i (call c) Q E s := by
  apply safex_call
  intro s1 hrely hinv
  refine ⟨owed_of_quiescent hc, fun r hallowed hallows s2 hrely2 => ?_⟩
  have hbefore : K s1 := hK s s1 hrely.toKeeps hs
  have hkeeps : Keeps i s1 s2 := (keeps_effect hc hallows).trans hrely2.toKeeps
  exact h r s1 s2 hbefore hinv hallowed hallows hkeeps (hK s1 s2 hkeeps hbefore)

theorem safex_attempt (hK : Stable i K) (hs : K s) (hok : ∀ a s', x = .ok a → K s' → Q a s')
    (herror : ∀ e s', K s' → E e s') :
    (storeOutline audience allowed).safex i (attempt x) Q E s := by
  cases x with
  | ok a => exact fun s' hrely => hok a s' rfl (hK s s' hrely.toKeeps hs)
  | error e => exact fun s' hrely => herror e s' (hK s s' hrely.toKeeps hs)

/-- A program in a turn: what it throws leaves the turn to be given back. -/
structure InTurn (audience : Text) (allowed : Event Storage → Prop) (i : Nat) (m : Async α)
    (Q : α → StoreState → Prop) (s : StoreState) : Prop where
  safe : (storeOutline audience allowed).safex i m Q (fun _ => Holding i) s

theorem turn_mono {Q R : α → StoreState → Prop} (h : InTurn audience allowed i m Q s)
    (hQR : ∀ a s, Q a s → R a s) : InTurn audience allowed i m R s :=
  ⟨Outline.safex_mono h.safe hQR fun _ _ h => h⟩

theorem turn_bind {Q : β → StoreState → Prop}
    (h : InTurn audience allowed i m (fun a s => InTurn audience allowed i (f a) Q s) s) :
    InTurn audience allowed i (m >>= f) Q s := by
  constructor
  apply Outline.safex_bind
  exact Outline.safex_mono h.safe (fun _ _ h => h.safe)
    fun e s h s' hrely => stable_holding s s' hrely.toKeeps h

theorem turn_ite {b : Prop} [Decidable b] {m n : Async α} (hm : b → InTurn audience allowed i m Q s)
    (hn : ¬ b → InTurn audience allowed i n Q s) :
    InTurn audience allowed i (if b then m else n) Q s :=
  ⟨Outline.safex_ite (fun h => (hm h).safe) fun h => (hn h).safe⟩

theorem turn_pure {a : α} (hK : Stable i K) (hs : K s) (h : ∀ s', K s' → Q a s') :
    InTurn audience allowed i (pure a) Q s :=
  ⟨Outline.safex_pure fun s' hrely => h s' (hK s s' hrely.toKeeps hs)⟩

theorem turn_throw {e : Failure} (hs : Holding i s) : InTurn audience allowed i (throw e) Q s :=
  ⟨Outline.safex_throw fun s' hrely => stable_holding s s' hrely.toKeeps hs⟩

theorem turn_call {Q : c.Answer → StoreState → Prop} (hc : Quiescent c) (hK : Stable i K) (hs : K s)
    (h : ∀ r s1 s2, K s1 → StoreInv audience allowed s1 → allowed ⟨c, r⟩ → s1.allows i ⟨c, r⟩ → Keeps i s1 s2 → K s2 → Q r s2) :
    InTurn audience allowed i (call c) Q s :=
  ⟨safex_quiescent hc hK hs h⟩

theorem turn_attempt (hK : Stable i K) (hholding : ∀ s, K s → Holding i s) (hs : K s)
    (h : ∀ a s', x = .ok a → K s' → Q a s') : InTurn audience allowed i (attempt x) Q s :=
  ⟨safex_attempt hK hs h fun _ s' hs' => hholding s' hs'⟩

/-- A call that may throw, and leaves the record and its envelopes alone. -/
theorem turn_require {hc : c.Answer = Try α} (hquiescent : Quiescent c) (hK : Stable i K)
    (hholding : ∀ s, K s → Holding i s) (hs : K s)
    (h : ∀ r a s1 s2, hc.mp r = .ok a → K s1 → StoreInv audience allowed s1 → allowed ⟨c, r⟩ → s1.allows i ⟨c, r⟩ → Keeps i s1 s2 → K s2 → Q a s2) :
    InTurn audience allowed i (require c hc) Q s := by
  apply turn_bind
  apply turn_call hquiescent hK hs
  intro r s1 s2 hbefore hinv hallowed hallows hkeeps hafter
  have hstable : Stable i fun s => Keeps i s1 s ∧ K s :=
    fun s s' hmoves hs => ⟨hs.1.trans hmoves, hK s s' hmoves hs.2⟩
  apply turn_attempt hstable (fun s hs => hholding s hs.2) ⟨hkeeps, hafter⟩
  exact fun a s' hok hs' => h r a s1 s' hok hbefore hinv hallowed hallows hs'.1 hs'.2

/-- Such a call in a turn, and what it notes. -/
theorem turn_noting {hc : c.Answer = Try α} {N : α → List StoreNote → Prop} {Q : α → StoreState → Prop}
    (hquiescent : Quiescent c) (hs : Holding i s)
    (hN : ∀ a earlier later, earlier <+: later → N a earlier → N a later)
    (hnotes : ∀ r a (s1 : StoreState), hc.mp r = .ok a → N a (s1.effect i ⟨c, r⟩).history)
    (h : ∀ a s', Holding i s' → N a s'.history → Q a s') :
    InTurn audience allowed i (require c hc) Q s := by
  apply turn_bind
  constructor
  apply safex_call
  intro s1 hrely hinv
  have hholding : Holding i s1 := stable_holding s s1 hrely.toKeeps hs
  refine ⟨owed_of_quiescent hquiescent, fun r _ hallows s2 hrely2 => ?_⟩
  have hkeeps : Keeps i s1 s2 := (keeps_effect hquiescent hallows).trans hrely2.toKeeps
  have hstable : Stable i fun s => Holding i s ∧ ∀ a, hc.mp r = .ok a → N a s.history :=
    stable_holding.and fun _ _ hkeeps h a ha => hN a _ _ hkeeps.history (h a ha)
  apply turn_attempt hstable (fun _ h => h.1)
  · exact ⟨stable_holding s1 s2 hkeeps hholding,
      fun a ha => hN a _ _ hrely2.history (hnotes r a s1 ha)⟩
  · exact fun a s3 ha hs3 => h a s3 hs3.1 (hs3.2 a ha)

/-- A program that leaves the record and its envelopes alone. -/
theorem safex_of_calls (hK : Stable i K) (hm : Throwing.Calls Quiescent m) (hs : K s) :
    (storeOutline audience allowed).safex i m (fun _ => K) (fun _ => K) s := by
  have hrun : (storeOutline audience allowed).safe i m.run (fun _ => K) s := by
    apply Outline.safe_of_calls (P := Quiescent) _ _ _ hm hs
    · rintro s1 s2 ⟨c, r⟩ hc hinv hs1 ⟨-, hallows, rfl⟩
      have howed : Owed audience allowed i s1 c := owed_of_quiescent hc
      exact ⟨hinv.effect howed hallows, fun j hj => rely_effect hj howed hallows,
        hK s1 _ (keeps_effect hc hallows) hs1⟩
    · exact fun s1 s2 hrely => hK s1 s2 hrely.toKeeps
  apply Outline.safe_mono _ hrun
  intro r s hs
  cases r with
  | ok a => exact hs
  | error e => exact hs

/-! ## The record in a turn -/

/-- The turn is the thread's, and it has this of the storage. -/
structure Loaded (audience : Text) (allowed : Event Storage → Prop) (i : Nat)
    (value : Option ManifestRecord) (s : StoreState) : Prop where
  holding : Holding i s
  load : Timely allowed → loadRecord audience s.durable = .ok value
  erased : fenced s.history = true → ∀ record, value = some record → record.IsErased

theorem stable_loaded {value : Option ManifestRecord} :
    Stable i (Loaded audience allowed i value) := by
  intro s s' hkeeps h
  obtain ⟨hholding, hdurable, hfenced⟩ := hkeeps.held h.holding
  constructor
  · exact hholding
  · rw [hdurable]
    exact h.load
  · rw [hfenced]
    exact h.erased

/-- `_load`. -/
theorem turn_load {Q : Option ManifestRecord → StoreState → Prop} (hs : Holding i s)
    (h : ∀ value s', loadRecord audience s'.durable = .ok value →
      Loaded audience allowed i value s' → Later s s' → Q value s') :
    InTurn audience allowed i (load audience) Q s := by
  have hlater : Stable i fun s' => Holding i s' ∧ Later s s' :=
    stable_holding.and (stable_later s)
  apply turn_bind
  apply turn_require (by trivial) hlater (fun _ h => h.1) ⟨hs, .refl s⟩
  rintro r raw s1 s2 hr ⟨hholding, -⟩ hinv hallowed hallows hkeeps ⟨-, hgrows⟩
  have hraw : raw = s1.durable := hallows raw hr
  have hknown : Holding i s2 ∧ s2.durable = raw ∧ (fenced s2.history = true → Erased raw) := by
    obtain ⟨hholding2, hdurable, hfenced⟩ := hkeeps.held hholding
    rw [hfenced, hdurable, hraw]
    exact ⟨hholding2, rfl, hinv.erased⟩
  have hstable : Stable i fun s => Holding i s ∧ s.durable = raw ∧
      (fenced s.history = true → Erased raw) := by
    rintro s s' hmoves ⟨hholding, hdurable, herased⟩
    obtain ⟨hholding', hdurable', hfenced'⟩ := hmoves.held hholding
    exact ⟨hholding', hdurable'.trans hdurable, fun h => herased (hfenced' ▸ h)⟩
  apply turn_attempt (hstable.and (stable_later s)) (fun _ h => h.1.1) ⟨hknown, hgrows⟩
  rintro value s' hload ⟨⟨hholding', hdurable', herased'⟩, hgrows'⟩
  have hload' : loadRecord audience s'.durable = .ok value := by
    rw [hdurable']
    exact hload
  refine h value s' hload' ⟨hholding', fun _ => hload', fun hfenced record hrecord => ?_⟩ hgrows'
  subst hrecord
  exact (herased' hfenced).load hload

/-- A record that may take the place of what is stored. -/
def Replaces (audience : Text) (before : Option ManifestRecord) (value : ManifestRecord) : Prop :=
  value.accepted audience = true ∧ ∀ old, before = some old → old.Succeeds audience value

theorem follows_of_replaces {before : Option ManifestRecord} {value : ManifestRecord}
    {raw : Option StoredText} (hload : loadRecord audience raw = .ok before)
    (hreplaces : Replaces audience before value)
    (hsize : (StoredText.of value.toDocument).bytes ≤ maximumRecordBytes) :
    Follows audience raw (some (.of value.toDocument)) := by
  right
  refine ⟨value, loadRecord_of hreplaces.1 hsize, ?_⟩
  cases before with
  | none => exact .inl (eq_none_of_loadRecord hload)
  | some old => exact .inr ⟨old, hload, hreplaces.2 old rfl⟩

theorem turn_writeFailed {Q : Unit → StoreState → Prop} (hs : Holding i s) :
    InTurn audience allowed i writeFailed Q s := by
  apply turn_bind
  apply turn_call (by trivial) stable_holding hs
  exact fun r s1 s2 _ _ _ _ _ hafter => turn_throw hafter

/-- `_write`. -/
theorem turn_write {before : Option ManifestRecord} {value : ManifestRecord}
    {Q : Unit → StoreState → Prop} (honest : ∀ e, allowed e → Honest e)
    (hs : Holding i s) (hload : Timely allowed → loadRecord audience s.durable = .ok before)
    (herased : fenced s.history = true → value.IsErased)
    (hreplaces : Timely allowed → Replaces audience before value)
    (h : ∀ s', s'.durable = some (.of value.toDocument) →
      Loaded audience allowed i (some value) s' → Later s s' → Q () s') :
    InTurn audience allowed i (write value) Q s := by
  unfold write
  apply turn_ite
  · exact fun _ => turn_writeFailed hs
  · intro hsize
    have hfits : (StoredText.of value.toDocument).bytes ≤ maximumRecordBytes := Nat.not_lt.mp hsize
    apply turn_bind
    constructor
    apply safex_call
    intro s1 hrely hinv
    obtain ⟨hholding, hdurable, hfenced⟩ := hrely.held hs
    have herased1 : fenced s1.history = true → value.IsErased := fun h => herased (hfenced ▸ h)
    refine ⟨⟨hholding, fun h => erased_of (herased1 h), fun htimely => ?_⟩, ?_⟩
    · rw [hdurable]
      exact follows_of_replaces (hload htimely) (hreplaces htimely) hfits
    · intro outcome hallowed hallows s2 hrely2
      have hafter : Holding i (s1.effect i ⟨.writeStorage (.of value.toDocument), outcome⟩) :=
        StoreState.effect_head hholding (by exact StoreCall.noConfusion)
      obtain ⟨hholding2, hdurable2, hfenced2⟩ := hrely2.held hafter
      apply turn_ite
      · exact fun _ => turn_writeFailed hholding2
      · intro hreported
        have hreplaced : outcome.replaced = true :=
          honest _ hallowed (by simpa using hreported)
        have heffect : s1.effect i ⟨.writeStorage (.of value.toDocument), outcome⟩ =
            { s1 with durable := some (.of value.toDocument) } := if_pos hreplaced
        rw [heffect] at hdurable2 hfenced2
        constructor
        apply Outline.safex_pure
        intro s3 hrely3
        obtain ⟨hholding3, hdurable3, hfenced3⟩ := hrely3.held hholding2
        have hstored : s3.durable = some (.of value.toDocument) := hdurable3.trans hdurable2
        have hgrows : Later s s3 := hrely.toLater.trans ((later_effect hallows).trans
          (hrely2.toLater.trans hrely3.toLater))
        refine h s3 hstored ⟨hholding3, fun htimely => ?_, fun hfence record hrecord => ?_⟩ hgrows
        · rw [hstored]
          exact loadRecord_of (hreplaces htimely).1 hfits
        · cases hrecord
          rw [hfenced3, hfenced2] at hfence
          exact herased1 hfence

/-- `_window`. -/
theorem turn_window {anchor : TransportTimeAnchor} {prior : Option ManifestRecord}
    {deadline : Option TransportClockDeadline}
    {observing : Option (ManifestRecord × Option TransportClockDeadline)}
    {Q : TransportTimeWindow → StoreState → Prop} (hK : Stable i K)
    (hholding : ∀ s, K s → Holding i s) (hs : K s)
    (h : ∀ w sample s', windowOf anchor prior deadline sample = .ok w → allowed ⟨.readBootClock observing, .ok sample⟩ → K s' → Q w s') :
    InTurn audience allowed i (window anchor prior deadline observing) Q s := by
  apply turn_bind
  apply turn_require (by trivial) hK hholding hs
  intro r sample s1 s2 hr _ _ hallowed _ _ hafter
  have hsample : r = .ok sample := hr
  subst hsample
  apply turn_attempt hK hholding hafter
  exact fun w s' hw hs' => h w sample s' hw hallowed hs'

/-- `_observe` leaves a record with the same envelopes. -/
theorem turn_observe {value : ManifestRecord} {deadline : Option TransportClockDeadline}
    {Q : TransportTimeWindow × ManifestRecord → StoreState → Prop}
    (honest : ∀ e, allowed e → Honest e) (hs : Loaded audience allowed i (some value) s)
    (h : ∀ now value' s', value'.manifest = value.manifest →
      Loaded audience allowed i (some value') s' → Q (now, value') s') :
    InTurn audience allowed i (observe audience value deadline) Q s := by
  have hholding : ∀ s, Loaded audience allowed i (some value) s → Holding i s := fun _ h => h.holding
  unfold observe
  apply turn_bind
  apply turn_attempt stable_loaded hholding hs
  intro anchor s1 hanchor hs1
  apply turn_bind
  apply turn_window stable_loaded hholding hs1
  intro now sample s2 hwindow hallowed hs2
  apply turn_bind
  apply turn_attempt stable_loaded hholding hs2
  intro value' s3 hvalue hs3
  have henvelopes : value'.manifest = value.manifest ∧ value'.rollback = value.rollback := by
    unfold observed at hvalue
    obtain ⟨floor, -, hvalue⟩ := bind_eq_ok.mp hvalue
    cases hvalue
    exact ⟨rfl, rfl⟩
  have hreplaces : Timely allowed → Replaces audience (some value) value' := by
    intro htimely
    have haccepted : value.accepted audience = true := loadRecord_eq_ok (hs3.load htimely)
    have hyear : now.latest.year ≤ 9999 := htimely _ hallowed anchor now hanchor hwindow
    have hsucceeds : value.Succeeds audience value' :=
      succeeds_observed haccepted hanchor hwindow hyear hvalue
    refine ⟨hsucceeds.accepted, fun old hold => ?_⟩
    cases hold
    exact hsucceeds
  apply turn_bind
  apply turn_write honest hs3.holding hs3.load _ hreplaces
  · intro s4 _ hs4 _
    exact turn_pure stable_loaded hs4 fun s5 hs5 => h now value' s5 henvelopes.1 hs5
  · intro hfenced
    obtain ⟨hmanifest, hrollback⟩ := hs3.erased hfenced value rfl
    exact ⟨henvelopes.1.trans hmanifest, henvelopes.2.trans hrollback⟩

/-! ## Turns -/

/-- What comes to an end in its turn, and has noted what it answers. -/
abbrev Turn (audience : Text) (allowed : Event Storage → Prop) (i : Nat) (answer : α → StoreAnswer)
    (m : Async α) (s : StoreState) : Prop :=
  InTurn audience allowed i m (fun a s => Holding i s ∧ (answer a).Ended s.history) s

variable {answer : α → StoreAnswer} {R : β → StoreState → Prop}

theorem end_pure {a : α} (hs : Holding i s) (hended : (answer a).Ended s.history) :
    Turn audience allowed i answer (pure a) s := by
  have hstable : Stable i fun s => Holding i s ∧ (answer a).Ended s.history :=
    stable_holding.and fun _ _ hkeeps h => h.grows hkeeps.history
  exact turn_pure hstable ⟨hs, hended⟩ fun _ hs' => hs'

/-- A call that leaves the record and its envelopes alone, and what follows it. -/
theorem next_call {f : c.Answer → Async β} (hc : Quiescent c) (hK : Stable i K) (hs : K s)
    (h : ∀ r s', K s' → InTurn audience allowed i (f r) R s') :
    InTurn audience allowed i (call c >>= f) R s := by
  apply turn_bind
  apply turn_call hc hK hs
  exact fun r _ s2 _ _ _ _ _ hafter => h r s2 hafter

theorem next_require {hc : c.Answer = Try α} (hquiescent : Quiescent c) (hK : Stable i K)
    (hholding : ∀ s, K s → Holding i s) (hs : K s)
    (h : ∀ a s', K s' → InTurn audience allowed i (f a) R s') :
    InTurn audience allowed i (require c hc >>= f) R s := by
  apply turn_bind
  apply turn_require hquiescent hK hholding hs
  exact fun _ a _ s2 _ _ _ _ _ _ hafter => h a s2 hafter

theorem next_attempt (hK : Stable i K) (hholding : ∀ s, K s → Holding i s) (hs : K s)
    (h : ∀ a s', x = .ok a → K s' → InTurn audience allowed i (f a) R s') :
    InTurn audience allowed i (attempt x >>= f) R s := by
  apply turn_bind
  exact turn_attempt hK hholding hs h

/-- An operation takes its turn and gives it back. -/
theorem safex_takeTurn (hK : Stable i K) (hs : K s)
    (h : ∀ s, Holding i s → K s → Turn audience allowed i answer m s) :
    (storeOutline audience allowed).safex i (takeTurn m) (fun a s => (answer a).Ended s.history)
      (fun _ _ => True) s := by
  unfold takeTurn
  apply Outline.safex_bind
  apply safex_quiescent (by trivial) hK hs
  intro r s1 s2 _ _ _ hallows hkeeps hs2
  have hholding : Holding i s2 := (hkeeps.held hallows).1
  apply Outline.safe_bind
  apply Outline.safe_mono _ (h s2 hholding hs2).safe
  intro result s3 hended
  have hholding3 : Holding i s3 := by
    cases result with
    | ok a => exact hended.1
    | error e => exact hended
  intro s4 hrely hinv r' s5 hexec
  obtain ⟨-, hallows, rfl⟩ := hexec
  have howed : Owed audience allowed i s4 .leave := stable_holding s3 s4 hrely.toKeeps hholding3
  refine ⟨hinv.effect howed hallows, fun j hj => rely_effect hj howed hallows, fun s6 hrely6 => ?_⟩
  cases result with
  | ok a => exact hended.2.grows (hrely.history.trans
      ((later_effect hallows).history.trans hrely6.history))
  | error e => trivial

theorem safex_serialize {store : TransportManifestStore}
    (h : ∀ s, Holding i s → Turn audience allowed i answer m s) :
    (storeOutline audience allowed).safex i (serialize store m)
      (fun a s => (answer a).Ended s.history) (fun _ _ => True) s := by
  unfold serialize
  apply Outline.safex_ite
  · exact fun _ => Outline.safex_throw fun _ _ => trivial
  · intro _
    apply Outline.safex_bind
    apply safex_quiescent (K := fun _ => True) (by trivial) (fun _ _ _ _ => trivial) trivial
    exact fun _ _ s2 _ _ _ _ _ _ =>
      safex_takeTurn (K := fun _ => True) (fun _ _ _ _ => trivial) trivial fun s hs _ => h s hs

/-! ## Operations -/

theorem turn_orNone {m : Async (Option TransportAdmission)}
    (h : Turn audience allowed i .read m s) : Turn audience allowed i .read (orNone m) s := by
  constructor
  apply Outline.safe_bind
  apply Outline.safe_mono _ h.safe
  intro r s1 hended
  have hkept : ∀ s2, Holding i s1 → StoreRely audience allowed i s1 s2 → Holding i s2 :=
    fun s2 hs1 hrely => stable_holding s1 s2 hrely.toKeeps hs1
  cases r with
  | ok a => exact fun s2 hrely => ⟨hkept s2 hended.1 hrely, hended.2.grows hrely.history⟩
  | error e =>
    cases e with
    | transport code => exact fun s2 hrely => ⟨hkept s2 hended hrely, trivial⟩
    | _ => exact fun s2 hrely => hkept s2 hended hrely

/-! ### The record of an admission -/

section Committed

variable {v : TransportManifestVerifier} {manifest : Document} {rollback : Option Document}
  {value : Option ManifestRecord} {enrollmentFloor : Option Floor} {now commitTime : TransportTimeWindow}
  {result : TransportAdmission} {anchor : TransportTimeAnchor}
  {deadline : Option TransportClockDeadline} {sample : RuntimeBootClockSnapshot}

theorem rollback_of_committed {audience : Text}
    (h : (committed audience result anchor commitTime).rollback.isNull = false) :
    result.rollback.isSome = true := by
  unfold committed at h
  cases hrollback : result.rollback with
  | none =>
    rw [hrollback] at h
    cases h
  | some fields => rfl

/-- It may take the place of the record that it was admitted over, or of none. -/
theorem replaces_committed
    (hadmitted' : v.admitDocument manifest rollback ((value.map ManifestRecord.floor) <|>
      enrollmentFloor.map (Floor.toDocument v.audience)) now.latest now.earliest = .ok result)
    (hfloor : value = none → enrollmentFloor.isSome = true)
    (haccepted : ∀ record, value = some record → record.accepted v.audience = true)
    (hwindow : windowOf anchor value deadline sample = .ok commitTime)
    (hbefore : commitTime.latest.isBefore now.latest = false)
    (hlive : requireLive commitTime result.effectiveExpiresAt = .ok ()) :
    Replaces v.audience value (committed v.audience result anchor commitTime) := by
  obtain ⟨hvalid, hexpiry, hover⟩ := admitDocument_eq_ok hadmitted'
  obtain ⟨hw, hnewer⟩ := windowOf_eq_ok hwindow
  have hle : now.latest.micros ≤ commitTime.latest.micros := isBefore_eq_false.mp hbefore
  have hlast : commitTime.latest.year ≤ 9999 := by
    unfold requireLive at hlive
    split at hlive
    · rename_i hbefore'
      have hexpires := isBefore_eq_true.mp hbefore'
      have hyear : commitTime.latest.year ≤ result.effectiveExpiresAt.year :=
        DateTime.year_mono (Int.le_of_lt hexpires)
      omega
    · cases hlive
  have hfirst : ∀ previous, AdmittedOver previous now.latest result → 1 ≤ commitTime.latest.year := by
    intro previous hprevious
    obtain ⟨last, htime, hlast⟩ := hprevious.last_le
    have hyear := (year_of_time htime).1
    have hmono : last.year ≤ commitTime.latest.year :=
      DateTime.year_mono (Int.le_trans hlast hle)
    omega
  cases value with
  | none =>
    obtain ⟨floor, rfl⟩ := Option.isSome_iff_exists.mp (hfloor rfl)
    obtain ⟨previous, -, hprevious⟩ := hover _ rfl
    have hcommitted : Accepted v.audience (committed v.audience result anchor commitTime) _ _ _ :=
      accepted_committed hvalid hw (hfirst previous hprevious) hlast
    exact ⟨hcommitted.accepted, fun old hold => by cases hold⟩
  | some record =>
    obtain ⟨previous, hvalidated, hprevious⟩ := hover _ rfl
    obtain ⟨floor, last, floorTime, h⟩ := exists_accepted (haccepted record rfl)
    have hsame : previous = floor := Except.ok.inj (hvalidated.symm.trans h.floor_eq)
    subst hsame
    obtain ⟨last', hobserved, hlater⟩ := hnewer record rfl
    have hsame : last' = last := Option.some.inj (hobserved.symm.trans h.last_eq)
    subst hsame
    have hcommitted : Accepted v.audience (committed v.audience result anchor commitTime) _ _ _ :=
      accepted_committed hvalid hw (hfirst previous hprevious) hlast
    refine ⟨hcommitted.accepted, fun old hold => ?_⟩
    cases hold
    refine ⟨previous, last', floorTime, _, _, _, h, hcommitted, ?_, hlater, ?_⟩
    · exact ⟨hprevious.precedes.version_le, hprevious.precedes.same⟩
    · exact le_truncated (fraction_of_time h.floorTime_eq) (Int.le_trans h.floorTime_le hlater)

theorem killsKept_committed {raw : Option StoredText}
    (hadmitted' : v.admitDocument manifest rollback ((value.map ManifestRecord.floor) <|>
      enrollmentFloor.map (Floor.toDocument v.audience)) now.latest now.earliest = .ok result)
    (hload : loadRecord v.audience raw = .ok value) :
    KillsKept v.audience raw (committed v.audience result anchor commitTime) := by
  intro hrollback old floor floor' hold hfloor hfloor'
  obtain rfl : value = some old := Except.ok.inj (hload.symm.trans hold)
  obtain ⟨-, -, hover⟩ := admitDocument_eq_ok hadmitted'
  obtain ⟨previous, hvalidated, hprevious⟩ := hover _ rfl
  obtain rfl : previous = floor := Except.ok.inj (hvalidated.symm.trans hfloor)
  have hsame := validateFloor_toDocument_eq hfloor'
  subst hsame
  exact hprevious.kills (rollback_of_committed hrollback)

end Committed

theorem calls_require {c : StoreCall} {hc : c.Answer = Try α} (h : Quiescent c) :
    Throwing.Calls Quiescent (require c hc) :=
  .bind (.await h) fun _ => .attempt _

theorem calls_closing {handle : Nat} {m : Async α} (h : Throwing.Calls Quiescent m) :
    Throwing.Calls Quiescent (closing handle m) := by
  apply Prog.Calls.bind h
  intro r
  cases r with
  | ok a => trivial
  | error e => exact ⟨trivial, fun _ => trivial⟩

theorem calls_sample (handle : Nat) : Throwing.Calls Quiescent (sample handle) := by
  apply Throwing.Calls.bind (.await (by trivial))
  intro _
  apply Throwing.Calls.bind (.await (by trivial))
  intro _
  apply Throwing.Calls.ensure _ (by trivial)
  apply calls_closing
  apply Throwing.Calls.bind (calls_require (by trivial))
  intro _
  apply Throwing.Calls.bind (calls_require (by trivial))
  intro _
  apply Throwing.Calls.bind (calls_require (by trivial))
  intro _
  apply Throwing.Calls.bind (calls_require (by trivial))
  intro native
  exact calls_require (by trivial)

section Operations

variable (honest : ∀ e, allowed e → Honest e)
include honest

variable {store : TransportManifestStore} {request : AcceptRequest}

theorem turn_readManifest {deadline : Option TransportClockDeadline} {generation : Nat}
    {now : TransportTimeWindow} {value : ManifestRecord}
    (haudience : store.verifier.audience = audience) (hs : Loaded audience allowed i (some value) s) :
    Turn audience allowed i .read (readManifest store deadline generation now value) s := by
  have hholding : ∀ s, Loaded audience allowed i (some value) s → Holding i s := fun _ h => h.holding
  unfold readManifest
  rw [haudience]
  apply next_call (by trivial) stable_loaded hs
  intro _ s1 hs1
  apply next_attempt stable_loaded hholding hs1
  intro result s2 _ hs2
  apply next_attempt stable_loaded hholding hs2
  intro floor s3 _ hs3
  apply turn_ite
  · exact fun _ => turn_throw hs3.holding
  · intro _
    apply next_require (by trivial) stable_loaded hholding hs3
    intro _ s4 hs4
    apply turn_bind
    apply turn_observe honest hs4
    intro now' value' s5 _ hs5
    apply next_attempt stable_holding (fun _ h => h) hs5.holding
    intro _ s6 _ hs6
    apply turn_bind
    apply turn_noting (N := fun finished history => finished = true → .returned ∈ history)
      (by trivial) hs6 (fun _ _ _ hgrows h hfinished => hgrows.subset (h hfinished))
    · rintro r finished s7 hr rfl
      obtain rfl : r = .ok true := hr
      exact List.mem_append_right _ List.mem_cons_self
    · intro finished s7 hs7 hnoted
      apply turn_ite
      · exact fun hfinished => end_pure hs7 (hnoted hfinished)
      · exact fun _ => end_pure hs7 trivial

theorem safex_read {deadline : Option TransportClockDeadline}
    (haudience : store.verifier.audience = audience) :
    (storeOutline audience allowed).safex i (AppShell.read store deadline)
      (fun a s => (StoreAnswer.read a).Ended s.history) (fun _ _ => True) s := by
  unfold AppShell.read
  rw [haudience]
  apply safex_serialize
  intro s hs
  apply next_call (by trivial) stable_holding hs
  intro generation s1 hs1
  apply turn_bind
  apply turn_load hs1
  intro loaded s2 _ hs2 _
  cases loaded with
  | none => exact turn_throw hs2.holding
  | some value =>
    apply turn_bind
    apply turn_observe honest hs2
    intro now value' s3 _ hs3
    apply next_call (by trivial) stable_loaded hs3
    intro suspended s4 hs4
    apply turn_ite
    · exact fun _ => end_pure hs4.holding trivial
    · exact fun _ => turn_orNone (turn_readManifest honest haudience hs4)

theorem safex_discardEnvelopes (haudience : store.verifier.audience = audience) :
    (storeOutline audience allowed).safex i (AppShell.discardEnvelopes store)
      (fun _ s => StoreAnswer.discardEnvelopes.Ended s.history) (fun _ _ => True) s := by
  unfold AppShell.discardEnvelopes
  rw [haudience]
  apply Outline.safex_bind
  apply safex_call
  intro s1 hrely hinv
  refine ⟨trivial, fun generation _ hgeneration s2 hrely2 => ?_⟩
  -- the denial is not older than the generation it has moved on to
  have hbounded : generation ≤ s2.generation := by
    have hnew : generation = s1.generation + 1 := hgeneration
    exact hnew ▸ hrely2.generation_le
  have hnoted : .discarded generation ∈ s2.history :=
    hrely2.history.subset (List.mem_append_right _ List.mem_cons_self)
  apply Outline.safex_ite
  · exact fun _ => Outline.safex_throw fun _ _ => trivial
  · intro _
    apply safex_takeTurn (stable_later s2) (.refl s2)
    intro s3 hs3 hgrows3
    apply turn_bind
    apply turn_load hs3
    intro loaded s4 _ hs4 hgrows4
    cases loaded with
    | none => exact turn_throw hs4.holding
    | some value =>
      have hreplaces : Timely allowed → Replaces audience (some value) (discarded value) := by
        intro htimely
        have hsucceeds : value.Succeeds audience (discarded value) :=
          succeeds_discarded (loadRecord_eq_ok (hs4.load htimely))
        refine ⟨hsucceeds.accepted, fun old hold => ?_⟩
        cases hold
        exact hsucceeds
      apply turn_bind
      apply turn_write honest hs4.holding hs4.load (fun _ => ⟨rfl, rfl⟩) hreplaces
      intro s5 hstored hs5 hgrows5
      constructor
      apply safex_call
      intro s6 hrely6 hinv6
      obtain ⟨hholding6, hdurable6, -⟩ := hrely6.held hs5.holding
      have hgrows6 : Later s2 s6 :=
        hgrows3.trans (hgrows4.trans (hgrows5.trans hrely6.toLater))
      refine ⟨⟨hholding6, ?_, ?_⟩, fun r _ hallows s7 hrely7 => ?_⟩
      · exact Nat.le_trans hbounded hgrows6.generation_le
      · rw [hdurable6, hstored]
        exact erased_of ⟨rfl, rfl⟩
      · have hafter : Holding i (s6.effect i ⟨.erased generation, r⟩) :=
          StoreState.effect_head hholding6 (by exact StoreCall.noConfusion)
        have herased : List.Sublist [.discarded generation, .erased generation]
            (s6.history ++ [.erased generation]) :=
          (List.singleton_sublist.mpr (hgrows6.history.subset hnoted)).append (.refl _)
        exact ⟨stable_holding _ s7 hrely7.toKeeps hafter, generation,
          herased.trans hrely7.history.sublist⟩

theorem safex_openSelection {admission : TransportAdmission} {expectedGeneration : Nat}
    {operationStarted : RuntimeBootClockSnapshot} {operationBudget : Int}
    (haudience : store.verifier.audience = audience) : (storeOutline audience allowed).safex i
      (AppShell.openSelection store admission expectedGeneration operationStarted operationBudget)
      (fun a s => (StoreAnswer.selection a).Ended s.history) (fun _ _ => True) s := by
  unfold AppShell.openSelection
  rw [haudience]
  apply safex_serialize
  intro s hs
  apply next_require (by trivial) stable_holding (fun _ h => h) hs
  intro _ s1 hs1
  apply next_call (by trivial) stable_holding hs1
  intro current s2 hs2
  apply turn_ite
  · exact fun _ => turn_throw hs2
  · intro _
    apply turn_bind
    apply turn_load hs2
    intro loaded s3 _ hs3 _
    have hholding : ∀ s, Loaded audience allowed i loaded s → Holding i s := fun _ h => h.holding
    apply next_require (by trivial) stable_loaded hholding hs3
    intro _ s4 hs4
    apply next_call (by trivial) stable_loaded hs4
    intro suspended s5 hs5
    cases loaded with
    | none => exact turn_throw hs5.holding
    | some value =>
      apply turn_ite
      · exact fun _ => turn_throw hs5.holding
      · intro _
        apply next_attempt stable_loaded hholding hs5
        intro floor s6 _ hs6
        apply turn_ite
        · exact fun _ => turn_throw hs6.holding
        · intro _
          apply turn_ite
          · exact fun _ => turn_throw hs6.holding
          · intro _
            apply next_call (by trivial) stable_loaded hs6
            intro epoch s7 hs7
            apply next_attempt stable_loaded hholding hs7
            intro signed s8 _ hs8
            apply next_attempt stable_loaded hholding hs8
            intro deadline s9 _ hs9
            apply turn_bind
            apply turn_observe honest hs9
            intro now value' t _ ht
            apply next_attempt stable_holding (fun _ h => h) ht.holding
            intro _ t1 _ ht1
            apply next_attempt stable_holding (fun _ h => h) ht1
            intro anchor t2 _ ht2
            apply next_call (by trivial) stable_holding ht2
            intro handle t3 ht3
            apply turn_bind
            apply turn_mono ⟨safex_of_calls stable_holding (calls_sample handle) ht3⟩
            exact fun _ t4 ht4 => end_pure ht4 trivial

/-- The first window of `_accept` leaves a record if there was one. -/
theorem turn_acceptWindow {value : Option ManifestRecord}
    {Q : TransportTimeAnchor × TransportTimeWindow × Option ManifestRecord → StoreState → Prop}
    (hs : Loaded audience allowed i value s)
    (h : ∀ anchor now value' s', (value' = none → value = none) → Loaded audience allowed i value' s' → Q (anchor, now, value') s') :
    InTurn audience allowed i (acceptWindow audience request value) Q s := by
  have hholding : ∀ s, Loaded audience allowed i value s → Holding i s := fun _ h => h.holding
  unfold acceptWindow
  cases request.onlineAnchor with
  | some anchor =>
    apply turn_bind
    apply turn_window stable_loaded hholding hs
    intro now sample s1 _ _ hs1
    exact turn_pure stable_loaded hs1 fun s2 hs2 => h anchor now value s2 id hs2
  | none =>
    cases value with
    | none => exact turn_throw hs.holding
    | some value =>
      apply turn_bind
      apply turn_attempt stable_loaded hholding hs
      intro anchor s1 _ hs1
      apply turn_bind
      apply turn_observe honest hs1
      intro now value' s2 _ hs2
      exact turn_pure stable_loaded hs2 fun s3 hs3 =>
        h anchor now (some value') s3 (fun hnone => by cases hnone) hs3

omit honest in
/-- The call by which an admission goes on to write: from there on no envelopes are
kept erased. -/
theorem turn_commit {expected : Nat} {checked : Bool} {record : ManifestRecord}
    {value : Option ManifestRecord} {rest : Async α} (hs : Loaded audience allowed i value s)
    (hkills : Timely allowed → KillsKept audience s.durable record)
    (h : ∀ s', Holding i s' → (Timely allowed → loadRecord audience s'.durable = .ok value) →
      fenced s'.history = false → Turn audience allowed i answer rest s') :
    Turn audience allowed i answer
      (require (.commit expected checked record) rfl >>= fun _ => rest) s := by
  apply turn_bind
  apply turn_bind
  constructor
  apply safex_call
  intro s1 hrely hinv
  obtain ⟨hholding, hdurable, -⟩ := hrely.held hs.holding
  refine ⟨⟨hholding, fun htimely => hdurable ▸ hkills htimely⟩, fun r _ hallows s2 hrely2 => ?_⟩
  have hafter : Holding i (s1.effect i ⟨.commit expected checked record, r⟩) :=
    StoreState.effect_head hholding (by exact StoreCall.noConfusion)
  obtain ⟨hholding2, hdurable2, hfenced2⟩ := hrely2.held hafter
  cases r with
  | error e => exact turn_throw hholding2
  | ok result =>
    have hopen : fenced s2.history = false := by
      rw [hfenced2]
      exact fenced_append s1.history (.committing expected s1.durable record)
    have hsame : s2.durable = s.durable := hdurable2.trans hdurable
    have hstable : Stable i fun s' => Holding i s' ∧
        (Timely allowed → loadRecord audience s'.durable = .ok value) ∧
          fenced s'.history = false := by
      rintro a b hkeeps ⟨hheld, hload, hfree⟩
      obtain ⟨hheld', hdurable', hfenced'⟩ := hkeeps.held hheld
      exact ⟨hheld', fun htimely => hdurable' ▸ hload htimely, hfenced'.trans hfree⟩
    apply turn_attempt hstable (fun _ h => h.1) ⟨hholding2, fun htimely => hsame ▸ hs.load htimely, hopen⟩
    exact fun _ s3 _ hs3 => h s3 hs3.1 hs3.2.1 hs3.2.2

theorem turn_acceptCommitted {result : TransportAdmission} {anchor : TransportTimeAnchor}
    {record : ManifestRecord} {value : Option ManifestRecord} (hs : Holding i s)
    (hload : Timely allowed → loadRecord audience s.durable = .ok value)
    (hopen : fenced s.history = false) (hreplaces : Timely allowed → Replaces audience value record) :
    Turn audience allowed i .accept (acceptCommitted store request result anchor record) s := by
  apply turn_bind
  apply turn_write honest hs hload _ hreplaces
  · intro s1 _ hs1 _
    apply next_require (by trivial) stable_holding (fun _ h => h) hs1.holding
    intro _ s2 hs2
    apply turn_bind
    apply turn_window stable_holding (fun _ h => h) hs2
    intro now _ s3 _ _ hs3
    apply next_attempt stable_holding (fun _ h => h) hs3
    intro _ s4 _ hs4
    apply turn_bind
    apply turn_noting (N := fun _ history => .resumed request.expectedGeneration ∈ history)
      (by trivial) hs4 fun _ _ _ hgrows h => hgrows.subset h
    · intro r _ s5 hr
      obtain rfl : r = .ok () := hr
      exact List.mem_append_right _ List.mem_cons_self
    · intro _ s5 hs5 hnoted
      have hstable : Stable i fun s => Holding i s ∧
          .resumed request.expectedGeneration ∈ s.history :=
        stable_holding.and fun _ _ hkeeps h => hkeeps.history.subset h
      apply turn_ite
      · intro _
        apply next_require (by trivial) hstable (fun _ h => h.1) ⟨hs5, hnoted⟩
        exact fun _ s6 hs6 => end_pure hs6.1 ⟨_, hs6.2⟩
      · exact fun _ => end_pure hs5 ⟨_, hnoted⟩
  · intro hfenced
    rw [hopen] at hfenced
    cases hfenced

theorem turn_acceptAdmitted {manifest : Document} {rollback : Option Document}
    {enrollmentFloor : Option Floor} {anchor : TransportTimeAnchor} {now : TransportTimeWindow}
    {value : Option ManifestRecord} (haudience : store.verifier.audience = audience)
    (hfloor : value = none → enrollmentFloor.isSome = true) (hs : Loaded audience allowed i value s) :
    Turn audience allowed i .accept
      (acceptAdmitted store request manifest rollback enrollmentFloor anchor now value) s := by
  subst haudience
  have hholding : ∀ s, Loaded store.verifier.audience allowed i value s → Holding i s :=
    fun _ h => h.holding
  unfold acceptAdmitted
  apply next_require (by trivial) stable_loaded hholding hs
  intro _ s1 hs1
  apply next_attempt stable_loaded hholding hs1
  intro _ s2 _ hs2
  apply next_call (by trivial) stable_loaded hs2
  intro _ s3 hs3
  apply next_attempt stable_loaded hholding hs3
  intro result s4 hadmitted' hs4
  apply next_attempt stable_loaded hholding hs4
  intro _ s5 _ hs5
  apply turn_bind
  apply turn_window stable_loaded hholding hs5
  intro commitTime sample s6 hwindow _ hs6
  apply turn_ite
  · exact fun _ => turn_throw hs6.holding
  · intro hbefore
    apply next_attempt stable_loaded hholding hs6
    intro _ s7 hlive hs7
    have hreplaces : Timely allowed → Replaces store.verifier.audience value
        (committed store.verifier.audience result anchor commitTime) := by
      intro htimely
      apply replaces_committed hadmitted' hfloor _ hwindow (by simpa using hbefore) hlive
      intro record hrecord
      subst hrecord
      exact loadRecord_eq_ok (hs7.load htimely)
    have hkills : Timely allowed → KillsKept store.verifier.audience s7.durable
        (committed store.verifier.audience result anchor commitTime) :=
      fun htimely => killsKept_committed hadmitted' (hs7.load htimely)
    apply turn_commit hs7 hkills
    exact fun s8 hs8 hload8 hopen => turn_acceptCommitted honest hs8 hload8 hopen hreplaces

theorem safex_accept (haudience : store.verifier.audience = audience) :
    (storeOutline audience allowed).safex i (AppShell.accept store request)
      (fun a s => (StoreAnswer.accept a).Ended s.history) (fun _ _ => True) s := by
  have hany : Stable i fun _ => True := fun _ _ _ _ => trivial
  unfold AppShell.accept
  apply Outline.safex_bind
  apply safex_attempt hany trivial _ fun _ _ _ _ _ => trivial
  intro manifest s1 _ _
  apply Outline.safex_bind
  apply safex_attempt hany trivial _ fun _ _ _ _ _ => trivial
  intro rollback s2 _ _
  apply Outline.safex_bind
  apply safex_attempt hany trivial _ fun _ _ _ _ _ => trivial
  intro enrollmentFloor s3 _ _
  apply safex_serialize
  intro s hs
  unfold acceptQueued
  rw [haudience]
  apply next_require (by trivial) stable_holding (fun _ h => h) hs
  intro _ s4 hs4
  apply turn_bind
  apply turn_load hs4
  intro loaded s5 _ hs5 _
  have hholding : ∀ s, Loaded audience allowed i loaded s → Holding i s := fun _ h => h.holding
  apply next_require (by trivial) stable_loaded hholding hs5
  intro _ s6 hs6
  apply turn_ite
  · exact fun _ => turn_throw hs6.holding
  · intro _
    apply turn_ite
    · exact fun _ => turn_throw hs6.holding
    · intro hfloors
      apply turn_bind
      apply turn_acceptWindow honest hs6
      intro anchor now value s7 hnone hs7
      apply turn_acceptAdmitted honest haudience _ hs7
      intro hvalue
      rw [hnone hvalue] at hfloors
      simpa [Option.isSome_iff_ne_none] using hfloors

/-! ## Tasks -/

omit honest in
theorem safex_answer {m : Async α} {f : α → StoreAnswer}
    (h : (storeOutline audience allowed).safex i m (fun a s => (f a).Ended s.history)
      (fun _ _ => True) s) : (storeOutline audience allowed).safex i (f <$> m)
      (fun a s => a.Ended s.history) (fun _ _ => True) s :=
  Outline.safex_map (Outline.safex_mono h (fun _ _ hended _ hrely => hended.grows hrely.history)
    fun _ _ _ _ _ => trivial)

theorem safex_run {task : StoreTask} (htask : task.isOver audience) :
    (storeOutline audience allowed).safex i task.run (fun a s => a.Ended s.history)
      (fun _ _ => True) s := by
  have hcalls : ∀ {α : Type} {m : Async α} {f : α → StoreAnswer}, Throwing.Calls Quiescent m →
      (∀ a history, (f a).Ended history) → (storeOutline audience allowed).safex i m
        (fun a s => (f a).Ended s.history) (fun _ _ => True) s := fun hm hended =>
    Outline.safex_mono (safex_of_calls (K := fun _ => True) (fun _ _ _ _ => trivial) hm trivial)
      (fun a s _ => hended a s.history) fun _ _ _ => trivial
  cases task with
  | read store deadline => exact safex_answer (safex_read honest htask)
  | accept store request => exact safex_answer (safex_accept honest htask.1)
  | openSelection store admission expectedGeneration operationStarted operationBudget =>
    exact safex_answer (safex_openSelection honest htask)
  | discardEnvelopes store => exact safex_answer (safex_discardEnvelopes honest htask)
  | sample handle => exact safex_answer (hcalls (calls_sample handle) fun _ _ => trivial)
  | requireCurrent handle =>
    exact safex_answer (hcalls (calls_require (by trivial)) fun _ _ => trivial)
  | close handle => exact safex_answer (hcalls (.await (by trivial)) fun _ _ => trivial)

theorem storeOutline_valid : (storeOutline audience allowed).Valid := by
  constructor
  · rintro s s' task hinv ⟨htask, rfl⟩
    exact ⟨hinv, fun j => (storeOutline audience allowed).refl j _, fun i => htask⟩
  · intro i task s hinv htask
    apply Outline.safe_bind
    apply Outline.safe_mono _ (safex_run honest htask)
    intro r s1 hended s2 hrely ended hr
    subst hr
    exact StoreAnswer.Ended.grows hended hrely.history

end Operations

omit i s in
theorem storeOutline_good (durable : Option StoredText) :
    (storeOutline audience allowed).Good (StoreState.new durable) := by
  refine ⟨⟨⟨?_, List.Pairwise.nil, ?_⟩, ?_, ?_⟩, ?_⟩
  · intro note hnote
    cases hnote
  · intro before g after hsplit
    cases before <;> cases hsplit
  · intro hfenced
    cases hfenced
  · intro _ g before value hmem
    cases hmem
  · intro i program hi
    cases hi

end Specs

end Pokrov.AppShell
