import Pokrov.AppShell.Succession
import Pokrov.AppShell.TransportManifestStore
import Pokrov.Lib.Histories

/-!
# Turns at the record

The operation whose turn it is holds the record: nobody else writes, and nobody
else notes that envelopes were erased or are admitted. What it has loaded stays
what is stored until it writes itself.
-/

namespace Pokrov.AppShell

open Dart Effects

/-! ## What is stored -/

/-- What is stored later: the same, or a record that succeeds it. -/
def Follows (audience : Text) (a b : Option StoredText) : Prop :=
  b = a ∨ ∃ value, loadRecord audience b = .ok (some value) ∧
    (a = none ∨ ∃ before, loadRecord audience a = .ok (some before) ∧ before.Succeeds audience value)

theorem Follows.refl (audience : Text) (a : Option StoredText) : Follows audience a a := .inl rfl

theorem Follows.trans {audience : Text} {a b c : Option StoredText} (hab : Follows audience a b)
    (hbc : Follows audience b c) : Follows audience a c := by
  rcases hbc with rfl | ⟨value, hvalue, hbefore⟩
  · exact hab
  · rcases hab with rfl | ⟨middle, hmiddle, hfirst⟩
    · exact .inr ⟨value, hvalue, hbefore⟩
    · rcases hbefore with hnone | ⟨before, hload, hsucceeds⟩
      · rw [hnone] at hmiddle
        cases hmiddle
      · have hsame : middle = before :=
          Option.some.inj (Except.ok.inj (hmiddle.symm.trans hload))
        subst hsame
        rcases hfirst with hnone | ⟨first, hload', hsucceeds'⟩
        · exact .inr ⟨value, hvalue, .inl hnone⟩
        · exact .inr ⟨value, hvalue, .inr ⟨first, hload', hsucceeds'.trans hsucceeds⟩⟩

def ManifestRecord.IsErased (value : ManifestRecord) : Prop :=
  value.manifest = .null ∧ value.rollback = .null

/-- A record is stored, and it has no envelopes. -/
def Erased (raw : Option StoredText) : Prop :=
  ∃ stored value, raw = some stored ∧ stored.decoded.bind ManifestRecord.ofDocument = some value ∧
    value.IsErased

variable {value : ManifestRecord}

theorem erased_of (h : value.IsErased) : Erased (some (.of value.toDocument)) :=
  ⟨_, value, rfl, ofDocument_toDocument value, h⟩

theorem decoded_of_loadRecord {audience : Text} {raw : StoredText}
    (h : loadRecord audience (some raw) = .ok (some value)) :
    raw.decoded.bind ManifestRecord.ofDocument = some value := by
  simp only [loadRecord] at h
  split at h
  · cases h
  · split at h
    · cases h
    · split at h
      · cases h
        assumption
      · cases h

theorem Erased.load {audience : Text} {raw : Option StoredText} (herased : Erased raw)
    (h : loadRecord audience raw = .ok (some value)) : value.IsErased := by
  obtain ⟨stored, value', rfl, hdecoded, herased⟩ := herased
  have hsame : value' = value := Option.some.inj (hdecoded.symm.trans (decoded_of_loadRecord h))
  exact hsame ▸ herased

/-- An authorization to roll back takes over the kills of the floor. -/
def KillsKept (audience : Text) (before : Option StoredText) (value : ManifestRecord) : Prop :=
  value.rollback.isNull = false → ∀ old floor floor',
    loadRecord audience before = .ok (some old) → validateFloor audience old.floor = .ok floor →
      validateFloor audience value.floor = .ok floor' → floor.kills.Subset floor'.kills

/-! ## The environment -/

/-- A write that is reported has replaced the record. -/
def Honest : Event Storage → Prop
  | ⟨.writeStorage _, outcome⟩ => outcome.reported = true → outcome.replaced = true
  | _ => True

/-- What `_observe` accepts ends before the year 10000. -/
def InYears : Event Storage → Prop
  | ⟨.readBootClock (some (value, deadline)), .ok sample⟩ =>
    ∀ anchor w, anchorOf value = .ok anchor →
      windowOf anchor (some value) deadline sample = .ok w → w.latest.year ≤ 9999
  | _ => True

/-! ## Notes -/

namespace StoreNote

/-- The generation from which a denial holds. -/
def opens : StoreNote → Option Nat
  | discarded generation => some generation
  | erased generation => some generation
  | _ => none

/-- The generation at which an admission ends it. -/
def ends : StoreNote → Option Nat
  | committing generation _ _ => some generation
  | resumed generation => some generation
  | _ => none

/-- Whether the envelopes stay erased. -/
def fences (fenced : Bool) : StoreNote → Bool
  | erased _ => true
  | committing _ _ _ => false
  | _ => fenced

end StoreNote

/-- Nothing was admitted since envelopes were erased. -/
def fenced (history : List StoreNote) : Bool := history.foldl StoreNote.fences false

@[simp] theorem fenced_append (history : List StoreNote) (note : StoreNote) :
    fenced (history ++ [note]) = note.fences (fenced history) := by
  simp [fenced]

/-- When an operation makes a note. -/
def Noted (s : StoreState) (c : StoreCall) : StoreNote → Prop
  | .discarded generation => (∃ available, c = .discard available) ∧ generation = s.generation + 1
  | .erased generation => c = .erased generation
  | .committing generation before value =>
    (∃ checked, c = .commit generation checked value) ∧ generation = s.generation ∧
      before = s.durable
  | .resumed generation => generation = s.generation
  | .returned => s.suspended = false
  | .passed _ => s.suspended = false

namespace StoreState

variable {thread : Nat} {s : StoreState} {c : StoreCall} {r : c.Answer}

theorem requireCurrent_eq_ok {expected : Nat} {current : Bool}
    (h : s.requireCurrent expected current = .ok ()) : expected = s.generation := by
  unfold requireCurrent at h
  split at h
  · cases h
  · rename_i hcurrent
    rw [not_or, not_not] at hcurrent
    exact hcurrent.1

theorem suspended_of_selectionCurrent {selection : TransportManifestSelection} {current : Bool}
    (h : s.selectionCurrent selection current = true) : s.suspended = false := by
  unfold selectionCurrent at h
  simp only [Bool.and_eq_true, Bool.not_eq_true'] at h
  exact h.2.1.1.2

/-- What a call adds to the history. -/
theorem effect_history (hallows : s.allows thread ⟨c, r⟩) :
    (s.effect thread ⟨c, r⟩).history = s.history ∨
      ∃ note, (s.effect thread ⟨c, r⟩).history = s.history ++ [note] ∧ Noted s c note := by
  cases c with
  | discard available =>
    right
    exact ⟨.discarded r, rfl, ⟨available, rfl⟩, hallows⟩
  | finishRead generation =>
    cases r with
    | error e => exact .inl rfl
    | ok result =>
      cases result with
      | false => exact .inl rfl
      | true =>
        right
        refine ⟨.returned, rfl, ?_⟩
        have h : (.ok true : Try Bool) = (s.requireGeneration generation).map fun _ => !s.suspended :=
          hallows
        unfold requireGeneration at h
        split at h
        · cases h
        · have hsuspended : true = !s.suspended := Except.ok.inj h
          show s.suspended = false
          simpa using hsuspended.symm
  | commit expected checked value =>
    cases r with
    | error e => exact .inl rfl
    | ok result =>
      right
      obtain ⟨current, -, h⟩ := hallows
      exact ⟨.committing expected s.durable value, rfl, ⟨checked, rfl⟩,
        requireCurrent_eq_ok h.symm, rfl⟩
  | resume expected checked =>
    cases r with
    | error e => exact .inl rfl
    | ok result =>
      right
      obtain ⟨current, -, h⟩ := hallows
      exact ⟨.resumed expected, rfl, requireCurrent_eq_ok h.symm⟩
  | erased generation =>
    right
    exact ⟨.erased generation, rfl, rfl⟩
  | selectionCurrent handle =>
    cases r with
    | error e => exact .inl rfl
    | ok result =>
      right
      refine ⟨.passed handle, rfl, ?_⟩
      obtain ⟨current, h⟩ := hallows
      unfold requireSelection at h
      split at h
      · cases h
      · split at h
        · exact suspended_of_selectionCurrent (by assumption)
        · cases h
  | finishSample handle native =>
    cases r with
    | error e => exact .inl rfl
    | ok window =>
      right
      refine ⟨.passed handle, rfl, ?_⟩
      obtain ⟨current, h⟩ := hallows
      unfold finishSample at h
      split at h
      · cases h
      · split at h
        · exact suspended_of_selectionCurrent (by assumption)
        · cases h
  | writeStorage raw =>
    left
    simp only [effect]
    split <;> rfl
  | _ => exact .inl rfl

/-- The generation moves on with a denial only. -/
theorem effect_generation :
    (s.effect thread ⟨c, r⟩).generation = s.generation ∨
      ∃ available, c = .discard available ∧ (s.effect thread ⟨c, r⟩).generation = s.generation + 1 := by
  cases c with
  | discard available => exact .inr ⟨available, rfl, rfl⟩
  | writeStorage raw =>
    left
    simp only [effect]
    split <;> rfl
  | finishRead generation =>
    left
    rcases r with _ | (_ | _) <;> rfl
  | commit expected checked value =>
    left
    cases r <;> rfl
  | resume expected checked =>
    left
    cases r <;> rfl
  | selectionCurrent handle =>
    left
    cases r <;> rfl
  | finishSample handle native =>
    left
    cases r <;> rfl
  | _ => exact .inl rfl

theorem effect_durable :
    (s.effect thread ⟨c, r⟩).durable = s.durable ∨
      ∃ raw, c = .writeStorage raw ∧ (s.effect thread ⟨c, r⟩).durable = some raw := by
  cases c with
  | writeStorage raw =>
    simp only [effect]
    split
    · exact .inr ⟨raw, rfl, rfl⟩
    · exact .inl rfl
  | finishRead generation =>
    left
    rcases r with _ | (_ | _) <;> rfl
  | commit expected checked value =>
    left
    cases r <;> rfl
  | resume expected checked =>
    left
    cases r <;> rfl
  | selectionCurrent handle =>
    left
    cases r <;> rfl
  | finishSample handle native =>
    left
    cases r <;> rfl
  | _ => exact .inl rfl

/-- Only an admission ends a suspension. -/
theorem effect_suspended (hsuspended : s.suspended = true) :
    (s.effect thread ⟨c, r⟩).suspended = true ∨
      ∃ generation, (s.effect thread ⟨c, r⟩).history = s.history ++ [.resumed generation] := by
  cases c with
  | writeStorage raw =>
    left
    simp only [effect]
    split <;> exact hsuspended
  | discard available => exact .inl rfl
  | suspend => exact .inl rfl
  | finishRead generation =>
    left
    rcases r with _ | (_ | _) <;> exact hsuspended
  | commit expected checked value =>
    left
    cases r <;> exact hsuspended
  | resume expected checked =>
    cases r with
    | error e => exact .inl hsuspended
    | ok result => exact .inr ⟨expected, rfl⟩
  | selectionCurrent handle =>
    left
    cases r <;> exact hsuspended
  | finishSample handle native =>
    left
    cases r <;> exact hsuspended
  | _ => exact .inl hsuspended

/-- Whose turn it is stays so until it is given back. -/
theorem effect_head {i : Nat} (hhead : s.queue.head? = some i) (hleave : c ≠ .leave) :
    (s.effect thread ⟨c, r⟩).queue.head? = some i := by
  have happend : ∀ j, (s.queue ++ [j]).head? = some i := fun j => by
    rw [List.head?_append, hhead]
    rfl
  cases c with
  | enqueue => exact happend thread
  | discard available =>
    cases available with
    | false => exact hhead
    | true => exact happend thread
  | leave => exact absurd rfl hleave
  | writeStorage raw =>
    simp only [effect]
    split <;> exact hhead
  | finishRead generation => rcases r with _ | (_ | _) <;> exact hhead
  | commit expected checked value => cases r <;> exact hhead
  | resume expected checked => cases r <;> exact hhead
  | selectionCurrent handle => cases r <;> exact hhead
  | finishSample handle native => cases r <;> exact hhead
  | _ => exact hhead

end StoreState

/-! ## Denials -/

/-- A denial is ended by an admission of its generation or a later one. -/
def InOrder (history : List StoreNote) : Prop :=
  history.Pairwise fun a b => ∀ g, a.opens = some g → ∀ g', b.ends = some g' → g ≤ g'

/-- Until then nothing is read or used. -/
def Quiet (s : StoreState) : Prop :=
  ∀ (before : List StoreNote) g after, s.history = before ++ .discarded g :: after → (∀ g', .resumed g' ∉ after) →
    s.suspended = true ∧ .returned ∉ after ∧ ∀ handle, .passed handle ∉ after

structure Denied (s : StoreState) : Prop where
  bounded : ∀ note ∈ s.history, ∀ g, note.opens = some g → g ≤ s.generation
  inOrder : InOrder s.history
  quiet : Quiet s

theorem Noted.ends {s : StoreState} {c : StoreCall} {note : StoreNote} (h : Noted s c note) {g : Nat}
    (hends : note.ends = some g) : g = s.generation := by
  cases note with
  | committing generation before value =>
    cases hends
    exact h.2.1
  | resumed generation =>
    cases hends
    exact h
  | _ => cases hends

section Denials

variable {thread : Nat} {s : StoreState} {c : StoreCall} {r : c.Answer}

theorem le_effect_generation : s.generation ≤ (s.effect thread ⟨c, r⟩).generation := by
  have hmoves : (s.effect thread ⟨c, r⟩).generation = s.generation ∨
      ∃ available, c = .discard available ∧
        (s.effect thread ⟨c, r⟩).generation = s.generation + 1 := StoreState.effect_generation
  rcases hmoves with heq | ⟨_, -, heq⟩
  · omega
  · omega

theorem Noted.opens {note : StoreNote} (h : Noted s c note)
    (herased : ∀ g, c = .erased g → g ≤ s.generation) {g : Nat} (hopens : note.opens = some g) :
    g ≤ (s.effect thread ⟨c, r⟩).generation := by
  cases note with
  | discarded generation =>
    cases hopens
    obtain ⟨⟨available, rfl⟩, heq⟩ := h
    exact Nat.le_of_eq heq
  | erased generation =>
    cases hopens
    exact Nat.le_trans (herased g h) le_effect_generation
  | _ => cases hopens

theorem Denied.effect (h : Denied s) (hallows : s.allows thread ⟨c, r⟩)
    (herased : ∀ g, c = .erased g → g ≤ s.generation) : Denied (s.effect thread ⟨c, r⟩) := by
  rcases StoreState.effect_history hallows with hsame | ⟨note, happended, hnoted⟩
  · constructor
    · intro note hnote g hg
      rw [hsame] at hnote
      exact Nat.le_trans (h.bounded note hnote g hg) le_effect_generation
    · rw [hsame]
      exact h.inOrder
    · intro before g after hsplit hresumed
      rw [hsame] at hsplit
      obtain ⟨hsuspended, hquiet⟩ := h.quiet before g after hsplit hresumed
      rcases StoreState.effect_suspended hsuspended with hsuspended | ⟨generation, hlonger⟩
      · exact ⟨hsuspended, hquiet⟩
      · rw [hsame] at hlonger
        have hlength := congrArg List.length hlonger
        rw [List.length_append, List.length_singleton] at hlength
        omega
  · constructor
    · intro other hother g hg
      rw [happended, List.mem_append, List.mem_singleton] at hother
      rcases hother with hother | rfl
      · exact Nat.le_trans (h.bounded other hother g hg) le_effect_generation
      · exact hnoted.opens herased hg
    · unfold InOrder
      rw [happended, List.pairwise_append]
      refine ⟨h.inOrder, List.pairwise_singleton _ _, fun a ha b hb g hg g' hg' => ?_⟩
      rw [List.mem_singleton] at hb
      subst hb
      rw [hnoted.ends hg']
      exact h.bounded a ha g hg
    · intro before g after hsplit hresumed
      rw [happended] at hsplit
      rcases Histories.eq_of_append_singleton hsplit with ⟨rfl, hnote⟩ | ⟨rest, rfl, hbefore⟩
      · rw [← hnote] at hnoted
        obtain ⟨⟨available, rfl⟩, -⟩ := hnoted
        exact ⟨rfl, List.not_mem_nil, fun handle => List.not_mem_nil⟩
      · have hrest : ∀ g', .resumed g' ∉ rest :=
          fun g' hmem => hresumed g' (List.mem_append_left _ hmem)
        obtain ⟨hsuspended, hreturned, hpassed⟩ := h.quiet before g rest hbefore hrest
        refine ⟨?_, ?_, ?_⟩
        · rcases StoreState.effect_suspended hsuspended with hsuspended | ⟨generation, hlonger⟩
          · exact hsuspended
          · rw [happended] at hlonger
            have hlast := (List.append_inj' hlonger rfl).2
            obtain rfl := (List.cons.inj hlast).1
            exact absurd (List.mem_append_right _ List.mem_cons_self) (hresumed generation)
        · rw [List.mem_append, List.mem_singleton]
          rintro (hmem | rfl)
          · exact hreturned hmem
          · exact absurd (hsuspended.symm.trans hnoted) (by decide)
        · intro handle
          rw [List.mem_append, List.mem_singleton]
          rintro (hmem | rfl)
          · exact hpassed handle hmem
          · exact absurd (hsuspended.symm.trans hnoted) (by decide)

end Denials

/-! ## The outline -/

section Turns

variable (audience : Text) (allowed : Event Storage → Prop)

/-- What `_observe` accepts always ends before the year 10000. -/
def Timely : Prop := ∀ e, allowed e → InYears e

/-- It is the thread's turn. -/
def Holding (i : Nat) (s : StoreState) : Prop := s.queue.head? = some i

/-- A later state. -/
structure Later (s s' : StoreState) : Prop where
  generation_le : s.generation ≤ s'.generation
  history : s.history <+: s'.history

/-- Nothing that the thread relies on has moved. -/
structure Keeps (i : Nat) (s s' : StoreState) : Prop extends Later s s' where
  held : Holding i s → Holding i s' ∧ s'.durable = s.durable ∧ fenced s'.history = fenced s.history

structure StoreRely (i : Nat) (s s' : StoreState) : Prop extends Keeps i s s' where
  follows : Timely allowed → Follows audience s.durable s'.durable

structure StoreInv (s : StoreState) : Prop where
  denied : Denied s
  erased : fenced s.history = true → Erased s.durable
  kills : Timely allowed → ∀ g before value, .committing g before value ∈ s.history →
    KillsKept audience before value

theorem Later.refl (s : StoreState) : Later s s := ⟨Nat.le_refl _, List.prefix_refl _⟩

theorem Later.trans {a b c : StoreState} (hab : Later a b) (hbc : Later b c) : Later a c :=
  ⟨Nat.le_trans hab.generation_le hbc.generation_le, hab.history.trans hbc.history⟩

theorem Keeps.trans {i : Nat} {a b c : StoreState} (hab : Keeps i a b) (hbc : Keeps i b c) :
    Keeps i a c := by
  constructor
  · exact hab.toLater.trans hbc.toLater
  · intro ha
    obtain ⟨hb, hdurable, hfenced⟩ := hab.held ha
    obtain ⟨hc, hdurable', hfenced'⟩ := hbc.held hb
    exact ⟨hc, hdurable'.trans hdurable, hfenced'.trans hfenced⟩

theorem Keeps.refl (i : Nat) (s : StoreState) : Keeps i s s :=
  ⟨.refl s, fun h => ⟨h, rfl, rfl⟩⟩

/-- What an operation that has ended well has noted. -/
def StoreAnswer.Ended (history : List StoreNote) : StoreAnswer → Prop
  | .read (some _) => .returned ∈ history
  | .accept _ => ∃ generation, .resumed generation ∈ history
  | .discardEnvelopes => ∃ generation,
      List.Sublist [.discarded generation, .erased generation] history
  | _ => True

theorem StoreAnswer.Ended.grows {answer : StoreAnswer} {a b : List StoreNote}
    (h : answer.Ended a) (hgrows : a <+: b) : answer.Ended b := by
  cases answer with
  | read admission =>
    cases admission with
    | none => trivial
    | some value => exact hgrows.subset h
  | accept value =>
    obtain ⟨generation, hmem⟩ := h
    exact ⟨generation, hgrows.subset hmem⟩
  | discardEnvelopes =>
    obtain ⟨generation, hnoted⟩ := h
    exact ⟨generation, hnoted.trans hgrows.sublist⟩
  | _ => trivial

/-- No thread loses what it relies on, and every step that writes succeeds what
was stored. -/
def storeOutline : Outline (manifestStore audience allowed) where
  inv := StoreInv audience allowed
  rely := StoreRely audience allowed
  pre := fun _ task _ => task.isOver audience
  post := fun _ answer s => ∀ ended, answer = .ok ended → ended.Ended s.history
  refl := fun i s => ⟨.refl i s, fun _ => .refl audience _⟩
  trans := fun hab hbc => ⟨hab.toKeeps.trans hbc.toKeeps,
    fun htimely => (hab.follows htimely).trans (hbc.follows htimely)⟩

variable {audience allowed}

/-- What a thread owes at a call. -/
def Owed (audience : Text) (allowed : Event Storage → Prop) (i : Nat) (s : StoreState) :
    StoreCall → Prop
  | .leave => Holding i s
  | .writeStorage raw => Holding i s ∧ (fenced s.history = true → Erased (some raw)) ∧
      (Timely allowed → Follows audience s.durable (some raw))
  | .commit _ _ value => Holding i s ∧ (Timely allowed → KillsKept audience s.durable value)
  | .erased generation => Holding i s ∧ generation ≤ s.generation ∧ Erased s.durable
  | _ => True

variable {i : Nat} {s : StoreState} {c : StoreCall} {r : c.Answer}

theorem erased_effect (hinv : StoreInv audience allowed s) (howed : Owed audience allowed i s c)
    (hfenced : fenced s.history = true) : Erased (s.effect i ⟨c, r⟩).durable := by
  have hdurable : (s.effect i ⟨c, r⟩).durable = s.durable ∨
      ∃ raw, c = .writeStorage raw ∧ (s.effect i ⟨c, r⟩).durable = some raw :=
    StoreState.effect_durable
  rcases hdurable with hsame | ⟨raw, rfl, hwritten⟩
  · rw [hsame]
    exact hinv.erased hfenced
  · rw [hwritten]
    exact howed.2.1 hfenced

theorem StoreInv.effect (hinv : StoreInv audience allowed s) (howed : Owed audience allowed i s c)
    (hallows : s.allows i ⟨c, r⟩) : StoreInv audience allowed (s.effect i ⟨c, r⟩) := by
  constructor
  · refine hinv.denied.effect hallows fun g hg => ?_
    subst hg
    exact howed.2.1
  · intro hfenced
    rcases StoreState.effect_history hallows with hsame | ⟨note, happended, hnoted⟩
    · rw [hsame] at hfenced
      exact erased_effect hinv howed hfenced
    · rw [happended, fenced_append] at hfenced
      cases note with
      | erased generation =>
        obtain rfl : c = .erased generation := hnoted
        exact howed.2.2
      | committing generation before value => cases hfenced
      | discarded generation => exact erased_effect hinv howed hfenced
      | resumed generation => exact erased_effect hinv howed hfenced
      | returned => exact erased_effect hinv howed hfenced
      | passed handle => exact erased_effect hinv howed hfenced
  · intro htimely g before value hmem
    rcases StoreState.effect_history hallows with hsame | ⟨note, happended, hnoted⟩
    · rw [hsame] at hmem
      exact hinv.kills htimely g before value hmem
    · rw [happended, List.mem_append, List.mem_singleton] at hmem
      rcases hmem with hmem | rfl
      · exact hinv.kills htimely g before value hmem
      · obtain ⟨⟨checked, rfl⟩, -, rfl⟩ := hnoted
        exact howed.2 htimely

theorem later_effect (hallows : s.allows i ⟨c, r⟩) : Later s (s.effect i ⟨c, r⟩) := by
  refine ⟨le_effect_generation, ?_⟩
  rcases StoreState.effect_history hallows with hsame | ⟨note, happended, -⟩
  · exact hsame ▸ List.prefix_refl _
  · exact happended ▸ List.prefix_append _ _

/-- A call that leaves the record and its envelopes alone. -/
def Quiescent : StoreCall → Prop
  | .leave => False
  | .writeStorage _ => False
  | .commit _ _ _ => False
  | .erased _ => False
  | _ => True

/-- What a thread relies on is left alone by such a call. -/
theorem keeps_effect {j : Nat} (hquiescent : Quiescent c) (hallows : s.allows i ⟨c, r⟩) :
    Keeps j s (s.effect i ⟨c, r⟩) := by
  constructor
  · exact later_effect hallows
  · intro hholding
    refine ⟨StoreState.effect_head hholding ?_, ?_, ?_⟩
    · rintro rfl
      exact hquiescent
    · have hdurable : (s.effect i ⟨c, r⟩).durable = s.durable ∨
          ∃ raw, c = .writeStorage raw ∧ (s.effect i ⟨c, r⟩).durable = some raw :=
        StoreState.effect_durable
      rcases hdurable with hsame | ⟨raw, rfl, -⟩
      · exact hsame
      · exact absurd hquiescent id
    · rcases StoreState.effect_history hallows with hsame | ⟨note, happended, hnoted⟩
      · rw [hsame]
      · rw [happended, fenced_append]
        cases note with
        | erased generation =>
          obtain rfl : c = .erased generation := hnoted
          exact absurd hquiescent id
        | committing generation before value =>
          obtain ⟨⟨checked, rfl⟩, -⟩ := hnoted
          exact absurd hquiescent id
        | _ => rfl

theorem follows_effect (howed : Owed audience allowed i s c) (htimely : Timely allowed) :
    Follows audience s.durable (s.effect i ⟨c, r⟩).durable := by
  have hdurable : (s.effect i ⟨c, r⟩).durable = s.durable ∨
      ∃ raw, c = .writeStorage raw ∧ (s.effect i ⟨c, r⟩).durable = some raw :=
    StoreState.effect_durable
  rcases hdurable with hsame | ⟨raw, rfl, hwritten⟩
  · rw [hsame]
    exact .refl audience _
  · rw [hwritten]
    exact howed.2.2 htimely

/-- What is owed is enough for the others. -/
theorem rely_effect {j : Nat} (hj : j ≠ i) (howed : Owed audience allowed i s c)
    (hallows : s.allows i ⟨c, r⟩) : StoreRely audience allowed j s (s.effect i ⟨c, r⟩) := by
  refine ⟨⟨later_effect hallows, fun hholding => ?_⟩, follows_effect howed⟩
  have hquiescent : Quiescent c := by
    have hother : ¬ Holding i s := fun hown =>
      hj (Option.some.inj (hholding.symm.trans hown))
    cases c with
    | leave => exact hother howed
    | writeStorage raw => exact hother howed.1
    | commit expected checked value => exact hother howed.1
    | erased generation => exact hother howed.1
    | _ => trivial
  exact (keeps_effect hquiescent hallows).held hholding

end Turns

end Pokrov.AppShell
