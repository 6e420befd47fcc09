import Pokrov.AppShell.CatalogSuccession
import Pokrov.Lib.Histories
import Pokrov.Lib.Turns

/-!
# Turns at the catalog

A history says what is stored, which generation has come and whether the catalog
is suspended. Each note fits what the notes before it leave, and from that follows
what a denial fences. The operation whose turn it is writes alone.
-/

namespace Pokrov.AppShell

open Dart Effects

/-! ## What a history leaves -/

/-- What is stored and has come of the denials; `erased` where nothing has gone on
to be written since envelopes were erased. -/
structure CatalogView where
  durable : Option StoredText
  generation : Nat := 0
  suspended : Bool := false
  erased : Bool := false

/-- The record is that of the catalog, and the catalog is current at the time that
it observed last. -/
def Returnable (catalog : VerifiedRoutingCatalog) (now : DateTime) (durable : Option StoredText) :
    Prop :=
  ∃ value, loadCatalog durable = .ok (some value) ∧ value.observedAt = some now ∧
    catalog.revision = value.revision ∧ catalog.securityRevision = value.securityRevision ∧
    value.payloadSha256 = .string catalog.payloadSha256 ∧
    catalog.issuedAt.micros ≤ now.micros ∧ now.micros < catalog.expiresAt.micros

namespace CatalogNote

/-- The operation that made it, where that matters. -/
def thread : CatalogNote → Option Nat
  | discarded _ => none
  | erased thread _ => some thread
  | committing thread _ => some thread
  | wrote thread _ _ _ => some thread
  | superseded thread => some thread
  | resumed thread _ => some thread
  | returned thread _ _ _ => some thread

end CatalogNote

namespace CatalogView

def after (v : CatalogView) : CatalogNote → CatalogView
  | .discarded generation => { v with generation := generation, suspended := true }
  | .erased _ _ => { v with erased := true }
  | .committing _ _ => { v with erased := false }
  | .wrote _ _ raw _ => { v with durable := some raw }
  | .superseded _ => v
  | .resumed _ _ => { v with suspended := false }
  | .returned _ _ _ _ => v

def run (v : CatalogView) (notes : List CatalogNote) : CatalogView := notes.foldl after v

@[simp] theorem run_append (v : CatalogView) (notes : List CatalogNote) (note : CatalogNote) :
    v.run (notes ++ [note]) = (v.run notes).after note := by
  simp [run]

/-- When a note is made. -/
def Fits (v : CatalogView) : CatalogNote → Prop
  | .discarded generation => generation = v.generation + 1
  | .erased _ generation => generation ≤ v.generation ∧ CatalogErased v.durable
  | .committing _ generation => generation = v.generation
  | .wrote _ before raw _ => before = v.durable ∧ CatalogFollows before (some raw) ∧
      (v.erased = true → CatalogErased (some raw))
  | .superseded _ => True
  | .resumed _ generation => generation = v.generation
  | .returned _ catalog now durable => durable = v.durable ∧ v.suspended = false ∧
      Returnable catalog now durable

/-- Each note fits those before it. -/
def Fitting : CatalogView → List CatalogNote → Prop
  | _, [] => True
  | v, note :: notes => v.Fits note ∧ (v.after note).Fitting notes

variable {v : CatalogView} {notes : List CatalogNote}

theorem fitting_append {more : List CatalogNote} :
    v.Fitting (notes ++ more) ↔ v.Fitting notes ∧ (v.run notes).Fitting more := by
  induction notes generalizing v with
  | nil => simp [Fitting, run]
  | cons note notes ih =>
    show _ ∧ (v.after note).Fitting (notes ++ more) ↔ _
    rw [ih]
    exact and_assoc.symm

theorem run_append_list (v : CatalogView) (notes more : List CatalogNote) :
    v.run (notes ++ more) = (v.run notes).run more := List.foldl_append

/-! ### What fitting notes leave -/

theorem le_after {note : CatalogNote} (h : v.Fits note) : v.generation ≤ (v.after note).generation := by
  cases note with
  | discarded generation =>
    show v.generation ≤ generation
    have hnext : generation = v.generation + 1 := h
    omega
  | _ => exact Nat.le_refl _

theorem Fitting.follows (h : v.Fitting notes) : CatalogFollows v.durable (v.run notes).durable := by
  induction notes generalizing v with
  | nil => exact .refl _
  | cons note notes ih =>
    have hstep : CatalogFollows v.durable (v.after note).durable := by
      cases note with
      | wrote thread before raw reported =>
        rcases h.1 with ⟨rfl, hfollows, -⟩
        exact hfollows
      | _ => exact .refl _
    exact hstep.trans (ih h.2)

/-- An admission is of the generation that has come, or a later one. -/
theorem Fitting.le_ends (h : v.Fitting notes) {thread g : Nat}
    (hmem : .resumed thread g ∈ notes ∨ .committing thread g ∈ notes) : v.generation ≤ g := by
  induction notes generalizing v with
  | nil => rcases hmem with hmem | hmem <;> cases hmem
  | cons note notes ih =>
    have hrest : (.resumed thread g ∈ notes ∨ .committing thread g ∈ notes) → v.generation ≤ g :=
      fun hlater => Nat.le_trans (le_after h.1) (ih h.2 hlater)
    simp only [List.mem_cons] at hmem
    rcases hmem with (rfl | hmem) | (rfl | hmem)
    · exact Nat.le_of_eq (Eq.symm h.1)
    · exact hrest (.inl hmem)
    · exact Nat.le_of_eq (Eq.symm h.1)
    · exact hrest (.inr hmem)

/-- Nothing is returned while the catalog is suspended. -/
theorem Fitting.quiet (h : v.Fitting notes) (hsuspended : v.suspended = true)
    (hnone : ∀ thread g, .resumed thread g ∉ notes) :
    (v.run notes).suspended = true ∧
      ∀ thread catalog now raw, .returned thread catalog now raw ∉ notes := by
  induction notes generalizing v with
  | nil => exact ⟨hsuspended, fun _ _ _ _ => List.not_mem_nil⟩
  | cons note notes ih =>
    have hstep : (v.after note).suspended = true := by
      cases note with
      | discarded generation => rfl
      | resumed thread g => exact absurd List.mem_cons_self (hnone thread g)
      | _ => exact hsuspended
    rcases ih h.2 hstep fun thread g hmem => hnone thread g (List.mem_cons_of_mem _ hmem) with
      ⟨hlater, hquiet⟩
    refine ⟨hlater, fun thread catalog now raw hmem => ?_⟩
    rcases List.mem_cons.mp hmem with rfl | hmem
    · exact absurd (hsuspended.symm.trans h.1.2.1) (by decide)
    · exact hquiet thread catalog now raw hmem

theorem Fitting.le_run (h : v.Fitting notes) : v.generation ≤ (v.run notes).generation := by
  induction notes generalizing v with
  | nil => exact Nat.le_refl _
  | cons note notes ih => exact Nat.le_trans (le_after h.1) (ih h.2)

/-- A denial alone moves the generation on. -/
theorem run_generation (h : ∀ g, .discarded g ∉ notes) : (v.run notes).generation = v.generation := by
  induction notes generalizing v with
  | nil => rfl
  | cons note notes ih =>
    have hrest := ih (v := v.after note) fun g hmem => h g (List.mem_cons_of_mem _ hmem)
    refine hrest.trans ?_
    cases note with
    | discarded g => exact absurd List.mem_cons_self (h g)
    | _ => rfl

/-- Where the fence stands, the envelope is erased. -/
theorem Fitting.erased (h : v.Fitting notes) (hfirst : v.erased = true → CatalogErased v.durable)
    (hfence : (v.run notes).erased = true) : CatalogErased (v.run notes).durable := by
  induction notes generalizing v with
  | nil => exact hfirst hfence
  | cons note notes ih =>
    refine ih h.2 (fun hstep => ?_) hfence
    cases note with
    | erased thread g => exact h.1.2
    | wrote thread before raw reported => exact h.1.2.2 hstep
    | committing thread g => cases hstep
    | _ => exact hfirst hstep

/-- The fence stands until an admission goes on to write. -/
theorem run_erased (hfence : v.erased = true) (hnone : ∀ thread g, .committing thread g ∉ notes) :
    (v.run notes).erased = true := by
  induction notes generalizing v with
  | nil => exact hfence
  | cons note notes ih =>
    refine ih (v := v.after note) ?_ fun thread g hmem => hnone thread g (List.mem_cons_of_mem _ hmem)
    cases note with
    | erased thread g => rfl
    | committing thread g => exact absurd List.mem_cons_self (hnone thread g)
    | _ => exact hfence

end CatalogView

/-! ## What a call notes -/

/-- When an operation makes a note. -/
def CatalogState.Noted (thread : Nat) (s : CatalogState) (c : CatalogCall) : CatalogNote → Prop
  | .discarded generation => c = .discard ∧ generation = s.generation + 1
  | .erased thread' generation => thread' = thread ∧ c = .erased generation
  | .committing thread' generation => thread' = thread ∧ c = .commit generation ∧
      generation = s.generation
  | .wrote thread' before raw _ => thread' = thread ∧ c = .writeStorage raw ∧ before = s.durable
  | .superseded thread' => thread' = thread ∧ ∃ generation, c = .resume generation
  | .resumed thread' generation => thread' = thread ∧ c = .resume generation ∧
      generation = s.generation
  | .returned thread' catalog now raw => thread' = thread ∧ c = .finishRead catalog now ∧
      raw = s.durable ∧ s.suspended = false

namespace CatalogState

/-- The storage and the statics are those that a history leaves. -/
structure Shows (s : CatalogState) (v : CatalogView) : Prop where
  durable : v.durable = s.durable
  generation : v.generation = s.generation
  suspended : v.suspended = s.suspended

variable {thread : Nat} {s : CatalogState} {c : CatalogCall} {r : c.Answer}

theorem requireGeneration_eq_ok {expected : Nat} {u : Unit}
    (h : s.requireGeneration expected = .ok u) : expected = s.generation := by
  unfold requireGeneration at h
  split at h
  · cases h
  · rename_i heq
    exact (Decidable.not_not.mp heq).symm

/-- What a call adds to the history, and what that leaves. -/
theorem effect_cases (hallows : s.allows thread ⟨c, r⟩) :
    (s.effect thread ⟨c, r⟩).history = s.history ∧
        (∀ v, s.Shows v → (s.effect thread ⟨c, r⟩).Shows v) ∨
      ∃ note, (s.effect thread ⟨c, r⟩).history = s.history ++ [note] ∧ s.Noted thread c note ∧
        ∀ v, s.Shows v → (s.effect thread ⟨c, r⟩).Shows (v.after note) := by
  cases c with
  | discard =>
    right
    have hr : r = s.generation + 1 := hallows
    exact ⟨.discarded r, rfl, ⟨rfl, hr⟩, fun v h => ⟨h.durable, hr, rfl⟩⟩
  | writeStorage raw =>
    rcases r with ⟨_ | _, reported⟩
    · exact .inl ⟨rfl, fun v h => h⟩
    · exact .inr ⟨.wrote thread s.durable raw reported, rfl, ⟨rfl, rfl, rfl⟩,
        fun v h => ⟨rfl, h.generation, h.suspended⟩⟩
  | finishRead catalog now =>
    cases r with
    | false => exact .inl ⟨rfl, fun v h => h⟩
    | true =>
      right
      rcases hallows with ⟨first, second, hreturns⟩
      simp only [mayReturn, Bool.true_eq, Bool.and_eq_true, Bool.not_eq_true'] at hreturns
      exact ⟨.returned thread catalog now s.durable, rfl, ⟨rfl, rfl, rfl, hreturns.1.1⟩,
        fun v h => ⟨h.durable, h.generation, h.suspended⟩⟩
  | commit expected =>
    cases r with
    | error e => exact .inl ⟨rfl, fun v h => h⟩
    | ok u =>
      exact .inr ⟨.committing thread expected, rfl,
        ⟨rfl, rfl, requireGeneration_eq_ok (Eq.symm hallows)⟩,
        fun v h => ⟨h.durable, h.generation, h.suspended⟩⟩
  | resume expected =>
    right
    cases r with
    | error e =>
      exact ⟨.superseded thread, rfl, ⟨rfl, expected, rfl⟩,
        fun v h => ⟨h.durable, h.generation, h.suspended⟩⟩
    | ok u =>
      exact ⟨.resumed thread expected, rfl,
        ⟨rfl, rfl, requireGeneration_eq_ok (Eq.symm hallows)⟩,
        fun v h => ⟨h.durable, h.generation, rfl⟩⟩
  | erased generation =>
    exact .inr ⟨.erased thread generation, rfl, ⟨rfl, rfl⟩,
      fun v h => ⟨h.durable, h.generation, h.suspended⟩⟩
  | _ => exact .inl ⟨rfl, fun v h => ⟨h.durable, h.generation, h.suspended⟩⟩

theorem effect_called : (s.effect thread ⟨c, r⟩).called = s.called := by
  cases c with
  | writeStorage raw => rcases r with ⟨_ | _, _⟩ <;> rfl
  | finishRead catalog now => cases r <;> rfl
  | commit expected => cases r <;> rfl
  | resume expected => cases r <;> rfl
  | _ => rfl

/-- Whose turn it is stays so until it is given back. -/
theorem effect_head {i : Nat} (hhead : s.queue.head? = some i) (hleave : c ≠ .leave) :
    (s.effect thread ⟨c, r⟩).queue.head? = some i := by
  have happend : (s.queue ++ [thread]).head? = some i := by
    rw [List.head?_append, hhead]
    rfl
  cases c with
  | enqueue => exact happend
  | discard => exact happend
  | leave => exact absurd rfl hleave
  | writeStorage raw => rcases r with ⟨_ | _, _⟩ <;> exact hhead
  | finishRead catalog now => cases r <;> exact hhead
  | commit expected => cases r <;> exact hhead
  | resume expected => cases r <;> exact hhead
  | _ => exact hhead

end CatalogState

/-! ## The outline -/

section Turns

variable (first : Option StoredText)

/-- What the history of a state leaves of what was stored first. -/
def CatalogState.view (s : CatalogState) : CatalogView := CatalogView.run ⟨first, 0, false, false⟩ s.history

structure CatalogInv (s : CatalogState) : Prop where
  fitting : CatalogView.Fitting ⟨first, 0, false, false⟩ s.history
  shows : s.Shows (s.view first)
  numbered : ∀ note ∈ s.history, ∀ i, note.thread = some i → i < s.called

/-- It is the thread's turn. -/
structure Turned (i : Nat) (s : CatalogState) : Prop where
  head : s.queue.head? = some i
  lt : i < s.called

/-- What the others leave alone: they note nothing as this thread, and in its turn
they leave the record and the fence. -/
structure CatalogRely (i : Nat) (s s' : CatalogState) : Prop where
  called_le : s.called ≤ s'.called
  grows : ∃ added, s'.history = s.history ++ added ∧ ∀ note ∈ added, note.thread ≠ some i
  held : Turned i s → s'.queue.head? = some i ∧ s'.durable = s.durable ∧
    (s'.view first).erased = (s.view first).erased

variable {first}

theorem CatalogRely.refl (i : Nat) (s : CatalogState) : CatalogRely first i s s :=
  ⟨Nat.le_refl _, ⟨[], by simp, by simp⟩, fun h => ⟨h.head, rfl, rfl⟩⟩

theorem CatalogRely.turned {i : Nat} {s s' : CatalogState} (h : CatalogRely first i s s')
    (hs : Turned i s) : Turned i s' :=
  ⟨(h.held hs).1, Nat.lt_of_lt_of_le hs.lt h.called_le⟩

theorem CatalogRely.trans {i : Nat} {a b c : CatalogState} (hab : CatalogRely first i a b)
    (hbc : CatalogRely first i b c) : CatalogRely first i a c := by
  constructor
  · exact Nat.le_trans hab.called_le hbc.called_le
  · rcases hab.grows with ⟨added, hb, hnone⟩
    rcases hbc.grows with ⟨more, hc, hnone'⟩
    refine ⟨added ++ more, by rw [hc, hb, List.append_assoc], fun note hnote => ?_⟩
    rcases List.mem_append.mp hnote with hnote | hnote
    · exact hnone note hnote
    · exact hnone' note hnote
  · intro ha
    rcases hab.held ha with ⟨-, hdurable, herased⟩
    rcases hbc.held (hab.turned ha) with ⟨hhead', hdurable', herased'⟩
    exact ⟨hhead', hdurable'.trans hdurable, herased'.trans herased⟩

/-- What a thread owes at a call. -/
def OwedCatalog (first : Option StoredText) (i : Nat) (s : CatalogState) : CatalogCall → Prop
  | .leave => Turned i s
  | .writeStorage raw => Turned i s ∧ CatalogFollows s.durable (some raw) ∧
      ((s.view first).erased = true → CatalogErased (some raw))
  | .finishRead catalog now => Turned i s ∧ Returnable catalog now s.durable
  | .commit _ => Turned i s
  | .resume _ => Turned i s
  | .erased generation => Turned i s ∧ generation ≤ s.generation ∧ CatalogErased s.durable
  | _ => True

variable {i : Nat} {s : CatalogState} {c : CatalogCall} {r : c.Answer}

theorem CatalogState.Noted.fits {note : CatalogNote} (hnoted : s.Noted i c note)
    (howed : OwedCatalog first i s c) (hshows : s.Shows (s.view first)) :
    (s.view first).Fits note := by
  cases note with
  | discarded generation =>
    rw [hnoted.2, ← hshows.generation]
    rfl
  | erased thread generation =>
    rcases hnoted with ⟨-, rfl⟩
    exact ⟨hshows.generation ▸ howed.2.1, hshows.durable ▸ howed.2.2⟩
  | committing thread generation => exact hnoted.2.2.trans hshows.generation.symm
  | wrote thread before raw reported =>
    rcases hnoted with ⟨-, rfl, rfl⟩
    exact ⟨hshows.durable.symm, howed.2.1, howed.2.2⟩
  | superseded thread => trivial
  | resumed thread generation => exact hnoted.2.2.trans hshows.generation.symm
  | returned thread catalog now raw =>
    rcases hnoted with ⟨-, rfl, rfl, hsuspended⟩
    exact ⟨hshows.durable.symm, hshows.suspended.trans hsuspended, howed.2⟩

/-- A note with a thread is of the one whose turn it is. -/
theorem CatalogState.Noted.turned {note : CatalogNote} (hnoted : s.Noted i c note)
    (howed : OwedCatalog first i s c) {j : Nat} (hthread : note.thread = some j) :
    j = i ∧ Turned i s := by
  cases note with
  | discarded generation => cases hthread
  | erased thread generation =>
    cases hthread
    rcases hnoted with ⟨rfl, rfl⟩
    exact ⟨rfl, howed.1⟩
  | committing thread generation =>
    cases hthread
    rcases hnoted with ⟨rfl, rfl, -⟩
    exact ⟨rfl, howed⟩
  | wrote thread before raw reported =>
    cases hthread
    rcases hnoted with ⟨rfl, rfl, -⟩
    exact ⟨rfl, howed.1⟩
  | superseded thread =>
    cases hthread
    rcases hnoted with ⟨rfl, generation, rfl⟩
    exact ⟨rfl, howed⟩
  | resumed thread generation =>
    cases hthread
    rcases hnoted with ⟨rfl, rfl, -⟩
    exact ⟨rfl, howed⟩
  | returned thread catalog now raw =>
    cases hthread
    rcases hnoted with ⟨rfl, rfl, -⟩
    exact ⟨rfl, howed.1⟩

theorem CatalogInv.effect (hinv : CatalogInv first s) (howed : OwedCatalog first i s c)
    (hallows : s.allows i ⟨c, r⟩) : CatalogInv first (s.effect i ⟨c, r⟩) := by
  rcases CatalogState.effect_cases hallows with ⟨hhistory, hshows⟩ | ⟨note, hhistory, hnoted, hshows⟩
  · have hview : (s.effect i ⟨c, r⟩).view first = s.view first := by
      rw [CatalogState.view, hhistory, CatalogState.view]
    constructor
    · rw [hhistory]
      exact hinv.fitting
    · rw [hview]
      exact hshows _ hinv.shows
    · rw [hhistory, CatalogState.effect_called]
      exact hinv.numbered
  · have hview : (s.effect i ⟨c, r⟩).view first = (s.view first).after note := by
      rw [CatalogState.view, hhistory, CatalogView.run_append, CatalogState.view]
    constructor
    · rw [hhistory, CatalogView.fitting_append]
      exact ⟨hinv.fitting, hnoted.fits howed hinv.shows, trivial⟩
    · rw [hview]
      exact hshows _ hinv.shows
    · rw [hhistory, CatalogState.effect_called]
      intro other hother j hj
      rcases List.mem_append.mp hother with hother | hother
      · exact hinv.numbered other hother j hj
      · rw [List.mem_singleton.mp hother] at hj
        rcases hnoted.turned howed hj with ⟨rfl, hturned⟩
        exact hturned.lt

/-- What is owed is enough for the others. -/
theorem catalogRely_effect {j : Nat} (hj : j ≠ i) (hinv : CatalogInv first s)
    (howed : OwedCatalog first i s c) (hallows : s.allows i ⟨c, r⟩) :
    CatalogRely first j s (s.effect i ⟨c, r⟩) := by
  have hother : Turned j s → ¬ Turned i s :=
    fun hheld hown => hj (Option.some.inj (hheld.head.symm.trans hown.head))
  have hhead : Turned j s → (s.effect i ⟨c, r⟩).queue.head? = some j := by
    intro hheld
    apply CatalogState.effect_head hheld.head
    rintro rfl
    exact hother hheld howed
  rcases CatalogState.effect_cases hallows with ⟨hhistory, hshows⟩ | ⟨note, hhistory, hnoted, hshows⟩
  · have hsame := hshows _ hinv.shows
    have hview : (s.effect i ⟨c, r⟩).view first = s.view first := by
      rw [CatalogState.view, hhistory, CatalogState.view]
    constructor
    · exact Nat.le_of_eq CatalogState.effect_called.symm
    · exact ⟨[], by rw [hhistory, List.append_nil], by simp⟩
    · exact fun hheld => ⟨hhead hheld, hsame.durable.symm.trans hinv.shows.durable, by rw [hview]⟩
  · have hsame := hshows _ hinv.shows
    have hview : (s.effect i ⟨c, r⟩).view first = (s.view first).after note := by
      rw [CatalogState.view, hhistory, CatalogView.run_append, CatalogState.view]
    constructor
    · exact Nat.le_of_eq CatalogState.effect_called.symm
    · refine ⟨[note], hhistory, fun other hother hthread => ?_⟩
      rw [List.mem_singleton.mp hother] at hthread
      exact hj (hnoted.turned howed hthread).1
    · intro hheld
      have hfree : note.thread = none := by
        cases hthread : note.thread with
        | none => rfl
        | some k => exact absurd (hnoted.turned howed hthread).2 (hother hheld)
      refine ⟨hhead hheld, ?_, ?_⟩
      · rw [← hsame.durable, ← hinv.shows.durable]
        cases note with
        | discarded g => rfl
        | _ => cases hfree
      · rw [hview]
        cases note with
        | discarded g => rfl
        | _ => cases hfree

end Turns

end Pokrov.AppShell
