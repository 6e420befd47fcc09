import Pokrov.Windows.Service.ObserverHistory

/-!
# References of network contexts

A revision that a sample has returned stands for one reading of the adapters, a
reference stands for one revision, and a revision that was seen to be over stays
over. A sample that is under way when the revision moves may still return the
revision it has read: it began before.
-/

namespace Pokrov.Windows.Service

open Codec Effects

theorem reference_injective : Function.Injective reference := by
  intro a b heq
  have hhex : hexEncode a.bytes = hexEncode b.bytes := List.append_cancel_left heq
  have hbytes : a.bytes = b.bytes := by
    rw [← hexDecode_hexEncode a.bytes, hhex, hexDecode_hexEncode]
  cases a
  cases b
  cases hbytes
  rfl

section History

variable {s : ObserverState}

theorem ObserverState.Issued.revision_eq {value value' : ServiceNetworkContext}
    (h : s.Issued value) (h' : s.Issued value') (hfresh : (s.drawn.map Prod.snd).Nodup)
    (heq : value.reference = value'.reference) : value.revision = value'.revision := by
  obtain ⟨bytes, hmem, href⟩ := h
  obtain ⟨bytes', hmem', href'⟩ := h'
  have hbytes : bytes = bytes' := reference_injective (href.symm.trans (heq.trans href'))
  have hpair := List.inj_on_of_nodup_map hfresh hmem hmem' hbytes
  exact congrArg Prod.fst hpair

/-- Two samples of one revision have read the same. -/
def Note.Agrees (a b : Note) : Prop :=
  ∀ i j r d d' n n', a = .sampled i r d n → b = .sampled j r d' n' → d = d'

instance : Std.Symm Note.Agrees :=
  ⟨fun _ _ h i j r d d' n n' ha hb => (h j i r d' d n' n hb ha).symm⟩

theorem Note.Agrees.refl (a : Note) : a.Agrees a := by
  rintro i j r d d' n n' rfl heq
  exact (Note.sampled.inj heq).2.2.1

theorem ObserverInv.adapters_eq (h : ObserverInv s) {i j r n n' : Nat} {d d' : List UInt8}
    (hn : .sampled i r d n ∈ s.history) (hn' : .sampled j r d' n' ∈ s.history) : d = d' := by
  have hagree : s.history.Pairwise Note.Agrees := by
    refine h.ordered.imp ?_
    intro a b hab i j r d d' n n' ha hb
    exact (hab.rising ha hb).2 rfl
  have hall := List.Pairwise.forall_of_forall (fun a _ => Note.Agrees.refl a) hagree
  exact hall hn hn' i j r d d' n n' rfl rfl

variable {before after : List Note}

/-- What a note says about those after it. -/
theorem ObserverInv.precedes (h : ObserverInv s) {note later : Note}
    (hs : s.history = before ++ note :: after) (hlater : later ∈ after) : note.Precedes later := by
  have hordered := h.ordered
  rw [hs, List.pairwise_append] at hordered
  exact (List.pairwise_cons.mp hordered.2.1).1 later hlater

/-- A sampled revision that was seen to be over was passed. -/
theorem ObserverInv.passed (h : ObserverInv s) {i r n m : Nat} {d : List UInt8}
    (hs : s.history = before ++ .asked r false n :: after) (hn : .sampled i r d m ∈ before) :
    r < n := by
  have hasked : .asked r false n ∈ s.history := hs ▸ List.mem_append_right _ List.mem_cons_self
  have hsampled : .sampled i r d m ∈ s.history := hs ▸ List.mem_append_left _ hn
  obtain ⟨hready, hrm⟩ := h.sampled hsampled
  have hmn : m ≤ n := by
    have hordered := h.ordered
    rw [hs, List.pairwise_append] at hordered
    exact (hordered.2.2 _ hn _ List.mem_cons_self).now
  have hne : n ≠ r := by
    rintro rfl
    have hanswer := h.asked hasked
    rw [hready, decide_eq_true rfl] at hanswer
    exact absurd hanswer Bool.false_ne_true
  omega

theorem ObserverInv.stays_false (h : ObserverInv s) {i r n m n' : Nat} {d : List UInt8}
    (hs : s.history = before ++ .asked r false n :: after) (hn : .sampled i r d m ∈ before) :
    .asked r true n' ∉ after := by
  intro hlater
  have hpassed := h.passed hs hn
  have hle : n ≤ n' := (h.precedes hs hlater).now
  have hmem : .asked r true n' ∈ s.history := by
    rw [hs]
    exact List.mem_append_right _ (List.mem_cons_of_mem _ hlater)
  have hanswer := h.asked hmem
  have hne : n' ≠ r := by omega
  rw [decide_eq_false hne, Bool.and_false] at hanswer
  exact absurd hanswer.symm Bool.false_ne_true

theorem ObserverInv.not_sampled (h : ObserverInv s) {before middle after : List Note}
    {i j r n m k k' : Nat} {d d' : List UInt8}
    (hs : s.history = before ++ .asked r false n :: (middle ++ .began j k :: after))
    (hn : .sampled i r d m ∈ before) : .sampled j r d' k' ∉ after := by
  intro hlater
  have hpassed := h.passed hs hn
  have hle : n ≤ k :=
    (h.precedes hs (List.mem_append_right middle List.mem_cons_self)).now
  have hs' : s.history = (before ++ .asked r false n :: middle) ++ .began j k :: after := by
    rw [hs, List.append_assoc, List.cons_append]
  have hbegun := (h.precedes hs' hlater).begun rfl rfl
  omega

end History

/-! ## Every interleaving -/

/-- **Context references.** In what every interleaving of callbacks, samples and
questions leaves: samples of one revision have read the same adapters; contexts
of one reference have one revision, if no random bytes were drawn twice; the
revisions of samples do not decrease; and a sampled revision that was seen to be
over is never seen to be current, nor sampled by a sample that begins later. -/
theorem context_references
    {p : Pool Observation ObserverState ObserverTask ObserverAnswer}
    (h : ObserverState.Reached p) :
    (∀ {i j r d d' n n'}, .sampled i r d n ∈ p.shared.history →
      .sampled j r d' n' ∈ p.shared.history → d = d') ∧
    ((p.shared.drawn.map Prod.snd).Nodup → ∀ {value value' n n'},
      .context value n ∈ p.shared.history → .context value' n' ∈ p.shared.history →
      value.reference = value'.reference → value.revision = value'.revision) ∧
    (∀ {before after : List Note} {i r d n},
      p.shared.history = before ++ .sampled i r d n :: after →
      ∀ {j r' d' n'}, .sampled j r' d' n' ∈ after → r ≤ r') ∧
    ∀ {before after : List Note} {r n i d m},
      p.shared.history = before ++ .asked r false n :: after →
      .sampled i r d m ∈ before →
      (∀ n', .asked r true n' ∉ after) ∧
      ∀ {middle last : List Note} {j k}, after = middle ++ .began j k :: last →
        ∀ d' k', .sampled j r d' k' ∉ last := by
  have hinv := inv_of_reached h
  refine ⟨hinv.adapters_eq, ?_, ?_, ?_⟩
  · intro hfresh value value' n n' hn hn' heq
    exact (hinv.contexts hn).revision_eq (hinv.contexts hn') hfresh heq
  · intro before after i r d n hs j r' d' n' hlater
    exact ((hinv.precedes hs hlater).rising rfl rfl).1
  · intro before after r n i d m hs hn
    constructor
    · exact fun n' => hinv.stays_false hs hn
    · rintro middle last j k rfl d' k'
      exact hinv.not_sampled hs hn

/-! ## Runs -/

/-- What the system answers while a thread goes on. -/
structure Surroundings where
  adapters : Option (List UInt8)
  bytes : Option Identifier

def ObserverState.answers (e : Surroundings) (s : ObserverState) :
    (c : ObserverCall) → Option c.Answer
  | .ready => some s.ready
  | .load => some s.revision
  | .increment => some ()
  | .compareExchange expected _ => some (decide (s.revision = expected))
  | .readAdapters => some e.adapters
  | .isOwned _ => some false
  | .lockSample => if s.sampleLock = none then some () else none
  | .previous => some s.previous
  | .setPrevious _ => some ()
  | .unlockSample _ => some ()
  | .isCurrent revision => some (s.ready && decide (s.revision = revision))
  | .lockReference => if s.referenceLock = none then some () else none
  | .retainedContext => some s.retainedContext
  | .setRetainedContext _ => some ()
  | .genRandom _ => some e.bytes
  | .unlockReference _ => some ()

theorem ObserverState.allows_answers {e : Surroundings} {s : ObserverState} {c : ObserverCall}
    {r : c.Answer} (h : s.answers e c = some r) : s.allows ⟨c, r⟩ := by
  cases c with
  | lockSample =>
    simp only [ObserverState.answers, Option.ite_none_right_eq_some] at h
    exact h.1
  | lockReference =>
    simp only [ObserverState.answers, Option.ite_none_right_eq_some] at h
    exact h.1
  | readAdapters => trivial
  | isOwned luid => trivial
  | setPrevious value => trivial
  | unlockSample result => trivial
  | setRetainedContext value => trivial
  | genRandom revision => trivial
  | unlockReference result => trivial
  | increment => trivial
  | _ => exact (Option.some.inj h).symm

def observerPlayer : Player observer Surroundings where
  startTask := fun s _ => some s
  respond := fun e thread s c => (s.answers e c).map fun r => (r, s.effect thread ⟨c, r⟩)
  starts := fun h => (Option.some.inj h).symm
  executes := by
    intro e thread s s' c r h
    simp only [Option.map_eq_some_iff, Prod.mk.injEq] at h
    obtain ⟨r, hr, rfl, rfl⟩ := h
    exact ⟨ObserverState.allows_answers hr, rfl⟩

/-- What a schedule leaves of an observer with its notifications. -/
def observed (moves : List (Move ObserverTask Surroundings)) :
    Pool Observation ObserverState ObserverTask ObserverAnswer :=
  observerPlayer.play (ObserverState.new true) moves

theorem reached_observed (moves : List (Move ObserverTask Surroundings)) :
    ObserverState.Reached (observed moves) :=
  ⟨true, observerPlayer.run_play _ moves⟩

/-- A network, and bytes for its reference. -/
def surroundings (byte : UInt8) : Surroundings :=
  ⟨some [byte], some ⟨List.replicate 16 byte, List.length_replicate⟩⟩

/-- A sample is through, another has read everything when the network changes
and someone asks; then it returns. -/
def lateRun : List (Move ObserverTask Surroundings) :=
  [.start .sample, .go 0 20 (surroundings 7), .start .sample, .go 1 6 (surroundings 7),
    .start (.changed none), .go 2 20 (surroundings 7), .start (.isCurrent 1),
    .go 3 20 (surroundings 7), .go 1 20 (surroundings 7)]

/-- A sample that was under way returns a revision that was seen to be over. -/
theorem late_sample : ∃ p, ObserverState.Reached p ∧ ∃ before after : List Note,
    p.shared.history = before ++ .asked 1 false 2 :: after ∧
      .sampled 0 1 [7] 1 ∈ before ∧ .sampled 1 1 [7] 2 ∈ after := by
  refine ⟨observed lateRun, reached_observed lateRun,
    [.began 0 1, .sampled 0 1 [7] 1, .began 1 1], [.sampled 1 1 [7] 2], ?_, ?_, ?_⟩
  · decide +kernel
  · exact List.mem_cons_of_mem _ List.mem_cons_self
  · exact List.mem_cons_self

/-- Two contexts of one network, and a third after a change. -/
def contextRun : List (Move ObserverTask Surroundings) :=
  [.start .readContext, .go 0 30 (surroundings 7), .start .readContext,
    .go 1 30 (surroundings 8), .start .readContext, .go 2 30 (surroundings 8)]

/-- Its random bytes are fresh, so contexts of its two revisions have two references. -/
theorem contextRun_references :
    reference ⟨List.replicate 16 7, List.length_replicate⟩ ≠
      reference ⟨List.replicate 16 8, List.length_replicate⟩ := by
  intro heq
  have hfresh : ((observed contextRun).shared.drawn.map Prod.snd).Nodup := by decide +kernel
  have hfirst : .context ⟨1, reference ⟨List.replicate 16 7, List.length_replicate⟩⟩ 1 ∈
      (observed contextRun).shared.history := by decide +kernel
  have hsecond : .context ⟨2, reference ⟨List.replicate 16 8, List.length_replicate⟩⟩ 2 ∈
      (observed contextRun).shared.history := by decide +kernel
  have hrevision : 1 = 2 :=
    (context_references (reached_observed contextRun)).2.1 hfresh hfirst hsecond heq
  exact absurd hrevision (by decide)

end Pokrov.Windows.Service
