import Pokrov.AppShell.StoreSpecs

/-!
# A denial fences older operations

From `discardEnvelopes` on nothing is read and no selection is used, until an
admission of the new generation ends the suspension. Once the envelopes are
erased they stay so, until such an admission is written.
-/

namespace Pokrov.AppShell

open Dart Effects

/-- What has come after a denial: only admissions of its generation or a later one
end the suspension; before them nothing is read or used; and the envelopes that it
has erased are not stored again before one of them is written. -/
structure Fenced (s : StoreState) (generation : Nat) (after : List StoreNote) : Prop where
  resumed : ∀ g, .resumed g ∈ after → generation ≤ g
  quiet : (∀ g, .resumed g ∈ after → g < generation) →
    s.suspended = true ∧ .returned ∉ after ∧ ∀ handle, .passed handle ∉ after
  erased : ∀ meanwhile late : List StoreNote, after = meanwhile ++ .erased generation :: late →
    (∀ g before value, .committing g before value ∈ late → g < generation) → Erased s.durable

theorem InOrder.split {before after : List StoreNote} {note : StoreNote}
    (h : InOrder (before ++ note :: after)) {g : Nat} (hopens : note.opens = some g)
    {other : StoreNote} (hother : other ∈ after) {g' : Nat} (hends : other.ends = some g') :
    g ≤ g' := by
  have hafter := (List.pairwise_append.mp h).2.1
  exact (List.pairwise_cons.mp hafter).1 other hother g hopens g' hends

/-- Notes that are no admissions leave the envelopes erased. -/
theorem fenced_of_erased {before late : List StoreNote} {g : Nat}
    (h : ∀ g' raw value, .committing g' raw value ∉ late) :
    fenced (before ++ .erased g :: late) = true := by
  induction late using List.reverseRecOn with
  | nil => exact fenced_append before (.erased g)
  | append_singleton late note ih =>
    have hlate : ∀ g' raw value, .committing g' raw value ∉ late :=
      fun g' raw value hmem => h g' raw value (List.mem_append_left _ hmem)
    rw [← List.cons_append, ← List.append_assoc, fenced_append, ih hlate]
    cases note with
    | committing g' raw value =>
      exact absurd (List.mem_append_right _ List.mem_cons_self) (h g' raw value)
    | _ => rfl

theorem fenced_of_inv {audience : Text} {allowed : Event Storage → Prop} {s : StoreState}
    (hinv : StoreInv audience allowed s) {before after : List StoreNote} {generation : Nat}
    (hhistory : s.history = before ++ .discarded generation :: after) :
    Fenced s generation after := by
  have horder : InOrder (before ++ .discarded generation :: after) := hhistory ▸ hinv.denied.inOrder
  have hresumed : ∀ g, .resumed g ∈ after → generation ≤ g :=
    fun g hmem => horder.split rfl hmem rfl
  constructor
  · exact hresumed
  · intro holder
    apply hinv.denied.quiet before generation after hhistory
    intro g hmem
    have hle := hresumed g hmem
    have hlt := holder g hmem
    omega
  · intro meanwhile late hafter holder
    apply hinv.erased
    subst hafter
    rw [hhistory, ← List.cons_append, ← List.append_assoc]
    apply fenced_of_erased
    intro g raw value hmem
    rw [← List.cons_append, ← List.append_assoc] at horder
    have hle : generation ≤ g := horder.split rfl hmem rfl
    have hlt := holder g raw value hmem
    omega

/-- What holds of the denials where a run has come to. -/
structure DenialKept (p : Pool Storage StoreState StoreTask (Try StoreAnswer)) : Prop where
  fenced : ∀ (before after : List StoreNote) generation,
    p.shared.history = before ++ .discarded generation :: after → Fenced p.shared generation after
  /-- A denial that has ended well has noted its erasure, a read that has answered an
  admission that it returned it, and an admission that it ended a suspension. -/
  ended : ∀ (i : Nat) answer, p.threads[i]? = some (.ret (.inr (.ok answer))) →
    answer.Ended p.shared.history

/-- In every run of the operations over a key, with writes that are reported only
when they have replaced the record, a denial fences what came before it. -/
theorem denial_fences {audience : Text} {allowed : Event Storage → Prop}
    {durable : Option StoredText} {p : Pool Storage StoreState StoreTask (Try StoreAnswer)}
    (honest : ∀ e, allowed e → Honest e)
    (hrun : (manifestStore audience allowed).Run (StoreState.new durable) p) : DenialKept p := by
  have hgood := (Outline.Good.run (storeOutline_valid honest) (storeOutline_good durable) hrun).1
  exact ⟨fun before after generation hhistory => fenced_of_inv hgood.1 hhistory,
    fun i answer hi => hgood.answered hi answer rfl⟩

/-! ## Runs that are played -/

/-- The answers that a run is given: the clock, the storage, and everything that
the caller says. -/
structure Setting where
  clock : Try RuntimeBootClockSnapshot := .error .other
  outcome : WriteOutcome := ⟨true, true⟩
  current : Bool := true

/-- The answer of a call, unless it has to wait. -/
def Setting.answer (setting : Setting) (thread : Nat) (s : StoreState) : (c : StoreCall) → Option c.Answer
  | .enqueue => some ()
  | .discard _ => some (s.generation + 1)
  | .enter => if s.queue.head? = some thread then some () else none
  | .leave => some ()
  | .invalidationGeneration => some s.generation
  | .requireGeneration expected => some (s.requireGeneration expected)
  | .requireCurrent expected checked => some (s.requireCurrent expected (!checked || setting.current))
  | .operationIsCurrent => some setting.current
  | .readStorage => some (.ok s.durable)
  | .writeStorage _ => some setting.outcome
  | .suspend => some ()
  | .readBootClock _ => some setting.clock
  | .isSuspended => some s.suspended
  | .selectionEpoch => some s.selectionEpoch
  | .verification => some ()
  | .finishRead generation => some ((s.requireGeneration generation).map fun _ => !s.suspended)
  | .commit expected checked _ => some (s.requireCurrent expected (!checked || setting.current))
  | .resume expected checked => some (s.requireCurrent expected (!checked || setting.current))
  | .onCommitted => some (.ok ())
  | .erased _ => some ()
  | .register _ => some s.selections.length
  | .enqueueSample _ => some ()
  | .enterSample handle =>
    if (s.selections[handle]?.bind fun selection => selection.sampling.head?) = some thread then
      some ()
    else none
  | .leaveSample _ => some ()
  | .selectionCurrent handle => some (s.requireSelection handle setting.current)
  | .requireSession => some (.ok ())
  | .finishSample handle native => some (s.finishSample handle native setting.current)
  | .closeSelection _ => some ()

theorem Setting.allows_answer {setting : Setting} {thread : Nat} {s : StoreState} {c : StoreCall}
    {r : c.Answer} (h : setting.answer thread s c = some r) : s.allows thread ⟨c, r⟩ := by
  cases c with
  | enter =>
    simp only [answer] at h
    split at h
    · assumption
    · cases h
  | enterSample handle =>
    simp only [answer] at h
    split at h
    · assumption
    · cases h
  | requireCurrent expected checked =>
    cases h
    refine ⟨_, ?_, rfl⟩
    intro hchecked
    rw [hchecked]
    rfl
  | commit expected checked value =>
    cases h
    refine ⟨_, ?_, rfl⟩
    intro hchecked
    rw [hchecked]
    rfl
  | resume expected checked =>
    cases h
    refine ⟨_, ?_, rfl⟩
    intro hchecked
    rw [hchecked]
    rfl
  | readStorage =>
    cases h
    rintro raw hraw
    cases hraw
    rfl
  | selectionCurrent handle =>
    cases h
    exact ⟨_, rfl⟩
  | finishSample handle native =>
    cases h
    exact ⟨_, rfl⟩
  | discard available =>
    cases h
    rfl
  | invalidationGeneration =>
    cases h
    rfl
  | requireGeneration expected =>
    cases h
    rfl
  | isSuspended =>
    cases h
    rfl
  | selectionEpoch =>
    cases h
    rfl
  | finishRead generation =>
    cases h
    rfl
  | register selection =>
    cases h
    rfl
  | _ => trivial

instance (audience : Text) (task : StoreTask) : Decidable (task.isOver audience) := by
  cases task <;> unfold StoreTask.isOver <;> infer_instance

/-- A player that answers only what a check lets pass. -/
def storePlayer (audience : Text) {allowed : Event Storage → Prop} (check : Event Storage → Bool)
    (hcheck : ∀ e, check e = true → allowed e) : Player (manifestStore audience allowed) Setting where
  startTask := fun s task => if task.isOver audience then some s else none
  respond := fun setting thread s c =>
    match setting.answer thread s c with
    | none => none
    | some r => if check ⟨c, r⟩ then some (r, s.effect thread ⟨c, r⟩) else none
  starts := by
    intro s s' task h
    split at h
    · cases h
      exact ⟨by assumption, rfl⟩
    · cases h
  executes := by
    intro setting thread s s' c r h
    split at h
    · cases h
    · rename_i r' hr
      split at h
      · cases h
        exact ⟨hcheck _ (by assumption), Setting.allows_answer hr, rfl⟩
      · cases h

/-- A write is honest. -/
def honestly (e : Event Storage) : Bool :=
  match e with
  | ⟨.writeStorage _, outcome⟩ => !outcome.reported || outcome.replaced
  | _ => true

theorem honest_of_honestly {e : Event Storage} (h : honestly e = true) : Honest e := by
  obtain ⟨c, r⟩ := e
  cases c with
  | writeStorage raw =>
    intro hreported
    have hcases : (!r.reported || r.replaced) = true := h
    rw [hreported] at hcases
    exact hcases
  | _ => trivial

/-! ### A record -/

def boot : Text := text "linux:00000000-0000-4000-8000-000000000000"

/-- A moment of that boot. -/
def moment (elapsed : Nat) (h : elapsed ≤ maximumElapsedMs := by decide) : RuntimeBootClockSnapshot :=
  ⟨boot, elapsed, by decide +kernel, h⟩

def someFloor : Floor where
  epoch := 1
  revision := 1
  documentKind := text "manifest"
  payloadSha256 := List.replicate 64 (unit '0')
  lastObservedAt := text "2026-01-01T00:00:00Z"
  kills := ⟨[], [], []⟩

/-- It was observed last when the boot was anchored, in 2026. -/
def someRecord : ManifestRecord where
  floor := someFloor.toDocument (text "lab")
  manifest := .map []
  rollback := .null
  lastObservedAt := .string (text "2026-01-01T00:00:00.000Z")
  clock := some (.map [(text "boot_ref", .string boot), (text "received_elapsed_ms", .int 0),
    (text "earliest_at_receipt", .string (text "2026-01-01T00:00:00.000Z")),
    (text "latest_at_receipt", .string (text "2026-01-01T00:00:00.000Z"))], .int 0)

def someStore : TransportManifestStore where
  verifier :=
    { keysById := [(text "k", text "k")], audience := text "lab", clientRelease := text "1.0.0"
      coreRelease := text "1.0.0", sha256 := fun _ => List.replicate 64 (unit '0')
      ed25519 := fun _ _ _ => true }
  enabled := true
  onCommitted := false

/-- A denial comes while a read is under way. -/
def deniedRun : Pool Storage StoreState StoreTask (Try StoreAnswer) :=
  (storePlayer (text "lab") honestly fun _ => honest_of_honestly).play
    (StoreState.new (some (.of someRecord.toDocument)))
    [.start (.read someStore none), .go 0 4 { clock := .ok (moment 5) },
      .start (.discardEnvelopes someStore), .go 1 9 {}, .go 0 40 { clock := .ok (moment 6) }, .go 1 9 {}]

/-- A denial and its erasure, and nothing else, by a thread that has ended well. -/
def isErasure (p : Pool Storage StoreState StoreTask (Try StoreAnswer)) : Bool :=
  match p.shared.history, p.answer 1 with
  | [.discarded 1, .erased 1], some (.ok .discardEnvelopes) => true
  | _, _ => false

theorem eq_of_isErasure {p : Pool Storage StoreState StoreTask (Try StoreAnswer)}
    (h : isErasure p = true) : p.shared.history = [] ++ .discarded 1 :: [.erased 1] ∧
      p.answer 1 = some (.ok .discardEnvelopes) := by
  unfold isErasure at h
  split at h
  · exact ⟨by assumption, by assumption⟩
  · cases h

theorem deniedRun_fenced : Fenced deniedRun.shared 1 [.erased 1] ∧
    StoreAnswer.discardEnvelopes.Ended deniedRun.shared.history := by
  have hkept : DenialKept deniedRun := denial_fences (fun _ h => h) (Player.run_play _ _ _)
  obtain ⟨hhistory, hanswer⟩ := eq_of_isErasure (p := deniedRun) (by decide +kernel)
  exact ⟨hkept.fenced _ _ _ hhistory, hkept.ended 1 _ (Pool.answer_eq_some hanswer)⟩

end Pokrov.AppShell
