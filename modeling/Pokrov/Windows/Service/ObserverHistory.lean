import Pokrov.Windows.Service.NetworkObserver

/-!
# What the history of an observer tells

The revision never falls, and a revision that a sample has returned goes with one
reading of the adapters: as long as the revision stands, that reading is the
remembered one. Each thread may take for granted that nobody else touches the
remembered sample, or the retained context, while it holds the lock for it.
-/

namespace Pokrov.Windows.Service

open Codec Effects Outline

/-! ## The invariant -/

/-- What an earlier note says about a later one. -/
structure Note.Precedes (a b : Note) : Prop where
  now : a.now ≤ b.now
  rising : ∀ {i r d n j r' d' n'}, a = .sampled i r d n → b = .sampled j r' d' n' →
    r ≤ r' ∧ (r = r' → d = d')
  begun : ∀ {i n r d n'}, a = .began i n → b = .sampled i r d n' → n ≤ r

/-- The reference of a context was made of bytes drawn for its revision. -/
def ObserverState.Issued (s : ObserverState) (value : ServiceNetworkContext) : Prop :=
  ∃ bytes, (value.revision, bytes) ∈ s.drawn ∧ value.reference = reference bytes

structure ObserverInv (s : ObserverState) : Prop where
  bounded : ∀ note ∈ s.history, note.now ≤ s.revision
  ordered : s.history.Pairwise Note.Precedes
  sampled : ∀ {i r d n}, .sampled i r d n ∈ s.history → s.ready = true ∧ r ≤ n
  asked : ∀ {r b n}, .asked r b n ∈ s.history → b = (s.ready && decide (n = r))
  /-- While the revision of a sample stands, the sample is the remembered one. -/
  latest : ∀ {i r d n}, .sampled i r d n ∈ s.history → r = s.revision → s.previous = some d
  retained : ∀ {value}, s.retainedContext = some value → s.Issued value
  contexts : ∀ {value n}, .context value n ∈ s.history → s.Issued value

/-- What a thread may rely on. -/
structure ObserverRely (thread : Nat) (s s' : ObserverState) : Prop where
  ready : s'.ready = s.ready
  revision : s.revision ≤ s'.revision
  history : s.history <+: s'.history
  drawn : s.drawn ⊆ s'.drawn
  begun : ∀ {n}, .began thread n ∈ s'.history → .began thread n ∈ s.history
  sampling : s.sampleLock = some thread → s'.sampleLock = some thread ∧
    s'.previous = s.previous ∧
    ∀ {i r d n}, .sampled i r d n ∈ s'.history → .sampled i r d n ∈ s.history
  retaining : s.referenceLock = some thread → s'.referenceLock = some thread ∧
    s'.retainedContext = s.retainedContext

namespace ObserverRely

variable {thread : Nat} {s s₁ s₂ : ObserverState}

theorem refl (thread : Nat) (s : ObserverState) : ObserverRely thread s s :=
  ⟨rfl, Nat.le_refl _, List.prefix_refl _, List.Subset.refl _, id, fun h => ⟨h, rfl, id⟩,
    fun h => ⟨h, rfl⟩⟩

theorem trans (h1 : ObserverRely thread s s₁) (h2 : ObserverRely thread s₁ s₂) :
    ObserverRely thread s s₂ := by
  constructor
  · exact h2.ready.trans h1.ready
  · exact Nat.le_trans h1.revision h2.revision
  · exact h1.history.trans h2.history
  · exact List.Subset.trans h1.drawn h2.drawn
  · exact fun h => h1.begun (h2.begun h)
  · intro h
    obtain ⟨hheld1, hprev1, hnotes1⟩ := h1.sampling h
    obtain ⟨hheld2, hprev2, hnotes2⟩ := h2.sampling hheld1
    exact ⟨hheld2, hprev2.trans hprev1, fun hn => hnotes1 (hnotes2 hn)⟩
  · intro h
    obtain ⟨hheld1, hret1⟩ := h1.retaining h
    obtain ⟨hheld2, hret2⟩ := h2.retaining hheld1
    exact ⟨hheld2, hret2.trans hret1⟩

end ObserverRely

theorem ObserverState.Issued.mono {s s' : ObserverState} {value : ServiceNetworkContext}
    (h : s.Issued value) (hdrawn : s.drawn ⊆ s'.drawn) : s'.Issued value := by
  obtain ⟨bytes, hmem, href⟩ := h
  exact ⟨bytes, hdrawn hmem, href⟩

/-! ## What each step keeps -/

/-- A step of a thread that keeps the invariant and what the others rely on. -/
def ObserverKept (thread : Nat) (s s' : ObserverState) : Prop :=
  ObserverInv s' ∧ ∀ j, j ≠ thread → ObserverRely j s s'

section Steps

variable {thread : Nat} {s : ObserverState}

theorem kept_same (h : ObserverInv s) : ObserverKept thread s s :=
  ⟨h, fun j _ => .refl j s⟩

/-- The revision moves on, and no sample goes with the new one yet. -/
theorem kept_increment (h : ObserverInv s) :
    ObserverKept thread s { s with revision := s.revision + 1 } := by
  constructor
  · refine ⟨fun note hn => ?_, h.ordered, h.sampled, h.asked, fun {i r d n} hn hr => ?_, h.retained,
      h.contexts⟩
    · exact Nat.le_succ_of_le (h.bounded note hn)
    · have hle : r ≤ n := (h.sampled hn).2
      have hnow : n ≤ s.revision := h.bounded _ hn
      have hr : r = s.revision + 1 := hr
      omega
  · exact fun j _ => ⟨rfl, Nat.le_succ _, List.prefix_refl _, List.Subset.refl _, id,
      fun hl => ⟨hl, rfl, id⟩, fun hl => ⟨hl, rfl⟩⟩

/-- A note that is neither a sample nor a context. -/
theorem inv_note {note : Note} (h : ObserverInv s) (hnow : note.now = s.revision)
    (hsampled : ∀ {i r d n}, note = .sampled i r d n → s.ready = true ∧ r ≤ s.revision ∧
      (r = s.revision → s.previous = some d) ∧
      (∀ {j r' d' n'}, .sampled j r' d' n' ∈ s.history → r' ≤ r ∧ (r' = r → d' = d)) ∧
      ∀ {n'}, .began i n' ∈ s.history → n' ≤ r)
    (hasked : ∀ {r b n}, note = .asked r b n → b = (s.ready && decide (n = r)))
    (hcontext : ∀ {value n}, note = .context value n → s.Issued value) :
    ObserverInv (s.note note) := by
  have hcases : ∀ {other : Note}, other ∈ (s.note note).history →
      other ∈ s.history ∨ other = note := by
    intro other ho
    simpa [ObserverState.note] using ho
  constructor
  · intro other ho
    rcases hcases ho with hold | rfl
    · exact h.bounded other hold
    · exact Nat.le_of_eq hnow
  · show (s.history ++ [note]).Pairwise Note.Precedes
    rw [List.pairwise_append]
    refine ⟨h.ordered, List.pairwise_singleton _ _, fun a ha b hb => ?_⟩
    obtain rfl := List.mem_singleton.mp hb
    refine ⟨?_, ?_, ?_⟩
    · rw [hnow]
      exact h.bounded a ha
    · rintro i r d n j r' d' n' rfl rfl
      exact (hsampled rfl).2.2.2.1 ha
    · rintro i n r d n' rfl rfl
      exact (hsampled rfl).2.2.2.2 ha
  · intro i r d n hn
    rcases hcases hn with hold | rfl
    · exact h.sampled hold
    · obtain ⟨hready, hr, -⟩ := hsampled rfl
      have hnow' : n = s.revision := hnow
      exact ⟨hready, hnow' ▸ hr⟩
  · intro r b n hn
    rcases hcases hn with hold | rfl
    · exact h.asked hold
    · exact hasked rfl
  · intro i r d n hn hr
    rcases hcases hn with hold | rfl
    · exact h.latest hold hr
    · exact (hsampled rfl).2.2.1 hr
  · exact h.retained
  · intro value n hn
    rcases hcases hn with hold | rfl
    · exact h.contexts hold
    · exact hcontext rfl

theorem rely_note {j : Nat} {note : Note} (hbegan : ∀ n, note ≠ .began j n)
    (hsampled : s.sampleLock = some j → ∀ i r d n, note ≠ .sampled i r d n) :
    ObserverRely j s (s.note note) := by
  have hcases : ∀ {other : Note}, other ∈ (s.note note).history →
      other ∈ s.history ∨ other = note := by
    intro other ho
    simpa [ObserverState.note] using ho
  refine ⟨rfl, Nat.le_refl _, List.prefix_append _ _, List.Subset.refl _, fun {n} hn => ?_,
    fun hl => ⟨hl, rfl, fun {i r d n} hn => ?_⟩, fun hl => ⟨hl, rfl⟩⟩
  · rcases hcases hn with hold | heq
    · exact hold
    · exact absurd heq.symm (hbegan n)
  · rcases hcases hn with hold | heq
    · exact hold
    · exact absurd heq.symm (hsampled hl i r d n)

theorem kept_lockSample (h : ObserverInv s) (hfree : s.sampleLock = none) :
    ObserverKept thread s { s with sampleLock := some thread } := by
  refine ⟨⟨h.bounded, h.ordered, h.sampled, h.asked, h.latest, h.retained, h.contexts⟩, ?_⟩
  intro j _
  refine ⟨rfl, Nat.le_refl _, List.prefix_refl _, List.Subset.refl _, id, fun hl => ?_,
    fun hl => ⟨hl, rfl⟩⟩
  rw [hfree] at hl
  cases hl

theorem kept_setPrevious {value : Option (List UInt8)} (h : ObserverInv s)
    (hheld : s.sampleLock = some thread)
    (hlatest : ∀ {i r d n}, .sampled i r d n ∈ s.history → r = s.revision → value = some d) :
    ObserverKept thread s { s with previous := value } := by
  refine ⟨⟨h.bounded, h.ordered, h.sampled, h.asked, hlatest, h.retained, h.contexts⟩, ?_⟩
  intro j hj
  refine ⟨rfl, Nat.le_refl _, List.prefix_refl _, List.Subset.refl _, id, fun hl => ?_,
    fun hl => ⟨hl, rfl⟩⟩
  exact absurd (Option.some.inj (hl.symm.trans hheld)) hj

/-- The lock is given back without a result. -/
theorem kept_unlockSample (h : ObserverInv s) (hheld : s.sampleLock = some thread) :
    ObserverKept thread s { s with sampleLock := none } := by
  refine ⟨⟨h.bounded, h.ordered, h.sampled, h.asked, h.latest, h.retained, h.contexts⟩, ?_⟩
  intro j hj
  refine ⟨rfl, Nat.le_refl _, List.prefix_refl _, List.Subset.refl _, id, fun hl => ?_,
    fun hl => ⟨hl, rfl⟩⟩
  exact absurd (Option.some.inj (hl.symm.trans hheld)) hj

theorem kept_lockReference (h : ObserverInv s) (hfree : s.referenceLock = none) :
    ObserverKept thread s { s with referenceLock := some thread } := by
  refine ⟨⟨h.bounded, h.ordered, h.sampled, h.asked, h.latest, h.retained, h.contexts⟩, ?_⟩
  intro j _
  refine ⟨rfl, Nat.le_refl _, List.prefix_refl _, List.Subset.refl _, id, fun hl => ⟨hl, rfl, id⟩,
    fun hl => ?_⟩
  rw [hfree] at hl
  cases hl

theorem kept_setRetainedContext {value : ServiceNetworkContext} (h : ObserverInv s)
    (hheld : s.referenceLock = some thread) (hissued : s.Issued value) :
    ObserverKept thread s { s with retainedContext := some value } := by
  refine ⟨⟨h.bounded, h.ordered, h.sampled, h.asked, h.latest, fun {value'} hv => ?_,
    h.contexts⟩, ?_⟩
  · cases hv
    exact hissued
  · intro j hj
    refine ⟨rfl, Nat.le_refl _, List.prefix_refl _, List.Subset.refl _, id,
      fun hl => ⟨hl, rfl, id⟩, fun hl => ?_⟩
    exact absurd (Option.some.inj (hl.symm.trans hheld)) hj

theorem kept_unlockReference (h : ObserverInv s) (hheld : s.referenceLock = some thread) :
    ObserverKept thread s { s with referenceLock := none } := by
  refine ⟨⟨h.bounded, h.ordered, h.sampled, h.asked, h.latest, h.retained, h.contexts⟩, ?_⟩
  intro j hj
  refine ⟨rfl, Nat.le_refl _, List.prefix_refl _, List.Subset.refl _, id, fun hl => ⟨hl, rfl, id⟩,
    fun hl => ?_⟩
  exact absurd (Option.some.inj (hl.symm.trans hheld)) hj

theorem kept_draw {revision : Nat} {bytes : Identifier} (h : ObserverInv s) :
    ObserverKept thread s { s with drawn := s.drawn ++ [(revision, bytes)] } := by
  have hdrawn : s.drawn ⊆ s.drawn ++ [(revision, bytes)] := List.subset_append_left _ _
  refine ⟨⟨h.bounded, h.ordered, h.sampled, h.asked, h.latest, fun {value} hv => ?_,
    fun {value n} hn => ?_⟩, fun j _ => ?_⟩
  · exact (h.retained hv).mono hdrawn
  · exact (h.contexts hn).mono hdrawn
  · exact ⟨rfl, Nat.le_refl _, List.prefix_refl _, hdrawn, id, fun hl => ⟨hl, rfl, id⟩,
      fun hl => ⟨hl, rfl⟩⟩

/-- Steps of one thread in a row. -/
theorem ObserverKept.trans {s₁ s₂ : ObserverState} (h1 : ObserverKept thread s s₁)
    (h2 : ObserverKept thread s₁ s₂) : ObserverKept thread s s₂ :=
  ⟨h2.1, fun j hj => (h1.2 j hj).trans (h2.2 j hj)⟩

theorem kept_began (h : ObserverInv s) :
    ObserverKept thread s (s.note (.began thread s.revision)) := by
  refine ⟨inv_note h rfl ?_ ?_ ?_, fun j hj => rely_note ?_ ?_⟩
  · exact fun heq => Note.noConfusion heq
  · exact fun heq => Note.noConfusion heq
  · exact fun heq => Note.noConfusion heq
  · intro n heq
    exact hj (Note.began.inj heq).1.symm
  · exact fun _ _ _ _ _ heq => Note.noConfusion heq

theorem kept_asked {revision : Nat} (h : ObserverInv s) :
    ObserverKept thread s (s.note
      (.asked revision (s.ready && decide (s.revision = revision)) s.revision)) := by
  refine ⟨inv_note h rfl ?_ ?_ ?_, fun j hj => rely_note ?_ ?_⟩
  · exact fun heq => Note.noConfusion heq
  · intro r b n heq
    obtain ⟨rfl, rfl, rfl⟩ := Note.asked.inj heq
    rfl
  · exact fun heq => Note.noConfusion heq
  · exact fun n heq => Note.noConfusion heq
  · exact fun _ _ _ _ _ heq => Note.noConfusion heq

/-- A context is returned. -/
theorem kept_context {value : ServiceNetworkContext} (h : ObserverInv s)
    (hheld : s.referenceLock = some thread) (hissued : s.Issued value) :
    ObserverKept thread s ({ s with referenceLock := none }.note (.context value s.revision)) := by
  refine (kept_unlockReference h hheld).trans ?_
  refine ⟨inv_note (kept_unlockReference h hheld).1 rfl ?_ ?_ ?_, fun j hj => rely_note ?_ ?_⟩
  · exact fun heq => Note.noConfusion heq
  · exact fun heq => Note.noConfusion heq
  · intro value' n heq
    obtain ⟨rfl, -⟩ := Note.context.inj heq
    exact hissued
  · exact fun n heq => Note.noConfusion heq
  · exact fun _ _ _ _ _ heq => Note.noConfusion heq

end Steps

/-! ## A sample in progress -/

/-- A thread samples, and the revision was `before` when it started to read. -/
structure Sampling (thread before : Nat) (s : ObserverState) : Prop where
  held : s.sampleLock = some thread
  ready : s.ready = true
  reached : before ≤ s.revision
  earlier : ∀ {i r d n}, .sampled i r d n ∈ s.history → r ≤ before
  begun : ∀ {n}, .began thread n ∈ s.history → n ≤ before

theorem Sampling.rely {thread before : Nat} {s s' : ObserverState} (h : Sampling thread before s)
    (hrely : ObserverRely thread s s') : Sampling thread before s' := by
  obtain ⟨hheld, -, hnotes⟩ := hrely.sampling h.held
  constructor
  · exact hheld
  · exact hrely.ready.trans h.ready
  · exact Nat.le_trans h.reached hrely.revision
  · exact fun hn => h.earlier (hnotes hn)
  · exact fun hn => h.begun (hrely.begun hn)

/-- A sample returns: its revision is no older than any before it, and no other
reading goes with it. -/
theorem kept_sampled {thread before captured : Nat} {current : List UInt8} {s : ObserverState}
    (h : ObserverInv s) (hs : Sampling thread before s) (hbefore : before ≤ captured)
    (hcaptured : captured ≤ s.revision) (hprevious : s.previous = some current)
    (hsame : ∀ {i d n}, .sampled i captured d n ∈ s.history → d = current) :
    ObserverKept thread s ({ s with sampleLock := none }.note
      (.sampled thread captured current s.revision)) := by
  have hopen := kept_unlockSample h hs.held
  refine hopen.trans ⟨inv_note hopen.1 rfl ?_ ?_ ?_, fun j hj => rely_note ?_ ?_⟩
  · intro i r d n heq
    obtain ⟨rfl, rfl, rfl, rfl⟩ := Note.sampled.inj heq
    refine ⟨hs.ready, hcaptured, fun _ => hprevious, fun {j r' d' n'} hn => ⟨?_, fun hr => ?_⟩,
      fun {n'} hn => Nat.le_trans (hs.begun hn) hbefore⟩
    · exact Nat.le_trans (hs.earlier hn) hbefore
    · subst hr
      exact hsame hn
  · exact fun heq => Note.noConfusion heq
  · exact fun heq => Note.noConfusion heq
  · exact fun n heq => Note.noConfusion heq
  · intro hl
    cases hl

/-! ## The outline -/

def observerOutline : Outline observer where
  inv := ObserverInv
  rely := ObserverRely
  pre := fun _ _ _ => True
  post := fun _ _ _ => True
  refl := ObserverRely.refl
  trans := ObserverRely.trans

section Rules

variable {α β : Type} {thread : Nat}

/-- A call and what follows it. -/
theorem observe_call {c : ObserverCall} {k : c.Answer → ObserverAct α}
    {Q : α → Unit → ObserverState → Prop} {s : ObserverState}
    (h : ∀ s₁, ObserverRely thread s s₁ → ObserverInv s₁ → ∀ r, s₁.allows ⟨c, r⟩ →
      ObserverKept thread s₁ (s₁.effect thread ⟨c, r⟩) ∧
        observerOutline.safea thread (k r) Q () (s₁.effect thread ⟨c, r⟩)) :
    observerOutline.safea thread (observe c >>= k) Q () s := by
  rintro s₁ hrely hinv r s₂ ⟨hallows, rfl⟩
  obtain ⟨⟨hinv2, hothers⟩, hrest⟩ := h s₁ hrely hinv r hallows
  exact ⟨hinv2, hothers, hrest⟩

/-- A call that ends a program. -/
theorem observe_last {c : ObserverCall} {Q : c.Answer → Unit → ObserverState → Prop}
    {s : ObserverState}
    (h : ∀ s₁, ObserverRely thread s s₁ → ObserverInv s₁ → ∀ r, s₁.allows ⟨c, r⟩ →
      ObserverKept thread s₁ (s₁.effect thread ⟨c, r⟩) ∧
        ∀ s', ObserverRely thread (s₁.effect thread ⟨c, r⟩) s' → Q r () s') :
    observerOutline.safea thread (observe c) Q () s := by
  rintro s₁ hrely hinv r s₂ ⟨hallows, rfl⟩
  obtain ⟨⟨hinv2, hothers⟩, hrest⟩ := h s₁ hrely hinv r hallows
  exact ⟨hinv2, hothers, hrest⟩

/-- A program that has answered. -/
theorem observe_pure {a : α} {Q : α → Unit → ObserverState → Prop} {s : ObserverState}
    (h : ∀ s', ObserverRely thread s s' → Q a () s') :
    observerOutline.safea thread (pure a) Q () s :=
  fun s' hrely => h s' hrely

/-- What is asked of a program that promises nothing. -/
abbrev Harmless (thread : Nat) (m : ObserverAct α) (s : ObserverState) : Prop :=
  observerOutline.safea thread m (fun _ _ _ => True) () s

theorem harmless_pure {a : α} {s : ObserverState} : Harmless thread (pure a) s :=
  observe_pure fun _ _ => trivial

theorem harmless_bind {α β : Type} {m : ObserverAct α} {f : α → ObserverAct β} {s : ObserverState}
    (hm : Harmless thread m s) (hf : ∀ a s, Harmless thread (f a) s) :
    Harmless thread (m >>= f) s :=
  safea_seq hm fun a _ s _ => hf a s

end Rules

/-! ## The programs -/

section Programs

variable {thread before : Nat} {s : ObserverState}

theorem harmless_isCurrent (revision : Nat) (s : ObserverState) :
    Harmless thread (isCurrent revision) s := by
  refine observe_last fun s₁ _ hinv1 r hr => ?_
  have hanswer : r = (s₁.ready && decide (s₁.revision = revision)) := hr
  subst hanswer
  exact ⟨kept_asked hinv1, fun _ _ => trivial⟩

/-- The revision has moved on since the sample started to read. -/
theorem harmless_abandonSample (hs : Sampling thread before s) (hmoved : before < s.revision) :
    Harmless thread abandonSample s := by
  refine observe_call fun s₁ h1 hinv1 _ _ => ?_
  have hs1 := hs.rely h1
  refine ⟨kept_setPrevious hinv1 hs1.held fun {i r d n} hn hr => ?_, ?_⟩
  · have hle := hs1.earlier hn
    have hrev := h1.revision
    omega
  refine observe_call fun s₂ h2 hinv2 _ _ => ?_
  have hs2 : Sampling thread before s₂ :=
    (⟨hs1.held, hs1.ready, hs1.reached, hs1.earlier, hs1.begun⟩ :
      Sampling thread before { s₁ with previous := none }).rely h2
  exact ⟨kept_unlockSample hinv2 hs2.held, harmless_pure⟩

theorem harmless_finishSample {captured : Nat} {current : List UInt8}
    (hs : Sampling thread before s) (hbefore : before ≤ captured) (hcaptured : captured ≤ s.revision)
    (hsame : ∀ {i d n}, .sampled i captured d n ∈ s.history → d = current) :
    Harmless thread (finishSample captured current) s := by
  refine observe_call fun s₁ h1 hinv1 _ _ => ?_
  have hs1 := hs.rely h1
  have hcaptured1 : captured ≤ s₁.revision := Nat.le_trans hcaptured h1.revision
  have hnotes1 : ∀ {i r d n}, .sampled i r d n ∈ s₁.history → .sampled i r d n ∈ s.history :=
    fun hn => (h1.sampling hs.held).2.2 hn
  refine ⟨kept_setPrevious hinv1 hs1.held fun {i r d n} hn hr => ?_, ?_⟩
  · have hle := hs1.earlier hn
    have heq : r = captured := by omega
    subst heq
    rw [hsame (hnotes1 hn)]
  refine observe_call fun s₂ h2 hinv2 _ _ => ?_
  have hset : Sampling thread before { s₁ with previous := some current } :=
    ⟨hs1.held, hs1.ready, hs1.reached, hs1.earlier, hs1.begun⟩
  obtain ⟨-, hprevious, hnotes2⟩ := h2.sampling hset.held
  have hs2 := hset.rely h2
  refine ⟨kept_sampled hinv2 hs2 hbefore (Nat.le_trans hcaptured1 h2.revision) hprevious ?_, ?_⟩
  · exact fun hn => hsame (hnotes1 (hnotes2 hn))
  · exact harmless_pure

theorem harmless_increment_abandonSample (hs : Sampling thread before s) :
    Harmless thread (do observe .increment; abandonSample) s := by
  refine observe_call fun s₁ h1 hinv1 _ _ => ?_
  have hs1 := hs.rely h1
  have hmoved : Sampling thread before { s₁ with revision := s₁.revision + 1 } :=
    ⟨hs1.held, hs1.ready, Nat.le_succ_of_le hs1.reached, hs1.earlier, hs1.begun⟩
  exact ⟨kept_increment hinv1, harmless_abandonSample hmoved (Nat.lt_succ_of_le hs1.reached)⟩

/-- The comparison with the remembered sample. At its start the revision was
still `before`, so a sample of that revision was the remembered one. -/
theorem harmless_compareSample {current : List UInt8} (hs : Sampling thread before s)
    (hlatest : ∀ {i d n}, .sampled i before d n ∈ s.history → s.previous = some d) :
    Harmless thread (do
      let previous ← observe .previous
      if previous ≠ none ∧ previous ≠ some current then
        if ¬ (← observe (.compareExchange before (before + 1))) then abandonSample
        else finishSample (before + 1) current
      else finishSample before current) s := by
  refine observe_call fun s₁ h1 hinv1 previous hprevious => ⟨kept_same hinv1, ?_⟩
  have hs1 : Sampling thread before s₁ := hs.rely h1
  have hread : previous = s.previous := Eq.trans hprevious (h1.sampling hs.held).2.1
  refine safea_ite (fun _ => ?_) fun hkeep => ?_
  · refine observe_call fun s₂ h2 hinv2 exchanged hexchanged => ?_
    have hs2 := hs1.rely h2
    have hanswer : exchanged = decide (s₂.revision = before) := hexchanged
    by_cases heq : s₂.revision = before
    · -- a silent difference: the sampler moves the revision itself
      subst heq
      have hstep : s₂.effect thread ⟨.compareExchange s₂.revision (s₂.revision + 1), exchanged⟩ =
          { s₂ with revision := s₂.revision + 1 } := if_pos rfl
      rw [hstep, hanswer, decide_eq_true rfl]
      refine ⟨kept_increment hinv2, ?_⟩
      have hmoved : Sampling thread s₂.revision { s₂ with revision := s₂.revision + 1 } :=
        ⟨hs2.held, hs2.ready, Nat.le_succ _, hs2.earlier, hs2.begun⟩
      refine harmless_finishSample hmoved (Nat.le_succ _) (Nat.le_refl _) fun {i d n} hn => ?_
      have hle := hs2.earlier hn
      omega
    · have hstep : s₂.effect thread ⟨.compareExchange before (before + 1), exchanged⟩ = s₂ :=
        if_neg heq
      rw [hstep, hanswer, decide_eq_false heq]
      refine ⟨kept_same hinv2, harmless_abandonSample hs2 ?_⟩
      have hle := hs2.reached
      omega
  · refine harmless_finishSample hs1 (Nat.le_refl _) hs1.reached fun {i d n} hn => ?_
    have hsome : previous = some d := hread.trans (hlatest ((h1.sampling hs.held).2.2 hn))
    rw [not_and_or, not_not, not_not] at hkeep
    rcases hkeep with hnone | hcurrent
    · rw [hsome] at hnone
      cases hnone
    · exact Option.some.inj (hsome.symm.trans hcurrent)

theorem harmless_sample (thread : Nat) (s : ObserverState) : Harmless thread sample s := by
  refine observe_call fun s₁ h1 hinv1 ready hready => ⟨kept_began hinv1, ?_⟩
  refine safea_ite (fun _ => harmless_pure) fun hyes => ?_
  have hready1 : s₁.ready = true := (hready.symm.trans (not_not.mp hyes) : _)
  refine observe_call fun s₂ h2 hinv2 _ hfree => ⟨kept_lockSample hinv2 hfree, ?_⟩
  refine observe_call fun s3 h3 hinv3 before hbefore => ⟨kept_same hinv3, ?_⟩
  obtain ⟨hheld3, -⟩ := h3.sampling rfl
  have hbefore : before = s3.revision := hbefore
  subst hbefore
  have hs3 : Sampling thread s3.revision s3 := by
    constructor
    · exact hheld3
    · exact h3.ready.trans (h2.ready.trans hready1)
    · exact Nat.le_refl _
    · intro i r d n hn
      exact Nat.le_trans (hinv3.sampled hn).2 (hinv3.bounded _ hn)
    · exact fun hn => hinv3.bounded _ hn
  generalize s3.revision = before at hs3
  refine observe_call fun s4 h4 hinv4 adapters _ => ⟨kept_same hinv4, ?_⟩
  have hs4 := hs3.rely h4
  cases adapters with
  | none => exact harmless_increment_abandonSample hs4
  | some current =>
    refine observe_call fun s5 h5 hinv5 again hagain => ⟨kept_same hinv5, ?_⟩
    have hs5 := hs4.rely h5
    refine safea_ite (fun _ => harmless_increment_abandonSample hs5) fun hstill => ?_
    have hrevision : before = s5.revision := Eq.trans (not_not.mp hstill) hagain
    exact harmless_compareSample hs5 fun hn => hinv5.latest hn hrevision

/-! ### Contexts -/

theorem issued_reference {s : ObserverState} {revision : Nat} {bytes : Identifier}
    (h : (revision, bytes) ∈ s.drawn) : s.Issued ⟨revision, reference bytes⟩ :=
  ⟨bytes, h, rfl⟩

/-- A program that runs under the lock for the retained context. -/
abbrev Retaining {α : Type} (thread : Nat) (m : ObserverAct α)
    (Q : α → ObserverState → Prop) (s : ObserverState) : Prop :=
  s.referenceLock = some thread →
    observerOutline.safea thread m (fun a _ s => s.referenceLock = some thread ∧ Q a s) () s

theorem retaining_renewContext (revision : Nat) (s : ObserverState) :
    Retaining thread (renewContext revision) (fun _ _ => True) s := by
  intro hheld
  refine observe_call fun s₁ h1 hinv1 bytes _ => ?_
  have hheld1 := (h1.retaining hheld).1
  cases bytes with
  | none =>
    refine ⟨kept_same hinv1, observe_pure fun s₂ h2 => ⟨(h2.retaining hheld1).1, trivial⟩⟩
  | some bytes =>
    have hdrawn : (revision, bytes) ∈ s₁.drawn ++ [(revision, bytes)] :=
      List.mem_append_right _ (List.mem_singleton_self _)
    refine ⟨kept_draw hinv1, observe_call fun s₂ h2 hinv2 _ _ => ?_⟩
    have hheld2 : s₂.referenceLock = some thread := (h2.retaining hheld1).1
    constructor
    · exact kept_setRetainedContext hinv2 hheld2 (issued_reference (h2.drawn hdrawn))
    · exact observe_pure fun s3 h3 => ⟨(h3.retaining hheld2).1, trivial⟩

/-- A question about a revision, inside another program. -/
theorem observe_isCurrent {α : Type} {revision : Nat} {k : Bool → ObserverAct α}
    {Q : α → Unit → ObserverState → Prop} {s : ObserverState}
    (h : ∀ s₁, ObserverRely thread s s₁ → ∀ r note,
      observerOutline.safea thread (k r) Q () (s₁.note note)) :
    observerOutline.safea thread (isCurrent revision >>= k) Q () s := by
  refine observe_call fun s₁ h1 hinv1 r hr => ?_
  have hanswer : r = (s₁.ready && decide (s₁.revision = revision)) := hr
  subst hanswer
  exact ⟨kept_asked hinv1, h s₁ h1 _ _⟩

theorem retaining_retainContext (revision : Nat) (s : ObserverState) :
    Retaining thread (retainContext revision) (fun result s => ∀ value, result = some value →
      s.Issued value) s := by
  have hstop : ∀ s, Retaining thread (pure none : ObserverAct (Option ServiceNetworkContext))
      (fun result s => ∀ value, result = some value → s.Issued value) s := by
    intro s hheld
    exact observe_pure fun s' h' => ⟨(h'.retaining hheld).1, fun value hv => by cases hv⟩
  intro hheld
  refine observe_isCurrent fun s₁ h1 r note => ?_
  have hheld1 : (s₁.note note).referenceLock = some thread := (h1.retaining hheld).1
  refine safea_ite (fun _ => hstop _ hheld1) fun _ => ?_
  refine observe_call fun s₂ h2 hinv2 retained _ => ⟨kept_same hinv2, ?_⟩
  have hheld2 : s₂.referenceLock = some thread := (h2.retaining hheld1).1
  refine safea_bind ?_
  have hrenewed : observerOutline.safea thread
      (if retained.map (·.revision) = some revision then (pure true : ObserverAct Bool)
        else renewContext revision)
      (fun _ _ s => s.referenceLock = some thread) () s₂ := by
    refine safea_ite (fun _ => ?_) fun _ => ?_
    · exact observe_pure fun s3 h3 => (h3.retaining hheld2).1
    · exact safea_mono (retaining_renewContext revision s₂ hheld2) fun _ _ _ h => h.1
  refine safea_mono hrenewed fun renewed _ s3 hheld3 => ?_
  refine safea_ite (fun _ => hstop _ hheld3) fun _ => ?_
  refine observe_isCurrent fun s4 h4 r' note' => ?_
  have hheld4 : (s4.note note').referenceLock = some thread := (h4.retaining hheld3).1
  refine safea_ite (fun _ => hstop _ hheld4) fun _ => ?_
  refine observe_last fun s5 h5 hinv5 value hvalue => ⟨kept_same hinv5, fun s6 h6 => ?_⟩
  have hheld5 : s5.referenceLock = some thread := (h5.retaining hheld4).1
  refine ⟨(h6.retaining hheld5).1, fun context hcontext => ?_⟩
  have hread : s5.retainedContext = some context := Eq.trans (Eq.symm hvalue) hcontext
  exact (hinv5.retained hread).mono h6.drawn

theorem harmless_readContext (thread : Nat) (s : ObserverState) :
    Harmless thread readContext s := by
  refine safea_seq (harmless_sample thread s) fun sampled _ s₁ _ => ?_
  cases sampled with
  | none => exact harmless_pure
  | some revision =>
    refine observe_call fun s₂ h2 hinv2 _ hfree => ⟨kept_lockReference hinv2 hfree, ?_⟩
    refine safea_seq (retaining_retainContext revision _ rfl) ?_
    rintro result _ s3 ⟨hheld3, hissued⟩
    refine observe_call fun s4 h4 hinv4 _ _ => ⟨?_, harmless_pure⟩
    have hheld4 := (h4.retaining hheld3).1
    cases result with
    | none => exact kept_unlockReference hinv4 hheld4
    | some value => exact kept_context hinv4 hheld4 ((hissued value rfl).mono h4.drawn)

/-! ### Callbacks -/

theorem harmless_increment (s : ObserverState) : Harmless thread (observe .increment) s := by
  exact observe_last fun s₁ _ hinv1 _ _ => ⟨kept_increment hinv1, fun _ _ => trivial⟩

theorem harmless_onlyIf {b : Prop} [Decidable b] {m : ObserverAct Unit} {s : ObserverState}
    (h : ∀ s, Harmless thread m s) : Harmless thread (onlyIf b m) s :=
  safea_ite (fun _ => h s) fun _ => harmless_pure

theorem harmless_changed (luid : Option Nat) (s : ObserverState) :
    Harmless thread (changed luid) s := by
  refine harmless_bind ?_ fun _ _ => harmless_onlyIf harmless_increment
  cases luid with
  | none => exact harmless_pure
  | some luid => exact observe_last fun s₁ _ hinv1 _ _ => ⟨kept_same hinv1, fun _ _ => trivial⟩

theorem harmless_wifiChanged (event : Option WlanNotification) (s : ObserverState) :
    Harmless thread (wifiChanged event) s :=
  harmless_onlyIf harmless_increment

theorem harmless_run (task : ObserverTask) (s : ObserverState) :
    Harmless thread task.run s := by
  cases task with
  | sample => exact harmless_bind (harmless_sample thread s) fun _ _ => harmless_pure
  | readContext => exact harmless_bind (harmless_readContext thread s) fun _ _ => harmless_pure
  | isCurrent revision =>
    exact harmless_bind (harmless_isCurrent revision s) fun _ _ => harmless_pure
  | changed luid => exact harmless_bind (harmless_changed luid s) fun _ _ => harmless_pure
  | wifiChanged event => exact harmless_bind (harmless_wifiChanged event s) fun _ _ => harmless_pure

end Programs

/-! ## Every run -/

theorem observerOutline_valid : observerOutline.Valid where
  start := by
    rintro s s' task hinv rfl
    exact ⟨hinv, fun j => ObserverRely.refl j _, fun _ => trivial⟩
  body := by
    intro i task s _ _
    exact observerOutline.safe_bind (observerOutline.safe_mono (harmless_run task s)
      fun _ s₁ _ _ _ => trivial)

theorem good_new (ready : Bool) : observerOutline.Good (ObserverState.new ready) := by
  constructor
  · constructor
    · intro note hn
      cases hn
    · exact List.Pairwise.nil
    · intro i r d n hn
      cases hn
    · intro r b n hn
      cases hn
    · intro i r d n hn
      cases hn
    · intro value hv
      cases hv
    · intro value n hn
      cases hn
  · intro i program hi
    cases hi

/-- What an observer can come to. -/
def ObserverState.Reached (p : Pool Observation ObserverState ObserverTask ObserverAnswer) : Prop :=
  ∃ ready, observer.Run (ObserverState.new ready) p

theorem inv_of_reached {p : Pool Observation ObserverState ObserverTask ObserverAnswer}
    (h : ObserverState.Reached p) : ObserverInv p.shared := by
  obtain ⟨ready, hrun⟩ := h
  exact (Good.run observerOutline_valid (good_new ready) hrun).1.1

end Pokrov.Windows.Service
