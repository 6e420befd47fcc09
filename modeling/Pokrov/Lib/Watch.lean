import Pokrov.Lib.Pool

/-!
# Watched threads

A watch takes notes of what is started and called, and may forbid a call. Notes
do not change what the threads do: a watched run is a run, and under a watch that
forbids nothing every run is a watched one.
-/

namespace Effects

variable {I : Interface} {S T A G E : Type}

structure Watch (I : Interface) (T G : Type) where
  started : T → G → G
  called : Nat → Event I → G → G
  allows : Nat → Event I → G → Prop

namespace System

def watched (sys : System I S T A) (watch : Watch I T G) : System I (S × G) T A where
  exec := fun i x e x' =>
    sys.exec i x.1 e x'.1 ∧ watch.allows i e x.2 ∧ x'.2 = watch.called i e x.2
  start := fun x t x' => sys.start x.1 t x'.1 ∧ x'.2 = watch.started t x.2
  body := sys.body

end System

/-- A pool with notes. -/
def Pool.noted (p : Pool I S T A) (notes : G) : Pool I (S × G) T A := ⟨(p.shared, notes), p.threads⟩

/-- A pool without its notes. -/
def Pool.bare (p : Pool I (S × G) T A) : Pool I S T A := ⟨p.shared.1, p.threads⟩

namespace System

variable {sys : System I S T A} {watch : Watch I T G}

theorem Step.noted {p q : Pool I S T A} (hfree : ∀ i e notes, watch.allows i e notes)
    (h : sys.Step p q) (notes : G) :
    ∃ notes', (sys.watched watch).Step (p.noted notes) (q.noted notes') := by
  cases h with
  | start h => exact ⟨_, .start ⟨h, rfl⟩⟩
  | call hi h => exact ⟨_, .call hi ⟨h, hfree _ _ _, rfl⟩⟩
  | again hi => exact ⟨notes, .again hi⟩

/-- Under a watch that forbids nothing every run is a watched one. -/
theorem Run.noted {p q : Pool I S T A} (hfree : ∀ i e notes, watch.allows i e notes)
    (h : sys.Run p q) (notes : G) :
    ∃ notes', (sys.watched watch).Run (p.noted notes) (q.noted notes') := by
  induction h with
  | refl => exact ⟨notes, .refl⟩
  | tail _ hstep ih =>
    obtain ⟨notes', hrun⟩ := ih
    obtain ⟨notes'', hstep'⟩ := hstep.noted hfree notes'
    exact ⟨notes'', hrun.tail hstep'⟩

end System

/-- A player of a watched system, who makes no call but those that he knows to be
allowed. -/
def Player.watched {sys : System I S T A} (player : Player sys E) (watch : Watch I T G)
    (allowed : Nat → Event I → G → Bool)
    (hallowed : ∀ i e notes, allowed i e notes = true → watch.allows i e notes) :
    Player (sys.watched watch) E where
  startTask := fun x t => (player.startTask x.1 t).map fun s' => (s', watch.started t x.2)
  respond := fun e i x c =>
    match player.respond e i x.1 c with
    | some (r, s') =>
      if allowed i ⟨c, r⟩ x.2 then some (r, (s', watch.called i ⟨c, r⟩ x.2)) else none
    | none => none
  starts := by
    intro x x' t h
    obtain ⟨s', hs, rfl⟩ := Option.map_eq_some_iff.mp h
    exact ⟨player.starts hs, rfl⟩
  executes := by
    intro e i x x' c r h
    split at h
    · rename_i r' s' hs
      split at h
      · rename_i hc
        cases h
        exact ⟨player.executes hs, hallowed _ _ _ hc, rfl⟩
      · cases h
    · cases h

end Effects
