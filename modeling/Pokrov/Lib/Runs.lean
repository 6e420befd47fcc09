import Mathlib.Tactic.Common

/-!
# Runs

What every operation keeps or relates, a run of operations keeps or relates.
-/

namespace Runs

variable {σ ο : Type}

/-- The state after some operations. -/
def run (after : σ → ο → σ) (s : σ) (operations : List ο) : σ := operations.foldl after s

variable {after : σ → ο → σ}

@[simp] theorem run_nil {s : σ} : run after s [] = s := rfl

@[simp] theorem run_cons {s : σ} {operation : ο} {operations : List ο} :
    run after s (operation :: operations) = run after (after s operation) operations := rfl

@[simp] theorem run_append {s : σ} {operations operations' : List ο} :
    run after s (operations ++ operations') = run after (run after s operations) operations' :=
  List.foldl_append

/-- The invariant rule. -/
theorem keeps {Inv : σ → Prop} (hstep : ∀ s operation, Inv s → Inv (after s operation)) {s : σ}
    (hs : Inv s) (operations : List ο) : Inv (run after s operations) := by
  induction operations generalizing s with
  | nil => exact hs
  | cons operation operations ih => exact ih (hstep s operation hs)

/-- A relation between a state and the next ones, under an invariant. -/
theorem leads {Inv : σ → Prop} {R : σ → σ → Prop} [Std.Refl R] [IsTrans σ R]
    (hinv : ∀ s operation, Inv s → Inv (after s operation))
    (hstep : ∀ s operation, Inv s → R s (after s operation)) {s : σ} (hs : Inv s)
    (operations : List ο) : R s (run after s operations) := by
  induction operations generalizing s with
  | nil => exact Std.Refl.refl s
  | cons operation operations ih =>
    have hnext := ih (hinv s operation hs)
    exact IsTrans.trans _ _ _ (hstep s operation hs) hnext

/-- Every step of a run meets a condition on the state before it. -/
def along (after : σ → ο → σ) (P : σ → ο → Prop) : σ → List ο → Prop
  | _, [] => True
  | s, operation :: operations => P s operation ∧ along after P (after s operation) operations

theorem along_and {P Q : σ → ο → Prop} {s : σ} {operations : List ο}
    (hp : along after P s operations) (hq : along after Q s operations) :
    along after (fun s operation => P s operation ∧ Q s operation) s operations := by
  induction operations generalizing s with
  | nil => trivial
  | cons operation operations ih => exact ⟨⟨hp.1, hq.1⟩, ih hp.2 hq.2⟩

/-- The invariant rule for runs whose steps meet a condition. -/
theorem keeps_along {P : σ → ο → Prop} {Inv : σ → Prop}
    (hstep : ∀ s operation, Inv s → P s operation → Inv (after s operation)) {s : σ} (hs : Inv s)
    {operations : List ο} (h : along after P s operations) : Inv (run after s operations) := by
  induction operations generalizing s with
  | nil => exact hs
  | cons operation operations ih => exact ih (hstep s operation hs h.1) h.2

end Runs
