import Mathlib.Tactic.Common

/-!
# Computations that throw and keep what they have changed

A method that throws in the middle leaves its object as it is then. `wp` speaks of
the answer and of the state that a computation ends in, `Preserves` of the state
alone.
-/

/-- A computation on a state. -/
def Stateful (σ ε α : Type) : Type := σ → Except ε α × σ

namespace Stateful

variable {σ ε α β : Type}

def bind (m : Stateful σ ε α) (f : α → Stateful σ ε β) : Stateful σ ε β := fun s =>
  match m s with
  | (.ok a, s') => f a s'
  | (.error e, s') => (.error e, s')

instance : Monad (Stateful σ ε) where
  pure a := fun s => (.ok a, s)
  bind := bind

def get : Stateful σ ε σ := fun s => (.ok s, s)

def modify (f : σ → σ) : Stateful σ ε Unit := fun s => (.ok (), f s)

def throw (e : ε) : Stateful σ ε α := fun s => (.error e, s)

/-- What does not look at the state. -/
def lift (x : Except ε α) : Stateful σ ε α := fun s => (x, s)

/-- `try … catch`. -/
def catching (m : Stateful σ ε α) (handler : ε → Stateful σ ε α) : Stateful σ ε α := fun s =>
  match m s with
  | (.ok a, s') => (.ok a, s')
  | (.error e, s') => handler e s'

/-! ## Preconditions -/

/-- What holds of the answer and of the state at the end. -/
def wp (m : Stateful σ ε α) (post : Except ε α → σ → Prop) (s : σ) : Prop := post (m s).1 (m s).2

/-- What has to hold where the rest goes on. -/
def next (f : α → Stateful σ ε β) (post : Except ε β → σ → Prop) : Except ε α → σ → Prop
  | .ok a, s => wp (f a) post s
  | .error e, s => post (.error e) s

variable {post : Except ε α → σ → Prop} {s : σ}

@[simp] theorem wp_pure {a : α} : wp (pure a : Stateful σ ε α) post s ↔ post (.ok a) s := Iff.rfl

@[simp] theorem wp_get {post : Except ε σ → σ → Prop} : wp get post s ↔ post (.ok s) s := Iff.rfl

@[simp] theorem wp_modify {f : σ → σ} {post : Except ε Unit → σ → Prop} :
    wp (modify f) post s ↔ post (.ok ()) (f s) := Iff.rfl

@[simp] theorem wp_throw {e : ε} : wp (throw e : Stateful σ ε α) post s ↔ post (.error e) s := Iff.rfl

@[simp] theorem wp_lift {x : Except ε α} : wp (lift x) post s ↔ post x s := Iff.rfl

variable {f : α → Stateful σ ε β} {m : Stateful σ ε α}

@[simp] theorem next_ok {post : Except ε β → σ → Prop} {a : α} :
    next f post (.ok a) s ↔ wp (f a) post s := Iff.rfl

theorem wp_bind {post : Except ε β → σ → Prop} : wp (m >>= f) post s ↔ wp m (next f post) s := by
  show post (bind m f s).1 (bind m f s).2 ↔ next f post (m s).1 (m s).2
  unfold bind
  rcases m s with ⟨answer, s'⟩
  cases answer with
  | ok a => exact Iff.rfl
  | error e => exact Iff.rfl

theorem wp_lift_bind {x : Except ε α} {post : Except ε β → σ → Prop}
    (herror : ∀ e, x = .error e → post (.error e) s) (hok : ∀ a, x = .ok a → wp (f a) post s) :
    wp (lift x >>= f) post s := by
  rw [wp_bind, wp_lift]
  cases x with
  | error e => exact herror e rfl
  | ok a => exact hok a rfl

theorem wp_mono {post' : Except ε α → σ → Prop} (h : wp m post s)
    (hpost : ∀ r s', post r s' → post' r s') : wp m post' s := hpost _ _ h

theorem wp_catching {handler : ε → Stateful σ ε α}
    (h : wp m (fun r s' => match r with | .ok a => post (.ok a) s' | .error e => wp (handler e) post s') s) :
    wp (catching m handler) post s := by
  unfold wp at h
  show post (catching m handler s).1 (catching m handler s).2
  unfold catching
  rcases hm : m s with ⟨answer, s'⟩
  rw [hm] at h
  cases answer with
  | ok a => exact h
  | error e => exact h

theorem wp_ite {b : Prop} [Decidable b] {m m' : Stateful σ ε α} (hpos : b → wp m post s)
    (hneg : ¬ b → wp m' post s) : wp (if b then m else m') post s := by
  by_cases h : b
  · rw [if_pos h]
    exact hpos h
  · rw [if_neg h]
    exact hneg h

/-! ## What computations keep -/

/-- The state at the end is related to the one before, whatever the answer. -/
def Preserves (R : σ → σ → Prop) (m : Stateful σ ε α) : Prop := ∀ s, R s (m s).2

section Preserves

variable {R : σ → σ → Prop}

variable {m : Stateful σ ε α}

theorem Preserves.wp (h : Preserves R m) (hpost : ∀ r s', R s s' → post r s') :
    Stateful.wp m post s := hpost _ _ (h s)

theorem Preserves.ite {b : Prop} [Decidable b] {m m' : Stateful σ ε α} (h : Preserves R m)
    (h' : Preserves R m') : Preserves R (if b then m else m') := by
  by_cases hb : b
  · rw [if_pos hb]
    exact h
  · rw [if_neg hb]
    exact h'

variable [IsTrans σ R]

theorem Preserves.bind {f : α → Stateful σ ε β} (h : Preserves R m) (hf : ∀ a, Preserves R (f a)) :
    Preserves R (m >>= f) := by
  intro s
  have hm := h s
  show R s (Stateful.bind m f s).2
  unfold Stateful.bind
  rcases hs : m s with ⟨answer, s'⟩
  rw [hs] at hm
  cases answer with
  | ok a => exact IsTrans.trans _ _ _ hm (hf a s')
  | error e => exact hm

theorem Preserves.catching {handler : ε → Stateful σ ε α} (h : Preserves R m)
    (hhandler : ∀ e, Preserves R (handler e)) : Preserves R (catching m handler) := by
  intro s
  have hm := h s
  show R s (Stateful.catching m handler s).2
  unfold Stateful.catching
  rcases hs : m s with ⟨answer, s'⟩
  rw [hs] at hm
  cases answer with
  | ok a => exact hm
  | error e => exact IsTrans.trans _ _ _ hm (hhandler e s')

end Preserves

section Unchanged

variable {R : σ → σ → Prop} [Std.Refl R]

theorem Preserves.pure {a : α} : Preserves R (Pure.pure a : Stateful σ ε α) := fun s => Std.Refl.refl s

theorem Preserves.get : Preserves R (get : Stateful σ ε σ) := fun s => Std.Refl.refl s

theorem Preserves.throw {e : ε} : Preserves R (throw e : Stateful σ ε α) := fun s => Std.Refl.refl s

theorem Preserves.lift {x : Except ε α} : Preserves R (lift x : Stateful σ ε α) := fun s => Std.Refl.refl s

end Unchanged

end Stateful
