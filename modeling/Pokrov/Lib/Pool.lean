import Mathlib.Logic.Relation
import Pokrov.Lib.Effects

/-!
# Threads over a shared state

A pool runs programs one call at a time and in any order, over a state that all
of them share. A thread may be started at any moment that the state allows, and
a program may go on as another task when it ends, so that a loop without a bound
is a program for each round.

The proof rules are those of rely-guarantee reasoning. An `Outline` gives an
invariant of the shared state and, for each thread, what the others leave alone.
`safe` is the weakest precondition of a program under an outline: wherever the
others have brought the state, each call keeps the invariant and what the others
rely on. `Good.run` turns it into a statement about every run of the pool.
-/

namespace Effects

variable {I : Interface} {S T A : Type}

/-- What threads run on, and what they may run. -/
structure System (I : Interface) (S T A : Type) where
  /-- A thread makes a call in a state, is answered, and leaves a state. A call
  that the state does not allow waits. -/
  exec : Nat → S → Event I → S → Prop
  /-- A task is started in a state and leaves a state. -/
  start : S → T → S → Prop
  /-- The program of a task. It ends in an answer or goes on as another task. -/
  body : T → Prog I (T ⊕ A)

structure Pool (I : Interface) (S T A : Type) where
  shared : S
  threads : List (Prog I (T ⊕ A))

namespace System

variable (sys : System I S T A)

inductive Step : Pool I S T A → Pool I S T A → Prop
  | start {s s' : S} {threads : List (Prog I (T ⊕ A))} {t : T} (h : sys.start s t s') :
      Step ⟨s, threads⟩ ⟨s', threads ++ [sys.body t]⟩
  | call {s s' : S} {threads : List (Prog I (T ⊕ A))} {i : Nat} {c : I.Call}
      {k : I.Answer c → Prog I (T ⊕ A)} {r : I.Answer c} (hi : threads[i]? = some (.call c k))
      (h : sys.exec i s ⟨c, r⟩ s') : Step ⟨s, threads⟩ ⟨s', threads.set i (k r)⟩
  | again {s : S} {threads : List (Prog I (T ⊕ A))} {i : Nat} {t : T}
      (hi : threads[i]? = some (.ret (.inl t))) :
      Step ⟨s, threads⟩ ⟨s, threads.set i (sys.body t)⟩

abbrev Run : Pool I S T A → Pool I S T A → Prop := Relation.ReflTransGen sys.Step

variable {sys}

theorem Step.length_le {p q : Pool I S T A} (h : sys.Step p q) :
    p.threads.length ≤ q.threads.length := by
  cases h with
  | start _ => simp
  | call _ _ => simp
  | again _ => simp

end System

/-! ## Outlines -/

/-- The plan of a proof: what always holds, what each thread may take for
granted of the steps of the others, and what its tasks start from and end in. -/
structure Outline (sys : System I S T A) where
  inv : S → Prop
  rely : Nat → S → S → Prop
  pre : Nat → T → S → Prop
  post : Nat → A → S → Prop
  refl : ∀ i s, rely i s s
  trans : ∀ {i s₁ s₂ s₃}, rely i s₁ s₂ → rely i s₂ s₃ → rely i s₁ s₃

namespace Outline

variable {sys : System I S T A} (O : Outline sys) {α β σ : Type} {i : Nat}

/-- Thread `i` may run the program from here and ends in `Q`. -/
def safe (i : Nat) : Prog I α → (α → S → Prop) → S → Prop
  | .ret a, Q, s => ∀ s₁, O.rely i s s₁ → Q a s₁
  | .call c k, Q, s =>
    ∀ s₁, O.rely i s s₁ → O.inv s₁ → ∀ r s₂, sys.exec i s₁ ⟨c, r⟩ s₂ →
      O.inv s₂ ∧ (∀ j, j ≠ i → O.rely j s₁ s₂) ∧ safe i (k r) Q s₂

variable {p : Prog I α} {K : S → Prop} {f : σ}

/-- The steps of the others do not matter. -/
theorem safe_of_rely {Q : α → S → Prop} {s s' : S} (h : O.safe i p Q s) (hrely : O.rely i s s') :
    O.safe i p Q s' := by
  cases p with
  | ret a => exact fun s1 h1 => h s1 (O.trans hrely h1)
  | call c k => exact fun s1 h1 => h s1 (O.trans hrely h1)

theorem safe_mono {Q R : α → S → Prop} {s : S} (h : O.safe i p Q s) (hQR : ∀ a s, Q a s → R a s) :
    O.safe i p R s := by
  induction p generalizing s with
  | ret a => exact fun s1 h1 => hQR a s1 (h s1 h1)
  | call c k ih =>
    intro s1 h1 hinv r s2 hexec
    obtain ⟨hinv2, hothers, hrest⟩ := h s1 h1 hinv r s2 hexec
    exact ⟨hinv2, hothers, ih r hrest⟩

theorem safe_bind {f : α → Prog I β} {Q : β → S → Prop} {s : S}
    (h : O.safe i p (fun a s => O.safe i (f a) Q s) s) : O.safe i (p >>= f) Q s := by
  induction p generalizing s with
  | ret a => exact h s (O.refl i s)
  | call c k ih =>
    intro s1 h1 hinv r s2 hexec
    obtain ⟨hinv2, hothers, hrest⟩ := h s1 h1 hinv r s2 hexec
    exact ⟨hinv2, hothers, ih r hrest⟩

/-- What every thread may rely on, every program keeps. -/
theorem safe_and {Q : α → S → Prop} {s : S} (hK : ∀ j s s', K s → O.rely j s s' → K s')
    (h : O.safe i p Q s) (hs : K s) : O.safe i p (fun a s => Q a s ∧ K s) s := by
  induction p generalizing s with
  | ret a => exact fun s1 h1 => ⟨h s1 h1, hK i s s1 hs h1⟩
  | call c k ih =>
    intro s1 h1 hinv r s2 hexec
    obtain ⟨hinv2, hothers, hrest⟩ := h s1 h1 hinv r s2 hexec
    -- its own step is one that a further thread may rely on
    have hK2 := hK (i + 1) s1 s2 (hK i s s1 hs h1) (hothers (i + 1) (Nat.succ_ne_self i))
    exact ⟨hinv2, hothers, ih r hrest hK2⟩

/-- What a class of calls keeps, a program that makes no other keeps. -/
theorem safe_of_calls {P : I.Call → Prop} {s : S}
    (hstep : ∀ s s' e, P e.call → O.inv s → K s → sys.exec i s e s' → O.inv s' ∧ (∀ j, j ≠ i → O.rely j s s') ∧ K s')
    (hrely : ∀ s s', O.rely i s s' → K s → K s') (hp : p.Calls P) (hs : K s) :
    O.safe i p (fun _ => K) s := by
  induction p generalizing s with
  | ret a => exact fun s1 h1 => hrely s s1 h1 hs
  | call c k ih =>
    intro s1 h1 hinv r s2 hexec
    obtain ⟨hinv2, hothers, hK⟩ := hstep s1 s2 ⟨c, r⟩ hp.1 hinv (hrely s s1 h1 hs) hexec
    exact ⟨hinv2, hothers, ih r (hp.2 r) hK⟩

/-- The same, with what the program ends in. -/
theorem safe_of_yields {P : I.Call → Prop} {R : α → Prop} {s : S}
    (hstep : ∀ s s' e, P e.call → O.inv s → K s → sys.exec i s e s' → O.inv s' ∧ (∀ j, j ≠ i → O.rely j s s') ∧ K s')
    (hrely : ∀ s s', O.rely i s s' → K s → K s') (hp : p.Yields P R) (hs : K s) :
    O.safe i p (fun a s => R a ∧ K s) s := by
  induction p generalizing s with
  | ret a => exact fun s1 h1 => ⟨hp, hrely s s1 h1 hs⟩
  | call c k ih =>
    intro s1 h1 hinv r s2 hexec
    obtain ⟨hinv2, hothers, hK⟩ := hstep s1 s2 ⟨c, r⟩ hp.1 hinv (hrely s s1 h1 hs) hexec
    exact ⟨hinv2, hothers, ih r (hp.2 r) hK⟩

/-! ### Programs with memory of their own -/

/-- The same for a program with memory. -/
def safea (i : Nat) (m : Act I σ α) (Q : α → σ → S → Prop) (f : σ) (s : S) : Prop :=
  O.safe i (m f) (fun x s => Q x.1 x.2 s) s

variable {O}

theorem safea_mono {m : Act I σ α} {Q R : α → σ → S → Prop} {s : S} (h : O.safea i m Q f s)
    (hQR : ∀ a f s, Q a f s → R a f s) : O.safea i m R f s :=
  O.safe_mono h fun x s => hQR x.1 x.2 s

theorem safea_bind {m : Act I σ α} {n : α → Act I σ β} {Q : β → σ → S → Prop} {s : S}
    (h : O.safea i m (fun a f s => O.safea i (n a) Q f s) f s) : O.safea i (m >>= n) Q f s :=
  O.safe_bind h

theorem safea_seq {m : Act I σ α} {n : α → Act I σ β} {P : α → σ → S → Prop} {Q : β → σ → S → Prop}
    {s : S} (h : O.safea i m P f s) (hn : ∀ a f s, P a f s → O.safea i (n a) Q f s) :
    O.safea i (m >>= n) Q f s :=
  safea_bind (safea_mono h hn)

theorem safea_and {m : Act I σ α} {Q : α → σ → S → Prop} {s : S}
    (hK : ∀ j s s', K s → O.rely j s s' → K s') (h : O.safea i m Q f s) (hs : K s) :
    O.safea i m (fun a f s => Q a f s ∧ K s) f s :=
  O.safe_and hK h hs

theorem safea_ite {b : Prop} [Decidable b] {m n : Act I σ α} {Q : α → σ → S → Prop} {s : S}
    (hm : b → O.safea i m Q f s) (hn : ¬ b → O.safea i n Q f s) :
    O.safea i (if b then m else n) Q f s := by
  split
  · exact hm ‹_›
  · exact hn ‹_›

/-- What holds of a thread before holds after, whatever the others do. -/
def Upholds (O : Outline sys) (J : Nat → σ → S → Prop) (m : Act I σ α) : Prop :=
  ∀ i f s, J i f s → O.safea i m (fun _ f' s' => J i f' s') f s

namespace Upholds

variable {J : Nat → σ → S → Prop} {m : Act I σ α}

theorem bind {n : α → Act I σ β} (hm : O.Upholds J m) (hn : ∀ a, O.Upholds J (n a)) :
    O.Upholds J (m >>= n) :=
  fun i f s h => safea_seq (hm i f s h) fun a f' s' h' => hn a i f' s' h'

theorem ite {b : Prop} [Decidable b] {n : Act I σ α} (hm : O.Upholds J m) (hn : O.Upholds J n) :
    O.Upholds J (if b then m else n) := by
  split
  · exact hm
  · exact hn

end Upholds

/-! ### Programs that throw -/

section Throws

variable {ε : Type} {m : ExceptT ε (Prog I) α} {Q R : α → S → Prop} {E F : ε → S → Prop} {s : S}

/-- What is asked when a program returns, and when it throws. -/
def ended (Q : α → S → Prop) (E : ε → S → Prop) : Except ε α → S → Prop
  | .ok a, s => Q a s
  | .error e, s => E e s

/-- The same for a program that may throw. -/
def safex (O : Outline sys) (i : Nat) (m : ExceptT ε (Prog I) α) (Q : α → S → Prop)
    (E : ε → S → Prop) (s : S) : Prop :=
  O.safe i m.run (ended Q E) s

theorem safex_mono (h : O.safex i m Q E s) (hQR : ∀ a s, Q a s → R a s)
    (hEF : ∀ e s, E e s → F e s) : O.safex i m R F s :=
  O.safe_mono h fun r s => by
    cases r with
    | ok a => exact hQR a s
    | error e => exact hEF e s

theorem safex_bind {f : α → ExceptT ε (Prog I) β} {Q : β → S → Prop}
    (h : O.safex i m (fun a s => O.safex i (f a) Q E s)
      (fun e s => ∀ s', O.rely i s s' → E e s') s) :
    O.safex i (m >>= f) Q E s := by
  refine O.safe_bind (p := m.run) (O.safe_mono h fun r s => ?_)
  cases r with
  | ok a => exact id
  | error e => exact id

theorem safex_map {f : α → β} {Q : β → S → Prop}
    (h : O.safex i m (fun a s => ∀ s', O.rely i s s' → Q (f a) s')
      (fun e s => ∀ s', O.rely i s s' → E e s') s) :
    O.safex i (f <$> m) Q E s := by
  refine O.safe_bind (p := m.run) (O.safe_mono h fun r s => ?_)
  cases r with
  | ok a => exact id
  | error e => exact id

theorem safex_pure {a : α} (h : ∀ s', O.rely i s s' → Q a s') :
    O.safex i (pure a : ExceptT ε (Prog I) α) Q E s :=
  h

theorem safex_throw {e : ε} (h : ∀ s', O.rely i s s' → E e s') :
    O.safex i (throw e : ExceptT ε (Prog I) α) Q E s :=
  h

theorem safex_ite {b : Prop} [Decidable b] {n : ExceptT ε (Prog I) α}
    (hm : b → O.safex i m Q E s) (hn : ¬ b → O.safex i n Q E s) :
    O.safex i (if b then m else n) Q E s := by
  split
  · exact hm ‹_›
  · exact hn ‹_›

end Throws

end Outline

/-! ## Soundness -/

namespace Outline

variable {sys : System I S T A} (O : Outline sys)

/-- What the program of a task ends in. -/
def ending (i : Nat) : T ⊕ A → S → Prop
  | .inl t, s => O.pre i t s
  | .inr a, s => O.post i a s

structure Valid : Prop where
  start : ∀ {s s' : S} {t : T}, O.inv s → sys.start s t s' →
    O.inv s' ∧ (∀ j, O.rely j s s') ∧ ∀ i, O.pre i t s'
  body : ∀ {i : Nat} {t : T} {s : S}, O.inv s → O.pre i t s →
    O.safe i (sys.body t) (O.ending i) s

/-- The invariant holds and every thread may go on. -/
def Good (p : Pool I S T A) : Prop :=
  O.inv p.shared ∧ ∀ i program, p.threads[i]? = some program →
    O.safe i program (O.ending i) p.shared

variable {O}

variable {p q : Pool I S T A}

/-- A step keeps every thread safe, where a new thread may start its task. -/
theorem Good.next (hp : O.Good p) (h : sys.Step p q)
    (hstart : ∀ s' t, sys.start p.shared t s' → O.inv s' ∧ (∀ j, O.rely j p.shared s') ∧ O.pre p.threads.length t s')
    (hbody : ∀ i t s, O.inv s → O.pre i t s → O.safe i (sys.body t) (O.ending i) s) :
    O.Good q ∧ ∀ j, q.threads.length ≤ j → O.rely j p.shared q.shared := by
  obtain ⟨hinv, hsafe⟩ := hp
  cases h with
  | @start s s' threads t h =>
    obtain ⟨hinv', hrely, hpre⟩ := hstart s' t h
    refine ⟨⟨hinv', fun i program hi => ?_⟩, fun j _ => hrely j⟩
    rcases Nat.lt_or_ge i threads.length with hlt | hge
    · rw [List.getElem?_append_left hlt] at hi
      exact O.safe_of_rely (hsafe i program hi) (hrely i)
    · rw [List.getElem?_append_right hge] at hi
      obtain ⟨hle, rfl⟩ : i - threads.length = 0 ∧ sys.body t = program := by
        simpa [List.getElem?_cons, Nat.sub_eq_zero_iff_le] using hi
      obtain rfl : i = threads.length := by omega
      exact hbody _ t s' hinv' hpre
  | @call s s' threads i c k r hi h =>
    obtain ⟨hinv', hothers, hrest⟩ := hsafe i _ hi s (O.refl i s) hinv r s' h
    have hlt : i < threads.length := (List.getElem?_eq_some_iff.mp hi).1
    refine ⟨⟨hinv', fun j program hj => ?_⟩, fun j hj => hothers j ?_⟩
    · by_cases hji : i = j
      · subst hji
        rw [List.getElem?_set_self hlt] at hj
        cases hj
        exact hrest
      · rw [List.getElem?_set_ne hji] at hj
        exact O.safe_of_rely (hsafe j program hj) (hothers j (Ne.symm hji))
    · have hj : threads.length ≤ j := by simpa using hj
      omega
  | @again s threads i t hi =>
    have hpre : O.pre i t s := hsafe i _ hi s (O.refl i s)
    have hlt : i < threads.length := (List.getElem?_eq_some_iff.mp hi).1
    refine ⟨⟨hinv, fun j program hj => ?_⟩, fun j _ => O.refl j s⟩
    by_cases hji : i = j
    · subst hji
      rw [List.getElem?_set_self hlt] at hj
      cases hj
      exact hbody i t s hinv hpre
    · rw [List.getElem?_set_ne hji] at hj
      exact hsafe j program hj

theorem Good.step (hO : O.Valid) (hp : O.Good p) (h : sys.Step p q) :
    O.Good q ∧ ∀ j, q.threads.length ≤ j → O.rely j p.shared q.shared := by
  refine hp.next h (fun s' t hstart => ?_) fun _ _ _ => hO.body
  obtain ⟨hinv', hrely, hpre⟩ := hO.start hp.1 hstart
  exact ⟨hinv', hrely, hpre _⟩

/-- **Soundness.** Along every run every thread stays safe, and a thread that is
not there yet may rely on what has happened. -/
theorem Good.run (hO : O.Valid) (hp : O.Good p) (h : sys.Run p q) :
    O.Good q ∧ ∀ j, q.threads.length ≤ j → O.rely j p.shared q.shared := by
  induction h with
  | refl => exact ⟨hp, fun j _ => O.refl j _⟩
  | tail _ hstep ih =>
    obtain ⟨hgood, hrely⟩ := Good.step hO ih.1 hstep
    exact ⟨hgood, fun j hj => O.trans (ih.2 j (Nat.le_trans hstep.length_le hj)) (hrely j hj)⟩

/-- The same for an outline that knows how many threads there are. -/
structure Numbered (O : Outline sys) (count : S → Nat) : Prop where
  start : ∀ {s s' : S} {t : T}, O.inv s → sys.start s t s' →
    O.inv s' ∧ (∀ j, O.rely j s s') ∧ O.pre (count s) t s' ∧ count s' = count s + 1
  exec : ∀ {i : Nat} {s s' : S} {e : Event I}, sys.exec i s e s' → count s' = count s
  body : ∀ {i : Nat} {t : T} {s : S}, O.inv s → O.pre i t s →
    O.safe i (sys.body t) (O.ending i) s

theorem Good.run_numbered {count : S → Nat} (hO : O.Numbered count) (hp : O.Good p)
    (hcount : count p.shared = p.threads.length) (h : sys.Run p q) :
    O.Good q ∧ count q.shared = q.threads.length ∧
      ∀ j, q.threads.length ≤ j → O.rely j p.shared q.shared := by
  induction h with
  | refl => exact ⟨hp, hcount, fun j _ => O.refl j _⟩
  | @tail q q' _ hstep ih =>
    obtain ⟨hgood, hcount, hrely⟩ := ih
    have hnext := hgood.next hstep (fun s' t hstart => by
      obtain ⟨hinv', hrely', hpre, -⟩ := hO.start hgood.1 hstart
      exact ⟨hinv', hrely', hcount ▸ hpre⟩) fun _ _ _ => hO.body
    refine ⟨hnext.1, ?_, fun j hj => ?_⟩
    · cases hstep with
      | start h =>
        show count _ = _
        rw [(hO.start hgood.1 h).2.2.2]
        simpa using hcount
      | call hi h =>
        show count _ = _
        rw [hO.exec h]
        simpa using hcount
      | again hi => simpa using hcount
    · exact O.trans (hrely j (Nat.le_trans hstep.length_le hj)) (hnext.2 j hj)

/-- A thread that has answered has reached its postcondition, for good. -/
theorem Good.answered {p : Pool I S T A} (hp : O.Good p) {i : Nat} {a : A}
    (hi : p.threads[i]? = some (.ret (.inr a))) : O.post i a p.shared :=
  hp.2 i _ hi p.shared (O.refl i _)

end Outline

/-! ## Runs that are played -/

/-- The answer that a thread has left. -/
def Pool.answer (p : Pool I S T A) (i : Nat) : Option A :=
  match p.threads[i]? with
  | some (.ret (.inr a)) => some a
  | _ => none

theorem Pool.answer_eq_some {p : Pool I S T A} {i : Nat} {a : A} (h : p.answer i = some a) :
    p.threads[i]? = some (.ret (.inr a)) := by
  unfold answer at h
  split at h
  · cases h
    assumption
  · cases h

/-- A system that can be played: an environment decides the answers that are
left open. -/
structure Player (sys : System I S T A) (E : Type) where
  startTask : S → T → Option S
  respond : E → Nat → S → (c : I.Call) → Option (I.Answer c × S)
  starts : ∀ {s s' : S} {t : T}, startTask s t = some s' → sys.start s t s'
  executes : ∀ {e : E} {i : Nat} {s s' : S} {c : I.Call} {r : I.Answer c},
    respond e i s c = some (r, s') → sys.exec i s ⟨c, r⟩ s'

/-- A task is started, or a thread goes on for some steps under an environment. -/
inductive Move (T E : Type)
  | start (t : T)
  | go (i steps : Nat) (e : E)

namespace Player

variable {sys : System I S T A} {E : Type} (player : Player sys E)

/-- One thread goes on until it has to wait or has answered. -/
def go (i : Nat) (e : E) : Nat → Pool I S T A → Pool I S T A
  | 0, p => p
  | steps + 1, p =>
    match p.threads[i]? with
    | some (.call c k) =>
      match player.respond e i p.shared c with
      | some (r, s') => go i e steps ⟨s', p.threads.set i (k r)⟩
      | none => p
    | some (.ret (.inl t)) => go i e steps ⟨p.shared, p.threads.set i (sys.body t)⟩
    | _ => p

def move (p : Pool I S T A) : Move T E → Pool I S T A
  | .start t =>
    match player.startTask p.shared t with
    | some s' => ⟨s', p.threads ++ [sys.body t]⟩
    | none => p
  | .go i steps e => player.go i e steps p

def play (p : Pool I S T A) (moves : List (Move T E)) : Pool I S T A :=
  moves.foldl player.move p

theorem run_go (i : Nat) (e : E) (steps : Nat) (p : Pool I S T A) :
    sys.Run p (player.go i e steps p) := by
  induction steps generalizing p with
  | zero => exact .refl
  | succ steps ih =>
    unfold go
    split
    · rename_i c k hi
      split
      · rename_i r s' hrespond
        exact .head (.call hi (player.executes hrespond)) (ih _)
      · exact .refl
    · rename_i t hi
      exact .head (.again hi) (ih _)
    · exact .refl

theorem run_play (p : Pool I S T A) (moves : List (Move T E)) :
    sys.Run p (player.play p moves) := by
  induction moves generalizing p with
  | nil => exact .refl
  | cons move moves ih =>
    refine .trans ?_ (ih (player.move p move))
    cases move with
    | start t =>
      unfold Player.move
      dsimp only
      split
      · rename_i s' hstart
        exact .single (.start (player.starts hstart))
      · exact .refl
    | go i steps e => exact player.run_go i e steps p

end Player

end Effects
