import Mathlib.Tactic.Common

/-!
# Effectful programs over an arbitrary environment

A program is a tree of calls. Each call leaves the program and comes back with
an answer the program does not choose, so one tree stands for every behaviour
of the environment: every failure, at every call, in every order. Memory that
is lost in a crash is threaded by `StateT`; whatever survives one is read off
the trace of answered calls.

The proof rules are those of a small rely-guarantee logic. A `Contract` folds
a ghost state along the trace, says which answers the environment may give
(`rely`) and what the program owes at each call (`guar`). `wp` is the weakest
precondition of a program under a contract, and `wp_steps` turns it into a
statement about every run, finished or cut off anywhere.
-/

namespace Effects

/-- The calls a program may make on its environment, with the type of each
answer. -/
structure Interface where
  Call : Type
  Answer : Call → Type

/-- One answered call. -/
structure Event (I : Interface) where
  call : I.Call
  answer : I.Answer call

instance {I : Interface} [DecidableEq I.Call] [∀ c, DecidableEq (I.Answer c)] :
    DecidableEq (Event I)
  | ⟨c, a⟩, ⟨c', a'⟩ =>
    if hc : c = c' then
      if ha : hc ▸ a = a' then isTrue (by subst hc ha; rfl)
      else isFalse (by rintro ⟨⟩; exact ha rfl)
    else isFalse fun h => hc (congrArg Event.call h)

inductive Prog (I : Interface) (α : Type) : Type
  | ret (a : α) : Prog I α
  | call (c : I.Call) (k : I.Answer c → Prog I α) : Prog I α

namespace Prog

variable {I : Interface} {α β : Type}

def bind : Prog I α → (α → Prog I β) → Prog I β
  | .ret a, f => f a
  | .call c k, f => .call c (fun r => bind (k r) f)

instance : Monad (Prog I) where
  pure := .ret
  bind := bind

@[simp] theorem ret_bind (a : α) (f : α → Prog I β) :
    ((.ret a : Prog I α) >>= f) = f a := rfl

@[simp] theorem pure_eq_ret (a : α) : (pure a : Prog I α) = .ret a := rfl

@[simp] theorem call_bind (c : I.Call) (k : I.Answer c → Prog I α)
    (f : α → Prog I β) :
    ((.call c k : Prog I α) >>= f) = .call c (fun r => k r >>= f) := rfl

end Prog

/-! ## Runs

`Steps p tr q`: the environment answered the calls of `tr` in turn and `q` is
what is left of `p`. A finished run ends in `ret`; a crash may stop at any
`q`. -/

inductive Steps {I : Interface} {α : Type} :
    Prog I α → List (Event I) → Prog I α → Prop
  | refl (p : Prog I α) : Steps p [] p
  | call {c : I.Call} {k : I.Answer c → Prog I α} (r : I.Answer c)
      {tr : List (Event I)} {q : Prog I α} (rest : Steps (k r) tr q) :
      Steps (.call c k) (⟨c, r⟩ :: tr) q

section Steps

variable {I : Interface} {α β : Type}

/-- The run against an environment that answers from what it has seen so far,
newest first. -/
def Prog.play (env : List (Event I) → (c : I.Call) → I.Answer c) :
    List (Event I) → Prog I α → List (Event I) × α
  | _, .ret a => ([], a)
  | seen, .call c k =>
    let e : Event I := ⟨c, env seen c⟩
    let rest := play env (e :: seen) (k (env seen c))
    (e :: rest.1, rest.2)

theorem steps_play (env : List (Event I) → (c : I.Call) → I.Answer c) (p : Prog I α)
    (seen : List (Event I)) : Steps p (p.play env seen).1 (.ret (p.play env seen).2) := by
  induction p generalizing seen with
  | ret a => exact .refl _
  | call c k ih => exact .call _ (ih _ _)

/-- The same for a program that returns a pair. -/
theorem steps_play_pair (env : List (Event I) → (c : I.Call) → I.Answer c) (p : Prog I (α × β)) :
    Steps p (p.play env []).1 (.ret ((p.play env []).2.1, (p.play env []).2.2)) :=
  steps_play env p []

end Steps

/-! ## Programs with memory -/

/-- A program with memory `σ`, lost when the run is cut off. -/
abbrev Act (I : Interface) (σ : Type) : Type → Type := StateT σ (Prog I)

section Act

variable {I : Interface} {σ τ α β : Type}

/-- Make one call. -/
def perform (c : I.Call) : Act I σ (I.Answer c) :=
  fun s => .call c (fun r => .ret (r, s))

/-- Run a program whose memory is one component of a larger one. -/
def zoom (get : σ → τ) (set : τ → σ → σ) (m : Act I τ α) : Act I σ α :=
  fun s => m (get s) >>= fun x => .ret (x.1, set x.2 s)

/-- Run only when the condition holds. -/
def onlyIf (b : Prop) [Decidable b] (m : Act I σ Unit) : Act I σ Unit := if b then m else pure ()

/-- Run one after another until one of them reports an error. -/
def untilError {ε ι : Type} (f : ι → Act I σ (Option ε)) :
    List ι → Act I σ (Option ε)
  | [] => pure none
  | i :: rest => do
      match ← f i with
      | some e => pure (some e)
      | none => untilError f rest

end Act

/-! ## Programs that throw -/

section Throws

variable {I : Interface} {ε α : Type}

/-- Make one call that does not throw. -/
def await (c : I.Call) : ExceptT ε (Prog I) (I.Answer c) := ExceptT.lift (.call c .ret)

/-- Go on with a value, or throw. -/
def attempt (value : Except ε α) : ExceptT ε (Prog I) α := ExceptT.mk (pure value)

/-- Make a last call, whether a program returns or throws. -/
def ensure (m : ExceptT ε (Prog I) α) (c : I.Call) : ExceptT ε (Prog I) α :=
  ExceptT.mk (m.run >>= fun r => .call c fun _ => .ret r)

end Throws

/-! ## Which calls a program makes -/

section Calls

variable {I : Interface} {ε α β : Type} {P : I.Call → Prop}

/-- Every call is one of `P`, whatever the environment answers. -/
def Prog.Calls (P : I.Call → Prop) : Prog I α → Prop
  | .ret _ => True
  | .call c k => P c ∧ ∀ r, (k r).Calls P

theorem Prog.Calls.bind {p : Prog I α} {f : α → Prog I β} (hp : p.Calls P)
    (hf : ∀ a, (f a).Calls P) : (p >>= f).Calls P := by
  induction p with
  | ret a => exact hf a
  | call c k ih => exact ⟨hp.1, fun r => ih r (hp.2 r)⟩

/-- Every call is one of `P`, and whatever is answered the program ends in `R`. -/
def Prog.Yields (P : I.Call → Prop) (R : α → Prop) : Prog I α → Prop
  | .ret a => R a
  | .call c k => P c ∧ ∀ r, (k r).Yields P R

theorem Prog.Yields.bind {p : Prog I α} {f : α → Prog I β} {R : α → Prop} {R' : β → Prop}
    (hp : p.Yields P R) (hf : ∀ a, R a → (f a).Yields P R') : (p >>= f).Yields P R' := by
  induction p with
  | ret a => exact hf a hp
  | call c k ih => exact ⟨hp.1, fun r => ih r (hp.2 r)⟩

theorem Prog.Yields.mono {p : Prog I α} {P' : I.Call → Prop} {R R' : α → Prop} (hp : p.Yields P R)
    (hP : ∀ c, P c → P' c) (hR : ∀ a, R a → R' a) : p.Yields P' R' := by
  induction p with
  | ret a => exact hR a hp
  | call c k ih => exact ⟨hP c hp.1, fun r => ih r (hp.2 r)⟩

/-- Where every run of the program ends. -/
theorem Prog.Yields.steps {p q : Prog I α} {R : α → Prop} (hp : p.Yields P R)
    {tr : List (Event I)} (hrun : Steps p tr q) : q.Yields P R := by
  induction hrun with
  | refl p => exact hp
  | call r _ ih => exact ih (hp.2 r)

/-- The same for a program that may throw. -/
abbrev Throwing.Calls (P : I.Call → Prop) (m : ExceptT ε (Prog I) α) : Prop := Prog.Calls P m.run

namespace Throwing.Calls

theorem bind {m : ExceptT ε (Prog I) α} {f : α → ExceptT ε (Prog I) β} (hm : Calls P m)
    (hf : ∀ a, Calls P (f a)) : Calls P (m >>= f) := by
  refine Prog.Calls.bind (p := m.run) hm fun r => ?_
  cases r with
  | ok a => exact hf a
  | error e => trivial

theorem await {c : I.Call} (hc : P c) : Calls P (await c : ExceptT ε (Prog I) (I.Answer c)) :=
  ⟨hc, fun _ => trivial⟩

theorem attempt (value : Except ε α) : Calls P (attempt value : ExceptT ε (Prog I) α) := trivial

theorem ensure {m : ExceptT ε (Prog I) α} {c : I.Call} (hm : Calls P m) (hc : P c) :
    Calls P (ensure m c) :=
  Prog.Calls.bind (p := m.run) hm fun _ => ⟨hc, fun _ => trivial⟩

end Throwing.Calls

end Calls

/-! ## Programs confined to some of the calls -/

/-- The calls of an interface that satisfy a predicate. -/
@[reducible] def Interface.sub (I : Interface) (P : I.Call → Prop) : Interface where
  Call := { c : I.Call // P c }
  Answer := fun c => I.Answer c.1

section Confined

variable {I : Interface} {P : I.Call → Prop} {σ τ α : Type}

def Prog.widen : Prog (I.sub P) α → Prog I α
  | .ret a => .ret a
  | .call c k => .call c.1 fun r => widen (k r)

/-- Run a confined program on one component of the memory. Its type alone says
that it makes no other call and leaves the rest of the memory. -/
def confined (get : σ → τ) (set : τ → σ → σ) (m : Act (I.sub P) τ α) : Act I σ α :=
  fun s => (m (get s)).widen >>= fun x => .ret (x.1, set x.2 s)

end Confined

/-! ## Contracts and weakest preconditions -/

structure Contract (I : Interface) (G : Type) where
  /-- How the ghost state moves when a call is answered. -/
  next : G → Event I → G
  /-- The answers the environment may give. -/
  rely : G → Event I → Prop
  /-- What the program owes at every call. -/
  guar : G → Event I → Prop

namespace Contract

variable {I : Interface} {G σ τ α β : Type} (C : Contract I G)

/-- The ghost state after a trace. -/
def after (g : G) (tr : List (Event I)) : G := tr.foldl C.next g

@[simp] theorem after_nil (g : G) : C.after g [] = g := rfl

@[simp] theorem after_cons (g : G) (e : Event I) (tr : List (Event I)) :
    C.after g (e :: tr) = C.after (C.next g e) tr := rfl

theorem after_append (g : G) (tr1 tr2 : List (Event I)) :
    C.after g (tr1 ++ tr2) = C.after (C.after g tr1) tr2 :=
  List.foldl_append

/-- `P` holds of every event of the trace, at the ghost state it meets. -/
def Along (P : G → Event I → Prop) : G → List (Event I) → Prop
  | _, [] => True
  | g, e :: tr => P g e ∧ Along P (C.next g e) tr

abbrev Relied (g : G) (tr : List (Event I)) : Prop := C.Along C.rely g tr

abbrev Guaranteed (g : G) (tr : List (Event I)) : Prop := C.Along C.guar g tr

variable {g : G} {tr : List (Event I)} {A : G → Prop} {m : Act I σ α} {s : σ} {Q : α → σ → G → Prop}

theorem along_append {P : G → Event I → Prop} {tr1 tr2 : List (Event I)} :
    C.Along P g (tr1 ++ tr2) ↔ C.Along P g tr1 ∧ C.Along P (C.after g tr1) tr2 := by
  induction tr1 generalizing g with
  | nil => simp [Along]
  | cons e tr ih => simp [Along, ih, and_assoc]

/-- What holds along a trace holds at each of its events. -/
theorem Along.at {P : G → Event I → Prop} {pre post : List (Event I)} {e : Event I}
    (h : C.Along P g (pre ++ e :: post)) : P (C.after g pre) e :=
  ((C.along_append).mp h).2.1

theorem along_of_mem {P : Event I → Prop} (g : G) (h : ∀ e ∈ tr, P e) :
    C.Along (fun _ e => P e) g tr := by
  induction tr generalizing g with
  | nil => trivial
  | cons e tr ih =>
    exact ⟨h e List.mem_cons_self, ih _ fun e' he' => h e' (List.mem_cons_of_mem _ he')⟩

theorem mem_of_along {P : Event I → Prop} (h : C.Along (fun _ e => P e) g tr) : ∀ e ∈ tr, P e := by
  induction tr generalizing g with
  | nil => exact nofun
  | cons e tr ih =>
    intro e' he'
    rcases List.mem_cons.mp he' with rfl | he'
    · exact h.1
    · exact ih h.2 e' he'

theorem along_of_forall {P : G → Event I → Prop} (h : ∀ g e, P g e) (g : G)
    (tr : List (Event I)) : C.Along P g tr := by
  induction tr generalizing g with
  | nil => trivial
  | cons e tr ih => exact ⟨h g e, ih _⟩

/-! ### Reading the ghost state back -/

/-- What every event keeps holds at the end. -/
theorem after_of_along {P : G → Event I → Prop} (hstep : ∀ g e, A g → P g e → A (C.next g e))
    (h : A g) (hP : C.Along P g tr) : A (C.after g tr) := by
  induction tr generalizing g with
  | nil => exact h
  | cons e tr ih => exact ih (hstep g e h hP.1) hP.2

/-- What no longer holds was ended by some event. -/
theorem exists_of_lost {P : Event I → Prop} (hstep : ∀ g e, A g → ¬ A (C.next g e) → P e) (h : A g)
    (hlost : ¬ A (C.after g tr)) : ∃ e ∈ tr, P e := by
  induction tr generalizing g with
  | nil => exact absurd h hlost
  | cons e tr ih =>
    by_cases hnext : A (C.next g e)
    · obtain ⟨e', hmem, hP⟩ := ih hnext hlost
      exact ⟨e', List.mem_cons_of_mem _ hmem, hP⟩
    · exact ⟨e, List.mem_cons_self, hstep g e h hnext⟩

/-- What holds now was there from the beginning or was set by a last event, and
nothing has broken it since. -/
theorem since {sets breaks : Event I → Prop}
    (hstep : ∀ g e, A (C.next g e) → sets e ∨ A g ∧ ¬ breaks e) (h : A (C.after g tr)) :
    (A g ∧ ∀ e ∈ tr, ¬ breaks e) ∨
      ∃ pre e post, tr = pre ++ e :: post ∧ sets e ∧ ∀ e' ∈ post, ¬ breaks e' := by
  induction tr generalizing g with
  | nil => exact .inl ⟨h, nofun⟩
  | cons e tr ih =>
    rcases ih h with ⟨hnext, hkept⟩ | ⟨pre, e', post, rfl, hset, hkept⟩
    · rcases hstep g e hnext with hset | ⟨hg, he⟩
      · exact .inr ⟨[], e, tr, rfl, hset, hkept⟩
      · refine .inl ⟨hg, fun e' hmem => ?_⟩
        rcases List.mem_cons.mp hmem with rfl | hmem
        · exact he
        · exact hkept e' hmem
    · exact .inr ⟨e :: pre, e', post, rfl, hset, hkept⟩

/-! ### Weakest preconditions -/

/-- Weakest precondition: however the environment answers within `rely`, every
call meets `guar` and every result meets `Q`. -/
def wp : Prog I α → (α → G → Prop) → G → Prop
  | .ret a, Q, g => Q a g
  | .call c k, Q, g =>
    ∀ r, C.rely g ⟨c, r⟩ →
      C.guar g ⟨c, r⟩ ∧ wp (k r) Q (C.next g ⟨c, r⟩)

theorem wp_mono {p : Prog I α} {Q R : α → G → Prop} (h : C.wp p Q g) (hQR : ∀ a g, Q a g → R a g) :
    C.wp p R g := by
  induction p generalizing g with
  | ret a => exact hQR a g h
  | call c k ih => exact fun r hr => ⟨(h r hr).1, ih r (h r hr).2⟩

theorem wp_bind {p : Prog I α} {f : α → Prog I β} {Q : β → G → Prop} :
    C.wp (p >>= f) Q g ↔ C.wp p (fun a g => C.wp (f a) Q g) g := by
  induction p generalizing g with
  | ret a => exact Iff.rfl
  | call c k ih =>
    constructor
    · exact fun h r hr => ⟨(h r hr).1, (ih r).mp (h r hr).2⟩
    · exact fun h r hr => ⟨(h r hr).1, (ih r).mpr (h r hr).2⟩

/-- **Adequacy.** Along every run, cut off anywhere, the program keeps its side
as long as the environment keeps its own, and what is left still has the same
weakest precondition. -/
theorem wp_steps {p q : Prog I α} {Q : α → G → Prop} (hwp : C.wp p Q g) (hrun : Steps p tr q)
    (hrely : C.Relied g tr) : C.Guaranteed g tr ∧ C.wp q Q (C.after g tr) := by
  induction hrun generalizing g with
  | refl p => exact ⟨trivial, hwp⟩
  | call r _ ih =>
    have hstep := hwp r hrely.1
    have hrest := ih hstep.2 hrely.2
    exact ⟨⟨hstep.1, hrest.1⟩, hrest.2⟩

/-! ### Rules for programs with memory -/

/-- Weakest precondition of a program with memory. -/
def wpa (m : Act I σ α) (Q : α → σ → G → Prop) (s : σ) (g : G) : Prop :=
  C.wp (m s) (fun x g => Q x.1 x.2 g) g

variable {C}

theorem wpa_mono {Q R : α → σ → G → Prop} (h : C.wpa m Q s g) (hQR : ∀ a s g, Q a s g → R a s g) :
    C.wpa m R s g :=
  C.wp_mono h fun x g => hQR x.1 x.2 g

@[simp] theorem wpa_pure {a : α} : C.wpa (pure a) Q s g ↔ Q a s g := Iff.rfl

@[simp] theorem wpa_bind {f : α → Act I σ β} {Q : β → σ → G → Prop} :
    C.wpa (m >>= f) Q s g ↔ C.wpa m (fun a s g => C.wpa (f a) Q s g) s g :=
  C.wp_bind

/-- After `m`, `P`; from `P`, what follows ends in `Q`. -/
theorem wpa_seq {f : α → Act I σ β} {P : α → σ → G → Prop} {Q : β → σ → G → Prop}
    (h : C.wpa m P s g) (hf : ∀ a s g, P a s g → C.wpa (f a) Q s g) : C.wpa (m >>= f) Q s g :=
  wpa_bind.mpr (wpa_mono h hf)

@[simp] theorem wpa_get {Q : σ → σ → G → Prop} : C.wpa get Q s g ↔ Q s s g := Iff.rfl

@[simp] theorem wpa_set {t : σ} {Q : PUnit → σ → G → Prop} :
    C.wpa (set t) Q s g ↔ Q ⟨⟩ t g := Iff.rfl

@[simp] theorem wpa_modify {f : σ → σ} {Q : PUnit → σ → G → Prop} :
    C.wpa (modify f) Q s g ↔ Q ⟨⟩ (f s) g := Iff.rfl

@[simp] theorem wpa_perform {c : I.Call} {Q : I.Answer c → σ → G → Prop} : C.wpa (perform c) Q s g ↔
      ∀ r, C.rely g ⟨c, r⟩ → C.guar g ⟨c, r⟩ ∧ Q r s (C.next g ⟨c, r⟩) :=
  Iff.rfl

/-- A call and what follows it. -/
theorem wpa_call {c : I.Call} {k : I.Answer c → Act I σ α}
    (h : ∀ r, C.rely g ⟨c, r⟩ → C.guar g ⟨c, r⟩ ∧ C.wpa (k r) Q s (C.next g ⟨c, r⟩)) :
    C.wpa (perform c >>= k) Q s g :=
  wpa_bind.mpr h

@[simp] theorem wpa_ite {b : Prop} [Decidable b] {m n : Act I σ α} :
    C.wpa (if b then m else n) Q s g ↔
      (b → C.wpa m Q s g) ∧ (¬ b → C.wpa n Q s g) := by
  by_cases hb : b <;> simp [hb]

@[simp] theorem wpa_zoom {get : σ → τ} {set : τ → σ → σ} {m : Act I τ α} :
    C.wpa (zoom get set m) Q s g ↔
      C.wpa m (fun a t g => Q a (set t s) g) (get s) g :=
  C.wp_bind

@[simp] theorem wpa_onlyIf {b : Prop} [Decidable b] {m : Act I σ Unit} {Q : Unit → σ → G → Prop} :
    C.wpa (onlyIf b m) Q s g ↔ (b → C.wpa m Q s g) ∧ (¬ b → Q () s g) :=
  wpa_ite

/-- What every answered call keeps, any program keeps. -/
theorem wpa_of_kept {J : G → Prop} (hstep : ∀ g e, J g → C.rely g e → C.guar g e ∧ J (C.next g e))
    (hJ : J g) : C.wpa m (fun _ _ g' => J g') s g := by
  unfold wpa
  generalize m s = p
  induction p generalizing g with
  | ret x => exact hJ
  | call c k ih =>
    intro r hr
    have h := hstep g ⟨c, r⟩ hJ hr
    exact ⟨h.1, ih r h.2⟩

/-- What holds before holds after, however the program goes. -/
def Keeps (C : Contract I G) (J : σ → G → Prop) (m : Act I σ α) : Prop :=
  ∀ s g, J s g → C.wpa m (fun _ s' g' => J s' g') s g

namespace Keeps

variable {J : σ → G → Prop}

theorem pure (a : α) : C.Keeps J (pure a : Act I σ α) := fun _ _ h => h

theorem get : C.Keeps J (MonadState.get : Act I σ σ) := fun _ _ h => h

theorem bind {f : α → Act I σ β} (hm : C.Keeps J m) (hf : ∀ a, C.Keeps J (f a)) :
    C.Keeps J (m >>= f) := by
  intro s g h
  exact wpa_seq (hm s g h) fun a s' g' h' => hf a s' g' h'

theorem map (f : α → β) (hm : C.Keeps J m) : C.Keeps J (f <$> m) := bind hm fun a => pure (f a)

theorem ite {b : Prop} [Decidable b] {m n : Act I σ α} (hm : C.Keeps J m) (hn : C.Keeps J n) :
    C.Keeps J (if b then m else n) := by
  split
  · exact hm
  · exact hn

end Keeps

/-- The contract as a confined program sees it. -/
def restrict (C : Contract I G) (P : I.Call → Prop) : Contract (I.sub P) G where
  next := fun g e => C.next g ⟨e.call.1, e.answer⟩
  rely := fun g e => C.rely g ⟨e.call.1, e.answer⟩
  guar := fun g e => C.guar g ⟨e.call.1, e.answer⟩

theorem wp_widen {P : I.Call → Prop} {p : Prog (I.sub P) α} {Q : α → G → Prop} :
    C.wp p.widen Q g ↔ (C.restrict P).wp p Q g := by
  induction p generalizing g with
  | ret a => exact Iff.rfl
  | call c k ih =>
    constructor
    · exact fun h r hr => ⟨(h r hr).1, (ih r).mp (h r hr).2⟩
    · exact fun h r hr => ⟨(h r hr).1, (ih r).mpr (h r hr).2⟩

theorem wpa_confined {P : I.Call → Prop} {get : σ → τ} {set : τ → σ → σ} {m : Act (I.sub P) τ α} :
    C.wpa (confined get set m) Q s g ↔
      (C.restrict P).wpa m (fun a t g' => Q a (set t s) g') (get s) g :=
  C.wp_bind.trans wp_widen

/-- Invariant rule for `untilError`: if every body keeps `J` while it reports
no error and leaves `Q` when it does, the whole run ends in `J` or `Q`. -/
theorem wpa_untilError {ε ι : Type} {f : ι → Act I σ (Option ε)}
    {J : List ι → σ → G → Prop} {Q : ε → σ → G → Prop} :
    ∀ (is : List ι),
      (∀ i rest s g, J (i :: rest) s g → C.wpa (f i) (fun r s g =>
        match r with
        | some e => Q e s g
        | none => J rest s g) s g) →
      ∀ s g, J is s g → C.wpa (untilError f is) (fun r s g =>
        match r with
        | some e => Q e s g
        | none => J [] s g) s g
  | [], _, _, _, hJ => hJ
  | i :: rest, hbody, s, g, hJ => by
      rw [untilError, wpa_bind]
      refine wpa_mono (hbody i rest s g hJ) ?_
      intro r s g hr
      cases r with
      | some e => exact hr
      | none => exact wpa_untilError rest hbody s g hr

/-! ### Static specifications

What a program may call and may return, whatever the environment does. Such a
fact carries over to any contract whose obligations every allowed call meets. -/

/-- The contract with no ghost state: every call is one of `P`. -/
def static (P : I.Call → Prop) : Contract I Unit where
  next := fun _ _ => ()
  rely := fun _ _ => True
  guar := fun _ e => P e.call

/-- **Simulation of contracts.** What a program does under one contract it does
under another whose environment is no freer and whose obligations follow. -/
theorem wpa_simulate {G' : Type} {D : Contract I G'} {R : G → G' → Prop} {g' : G'}
    (hstep : ∀ g g' e, R g g' → D.rely g' e → C.rely g e ∧ (C.guar g e → D.guar g' e ∧ R (C.next g e) (D.next g' e)))
    (hm : C.wpa m Q s g) (hsim : R g g') : D.wpa m (fun a s g' => ∃ g, Q a s g ∧ R g g') s g' := by
  unfold wpa at *
  generalize m s = p at *
  induction p generalizing g g' with
  | ret a => exact ⟨g, hm, hsim⟩
  | call c k ih =>
    intro r hr
    obtain ⟨hrely, hkeep⟩ := hstep g g' ⟨c, r⟩ hsim hr
    have h := hm r hrely
    have hnext := hkeep h.1
    exact ⟨hnext.1, ih r hnext.2 h.2⟩

theorem wpa_of_static {P : I.Call → Prop} {J : G → Prop} {R : α → σ → Unit → Prop}
    (hstep : ∀ g e, J g → P e.call → C.rely g e → C.guar g e ∧ J (C.next g e))
    (hm : (static P).wpa m R s ()) (hJ : J g) : C.wpa m (fun a s g => R a s () ∧ J g) s g := by
  have h := wpa_simulate (D := C) (R := fun _ g => J g)
    (fun _ g' e hg hr => ⟨trivial, fun hP => hstep g' e hg hP hr⟩) hm hJ
  exact wpa_mono h fun a s g ⟨_, hR, hg⟩ => ⟨hR, hg⟩

/-- Every call is one of `P` and the memory moves along `R`, whatever the
environment answers. -/
def Moves (P : I.Call → Prop) (R : σ → σ → Prop) (m : Act I σ α) : Prop :=
  ∀ s, (static P).wpa m (fun _ s' _ => R s s') s ()

namespace Moves

variable {P : I.Call → Prop} {R : σ → σ → Prop} [IsPreorder σ R]

theorem pure (a : α) : Moves P R (pure a : Act I σ α) := fun s => refl_of R s

theorem get : Moves P R (MonadState.get : Act I σ σ) := fun s => refl_of R s

theorem perform {c : I.Call} (hc : P c) : Moves P R (perform c : Act I σ (I.Answer c)) :=
  fun s _ _ => ⟨hc, refl_of R s⟩

variable {m : Act I σ α}

theorem bind {f : α → Act I σ β} (hm : Moves P R m) (hf : ∀ a, Moves P R (f a)) :
    Moves P R (m >>= f) := by
  intro s
  refine wpa_seq (hm s) fun a s' _ h => ?_
  exact wpa_mono (hf a s') fun _ s'' _ h' => trans_of R h h'

omit [IsPreorder σ R] in
theorem ite {b : Prop} [Decidable b] {m n : Act I σ α} (hm : Moves P R m) (hn : Moves P R n) :
    Moves P R (if b then m else n) := by
  split
  · exact hm
  · exact hn

omit [IsPreorder σ R] in
theorem modify {f : σ → σ} (h : ∀ s, R s (f s)) :
    Moves P R (MonadStateOf.modifyGet fun s => ((), f s) : Act I σ Unit) := h

theorem onlyIf {b : Prop} [Decidable b] {m : Act I σ Unit} (hm : Moves P R m) :
    Moves P R (onlyIf b m) :=
  ite hm (pure ())

omit [IsPreorder σ R] in
theorem mono {P' : I.Call → Prop} {R' : σ → σ → Prop} (hm : Moves P R m) (hP : ∀ c, P c → P' c)
    (hR : ∀ s s', R s s' → R' s s') : Moves P' R' m := by
  intro s
  refine wpa_mono (wpa_of_static (J := fun _ => True) ?_ (hm s) trivial) ?_
  · exact fun _ e _ he _ => ⟨hP e.call he, trivial⟩
  · exact fun _ s' _ h => hR s s' h.1

end Moves

/-- A program that moves the memory keeps what its calls keep. -/
theorem wpa_of_moves {P : I.Call → Prop} {R : σ → σ → Prop} {J : G → Prop} {m : Act I σ α}
    {s : σ} {g : G}
    (hstep : ∀ g e, J g → P e.call → C.rely g e → C.guar g e ∧ J (C.next g e))
    (hm : Moves P R m) (hJ : J g) : C.wpa m (fun _ s' g' => R s s' ∧ J g') s g :=
  wpa_of_static hstep (hm s) hJ

/-! ### Histories -/

/-- The contract whose ghost state is the trace itself. -/
def history (rely guar : Event I → Prop) : Contract I (List (Event I)) where
  next := fun tr e => tr ++ [e]
  rely := fun _ e => rely e
  guar := fun _ e => guar e

@[simp] theorem after_history {rely guar : Event I → Prop} (tr1 tr2 : List (Event I)) :
    (history rely guar).after tr1 tr2 = tr1 ++ tr2 := by
  induction tr2 generalizing tr1 with
  | nil => exact (List.append_nil tr1).symm
  | cons e tr ih =>
    rw [after_cons, ih]
    exact List.append_assoc tr1 [e] tr

/-- The contract that asks nothing and keeps the trace. -/
abbrev recording (I : Interface) : Contract I (List (Event I)) :=
  history (fun _ => True) (fun _ => True)

/-- Under it the precondition is about the finished runs themselves. -/
theorem wp_recording {p : Prog I α} {Q : α → List (Event I) → Prop} {g : List (Event I)} :
    (recording I).wp p Q g ↔ ∀ tr a, Steps p tr (.ret a) → Q a (g ++ tr) := by
  induction p generalizing g with
  | ret a =>
    constructor
    · intro h tr b hrun
      cases hrun
      rw [List.append_nil]
      exact h
    · intro h
      have hend := h [] a (.refl _)
      rwa [List.append_nil] at hend
  | call c k ih =>
    constructor
    · intro h tr b hrun
      cases hrun with
      | call r rest =>
        rw [List.append_cons]
        exact (ih r).mp (h r trivial).2 _ _ rest
    · intro h r _
      refine ⟨trivial, (ih r).mpr fun tr a hrun => ?_⟩
      have hend := h _ a (.call r hrun)
      rwa [List.append_cons] at hend

theorem wpa_recording {m : Act I σ α} {Q : α → σ → List (Event I) → Prop} {s : σ}
    {g : List (Event I)} :
    (recording I).wpa m Q s g ↔
      ∀ tr a s', Steps (m s) tr (.ret (a, s')) → Q a s' (g ++ tr) :=
  wp_recording.trans ⟨fun h tr a s' => h tr (a, s'), fun h tr x => h tr x.1 x.2⟩

end Contract

end Effects
