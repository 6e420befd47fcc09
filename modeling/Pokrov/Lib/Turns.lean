import Pokrov.Lib.Pool

/-!
# Programs that leave the same wherever they throw

Rules for a program of a thread that may throw in the middle, where what holds
then is the same at every place: that its turn is still its own, for example.
-/

namespace Effects.Outline

variable {I : Interface} {S T A ε α β : Type} {sys : System I S T A} {O : Outline sys} {i : Nat}
  {s : S} {E : S → Prop}

/-- What the others leave alone. -/
def Stable (O : Outline sys) (i : Nat) (K : S → Prop) : Prop := ∀ s s', O.rely i s s' → K s → K s'

theorem Stable.and {K L : S → Prop} (hK : O.Stable i K) (hL : O.Stable i L) :
    O.Stable i fun s => K s ∧ L s :=
  fun s s' hrely h => ⟨hK s s' hrely h.1, hL s s' hrely h.2⟩

/-- The program ends in `Q`, or throws in `E`. -/
structure Turn (O : Outline sys) (i : Nat) (E : S → Prop) (m : ExceptT ε (Prog I) α)
    (Q : α → S → Prop) (s : S) : Prop where
  safe : O.safex i m Q (fun _ => E) s

namespace Turn

variable {m : ExceptT ε (Prog I) α} {Q R : α → S → Prop}

theorem bind {f : α → ExceptT ε (Prog I) β} {Q : β → S → Prop} (hE : O.Stable i E)
    (h : O.Turn i E m (fun a s => O.Turn i E (f a) Q s) s) : O.Turn i E (m >>= f) Q s := by
  constructor
  apply safex_bind
  exact safex_mono h.safe (fun _ _ h => h.safe) fun _ s h s' hrely => hE s s' hrely h

theorem ite {b : Prop} [Decidable b] {n : ExceptT ε (Prog I) α} (hm : b → O.Turn i E m Q s)
    (hn : ¬ b → O.Turn i E n Q s) : O.Turn i E (if b then m else n) Q s :=
  ⟨safex_ite (fun h => (hm h).safe) fun h => (hn h).safe⟩

theorem pure {a : α} {K : S → Prop} (hK : O.Stable i K) (hs : K s) (h : ∀ s', K s' → Q a s') :
    O.Turn i E (pure a : ExceptT ε (Prog I) α) Q s :=
  ⟨safex_pure fun s' hrely => h s' (hK s s' hrely hs)⟩

theorem throw {e : ε} (hE : O.Stable i E) (hs : E s) :
    O.Turn i E (throw e : ExceptT ε (Prog I) α) Q s :=
  ⟨safex_throw fun s' hrely => hE s s' hrely hs⟩

theorem attempt {x : Except ε α} {K : S → Prop} (hK : O.Stable i K) (hthrown : ∀ s, K s → E s)
    (hs : K s) (h : ∀ a s', x = .ok a → K s' → Q a s') :
    O.Turn i E (attempt x : ExceptT ε (Prog I) α) Q s := by
  constructor
  cases x with
  | ok a => exact fun s' hrely => h a s' rfl (hK s s' hrely hs)
  | error e => exact fun s' hrely => hthrown s' (hK s s' hrely hs)

/-- One call: it keeps the invariant and what the others rely on. -/
theorem call {c : I.Call} {Q : I.Answer c → S → Prop}
    (h : ∀ s1, O.rely i s s1 → O.inv s1 → ∀ r s2, sys.exec i s1 ⟨c, r⟩ s2 →
      O.inv s2 ∧ (∀ j, j ≠ i → O.rely j s1 s2) ∧ ∀ s3, O.rely i s2 s3 → Q r s3) :
    O.Turn i E (await c : ExceptT ε (Prog I) (I.Answer c)) Q s := by
  constructor
  intro s1 hrely hinv r s2 hexec
  exact h s1 hrely hinv r s2 hexec

end Turn

end Effects.Outline
