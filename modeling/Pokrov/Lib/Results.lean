import Mathlib.Data.List.Forall2

/-!
# Loops that may fail

What a list that was mapped or folded says of its elements, when no element failed.
-/

namespace Results

variable {ε α β : Type}

variable {f : α → Except ε β} {as : List α}

theorem bind_eq_ok {x : Except ε α} {b : β} : (x >>= f) = .ok b ↔ ∃ a, x = .ok a ∧ f a = .ok b := by
  cases x with
  | error e =>
    constructor
    · intro h
      cases h
    · rintro ⟨a, h, -⟩
      cases h
  | ok a =>
    constructor
    · exact fun h => ⟨a, rfl, h⟩
    · rintro ⟨a', h, hf⟩
      cases h
      exact hf

theorem forM_eq_ok {f : α → Except ε Unit} (h : ∀ a ∈ as, f a = .ok ()) : as.forM f = .ok () := by
  induction as with
  | nil => rfl
  | cons a as ih =>
    have hrest := ih fun b hb => h b (List.mem_cons_of_mem _ hb)
    show (f a >>= fun _ => as.forM f) = .ok ()
    rw [h a List.mem_cons_self]
    exact hrest

theorem forall₂_of_mapM {bs : List β} (h : as.mapM f = .ok bs) :
    List.Forall₂ (fun a b => f a = .ok b) as bs := by
  induction as generalizing bs with
  | nil =>
    cases h
    exact .nil
  | cons a as ih =>
    rw [List.mapM_cons] at h
    obtain ⟨b, hb, h⟩ := bind_eq_ok.mp h
    obtain ⟨bs', hbs, h⟩ := bind_eq_ok.mp h
    cases h
    exact .cons hb (ih hbs)

/-- Each element has its image. -/
theorem exists_of_mapM {bs : List β} (h : as.mapM f = .ok bs) {a : α} (ha : a ∈ as) :
    ∃ b ∈ bs, f a = .ok b := by
  have hall := forall₂_of_mapM h
  clear h
  induction hall with
  | nil => cases ha
  | cons hab _ ih =>
    rcases List.mem_cons.mp ha with rfl | ha
    · exact ⟨_, List.mem_cons_self, hab⟩
    · obtain ⟨b, hb, hf⟩ := ih ha
      exact ⟨b, List.mem_cons_of_mem _ hb, hf⟩

/-- The invariant rule for a loop. -/
theorem foldlM_keeps {f : β → α → Except ε β} {P : β → Prop}
    (hstep : ∀ b, ∀ a ∈ as, ∀ b', P b → f b a = .ok b' → P b') {b b' : β} (hb : P b)
    (h : as.foldlM f b = .ok b') : P b' := by
  induction as generalizing b with
  | nil =>
    cases h
    exact hb
  | cons a as ih =>
    rw [List.foldlM_cons] at h
    obtain ⟨next, hnext, h⟩ := bind_eq_ok.mp h
    have hkept := hstep b a List.mem_cons_self next hb hnext
    exact ih (fun b a ha => hstep b a (List.mem_cons_of_mem _ ha)) hkept h

/-- Every round of a loop was passed. -/
theorem exists_of_foldlM {f : β → α → Except ε β} {b b' : β} (h : as.foldlM f b = .ok b') {a : α}
    (ha : a ∈ as) : ∃ c c', f c a = .ok c' := by
  induction as generalizing b with
  | nil => cases ha
  | cons first as ih =>
    rw [List.foldlM_cons] at h
    obtain ⟨next, hnext, h⟩ := bind_eq_ok.mp h
    rcases List.mem_cons.mp ha with rfl | ha
    · exact ⟨b, next, hnext⟩
    · exact ih h ha

end Results
