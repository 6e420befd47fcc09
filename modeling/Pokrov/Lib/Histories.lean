import Mathlib.Data.List.Induction

/-!
# Histories

A history is a list that grows at its end. `Since start stop` says that something
was started in it and not stopped after that.
-/

namespace Histories

variable {α : Type}

/-- A list that ends in one more, at one of its elements. -/
theorem eq_of_append_singleton {l before after : List α} {a b : α}
    (h : l ++ [b] = before ++ a :: after) :
    (after = [] ∧ a = b) ∨ ∃ rest, after = rest ++ [b] ∧ l = before ++ a :: rest := by
  rcases List.eq_nil_or_concat after with rfl | ⟨rest, last, rfl⟩
  · left
    have hsame := List.append_inj' h rfl
    exact ⟨rfl, (List.cons.inj hsame.2).1.symm⟩
  · right
    rw [List.concat_eq_append, ← List.cons_append, ← List.append_assoc] at h
    have hsame := List.append_inj' h rfl
    obtain rfl := (List.cons.inj hsame.2).1
    exact ⟨rest, List.concat_eq_append, hsame.1⟩

/-- Something was started, and nothing after it stops it. -/
def Since (start stop : α → Prop) (history : List α) : Prop :=
  ∃ before a after, history = before ++ a :: after ∧ start a ∧ ∀ b ∈ after, ¬ stop b

variable {start stop : α → Prop}

@[simp] theorem not_since_nil : ¬ Since start stop [] := by
  rintro ⟨before, a, after, h, -⟩
  cases before <;> cases h

@[simp] theorem since_append_singleton {history : List α} {a : α} :
    Since start stop (history ++ [a]) ↔ start a ∨ Since start stop history ∧ ¬ stop a := by
  constructor
  · rintro ⟨before, b, after, hsplit, hstart, hstop⟩
    rcases eq_of_append_singleton hsplit with ⟨-, rfl⟩ | ⟨rest, rfl, hbefore⟩
    · exact .inl hstart
    · right
      refine ⟨⟨before, b, rest, hbefore, hstart, fun c hc => ?_⟩, ?_⟩
      · exact hstop c (List.mem_append_left _ hc)
      · exact hstop a (List.mem_append_right _ List.mem_cons_self)
  · rintro (hstart | ⟨⟨before, b, after, rfl, hstart, hstop⟩, hlast⟩)
    · exact ⟨history, a, [], rfl, hstart, fun b hb => by cases hb⟩
    · refine ⟨before, b, after ++ [a], by simp, hstart, fun c hc => ?_⟩
      rcases List.mem_append.mp hc with hc | hc
      · exact hstop c hc
      · rw [List.mem_singleton.mp hc]
        exact hlast

end Histories
