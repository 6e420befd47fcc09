import Mathlib.Logic.Relation
import Mathlib.Tactic.Common

/-!
# Walks through two replaced nodes

A relation whose edges from two nodes are replaced. When the edges from all other nodes make no
cycle, whether there is one now, and whether the one node leads to the other, is decided by
walks over the other nodes only.
-/

namespace Walks

open Relation

variable {α : Type} {R : α → α → Prop} {r d : α}

/-- The edges from the other nodes. -/
def Off (R : α → α → Prop) (r d a b : α) : Prop := a ≠ r ∧ a ≠ d ∧ R a b

theorem lift {a b : α} (h : ReflTransGen (Off R r d) a b) : ReflTransGen R a b := by
  have hle : Off R r d ≤ R := fun _ _ hab => hab.2.2
  exact ReflTransGen.mono hle a b h

/-- A walk to one of the nodes comes to the first of them first, or to the second, and goes on
from there. -/
theorem first_hit {a c : α} (h : ReflTransGen R a c) (hc : c = r ∨ c = d) :
    ReflTransGen (Off R r d) a r ∨ (ReflTransGen (Off R r d) a d ∧ ReflTransGen R d c) := by
  induction h using ReflTransGen.head_induction_on with
  | refl =>
    rcases hc with rfl | rfl
    · exact .inl .refl
    · exact .inr ⟨.refl, .refl⟩
  | @head a b hab hbc ih =>
    by_cases har : a = r
    · rw [har]
      exact .inl .refl
    · by_cases had : a = d
      · rw [had] at hab ⊢
        exact .inr ⟨.refl, .head hab hbc⟩
      · have hoff : Off R r d a b := ⟨har, had, hab⟩
        exact ih.imp (.head hoff) fun h => ⟨.head hoff h.1, h.2⟩

/-- A walk keeps off the nodes or passes through one. -/
theorem off_or_through {a c : α} (h : TransGen R a c) : TransGen (Off R r d) a c ∨
    ∃ x, (x = r ∨ x = d) ∧ ReflTransGen R a x ∧ ReflTransGen R x c := by
  induction h with
  | single hab =>
    rename_i b
    by_cases ha : a = r ∨ a = d
    · exact .inr ⟨a, ha, .refl, .single hab⟩
    · rw [not_or] at ha
      exact .inl (.single ⟨ha.1, ha.2, hab⟩)
  | tail hab hbc ih =>
    rename_i b c
    rcases ih with hoff | ⟨x, hx, hax, hxb⟩
    · by_cases hb : b = r ∨ b = d
      · exact .inr ⟨b, hb, hab.to_reflTransGen, .single hbc⟩
      · rw [not_or] at hb
        exact .inl (hoff.tail ⟨hb.1, hb.2, hbc⟩)
    · exact .inr ⟨x, hx, hax, hxb.tail hbc⟩

/-- No cycle, and no walk from the second node to the first. -/
theorem acyclic_and_apart_iff (hoff : ∀ a, ¬ TransGen (Off R r d) a a) :
    ((∀ a, ¬ TransGen R a a) ∧ ¬ TransGen R d r) ↔
      (∀ b, R d b → ¬ ReflTransGen (Off R r d) b r ∧ ¬ ReflTransGen (Off R r d) b d) ∧
        ∀ b, R r b → ¬ ReflTransGen (Off R r d) b r := by
  constructor
  · rintro ⟨hacyclic, hapart⟩
    refine ⟨fun b hb => ⟨fun h => ?_, fun h => ?_⟩, fun b hb h => ?_⟩
    · exact hapart (.head' hb (lift h))
    · exact hacyclic d (.head' hb (lift h))
    · exact hacyclic r (.head' hb (lift h))
  · rintro ⟨hd, hr⟩
    have hleaves : ∀ {c}, c = r ∨ c = d → ¬ TransGen R d c := by
      intro c hc h
      obtain ⟨b, hb, hbc⟩ := TransGen.head'_iff.mp h
      rcases first_hit hbc hc with hit | ⟨hit, -⟩
      · exact (hd b hb).1 hit
      · exact (hd b hb).2 hit
    refine ⟨fun a ha => ?_, hleaves (.inl rfl)⟩
    obtain h | ⟨x, hx, hax, hxa⟩ := off_or_through (r := r) (d := d) ha
    · exact hoff a h
    · have hloop : TransGen R x x := (TransGen.trans_right hxa ha).trans_left hax
      rcases hx with rfl | rfl
      · obtain ⟨b, hb, hbx⟩ := TransGen.head'_iff.mp hloop
        rcases first_hit (d := d) hbx (.inl rfl) with hit | ⟨-, hdx⟩
        · exact hr b hb hit
        · rcases ReflTransGen.cases_head hdx with rfl | ⟨y, hdy, hyx⟩
          · exact hleaves (.inl rfl) hloop
          · exact hleaves (.inl rfl) (.head' hdy hyx)
      · exact hleaves (.inr rfl) hloop

end Walks
