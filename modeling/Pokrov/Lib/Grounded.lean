import Mathlib.Data.List.Basic

/-!
# What rests on nothing else

A thing may be refused or need other things, and it is grounded when a finite
derivation shows so: the least fixed point of "not refused, and all it needs is
grounded". A search that only remembers the path it came by decides it, cycles or not.
-/

namespace Needs

variable {α : Type} {needs : α → Option (List α)} {check : List α → α → Prop}

/-- `needs a` is `none` when `a` is refused. -/
inductive Grounded (needs : α → Option (List α)) : α → Prop
  | of_needs {a : α} {ds : List α} (h : needs a = some ds) (hds : ∀ d ∈ ds, Grounded needs d) :
      Grounded needs a

/-- Grounded by a derivation that is no higher than this. -/
def Within (needs : α → Option (List α)) : Nat → α → Prop
  | 0, _ => False
  | n + 1, a => ∃ ds, needs a = some ds ∧ ∀ d ∈ ds, Within needs n d

theorem Within.succ {n : Nat} : ∀ {a : α}, Within needs n a → Within needs (n + 1) a := by
  induction n with
  | zero => exact fun h => h.elim
  | succ n ih =>
    rintro a ⟨ds, hneeds, hds⟩
    exact ⟨ds, hneeds, fun d hd => ih (hds d hd)⟩

theorem Within.mono {m n : Nat} (hmn : m ≤ n) {a : α} (h : Within needs m a) :
    Within needs n a := by
  induction hmn with
  | refl => exact h
  | step _ ih => exact ih.succ

theorem exists_within_all {ds : List α} (h : ∀ d ∈ ds, ∃ n, Within needs n d) :
    ∃ n, ∀ d ∈ ds, Within needs n d := by
  induction ds with
  | nil => exact ⟨0, by simp⟩
  | cons d ds ih =>
    obtain ⟨m, hm⟩ := h d List.mem_cons_self
    obtain ⟨n, hn⟩ := ih fun d hd => h d (List.mem_cons_of_mem _ hd)
    refine ⟨max m n, fun e he => ?_⟩
    rcases List.mem_cons.mp he with rfl | he
    · exact hm.mono (Nat.le_max_left m n)
    · exact (hn e he).mono (Nat.le_max_right m n)

theorem Grounded.exists_within {a : α} (h : Grounded needs a) : ∃ n, Within needs n a := by
  induction h with
  | of_needs hneeds _ ih =>
    obtain ⟨n, hn⟩ := exists_within_all ih
    exact ⟨n + 1, _, hneeds, hn⟩

/-- How a search goes that does not enter what is on its path already. -/
def Searches (needs : α → Option (List α)) (check : List α → α → Prop) : Prop :=
  ∀ path a, check path a ↔ a ∉ path ∧ ∃ ds, needs a = some ds ∧ ∀ d ∈ ds, check (a :: path) d

/-- The path that led here holds only what is higher than the thing itself, so a
shortest derivation never meets it. -/
theorem Searches.of_within (h : Searches needs check) {n : Nat} :
    ∀ {path : List α} {a : α}, (∀ v ∈ path, ¬ Within needs n v) → Within needs n a →
      check path a := by
  induction n with
  | zero => exact fun _ ha => ha.elim
  | succ n ih =>
    intro path a hpath ha
    by_cases hlower : Within needs n a
    · exact ih (fun v hv hw => hpath v hv hw.succ) hlower
    · obtain ⟨ds, hneeds, hds⟩ := ha
      have hfresh : a ∉ path := fun hmem => hpath a hmem ⟨ds, hneeds, hds⟩
      refine (h path a).mpr ⟨hfresh, ds, hneeds, fun d hd => ih ?_ (hds d hd)⟩
      intro v hv hw
      rcases List.mem_cons.mp hv with rfl | hv
      · exact hlower hw
      · exact hpath v hv hw.succ

/-- What a path has not met yet. -/
def unmet [DecidableEq α] (nodes path : List α) : List α := nodes.filter (· ∉ path)

theorem unmet_cons_lt [DecidableEq α] {nodes path : List α} {a : α} (ha : a ∈ nodes)
    (hfresh : a ∉ path) : (unmet nodes (a :: path)).length < (unmet nodes path).length := by
  have hsub : unmet nodes (a :: path) = (unmet nodes path).filter (· ≠ a) := by
    simp only [unmet, List.filter_filter]
    refine List.filter_congr fun b _ => ?_
    simp [not_or]
  have hmem : a ∈ unmet nodes path := by simp [unmet, ha, hfresh]
  rw [hsub]
  refine Nat.lt_of_le_of_ne (List.length_filter_le _ _) fun heq => ?_
  have hall := List.length_filter_eq_length_iff.mp heq a hmem
  simp at hall

/-- Only finitely many things are not refused, and the path grows with each of them. -/
theorem Searches.grounded (h : Searches needs check) {nodes : List α}
    (hnodes : ∀ a ds, needs a = some ds → a ∈ nodes) {path : List α} {a : α}
    (ha : check path a) : Grounded needs a := by
  classical
  induction hlen : (unmet nodes path).length using Nat.strongRecOn
    generalizing path a with
  | _ n ih =>
    subst hlen
    obtain ⟨hfresh, ds, hneeds, hds⟩ := (h path a).mp ha
    have hlt := unmet_cons_lt (hnodes a ds hneeds) hfresh
    exact .of_needs hneeds fun d hd => ih _ hlt (hds d hd) rfl

theorem Searches.iff_grounded (h : Searches needs check) {nodes : List α}
    (hnodes : ∀ a ds, needs a = some ds → a ∈ nodes) {a : α} :
    check [] a ↔ Grounded needs a := by
  constructor
  · exact fun ha => h.grounded hnodes ha
  · intro hg
    obtain ⟨n, hn⟩ := hg.exists_within
    exact h.of_within (by simp) hn

end Needs
