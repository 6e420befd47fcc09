import Mathlib.Data.List.Basic
import Mathlib.Logic.Relation

/-!
# Saturation

Rules with a head and a body, and rounds over them: a round adds the head of every rule
whose body is there already. Rounds until one adds nothing come to what can be derived.
-/

namespace Saturation

variable {α : Type}

structure Rule (α : Type) where
  head : α
  body : List α

/-- What follows from a start by finitely many rules. -/
inductive Derives (rules : List (Rule α)) (start : α → Prop) : α → Prop
  | start {a : α} (h : start a) : Derives rules start a
  | rule {r : Rule α} (hr : r ∈ rules) (hbody : ∀ b ∈ r.body, Derives rules start b) :
      Derives rules start r.head

variable {rules rules' : List (Rule α)} {start : α → Prop}

variable {a : α} {known : List α}

/-- Rules that apply are enough of them. -/
theorem Derives.of_applied (h : ∀ r ∈ rules, (∀ b ∈ r.body, Derives rules start b) → r ∈ rules')
    (ha : Derives rules start a) : Derives rules' start a := by
  induction ha with
  | start ha => exact .start ha
  | rule hr hbody ih => exact .rule (h _ hr hbody) ih

/-- The body of a rule is below its head. -/
def Below (rules : List (Rule α)) (b a : α) : Prop := ∃ r ∈ rules, r.head = a ∧ b ∈ r.body

/-- With one rule for a head and none for the start, what is derived rests on nothing else. -/
theorem Derives.acc (hstart : ∀ a, start a → ∀ r ∈ rules, r.head ≠ a)
    (hheads : ∀ r ∈ rules, ∀ r' ∈ rules, r.head = r'.head → r = r') (ha : Derives rules start a) :
    Acc (Below rules) a := by
  induction ha with
  | start ha =>
    refine ⟨_, fun b hb => ?_⟩
    obtain ⟨r, hr, hhead, -⟩ := hb
    exact absurd hhead (hstart _ ha r hr)
  | rule hr hbody ih =>
    refine ⟨_, fun b hb => ?_⟩
    obtain ⟨r', hr', hhead, hb⟩ := hb
    rw [hheads _ hr' _ hr hhead] at hb
    exact ih b hb

theorem not_transGen_of_acc {r : α → α → Prop} (h : Acc r a) : ¬ Relation.TransGen r a a := by
  have hacc := h.transGen
  clear h
  induction hacc with
  | intro a _ ih => exact fun hloop => ih a hloop hloop

/-! ## Rounds -/

variable [DecidableEq α]

/-- One rule of a round. -/
def fire (known : List α) (r : Rule α) : List α :=
  if r.body.all (fun b => known.contains b) = true ∧ r.head ∉ known then known ++ [r.head]
  else known

def round (rules : List (Rule α)) (known : List α) : List α := rules.foldl fire known

/-- Rounds until one adds nothing. -/
def saturate (rules : List (Rule α)) : Nat → List α → List α
  | 0, known => known
  | n + 1, known =>
    let next := round rules known
    if next = known then known else saturate rules n next

theorem fire_eq_append (known : List α) (r : Rule α) :
    ∃ added, fire known r = known ++ added := by
  unfold fire
  split
  · exact ⟨_, rfl⟩
  · exact ⟨[], by simp⟩

theorem round_eq_append (rules : List (Rule α)) (known : List α) :
    ∃ added, round rules known = known ++ added := by
  induction rules generalizing known with
  | nil => exact ⟨[], by simp [round]⟩
  | cons r rules ih =>
    obtain ⟨first, hfirst⟩ := fire_eq_append known r
    obtain ⟨rest, hrest⟩ := ih (known ++ first)
    refine ⟨first ++ rest, ?_⟩
    rw [← List.append_assoc, ← hrest]
    simp [round, hfirst]

/-- A round that adds nothing has every head whose body is there. -/
theorem head_mem_of_round_eq (h : round rules known = known) {r : Rule α} (hr : r ∈ rules)
    (hbody : ∀ b ∈ r.body, b ∈ known) : r.head ∈ known := by
  induction rules with
  | nil => cases hr
  | cons first rules ih =>
    obtain ⟨added, hadded⟩ := fire_eq_append known first
    obtain ⟨rest, hrest⟩ := round_eq_append rules (known ++ added)
    have hsame : known ++ added ++ rest = known := by
      rw [← hrest, ← hadded]
      exact h
    have hnone : added = [] := by
      have := congrArg List.length hsame
      simp only [List.length_append] at this
      exact List.length_eq_zero_iff.mp (by omega)
    rw [hnone, List.append_nil] at hadded
    rcases List.mem_cons.mp hr with rfl | hr
    · by_contra hhead
      have hall : r.body.all (fun b => known.contains b) = true := by simpa using hbody
      rw [fire, if_pos ⟨hall, hhead⟩] at hadded
      simp at hadded
    · refine ih ?_ hr
      have hround : round (first :: rules) known = round rules (fire known first) := rfl
      rw [hround, hadded] at h
      exact h

theorem derives_of_mem_round (hknown : ∀ a ∈ known, Derives rules start a) {part : List (Rule α)}
    (hsome : ∀ r ∈ part, r ∈ rules) : ∀ a ∈ round part known, Derives rules start a := by
  induction part generalizing known with
  | nil => exact hknown
  | cons r part ih =>
    refine @ih (fire known r) ?_ fun r hr => hsome r (List.mem_cons_of_mem _ hr)
    intro a ha
    unfold fire at ha
    split at ha
    · next hfires =>
      rcases List.mem_append.mp ha with ha | ha
      · exact hknown a ha
      · obtain rfl := List.mem_singleton.mp ha
        refine .rule (hsome r List.mem_cons_self) fun b hb => hknown b ?_
        simpa using List.all_eq_true.mp hfires.1 b hb
    · exact hknown a ha

/-- The rules whose head is not there yet. -/
def missing (rules : List (Rule α)) (known : List α) : Nat :=
  rules.countP fun r => decide (r.head ∉ known)

theorem missing_le (rules : List (Rule α)) (known : List α) : missing rules known ≤ rules.length :=
  List.countP_le_length

theorem exists_added {part : List (Rule α)} (h : round part known ≠ known) :
    ∃ r ∈ part, r.head ∉ known ∧ r.head ∈ round part known := by
  induction part generalizing known with
  | nil => exact absurd rfl h
  | cons r part ih =>
    have hround : round (r :: part) known = round part (fire known r) := rfl
    by_cases hfires : r.body.all (fun b => known.contains b) = true ∧ r.head ∉ known
    · refine ⟨r, List.mem_cons_self, hfires.2, ?_⟩
      obtain ⟨rest, hrest⟩ := round_eq_append part (fire known r)
      rw [hround, hrest, fire, if_pos hfires]
      simp
    · have hsame : fire known r = known := if_neg hfires
      rw [hround, hsame] at h ⊢
      obtain ⟨r', hr', hnew⟩ := ih h
      exact ⟨r', List.mem_cons_of_mem _ hr', hnew⟩

theorem countP_lt_countP {β : Type} {p q : β → Bool} {l : List β}
    (hle : ∀ x ∈ l, q x = true → p x = true) {x : β} (hx : x ∈ l) (hp : p x = true)
    (hq : q x = false) : l.countP q < l.countP p := by
  induction l with
  | nil => cases hx
  | cons y l ih =>
    have hrest : l.countP q ≤ l.countP p :=
      List.countP_mono_left fun z hz => hle z (List.mem_cons_of_mem _ hz)
    rcases List.mem_cons.mp hx with rfl | hx
    · rw [List.countP_cons_of_pos hp, List.countP_cons_of_neg (by simp [hq])]
      omega
    · have hlt := ih (fun z hz => hle z (List.mem_cons_of_mem _ hz)) hx
      have hy := hle y List.mem_cons_self
      rw [List.countP_cons, List.countP_cons]
      grind

theorem missing_round_lt (h : round rules known ≠ known) :
    missing rules (round rules known) < missing rules known := by
  obtain ⟨r, hr, hnew, hadded⟩ := exists_added h
  obtain ⟨added, hround⟩ := round_eq_append rules known
  refine countP_lt_countP ?_ hr (by simpa using hnew) (by simpa using hadded)
  intro r' _ hmissing
  simp only [decide_eq_true_eq] at hmissing ⊢
  exact fun hknown => hmissing (by simp [hround, hknown])

/-- As many rounds as rules are enough. -/
theorem round_saturate {n : Nat} (h : missing rules known < n) :
    round rules (saturate rules n known) = saturate rules n known := by
  induction n generalizing known with
  | zero => exact absurd h (Nat.not_lt_zero _)
  | succ n ih =>
    unfold saturate
    by_cases hround : round rules known = known
    · simp [hround]
    · have hlt := missing_round_lt hround
      simpa [hround] using ih (by omega)

theorem saturate_eq_append (n : Nat) (known : List α) :
    ∃ added, saturate rules n known = known ++ added := by
  induction n generalizing known with
  | zero => exact ⟨[], by simp [saturate]⟩
  | succ n ih =>
    unfold saturate
    by_cases hround : round rules known = known
    · exact ⟨[], by simp [hround]⟩
    · obtain ⟨added, hadded⟩ := round_eq_append rules known
      obtain ⟨rest, hrest⟩ := ih (round rules known)
      refine ⟨added ++ rest, ?_⟩
      simp only [if_neg hround]
      rw [hrest, hadded, List.append_assoc]

/-- What the rounds come to is what can be derived. -/
theorem mem_saturate {n : Nat} (h : rules.length < n) :
    a ∈ saturate rules n known ↔ Derives rules (· ∈ known) a := by
  have hclosed : round rules (saturate rules n known) = saturate rules n known :=
    round_saturate (Nat.lt_of_le_of_lt (missing_le rules known) h)
  constructor
  · have hsound : ∀ (m : Nat) (part : List α), (∀ a ∈ part, Derives rules (· ∈ known) a) →
        ∀ a ∈ saturate rules m part, Derives rules (· ∈ known) a := by
      intro m
      induction m with
      | zero => exact fun part hsome => hsome
      | succ m ih =>
        intro part hsome a ha
        unfold saturate at ha
        simp only at ha
        split at ha
        · exact hsome a ha
        · exact ih _ (derives_of_mem_round hsome fun r hr => hr) a ha
    exact fun ha => hsound n known (fun a ha => .start ha) a ha
  · intro ha
    induction ha with
    | start ha =>
      obtain ⟨added, hadded⟩ : ∃ added, saturate rules n known = known ++ added :=
        saturate_eq_append n known
      rw [hadded]
      exact List.mem_append_left _ ha
    | rule hr _ ih => exact head_mem_of_round_eq hclosed hr ih

end Saturation
