import Mathlib.Data.List.Basic

/-!
# Scanning

What a pattern takes off the front of a text: a literal, as many letters of a class as
there are, or a part that may be missing. Each comes with what it does to a text that was
written for it.
-/

namespace Scanning

variable {α β : Type}

section

variable [DecidableEq α]

/-- Takes the expected letters off. -/
def literal : List α → List α → Option (List α)
  | [], input => some input
  | _ :: _, [] => none
  | e :: expected, u :: input => if e = u then literal expected input else none

@[simp] theorem literal_append (expected rest : List α) :
    literal expected (expected ++ rest) = some rest := by
  induction expected with
  | nil => rfl
  | cons e expected ih => simp [literal, ih]

end

/-- Takes as many letters of a class as there are, but at least one. -/
def many (p : α → Bool) (input : List α) : Option (List α × List α) :=
  if (input.takeWhile p).isEmpty then none else some (input.takeWhile p, input.dropWhile p)

/-- The text does not go on with a letter of the class. -/
def Ends (p : α → Bool) (rest : List α) : Prop := ∀ u ∈ rest.head?, p u = false

theorem takeWhile_append {p : α → Bool} {letters rest : List α} (hletters : ∀ u ∈ letters, p u = true)
    (hrest : Ends p rest) :
    (letters ++ rest).takeWhile p = letters ∧ (letters ++ rest).dropWhile p = rest := by
  induction letters with
  | nil =>
    cases rest with
    | nil => exact ⟨rfl, rfl⟩
    | cons u rest => simp [hrest u rfl]
  | cons u letters ih =>
    obtain ⟨htake, hdrop⟩ := ih fun x hx => hletters x (by simp [hx])
    simp [hletters u (by simp), htake, hdrop]

theorem many_append {p : α → Bool} {letters rest : List α} (hne : letters ≠ [])
    (hletters : ∀ u ∈ letters, p u = true) (hrest : Ends p rest) :
    many p (letters ++ rest) = some (letters, rest) := by
  obtain ⟨htake, hdrop⟩ := takeWhile_append hletters hrest
  simp [many, htake, hdrop, hne]

/-- A part that may be missing. -/
def optional (scan : List α → Option (β × List α)) (input : List α) : Option β × List α :=
  match scan input with
  | some (value, rest) => (some value, rest)
  | none => (none, input)

theorem optional_some {scan : List α → Option (β × List α)} {input rest : List α} {value : β}
    (h : scan input = some (value, rest)) : optional scan input = (some value, rest) := by
  simp [optional, h]

theorem optional_none {scan : List α → Option (β × List α)} {input : List α} (h : scan input = none) :
    optional scan input = (none, input) := by
  simp [optional, h]

/-- The last so many of a list. -/
def lastOf (n : Nat) (l : List α) : List α := l.drop (l.length - n)

/-- A queue of at most so many gives up its first for one more. -/
def addLast (n : Nat) (queue : List α) (value : α) : List α :=
  (if queue.length = n then queue.tail else queue) ++ [value]

theorem addLast_lastOf {n : Nat} (hn : 0 < n) (l : List α) (value : α) :
    addLast n (lastOf n l) value = lastOf n (l ++ [value]) := by
  unfold addLast lastOf
  by_cases hfull : n ≤ l.length
  · have hlength : (l.drop (l.length - n)).length = n := by
      simp
      omega
    rw [if_pos hlength, List.tail_drop, List.length_append, List.length_singleton,
      List.drop_append_of_le_length (by omega)]
    congr 2
    omega
  · have hall : l.length - n = 0 := by omega
    have hlength : ¬ (l.drop (l.length - n)).length = n := by
      rw [hall]
      simp
      omega
    rw [if_neg hlength, hall, List.length_append, List.length_singleton,
      show l.length + 1 - n = 0 by omega]
    rfl

end Scanning
