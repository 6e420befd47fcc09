import Mathlib.Data.List.Basic

/-!
# Command lines

How a Windows program reads the arguments after its name. Arguments end at a blank outside quotes.
Of the backslashes before a quote one of every two is kept, and the quote is a letter when one is
left over; other backslashes are letters. Two quotes in a quoted part are one letter.
-/

namespace CommandLine

/-- The letters that mean something. -/
structure Letters (α : Type) where
  quote : α
  backslash : α
  blank : α → Bool
  distinct : quote ≠ backslash

inductive Part
  | plain
  | quoted
  /-- The last letter was a quote that ended a quoted part. -/
  | closed
deriving DecidableEq

/-- What was read so far. -/
structure Reading (α : Type) where
  arguments : List (List α) := []
  current : Option (List α) := none
  part : Part := .plain
  backslashes : Nat := 0

/-- In a quoted part of an argument, after some backslashes. -/
def Reading.inQuotes {α : Type} (arguments : List (List α)) (argument : List α)
    (backslashes : Nat) : Reading α :=
  { arguments := arguments, current := some argument, part := .quoted, backslashes := backslashes }

namespace Letters

variable {α : Type} [DecidableEq α] (letters : Letters α)

def slashes (n : Nat) : List α := List.replicate n letters.backslash

/-- The argument in hand, with its last backslashes. -/
def ended (r : Reading α) : List (List α) :=
  (r.current.map (· ++ letters.slashes r.backslashes)).toList

def step (r : Reading α) (c : α) : Reading α :=
  let argument := r.current.getD []
  let outside := if r.part = .quoted then .quoted else .plain
  if c = letters.backslash then
    { r with current := some argument, part := outside, backslashes := r.backslashes + 1 }
  else if c = letters.quote then
    if r.backslashes % 2 = 1 then
      { r with
        current := some (argument ++ letters.slashes (r.backslashes / 2) ++ [c])
        backslashes := 0 }
    else if r.part = .closed then
      { r with current := some (argument ++ [c]), part := .quoted }
    else
      { r with
        current := some (argument ++ letters.slashes (r.backslashes / 2))
        part := if r.part = .quoted then .closed else .quoted
        backslashes := 0 }
  else if r.part ≠ .quoted ∧ letters.blank c then
    { arguments := r.arguments ++ letters.ended r }
  else
    { r with
      current := some (argument ++ letters.slashes r.backslashes ++ [c])
      part := outside
      backslashes := 0 }

def read (r : Reading α) (text : List α) : Reading α := text.foldl letters.step r

def arguments (text : List α) : List (List α) :=
  let r := letters.read {} text
  r.arguments ++ letters.ended r

/-! ## How a reading goes on -/

@[simp] theorem read_nil (r : Reading α) : letters.read r [] = r := rfl

@[simp] theorem read_append (r : Reading α) (text text' : List α) :
    letters.read r (text ++ text') = letters.read (letters.read r text) text' :=
  List.foldl_append

@[simp] theorem read_singleton (r : Reading α) (c : α) : letters.read r [c] = letters.step r c := rfl

variable {arguments : List (List α)} {argument : List α} {n : Nat}

theorem step_backslash : letters.step (.inQuotes arguments argument n) letters.backslash =
    Reading.inQuotes arguments argument (n + 1) := by
  simp [step, Reading.inQuotes]

theorem read_slashes (m : Nat) :
    letters.read (.inQuotes arguments argument n) (letters.slashes m) =
      Reading.inQuotes arguments argument (n + m) := by
  induction m generalizing n with
  | zero => rfl
  | succ m ih =>
    have hsplit : letters.slashes (m + 1) = [letters.backslash] ++ letters.slashes m := rfl
    rw [hsplit, read_append, read_singleton, step_backslash, ih, Nat.add_assoc, Nat.add_comm 1 m]

/-- Any other letter, with the backslashes before it. -/
theorem step_letter {c : α} (hquote : c ≠ letters.quote) (hbackslash : c ≠ letters.backslash) :
    letters.step (.inQuotes arguments argument n) c =
      Reading.inQuotes arguments (argument ++ letters.slashes n ++ [c]) 0 := by
  simp [step, Reading.inQuotes, hquote, hbackslash]

theorem step_quote_odd : letters.step (.inQuotes arguments argument (2 * n + 1))
    letters.quote = Reading.inQuotes arguments (argument ++ letters.slashes n ++ [letters.quote]) 0 := by
  have hhalf : (2 * n + 1) / 2 = n := by omega
  simp [step, Reading.inQuotes, letters.distinct, hhalf]

theorem step_quote_even : letters.step (.inQuotes arguments argument (2 * n)) letters.quote =
    { arguments := arguments, current := some (argument ++ letters.slashes n), part := .closed } := by
  simp [step, Reading.inQuotes, letters.distinct]

/-- A quote begins an argument. -/
theorem step_quote_first (arguments : List (List α)) :
    letters.step { arguments := arguments } letters.quote = Reading.inQuotes arguments [] 0 := by
  simp [step, Reading.inQuotes, letters.distinct, slashes]

end Letters

end CommandLine
