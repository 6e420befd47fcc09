import Pokrov.Lib.CommandLine
import Pokrov.Windows.Service.Machine

/-!
# The command line of the DPI child

`Quote` of `service_local_dpi.cpp`, over 16-bit letters. Read by the rules of Windows, what it
writes is one argument again.
-/

namespace Pokrov.Windows.Service

open CommandLine

abbrev WideText := List UInt16

def wideText (s : String) : WideText := s.toList.map fun c => UInt16.ofNat c.toNat

/-- The letters of a Windows command line. -/
def commandLetters : Letters UInt16 where
  quote := 34
  backslash := 92
  blank := fun u => u = 32 || u = 9
  distinct := by decide

/-- What was written, and the backslashes that wait. -/
structure Quoting where
  result : WideText
  backslashes : Nat

def Quoting.next (q : Quoting) (c : UInt16) : Quoting :=
  if c = 92 then { q with backslashes := q.backslashes + 1 }
  else
    { result := q.result ++ List.replicate (q.backslashes * if c = 34 then 2 else 1) 92 ++
        (if c = 34 then [92] else []) ++ [c]
      backslashes := 0 }

/-- `Quote`. -/
def quote (value : WideText) : WideText :=
  let q := value.foldl Quoting.next ⟨[34], 0⟩
  q.result ++ List.replicate (q.backslashes * 2) 92 ++ [34]

/-- The arguments that a program reads of a text that ends at its first NUL. -/
def argv (text : WideText) : List WideText := commandLetters.arguments (text.takeWhile (· ≠ 0))

/-! ## Reading what was quoted -/

/-- What was written reads as the value so far, but for the backslashes that wait. -/
structure Quoted (value : WideText) (q : Quoting) : Prop where
  reads : ∃ argument, value = argument ++ List.replicate q.backslashes 92 ∧
    commandLetters.read {} q.result = .inQuotes [] argument 0
  /-- No NUL is written. -/
  whole : 0 ∉ value → 0 ∉ q.result

theorem quoted_start : Quoted [] ⟨[34], 0⟩ where
  reads := ⟨[], rfl, commandLetters.step_quote_first []⟩
  whole _ := by decide

theorem Quoted.next {value : WideText} {q : Quoting} (h : Quoted value q) (c : UInt16) :
    Quoted (value ++ [c]) (q.next c) := by
  obtain ⟨argument, hvalue, hreads⟩ := h.reads
  have hwhole : 0 ∉ value ++ [c] → 0 ∉ q.result ∧ c ≠ 0 := by
    intro hnul
    simp only [List.mem_append, List.mem_singleton, not_or] at hnul
    exact ⟨h.whole hnul.1, fun hzero => hnul.2 hzero.symm⟩
  by_cases hbackslash : c = 92
  · subst hbackslash
    rw [Quoting.next, if_pos rfl]
    refine ⟨⟨argument, ?_, hreads⟩, fun hnul => (hwhole hnul).1⟩
    rw [hvalue, List.append_assoc, ← List.replicate_succ']
  · rw [Quoting.next, if_neg hbackslash]
    refine ⟨⟨value ++ [c], (List.append_nil _).symm, ?_⟩, fun hnul => ?_⟩
    · by_cases hquote : c = 34
      · -- the backslashes are doubled, and one more keeps the quote
        subst hquote
        have hslashes : List.replicate (q.backslashes * 2) 92 ++ [92] =
            commandLetters.slashes (2 * q.backslashes + 1) := by
          rw [Nat.mul_comm]
          exact (List.replicate_succ' ..).symm
        rw [if_pos rfl, if_pos rfl, List.append_assoc q.result, hslashes]
        rw [Letters.read_append, Letters.read_append, hreads, Letters.read_slashes, Nat.zero_add,
          Letters.read_singleton]
        rw [hvalue]
        exact commandLetters.step_quote_odd
      · rw [if_neg hquote, if_neg hquote, Nat.mul_one, List.append_nil]
        have hslashes : List.replicate q.backslashes 92 = commandLetters.slashes q.backslashes := rfl
        rw [hslashes, Letters.read_append, Letters.read_append, hreads, Letters.read_slashes,
          Nat.zero_add, Letters.read_singleton, hvalue]
        exact commandLetters.step_letter hquote hbackslash
    · obtain ⟨hresult, hzero⟩ := hwhole hnul
      by_cases hquote : c = 34 <;> simp [hresult, hquote, hzero.symm, List.mem_replicate]

/-- The loop keeps it. -/
theorem quoted_loop (value : WideText) : Quoted value (value.foldl Quoting.next ⟨[34], 0⟩) := by
  induction value using List.reverseRecOn with
  | nil => exact quoted_start
  | append_singleton value c ih =>
    rw [List.foldl_append]
    exact ih.next c

/-- The quoted value is one argument of the rules, wherever a text ends. -/
theorem arguments_quote (value : WideText) : commandLetters.arguments (quote value) = [value] := by
  obtain ⟨argument, hvalue, hreads⟩ := (quoted_loop value).reads
  let q := value.foldl Quoting.next ⟨[34], 0⟩
  have hslashes : List.replicate (q.backslashes * 2) 92 =
      commandLetters.slashes (2 * q.backslashes) := by
    rw [Nat.mul_comm]
    rfl
  have hread : commandLetters.read {} (quote value) =
      { current := some (argument ++ commandLetters.slashes q.backslashes), part := .closed } := by
    change commandLetters.read {} (q.result ++ List.replicate (q.backslashes * 2) 92 ++ [34]) = _
    rw [hslashes, Letters.read_append, Letters.read_append, hreads, Letters.read_slashes,
      Nat.zero_add, Letters.read_singleton]
    exact commandLetters.step_quote_even
  have hargument : value = argument ++ commandLetters.slashes q.backslashes := hvalue
  unfold Letters.arguments
  rw [hread, ← hargument]
  simp [Letters.ended, Letters.slashes]

theorem nul_notMem_quote {value : WideText} (h : 0 ∉ value) : 0 ∉ quote value := by
  have hresult := (quoted_loop value).whole h
  simp [quote, hresult, List.mem_replicate]

/-- **Quoting is exact.** Different values are quoted differently, and a value without NUL is read
back as the one argument. -/
theorem quote_exact : Function.Injective quote ∧ ∀ value : WideText, 0 ∉ value →
    argv (quote value) = [value] := by
  constructor
  · intro value value' heq
    have harguments := arguments_quote value
    rw [heq, arguments_quote value'] at harguments
    exact (List.cons.inj harguments).1.symm
  · intro value hnul
    have hwhole : (quote value).takeWhile (· ≠ 0) = quote value := by
      rw [List.takeWhile_eq_self_iff]
      intro u hu
      have hne : u ≠ 0 := fun hzero => nul_notMem_quote hnul (hzero ▸ hu)
      exact decide_eq_true hne
    rw [argv, hwhole]
    exact arguments_quote value

/-- A path that ends in a backslash and has a quote after another one. -/
theorem quote_exact_path : argv (quote (wideText "C:\\a b\\\"c\\")) = [wideText "C:\\a b\\\"c\\"] :=
  quote_exact.2 _ (by decide)

end Pokrov.Windows.Service
