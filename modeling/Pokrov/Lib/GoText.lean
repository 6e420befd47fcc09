import Mathlib.Algebra.Group.Nat.Defs
import Mathlib.Algebra.Ring.Int.Defs
import Mathlib.Tactic.Common
import Mathlib.Data.List.TakeWhile

/-!
# Text functions of the Go standard library

The parts of `strings`, `strconv` and `fmt` that text-protocol code leans on,
over lists of characters. Patterns are written as Boolean matchers of the
whole text, which is what an anchored `regexp` matches.
-/

namespace GoText

/-! ## `unicode` and `strings` -/

/-- `unicode.IsSpace`. -/
def isSpace (c : Char) : Bool :=
  ('\t' ≤ c && c ≤ '\r') || c = ' ' || c = '\u0085' || c = '\u00A0' || c = '\u1680' ||
    ('\u2000' ≤ c && c ≤ '\u200A') || c = '\u2028' || c = '\u2029' || c = '\u202F' ||
    c = '\u205F' || c = '\u3000'

/-- Drops what satisfies `p` at both ends. -/
def trimBoth (p : Char → Bool) (s : List Char) : List Char :=
  ((s.dropWhile p).reverse.dropWhile p).reverse

/-- `strings.TrimSpace`. -/
def trimSpace (s : List Char) : List Char := trimBoth isSpace s

/-- `strings.Trim(s, "\"")`. -/
def trimQuotes (s : List Char) : List Char := trimBoth (· = '"') s

/-- Words so far in reverse, and the word being read. -/
def fieldsFrom : List Char → List Char → List (List Char)
  | [], [] => []
  | [], word => [word.reverse]
  | c :: rest, word =>
    if isSpace c then
      match word with
      | [] => fieldsFrom rest []
      | _ => word.reverse :: fieldsFrom rest []
    else fieldsFrom rest (c :: word)

/-- `strings.Fields`. -/
def fields (s : List Char) : List (List Char) := fieldsFrom s []

/-- `strings.TrimPrefix` where the text has the prefix, `none` where not. -/
def cutPrefix : List Char → List Char → Option (List Char)
  | [], s => some s
  | _ :: _, [] => none
  | p :: ps, c :: s => if p = c then cutPrefix ps s else none

/-! ## Character classes -/

def isDigit (c : Char) : Bool := '0' ≤ c && c ≤ '9'

def isAlphanumeric (c : Char) : Bool :=
  ('A' ≤ c && c ≤ 'Z') || ('a' ≤ c && c ≤ 'z') || isDigit c

def isLowerHex (c : Char) : Bool := isDigit c || ('a' ≤ c && c ≤ 'f')

/-- `^[class]{low,high}$`. -/
def matchesClass (cls : Char → Bool) (low high : Nat) (s : List Char) : Bool :=
  low ≤ s.length && s.length ≤ high && s.all cls

/-- `^prefix[class]+$`. -/
def matchesAfter (start : String) (cls : Char → Bool) (s : List Char) : Bool :=
  match cutPrefix start.toList s with
  | some rest => !rest.isEmpty && rest.all cls
  | none => false

/-! ## `strconv` and `fmt` -/

def digitValue (c : Char) : Nat := c.toNat - '0'.toNat

def hexValue (c : Char) : Option Nat :=
  if isDigit c then some (digitValue c)
  else if 'a' ≤ c && c ≤ 'f' then some (c.toNat - 'a'.toNat + 10)
  else if 'A' ≤ c && c ≤ 'F' then some (c.toNat - 'A'.toNat + 10)
  else none

def hexNumber (digits : List Char) : Option Nat :=
  digits.foldlM (fun n c => (hexValue c).map (n * 16 + ·)) 0

def decimalNumber (digits : List Char) : Nat :=
  digits.foldl (fun n c => n * 10 + digitValue c) 0

/-- `strconv.Atoi` on a 64-bit `int`. -/
def atoi (s : List Char) : Option Int :=
  let (negative, digits) := match s with
    | '-' :: rest => (true, rest)
    | '+' :: rest => (false, rest)
    | _ => (false, s)
  if digits.isEmpty || !digits.all isDigit then none
  else
    let n : Int := decimalNumber digits
    let value := if negative then -n else n
    if -(2 ^ 63) ≤ value && value < 2 ^ 63 then some value else none

/-- `strconv.Itoa` of a natural number. -/
def itoa (n : Nat) : String := String.ofList (Nat.toDigits 10 n)

/-- `%x`. -/
def hex (n : Nat) : String := String.ofList (Nat.toDigits 16 n)

/-- `%08x`. -/
def hex8 (n : Nat) : String :=
  let digits := Nat.toDigits 16 n
  String.ofList (List.replicate (8 - digits.length) '0' ++ digits)

def isScalar (n : Nat) : Bool := n < 0xD800 || (0xE000 ≤ n && n < 0x110000)

/-- Body of `strconv.Unquote` for double-quoted text, after the opening quote.
An escape for a byte above 0x7f is refused here: the result would not be text,
and no pattern in use accepts such a byte. -/
def unquoteFrom : Nat → List Char → Option (List Char)
  | 0, _ => none
  | _ + 1, ['"'] => some []
  | _ + 1, [] => none
  | fuel + 1, '\\' :: 'x' :: a :: b :: rest => do
      let n ← hexNumber [a, b]
      if n < 0x80 then (unquoteFrom fuel rest).map (Char.ofNat n :: ·) else none
  | fuel + 1, '\\' :: 'u' :: a :: b :: c :: d :: rest => do
      let n ← hexNumber [a, b, c, d]
      if isScalar n then (unquoteFrom fuel rest).map (Char.ofNat n :: ·) else none
  | fuel + 1, '\\' :: 'U' :: a :: b :: c :: d :: e :: f :: g :: h :: rest => do
      let n ← hexNumber [a, b, c, d, e, f, g, h]
      if isScalar n then (unquoteFrom fuel rest).map (Char.ofNat n :: ·) else none
  | fuel + 1, '\\' :: c :: rest =>
    match c with
    | 'a' => (unquoteFrom fuel rest).map ('\x07' :: ·)
    | 'b' => (unquoteFrom fuel rest).map ('\x08' :: ·)
    | 'f' => (unquoteFrom fuel rest).map ('\x0c' :: ·)
    | 'n' => (unquoteFrom fuel rest).map ('\n' :: ·)
    | 'r' => (unquoteFrom fuel rest).map ('\r' :: ·)
    | 't' => (unquoteFrom fuel rest).map ('\t' :: ·)
    | 'v' => (unquoteFrom fuel rest).map ('\x0b' :: ·)
    | '\\' => (unquoteFrom fuel rest).map ('\\' :: ·)
    | '"' => (unquoteFrom fuel rest).map ('"' :: ·)
    | _ =>
      match rest with
      | d :: e :: rest' =>
        if [c, d, e].all (fun o => '0' ≤ o && o ≤ '7') then
          let n := (digitValue c * 8 + digitValue d) * 8 + digitValue e
          if n < 0x80 then (unquoteFrom fuel rest').map (Char.ofNat n :: ·) else none
        else none
      | _ => none
  | fuel + 1, c :: rest =>
    if c = '"' || c = '\n' || c = '\\' then none
    else (unquoteFrom fuel rest).map (c :: ·)

/-- `strconv.Unquote` of double-quoted text. -/
def unquote : List Char → Option (List Char)
  | '"' :: rest => unquoteFrom (rest.length + 1) rest
  | _ => none

/-- `strconv.Quote` of text that needs no escape. -/
def quotePlain (s : String) : List Char := '"' :: s.toList ++ ['"']

/-! ## Facts -/

theorem cutPrefix_eq_some {p s rest : List Char} (h : cutPrefix p s = some rest) :
    s = p ++ rest := by
  induction p generalizing s with
  | nil => exact Option.some.inj h
  | cons a p ih =>
    cases s with
    | nil => cases h
    | cons c s =>
      unfold cutPrefix at h
      split at h
      · next hac => rw [hac, ih h, List.cons_append]
      · cases h

theorem matchesAfter_all {start : String} {cls p : Char → Bool} {s : List Char}
    (h : matchesAfter start cls s = true) (hstart : start.toList.all p = true)
    (hcls : ∀ c, cls c = true → p c = true) : s.all p = true := by
  unfold matchesAfter at h
  split at h
  · next rest hcut =>
      rw [cutPrefix_eq_some hcut, List.all_append, hstart, Bool.true_and, List.all_eq_true]
      simp only [Bool.and_eq_true, List.all_eq_true] at h
      exact fun c hc => hcls c (h.2 c hc)
  · cases h

theorem trimQuotes_quotePlain {s : String} (h : s.toList.all (· ≠ '"') = true) :
    trimQuotes (quotePlain s) = s.toList := by
  unfold trimQuotes trimBoth quotePlain
  generalize s.toList = l at h
  rw [List.all_eq_true] at h
  have hl : ∀ c ∈ l, ¬ decide (c = '"') = true := by
    intro c hc
    simpa using h c hc
  have hfront : List.dropWhile (fun c => decide (c = '"')) ('"' :: l ++ ['"']) =
      if l = [] then [] else l ++ ['"'] := by
    cases l with
    | nil => rfl
    | cons c l =>
      have := hl c List.mem_cons_self
      simp_all
  rw [hfront]
  split
  · next hnil => rw [hnil]; rfl
  · next hne =>
      rw [List.reverse_append]
      show (List.dropWhile _ ('"' :: l.reverse)).reverse = l
      rw [List.dropWhile_cons_of_pos (by simp), List.dropWhile_eq_self_iff.mpr ?_,
        List.reverse_reverse]
      intro hlen
      refine hl _ ?_
      exact List.mem_reverse.mp (List.getElem_mem _)

end GoText
