import Mathlib.Data.List.TakeWhile
import Pokrov.Dart.JsonSyntax

/-!
# A text is read in one way

The readers of `JsonSyntax` find the tokens that a text was made of and the value
that the tokens are those of. A text that can be read has one reading: the space,
the escapes, the digits and the repeated keys of it are determined.
-/

namespace Dart.JsonText

/-! ## Strings -/

theorem readPieces_append (pieces : List Piece) (hvalid : pieces.all Piece.isValid = true) (rest : Text) :
    readPieces (pieces.flatMap Piece.text ++ unit '"' :: rest) = some (pieces, rest) := by
  induction pieces with
  | nil =>
    rw [List.flatMap_nil, List.nil_append, readPieces.eq_def]
    exact if_pos rfl
  | cons piece pieces ih =>
    rw [List.all_cons, Bool.and_eq_true] at hvalid
    have hrest := ih hvalid.2
    rw [readPieces.eq_def]
    cases piece with
    | plain u =>
      have hu := hvalid.1
      simp only [Piece.isValid, decide_eq_true_eq] at hu
      simp only [List.flatMap_cons, Piece.text, List.cons_append, List.nil_append]
      rw [if_neg hu.2.1, if_neg hu.2.2, if_neg (UInt16.not_lt.mpr hu.1), hrest]
      rfl
    | short letter =>
      have hletter : letter ≠ unit 'u' := by
        rintro rfl
        exact absurd hvalid.1 (by decide)
      simp only [List.flatMap_cons, Piece.text, List.cons_append, List.nil_append]
      rw [if_neg (by decide), if_pos trivial, if_neg hletter, if_pos hvalid.1, hrest]
      rfl
    | code a b c d =>
      simp only [List.flatMap_cons, Piece.text, List.cons_append, List.nil_append]
      rw [if_neg (by decide), if_pos trivial, if_pos trivial, if_pos hvalid.1, hrest]
      rfl

/-! ## Integers -/

def decimal (n : Nat) : Text := text (toString n)

variable (n : Nat)

theorem unit_digitChar : unit (Nat.digitChar (n % 10)) = digit n := by
  have hall : ∀ k < 10, unit (Nat.digitChar k) = UInt16.ofNat (48 + k) := by decide
  exact hall (n % 10) (Nat.mod_lt n (by decide))

theorem decimal_eq : decimal n = if n < 10 then [digit n] else decimal (n / 10) ++ [digit n] := by
  have htext : ∀ k : Nat, decimal k = (Nat.toDigits 10 k).map unit := by
    intro k
    rw [decimal, text, Nat.toString_eq_ofList_toDigits, String.toList_ofList]
    rfl
  rw [htext, Nat.toDigits_eq_if (by decide)]
  split
  · rename_i hsmall
    rw [List.map_singleton, ← unit_digitChar, Nat.mod_eq_of_lt hsmall]
  · rw [List.map_append, List.map_singleton, unit_digitChar, htext]

theorem number_decimal : number (decimal n) = n := by
  induction n using Nat.strong_induction_on with
  | _ n ih =>
    rw [decimal_eq]
    split
    · rename_i hsmall
      rw [← List.nil_append [digit n], number_append, digitValue_digit, Nat.mod_eq_of_lt hsmall]
      exact Nat.zero_add n
    · rename_i hlarge
      rw [number_append, ih (n / 10) (by omega), digitValue_digit]
      omega

theorem all_decimal : (decimal n).all isDigit = true := by
  induction n using Nat.strong_induction_on with
  | _ n ih =>
    rw [decimal_eq]
    split
    · simp [isDigit_digit]
    · rename_i hlarge
      rw [List.all_append, ih (n / 10) (by omega), List.all_cons, isDigit_digit]
      rfl

/-- Only the number zero starts with a zero. -/
theorem head?_decimal {n : Nat} (h : 0 < n) : (decimal n).head? ≠ some (unit '0') ∧ decimal n ≠ [] := by
  induction n using Nat.strong_induction_on with
  | _ n ih =>
    rw [decimal_eq]
    split
    · rename_i hsmall
      refine ⟨fun hzero => ?_, by simp⟩
      have hdigit : (digit n).toNat = 48 := by rw [Option.some.inj hzero]; rfl
      rw [toNat_digit] at hdigit
      omega
    · rename_i hlarge
      have hrest := ih (n / 10) (by omega) (by omega)
      refine ⟨?_, by simp⟩
      rw [List.head?_append_of_ne_nil _ hrest.2]
      exact hrest.1

theorem isInteger_decimal : isInteger (decimal n) = true := by
  rcases Nat.eq_zero_or_pos n with rfl | hpos
  · decide
  · obtain ⟨hhead, hne⟩ := head?_decimal hpos
    simp [isInteger, hhead, hne]

theorem unsigned_decimal : unsigned (decimal n) = decimal n := by
  have hall := all_decimal n
  cases hdigits : decimal n with
  | nil => rfl
  | cons u rest =>
    rw [hdigits, List.all_cons, Bool.and_eq_true] at hall
    refine if_neg ?_
    rintro rfl
    exact absurd hall.1 (by decide)

theorem encodeInt_eq (n : Int) :
    encodeInt n = if n < 0 then unit '-' :: decimal n.natAbs else decimal n.natAbs := by
  unfold encodeInt
  split <;> rfl

theorem unsigned_encodeInt (n : Int) : unsigned (encodeInt n) = decimal n.natAbs := by
  rw [encodeInt_eq]
  split
  · simp [unsigned]
  · exact unsigned_decimal n.natAbs

theorem integerOf_encodeInt (n : Int) : integerOf (encodeInt n) = n := by
  rw [integerOf, unsigned_encodeInt, number_decimal, encodeInt_eq]
  split
  · rename_i hneg
    rw [List.head?_cons, if_pos rfl]
    omega
  · rename_i hpos
    have hsign : (decimal n.natAbs).head? ≠ some (unit '-') := by
      intro hsign
      have hall := all_decimal n.natAbs
      rw [List.all_eq_true] at hall
      exact absurd (hall _ (List.mem_of_head? hsign)) (by decide)
    rw [if_neg hsign, number_decimal]
    omega

/-- An integer of 64 bits is read from its digits. -/
theorem numeral_encodeInt {n : Int} (hlow : -2 ^ 63 ≤ n) (hhigh : n < 2 ^ 63) :
    numeral (encodeInt n) = .int n := by
  rw [numeral, unsigned_encodeInt, integerOf_encodeInt, if_pos ⟨all_decimal _, hlow, hhigh⟩]

theorem isValid_encodeInt (n : Int) : (Token.number (encodeInt n)).isValid = true := by
  have hall : ∀ u ∈ decimal n.natAbs, isDigit u = true := List.all_eq_true.mp (all_decimal n.natAbs)
  have hdigits : (decimal n.natAbs).takeWhile isDigit = decimal n.natAbs :=
    List.takeWhile_eq_self_iff.mpr hall
  have hrest : (decimal n.natAbs).dropWhile isDigit = [] := List.dropWhile_eq_nil_iff.mpr hall
  have hnumeral : isNumeral (encodeInt n) = true := by
    rw [isNumeral, unsigned_encodeInt, hdigits, hrest, isInteger_decimal]
    rfl
  have hunits : (encodeInt n).all isNumeralUnit = true := by
    have hdigit : (decimal n.natAbs).all isNumeralUnit = true :=
      List.all_eq_true.mpr fun u hu => by simp [isNumeralUnit, hall u hu]
    rw [encodeInt_eq]
    split
    · rw [List.all_cons, hdigit]
      rfl
    · exact hdigit
  rw [Token.isValid, hnumeral, hunits]
  rfl

/-! ## Tokens -/

theorem exists_cons_of_isNumeral {s : Text} (h : isNumeral s = true) :
    ∃ u rest, s = u :: rest ∧ (u = unit '-' ∨ isDigit u = true) := by
  cases s with
  | nil => exact absurd h (by decide)
  | cons u rest =>
    refine ⟨u, rest, rfl, ?_⟩
    by_cases hsign : u = unit '-'
    · exact .inl hsign
    · right
      by_contra hdigit
      rw [isNumeral, unsigned, if_neg hsign, List.takeWhile_cons_of_neg hdigit] at h
      exact absurd h (by simp [isInteger])

variable {token : Token} {spaced : List (Text × Token)} {last : Text}

/-- A token starts with a unit that is not space. Only numbers start like numbers. -/
theorem Token.exists_cons (h : token.isValid = true) :
    ∃ u rest, token.text = u :: rest ∧ isSpace u = false ∧ isNumeralUnit u = token.isNumber := by
  cases token with
  | number s =>
    simp only [Token.isValid, Bool.and_eq_true] at h
    obtain ⟨u, rest, rfl, hu⟩ := exists_cons_of_isNumeral h.1
    refine ⟨u, rest, rfl, ?_, ?_⟩
    · by_contra hspace
      simp only [isSpace, Bool.or_eq_true, decide_eq_true_eq, Bool.not_eq_false] at hspace
      rcases hspace with ((rfl | rfl) | rfl) | rfl <;> exact absurd hu (by decide)
    · rw [List.all_cons, Bool.and_eq_true] at h
      exact h.2.1
  | bool value => cases value <;> exact ⟨_, _, rfl, by decide, by decide⟩
  | string pieces => exact ⟨_, _, rfl, by decide, rfl⟩
  | _ => exact ⟨_, _, rfl, by decide, by decide⟩

theorem readWord_append (token : Token) (rest : Text) :
    readWord token (token.text ++ rest) = some (token, rest) := by
  have hstarts : token.text.isPrefixOf (token.text ++ rest) = true :=
    List.isPrefixOf_iff_prefix.mpr (List.prefix_append _ _)
  rw [readWord, if_pos hstarts, List.drop_left]

/-- The text does not go on like a number. -/
def Ends (rest : Text) : Prop := ∀ u ∈ rest.head?, isNumeralUnit u = false

theorem takeWhile_numeral {s rest : Text} (hs : s.all isNumeralUnit = true) (hrest : Ends rest) :
    (s ++ rest).takeWhile isNumeralUnit = s ∧ (s ++ rest).dropWhile isNumeralUnit = rest := by
  have hall : ∀ u ∈ s, isNumeralUnit u = true := List.all_eq_true.mp hs
  rw [List.takeWhile_append_of_pos hall, List.dropWhile_append_of_pos hall]
  cases rest with
  | nil => exact ⟨List.append_nil s, rfl⟩
  | cons u rest =>
    have hu : ¬ isNumeralUnit u = true := by
      rw [hrest u rfl]
      exact Bool.false_ne_true
    rw [List.takeWhile_cons_of_neg hu, List.dropWhile_cons_of_neg hu]
    exact ⟨List.append_nil s, rfl⟩

theorem readToken_number {s rest : Text} (hvalid : (Token.number s).isValid = true)
    (hrest : Ends rest) : readToken (s ++ rest) = some (.number s, rest) := by
  simp only [Token.isValid, Bool.and_eq_true] at hvalid
  obtain ⟨u, tail, rfl, hu⟩ := exists_cons_of_isNumeral hvalid.1
  have hother : ∀ v : UInt16, ¬ (v = unit '-' ∨ isDigit v = true) → u ≠ v := by
    rintro v hv rfl
    exact hv hu
  obtain ⟨htake, hdrop⟩ := takeWhile_numeral hvalid.2 hrest
  rw [List.cons_append] at htake hdrop ⊢
  rw [readToken, if_neg (hother _ (by decide)), if_neg (hother _ (by decide)),
    if_neg (hother _ (by decide)), if_neg (hother _ (by decide)), if_neg (hother _ (by decide)),
    if_neg (hother _ (by decide)), if_neg (hother _ (by decide)), if_neg (hother _ (by decide)),
    if_neg (hother _ (by decide)), if_neg (hother _ (by decide)), htake, hdrop, if_pos hvalid.1]

theorem readToken_append (hvalid : token.isValid = true) {rest : Text}
    (hrest : token.isNumber = true → Ends rest) :
    readToken (token.text ++ rest) = some (token, rest) := by
  cases token with
  | number s => exact readToken_number hvalid (hrest rfl)
  | string pieces =>
    have hread := readPieces_append pieces hvalid rest
    simp only [Token.text, List.cons_append, List.append_assoc, List.nil_append]
    rw [readToken, if_neg (by decide), if_neg (by decide), if_neg (by decide), if_neg (by decide),
      if_neg (by decide), if_neg (by decide), if_pos rfl, hread]
    rfl
  | null => exact readWord_append .null rest
  | bool value =>
    cases value with
    | false => exact readWord_append (.bool false) rest
    | true => exact readWord_append (.bool true) rest
  | _ => rfl

/-! ## Texts of tokens -/

/-- Tokens with the space before each, and what stands at the end. -/
def weave : List (Text × Token) → Text → Text
  | [], last => last
  | (space, token) :: rest, last => space ++ (token.text ++ weave rest last)

/-- Numbers do not stand side by side. -/
abbrev Apart (tokens : List Token) : Prop :=
  tokens.IsChain fun a b => ¬ (a.isNumber = true ∧ b.isNumber = true)

/-- Tokens and space that make up a text. -/
structure Woven (spaced : List (Text × Token)) (last : Text) : Prop where
  spaces : ∀ space ∈ spaced.map Prod.fst, space.all isSpace = true
  last : last.all isSpace = true
  valid : ∀ token ∈ spaced.map Prod.snd, token.isValid = true
  apart : Apart (spaced.map Prod.snd)

theorem Woven.tail {first : Text × Token} (h : Woven (first :: spaced) last) : Woven spaced last :=
  ⟨fun space hspace => h.spaces space (List.mem_cons_of_mem _ hspace), h.last,
    fun token htoken => h.valid token (List.mem_cons_of_mem _ htoken), h.apart.tail⟩

theorem ends_of_isSpace {u : UInt16} (h : isSpace u = true) : isNumeralUnit u = false := by
  simp only [isSpace, Bool.or_eq_true, decide_eq_true_eq] at h
  rcases h with ((rfl | rfl) | rfl) | rfl <;> decide

/-- What follows a number is space, or another token. -/
theorem Woven.ends {last space : Text} (h : Woven ((space, token) :: spaced) last)
    (hnumber : token.isNumber = true) : Ends (weave spaced last) := by
  intro u hu
  cases spaced with
  | nil =>
    cases last with
    | nil => cases hu
    | cons v last =>
      obtain rfl : v = u := Option.some.inj hu
      exact ends_of_isSpace (List.all_eq_true.mp h.last v List.mem_cons_self)
  | cons next spaced =>
    obtain ⟨between, next⟩ := next
    cases between with
    | nil =>
      obtain ⟨v, rest, htext, -, hstart⟩ := Token.exists_cons (h.valid next (by simp))
      have hnext : next.isNumber = false := by
        have hapart := h.apart.rel
        simpa [hnumber] using hapart
      rw [weave, htext] at hu
      obtain rfl : v = u := Option.some.inj hu
      rw [hstart, hnext]
    | cons v between =>
      obtain rfl : v = u := Option.some.inj hu
      have hspace := h.spaces (v :: between) (by simp)
      exact ends_of_isSpace (List.all_eq_true.mp hspace v List.mem_cons_self)

/-- The tokens of a text are those that it was made of. -/
theorem lex_weave (h : Woven spaced last) {fuel : Nat} (hfuel : spaced.length < fuel) :
    lex fuel (weave spaced last) = some (spaced.map Prod.snd) := by
  induction spaced generalizing fuel with
  | nil =>
    obtain ⟨fuel, rfl⟩ := Nat.exists_eq_succ_of_ne_zero (Nat.ne_of_gt hfuel)
    rw [weave, lex, List.dropWhile_eq_nil_iff.mpr (List.all_eq_true.mp h.last)]
    rfl
  | cons first spaced ih =>
    obtain ⟨space, token⟩ := first
    obtain ⟨fuel, rfl⟩ := Nat.exists_eq_succ_of_ne_zero (Nat.ne_of_gt (Nat.zero_lt_of_lt hfuel))
    have hvalid : token.isValid = true := h.valid token (by simp)
    obtain ⟨u, rest, htext, hspace, -⟩ := Token.exists_cons hvalid
    have hskip : (space ++ (token.text ++ weave spaced last)).dropWhile isSpace =
        u :: (rest ++ weave spaced last) := by
      rw [List.dropWhile_append_of_pos (List.all_eq_true.mp (h.spaces space (by simp))), htext,
        List.cons_append, List.dropWhile_cons_of_neg (by rw [hspace]; exact Bool.false_ne_true)]
    have hread : readToken (u :: (rest ++ weave spaced last)) = some (token, weave spaced last) := by
      rw [← List.cons_append, ← htext]
      exact readToken_append hvalid h.ends
    rw [weave, lex, hskip]
    simp only
    rw [hread]
    simp only
    rw [ih h.tail (Nat.lt_of_succ_lt_succ hfuel)]
    rfl

theorem length_le_weave (h : ∀ token ∈ spaced.map Prod.snd, token.isValid = true) :
    spaced.length ≤ (weave spaced last).length := by
  induction spaced with
  | nil => exact Nat.zero_le _
  | cons first spaced ih =>
    obtain ⟨space, token⟩ := first
    obtain ⟨u, rest, htext, -⟩ := Token.exists_cons (h token (by simp))
    have hrest := ih fun token htoken => h token (List.mem_cons_of_mem _ htoken)
    rw [weave, htext]
    simp only [List.length_cons, List.length_append]
    omega

/-- The space between the tokens is determined as well. -/
theorem weave_inj {spaced spaced' : List (Text × Token)} {last last' : Text} (h : Woven spaced last)
    (h' : Woven spaced' last') (htokens : spaced.map Prod.snd = spaced'.map Prod.snd)
    (hsame : weave spaced last = weave spaced' last') : spaced = spaced' ∧ last = last' := by
  induction spaced generalizing spaced' with
  | nil =>
    cases spaced' with
    | nil => exact ⟨rfl, hsame⟩
    | cons first' spaced' => cases htokens
  | cons first spaced ih =>
    cases spaced' with
    | nil => cases htokens
    | cons first' spaced' =>
      obtain ⟨space, token⟩ := first
      obtain ⟨space', token'⟩ := first'
      simp only [List.map_cons, List.cons.injEq] at htokens
      obtain ⟨rfl, htokens⟩ := htokens
      obtain ⟨u, rest, htext, hu, -⟩ := Token.exists_cons (h.valid token (by simp))
      have hspace : ∀ {space : Text} {tail : Text}, space.all isSpace = true →
          (space ++ (token.text ++ tail)).takeWhile isSpace = space := by
        intro space tail hall
        rw [List.takeWhile_append_of_pos (List.all_eq_true.mp hall), htext, List.cons_append,
          List.takeWhile_cons_of_neg (by rw [hu]; exact Bool.false_ne_true), List.append_nil]
      rw [weave, weave] at hsame
      have hspaces : space = space' := by
        rw [← hspace (h.spaces space (by simp)), hsame, hspace (h'.spaces space' (by simp))]
      subst hspaces
      have hrest := List.append_cancel_left (List.append_cancel_left hsame)
      obtain ⟨rfl, rfl⟩ := ih h.tail h'.tail htokens hrest
      exact ⟨rfl, rfl⟩

/-! ## Values -/

theorem Apart.append {tokens rest : List Token} (h : Apart tokens) (hrest : Apart rest)
    (htoken : token.isNumber = false) : Apart (tokens ++ token :: rest) := by
  refine List.isChain_append.mpr ⟨h, List.isChain_cons.mpr ⟨?_, hrest⟩, ?_⟩
  · intro next _
    simp [htoken]
  · intro before _ next hnext
    obtain rfl := Option.some.inj hnext
    simp [htoken]

theorem Apart.cons {rest : List Token} (h : Apart rest) (htoken : token.isNumber = false) :
    Apart (token :: rest) :=
  Apart.append List.isChain_nil h htoken

mutual

theorem Node.apart : ∀ node : Node, Apart node.tokens
  | .null => List.isChain_singleton _
  | .bool _ => List.isChain_singleton _
  | .number _ => List.isChain_singleton _
  | .string _ => List.isChain_singleton _
  | .list items => ((apart_items items).append List.isChain_nil rfl).cons rfl
  | .map fields => ((apart_fields fields).append List.isChain_nil rfl).cons rfl

theorem apart_items : ∀ items : List Node, Apart (itemTokens items)
  | [] => List.isChain_nil
  | [item] => item.apart
  | item :: next :: rest => item.apart.append (apart_items (next :: rest)) rfl

theorem apart_fields : ∀ fields : List (List Piece × Node), Apart (fieldTokens fields)
  | [] => List.isChain_nil
  | [(_, value)] => (value.apart.cons rfl).cons rfl
  | (_, value) :: next :: rest =>
    ((value.apart.append (apart_fields (next :: rest)) rfl).cons rfl).cons rfl

end

theorem Node.exists_cons (node : Node) :
    ∃ token rest, node.tokens = token :: rest ∧ token ≠ .closeBracket := by
  cases node <;> exact ⟨_, _, rfl, by simp⟩

theorem itemTokens_cons (item : Node) (rest : List Node) :
    ∃ tail, itemTokens (item :: rest) = item.tokens ++ tail := by
  cases rest with
  | nil => exact ⟨[], (List.append_nil _).symm⟩
  | cons next rest => exact ⟨_, rfl⟩

theorem readNode_openBracket {fuel : Nat} {token : Token} {rest : List Token}
    (h : token ≠ .closeBracket) : readNode (fuel + 1) (.openBracket :: token :: rest) =
      (readItems fuel (token :: rest)).map fun read => (.list read.1, read.2) := by
  cases token with
  | closeBracket => exact absurd rfl h
  | _ => rfl

theorem fieldTokens_cons (key : List Piece) (value : Node) (rest : List (List Piece × Node)) :
    ∃ tail, fieldTokens ((key, value) :: rest) = .string key :: tail := by
  cases rest with
  | nil => exact ⟨_, rfl⟩
  | cons next rest => exact ⟨_, rfl⟩

mutual

theorem readNode_tokens : ∀ (node : Node) (fuel : Nat) (rest : List Token),
    2 * node.tokens.length ≤ fuel → readNode fuel (node.tokens ++ rest) = some (node, rest)
  | .null, fuel + 1, rest, _ => rfl
  | .bool _, fuel + 1, rest, _ => rfl
  | .number _, fuel + 1, rest, _ => rfl
  | .string _, fuel + 1, rest, _ => rfl
  | .list [], fuel + 1, rest, _ => rfl
  | .map [], fuel + 1, rest, _ => rfl
  | .list (item :: items), fuel + 1, rest, hfuel => by
      have hlength : 2 * (itemTokens (item :: items)).length < fuel := by
        simp only [Node.tokens, List.length_cons, List.length_append, List.length_nil] at hfuel
        omega
      have hread := readItems_tokens item items fuel rest hlength
      obtain ⟨tail, htail⟩ := itemTokens_cons item items
      obtain ⟨token, more, htokens, hopen⟩ := item.exists_cons
      rw [htail, htokens] at hread
      rw [Node.tokens, htail, htokens]
      simp only [List.cons_append, List.append_assoc, List.nil_append] at hread ⊢
      rw [readNode_openBracket hopen, hread]
      rfl
  | .map ((key, value) :: fields), fuel + 1, rest, hfuel => by
      have hlength : 2 * (fieldTokens ((key, value) :: fields)).length < fuel := by
        simp only [Node.tokens, List.length_cons, List.length_append, List.length_nil] at hfuel
        omega
      have hread := readFields_tokens key value fields fuel rest hlength
      obtain ⟨tail, htail⟩ := fieldTokens_cons key value fields
      rw [htail] at hread
      rw [Node.tokens, htail]
      simp only [List.cons_append, List.append_assoc, List.nil_append] at hread ⊢
      rw [readNode.eq_def]
      simp only
      rw [hread]
      rfl
  | .null, 0, _, h => by simp [Node.tokens] at h
  | .bool _, 0, _, h => by simp [Node.tokens] at h
  | .number _, 0, _, h => by simp [Node.tokens] at h
  | .string _, 0, _, h => by simp [Node.tokens] at h
  | .list _, 0, _, h => by simp [Node.tokens] at h
  | .map _, 0, _, h => by simp [Node.tokens] at h

theorem readItems_tokens : ∀ (item : Node) (items : List Node) (fuel : Nat) (rest : List Token),
    2 * (itemTokens (item :: items)).length < fuel →
      readItems fuel (itemTokens (item :: items) ++ .closeBracket :: rest) = some (item :: items, rest)
  | item, [], fuel + 1, rest, hfuel => by
      have hread := readNode_tokens item fuel (.closeBracket :: rest) (Nat.le_of_lt_succ hfuel)
      rw [itemTokens, readItems, hread]
  | item, next :: items, fuel + 1, rest, hfuel => by
      simp only [itemTokens, List.length_append, List.length_cons] at hfuel
      have hread := readNode_tokens item fuel
        (.comma :: (itemTokens (next :: items) ++ .closeBracket :: rest)) (by omega)
      have hrest := readItems_tokens next items fuel rest (by omega)
      rw [itemTokens, List.append_assoc, List.cons_append, readItems, hread]
      simp only
      rw [hrest]
      rfl

theorem readFields_tokens : ∀ (key : List Piece) (value : Node) (fields : List (List Piece × Node))
    (fuel : Nat) (rest : List Token), 2 * (fieldTokens ((key, value) :: fields)).length < fuel →
      readFields fuel (fieldTokens ((key, value) :: fields) ++ .closeBrace :: rest) =
        some ((key, value) :: fields, rest)
  | key, value, [], fuel + 1, rest, hfuel => by
      simp only [fieldTokens, List.length_cons] at hfuel
      have hread := readNode_tokens value fuel (.closeBrace :: rest) (by omega)
      rw [fieldTokens, List.cons_append, List.cons_append, readFields, hread]
  | key, value, (next, nextValue) :: fields, fuel + 1, rest, hfuel => by
      simp only [fieldTokens, List.length_append, List.length_cons] at hfuel
      have hread := readNode_tokens value fuel
        (.comma :: (fieldTokens ((next, nextValue) :: fields) ++ .closeBrace :: rest)) (by omega)
      have hrest := readFields_tokens next nextValue fields fuel rest (by omega)
      rw [fieldTokens, List.cons_append, List.cons_append, List.append_assoc, List.cons_append,
        readFields, hread]
      simp only
      rw [hrest]
      rfl

end

theorem parse_tokens (node : Node) : parse node.tokens = some node := by
  have hread := readNode_tokens node _ [] (Nat.le_refl (2 * node.tokens.length))
  rw [List.append_nil] at hread
  rw [parse, hread]

/-! ## Keys -/

mutual

/-- No map of a value has a key twice. -/
def DistinctKeys : Document → Prop
  | .null => True
  | .bool _ => True
  | .int _ => True
  | .double _ => True
  | .string _ => True
  | .list items => DistinctItems items
  | .map fields => (Fields.keys fields).Nodup ∧ DistinctFields fields

def DistinctItems : List Document → Prop
  | [] => True
  | item :: rest => DistinctKeys item ∧ DistinctItems rest

def DistinctFields : Fields → Prop
  | [] => True
  | (_, value) :: rest => DistinctKeys value ∧ DistinctFields rest

end

theorem distinctFields_iff {fields : Fields} :
    DistinctFields fields ↔ ∀ field ∈ fields, DistinctKeys field.2 := by
  induction fields with
  | nil => simp [DistinctFields]
  | cons field rest ih => simp [DistinctFields, ih]

theorem keys_setField (fields : Fields) (key : Text) (value : Document) :
    Fields.keys (setField fields key value) =
      if key ∈ Fields.keys fields then Fields.keys fields else Fields.keys fields ++ [key] := by
  have hany : (fields.any fun field => decide (field.1 = key)) = true ↔ key ∈ Fields.keys fields := by
    simp only [List.any_eq_true, decide_eq_true_eq, Fields.keys, List.mem_map]
  unfold setField
  by_cases hkey : key ∈ Fields.keys fields
  · rw [if_pos (hany.mpr hkey), if_pos hkey, Fields.keys, List.map_map]
    refine List.map_congr_left fun field _ => ?_
    by_cases hsame : field.1 = key
    · simp [hsame]
    · simp [hsame]
  · rw [if_neg fun h => hkey (hany.mp h), if_neg hkey, Fields.keys, List.map_append]
    rfl

theorem distinct_setField {fields : Fields} {key : Text} {value : Document}
    (hkeys : (Fields.keys fields).Nodup) (hfields : DistinctFields fields) (hvalue : DistinctKeys value) :
    (Fields.keys (setField fields key value)).Nodup ∧ DistinctFields (setField fields key value) := by
  rw [distinctFields_iff] at hfields ⊢
  constructor
  · rw [keys_setField]
    split
    · exact hkeys
    · rename_i hnew
      exact List.nodup_append.mpr ⟨hkeys, List.pairwise_singleton _ _, by
        intro a ha b hb hsame
        rw [List.mem_singleton.mp hb] at hsame
        exact hnew (hsame ▸ ha)⟩
  · intro field hfield
    unfold setField at hfield
    split at hfield
    · obtain ⟨source, hsource, rfl⟩ := List.mem_map.mp hfield
      split
      · exact hvalue
      · exact hfields source hsource
    · rcases List.mem_append.mp hfield with hfield | hfield
      · exact hfields field hfield
      · rw [List.mem_singleton.mp hfield]
        exact hvalue

theorem distinct_numeral (s : Text) : DistinctKeys (numeral s) := by
  unfold numeral
  split <;> exact trivial

mutual

/-- The keys of a value that was read are distinct. -/
theorem Node.distinct_value : ∀ node : Node, DistinctKeys node.value
  | .null => trivial
  | .bool _ => trivial
  | .number s => distinct_numeral s
  | .string _ => trivial
  | .list items => distinct_itemValues items
  | .map fields => distinct_fieldValues fields List.nodup_nil trivial

theorem distinct_itemValues : ∀ items : List Node, DistinctItems (itemValues items)
  | [] => trivial
  | item :: rest => ⟨item.distinct_value, distinct_itemValues rest⟩

theorem distinct_fieldValues : ∀ (fields : List (List Piece × Node)) {before : Fields},
    (Fields.keys before).Nodup → DistinctFields before →
      (Fields.keys (fieldValues before fields)).Nodup ∧ DistinctFields (fieldValues before fields)
  | [], _, hkeys, hbefore => ⟨hkeys, hbefore⟩
  | (_, value) :: rest, _, hkeys, hbefore =>
    have hset := distinct_setField hkeys hbefore value.distinct_value
    distinct_fieldValues rest hset.1 hset.2

end

theorem distinct_jsonDecode {s : Text} {value : Document} (h : jsonDecode s = some value) :
    DistinctKeys value := by
  obtain ⟨tokens, -, htokens⟩ := Option.bind_eq_some_iff.mp h
  obtain ⟨node, -, rfl⟩ := Option.map_eq_some_iff.mp htokens
  exact node.distinct_value

/-! ## Readings -/

/-- A way to read a text. -/
structure Reading where
  node : Node
  spaced : List (Text × Token)
  last : Text
  tokens : spaced.map Prod.snd = node.tokens
  spaces : ∀ space ∈ spaced.map Prod.fst, space.all isSpace = true
  lastSpace : last.all isSpace = true
  valid : ∀ token ∈ node.tokens, token.isValid = true

namespace Reading

def text (reading : Reading) : Text := weave reading.spaced reading.last

variable (reading : Reading)

theorem woven : Woven reading.spaced reading.last := by
  refine ⟨reading.spaces, reading.lastSpace, ?_, ?_⟩
  · rw [reading.tokens]
    exact reading.valid
  · rw [reading.tokens]
    exact reading.node.apart

theorem lex_text : lex (reading.text.length + 1) reading.text = some reading.node.tokens := by
  rw [← reading.tokens]
  exact lex_weave reading.woven (Nat.lt_succ_of_le (length_le_weave reading.woven.valid))

theorem jsonDecode_text : jsonDecode reading.text = some reading.node.value := by
  rw [jsonDecode, reading.lex_text, Option.bind_some, parse_tokens]
  rfl

/-- A text is read in one way. -/
theorem unique {reading other : Reading} (h : reading.text = other.text) :
    reading.node = other.node ∧ reading.spaced = other.spaced ∧ reading.last = other.last := by
  have htokens : reading.node.tokens = other.node.tokens := by
    have hlex := reading.lex_text
    rw [h, other.lex_text] at hlex
    exact (Option.some.inj hlex).symm
  have hnode : some reading.node = some other.node := by
    rw [← parse_tokens reading.node, htokens, parse_tokens]
  have hspaced := weave_inj reading.woven other.woven
    (reading.tokens.trans (htokens.trans other.tokens.symm)) h
  exact ⟨Option.some.inj hnode, hspaced⟩

end Reading

end Dart.JsonText
