import UiScaffold.Json.Token
import UiScaffold.Json.Writer
import UiScaffold.Proofs.Json.Quoted

/-!
Literals that are read back.

A quoted text is read up to its own closing quote and gives the text that was quoted. An integer is
read up to what stands after it, as long as that could not go on with the number.
-/

set_option autoImplicit false
set_option relaxedAutoImplicit false

namespace UiScaffold.Json

private theorem quotedToken_quoteChars (text : String) (rest : List Char) :
    quotedToken (text.toList.flatMap escapeChar ++ '\"' :: rest) =
      (.quoted (.ok text), some rest) := by
  have read := (Contents.escaped text.toList).readQuoted [] rest
  simp only [List.reverse_nil, List.nil_append, String.ofList_toList] at read
  simp [quotedToken, read]

/-- A text does not go on with a number. -/
def EndsNumber (rest : List Char) : Prop :=
  ∀ c ∈ rest.head?, c.isDigit = false ∧ c ≠ '.' ∧ isExponentMark c = false

theorem zero_of_toDigits {n : Nat} {rest : List Char}
    (h : Nat.toDigits 10 n = '0' :: rest) : n = 0 := by
  induction n using Nat.strongRecOn generalizing rest with
  | ind n ih =>
    rcases Nat.lt_or_ge n 10 with small | large
    · rw [Nat.toDigits_of_lt_base small] at h
      have digit : ∀ n < 10, n.digitChar = '0' → n = 0 := by decide
      exact digit n small (List.cons.inj h).1
    · rw [Nat.toDigits_of_base_le (by decide) large] at h
      obtain ⟨front, split⟩ : ∃ front, Nat.toDigits 10 (n / 10) = '0' :: front := by
        cases upper : Nat.toDigits 10 (n / 10) with
        | nil => exact absurd upper Nat.toDigits_ne_nil
        | cons c front =>
          rw [upper, List.cons_append] at h
          exact ⟨front, by rw [(List.cons.inj h).1]⟩
      have := ih (n / 10) (by omega) split
      omega

private theorem absorb_eq {limit start : Nat} {digits : List Char}
    (h : Nat.ofDigitChars 10 digits start < limit) :
    absorb limit start digits = (Nat.ofDigitChars 10 digits start, []) := by
  induction digits generalizing start with
  | nil => rfl
  | cons d digits ih =>
    rw [Nat.ofDigitChars_cons, Nat.mul_comm] at h ⊢
    -- A number only grows with the digits after it, so that every part of it is below the limit.
    have grows : start * 10 + (d.toNat - '0'.toNat) ≤
        Nat.ofDigitChars 10 digits (start * 10 + (d.toNat - '0'.toNat)) := by
      rw [Nat.ofDigitChars_eq_ofDigitChars_zero]
      have positive : 0 < 10 ^ digits.length := Nat.pow_pos (by decide)
      exact Nat.le_add_right_of_le (Nat.le_mul_of_pos_left _ positive)
    rw [absorb, if_pos (Nat.lt_of_le_of_lt grows h), ih h]

private theorem absorb_toDigits {limit n : Nat} (h : n < limit) :
    absorb limit 0 (Nat.toDigits 10 n) = (n, []) := by
  have value : Nat.ofDigitChars 10 (Nat.toDigits 10 n) 0 = n := Nat.ofDigitChars_ten_toDigits
  rw [absorb_eq (by rwa [value]), value]

private theorem isDigit_of_mem {n : Nat} {c : Char} (h : c ∈ Nat.toDigits 10 n) :
    c.isDigit = true :=
  Nat.isDigit_of_mem_toDigits (by decide) (by decide) h

private theorem finishNumber_of_ends {negative : Bool} {n : Nat} {rest : List Char}
    (small : n < twoTo 64) (ends : EndsNumber rest) :
    finishNumber negative (Nat.toDigits 10 n) rest = .ok (integer negative n, rest) := by
  rw [finishNumber, absorb_toDigits small]
  cases rest with
  | nil => rfl
  | cons c rest =>
    obtain ⟨-, point, mark⟩ := ends c rfl
    simp [point, mark]

private theorem readUnsigned_toDigits (negative : Bool) {n : Nat} {rest : List Char}
    (small : n < twoTo 64) (ends : EndsNumber rest) :
    readUnsigned negative (Nat.toDigits 10 n ++ rest) = .ok (integer negative n, rest) := by
  have stop : rest.takeWhile Char.isDigit = [] ∧ rest.dropWhile Char.isDigit = rest := by
    cases rest with
    | nil => exact ⟨rfl, rfl⟩
    | cons c rest => simp [(ends c rfl).1]
  have taken : (Nat.toDigits 10 n ++ rest).takeWhile Char.isDigit = Nat.toDigits 10 n := by
    rw [List.takeWhile_append_of_pos fun c h => isDigit_of_mem h, stop.1, List.append_nil]
  have left : (Nat.toDigits 10 n ++ rest).dropWhile Char.isDigit = rest := by
    rw [List.dropWhile_append_of_pos fun c h => isDigit_of_mem h, stop.2]
  rw [readUnsigned, taken, left]
  split
  next none => exact absurd none Nat.toDigits_ne_nil
  next none _ => exact absurd none Nat.toDigits_ne_nil
  next d digits zero =>
    have := zero_of_toDigits zero
    subst this
    simp at zero
  next => exact finishNumber_of_ends small ends

private theorem integer_eq {value : Int} (h : Number.InRange value) :
    integer (decide (value < 0)) value.natAbs = .whole value h := by
  have same : (if decide (value < 0) then -(value.natAbs : Int) else value.natAbs) = value := by
    split
    next negative =>
      have := of_decide_eq_true negative
      omega
    next other =>
      have := mt decide_eq_true other
      omega
  have zero : (decide (value < 0) && value.natAbs == 0) = false := by
    by_cases negative : value < 0
    · have : value.natAbs ≠ 0 := by omega
      simp [this]
    · simp [negative]
  simp only [integer, same, h, zero, dif_pos, Bool.false_eq_true, if_false]

private theorem readNumber_integerChars {value : Int} (h : Number.InRange value) {rest : List Char}
    (ends : EndsNumber rest) :
    readNumber (integerChars value ++ rest) = .ok (.whole value h, rest) := by
  have small : value.natAbs < twoTo 64 := by
    have := h.1
    have := h.2
    have : twoTo 63 < twoTo 64 := by decide
    simp only [Int.ofNat_eq_natCast] at *
    omega
  have read (negative : Bool) := readUnsigned_toDigits negative small ends
  rw [← integer_eq h, integerChars]
  by_cases negative : value < 0
  · rw [if_pos negative, List.cons_append, readNumber, read, decide_eq_true negative]
  · rw [if_neg negative, decide_eq_false negative, ← read false]
    cases digits : Nat.toDigits 10 value.natAbs with
    | nil => exact absurd digits Nat.toDigits_ne_nil
    | cons d front =>
      have digit : d.isDigit = true := isDigit_of_mem (digits ▸ List.mem_cons_self)
      rw [List.cons_append, readNumber]
      intro _ same
      rw [(List.cons.inj same).1] at digit
      cases digit

/-- The first token after the blanks in front of a text. -/
def StartsWith (input : List Char) (token : Token) (rest : List Char) : Prop :=
  nextToken (input.dropWhile isSpace) = (token, some rest)

namespace StartsWith

variable {input rest : List Char} {token : Token} {c : Char}

theorem quoted (text : String) (rest : List Char) :
    StartsWith (quoteChars text ++ rest) (.quoted (.ok text)) rest := by
  have := quotedToken_quoteChars text rest
  simpa [StartsWith, quoteChars, nextToken, isSpace] using this

private theorem nextToken_of_number (h : c = '-' ∨ c.isDigit = true) :
    nextToken (c :: rest) = numberToken (c :: rest) := by
  unfold nextToken
  split
  case h_1 same => cases same
  case h_12 same =>
    cases same
    exact if_pos h
  -- The other characters that start a token are neither a sign nor a digit.
  all_goals
    rename_i same
    cases same
    exact absurd h (by decide)

theorem number {value : Int} (inRange : Number.InRange value) (ends : EndsNumber rest) :
    StartsWith (integerChars value ++ rest)
      (.literal (.ok (.number (.whole value inRange)))) rest := by
  have read := readNumber_integerChars inRange ends
  obtain ⟨c, chars, split, first⟩ : ∃ c chars,
      integerChars value ++ rest = c :: chars ∧ (c = '-' ∨ c.isDigit = true) := by
    unfold integerChars
    split
    · exact ⟨_, _, rfl, .inl rfl⟩
    · cases digits : Nat.toDigits 10 value.natAbs with
      | nil => exact absurd digits Nat.toDigits_ne_nil
      | cons d front =>
        exact ⟨_, _, rfl, .inr (isDigit_of_mem (digits ▸ List.mem_cons_self))⟩
  have visible : isSpace c = false := by
    cases space : isSpace c with
    | false => rfl
    | true =>
      simp only [isSpace, Bool.or_eq_true, beq_iff_eq] at space
      rcases space with ((rfl | rfl) | rfl) | rfl <;> exact absurd first (by decide)
  rw [split] at read ⊢
  rw [StartsWith, List.dropWhile_cons_of_neg (by simp [visible]), nextToken_of_number first]
  simp [numberToken, read]

end StartsWith

end UiScaffold.Json
