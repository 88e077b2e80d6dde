import Mathlib.Tactic.Common
import UiScaffold.Json.Quoted

/-!
What stands between quotes.

Between the quotes of a literal stand characters as they are and escapes. Each spells one character,
so that a literal stands for one text, which the reader gives back. No character below U+0020 stands
there, and a quote or a backslash only as part of an escape. What the writer puts between quotes is
of this form.
-/

set_option autoImplicit false
set_option relaxedAutoImplicit false

namespace UiScaffold.Json

/-- Characters between quotes that stand for one character: the character itself, or an escape by a
letter, by a UTF-16 unit or by a pair of units. -/
inductive StandsFor : List Char → Char → Prop where
  | plain {c : Char} (visible : 0x20 ≤ c.toNat) (quote : c ≠ '\"') (backslash : c ≠ '\\') :
      StandsFor [c] c
  | letter {letter c : Char} (named : unescape? letter = some c) : StandsFor ['\\', letter] c
  | unit {a b c d : Char} {unit : Nat} (digits : unit? a b c d = some unit)
      (leading : isLeading unit = false) (trailing : isTrailing unit = false) :
      StandsFor ['\\', 'u', a, b, c, d] (Char.ofNat unit)
  | pair {a b c d e f g h : Char} {first second : Nat} (digits : unit? a b c d = some first)
      (digits' : unit? e f g h = some second) (leading : isLeading first = true)
      (trailing : isTrailing second = true) :
      StandsFor ['\\', 'u', a, b, c, d, '\\', 'u', e, f, g, h] (pairChar first second)

/-- What stands between the quotes of a literal, and the text that it stands for. -/
inductive Contents : List Char → List Char → Prop where
  | nil : Contents [] []
  | cons {spelled body content : List Char} {c : Char} (first : StandsFor spelled c)
      (others : Contents body content) : Contents (spelled ++ body) (c :: content)

/-- A literal of a text: quotes at both ends, and in between what stands for the text. -/
inductive IsQuoted (content : List Char) : List Char → Prop where
  | mk {body : List Char} (stands : Contents body content) :
      IsQuoted content ('\"' :: (body ++ ['\"']))

namespace StandsFor

variable {spelled : List Char} {c : Char}

private theorem readQuoted (h : StandsFor spelled c) (done rest : List Char) :
    readQuoted done (spelled ++ rest) = readQuoted (c :: done) rest := by
  cases h with
  | plain visible quote backslash =>
    have control : ¬ c.toNat < 0x20 := Nat.not_lt.mpr visible
    simp [Json.readQuoted, backslash, control]
  | letter named =>
    -- The letter of a unit names no character, so that the other rule for a backslash applies.
    have other : ∀ letter, unescape? letter = some c → letter ≠ 'u' := by
      rintro _ named rfl
      cases named
    simp [Json.readQuoted, other _ named, named]
  | unit digits leading trailing => simp [Json.readQuoted, digits, leading, trailing]
  | pair digits digits' leading trailing =>
    have apart {unit : Nat} (leading : isLeading unit = true) : isTrailing unit = false := by
      simp only [isLeading, Bool.and_eq_true, decide_eq_true_eq] at leading
      simp only [isTrailing, Bool.and_eq_false_iff, decide_eq_false_iff_not]
      omega
    simp [Json.readQuoted, digits, digits', leading, apart leading, trailing]

private theorem visible_of_hexDigit? {c : Char} {n : Nat} (h : hexDigit? c = some n) :
    0x20 ≤ c.toNat := by
  unfold hexDigit? at h
  have bound {low : Char} (above : low ≤ c) : low.toNat ≤ c.toNat := above
  split at h
  · next range => exact Nat.le_trans (by decide) (bound range.1)
  split at h
  · next range => exact Nat.le_trans (by decide) (bound range.1)
  split at h
  · next range => exact Nat.le_trans (by decide) (bound range.1)
  · cases h

private theorem visible_of_unit? {a b c d : Char} {unit : Nat} (h : unit? a b c d = some unit) :
    ∀ digit ∈ [a, b, c, d], 0x20 ≤ digit.toNat := by
  simp only [unit?, Option.bind_eq_bind, Option.bind_eq_some_iff] at h
  obtain ⟨_, first, _, second, _, third, _, fourth, -⟩ := h
  simp only [List.forall_mem_cons, List.not_mem_nil, false_implies, implies_true, and_true]
  exact ⟨visible_of_hexDigit? first, visible_of_hexDigit? second, visible_of_hexDigit? third,
    visible_of_hexDigit? fourth⟩

private theorem visible (h : StandsFor spelled c) : ∀ other ∈ spelled, 0x20 ≤ other.toNat := by
  have escape {digits : List Char} (rest : ∀ other ∈ digits, 0x20 ≤ other.toNat) :
      ∀ other ∈ '\\' :: 'u' :: digits, 0x20 ≤ other.toNat :=
    List.forall_mem_cons.mpr ⟨by decide, List.forall_mem_cons.mpr ⟨by decide, rest⟩⟩
  cases h with
  | plain visible => simpa using visible
  | @letter letter _ named =>
    have : 0x20 ≤ letter.toNat := by
      unfold unescape? at named
      split at named <;> first | decide | cases named
    simp [this]
  | unit digits => exact escape (visible_of_unit? digits)
  | pair digits digits' =>
    have first := escape (visible_of_unit? digits)
    have second := escape (visible_of_unit? digits')
    exact List.forall_mem_append.mpr ⟨first, second⟩

private theorem unit?_control {n : Nat} (h : n < 32) :
    unit? '0' '0' (hexChar (n / 16)) (hexChar (n % 16)) = some n := by
  have digit {n : Nat} (h : n < 16) : hexDigit? (hexChar n) = some n := by
    have all : ∀ n < 16, hexDigit? (hexChar n) = some n := by decide
    exact all n h
  have zero : hexDigit? '0' = some 0 := rfl
  have high : hexDigit? (hexChar (n / 16)) = some (n / 16) := digit (by omega)
  have low : hexDigit? (hexChar (n % 16)) = some (n % 16) := digit (by omega)
  simp only [unit?, zero, high, low, Option.bind_eq_bind, Option.bind_some, Option.pure_def,
    Option.some.injEq]
  omega

private theorem escapeChar (c : Char) : StandsFor (escapeChar c) c := by
  unfold Json.escapeChar
  by_cases quote : c = '\"'
  · subst quote
    exact .letter rfl
  by_cases backslash : c = '\\'
  · subst backslash
    exact .letter rfl
  by_cases backspace : c = '\x08'
  · subst backspace
    exact .letter rfl
  by_cases feed : c = '\x0c'
  · subst feed
    exact .letter rfl
  by_cases newline : c = '\n'
  · subst newline
    exact .letter rfl
  by_cases carriage : c = '\r'
  · subst carriage
    exact .letter rfl
  by_cases tab : c = '\t'
  · subst tab
    exact .letter rfl
  simp only [quote, backslash, backspace, feed, newline, carriage, tab, if_false]
  by_cases control : c.toNat < 0x20
  · rw [if_pos control]
    have leading : isLeading c.toNat = false := by
      simp only [isLeading, Bool.and_eq_false_iff, decide_eq_false_iff_not]
      omega
    have trailing : isTrailing c.toNat = false := by
      simp only [isTrailing, Bool.and_eq_false_iff, decide_eq_false_iff_not]
      omega
    have unit := StandsFor.unit (unit?_control control) leading trailing
    rwa [Char.ofNat_toNat] at unit
  · rw [if_neg control]
    exact .plain (Nat.not_lt.mp control) quote backslash

end StandsFor

namespace Contents

variable {body content : List Char}

/-- A literal is read up to its own closing quote, as the text that it stands for. -/
theorem readQuoted (h : Contents body content) (done rest : List Char) :
    readQuoted done (body ++ '\"' :: rest) =
      .ok (String.ofList (done.reverse ++ content), rest) := by
  induction h generalizing done with
  | nil => simp [Json.readQuoted]
  | cons first _ ih =>
    rw [List.append_assoc, first.readQuoted, ih]
    simp

theorem visible (h : Contents body content) : ∀ c ∈ body, 0x20 ≤ c.toNat := by
  induction h with
  | nil => simp
  | cons first _ ih => exact List.forall_mem_append.mpr ⟨first.visible, ih⟩

theorem escaped (content : List Char) : Contents (content.flatMap Json.escapeChar) content := by
  induction content with
  | nil => exact .nil
  | cons c content ih => exact .cons (.escapeChar c) ih

end Contents

/-- The writer puts a text between quotes as a literal of it. -/
theorem isQuoted_quoteChars (text : String) : IsQuoted text.toList (quoteChars text) :=
  .mk (.escaped text.toList)

end UiScaffold.Json
