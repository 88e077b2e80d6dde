import UiScaffold.Proofs.Decimal.Shortest
import UiScaffold.Proofs.Json.Literal

/-!
The grammar of JSON texts, and what the writer produces of it.

Values, lists of elements and objects are given by one rule for each alternative of their grammar,
with blanks wherever these may stand. The text of a value is of this grammar: its numbers start with
no needless zero and have digits wherever digits are due, and its texts are literals.
-/

set_option autoImplicit false
set_option relaxedAutoImplicit false

namespace UiScaffold.Json

/-! ### Numbers -/

def IsDigits (chars : List Char) : Prop := chars ≠ [] ∧ ∀ c ∈ chars, c.isDigit = true

/-- The digits before a point: a single zero, or digits of which the first is no zero. -/
inductive IsWhole : List Char → Prop where
  | zero : IsWhole ['0']
  | positive {first : Char} {rest : List Char} (leads : first ≠ '0')
      (digits : IsDigits (first :: rest)) : IsWhole (first :: rest)

/-- A point with digits, or nothing. -/
inductive IsFraction : List Char → Prop where
  | none : IsFraction []
  | some {chars : List Char} (digits : IsDigits chars) : IsFraction ('.' :: chars)

/-- An exponent with a sign or without one, or nothing. -/
inductive IsExponent : List Char → Prop where
  | none : IsExponent []
  | unsigned {mark : Char} {chars : List Char} (marks : isExponentMark mark = true)
      (digits : IsDigits chars) : IsExponent (mark :: chars)
  | signed {mark sign : Char} {chars : List Char} (marks : isExponentMark mark = true)
      (signs : sign = '+' ∨ sign = '-') (digits : IsDigits chars) :
      IsExponent (mark :: sign :: chars)

inductive IsNumber : List Char → Prop where
  | unsigned {whole fraction exponent : List Char} (before : IsWhole whole)
      (after : IsFraction fraction) (power : IsExponent exponent) :
      IsNumber (whole ++ fraction ++ exponent)
  | negative {whole fraction exponent : List Char} (before : IsWhole whole)
      (after : IsFraction fraction) (power : IsExponent exponent) :
      IsNumber ('-' :: (whole ++ fraction ++ exponent))

namespace IsDigits

variable {chars more : List Char}

private theorem append (h : IsDigits chars) (h' : ∀ c ∈ more, c.isDigit = true) :
    IsDigits (chars ++ more) :=
  ⟨List.append_ne_nil_of_left_ne_nil h.1 more, List.forall_mem_append.mpr ⟨h.2, h'⟩⟩

private theorem prepend (h : IsDigits chars) (h' : ∀ c ∈ more, c.isDigit = true) :
    IsDigits (more ++ chars) :=
  ⟨List.append_ne_nil_of_right_ne_nil more h.1, List.forall_mem_append.mpr ⟨h', h.2⟩⟩

private theorem take (h : IsDigits chars) (n : Nat) : IsDigits (chars.take (n + 1)) := by
  refine ⟨fun none => ?_, fun c member => h.2 c (List.mem_of_mem_take member)⟩
  rcases List.take_eq_nil_iff.mp none with zero | empty
  · cases zero
  · exact h.1 empty

private theorem drop (h : IsDigits chars) {n : Nat} (less : n < chars.length) :
    IsDigits (chars.drop n) := by
  refine ⟨fun none => ?_, fun c member => h.2 c (List.mem_of_mem_drop member)⟩
  exact absurd (List.drop_eq_nil_iff.mp none) (Nat.not_le.mpr less)

private theorem zeros (n : Nat) : ∀ c ∈ List.replicate n '0', c.isDigit = true := by
  intro c member
  rw [List.eq_of_mem_replicate member]
  rfl

private theorem zero : IsDigits ['0'] := ⟨by simp, zeros 1⟩

private theorem toDigits (n : Nat) : IsDigits (Nat.toDigits 10 n) :=
  ⟨Nat.toDigits_ne_nil, fun _ => Nat.isDigit_of_mem_toDigits (by decide) (by decide)⟩

end IsDigits

private theorem toDigits_positive {n : Nat} (h : n ≠ 0) :
    ∃ first rest, Nat.toDigits 10 n = first :: rest ∧ first ≠ '0' := by
  cases digits : Nat.toDigits 10 n with
  | nil => exact absurd digits Nat.toDigits_ne_nil
  | cons first rest =>
    refine ⟨first, rest, rfl, ?_⟩
    rintro rfl
    exact h (zero_of_toDigits digits)

private theorem IsWhole.toDigits (n : Nat) : IsWhole (Nat.toDigits 10 n) := by
  by_cases zero : n = 0
  · subst zero
    exact .zero
  · have digits := IsDigits.toDigits n
    obtain ⟨first, rest, split, leads⟩ := toDigits_positive zero
    rw [split] at digits ⊢
    exact .positive leads digits

private theorem isNumber_integerChars (value : Int) : IsNumber (integerChars value) := by
  have whole := IsWhole.toDigits value.natAbs
  unfold integerChars
  split
  · simpa using IsNumber.negative whole .none .none
  · simpa using IsNumber.unsigned whole .none .none

private theorem write_parts {d : Decimal} (h : d.digits ≠ 0) : ∃ whole fraction exponent,
    doubleLayout.write d = whole ++ fraction ++ exponent ∧ IsWhole whole ∧ IsFraction fraction ∧
      IsExponent exponent := by
  have digits := IsDigits.toDigits d.digits
  obtain ⟨first, rest, split, leads⟩ := toDigits_positive h
  have whole : IsWhole (Nat.toDigits 10 d.digits) := .toDigits d.digits
  have front (n : Nat) : IsWhole ((Nat.toDigits 10 d.digits).take (n + 1)) := by
    have some := digits.take n
    rw [split, List.take_succ_cons] at some ⊢
    exact .positive leads some
  have padded (n : Nat) : IsWhole (Nat.toDigits 10 d.digits ++ List.replicate n '0') := by
    have longer := digits.append (IsDigits.zeros n)
    rw [split, List.cons_append] at longer ⊢
    exact .positive leads longer
  unfold Decimal.Layout.write Decimal.pointAfter
  generalize Nat.toDigits 10 d.digits = ds at *
  simp only
  generalize d.exponent + Int.ofNat ds.length - 1 = lead
  split
  · split
    · -- The number is below one: zeros may stand between the point and the digits.
      exact ⟨['0'], '.' :: (List.replicate ((-lead).toNat - 1) '0' ++ ds), [], by simp, .zero,
        .some (digits.prepend (IsDigits.zeros _)), .none⟩
    split
    · next inside =>
      exact ⟨_, _, [], (List.append_nil _).symm, front lead.toNat, .some (digits.drop inside),
        .none⟩
    · -- The point stands after all digits: zeros may have to fill the places before it.
      exact ⟨_, ['.', '0'], [], (List.append_nil _).symm, padded _, .some .zero, .none⟩
  · have power : IsExponent
        ('e' :: (if lead < 0 then '-' else '+') :: Nat.toDigits 10 lead.natAbs) := by
      refine .signed rfl ?_ (.toDigits lead.natAbs)
      split
      · exact .inr rfl
      · exact .inl rfl
    split
    · exact ⟨ds, [], _, by rw [List.append_nil]; rfl, whole, .none, power⟩
    · next several =>
      have inside : 1 < ds.length := by
        have : ds.length ≠ 0 := fun none => digits.1 (List.length_eq_zero_iff.mp none)
        omega
      exact ⟨_, _, _, rfl, front 0, .some (digits.drop inside), power⟩

private theorem isNumber_doubleChars (x : Binary64) : IsNumber (doubleChars x) := by
  obtain ⟨whole, fraction, exponent, split, before, after, power⟩ :
      ∃ whole fraction exponent,
        (if x.isZero then ['0', '.', '0'] else doubleLayout.write (Decimal.shortest x)) =
          whole ++ fraction ++ exponent ∧ IsWhole whole ∧ IsFraction fraction ∧
            IsExponent exponent := by
    cases zero : x.isZero with
    | true => exact ⟨['0'], ['.', '0'], [], rfl, .zero, .some .zero, .none⟩
    | false => exact write_parts (Decimal.shortest_ne_zero zero)
  unfold doubleChars
  rw [split]
  simp only
  split
  · exact .negative before after power
  · exact .unsigned before after power

private theorem isNumber_chars : (number : Number) → IsNumber number.chars
  | .whole value _ => isNumber_integerChars value
  | .real value => isNumber_doubleChars value

/-! ### Values -/

def IsBlank (chars : List Char) : Prop := ∀ c ∈ chars, isSpace c = true

inductive IsKey : List Char → Prop where
  | mk {before key after content : List Char} (left : IsBlank before)
      (quoted : IsQuoted content key) (right : IsBlank after) : IsKey (before ++ key ++ after)

mutual

inductive IsValue : List Char → Prop where
  | null : IsValue "null".toList
  | true : IsValue "true".toList
  | false : IsValue "false".toList
  | number {chars : List Char} (h : IsNumber chars) : IsValue chars
  | text {chars content : List Char} (h : IsQuoted content chars) : IsValue chars
  | emptyList {chars : List Char} (h : IsBlank chars) : IsValue ('[' :: (chars ++ [']']))
  | list {chars : List Char} (h : IsElements chars) : IsValue ('[' :: (chars ++ [']']))
  | object {chars : List Char} (h : IsObject chars) : IsValue chars

inductive IsElement : List Char → Prop where
  | mk {before value after : List Char} (left : IsBlank before) (complete : IsValue value)
      (right : IsBlank after) : IsElement (before ++ value ++ after)

inductive IsElements : List Char → Prop where
  | last {chars : List Char} (h : IsElement chars) : IsElements chars
  | cons {chars rest : List Char} (first : IsElement chars) (others : IsElements rest) :
      IsElements (chars ++ ',' :: rest)

inductive IsMembers : List Char → Prop where
  | last {key value : List Char} (named : IsKey key) (h : IsElement value) :
      IsMembers (key ++ ':' :: value)
  | cons {key value rest : List Char} (named : IsKey key) (first : IsElement value)
      (others : IsMembers rest) : IsMembers (key ++ ':' :: (value ++ ',' :: rest))

inductive IsObject : List Char → Prop where
  | empty {chars : List Char} (h : IsBlank chars) : IsObject ('\x7b' :: (chars ++ ['\x7d']))
  | members {chars : List Char} (h : IsMembers chars) : IsObject ('\x7b' :: (chars ++ ['\x7d']))

end

/-! ### Written values -/

private theorem isBlank_nil : IsBlank [] := by simp [IsBlank]

private theorem isBlank_space : IsBlank [' '] := by simp [IsBlank, isSpace]

private theorem isBlank_newLine (level : Nat) : IsBlank (newLine level) := by
  intro c member
  rw [newLine, List.mem_cons] at member
  rcases member with rfl | blank
  · rfl
  · rw [List.eq_of_mem_replicate blank]
    rfl

private theorem isKey_newLine (level : Nat) (key : String) :
    IsKey (newLine level ++ quoteChars key) := by
  simpa using IsKey.mk (isBlank_newLine level) (isQuoted_quoteChars key) isBlank_nil

mutual

private theorem isValue_prettyChars (level : Nat) :
    (value : Json) → IsValue (prettyChars level value)
  | .null => .null
  | .bool true => .true
  | .bool false => .false
  | .number value => .number (isNumber_chars value)
  | .text value => .text (isQuoted_quoteChars value)
  | .list [] => .emptyList isBlank_nil
  | .list (item :: rest) => by
    obtain ⟨chars, split, elements⟩ := isElements_prettyItems level (item :: rest) (by simp)
    rw [prettyChars, split]
    exact .list elements
  | .object [] => .object (.empty isBlank_nil)
  | .object (member :: rest) => by
    obtain ⟨chars, split, members⟩ := isMembers_prettyMembers level (member :: rest) (by simp)
    rw [prettyChars, split]
    exact .object (.members members)

private theorem isElements_prettyItems (level : Nat) : (items : List Json) → items ≠ [] →
    ∃ chars, prettyItems level items = chars ++ [']'] ∧ IsElements chars
  | [], filled => absurd rfl filled
  | [item], _ => by
    have value := isValue_prettyChars (level + 1) item
    refine ⟨_, by rw [prettyItems], .last (.mk (isBlank_newLine _) value (isBlank_newLine _))⟩
  | item :: next :: rest, _ => by
    have value := isValue_prettyChars (level + 1) item
    obtain ⟨chars, split, elements⟩ := isElements_prettyItems level (next :: rest) (by simp)
    have element := IsElement.mk (isBlank_newLine (level + 1)) value isBlank_nil
    refine ⟨_, ?_, .cons element elements⟩
    rw [prettyItems, split]
    · simp
    · simp

private theorem isMembers_prettyMembers (level : Nat) : (members : List (String × Json)) →
    members ≠ [] → ∃ chars, prettyMembers level members = chars ++ ['\x7d'] ∧ IsMembers chars
  | [], filled => absurd rfl filled
  | [(key, value)], _ => by
    have complete := isValue_prettyChars (level + 1) value
    have element := IsElement.mk isBlank_space complete (isBlank_newLine level)
    refine ⟨_, ?_, .last (isKey_newLine (level + 1) key) element⟩
    rw [prettyMembers]
    simp
  | (key, value) :: next :: rest, _ => by
    have complete := isValue_prettyChars (level + 1) value
    obtain ⟨chars, split, members⟩ := isMembers_prettyMembers level (next :: rest) (by simp)
    have element := IsElement.mk isBlank_space complete isBlank_nil
    refine ⟨_, ?_, .cons (isKey_newLine (level + 1) key) element members⟩
    rw [prettyMembers, split]
    · simp
    · simp

end

/-- The text of an object is one complete object. -/
theorem isObject_prettyChars (level : Nat) : (members : Members) →
    IsObject (prettyChars level (.object members))
  | [] => .empty isBlank_nil
  | member :: rest => by
    obtain ⟨chars, split, named⟩ := isMembers_prettyMembers level (member :: rest) (by simp)
    rw [prettyChars, split]
    exact .members named

end UiScaffold.Json
