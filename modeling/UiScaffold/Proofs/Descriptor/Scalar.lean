import UiScaffold.Proofs.Descriptor.Mixture

/-!
Which names are those of scalar types.

The width of an integer type is read as a number is, so that a plus sign and zeros may stand before
its digits. In no other way may a name differ from the listed ones.
-/

set_option autoImplicit false
set_option relaxedAutoImplicit false

namespace UiScaffold

namespace Text

variable {digits rest : List Char} {first : Char}

private theorem digitsValue_zeros (zeros : Nat) (digits : List Char) :
    digitsValue (List.replicate zeros '0' ++ digits) = digitsValue digits := by
  induction zeros with
  | zero => rfl
  | succ zeros ih =>
    rw [List.replicate_succ, List.cons_append]
    exact ih

private theorem digitsValue_concat (digits : List Char) (d : Char) :
    digitsValue (digits ++ [d]) = 10 * digitsValue digits + (d.toNat - 48) := by
  have last : digitsValue (digits ++ [d]) = digitsValue digits * 10 + (d.toNat - '0'.toNat) :=
    List.foldl_concat ..
  rw [last, Nat.mul_comm]
  rfl

private theorem digitChar_of_isDigit {d : Char} (digit : d.isDigit = true) :
    d.toNat - 48 < 10 ∧ Nat.digitChar (d.toNat - 48) = d := by
  have range : 48 ≤ d.toNat ∧ d.toNat ≤ 57 := by
    simpa [Char.isDigit, UInt32.le_iff_toNat_le] using digit
  have small : d.toNat - 48 < 10 := by omega
  refine ⟨small, Char.toNat_inj.mp ?_⟩
  rw [Nat.toNat_digitChar_of_lt_ten small]
  omega

private theorem toDigits_digitsValue (digits : (first :: rest).all Char.isDigit = true)
    (no_zero : first ≠ '0') :
    0 < digitsValue (first :: rest) ∧
      Nat.toDigits 10 (digitsValue (first :: rest)) = first :: rest := by
  induction rest using List.reverseRecOn with
  | nil =>
    obtain ⟨small, same⟩ := digitChar_of_isDigit (d := first) (by simpa using digits)
    have value : digitsValue [first] = first.toNat - 48 :=
      (digitsValue_concat [] first).trans (Nat.zero_add _)
    rw [value, Nat.toDigits_of_lt_base small, same]
    refine ⟨Nat.pos_of_ne_zero fun zero => no_zero ?_, rfl⟩
    rw [← same, zero]
    rfl
  | append_singleton rest d ih =>
    simp only [← List.cons_append, List.all_append, Bool.and_eq_true, List.all_cons, List.all_nil,
      and_true] at digits
    obtain ⟨positive, same⟩ := ih (by simpa using digits.1)
    obtain ⟨small, last⟩ := digitChar_of_isDigit digits.2
    rw [← List.cons_append, digitsValue_concat]
    refine ⟨by omega, ?_⟩
    rw [← Nat.toDigits_append_toDigits (by decide) positive small, same,
      Nat.toDigits_of_lt_base small, last]

private theorem exists_zeros (all_digits : digits.all Char.isDigit = true)
    (positive : 0 < digitsValue digits) :
    ∃ zeros, digits = List.replicate zeros '0' ++ Nat.toDigits 10 (digitsValue digits) := by
  induction digits with
  | nil => cases positive
  | cons first rest ih =>
    by_cases zero : first = '0'
    · subst zero
      have value : digitsValue ('0' :: rest) = digitsValue rest := digitsValue_zeros 1 rest
      rw [value] at positive ⊢
      obtain ⟨zeros, split⟩ := ih (by simpa using all_digits) positive
      refine ⟨zeros + 1, ?_⟩
      rw [List.replicate_succ, List.cons_append, ← split]
    · exact ⟨0, (toDigits_digitsValue all_digits zero).2.symm⟩

private theorem naturalBelow?_plus (limit : Nat) (digits : List Char) :
    naturalBelow? limit ('+' :: digits) =
      if digits ≠ [] ∧ digits.all Char.isDigit = true ∧ digitsValue digits < limit then
        some (digitsValue digits)
      else none := rfl

private theorem naturalBelow?_plain (limit : Nat) (no_plus : ∀ rest, digits ≠ '+' :: rest) :
    naturalBelow? limit digits = naturalBelow? limit ('+' :: digits) := by
  rw [naturalBelow?_plus]
  simp only [naturalBelow?]

private theorem naturalBelow?_eq_some {limit n : Nat} {chars : List Char} :
    naturalBelow? limit chars = some n ↔ ∃ plus ∈ [[], ['+']], ∃ digits, chars = plus ++ digits ∧
      digits ≠ [] ∧ digits.all Char.isDigit = true ∧ digitsValue digits = n ∧ n < limit := by
  have after_plus (digits : List Char) : naturalBelow? limit ('+' :: digits) = some n ↔
      digits ≠ [] ∧ digits.all Char.isDigit = true ∧ digitsValue digits = n ∧ n < limit := by
    rw [naturalBelow?_plus, Option.ite_none_right_eq_some, Option.some_inj]
    constructor
    · rintro ⟨⟨filled, all_digits, small⟩, rfl⟩
      exact ⟨filled, all_digits, rfl, small⟩
    · rintro ⟨filled, all_digits, rfl, small⟩
      exact ⟨⟨filled, all_digits, small⟩, rfl⟩
  constructor
  · intro h
    by_cases signed : ∃ rest, chars = '+' :: rest
    · obtain ⟨rest, rfl⟩ := signed
      exact ⟨['+'], by simp, rest, rfl, (after_plus rest).mp h⟩
    · push Not at signed
      rw [naturalBelow?_plain limit signed] at h
      exact ⟨[], by simp, chars, rfl, (after_plus chars).mp h⟩
  · rintro ⟨plus, known, digits, rfl, sound⟩
    simp only [List.mem_cons, List.not_mem_nil, or_false] at known
    rcases known with rfl | rfl
    · have no_plus : ∀ rest, digits ≠ '+' :: rest := by
        rintro rest rfl
        simp [Char.isDigit] at sound
      rw [List.nil_append, naturalBelow?_plain limit no_plus]
      exact (after_plus digits).mpr sound
    · exact (after_plus digits).mpr sound

end Text

namespace DataType

/-- A name with a plus sign, or zeros, or both put between the letter and the digits of an integer
type; or just the name. -/
inductive Pads : String → String → Prop
  | plain {name : String} : Pads name name
  | padded {sign plus digits : String} {zeros : Nat} : sign ∈ ["u", "i"] → plus ∈ ["", "+"] →
      Pads (sign ++ digits) (sign ++ plus ++ String.ofList (List.replicate zeros '0') ++ digits)

private theorem integerOfWidth?_eq_some {signed : Bool} {chars : List Char} {type : DataType} :
    integerOfWidth? signed chars = some type ↔
      ∃ plus ∈ [[], ['+']], ∃ zeros, ∃ bits ∈ integerWidths, type = .integer bits signed ∧
        chars = plus ++ (List.replicate zeros '0' ++ Nat.toDigits 10 bits) := by
  constructor
  · intro h
    obtain ⟨bits, spelled, h⟩ := Option.bind_eq_some_iff.mp h
    split at h
    case isFalse => cases h
    rename_i listed
    cases h
    have positive : 0 < bits := by
      simp only [integerWidths, List.mem_cons, List.not_mem_nil, or_false] at listed
      omega
    obtain ⟨plus, known, digits, rfl, -, all_digits, rfl, -⟩ :=
      Text.naturalBelow?_eq_some.mp spelled
    obtain ⟨zeros, split⟩ := Text.exists_zeros all_digits positive
    exact ⟨plus, known, zeros, _, listed, rfl, congrArg (plus ++ ·) split⟩
  · rintro ⟨plus, known, zeros, bits, listed, rfl, rfl⟩
    have digits : Nat.toDigits 10 bits ≠ [] ∧ (Nat.toDigits 10 bits).all Char.isDigit = true ∧
        Text.digitsValue (Nat.toDigits 10 bits) = bits ∧ bits < twoTo 16 := by
      revert bits
      decide
    obtain ⟨filled, all_digits, value, small⟩ := digits
    have spelled : Text.naturalBelow? (twoTo 16)
        (plus ++ (List.replicate zeros '0' ++ Nat.toDigits 10 bits)) = some bits := by
      refine Text.naturalBelow?_eq_some.mpr ⟨plus, known, _, rfl, ?_, ?_, ?_, small⟩
      · simp [filled]
      · simp [all_digits, Char.isDigit]
      · rw [Text.digitsValue_zeros, value]
    exact Option.bind_eq_some_iff.mpr ⟨bits, spelled, if_pos listed⟩

def letter (signed : Bool) : String := if signed then "i" else "u"

private theorem named_letter (signed : Bool) (text : String) :
    named (letter signed ++ text) =
      (integerOfWidth? signed text.toList).getD (.unknown (letter signed ++ text)) := by
  have chars : (letter signed ++ text).toList = (if signed then 'i' else 'u') :: text.toList := by
    cases signed <;> simp [letter]
  unfold named
  split
  case h_9 =>
    rw [integerNamed?, chars]
    cases signed <;> rfl
  all_goals
    rename_i same
    rw [same] at chars
    cases signed <;> cases chars

private theorem scalarNames_eq :
    scalarNames = scalarNames.take 8 ++ [false, true].flatMap fun signed =>
    integerWidths.map fun bits => (letter signed ++ bits.repr, .integer bits signed) := rfl

private theorem mem_scalarNames_of_integer {bits : Nat} (signed : Bool)
    (listed : bits ∈ integerWidths) :
    (letter signed ++ bits.repr, .integer bits signed) ∈ scalarNames := by
  rw [scalarNames_eq]
  refine List.mem_append_right _ (List.mem_flatMap.mpr ⟨signed, by cases signed <;> simp, ?_⟩)
  exact List.mem_map.mpr ⟨bits, listed, rfl⟩

private theorem integer_of_mem_scalarNames {signed : Bool} {digits : String} {type : DataType}
    (listed : (letter signed ++ digits, type) ∈ scalarNames) :
    ∃ bits ∈ integerWidths, digits = bits.repr ∧ type = .integer bits signed := by
  have head (signed : Bool) (text : String) :
      (letter signed ++ text).toList.head? = some (if signed then 'i' else 'u') := by
    cases signed <;> simp [letter]
  rw [scalarNames_eq, List.mem_append] at listed
  rcases listed with other | integer
  · have others : ∀ name ∈ (scalarNames.take 8).map (·.1), ∀ signed : Bool,
        name.toList.head? ≠ some (if signed then 'i' else 'u') := by decide
    exact absurd (head signed digits) (others _ (List.mem_map_of_mem other) signed)
  · obtain ⟨signed', -, member⟩ := List.mem_flatMap.mp integer
    obtain ⟨bits, known, same⟩ := List.mem_map.mp member
    obtain ⟨names, rfl⟩ := Prod.mk.inj same
    have letters := congrArg (·.toList.head?) names
    simp only [head] at letters
    obtain rfl : signed' = signed := by cases signed' <;> cases signed <;> simp_all
    exact ⟨bits, known, (String.append_right_inj _).mp names.symm, rfl⟩

private theorem named_of_pads {plain name : String} {type : DataType} (pads : Pads plain name)
    (listed : (plain, type) ∈ scalarNames) : named name = type := by
  cases pads with
  | plain => exact (named_of_mem_scalarNames listed).1
  | @padded sign plus digits zeros letters signs =>
    obtain ⟨signed, rfl⟩ : ∃ signed, sign = letter signed := by
      simp only [List.mem_cons, List.not_mem_nil, or_false] at letters
      rcases letters with rfl | rfl
      · exact ⟨false, rfl⟩
      · exact ⟨true, rfl⟩
    obtain ⟨bits, known, rfl, rfl⟩ := integer_of_mem_scalarNames listed
    have signs' : plus.toList ∈ [[], ['+']] := by
      simp only [List.mem_cons, List.not_mem_nil, or_false] at signs
      rcases signs with rfl | rfl <;> simp
    have spelled : integerOfWidth? signed
        (plus ++ (String.ofList (List.replicate zeros '0') ++ bits.repr)).toList =
          some (.integer bits signed) := by
      refine integerOfWidth?_eq_some.mpr ⟨_, signs', zeros, bits, known, rfl, ?_⟩
      simp only [String.toList_append, String.toList_ofList, Nat.repr]
    rw [String.append_assoc, String.append_assoc, named_letter, spelled]
    rfl

private theorem exists_letter {name : String} {type : DataType}
    (found : integerNamed? name = some type) : ∃ signed text, name = letter signed ++ text ∧
      integerOfWidth? signed text.toList = some type := by
  have joined (signed : Bool) (digits : List Char)
      (chars : name.toList = (letter signed).toList ++ digits) :
      name = letter signed ++ String.ofList digits := by
    rw [← String.toList_inj, String.toList_append, String.toList_ofList, chars]
  unfold integerNamed? at found
  split at found
  · rename_i digits chars
    exact ⟨false, String.ofList digits, joined false digits chars, by simpa using found⟩
  · rename_i digits chars
    exact ⟨true, String.ofList digits, joined true digits chars, by simpa using found⟩
  · cases found

private theorem pads_of_named (name : String) : named name = .unknown name ∨
    ∃ plain, Pads plain name ∧ (plain, named name) ∈ scalarNames := by
  unfold named
  split
  case h_9 =>
    cases found : integerNamed? name with
    | none => exact .inl rfl
    | some type =>
      obtain ⟨signed, text, rfl, spelled⟩ := exists_letter found
      obtain ⟨plus, signs, zeros, bits, known, rfl, chars⟩ := integerOfWidth?_eq_some.mp spelled
      have letters : letter signed ∈ ["u", "i"] := by cases signed <;> simp [letter]
      have signs' : String.ofList plus ∈ ["", "+"] := by
        simp only [List.mem_cons, List.not_mem_nil, or_false] at signs
        rcases signs with rfl | rfl <;> simp
      have text_eq : text =
          String.ofList plus ++ (String.ofList (List.replicate zeros '0') ++ bits.repr) := by
        rw [← String.toList_inj, chars]
        simp only [String.toList_append, String.toList_ofList, Nat.repr]
      refine .inr ⟨letter signed ++ bits.repr, ?_, mem_scalarNames_of_integer signed known⟩
      rw [text_eq, ← String.append_assoc, ← String.append_assoc]
      exact .padded letters signs'
  all_goals exact .inr ⟨_, .plain, by simp [scalarNames]⟩

/-- A name has the type of a listed name, if it is that name up to a plus sign and zeros before the
digits of an integer type. Any other name is unknown. -/
theorem padded_names_are_read (name : String) (type : DataType) :
    named name = type ↔
      (∃ plain, Pads plain name ∧ (plain, type) ∈ scalarNames) ∨
        (∀ plain, Pads plain name → ∀ other, (plain, other) ∉ scalarNames) ∧
          type = .unknown name := by
  constructor
  · rintro rfl
    by_cases known : ∃ plain other, Pads plain name ∧ (plain, other) ∈ scalarNames
    · obtain ⟨plain, other, pads, listed⟩ := known
      exact .inl ⟨plain, pads, (named_of_pads pads listed).symm ▸ listed⟩
    · push Not at known
      refine .inr ⟨fun plain pads other => known plain other pads, ?_⟩
      exact (pads_of_named name).resolve_right fun ⟨plain, pads, listed⟩ =>
        known plain _ pads listed
  · rintro (⟨plain, pads, listed⟩ | ⟨none, rfl⟩)
    · exact named_of_pads pads listed
    · exact (pads_of_named name).resolve_right fun ⟨plain, pads, listed⟩ =>
        none plain pads _ listed

/-- A width with a plus sign is read, although no listed name has a sign. -/
theorem signed_width_is_read : ¬ ∀ name : String,
    (∀ what, named name ≠ .unknown what) ↔ ∃ type, (name, type) ∈ scalarNames := by
  intro exact_names
  have known : ∀ what, named "u+8" ≠ .unknown what := by
    have read : named "u+8" = .integer 8 false := rfl
    rw [read]
    exact nofun
  obtain ⟨type, listed⟩ := (exact_names "u+8").mp known
  have names : "u+8" ∈ scalarNames.map (·.1) := List.mem_map.mpr ⟨_, listed, rfl⟩
  have absent : "u+8" ∉ scalarNames.map (·.1) := by decide
  exact absent names

end DataType

end UiScaffold
