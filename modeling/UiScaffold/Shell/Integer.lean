/-!
Integers as the shell reads them.

They have sixty-four bits. A text may start with blanks and a sign; a leading zero makes it octal
and a leading `0x` hexadecimal where that is asked for. What goes beyond the range is held at its
end.
-/

set_option autoImplicit false
set_option relaxedAutoImplicit false

namespace UiScaffold.Shell

def isNumberBlank (c : Char) : Bool := c == ' ' || ('\t' ≤ c && c ≤ '\r')

/-- The value of a digit, letters included. -/
def digitValue? (c : Char) : Option Nat :=
  if '0' ≤ c ∧ c ≤ '9' then some (c.toNat - '0'.toNat)
  else if 'a' ≤ c ∧ c ≤ 'z' then some (c.toNat - 'a'.toNat + 10)
  else if 'A' ≤ c ∧ c ≤ 'Z' then some (c.toNat - 'A'.toNat + 10)
  else none

def isDigitIn (base : Nat) (c : Char) : Bool :=
  match digitValue? c with
  | some value => decide (value < base)
  | none => false

def digitsValue (base : Nat) (digits : List Char) : Nat :=
  digits.foldl (fun n d => n * base + (digitValue? d).getD 0) 0

/-- A number at the front of a text: its sign, its size, and the rest. -/
structure NumberFront where
  isNegative : Bool
  size : Nat
  rest : List Char

/-- The digits at the front in a base, unless there are none. -/
def digitsFront? (base : Nat) (isNegative : Bool) (text : List Char) : Option NumberFront :=
  match text.takeWhile (isDigitIn base) with
  | [] => none
  | digits => some ⟨isNegative, digitsValue base digits, text.dropWhile (isDigitIn base)⟩

/-- The number at the front of a text without a sign; the base shows in the text if `anyBase`. -/
def unsignedFront? (anyBase isNegative : Bool) (text : List Char) : Option NumberFront :=
  if anyBase then
    match text with
    | '0' :: x :: more =>
      if x = 'x' ∨ x = 'X' then
        match digitsFront? 16 isNegative more with
        | some front => some front
        | none => some ⟨isNegative, 0, x :: more⟩
      else digitsFront? 8 isNegative text
    | '0' :: _ => digitsFront? 8 isNegative text
    | _ => digitsFront? 10 isNegative text
  else digitsFront? 10 isNegative text

def numberFront? (anyBase : Bool) (text : List Char) : Option NumberFront :=
  match text.dropWhile isNumberBlank with
  | '-' :: rest => unsignedFront? anyBase true rest
  | '+' :: rest => unsignedFront? anyBase false rest
  | rest => unsignedFront? anyBase false rest

namespace NumberFront

def isTooLarge (front : NumberFront) : Bool :=
  if front.isNegative then decide (9223372036854775808 < front.size)
    else decide (9223372036854775808 ≤ front.size)

/-- The number, held within the range. -/
def value (front : NumberFront) : Int64 :=
  if front.isNegative then
    if front.isTooLarge then Int64.minValue else Int64.ofInt (-front.size)
  else if front.isTooLarge then Int64.maxValue else Int64.ofNat front.size

end NumberFront

/-- The number that a whole text spells, up to blanks at its end. -/
def number? (anyBase : Bool) (text : String) : Option Int64 :=
  match numberFront? anyBase text.toList with
  | some front =>
    if front.isTooLarge || !front.rest.all isNumberBlank then none else some front.value
  | none =>
    if anyBase && text.toList.all isNumberBlank then some 0 else none

def maxCount : Int := 2147483647

def count? (text : String) : Option Nat := do
  let value ← number? false text
  if 0 ≤ value.toInt ∧ value.toInt ≤ maxCount then some value.toInt.toNat else none

end UiScaffold.Shell
