import UiScaffold.Json.Fault
import UiScaffold.Json.Value
import UiScaffold.Decimal.Shortest

/-!
Number literals.

A literal without point and exponent is an integer when sixty-four bits hold it. Every other literal
is a double: as many digits as fit are taken into a significand below `2 ^ 64`, which is then
multiplied or divided by one power of ten, so the result is not always the nearest double.
-/

set_option autoImplicit false
set_option relaxedAutoImplicit false

namespace UiScaffold.Json

/-- Appends decimal digits to a number while the result is below the limit; gives the number and the
digits that were not taken. -/
def absorb (limit : Nat) (n : Nat) : List Char → Nat × List Char
  | [] => (n, [])
  | d :: rest =>
    let next := n * 10 + (d.toNat - '0'.toNat)
    if next < limit then absorb limit next rest else (n, d :: rest)

def maxExponent : Nat := twoTo 31 - 1

def clampExponent (e : Int) : Int :=
  max (-(Int.ofNat maxExponent) - 1) (min e (Int.ofNat maxExponent))

/-- `significand * 10 ^ exponent` by one multiplication or at most two divisions; `none` when the
result is too large. Two divisions by `10 ^ 308` leave nothing of any significand. -/
def scale (significand : Nat) (exponent : Int) : Option Binary64 :=
  let f := Binary64.ofNat significand
  if exponent.natAbs ≤ 308 then
    let power := Binary64.powerOfTen exponent.natAbs
    if 0 ≤ exponent then
      let product := f.mul power
      if product.isInfinite then none else some product
    else some (f.div power)
  else if f.isZero then some f
  else if 0 ≤ exponent then none
  else if -308 ≤ exponent + 308 then
    some ((f.div (Binary64.powerOfTen 308)).div (Binary64.powerOfTen (exponent + 308).natAbs))
  else some Binary64.zero

def signed (negative : Bool) (f : Binary64) : Number := .real (if negative then f.neg else f)

/-- A scaled significand, or the fault of a number that is too large. -/
def scaledNumber (negative : Bool) (significand : Nat) (exponent : Int) (rest : List Char) :
    Except Fault (Number × List Char) :=
  match scale significand exponent with
  | some f => .ok (signed negative f, rest)
  | none => .error (.before .numberOutOfRange rest)

/-- An integer that sixty-four bits hold; minus zero and greater magnitudes are doubles. -/
def integer (negative : Bool) (n : Nat) : Number :=
  let value : Int := if negative then -(n : Int) else n
  if h : Number.InRange value then
    -- No integer has the sign of minus zero.
    if negative && n == 0 then signed negative Binary64.zero else .whole value h
  else signed negative (Binary64.ofNat n)

def readExponentDigits (negative : Bool) (significand : Nat) (start : Int) (downwards : Bool)
    (input : List Char) : Except Fault (Number × List Char) :=
  match input.takeWhile Char.isDigit, input.dropWhile Char.isDigit with
  | [], [] => .error (.before .endInValue [])
  | [], rest => .error (.atNext .badNumber rest)
  | digits, rest =>
    match absorb (maxExponent + 1) 0 digits with
    | (e, []) =>
      scaledNumber negative significand
        (clampExponent (if downwards then start - (e : Int) else start + (e : Int))) rest
    -- The exponent is out of range. The digits after the one that made it so still count as its own
    -- where the number is zero, and as what follows where it is too large.
    | (_, _ :: more) =>
      if significand ≠ 0 ∧ downwards = false then .error (.before .numberOutOfRange (more ++ rest))
      else .ok (signed negative Binary64.zero, rest)

/-- Reads an exponent with its sign, after the letter `e`. -/
def readExponent (negative : Bool) (significand : Nat) (start : Int) :
    List Char → Except Fault (Number × List Char)
  | '+' :: rest => readExponentDigits negative significand start false rest
  | '-' :: rest => readExponentDigits negative significand start true rest
  | rest => readExponentDigits negative significand start false rest

def isExponentMark (c : Char) : Bool := c == 'e' || c == 'E'

/-- Finishes a number after its digits: with an exponent, if there is one. -/
def finishReal (negative : Bool) (significand : Nat) (exponent : Int) :
    List Char → Except Fault (Number × List Char)
  | [] => scaledNumber negative significand exponent []
  | c :: rest =>
    if isExponentMark c then readExponent negative significand exponent rest
    else scaledNumber negative significand exponent (c :: rest)

/-- Reads the digits after the point. `dropped` digits of the integer part were too many. -/
def readFraction (negative : Bool) (significand dropped : Nat) (input : List Char) :
    Except Fault (Number × List Char) :=
  match input.takeWhile Char.isDigit, input.dropWhile Char.isDigit with
  | [], [] => .error (.before .endInValue [])
  | [], rest => .error (.atNext .badNumber rest)
  | digits, rest =>
    let (significand, left) := absorb (twoTo 64) significand digits
    finishReal negative significand ((dropped : Int) - ((digits.length - left.length : Nat) : Int))
      rest

def finishNumber (negative : Bool) (digits : List Char) (input : List Char) :
    Except Fault (Number × List Char) :=
  let (significand, left) := absorb (twoTo 64) 0 digits
  match input with
  | '.' :: rest => readFraction negative significand left.length rest
  | rest =>
    if left.isEmpty && !(rest.head?.any isExponentMark) then
      .ok (integer negative significand, rest)
    else finishReal negative significand left.length rest

/-- Reads a number after its sign: no second digit follows a leading zero. -/
def readUnsigned (negative : Bool) (input : List Char) : Except Fault (Number × List Char) :=
  match input.takeWhile Char.isDigit, input.dropWhile Char.isDigit with
  | [], [] => .error (.before .endInValue [])
  | [], rest => .error (.atNext .badNumber rest)
  | '0' :: d :: digits, rest => .error (.atNext .badNumber (d :: digits ++ rest))
  | digits, rest => finishNumber negative digits rest

def readNumber : List Char → Except Fault (Number × List Char)
  | '-' :: rest => readUnsigned true rest
  | rest => readUnsigned false rest

/-- What follows digits, if there is at least one. -/
def skipDigits (input : List Char) : Option (List Char) :=
  if input.head?.any Char.isDigit then some (input.dropWhile Char.isDigit) else none

/-- What follows an exponent, if one stands next and has digits. -/
def skipExponent : List Char → Option (List Char)
  | [] => some []
  | c :: rest =>
    if isExponentMark c then
      match rest with
      | '+' :: digits => skipDigits digits
      | '-' :: digits => skipDigits digits
      | digits => skipDigits digits
    else some (c :: rest)

/-- What follows the digits after a point and an exponent, where they stand next. -/
def skipFraction : List Char → Option (List Char)
  | '.' :: rest => (skipDigits rest).bind skipExponent
  | rest => skipExponent rest

/-- What follows a number after its sign; no second digit follows a leading zero. -/
def skipUnsigned : List Char → Option (List Char)
  | '0' :: rest => if rest.head?.any Char.isDigit then none else skipFraction rest
  | rest => (skipDigits rest).bind skipFraction

/-- What follows a number literal, of any magnitude. -/
def skipNumber : List Char → Option (List Char)
  | '-' :: rest => skipUnsigned rest
  | rest => skipUnsigned rest

/-- Doubles are written positionally for leading exponents from -5 to 15, else with an `e`. -/
def doubleLayout : Decimal.Layout := ⟨-5, 15, 'e'⟩

def integerChars (n : Int) : List Char :=
  if n < 0 then '-' :: Nat.toDigits 10 n.natAbs else Nat.toDigits 10 n.natAbs

def doubleChars (x : Binary64) : List Char :=
  let digits := if x.isZero then ['0', '.', '0'] else doubleLayout.write (Decimal.shortest x)
  if x.isNegative then '-' :: digits else digits

def Number.chars : Number → List Char
  | .whole value _ => integerChars value
  | .real value => doubleChars value

end UiScaffold.Json
