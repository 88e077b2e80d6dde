import UiScaffold.Decimal.Shortest

/-!
How numbers and texts are laid out by the directives of a format.

A width fills with blanks or zeros, a precision gives the least digits of an integer, the places of
a fraction or the most characters of a text.
-/

set_option autoImplicit false
set_option relaxedAutoImplicit false

namespace UiScaffold.Shell

/-- How a directive lays out what it shows. -/
structure Directive where
  isLeft : Bool
  isAlternate : Bool
  showsPlus : Bool
  showsSpace : Bool
  padsZeros : Bool
  width : Nat
  precision : Option Nat

namespace Directive

/-- Fills a text up to the width. A sign stays in front of zeros. -/
def fill (directive : Directive) (zeros : Bool) (sign body : List Char) : List Char :=
  let gap := directive.width - (sign.length + body.length)
  if directive.isLeft then sign ++ body ++ List.replicate gap ' '
  else if zeros then sign ++ List.replicate gap '0' ++ body
  else List.replicate gap ' ' ++ sign ++ body

def sign (directive : Directive) (isNegative : Bool) : List Char :=
  if isNegative then ['-']
  else if directive.showsPlus then ['+']
  else if directive.showsSpace then [' ']
  else []

/-- Digits with zeros in front up to the precision; zero has none under the precision zero. -/
def precise (directive : Directive) (digits : List Char) : List Char :=
  match directive.precision with
  | none => digits
  | some 0 => if digits = ['0'] then [] else digits
  | some least => List.replicate (least - digits.length) '0' ++ digits

def signed (directive : Directive) (value : Int64) : List Char :=
  directive.fill (directive.padsZeros && directive.precision.isNone)
    (directive.sign (decide (value < 0)))
    (directive.precise (Nat.toDigits 10 value.toInt.natAbs))

/-- A number without a sign, in the base of a letter. -/
def unsigned (directive : Directive) (letter : Char) (value : UInt64) : List Char :=
  let base := if letter = 'o' then 8 else if letter = 'u' then 10 else 16
  let digits := directive.precise (Nat.toDigits base value.toNat)
  let digits := if letter = 'X' then digits.map Char.toUpper else digits
  let (start, digits) : List Char × List Char :=
    if !directive.isAlternate then ([], digits)
    else if letter = 'o' then ([], if digits.head? = some '0' then digits else '0' :: digits)
    else if value = 0 || letter == 'u' then ([], digits)
    else (['0', letter], digits)
  directive.fill (directive.padsZeros && directive.precision.isNone) start digits

def text (directive : Directive) (chars : List Char) : List Char :=
  directive.fill false [] (match directive.precision with
    | some most => chars.take most
    | none => chars)

/-- The digits of a ratio with a number of places behind the point, a half going to the even
neighbour; the point stands there even without places if it is kept. -/
def fixed (num den places : Nat) (keepsPoint : Bool) : List Char :=
  let scaled := Binary64.roundQuotient (num * tenTo places) den
  let digits := Nat.toDigits 10 scaled
  let digits := List.replicate (places + 1 - digits.length) '0' ++ digits
  let whole := digits.take (digits.length - places)
  if places = 0 && !keepsPoint then whole
  else whole ++ '.' :: digits.drop (digits.length - places)

/-- The exponent of the first of some digits of a ratio after rounding, and the digits. -/
def scientific (num den places : Nat) : Int × List Char :=
  if num = 0 then (0, List.replicate (places + 1) '0')
  else
    let exponent := Decimal.leadingExponent num den
    let shift := Int.ofNat places - exponent
    let rounded := Binary64.roundQuotient (num * tenTo shift.toNat) (den * tenTo (-shift).toNat)
    let digits := Nat.toDigits 10 rounded
    if digits.length = places + 2 then (exponent + 1, digits.dropLast) else (exponent, digits)

/-- Digits with a point after the first one, and an exponent of two digits at least. -/
def withExponent (letter : Char) (exponent : Int) (digits : List Char) (keepsPoint : Bool) :
    List Char :=
  let power := Nat.toDigits 10 exponent.natAbs
  let power := if power.length = 1 then '0' :: power else power
  let mantissa := match digits with
    | first :: second :: rest => first :: '.' :: second :: rest
    | few => if keepsPoint then few ++ ['.'] else few
  mantissa ++ letter :: (if exponent < 0 then '-' else '+') :: power

/-- Drops the zeros at the end of a fraction, and its point if nothing stands behind it. -/
def dropZeros (digits : List Char) : List Char :=
  if digits.contains '.' then
    let kept := (digits.reverse.dropWhile (· == '0')).dropWhile (· == '.')
    kept.reverse
  else digits

/-- A fraction, in the notation of a letter. -/
def fraction (directive : Directive) (letter : Char) (isNegative : Bool)
    (value : Binary64) : List Char :=
  let sign := directive.sign isNegative
  if value.isInfinite then directive.fill false sign ['i', 'n', 'f']
  else
    let (num, den) := Binary64.shifted value.significand value.exponent
    let places := directive.precision.getD 6
    let body := match letter.toLower with
      | 'f' => fixed num den places directive.isAlternate
      | 'e' =>
        let (exponent, digits) := scientific num den places
        withExponent (if letter = 'E' then 'E' else 'e') exponent digits directive.isAlternate
      | _ =>
        let places := max 1 places
        let (exponent, digits) := scientific num den (places - 1)
        if exponent < -4 || Int.ofNat places ≤ exponent then
          let kept := match digits with
            | first :: rest =>
              if directive.isAlternate then digits
              else first :: (rest.reverse.dropWhile (· == '0')).reverse
            | [] => []
          withExponent (if letter = 'G' then 'E' else 'e') exponent kept directive.isAlternate
        else
          let after := (Int.ofNat places - 1 - exponent).toNat
          if directive.isAlternate then fixed num den after true
          else dropZeros (fixed num den after false)
    directive.fill directive.padsZeros sign body

end Directive

end UiScaffold.Shell
