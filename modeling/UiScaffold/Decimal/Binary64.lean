import UiScaffold.Decimal.Power

/-!
Double-precision numbers as 64-bit words, with exact integer arithmetic.

A finite word stands for `± significand * 2 ^ exponent`. A quotient of naturals is rounded to the
nearest word, a tie to the even one; sum, product and quotient of two words are the exact results
rounded in this way, so everything here reduces in the kernel.
-/

set_option autoImplicit false
set_option relaxedAutoImplicit false

namespace UiScaffold

/-- A double-precision number, given by its word. -/
structure Binary64 where
  /-- Sign, eleven bits of exponent, fifty-two bits of fraction. -/
  bits : UInt64
deriving DecidableEq, Repr

namespace Binary64

/-- The word of positive infinity: all larger magnitudes are not numbers. -/
def infinityBits : Nat := 0x7FF0000000000000

def magnitude (x : Binary64) : Nat := x.bits.toNat % twoTo 63

def isNegative (x : Binary64) : Bool := twoTo 63 ≤ x.bits.toNat

def isInfinite (x : Binary64) : Bool := infinityBits ≤ x.magnitude

def isZero (x : Binary64) : Bool := x.magnitude == 0

/-- The factor of the power of two; subnormal words have no hidden bit. -/
def significand (x : Binary64) : Nat :=
  if x.magnitude / twoTo 52 = 0 then x.magnitude else twoTo 52 + x.magnitude % twoTo 52

/-- The exponent of two that goes with `significand`. -/
def exponent (x : Binary64) : Int :=
  if x.magnitude / twoTo 52 = 0 then -1074 else Int.ofNat (x.magnitude / twoTo 52) - 1075

/-- The word of a magnitude, capped at infinity. -/
def ofMagnitude (n : Nat) : Binary64 := ⟨UInt64.ofNat (min n infinityBits)⟩

def zero : Binary64 := ⟨0⟩

def neg (x : Binary64) : Binary64 :=
  ⟨UInt64.ofNat ((x.bits.toNat + twoTo 63) % twoTo 64)⟩

/-- A quotient of naturals rounded to a natural, a tie to the even one. -/
def roundQuotient (num den : Nat) : Nat :=
  let q := num / den
  let r := num % den
  if den < 2 * r || (2 * r == den && q % 2 == 1) then q + 1 else q

/-- `num / (den * 2 ^ k)` as a quotient of naturals. -/
def scaled (num den : Nat) (k : Int) : Nat × Nat :=
  (num * twoTo (-k).toNat, den * twoTo k.toNat)

/-- The exponent of two under which `num / den` has fifty-three bits, or the least exponent. -/
def fittingExponent (num den : Nat) : Int :=
  let guess : Int := Int.ofNat num.log2 - Int.ofNat den.log2 - 52
  let (n, d) := scaled num den guess
  max (-1074) (if n < d * twoTo 52 then guess - 1 else guess)

/-- The word nearest to `num / den`. -/
def ofRatio (num den : Nat) : Binary64 :=
  if num = 0 then zero
  else
    let k := fittingExponent num den
    let (n, d) := scaled num den k
    -- The hidden bit of the quotient is added to the field of the exponent, and so is the carry of
    -- a quotient that was rounded up to a power of two.
    ofMagnitude ((k + 1074).toNat * twoTo 52 + roundQuotient n d)

def ofNat (n : Nat) : Binary64 := ofRatio n 1

def powerOfTen (n : Nat) : Binary64 := ofRatio (tenTo n) 1

/-- `m * 2 ^ k` as a quotient of naturals. -/
def shifted (m : Nat) (k : Int) : Nat × Nat :=
  (m * twoTo k.toNat, twoTo (-k).toNat)

def add (x y : Binary64) : Binary64 :=
  let least := min x.exponent y.exponent
  let (n, d) := shifted (x.significand * twoTo (x.exponent - least).toNat +
    y.significand * twoTo (y.exponent - least).toNat) least
  ofRatio n d

def mul (x y : Binary64) : Binary64 :=
  let (n, d) := shifted (x.significand * y.significand) (x.exponent + y.exponent)
  ofRatio n d

/-- The quotient of two magnitudes; the divisor is not zero. -/
def div (x y : Binary64) : Binary64 :=
  let (n, d) := shifted x.significand (x.exponent - y.exponent)
  ofRatio n (d * y.significand)

end Binary64

end UiScaffold
