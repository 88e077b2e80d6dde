import UiScaffold.Decimal.Binary64

/-!
The shortest decimal text of a double-precision number.

Among the decimals that round to the number, those with the fewest digits are taken, and of these
the nearest. For a given number of digits only the two neighbours of the number on that decimal grid
can round to it, so trying one to seventeen digits is enough. All comparisons are of naturals.
-/

set_option autoImplicit false
set_option relaxedAutoImplicit false

namespace UiScaffold

/-- A decimal `digits * 10 ^ exponent`. -/
structure Decimal where
  digits : Nat
  exponent : Int
deriving DecidableEq, Repr

namespace Decimal

/-- The reals that round to a number: the ends are multiples of `2 ^ unit`. -/
structure Interval where
  low : Nat
  value : Nat
  high : Nat
  /-- The exponent of two of the three bounds. -/
  unit : Int
  /-- Whether the ends round to the number too. -/
  closed : Bool

/-- The rounding interval of a positive finite number, in quarters of its last place. Below a power
of two the next number is half as far away. -/
def Interval.of (x : Binary64) : Interval :=
  let m := x.significand
  -- The least normal number has a subnormal neighbour at the full distance.
  let narrow := m == twoTo 52 && 1 < x.magnitude / twoTo 52
  { low := if narrow then 4 * m - 1 else 4 * m - 2
    value := 4 * m
    high := 4 * m + 2
    unit := x.exponent - 2
    closed := m % 2 == 0 }

def width (n : Nat) : Nat := (Nat.toDigits 10 n).length

def leadingExponent (num den : Nat) : Int :=
  if den ≤ num then Int.ofNat (width (num / den)) - 1
  else
    let w := width (den / num)
    if den ≤ num * tenTo (w - 1) then 1 - Int.ofNat w else - Int.ofNat w

/-- The nearest multiple of `10 ^ p` that rounds to the number, if there is one; of two equally near
ones the even one. -/
def Interval.onGrid (i : Interval) (p : Int) : Option Nat :=
  let scale := twoTo i.unit.toNat * tenTo (-p).toNat
  let step := twoTo (-i.unit).toNat * tenTo p.toNat
  let inside (c : Nat) : Bool :=
    if i.closed then i.low * scale ≤ c * step && c * step ≤ i.high * scale
    else i.low * scale < c * step && c * step < i.high * scale
  let target := i.value * scale
  let below := target / step
  match inside below, inside (below + 1) with
  | true, true =>
    let down := target - below * step
    let up := (below + 1) * step - target
    if down < up || (down == up && below % 2 == 0) then some below else some (below + 1)
  | true, false => some below
  | false, true => some (below + 1)
  | false, false => none

/-- Moves zeros at the end of the digits into the exponent; `fuel` bounds the number of digits. -/
def stripZeros : Nat → Decimal → Decimal
  | 0, d => d
  | fuel + 1, d =>
    if d.digits ≠ 0 ∧ d.digits % 10 = 0 then stripZeros fuel ⟨d.digits / 10, d.exponent + 1⟩ else d

/-- Tries grids of growing fineness, from `10 ^ p` downwards. -/
def Interval.search (i : Interval) : Nat → Int → Decimal
  | 0, p => ⟨0, p⟩
  | tries + 1, p =>
    match i.onGrid p with
    | some c => stripZeros 20 ⟨c, p⟩
    | none => i.search tries (p - 1)

/-- The shortest decimal that rounds to a positive finite number. -/
def shortest (x : Binary64) : Decimal :=
  let i := Interval.of x
  let (num, den) := Binary64.shifted i.value i.unit
  i.search 17 (leadingExponent num den)

/-- How a decimal is laid out. -/
structure Layout where
  /-- The leading exponents that are written positionally. -/
  positionalFrom : Int
  positionalTo : Int
  /-- Written between digits and exponent. -/
  mark : Char

def pointAfter (n : Nat) (digits : List Char) : List Char :=
  digits.take n ++ '.' :: digits.drop n

/-- Writes a decimal: positionally, always with a point, or with a signed exponent and no point
after a single digit. -/
def Layout.write (layout : Layout) (d : Decimal) : List Char :=
  let ds := Nat.toDigits 10 d.digits
  let lead : Int := d.exponent + Int.ofNat ds.length - 1
  if layout.positionalFrom ≤ lead ∧ lead ≤ layout.positionalTo then
    if lead < 0 then
      '0' :: '.' :: List.replicate ((-lead).toNat - 1) '0' ++ ds
    else if lead.toNat + 1 < ds.length then pointAfter (lead.toNat + 1) ds
    else ds ++ List.replicate (lead.toNat + 1 - ds.length) '0' ++ ['.', '0']
  else
    (if ds.length = 1 then ds else pointAfter 1 ds) ++
      layout.mark :: (if lead < 0 then '-' else '+') :: Nat.toDigits 10 lead.natAbs

end Decimal

end UiScaffold
