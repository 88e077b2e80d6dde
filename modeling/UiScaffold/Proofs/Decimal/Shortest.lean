import Mathlib.Tactic.Common
import Mathlib.Tactic.Linarith
import Mathlib.Tactic.Ring
import UiScaffold.Decimal.Shortest

/-!
The search for the shortest decimal ends.

A step of the grid with seventeen digits is shorter than the interval of the reals that round to the
number, so one of the two neighbours of the number on that grid lies inside, if not on a coarser
one. Zero never does. So a number that is not zero has a decimal with digits other than zero.
-/

set_option autoImplicit false
set_option relaxedAutoImplicit false

namespace UiScaffold.Decimal

private theorem twoTo_pos (n : Nat) : 0 < twoTo n := Nat.pow_pos (by decide)

private theorem tenTo_pos (n : Nat) : 0 < tenTo n := Nat.pow_pos (by decide)

private theorem tenTo_add (m n : Nat) : tenTo (m + n) = tenTo m * tenTo n := Nat.pow_add 10 m n

/-! ### The leading digit -/

private theorem le_of_width {n : Nat} (positive : 0 < n) : tenTo (width n - 1) ≤ n := by
  by_contra less
  rcases Nat.eq_zero_or_pos (width n - 1) with single | more
  · rw [single] at less
    exact less positive
  · have short : width n ≤ width n - 1 :=
      (Nat.length_toDigits_le_iff (by decide) more).mpr (Nat.not_le.mp less)
    omega

private theorem lt_tenTo_width (n : Nat) : n < tenTo (width n) :=
  (Nat.length_toDigits_le_iff (by decide) Nat.length_toDigits_pos).mp (Nat.le_refl (width n))

private theorem tenTo_leadingExponent_le {num den : Nat} (num_pos : 0 < num) (den_pos : 0 < den) :
    tenTo (leadingExponent num den).toNat * den ≤ num * tenTo (-leadingExponent num den).toNat := by
  unfold leadingExponent
  split
  · next large =>
    have whole : 0 < num / den := Nat.div_pos large den_pos
    have digits : 0 < width (num / den) := Nat.length_toDigits_pos
    have up : (Int.ofNat (width (num / den)) - 1).toNat = width (num / den) - 1 := by
      simp only [Int.ofNat_eq_natCast]
      omega
    have down : (-(Int.ofNat (width (num / den)) - 1)).toNat = 0 := by
      simp only [Int.ofNat_eq_natCast]
      omega
    rw [up, down]
    calc tenTo (width (num / den) - 1) * den
        ≤ num / den * den := Nat.mul_le_mul_right den (le_of_width whole)
      _ ≤ num := Nat.div_mul_le_self num den
      _ = num * tenTo 0 := (Nat.mul_one num).symm
  · next small =>
    have digits : 0 < width (den / num) := Nat.length_toDigits_pos
    simp only
    split
    · next fits =>
      have up : (1 - Int.ofNat (width (den / num))).toNat = 0 := by
        simp only [Int.ofNat_eq_natCast]
        omega
      have down : (-(1 - Int.ofNat (width (den / num)))).toNat = width (den / num) - 1 := by
        simp only [Int.ofNat_eq_natCast]
        omega
      rw [up, down]
      calc tenTo 0 * den = den := Nat.one_mul den
        _ ≤ num * tenTo (width (den / num) - 1) := fits
    · have up : (-Int.ofNat (width (den / num))).toNat = 0 := by
        simp only [Int.ofNat_eq_natCast]
        omega
      have down : (- -Int.ofNat (width (den / num))).toNat = width (den / num) := by
        simp only [Int.ofNat_eq_natCast]
        omega
      rw [up, down]
      have below : den < num * tenTo (width (den / num)) := by
        rw [Nat.mul_comm, ← Nat.div_lt_iff_lt_mul num_pos]
        exact lt_tenTo_width (den / num)
      calc tenTo 0 * den = den := Nat.one_mul den
        _ ≤ num * tenTo (width (den / num)) := Nat.le_of_lt below

/-! ### Grids -/

namespace Interval

variable (i : Interval) (p : Int)

/-- The factors by which the bounds of an interval and the points of a grid are compared. -/
private def scale : Nat := twoTo i.unit.toNat * tenTo (-p).toNat
private def step : Nat := twoTo (-i.unit).toNat * tenTo p.toNat

private def holds (c : Nat) : Bool :=
  if i.closed then i.low * i.scale p ≤ c * i.step p && c * i.step p ≤ i.high * i.scale p
  else i.low * i.scale p < c * i.step p && c * i.step p < i.high * i.scale p

/-- The last point of a grid that is not above the number. -/
private def below : Nat := i.value * i.scale p / i.step p

private theorem scale_pos : 0 < i.scale p := Nat.mul_pos (twoTo_pos _) (tenTo_pos _)

private theorem step_pos : 0 < i.step p := Nat.mul_pos (twoTo_pos _) (tenTo_pos _)

/-- The neighbour that is taken when one of them rounds to the number, or both and the lower one is
to be preferred or not. -/
private def pick (lower upper prefersLower : Bool) (below : Nat) : Option Nat :=
  match lower, upper with
  | true, true => if prefersLower then some below else some (below + 1)
  | true, false => some below
  | false, true => some (below + 1)
  | false, false => none

private theorem pick_cases (lower upper prefersLower : Bool) (below : Nat) :
    (∀ c, pick lower upper prefersLower below = some c →
      c = below ∧ lower = true ∨ c = below + 1 ∧ upper = true) ∧
    (pick lower upper prefersLower below = none → lower = false ∧ upper = false) := by
  refine ⟨fun c taken => ?_, fun none => ?_⟩
  · cases lower <;> cases upper <;> cases prefersLower <;> cases taken
    all_goals first | exact .inl ⟨rfl, rfl⟩ | exact .inr ⟨rfl, rfl⟩
  · cases lower <;> cases upper <;> cases prefersLower <;> cases none
    all_goals exact ⟨rfl, rfl⟩

private theorem onGrid_cases :
    (∀ c, i.onGrid p = some c → i.holds p c = true) ∧
      (i.onGrid p = none → i.holds p (i.below p) = false ∧ i.holds p (i.below p + 1) = false) := by
  obtain ⟨taken, refused⟩ := pick_cases (i.holds p (i.below p)) (i.holds p (i.below p + 1))
    (let down := i.value * i.scale p - i.below p * i.step p
      let up := (i.below p + 1) * i.step p - i.value * i.scale p
      down < up || (down == up && i.below p % 2 == 0)) (i.below p)
  refine ⟨fun c found => ?_, refused⟩
  rcases taken c found with ⟨rfl, inside⟩ | ⟨rfl, inside⟩
  · exact inside
  · exact inside

variable {i p}

private theorem holds_of_between {c : Nat} (above : i.low * i.scale p < c * i.step p)
    (under : c * i.step p < i.high * i.scale p) : i.holds p c = true := by
  unfold holds
  split
  · simp [Nat.le_of_lt above, Nat.le_of_lt under]
  · simp [above, under]

private theorem ne_zero_of_onGrid {c : Nat} (low : 0 < i.low) (found : i.onGrid p = some c) :
    c ≠ 0 := by
  rintro rfl
  have positive : 0 < i.low * i.scale p := Nat.mul_pos low (i.scale_pos p)
  have inside := (i.onGrid_cases p).1 0 found
  unfold holds at inside
  split at inside
  · simp only [Nat.zero_mul, Bool.and_eq_true, decide_eq_true_eq] at inside
    omega
  · simp only [Nat.zero_mul, Bool.and_eq_true, decide_eq_true_eq] at inside
    omega

private theorem onGrid_ne_none (low : i.low < i.value) (high : i.value < i.high)
    (fine : i.step p < (i.high - i.low) * i.scale p) : i.onGrid p ≠ none := by
  intro none
  obtain ⟨lower, upper⟩ := (i.onGrid_cases p).2 none
  have scale := i.scale_pos p
  have left : i.low * i.scale p < i.value * i.scale p := Nat.mul_lt_mul_of_pos_right low scale
  have right : i.value * i.scale p < i.high * i.scale p := Nat.mul_lt_mul_of_pos_right high scale
  have place : i.below p * i.step p ≤ i.value * i.scale p := Nat.div_mul_le_self _ _
  have next : i.value * i.scale p < (i.below p + 1) * i.step p := by
    rw [Nat.mul_comm (i.below p + 1)]
    exact Nat.lt_mul_div_succ _ (i.step_pos p)
  have far : i.below p * i.step p ≤ i.low * i.scale p := by
    by_contra inside
    rw [holds_of_between (Nat.not_le.mp inside) (Nat.lt_of_le_of_lt place right)] at lower
    cases lower
  have beyond : i.high * i.scale p ≤ (i.below p + 1) * i.step p := by
    by_contra inside
    rw [holds_of_between (Nat.lt_trans left next) (Nat.not_le.mp inside)] at upper
    cases upper
  rw [Nat.sub_mul] at fine
  rw [Nat.add_mul, Nat.one_mul] at beyond
  omega

end Interval

private theorem stripZeros_ne_zero (fuel : Nat) {d : Decimal} (h : d.digits ≠ 0) :
    (stripZeros fuel d).digits ≠ 0 := by
  induction fuel generalizing d with
  | zero => exact h
  | succ fuel ih =>
    rw [stripZeros]
    split
    · next ends =>
      refine ih (d := ⟨d.digits / 10, d.exponent + 1⟩) ?_
      change d.digits / 10 ≠ 0
      omega
    · exact h

private theorem Interval.search_ne_zero {i : Interval} (low : 0 < i.low) {tries : Nat} {p : Int}
    (found : ∃ j < tries, i.onGrid (p - (j : Nat)) ≠ none) : (i.search tries p).digits ≠ 0 := by
  induction tries generalizing p with
  | zero =>
    obtain ⟨j, less, -⟩ := found
    cases less
  | succ tries ih =>
    rw [search]
    cases grid : i.onGrid p with
    | some c => exact stripZeros_ne_zero 20 (Interval.ne_zero_of_onGrid low grid)
    | none =>
      obtain ⟨j, less, inside⟩ := found
      cases j with
      | zero =>
        rw [Nat.cast_zero, Int.sub_zero] at inside
        exact absurd grid inside
      | succ j =>
        refine ih ⟨j, Nat.lt_of_succ_lt_succ less, ?_⟩
        have same : p - 1 - (j : Int) = p - ((j + 1 : Nat) : Int) := by omega
        rwa [same]

/-! ### Doubles -/

private theorem significand_bounds {x : Binary64} (h : x.isZero = false) :
    0 < x.significand ∧ x.significand < twoTo 53 := by
  have some_magnitude : x.magnitude ≠ 0 := by
    simpa [Binary64.isZero] using h
  have half : twoTo 52 = 4503599627370496 := rfl
  have whole : twoTo 53 = 9007199254740992 := rfl
  unfold Binary64.significand
  rw [half, whole]
  split <;> omega

/-- The bounds of the interval stand around the number, so far apart that the number is less than
ten to the sixteenth of their distances. -/
private theorem interval_bounds {x : Binary64} (h : x.isZero = false) :
    0 < (Interval.of x).low ∧ (Interval.of x).low < (Interval.of x).value ∧
      (Interval.of x).value < (Interval.of x).high ∧
      (Interval.of x).value < ((Interval.of x).high - (Interval.of x).low) * tenTo 16 := by
  obtain ⟨positive, less⟩ := significand_bounds h
  have half : twoTo 52 = 4503599627370496 := rfl
  have whole : twoTo 53 = 9007199254740992 := rfl
  have parts : tenTo 16 = 10000000000000000 := rfl
  rw [whole] at less
  rw [parts]
  by_cases narrow : (x.significand == twoTo 52 && decide (1 < x.magnitude / twoTo 52)) = true
  · have low : (Interval.of x).low = 4 * x.significand - 1 := if_pos narrow
    have exactly : x.significand = twoTo 52 := by
      simp only [Bool.and_eq_true, beq_iff_eq] at narrow
      exact narrow.1
    rw [low, exactly, half]
    change _ ∧ _ < 4 * x.significand ∧ 4 * x.significand < 4 * x.significand + 2 ∧
      4 * x.significand < (4 * x.significand + 2 - _) * _
    rw [exactly, half]
    omega
  · have low : (Interval.of x).low = 4 * x.significand - 2 := if_neg narrow
    rw [low]
    change _ ∧ _ < 4 * x.significand ∧ 4 * x.significand < 4 * x.significand + 2 ∧
      4 * x.significand < (4 * x.significand + 2 - _) * _
    omega

private theorem step_lt {x : Binary64} (h : x.isZero = false) {lead : Int}
    (leads : tenTo lead.toNat * twoTo (-(Interval.of x).unit).toNat ≤
      (Interval.of x).value * twoTo (Interval.of x).unit.toNat * tenTo (-lead).toNat) :
    (Interval.of x).step (lead - 16) <
      ((Interval.of x).high - (Interval.of x).low) * (Interval.of x).scale (lead - 16) := by
  obtain ⟨-, -, -, wide⟩ := interval_bounds h
  have powers : tenTo lead.toNat * tenTo (-(lead - 16)).toNat =
      tenTo (lead - 16).toNat * tenTo 16 * tenTo (-lead).toNat := by
    rw [← tenTo_add, ← tenTo_add, ← tenTo_add]
    congr 1
    omega
  unfold Interval.step Interval.scale
  generalize (Interval.of x).high - (Interval.of x).low = width at wide ⊢
  generalize Interval.of x = i at leads wide ⊢
  have positive : 0 < twoTo i.unit.toNat * tenTo (-lead).toNat * tenTo (-(lead - 16)).toNat :=
    Nat.mul_pos (Nat.mul_pos (twoTo_pos _) (tenTo_pos _)) (tenTo_pos _)
  generalize tenTo (-(lead - 16)).toNat = fine at powers positive ⊢
  generalize tenTo (lead - 16).toNat = coarse at powers ⊢
  generalize tenTo (-lead).toNat = down at powers leads positive
  generalize twoTo (-i.unit).toNat = den at leads ⊢
  generalize twoTo i.unit.toNat = num at leads positive ⊢
  refine Nat.lt_of_mul_lt_mul_right (a := tenTo 16 * down) ?_
  calc den * coarse * (tenTo 16 * down)
      = coarse * tenTo 16 * down * den := by ring
    _ = tenTo lead.toNat * den * fine := by rw [← powers]; ring
    _ ≤ i.value * num * down * fine := Nat.mul_le_mul_right fine leads
    _ = i.value * (num * down * fine) := by ring
    _ < width * tenTo 16 * (num * down * fine) := Nat.mul_lt_mul_of_pos_right wide positive
    _ = width * (num * fine) * (tenTo 16 * down) := by ring

/-- The shortest decimal of a number that is not zero is not zero. -/
theorem shortest_ne_zero {x : Binary64} (h : x.isZero = false) : (shortest x).digits ≠ 0 := by
  obtain ⟨low, below, above, -⟩ := interval_bounds h
  have num_pos : 0 < (Interval.of x).value * twoTo (Interval.of x).unit.toNat :=
    Nat.mul_pos (Nat.lt_of_le_of_lt (Nat.zero_le _) below) (twoTo_pos _)
  have den_pos : 0 < twoTo (-(Interval.of x).unit).toNat := twoTo_pos _
  have leads := tenTo_leadingExponent_le num_pos den_pos
  exact Interval.search_ne_zero low
    ⟨16, by decide, Interval.onGrid_ne_none below above (step_lt h leads)⟩

end UiScaffold.Decimal
