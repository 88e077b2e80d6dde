import UiScaffold.Decimal.Binary64

/-!
How similar two texts are.

Characters of two texts match when they are equal and stand not too far from each other. The score
counts the matches against both lengths, and the matches that stand in the same order against all
matches; it is the mean of these three ratios, in double precision.
-/

set_option autoImplicit false
set_option relaxedAutoImplicit false

namespace UiScaffold.Text

abbrev Mark := Char × Bool

/-- Matches a character with the first one that is free between two places, if there is one. -/
def claim? (c : Char) (low high : Nat) : List Mark → Option (List Mark)
  | [] => none
  | (d, taken) :: rest =>
    if high = 0 then none
    else if low = 0 ∧ taken = false ∧ d = c then some ((d, true) :: rest)
    else (claim? c (low - 1) (high - 1) rest).map ((d, taken) :: ·)

/-- Matches the characters of a text from a place on; gives those of both texts that are matched.
`reach` is how far apart matches may stand. -/
def matched (reach place : Nat) (other : List Mark) : List Char → List Char × List Mark
  | [] => ([], other)
  | c :: rest =>
    match claim? c (place - reach) (place + reach + 1) other with
    | some other =>
      let (found, other) := matched reach (place + 1) other rest
      (c :: found, other)
    | none => matched reach (place + 1) other rest

/-- The similarity of two texts, from zero to one. -/
def similarity (a b : String) : Binary64 :=
  let reach := max a.length b.length / 2 - 1
  let (found, marks) := matched reach 0 (b.toList.map fun c => (c, false)) a.toList
  let partners := (marks.filter (·.2)).map (·.1)
  let swapped := ((found.zip partners).filter fun (c, d) => c ≠ d).length / 2
  let hits := found.length
  if a = "" ∧ b = "" then Binary64.ofNat 1
  else if hits = 0 then Binary64.zero
  else
    let whole := (Binary64.ofRatio hits a.length).add (Binary64.ofRatio hits b.length)
    (whole.add (Binary64.ofRatio (hits - swapped) hits)).div (Binary64.ofNat 3)

def likeness : Binary64 := Binary64.ofRatio 7 10

/-- The text that was most probably meant by another one, the last of several. -/
def meant? (text : String) (candidates : List String) : Option String :=
  (candidates.foldl (fun best candidate =>
    let score := similarity text candidate
    if likeness.magnitude < score.magnitude &&
        best.all (fun (other : String × Binary64) => other.2.magnitude ≤ score.magnitude) then
      some (candidate, score)
    else best) none).map (·.1)

end UiScaffold.Text
