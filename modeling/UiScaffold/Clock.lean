/-!
Time stamps.

An instant counts seconds and nanoseconds from the start of 1970. It is written in the proleptic
Gregorian calendar with milliseconds. A count of nanoseconds beyond a second stands for a leap
second, which is written as the second sixty.
-/

set_option autoImplicit false
set_option relaxedAutoImplicit false

namespace UiScaffold

structure Instant where
  seconds : Int
  nanoseconds : Nat
deriving DecidableEq, Repr

structure Date where
  year : Int
  month : Nat
  day : Nat
deriving DecidableEq, Repr

/-- The date of a day counted from the start of 1970. Years start in March here, so that a leap day
is the last day of its year; an era is four hundred years. -/
def Date.ofDay (day : Int) : Date :=
  -- So many days lie between the first of March of the year 0 and the start of 1970.
  let shifted := day + 719468
  let era := shifted.fdiv 146097
  let dayOfEra := (shifted.fmod 146097).toNat
  let yearOfEra := (dayOfEra - dayOfEra / 1460 + dayOfEra / 36524 - dayOfEra / 146096) / 365
  let dayOfYear := dayOfEra - (365 * yearOfEra + yearOfEra / 4 - yearOfEra / 100)
  let monthFromMarch := (5 * dayOfYear + 2) / 153
  let month := if monthFromMarch < 10 then monthFromMarch + 3 else monthFromMarch - 9
  { year := era * 400 + Int.ofNat yearOfEra + (if month ≤ 2 then 1 else 0)
    month := month
    day := dayOfYear - (153 * monthFromMarch + 2) / 5 + 1 }

def padded (width n : Nat) : String :=
  let digits := Nat.toDigits 10 n
  String.ofList (List.replicate (width - digits.length) '0' ++ digits)

/-- A year of four digits; years outside 0 to 9999 have a sign. -/
def yearText (year : Int) : String :=
  if 0 ≤ year ∧ year ≤ 9999 then padded 4 year.toNat
  else (if year < 0 then "-" else "+") ++ padded 4 year.natAbs

def Instant.stamp (instant : Instant) : String :=
  let date := Date.ofDay (instant.seconds.fdiv 86400)
  let secondOfDay := (instant.seconds.fmod 86400).toNat
  -- As many nanoseconds as a second has, or more, stand for a leap second.
  let second := secondOfDay % 60 + instant.nanoseconds / 1000000000
  yearText date.year ++ "-" ++ padded 2 date.month ++ "-" ++ padded 2 date.day ++ "T" ++
    padded 2 (secondOfDay / 3600) ++ ":" ++ padded 2 (secondOfDay / 60 % 60) ++ ":" ++
    padded 2 second ++ "." ++ padded 3 (instant.nanoseconds % 1000000000 / 1000000) ++ "Z"

end UiScaffold
