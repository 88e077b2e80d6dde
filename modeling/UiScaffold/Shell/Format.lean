import UiScaffold.Shell.Directive
import UiScaffold.Shell.Integer
import UiScaffold.Shell.Printing

/-!
What the command `printf` writes.

A format is a text with directives, each of which shows an argument. The format is used again as
long as arguments are left and it takes some. An argument that is no number counts as what it starts
with, and is complained about.
-/

set_option autoImplicit false
set_option relaxedAutoImplicit false

namespace UiScaffold.Shell

/-- What a format has written, and what it has left. -/
structure Formatting where
  /-- The bytes that were written, the last one first. -/
  written : List Char
  arguments : List String
  /-- The complaints about arguments, the last one first. -/
  complaints : List String

/-- Why a format ends early. -/
inductive FormatStop where
  /-- An argument said so. -/
  | asked
  | missingLetter
  | invalid (directive : String)
deriving DecidableEq, Repr

def FormatStop.message? : FormatStop → Option String
  | asked => none
  | missingLetter => some "missing format character"
  | invalid directive => some (directive ++ ": invalid directive")

abbrev Format := EStateM FormatStop Formatting

namespace Format

def write (chars : List Char) : Format Unit := modify fun state =>
  { state with written := chars.reverse ++ state.written }

def complain (text : String) : Format Unit := modify fun state =>
  { state with complaints := text :: state.complaints }

def next? : Format (Option String) := do
  let state ← get
  set { state with arguments := state.arguments.tail }
  return state.arguments.head?

def check (argument : String) (rest : List Char) (tooLarge : Bool) : Format Unit := do
  if rest ≠ [] then
    if rest.length = argument.length then complain (argument ++ ": expected numeric value")
    else complain (argument ++ ": not completely converted")
  else if tooLarge then complain (argument ++ ": Numerical result out of range")

/-- The first character after a quote, as a number. -/
def quotedCode? (argument : String) : Option Nat :=
  match argument.toList with
  | '\"' :: rest | '\x27' :: rest => some ((rest.head?.map Char.toNat).getD 0)
  | _ => none

def nextSigned : Format Int64 := do
  let some argument ← next? | return 0
  match quotedCode? argument with
  | some code => return Int64.ofNat code
  | none =>
    match numberFront? true argument.toList with
    | some front =>
      check argument front.rest front.isTooLarge
      return front.value
    | none =>
      check argument argument.toList false
      return 0

/-- Takes the next argument as a number without a sign; a negative one wraps around. -/
def nextUnsigned : Format UInt64 := do
  let some argument ← next? | return 0
  match quotedCode? argument with
  | some code => return UInt64.ofNat code
  | none =>
    match numberFront? true argument.toList with
    | some front =>
      let tooLarge := decide (18446744073709551616 ≤ front.size)
      check argument front.rest tooLarge
      if tooLarge then return 18446744073709551615
      else return if front.isNegative then -(UInt64.ofNat front.size) else UInt64.ofNat front.size
    | none =>
      check argument argument.toList false
      return 0

/-- A decimal fraction at the front of a text. -/
structure FractionFront where
  isNegative : Bool
  value : Binary64
  rest : List Char

/-- The exponent at the front of a text: its value and the rest. -/
def exponentFront (text : List Char) : Int × List Char :=
  match text with
  | e :: rest =>
    if e = 'e' ∨ e = 'E' then
      let (isNegative, digits) := match rest with
        | '-' :: digits => (true, digits)
        | '+' :: digits => (false, digits)
        | digits => (false, digits)
      match digits.takeWhile Char.isDigit with
      | [] => (0, text)
      | found =>
        let size := Int.ofNat (digitsValue 10 found)
        (if isNegative then -size else size, digits.dropWhile Char.isDigit)
    else (0, text)
  | [] => (0, [])

def fractionFront? (text : List Char) : Option FractionFront :=
  let (isNegative, text) := match text.dropWhile isNumberBlank with
    | '-' :: rest => (true, rest)
    | '+' :: rest => (false, rest)
    | rest => (false, rest)
  let whole := text.takeWhile Char.isDigit
  let (part, rest) := match text.dropWhile Char.isDigit with
    | '.' :: rest => (rest.takeWhile Char.isDigit, rest.dropWhile Char.isDigit)
    | rest => ([], rest)
  if whole = [] ∧ part = [] then none
  else
    let (exponent, rest) := exponentFront rest
    let digits := digitsValue 10 (whole ++ part)
    let shift := max (-400) (min 400 (exponent - Int.ofNat part.length))
    some ⟨isNegative, Binary64.ofRatio (digits * tenTo shift.toNat) (tenTo (-shift).toNat), rest⟩

def nextFraction : Format (Bool × Binary64) := do
  let some argument ← next? | return (false, .zero)
  match quotedCode? argument with
  | some code => return (false, .ofNat code)
  | none =>
    match fractionFront? argument.toList with
    | some front =>
      check argument front.rest false
      return (front.isNegative, front.value)
    | none =>
      check argument argument.toList false
      return (false, .zero)

def isFlag (c : Char) : Bool := c == '#' || c == '-' || c == '+' || c == ' ' || c == '0'

/-- Reads a count at the front: digits, or the value of the next argument for a star. -/
def readCount (text : List Char) : Format (Option Int × List Char) := do
  match text with
  | '*' :: rest => return (some (← nextSigned).toInt, rest)
  | _ =>
    match text.takeWhile Char.isDigit with
    | [] => return (none, text)
    | digits => return (some (Int.ofNat (digitsValue 10 digits)), text.dropWhile Char.isDigit)

/-- Reads a precision at the front, if there is a point. -/
def readPrecision (text : List Char) : Format (Option Nat × List Char) := do
  match text with
  | '.' :: rest =>
    let (count?, rest) ← readCount rest
    let count := count?.getD 0
    return (if count < 0 then none else some count.toNat, rest)
  | _ => return (none, text)

/-- Shows an argument as a directive with a letter says; `spelling` is the whole directive. -/
def render (directive : Directive) (letter : Char) (spelling : String) : Format Unit := do
  if letter = 's' then write (directive.text ((← next?).getD "").toList)
  else if letter = 'b' then
    let (bytes, goesOn) := unescaped ((← next?).getD "")
    write (directive.text (bytes.map fun b => Char.ofNat b.toNat))
    if !goesOn then throw .asked
  else if letter = 'c' then
    let first := (((← next?).getD "").toList.head?).getD '\x00'
    write (directive.fill false [] [first])
  else if letter = 'd' ∨ letter = 'i' then write (directive.signed (← nextSigned))
  else if "ouxX".toList.contains letter then
    write (directive.unsigned letter (← nextUnsigned))
  else if "eEfFgG".toList.contains letter then
    let (isNegative, value) ← nextFraction
    write (directive.fraction letter isNegative value)
  else throw (.invalid spelling)

/-- Carries out a directive after its percent sign and gives the rest of the format. -/
def runDirective (text : List Char) : Format (List Char) := do
  let flags := text.takeWhile isFlag
  let (width?, rest) ← readCount (text.dropWhile isFlag)
  let (precision, rest) ← readPrecision rest
  let width := width?.getD 0
  match rest with
  | [] => throw .missingLetter
  | letter :: rest =>
    let spelling := String.ofList ('%' :: text.take (text.length - rest.length))
    let directive : Directive := {
      isLeft := flags.contains '-' || decide (width < 0)
      isAlternate := flags.contains '#'
      showsPlus := flags.contains '+'
      showsSpace := flags.contains ' '
      padsZeros := flags.contains '0'
      width := width.natAbs
      precision }
    render directive letter spelling
    return rest

def runOnce : Nat → List Char → Format Unit
  | 0, _ => return ()
  | _ + 1, [] => return ()
  | fuel + 1, '\\' :: rest => do
    let (bytes, rest) := readEscape rest
    write (bytes.map fun b => Char.ofNat b.toNat)
    runOnce fuel rest
  | fuel + 1, '%' :: '%' :: rest => do
    write ['%']
    runOnce fuel rest
  | fuel + 1, '%' :: rest => do runOnce fuel (← runDirective rest)
  | fuel + 1, c :: rest => do
    write [c]
    runOnce fuel rest

/-- Goes through a format as long as it takes arguments and some are left. -/
def runAll (format : List Char) : Nat → Format Unit
  | 0 => return ()
  | fuel + 1 => do
    let before := (← get).arguments.length
    runOnce (format.length + 1) format
    let after := (← get).arguments.length
    if after ≠ 0 ∧ after < before then runAll format fuel

end Format

/-- What a format writes with arguments, the complaints about them, and what ended it early. -/
def format (format : String) (arguments : List String) :
    String × List String × Option FormatStop :=
  let result (state : Formatting) (stop? : Option FormatStop) :=
    (String.ofList state.written.reverse, state.complaints.reverse, stop?)
  match Format.runAll format.toList (arguments.length + 1) ⟨[], arguments, []⟩ with
  | .ok () state => result state none
  | .error stop state => result state (some stop)

end UiScaffold.Shell
