import UiScaffold.Shell.Integer
import UiScaffold.Shell.Word

/-!
Arithmetic in words.

Integers have sixty-four bits and wrap around. Names stand for variables, which can be assigned.
-/

set_option autoImplicit false
set_option relaxedAutoImplicit false

namespace UiScaffold.Shell

/-- Why an expression has no value. -/
inductive ArithmeticFault where
  | expecting (what : String)
  | divisionByZero
  /-- The value of a variable is no number. -/
  | illegalNumber (text : String)
  | readOnly (name : String)
deriving DecidableEq, Repr

def ArithmeticFault.message (expression : String) : ArithmeticFault → String
  | expecting what => "arithmetic expression: expecting " ++ what ++ ": \"" ++ expression ++ "\""
  | divisionByZero => "arithmetic expression: division by zero: \"" ++ expression ++ "\""
  | illegalNumber text => "Illegal number: " ++ text
  | readOnly name => name ++ ": is read only"

namespace Arithmetic

/-- A unit of an expression. -/
inductive Term where
  | number (value : Int64)
  | variable (name : String)
  | sign (spelling : String)
  | finish
deriving DecidableEq, Repr

/-- The signs, the longer ones before those that they start with. -/
def signs : List String :=
  ["<<=", ">>=", "<<", ">>", "<=", ">=", "==", "!=", "&&", "||", "&=", "|=", "^=", "+=", "-=", "*=",
    "/=", "%=", "<", ">", "=", "!", "~", "&", "|", "^", "+", "-", "*", "/", "%", "(", ")", "?", ":"]

def levels : List (List String) :=
  [["*", "/", "%"], ["+", "-"], ["<<", ">>"], ["<", "<=", ">", ">="], ["==", "!="], ["&"], ["^"],
    ["|"]]

/-- How loosely an operator binds. -/
def looseness? (operator : String) : Option Nat := levels.findIdx? (·.contains operator)

def assigning? (sign : String) : Option String :=
  if ["=", "<<=", ">>=", "&=", "|=", "^=", "+=", "-=", "*=", "/=", "%="].contains sign then
    some (String.ofList sign.toList.dropLast)
  else none

/-- Reads the next unit; what is none counts as a sign. -/
def nextTerm (text : List Char) : Term × List Char :=
  match text.dropWhile fun c => c == ' ' || c == '\t' || c == '\n' with
  | [] => (.finish, [])
  | c :: rest =>
    if c.isDigit then
      match unsignedFront? true false (c :: rest) with
      | some front => (.number front.value, front.rest)
      | none => (.sign "", rest)
    else if isNameStart c then
      (.variable (String.ofList (c :: rest.takeWhile isNameChar)), rest.dropWhile isNameChar)
    else match signs.find? fun s => s.toList.isPrefixOf (c :: rest) with
      | some sign => (.sign sign, (c :: rest).drop sign.length)
      | none => (.sign "", rest)

/-- What is left of an expression: the unit at hand and the text after it. The variables that were
assigned come first among all. -/
structure Position where
  term : Term
  rest : List Char
  value? : String → Option String
  isReadOnly : String → Bool
  assigned : List (String × String)

/-- A part of the evaluation of an expression. -/
abbrev Evaluation := EStateM ArithmeticFault Position

def advance : Evaluation Unit := modify fun position =>
  let (term, rest) := nextTerm position.rest
  { position with term, rest }

def numberOf (name : String) : Evaluation Int64 := do
  let position ← get
  let text := (position.assigned.lookup name).getD ((position.value? name).getD "")
  match number? true text with
  | some value => return value
  | none => throw (.illegalNumber text)

def assign (name : String) (value : Int64) : Evaluation Unit := do
  if (← get).isReadOnly name then throw (.readOnly name)
  modify fun position =>
    { position with assigned := (name, toString value.toInt) :: position.assigned }

def truth (holds : Bool) : Int64 := if holds then 1 else 0

def combine (operator : String) (a b : Int64) : Evaluation Int64 :=
  match operator with
  | "*" => return a * b
  | "/" => if b = 0 then throw .divisionByZero else return a / b
  | "%" => if b = 0 then throw .divisionByZero else return a % b
  | "+" => return a + b
  | "-" => return a - b
  | "<<" => return a <<< (b &&& 63)
  | ">>" => return a >>> (b &&& 63)
  | "<" => return truth (a < b)
  | "<=" => return truth (a ≤ b)
  | ">" => return truth (b < a)
  | ">=" => return truth (b ≤ a)
  | "==" => return truth (a == b)
  | "!=" => return truth (a != b)
  | "&" => return a &&& b
  | "^" => return a ^^^ b
  | "|" => return a ||| b
  | _ => return b

/-- The operator at hand, if it binds tighter than a limit. -/
def operatorBelow? (limit : Nat) : Evaluation (Option (String × Nat)) := do
  match (← get).term with
  | .sign sign =>
    match looseness? sign with
    | some looseness => return if looseness < limit then some (sign, looseness) else none
    | none => return none
  | _ => return none

def expect (sign : String) : Evaluation Unit := do
  if (← get).term = .sign sign then advance else throw (.expecting ("'" ++ sign ++ "'"))

mutual

/-- The value of an assignment or of what stands in its place. An expression that is `idle` is read
without being carried out. -/
def assignment : Nat → Bool → Evaluation Int64
  | 0, _ => throw (.expecting "primary")
  | fuel + 1, idle => do
    let position ← get
    match position.term with
    | .variable name =>
      match nextTerm position.rest with
      | (.sign sign, rest) =>
        match assigning? sign with
        | some operator =>
          set { position with rest }
          advance
          let value ← assignment fuel idle
          if idle then return value
          let value ← if operator = "" then pure value
            else combine operator (← numberOf name) value
          assign name value
          return value
        | none => conditional fuel idle
      | _ => conditional fuel idle
    | _ => conditional fuel idle

/-- The value of one of two expressions, as a third one decides. -/
def conditional : Nat → Bool → Evaluation Int64
  | 0, _ => throw (.expecting "primary")
  | fuel + 1, idle => do
    let test ← disjunction fuel idle
    if (← get).term = .sign "?" then
      advance
      let yes ← assignment fuel (idle || test == 0)
      expect ":"
      let no ← conditional fuel (idle || test != 0)
      return if test = 0 then no else yes
    else return test

def disjunction : Nat → Bool → Evaluation Int64
  | 0, _ => throw (.expecting "primary")
  | fuel + 1, idle => do
    let first ← conjunction fuel idle
    if (← get).term = .sign "||" then
      advance
      let second ← disjunction fuel (idle || first != 0)
      return truth (first != 0 || second != 0)
    else return first

def conjunction : Nat → Bool → Evaluation Int64
  | 0, _ => throw (.expecting "primary")
  | fuel + 1, idle => do
    let first ← binary fuel levels.length idle
    if (← get).term = .sign "&&" then
      advance
      let second ← conjunction fuel (idle || first == 0)
      return truth (first != 0 && second != 0)
    else return first

def binary : Nat → Nat → Bool → Evaluation Int64
  | 0, _, _ => throw (.expecting "primary")
  | fuel + 1, limit, idle => do
    extend fuel limit idle (← primary fuel idle)

/-- Goes on with the operators that bind tighter than a limit; they bind to the left. -/
def extend : Nat → Nat → Bool → Int64 → Evaluation Int64
  | 0, _, _, first => return first
  | fuel + 1, limit, idle, first => do
    match ← operatorBelow? limit with
    | some (operator, looseness) =>
      advance
      let second ← binary fuel looseness idle
      extend fuel limit idle (← if idle then pure second else combine operator first second)
    | none => return first

def primary : Nat → Bool → Evaluation Int64
  | 0, _ => throw (.expecting "primary")
  | fuel + 1, idle => do
    match (← get).term with
    | .number value =>
      advance
      return value
    | .variable name =>
      advance
      if idle then return 0 else numberOf name
    | .sign "(" =>
      advance
      let value ← assignment fuel idle
      expect ")"
      return value
    | .sign "+" =>
      advance
      primary fuel idle
    | .sign "-" =>
      advance
      return -(← primary fuel idle)
    | .sign "!" =>
      advance
      return truth ((← primary fuel idle) == 0)
    | .sign "~" =>
      advance
      return ~~~(← primary fuel idle)
    | _ => throw (.expecting "primary")

end

def whole (fuel : Nat) : Evaluation Int64 := do
  advance
  let value ← assignment fuel false
  if (← get).term ≠ .finish then throw (.expecting "EOF")
  return value

/-- The value of an expression and the variables that it assigned, the last one first. The variables
that were assigned before a fault keep their values. -/
def evaluate (value? : String → Option String) (isReadOnly : String → Bool) (expression : String) :
    Except ArithmeticFault Int64 × List (String × String) :=
  let text := expression.toList
  match whole (8 * text.length + 16) ⟨.finish, text, value?, isReadOnly, []⟩ with
  | .ok value position => (.ok value, position.assigned)
  | .error fault position => (.error fault, position.assigned)

end Arithmetic

end UiScaffold.Shell
