import UiScaffold.Shell.Integer
import UiScaffold.Shell.Pattern
import UiScaffold.Shell.State

/-!
Conditions, as the commands `test` and `[` take them.

Operands are compared, or asked about as texts and files. Negation binds tighter than `-a`, and that
tighter than `-o`. Three words with an operator in the middle are always a comparison.
-/

set_option autoImplicit false
set_option relaxedAutoImplicit false

namespace UiScaffold.Shell

/-- Why a condition has no answer. -/
inductive ConditionFault where
  | missingBracket
  | missingArgument (operator : String)
  | unexpectedOperator (word : String)
  | missingParenthesis
  | illegalNumber (text : String)
deriving DecidableEq, Repr

def ConditionFault.message : ConditionFault → String
  | missingBracket => "missing ]"
  | missingArgument operator => operator ++ ": argument expected"
  | unexpectedOperator word =>
    if word = "" then "unexpected operator" else word ++ ": unexpected operator"
  | missingParenthesis => "closing paren expected"
  | illegalNumber text => "Illegal number: " ++ text

namespace Condition

def queries : List String :=
  ["-r", "-w", "-x", "-e", "-f", "-d", "-c", "-b", "-p", "-u", "-g", "-k", "-s", "-t", "-z", "-n",
    "-h", "-L", "-O", "-G", "-S"]

def comparisons : List String :=
  ["=", "!=", "<", ">", "-eq", "-ne", "-ge", "-gt", "-le", "-lt", "-nt", "-ot", "-ef"]

def connectives : List String := ["!", "-a", "-o", "(", ")"]

/-- A word as it counts at its place. -/
inductive Role where
  | finish
  | operand
  | query (operator : String)
  | comparison (operator : String)
  | connective (sign : String)
deriving DecidableEq, Repr

def isOperand : List String → Bool
  | [] | [_] => true
  | [_, _] => false
  | _ :: next :: _ => comparisons.contains next

def role : List String → Role
  | [] => .finish
  | word :: rest =>
    if queries.contains word then
      if isOperand (word :: rest) then .operand else .query word
    else if comparisons.contains word then .comparison word
    else if connectives.contains word then
      if word = "(" ∧ rest = [] then .operand else .connective word
    else .operand

/-- The rest of the words of a condition, with the files that they are about. -/
structure Position where
  files : FileSystem
  words : List String

/-- A part of the judgement of a condition. -/
abbrev Judgement := EStateM ConditionFault Position

def roleAt (distance : Nat) : Judgement Role := return role ((← get).words.drop distance)

def skip (count : Nat) : Judgement Unit :=
  modify fun position => { position with words := position.words.drop count }

def numberOf (word : String) : Judgement Int := do
  match number? false word with
  | some value => return value.toInt
  | none => throw (.illegalNumber word)

def holdsOfFile (files : FileSystem) (operator operand : String) : Bool :=
  let path := pathOf operand
  let entry? := (files.status path).toOption
  match operator with
  | "-e" | "-r" | "-w" | "-O" | "-G" => entry?.isSome
  | "-f" => files.isFile path
  | "-d" => files.isDirectory path
  | "-s" => match entry? with
    | some (.file contents _) => contents.size != 0
    | some _ => true
    | none => false
  | "-x" => match entry? with
    | some (.file _ isExecutable) => isExecutable
    | some _ => true
    | none => false
  | "-L" | "-h" => match files.linkStatus path with
    | .ok (.link _) => true
    | _ => false
  | _ => false

/-- Whether a query holds. No descriptor leads to a terminal. -/
def holds (files : FileSystem) (operator operand : String) : Bool :=
  match operator with
  | "-z" => operand == ""
  | "-n" => operand != ""
  | _ => holdsOfFile files operator operand

def areSame (files : FileSystem) (first second : String) : Bool :=
  match files.locate (pathOf first), files.locate (pathOf second) with
  | .ok a, .ok b => a == b
  | _, _ => false

def comesBefore (first second : String) : Bool :=
  first != second && Pattern.precedes first.toList second.toList

def compare (operator first second : String) : Judgement Bool := do
  match operator with
  | "=" => return first == second
  | "!=" => return first != second
  | "<" => return comesBefore first second
  | ">" => return comesBefore second first
  | "-nt" | "-ot" => return false
  | "-ef" => return areSame (← get).files first second
  | _ =>
    let a ← numberOf first
    let b ← numberOf second
    match operator with
    | "-eq" => return a == b
    | "-ne" => return a != b
    | "-ge" => return decide (b ≤ a)
    | "-gt" => return decide (b < a)
    | "-le" => return decide (a ≤ b)
    | _ => return decide (a < b)

def judgeComparison (operator : String) : Judgement Bool := do
  match (← get).words with
  | first :: _ :: second :: _ =>
    skip 2
    compare operator first second
  | _ =>
    throw (.missingArgument operator)

mutual

/-- Whether one of several conditions between `-o` holds; the place stays on the last word. All of
them are judged. -/
def judgeAny : Nat → Role → Judgement Bool
  | 0, _ => return false
  | fuel + 1, role => do
    let first ← judgeAll fuel role
    if (← roleAt 1) = .connective "-o" then
      skip 2
      let others ← judgeAny fuel (← roleAt 0)
      return first || others
    else return first

def judgeAll : Nat → Role → Judgement Bool
  | 0, _ => return false
  | fuel + 1, role => do
    let first ← judgeOne fuel role
    if (← roleAt 1) = .connective "-a" then
      skip 2
      let others ← judgeAll fuel (← roleAt 0)
      return first && others
    else return first

def judgeOne : Nat → Role → Judgement Bool
  | 0, _ => return false
  | fuel + 1, role => do
    if role = .connective "!" then
      let next ← roleAt 1
      if next ≠ .finish then skip 1
      return !(← judgeOne fuel next)
    else judgePrimary fuel role

def judgePrimary : Nat → Role → Judgement Bool
  | 0, _ => return false
  | fuel + 1, role => do
    match role with
    | .finish => return false
    | .connective "(" =>
      skip 1
      let inner ← roleAt 0
      if inner = .connective ")" then return false
      let holds ← judgeAny fuel inner
      skip 1
      if (← roleAt 0) ≠ .connective ")" then throw .missingParenthesis
      return holds
    | .query operator =>
      skip 1
      match (← get).words with
      | [] => throw (.missingArgument operator)
      | operand :: _ =>
        if operator = "-t" then
          let _ ← numberOf operand
        return holds (← get).files operator operand
    | _ =>
      match ← roleAt 1 with
      | .comparison operator => judgeComparison operator
      | _ => return ((← get).words.headD "") != ""

end

/-- Judges words from their first role on. A word behind the last one that counts is a fault. -/
def judge (first : Role) : Judgement Bool := do
  let holds ← judgeAny (4 * (← get).words.length + 8) first
  match (← get).words with
  | word :: _ :: _ => throw (.unexpectedOperator word)
  | _ => return holds

/-- Judges the words of a condition. Negations in front of few words are taken off first, and
several of them count as one. -/
def judgeWords : Nat → Bool → Judgement Bool
  | 0, negated => return negated
  | fuel + 1, negated => do
    let words := (← get).words
    let isPlain : Bool := match words with
      | [_, operator, _] => comparisons.contains operator
      | _ => false
    if words = [] then return negated
    else if isPlain then return (← judge .operand) != negated
    else if words.length = 3 ∨ words.length = 4 then
      if words.head? = some "(" ∧ words.getLast? = some ")" then
        modify fun position => { position with words := words.tail.dropLast }
        return (← judge (← roleAt 0)) != negated
      else if words.head? = some "!" then
        skip 1
        judgeWords fuel true
      else return (← judge (← roleAt 0)) != negated
    else return (← judge (← roleAt 0)) != negated

end Condition

def holds? (files : FileSystem) (words : List String) : Except ConditionFault Bool :=
  match Condition.judgeWords (words.length + 1) false ⟨files, words⟩ with
  | .ok answer _ => .ok answer
  | .error fault _ => .error fault

end UiScaffold.Shell
