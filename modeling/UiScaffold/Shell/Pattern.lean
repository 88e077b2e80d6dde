import UiScaffold.FileSystem.Resolve
import UiScaffold.Shell.Bytewise

/-!
Patterns for texts and for the names of files.

A star stands for any text, a question mark for any character, and brackets for one of the
characters in them. Quoted characters stand for themselves, and so does one after a backslash.
-/

set_option autoImplicit false
set_option relaxedAutoImplicit false

namespace UiScaffold.Shell

/-- A character of a pattern, and whether it is quoted. -/
structure Mark where
  char : Char
  quoted : Bool
deriving DecidableEq, Repr

abbrev Pattern := List Mark

/-- A range of characters, or a named class of them. -/
inductive BracketItem where
  | range (low high : Char)
  | named (name : String)

/-- A unit of a pattern. -/
inductive PatternUnit where
  | exactly (c : Char)
  | anyText
  | anyChar
  | bracket (inverted : Bool) (items : List BracketItem)

def isGraphic (c : Char) : Bool := '!' ≤ c && c ≤ '~'

def isInClass (name : String) (c : Char) : Bool :=
  match name with
  | "alnum" => c.isAlphanum
  | "alpha" => c.isAlpha
  | "blank" => c == ' ' || c == '\t'
  | "cntrl" => c < ' ' || c == '\x7f'
  | "digit" => c.isDigit
  | "graph" => isGraphic c
  | "lower" => c.isLower
  | "print" => isGraphic c || c == ' '
  | "punct" => isGraphic c && !c.isAlphanum
  | "space" => c == ' ' || ('\t' ≤ c && c ≤ '\r')
  | "upper" => c.isUpper
  | "xdigit" => c.isDigit || ('a' ≤ c && c ≤ 'f') || ('A' ≤ c && c ≤ 'F')
  | _ => false

def classNames : List String :=
  ["alnum", "alpha", "blank", "cntrl", "digit", "graph", "lower", "print", "punct", "space",
    "upper", "xdigit"]

namespace BracketItem

def holds (c : Char) : BracketItem → Bool
  | range low high => low ≤ c && c ≤ high
  | named name => isInClass name c

end BracketItem

namespace Pattern

/-- Whether a mark is a character with a meaning. -/
def means (mark : Mark) (c : Char) : Bool := mark.char == c && !mark.quoted

def unescaped : Pattern → Pattern
  | ⟨'\\', false⟩ :: mark :: rest => { mark with quoted := true } :: unescaped rest
  | mark :: rest => mark :: unescaped rest
  | [] => []

def readClass? (marks : Pattern) : Option (BracketItem × Pattern) :=
  let name := String.ofList ((marks.takeWhile fun m => m.char.isLower).map (·.char))
  match marks.dropWhile fun m => m.char.isLower with
  | ⟨':', _⟩ :: ⟨']', _⟩ :: rest =>
    if classNames.contains name then some (.named name, rest) else none
  | _ => none

/-- Reads the items of a bracket up to its end. The first item may be a closing bracket. -/
def readItems : Nat → Bool → Pattern → Option (List BracketItem × Pattern)
  | 0, _, _ => none
  | _ + 1, _, [] => none
  | fuel + 1, isFirst, mark :: rest =>
    if means mark ']' && !isFirst then some ([], rest)
    else
      let (item, after) : BracketItem × Pattern :=
        match means mark '[', rest with
        | true, ⟨':', _⟩ :: more => (readClass? more).getD (.range '[' '[', rest)
        | _, ⟨'-', false⟩ :: high :: more =>
          if means high ']' then (.range mark.char mark.char, rest)
          else (.range mark.char high.char, more)
        | _, _ => (.range mark.char mark.char, rest)
      match readItems fuel false after with
      | some (items, rest) => some (item :: items, rest)
      | none => none

def readBracket (marks : Pattern) : Option (PatternUnit × Pattern) :=
  let (inverted, marks) := match marks with
    | ⟨'!', false⟩ :: rest => (true, rest)
    | _ => (false, marks)
  (readItems (marks.length + 1) true marks).map fun (items, rest) => (.bracket inverted items, rest)

def units : Nat → Pattern → List PatternUnit
  | 0, _ => []
  | _ + 1, [] => []
  | fuel + 1, mark :: rest =>
    if means mark '*' then .anyText :: units fuel rest
    else if means mark '?' then .anyChar :: units fuel rest
    else if means mark '[' then
      match readBracket rest with
      | some (unit, after) => unit :: units fuel after
      | none => .exactly '[' :: units fuel rest
    else .exactly mark.char :: units fuel rest

end Pattern

namespace PatternUnit

def takes (c : Char) : PatternUnit → Bool
  | exactly own => own == c
  | anyText => false
  | anyChar => true
  | bracket inverted items => items.any (·.holds c) != inverted

/-- Whether a star with units behind it takes a text: at each place the units may go on. -/
def starMatches (rest : List Char → Bool) : List Char → Bool
  | [] => rest []
  | c :: more => rest (c :: more) || starMatches rest more

def allMatch : List PatternUnit → List Char → Bool
  | [], text => text.isEmpty
  | .anyText :: rest, text => starMatches (allMatch rest) text
  | unit :: rest, text =>
    match text with
    | c :: more => unit.takes c && allMatch rest more
    | [] => false

end PatternUnit

namespace Pattern

def isMatch (pattern : Pattern) (text : List Char) : Bool :=
  let pattern := pattern.unescaped
  PatternUnit.allMatch (units (pattern.length + 1) pattern) text

def text (pattern : Pattern) : String := String.ofList (pattern.map (·.char))

/-- The lengths up to a length, the shortest first. -/
def lengths (length : Nat) : List Nat := List.range (length + 1)

/-- Takes the part of a text away that a pattern takes, at the chosen end. -/
def trim (pattern : Pattern) (atEnd longest : Bool) (text : List Char) : List Char :=
  let choices := if longest then (lengths text.length).reverse else lengths text.length
  let isTaken (length : Nat) : Bool :=
    isMatch pattern (if atEnd then text.drop (text.length - length) else text.take length)
  match choices.find? isTaken with
  | some length => if atEnd then text.take (text.length - length) else text.drop length
  | none => text

def isActive (pattern : Pattern) : Bool :=
  pattern.any fun mark => means mark '*' || means mark '?' || means mark '['

def steps (pattern : Pattern) : List Pattern :=
  pattern.foldr (fun mark steps => match steps with
    | step :: rest => if mark.char = '/' then [] :: step :: rest else (mark :: step) :: rest
    | [] => [[mark]]) [[]]

/-- The names of a directory that a step of a pattern takes. A dot in front is taken by a dot
only. -/
def namesIn (fs : FileSystem) (directory : String) (step : Pattern) : List String :=
  let path := pathOf (if directory = "" then "." else directory)
  match fs.locateDirectory path with
  | .error _ => []
  | .ok location =>
    let names := ["." , ".."] ++ (fs.names location).map spread
    names.filter fun name =>
      (name.toList.head? != some '.' || step.head?.map (·.char) == some '.') &&
        step.isMatch name.toList
where
  pathOf (text : String) : Path := .ofText (gatherText text)

/-- The files that steps of a pattern lead to from a directory, which is spelled with a slash at its
end. -/
def filesFrom (fs : FileSystem) (directory : String) : List Pattern → List String
  | [] => [directory]
  | [step] =>
    if step.isActive then (namesIn fs directory step).map (directory ++ ·)
    else
      let place := directory ++ step.text
      if (fs.linkStatus (.ofText (gatherText place))).isOk then [place] else []
  | step :: rest =>
    if step.isActive then
      (namesIn fs directory step).flatMap fun name => filesFrom fs (directory ++ name ++ "/") rest
    else filesFrom fs (directory ++ step.text ++ "/") rest

def precedes : List Char → List Char → Bool
  | [], _ => true
  | _ :: _, [] => false
  | a :: as, b :: bs => if a = b then precedes as bs else decide (a.toNat < b.toNat)

/-- The files that a pattern takes, in order. -/
def files (fs : FileSystem) (pattern : Pattern) : List String :=
  (filesFrom fs "" pattern.steps).mergeSort fun a b => precedes a.toList b.toList

end Pattern

end UiScaffold.Shell
