import UiScaffold.Text.Letters
import UiScaffold.Text.Casing

/-!
Titles.

A name is cut at every character that is no letter and no number, and further at changes of case: an
upper-case letter after lower case starts a word, and so does the last upper-case letter of several
when a lower-case letter follows it. A title has the words capitalised, with one blank in between.
-/

set_option autoImplicit false
set_option relaxedAutoImplicit false

namespace UiScaffold.Text

/-- What the last cased character of a word was. -/
inductive CaseMode where
  | boundary
  | lower
  | upper
deriving DecidableEq, Repr

/-- The mode after a character; a character without case changes nothing. -/
def CaseMode.after (mode : CaseMode) (c : Char) : CaseMode :=
  if isLowercase c then lower else if isUppercase c then upper else mode

/-- The words of a piece without separators. `word` holds the characters of the open word, the last
one first. -/
def caseWords (mode : CaseMode) (word : List Char) : List Char → List (List Char)
  | [] => [word.reverse]
  | [c] => [(c :: word).reverse]
  | c :: next :: rest =>
    let after := mode.after c
    if after = .lower ∧ isUppercase next = true then
      (c :: word).reverse :: caseWords .boundary [] (next :: rest)
    else if mode = .upper ∧ isUppercase c = true ∧ isLowercase next = true then
      word.reverse :: caseWords .boundary [c] (next :: rest)
    else caseWords after (c :: word) (next :: rest)

/-- The pieces of a name between characters that are no letters and no numbers. -/
def namePieces (held : List Char) : List Char → List (List Char)
  | [] => if held = [] then [] else [held.reverse]
  | c :: rest =>
    if isAlphanumeric c then namePieces (c :: held) rest
    else if held = [] then namePieces [] rest
    else held.reverse :: namePieces [] rest

def words (name : String) : List (List Char) :=
  (namePieces [] name.toList).flatMap (caseWords .boundary [])

/-- Lower case, with the final form of a sigma at the end. -/
def lowerTail : List Char → List Char
  | [] => []
  | ['Σ'] => ['ς']
  | c :: rest => toLower c ++ lowerTail rest

def capitalize : List Char → List Char
  | [] => []
  | c :: rest => toUpper c ++ lowerTail rest

def title (name : String) : String :=
  " ".intercalate ((words name).map fun word => String.ofList (capitalize word))

end UiScaffold.Text
