/-!
The words of the shell's language.

A word is a row of pieces. Some stand for themselves, others are filled in when a command is about
to run. Each piece knows whether it is quoted: what is quoted is not cut into several words, and
none of its characters has a meaning in patterns.
-/

set_option autoImplicit false
set_option relaxedAutoImplicit false

namespace UiScaffold.Shell

/-- What a word can take from the state of the shell. -/
inductive Parameter where
  | variable (name : String)
  /-- An argument of the script or function; the one before the first is the script itself. -/
  | argument (index : Nat)
  /-- All arguments, each of them a word. -/
  | arguments
  /-- All arguments in one text. -/
  | joined
  | count
  | status
  | process
  /-- The last process that runs in the background. -/
  | background
  | options
deriving DecidableEq, Repr

/-- What is done when a parameter has no value; the last one is for those that have one. -/
inductive Fallback where
  | use
  | assign
  | complain
  | replace
deriving DecidableEq, Repr

/-- The part of a value that is taken away if it matches a pattern. -/
structure Trimming where
  atEnd : Bool
  longest : Bool
deriving DecidableEq, Repr

inductive Piece where
  | text (text : String) (quoted : Bool)
  /-- A place where quotes stood, so that the word is there even if it is empty. -/
  | quotes
  | parameter (parameter : Parameter) (quoted : Bool)
  | length (parameter : Parameter) (quoted : Bool)
  /-- A parameter with a word for the case that it has no value; `orEmpty` tells whether an empty
  value counts as none. -/
  | fallback (parameter : Parameter) (kind : Fallback) (orEmpty : Bool) (word : List Piece)
      (quoted : Bool)
  | trimmed (parameter : Parameter) (trimming : Trimming) (pattern : List Piece) (quoted : Bool)
  /-- Braces after a dollar sign that hold nothing meaningful. -/
  | meaningless
  /-- What commands write; their text starts on a line. -/
  | output (commands : String) (line : Nat) (quoted : Bool)
  | arithmetic (expression : List Piece) (quoted : Bool)
deriving Repr

/-- A word, which may become any number of words when it is filled in. -/
abbrev Word := List Piece

namespace Word

/-- The spelling of a word in which nothing is quoted or filled in. -/
def bare? : Word → Option String
  | [.text text false] => some text
  | _ => none

/-- Adds a character to a word that is kept in reverse. -/
def addChar (c : Char) (quoted : Bool) : Word → Word
  | .text text mode :: rest =>
    if mode = quoted then .text (text.push c) mode :: rest
    else .text (String.singleton c) quoted :: .text text mode :: rest
  | pieces => .text (String.singleton c) quoted :: pieces

end Word

def isNameStart (c : Char) : Bool :=
  ('a' ≤ c && c ≤ 'z') || ('A' ≤ c && c ≤ 'Z') || c == '_'

def isNameChar (c : Char) : Bool := isNameStart c || c.isDigit

def isName (text : String) : Bool :=
  match text.toList with
  | [] => false
  | c :: rest => isNameStart c && rest.all isNameChar

def assignment? (text : String) : Option (String × String) :=
  let name := String.ofList (text.toList.takeWhile isNameChar)
  match text.toList.dropWhile isNameChar with
  | '=' :: value => if isName name then some (name, String.ofList value) else none
  | _ => none

def Word.assignment? : Word → Option (String × Word)
  | .text text false :: more =>
    (Shell.assignment? text).map fun (name, value) =>
      (name, if value = "" then more else .text value false :: more)
  | _ => none

end UiScaffold.Shell
