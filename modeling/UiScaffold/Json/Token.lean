import UiScaffold.Json.Numeral
import UiScaffold.Json.Quoted

/-!
The tokens of a JSON text.

A text is cut into marks, literals and quoted texts, with blanks in between. A number may be out of
range and a quoted text may spell what is no character; then the token holds the fault. A piece that
is no token ends the list; what is wrong with it is decided by the reader, which knows what should
stand there.
-/

set_option autoImplicit false
set_option relaxedAutoImplicit false

namespace UiScaffold.Json

/-- The pieces of a JSON text. -/
inductive Token where
  | openList
  | closeList
  | openObject
  | closeObject
  | comma
  | colon
  /-- A word or a number. -/
  | literal (value : Except Fault Json)
  | quoted (text : Except Fault String)
  /-- A literal or a quoted text that breaks off or goes wrong inside. -/
  | broken (isQuoted : Bool) (fault : Fault)
  /-- A character that starts no token. -/
  | stray
  | finish

def isSpace (c : Char) : Bool := c == ' ' || c == '\n' || c == '\t' || c == '\r'

def readWord (value : Json) : List Char → List Char → Token × Option (List Char)
  | [], rest => (.literal (.ok value), some rest)
  | _ :: _, [] => (.broken false (.before .endInValue []), none)
  | expected :: word, c :: rest =>
    if c = expected then readWord value word rest
    else (.broken false (.atNext .noWord (c :: rest)), none)

/-- The token of a quoted text, after its opening quote. -/
def quotedToken (input : List Char) : Token × Option (List Char) :=
  match readQuoted [] input, skipQuoted input with
  | .ok (content, rest), _ => (.quoted (.ok content), some rest)
  | .error fault, some rest => (.quoted (.error fault), some rest)
  | .error fault, none => (.broken true fault, none)

def numberToken (input : List Char) : Token × Option (List Char) :=
  match readNumber input, skipNumber input with
  | .ok (value, rest), _ => (.literal (.ok (.number value)), some rest)
  | .error fault, some rest => (.literal (.error fault), some rest)
  | .error fault, none => (.broken false fault, none)

/-- The first token of a text that starts with no blank, and what is left, if one may read on. -/
def nextToken : List Char → Token × Option (List Char)
  | [] => (.finish, none)
  | '[' :: rest => (.openList, some rest)
  | ']' :: rest => (.closeList, some rest)
  | '{' :: rest => (.openObject, some rest)
  | '}' :: rest => (.closeObject, some rest)
  | ',' :: rest => (.comma, some rest)
  | ':' :: rest => (.colon, some rest)
  | 'n' :: rest => readWord .null ['u', 'l', 'l'] rest
  | 't' :: rest => readWord (.bool true) ['r', 'u', 'e'] rest
  | 'f' :: rest => readWord (.bool false) ['a', 'l', 's', 'e'] rest
  | '\"' :: rest => quotedToken rest
  | c :: rest => if c = '-' ∨ c.isDigit = true then numberToken (c :: rest) else (.stray, none)

/-- A token and the text that starts with it. -/
structure Placed where
  token : Token
  start : List Char

/-- The tokens of a text, at most `fuel` of them. -/
def tokensUpTo : Nat → List Char → List Placed
  | 0, _ => []
  | fuel + 1, input =>
    let start := input.dropWhile isSpace
    match nextToken start with
    | (token, none) => [⟨token, start⟩]
    | (token, some rest) => ⟨token, start⟩ :: tokensUpTo fuel rest

/-- The tokens of a text. Each takes a character, but for the last. -/
def tokens (input : List Char) : List Placed := tokensUpTo (input.length + 1) input

end UiScaffold.Json
