import UiScaffold.Json.Numeral
import UiScaffold.Json.Quoted

/-!
Writing a JSON value, on one line or indented by two blanks for each level.
-/

set_option autoImplicit false
set_option relaxedAutoImplicit false

namespace UiScaffold.Json

mutual

def compactChars : Json → List Char
  | .null => "null".toList
  | .bool true => "true".toList
  | .bool false => "false".toList
  | .number value => value.chars
  | .text value => quoteChars value
  | .list items => '[' :: compactItems items
  | .object members => '{' :: compactMembers members

/-- The items of a list with commas in between, and its end. -/
def compactItems : List Json → List Char
  | [] => [']']
  | [item] => compactChars item ++ [']']
  | item :: rest => compactChars item ++ ',' :: compactItems rest

/-- The members of an object with commas in between, and its end. -/
def compactMembers : List (String × Json) → List Char
  | [] => ['}']
  | [(key, value)] => quoteChars key ++ ':' :: (compactChars value ++ ['}'])
  | (key, value) :: rest =>
    quoteChars key ++ ':' :: (compactChars value ++ ',' :: compactMembers rest)

end

/-- A value on one line, without blanks. -/
def compact (value : Json) : String := String.ofList (compactChars value)

def newLine (level : Nat) : List Char := '\n' :: List.replicate (2 * level) ' '

mutual

/-- The characters of a value whose first line stands at a level. -/
def prettyChars (level : Nat) : Json → List Char
  | .null => "null".toList
  | .bool true => "true".toList
  | .bool false => "false".toList
  | .number value => value.chars
  | .text value => quoteChars value
  | .list [] => ['[', ']']
  | .list (item :: rest) => '[' :: prettyItems level (item :: rest)
  | .object [] => ['{', '}']
  | .object (member :: rest) => '{' :: prettyMembers level (member :: rest)

/-- The items of a list on lines of their own, and its end. -/
def prettyItems (level : Nat) : List Json → List Char
  | [] => newLine level ++ [']']
  | [item] => newLine (level + 1) ++ prettyChars (level + 1) item ++ newLine level ++ [']']
  | item :: rest =>
    newLine (level + 1) ++ prettyChars (level + 1) item ++ ',' :: prettyItems level rest

/-- The members of an object on lines of their own, and its end. -/
def prettyMembers (level : Nat) : List (String × Json) → List Char
  | [] => newLine level ++ ['}']
  | [(key, value)] =>
    newLine (level + 1) ++ quoteChars key ++ ':' :: ' ' :: prettyChars (level + 1) value ++
      newLine level ++ ['}']
  | (key, value) :: rest =>
    newLine (level + 1) ++ quoteChars key ++ ':' :: ' ' :: prettyChars (level + 1) value ++
      ',' :: prettyMembers level rest

end

/-- A value on indented lines; empty containers stay on one line. -/
def pretty (value : Json) : String := String.ofList (prettyChars 0 value)

end UiScaffold.Json
