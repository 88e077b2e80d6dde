import UiScaffold.Json.Fault

/-!
Quoted texts.

Only the quote, the backslash and the characters below U+0020 are escaped when a text is written.
A text that is read may also escape any other character by its UTF-16 units.
-/

set_option autoImplicit false
set_option relaxedAutoImplicit false

namespace UiScaffold.Json

def hexDigit? (c : Char) : Option Nat :=
  if '0' ≤ c ∧ c ≤ '9' then some (c.toNat - '0'.toNat)
  else if 'a' ≤ c ∧ c ≤ 'f' then some (c.toNat - 'a'.toNat + 10)
  else if 'A' ≤ c ∧ c ≤ 'F' then some (c.toNat - 'A'.toNat + 10)
  else none

/-- The UTF-16 unit that four hexadecimal digits spell. -/
def unit? (a b c d : Char) : Option Nat := do
  let a ← hexDigit? a
  let b ← hexDigit? b
  let c ← hexDigit? c
  let d ← hexDigit? d
  return ((a * 16 + b) * 16 + c) * 16 + d

/-- The first units of surrogate pairs. -/
def isLeading (unit : Nat) : Bool := 0xD800 ≤ unit && unit ≤ 0xDBFF

/-- The second units of surrogate pairs. -/
def isTrailing (unit : Nat) : Bool := 0xDC00 ≤ unit && unit ≤ 0xDFFF

def pairChar (leading trailing : Nat) : Char :=
  Char.ofNat (0x10000 + (leading - 0xD800) * 0x400 + (trailing - 0xDC00))

def unescape? : Char → Option Char
  | '\"' => some '\"'
  | '\\' => some '\\'
  | '/' => some '/'
  | 'b' => some '\x08'
  | 'f' => some '\x0c'
  | 'n' => some '\n'
  | 'r' => some '\r'
  | 't' => some '\t'
  | _ => none

/-- The fault of a `\u` escape whose next four bytes are no hexadecimal digits. -/
def badUnit (rest : List Char) : Fault :=
  if 4 ≤ byteLength rest then ⟨.badEscape, rest, 4⟩ else .before .endInText []

/-- The fault after a leading unit that no `\u` escape with four digits follows. -/
def badPair : List Char → Fault
  | [] => .before .endInText []
  | ['\\'] => .before .endInText []
  | '\\' :: 'u' :: rest => badUnit rest
  | '\\' :: rest => .atNext .brokenPair rest
  | rest => .atNext .brokenPair rest

/-- Reads up to the closing quote. `done` holds the characters so far, the last one first. -/
def readQuoted (done : List Char) : List Char → Except Fault (String × List Char)
  | [] => .error (.before .endInText [])
  | '\"' :: rest => .ok (String.ofList done.reverse, rest)
  | '\\' :: 'u' :: a :: b :: c :: d :: rest =>
    match unit? a b c d with
    | none => .error (badUnit (a :: b :: c :: d :: rest))
    | some unit =>
      if isTrailing unit then .error (.before .loneSurrogate rest)
      else if isLeading unit then
        match rest with
        | '\\' :: 'u' :: e :: f :: g :: h :: rest' =>
          match unit? e f g h with
          | none => .error (badUnit (e :: f :: g :: h :: rest'))
          | some second =>
            if isTrailing second then readQuoted (pairChar unit second :: done) rest'
            else .error (.before .loneSurrogate rest')
        | other => .error (badPair other)
      else readQuoted (Char.ofNat unit :: done) rest
  | '\\' :: 'u' :: rest => .error (badUnit rest)
  | ['\\'] => .error (.before .endInText [])
  | '\\' :: letter :: rest =>
    match unescape? letter with
    | some c => readQuoted (c :: done) rest
    | none => .error (.atNext .badEscape (letter :: rest))
  | c :: rest =>
    if c.toNat < 0x20 then .error (.atNext .controlCharacter (c :: rest))
    else readQuoted (c :: done) rest

/-- Whether a letter may follow a backslash, beside the `u` of a unit. -/
def isEscape (letter : Char) : Bool := (unescape? letter).isSome

/-- What follows the closing quote, if there is one; the units may spell any characters or none. -/
def skipQuoted : List Char → Option (List Char)
  | [] => none
  | '\"' :: rest => some rest
  | '\\' :: 'u' :: a :: b :: c :: d :: rest =>
    if (unit? a b c d).isSome then skipQuoted rest else none
  | '\\' :: letter :: rest => if isEscape letter then skipQuoted rest else none
  | c :: rest => if c = '\\' ∨ c.toNat < 0x20 then none else skipQuoted rest

def hexChar (n : Nat) : Char := Nat.digitChar n

def escapeChar (c : Char) : List Char :=
  if c = '\"' then ['\\', '\"']
  else if c = '\\' then ['\\', '\\']
  else if c = '\x08' then ['\\', 'b']
  else if c = '\x0c' then ['\\', 'f']
  else if c = '\n' then ['\\', 'n']
  else if c = '\r' then ['\\', 'r']
  else if c = '\t' then ['\\', 't']
  else if c.toNat < 0x20 then
    ['\\', 'u', '0', '0', hexChar (c.toNat / 16), hexChar (c.toNat % 16)]
  else [c]

def quoteChars (text : String) : List Char :=
  '\"' :: (text.toList.flatMap escapeChar ++ ['\"'])

def quote (text : String) : String := String.ofList (quoteChars text)

end UiScaffold.Json
