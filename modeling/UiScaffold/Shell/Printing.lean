import UiScaffold.Shell.Bytewise

/-!
Escapes, and what the command `echo` writes.

A backslash and a letter stand for a control character, a backslash and an octal number for a byte.
-/

set_option autoImplicit false
set_option relaxedAutoImplicit false

namespace UiScaffold.Shell

def isOctal (c : Char) : Bool := '0' ≤ c && c ≤ '7'

def octalByte (digits : List Char) : UInt8 :=
  UInt8.ofNat (digits.foldl (fun n d => n * 8 + (d.toNat - '0'.toNat)) 0)

def escapeByte? (c : Char) : Option UInt8 :=
  if c = 'a' then some 7
  else if c = 'b' then some 8
  else if c = 'e' then some 27
  else if c = 't' then some 9
  else if c = 'n' then some 10
  else if c = 'v' then some 11
  else if c = 'f' then some 12
  else if c = 'r' then some 13
  else if c = '\\' then some 92
  else none

def octalFront (chars : List Char) : List Char := (chars.take 3).takeWhile isOctal

/-- Reads an escape after its backslash: gives its bytes and the rest. -/
def readEscape : List Char → List UInt8 × List Char
  | [] => ([92], [])
  | c :: rest =>
    if isOctal c then
      let digits := octalFront (c :: rest)
      ([octalByte digits], (c :: rest).drop digits.length)
    else match escapeByte? c with
      | some byte => ([byte], rest)
      | none => (92 :: charBytes [c], rest)

/-- Replaces the escapes of an argument. The result tells whether writing goes on after it; `\c`
ends it. An octal number may have a zero before its three digits. -/
def unescapeArgument : Nat → List Char → List UInt8 × Bool
  | 0, _ => ([], true)
  | _ + 1, [] => ([], true)
  | fuel + 1, '\\' :: rest =>
    match rest with
    | 'c' :: _ => ([], false)
    | '0' :: more =>
      let digits := octalFront more
      let (bytes, goesOn) := unescapeArgument fuel (more.drop digits.length)
      (octalByte digits :: bytes, goesOn)
    | _ =>
      let (first, after) := readEscape rest
      let (bytes, goesOn) := unescapeArgument fuel after
      (first ++ bytes, goesOn)
  | fuel + 1, c :: rest =>
    let (bytes, goesOn) := unescapeArgument fuel rest
    (charBytes [c] ++ bytes, goesOn)

def unescaped (argument : String) : List UInt8 × Bool :=
  unescapeArgument (argument.length + 1) argument.toList

/-- The arguments of `echo` with blanks in between and something behind them. -/
def echoWords (ending : List UInt8) : List String → List UInt8
  | [] => ending
  | [word] =>
    let (bytes, goesOn) := unescaped word
    if goesOn then bytes ++ ending else bytes
  | word :: rest =>
    let (bytes, goesOn) := unescaped word
    if goesOn then bytes ++ 32 :: echoWords ending rest else bytes

/-- What `echo` writes: a line, or its text alone if the first argument is `-n`. -/
def echo : List String → List UInt8
  | "-n" :: words => echoWords [] words
  | words => echoWords [10] words

end UiScaffold.Shell
