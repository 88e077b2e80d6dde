/-!
Colours and weights of text on a terminal.

A code starts with an escape character. Where no codes are wanted, everything that a terminal would
take for a code or for another order is left out of a text.
-/

set_option autoImplicit false
set_option relaxedAutoImplicit false

namespace UiScaffold.Console

def code (n : Nat) : String := "\x1b[" ++ n.repr ++ "m"

/-- A text in several renditions, which ends with a reset of all renditions. -/
def rendered (renditions : List Nat) (text : String) : String :=
  String.join (renditions.map code) ++ text ++ code 0

/-- A text in a rendition, which ends with a reset of all renditions. -/
def painted (n : Nat) (text : String) : String := rendered [n] text

/-- A text in a colour, which ends with the default colour. -/
def colored (n : Nat) (text : String) : String := code n ++ text ++ code 39

def red (text : String) : String := colored 31 text

def green (text : String) : String := colored 32 text

def cyan (text : String) : String := colored 36 text

def bold (text : String) : String := painted 1 text

def dim (text : String) : String := painted 2 text

def italic (text : String) : String := painted 3 text

/-- What a terminal takes the next character for. -/
inductive Mode where
  | plain
  /-- The character after an escape. -/
  | escape
  /-- A part of an escape that goes on. -/
  | escapeMore
  /-- A part of a code with parameters. -/
  | parameters
  /-- A part of a title or the like, which a bell ends. -/
  | title
  /-- A part of another message to the terminal. -/
  | message
deriving DecidableEq, Repr

/-- White space that is shown even inside a code. -/
def isShownSpace (c : Char) : Bool :=
  c == '\t' || c == '\n' || c == '\x0c' || c == '\r'

/-- Whether a character that is not ASCII ends a message: one of its bytes does. -/
def endsMessage (c : Char) : Bool := (String.singleton c).toUTF8.toList.contains 0x9C

def Mode.after (mode : Mode) (c : Char) : Mode :=
  if c = '\x1b' then escape
  else if c = '\x18' ∨ c = '\x1a' then plain
  else match mode with
    | plain => plain
    | escape =>
      if ' ' ≤ c ∧ c ≤ '/' then escapeMore
      else if c = '[' then parameters
      else if c = ']' then title
      else if c = 'P' ∨ c = 'X' ∨ c = '^' ∨ c = '_' then message
      else if '0' ≤ c ∧ c ≤ '~' then plain
      else escape
    | escapeMore => if '0' ≤ c ∧ c ≤ '~' then plain else escapeMore
    | parameters => if '@' ≤ c ∧ c ≤ '~' then plain else parameters
    | title => if c = '\x07' then plain else title
    | message => if endsMessage c then plain else message

def isShownPlain (c : Char) : Bool := isShownSpace c || (' ' ≤ c && c ≠ '\x7f')

/-- Whether a character is shown in a mode. White space inside a code is shown and interrupts it. -/
def Mode.shows (mode : Mode) (c : Char) : Bool :=
  match mode with
  | plain => isShownPlain c
  | escape => isShownSpace c
  | escapeMore => isShownSpace c
  | parameters => isShownSpace c
  | title => false
  | message => false

/-- Leaves codes out. While characters are `shown` no code is open, but the mode is kept until a
code starts or a character that is not ASCII comes. -/
def withoutCodes (mode : Mode) (shown : Bool) : List Char → List Char
  | [] => []
  | c :: rest =>
    if (if shown then Mode.plain else mode).shows c then
      c :: withoutCodes (if c.toNat < 0x80 then mode else .plain) true rest
    else withoutCodes (mode.after c) false rest

/-- A text without codes and other control characters. -/
def stripped (text : String) : String := String.ofList (withoutCodes .plain false text.toList)

/-- Whether output that goes to no terminal has codes all the same. -/
def isForced (environment : List (String × String)) : Bool :=
  (environment.lookup "NO_COLOR").getD "" == "" &&
    (environment.lookup "CLICOLOR_FORCE").getD "" != ""

end UiScaffold.Console
