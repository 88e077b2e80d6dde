import UiScaffold.Shell.SyntaxFault

/-!
A script that is being read.

The line is counted along. A token can be put back once. The texts that follow a line are announced
before the end of the line and read behind it.
-/

set_option autoImplicit false
set_option relaxedAutoImplicit false

namespace UiScaffold.Shell

/-- A text that is announced: its number, the line that ends it, and how it is to be read. -/
structure Announcement where
  index : Nat
  ending : List Char
  isPlain : Bool
  dropsTabs : Bool

/-- What is left of a script. -/
structure Source where
  rest : List Char
  line : Nat
  /-- The token that was put back. -/
  returned : Option Token
  announced : List Announcement
  /-- The texts that followed lines, by their numbers. -/
  documents : List Word
  /-- The texts that stand for names of commands. -/
  aliases : List (String × String)
  /-- The names whose texts are being read, and what is left of the script behind each of them. -/
  inUse : List (String × Nat)

def Source.ofText (text : List Char) (line : Nat) : Source :=
  { rest := text, line, returned := none, announced := [], documents := [], aliases := [],
    inUse := [] }

structure Misreading where
  line : Nat
  fault : SyntaxFault
deriving DecidableEq, Repr

/-- A part of the reading of a script. -/
abbrev Reading := EStateM Misreading Source

namespace Reading

def fail {α : Type} (fault : SyntaxFault) : Reading α := do
  throw ⟨(← get).line, fault⟩

/-- The next character as it stands. -/
def peekPlain : Reading (Option Char) := return (← get).rest.head?

def skip : Reading Unit := modify fun source =>
  match source.rest with
  | '\n' :: rest => { source with rest, line := source.line + 1 }
  | _ :: rest => { source with rest }
  | [] => source

/-- Goes past line ends with a backslash before them; gives the lines passed and the rest. -/
def skipJoins : List Char → Nat × List Char
  | '\\' :: '\n' :: rest => ((skipJoins rest).1 + 1, (skipJoins rest).2)
  | rest => (0, rest)

/-- The next character of the joined lines. -/
def peek : Reading (Option Char) := do
  modify fun source =>
    match source.rest with
    | '\\' :: '\n' :: _ =>
      let (lines, rest) := skipJoins source.rest
      { source with rest, line := source.line + lines }
    | _ => source
  peekPlain

def next : Reading (Option Char) := do
  let found ← peek
  skip
  return found

def takeWhile (wanted : Char → Bool) : Reading (List Char) := do
  let rec go : Nat → List Char → Reading (List Char)
    | 0, taken => return taken.reverse
    | fuel + 1, taken => do
      match ← peek with
      | some c =>
        if wanted c then
          skip
          go fuel (c :: taken)
        else return taken.reverse
      | none => return taken.reverse
  go (← get).rest.length []

def accept (wanted : Char) : Reading Bool := do
  if (← peek) = some wanted then
    skip
    return true
  else return false

/-- Reads another text with the same documents, and comes back. -/
def within {α : Type} (text : List Char) (line : Nat) (reading : Reading α) : Reading α := do
  let outer ← get
  set { Source.ofText text line with documents := outer.documents, aliases := outer.aliases }
  let result ← reading
  modify fun inner => { outer with documents := inner.documents }
  return result

end Reading

end UiScaffold.Shell
