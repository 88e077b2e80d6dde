/-!
Parts of a text by the offsets of their bytes.
-/

set_option autoImplicit false
set_option relaxedAutoImplicit false

namespace UiScaffold.Text

/-- Characters with the offsets of their first bytes, from a given offset on. -/
def withOffsets (offset : Nat) : List Char → List (Nat × Char)
  | [] => []
  | c :: rest => (offset, c) :: withOffsets (offset + c.utf8Size) rest

/-- What is left after some bytes, unless they end inside a character. -/
def dropBytes? : Nat → List Char → Option (List Char)
  | 0, rest => some rest
  | _ + 1, [] => none
  | bytes + 1, c :: rest =>
    if c.utf8Size ≤ bytes + 1 then dropBytes? (bytes + 1 - c.utf8Size) rest else none

/-- The first bytes, unless they end inside a character. -/
def takeBytes? : Nat → List Char → Option (List Char)
  | 0, _ => some []
  | _ + 1, [] => none
  | bytes + 1, c :: rest =>
    if c.utf8Size ≤ bytes + 1 then (takeBytes? (bytes + 1 - c.utf8Size) rest).map (c :: ·)
    else none

/-- The part of a text between two offsets, unless one of them is inside a character. -/
def slice? (chars : List Char) (first last : Nat) : Option String := do
  let rest ← dropBytes? first chars
  let part ← takeBytes? (last - first) rest
  return String.ofList part

/-- The part of a text from an offset on, unless that is inside a character. -/
def sliceFrom? (chars : List Char) (first : Nat) : Option String :=
  (dropBytes? first chars).map String.ofList

end UiScaffold.Text
