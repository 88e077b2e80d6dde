import UiScaffold.Json.Reader

/-!
Documents of which only a part is looked at.

A sketch has the structure of a document and those of its literals and texts that stand for a value.
What is passed over need not: there, numbers may be of any magnitude, escapes may spell no
character, and containers may be nested without limit.
-/

set_option autoImplicit false
set_option relaxedAutoImplicit false

namespace UiScaffold.Json

/-- A document in outline; `none` stands for a number out of range and for a text that is none. -/
inductive Sketch where
  | literal (value : Option Json)
  | text (content : Option String)
  | list (items : List Sketch)
  | object (members : List (Option String × Sketch))

namespace Sketch

def inOutline : Assembly Sketch (Option String) where
  literal := fun value => .ok (.literal value.toOption)
  text := fun content => .ok (.text content.toOption)
  key := fun content => .ok content.toOption
  list := .list
  object := .object

/-- Reads a document in outline. Every container that is open takes a character. -/
def read? (text : String) : Option Sketch :=
  (assemble inOutline (text.length + 1) text.toList).toOption

mutual

/-- The value, if every part of it has one and at most `levels` containers are open in it. -/
def toJson? (levels : Nat) : Sketch → Option Json
  | .literal value => value
  | .text content => content.map Json.text
  | .list items =>
    match levels with
    | 0 => none
    | below + 1 => (itemsToJson? below items).map Json.list
  | .object members =>
    match levels with
    | 0 => none
    | below + 1 => (membersToJson? below members).map Json.object

def itemsToJson? (levels : Nat) : List Sketch → Option (List Json)
  | [] => some []
  | item :: rest => do
    let value ← toJson? levels item
    let values ← itemsToJson? levels rest
    return value :: values

def membersToJson? (levels : Nat) : List (Option String × Sketch) → Option Members
  | [] => some []
  | (key, item) :: rest => do
    let key ← key
    let value ← toJson? levels item
    let members ← membersToJson? levels rest
    return (key, value) :: members

end

end Sketch

end UiScaffold.Json
