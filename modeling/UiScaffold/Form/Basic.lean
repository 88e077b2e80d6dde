import UiScaffold.Descriptor.Program

/-!
Forms.

A form is what a generated page shows for one instruction: a control for every argument, with
controls inside for the parts of a composite one, and the accounts of the instruction.
-/

set_option autoImplicit false
set_option relaxedAutoImplicit false

namespace UiScaffold

/-- How a value is shown and edited. -/
inductive Widget where
  | text
  | number
  /-- For integers that are wider than thirty-two bits. -/
  | bigInt
  | toggle
  | address
  | list
  | select
deriving DecidableEq, Repr

namespace Widget

def all : List Widget := [text, number, bigInt, toggle, address, list, select]

def name : Widget → String
  | text => "Text"
  | number => "Number"
  | bigInt => "BigInt"
  | toggle => "Toggle"
  | address => "Address"
  | list => "List"
  | select => "Select"

def ofName? (name : String) : Option Widget := all.find? (·.name == name)

end Widget

/-- The control of an argument or of a part of one. -/
inductive Control where
  | mk (name : String) (widget : Widget) (required : Bool) (docs : List String)
      (children : List Control) (choices : List String)

namespace Control

def name : Control → String
  | mk name _ _ _ _ _ => name

def widget : Control → Widget
  | mk _ widget _ _ _ _ => widget

def required : Control → Bool
  | mk _ _ required _ _ _ => required

def docs : Control → List String
  | mk _ _ _ docs _ _ => docs

def children : Control → List Control
  | mk _ _ _ _ children _ => children

/-- What a `select` widget offers, if it is known. -/
def choices : Control → List String
  | mk _ _ _ _ _ choices => choices

end Control

structure Form where
  name : String
  docs : List String
  controls : List Control
  accounts : List AccountSlot

end UiScaffold
