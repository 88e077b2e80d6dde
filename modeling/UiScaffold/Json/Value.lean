import UiScaffold.Decimal.Binary64

/-!
JSON values.

An object is the list of its members in order. A document may repeat a key; `settle` keeps the first
position of a repeated key and its last value, at every depth, and is what most readers look at.
-/

set_option autoImplicit false
set_option relaxedAutoImplicit false

namespace UiScaffold

/-- The integers of sixty-four bits, signed or unsigned. -/
def Json.Number.InRange (value : Int) : Prop :=
  -(Int.ofNat (twoTo 63)) ≤ value ∧ value < Int.ofNat (twoTo 64)

instance (value : Int) : Decidable (Json.Number.InRange value) :=
  inferInstanceAs (Decidable (_ ∧ _))

/-- A JSON number: an integer of sixty-four bits or a double. -/
inductive Json.Number where
  | whole (value : Int) (inRange : Json.Number.InRange value)
  | real (value : Binary64)
deriving DecidableEq

/-- A JSON value; the members of an object keep their order. -/
inductive Json where
  | null
  | bool (value : Bool)
  | number (value : Json.Number)
  | text (value : String)
  | list (items : List Json)
  | object (members : List (String × Json))
deriving BEq

namespace Json

instance : Inhabited Json := ⟨.null⟩

abbrev Members := List (String × Json)

def Number.ofInt? (n : Int) : Option Number :=
  if h : InRange n then some (.whole n h) else none

/-- The value as a natural, if it is an integer that is not negative. -/
def Number.toNat? : Number → Option Nat
  | .whole value _ => if 0 ≤ value then some value.toNat else none
  | .real _ => none

def asText? : Json → Option String
  | .text value => some value
  | _ => none

def asList? : Json → Option (List Json)
  | .list items => some items
  | _ => none

def asObject? : Json → Option Members
  | .object members => some members
  | _ => none

def asBool? : Json → Option Bool
  | .bool value => some value
  | _ => none

def asNat? : Json → Option Nat
  | .number value => value.toNat?
  | _ => none

namespace Members

def get? (members : Members) (key : String) : Option Json := members.lookup key

def text? (members : Members) (key : String) : Option String :=
  (members.get? key).bind asText?

def list? (members : Members) (key : String) : Option (List Json) :=
  (members.get? key).bind asList?

/-- The value of a key, if it is a list, and no items otherwise. -/
def items (members : Members) (key : String) : List Json :=
  (members.list? key).getD []

def isTrue (members : Members) (key : String) : Bool :=
  (members.get? key).bind asBool? == some true

def anyTrue (members : Members) (keys : List String) : Bool :=
  keys.any members.isTrue

/-- Puts a member at the end, or in the place of the member that has its key. -/
def put (members : Members) (key : String) (value : Json) : Members :=
  match members with
  | [] => [(key, value)]
  | (k, v) :: rest => if k = key then (k, value) :: rest else (k, v) :: put rest key value

end Members

/-- The value of a key, if the value is an object that has it. -/
def get? (value : Json) (key : String) : Option Json :=
  value.asObject?.bind (Members.get? · key)

/-- The text under a key, if the value is an object that has one there. -/
def textAt? (value : Json) (key : String) : Option String :=
  (value.get? key).bind asText?

/-- The items of the list under a key, if the value is an object that has one there. -/
def itemsAt (value : Json) (key : String) : List Json :=
  ((value.get? key).bind asList?).getD []

mutual

/-- The value with no repeated keys: a key keeps its first position and takes its last value. -/
def settle : Json → Json
  | .list items => .list (settleItems items)
  | .object members => .object (settleMembers [] members)
  | other => other

def settleItems : List Json → List Json
  | [] => []
  | item :: rest => settle item :: settleItems rest

def settleMembers (done : Members) : List (String × Json) → Members
  | [] => done
  | (key, value) :: rest => settleMembers (done.put key (settle value)) rest

end

end Json

end UiScaffold
