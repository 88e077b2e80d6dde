import UiScaffold.Form.Basic
import UiScaffold.Json.Record
import UiScaffold.Json.Writer

/-!
Forms as JSON documents.

Empty documentation, children and choices are left out, and so are an absent role and absent seeds;
a reader takes what is left out for empty or absent.
-/

set_option autoImplicit false
set_option relaxedAutoImplicit false

namespace UiScaffold

open Json.Record

namespace Widget

def decode? : Decoder Widget := fun levels value => (caseName? levels value).bind ofName?

end Widget

namespace AccountSlot

def toJson (slot : AccountSlot) : Json :=
  .object <|
    [("name", .text slot.name), ("isSigner", .bool slot.signer),
      ("isWritable", .bool slot.writable), ("optional", .bool slot.optional)] ++
    ifPresent "role" slot.role .text ++ ifPresent "seeds" slot.seeds .list ++
    unlessEmpty "docs" slot.docs .text

def keys : List String := ["name", "isSigner", "isWritable", "optional", "role", "seeds", "docs"]

def decode? : Decoder AccountSlot
  | 0, _ => none
  | levels + 1, value => do
    let fields ← fields? keys value
    let name ← required? fields "name" (text? levels)
    let signer ← required? fields "isSigner" (bool? levels)
    let writable ← required? fields "isWritable" (bool? levels)
    let optional ← required? fields "optional" (bool? levels)
    let role ← optional? fields "role" (text? levels)
    let seeds ← optional? fields "seeds" (values? levels)
    let docs ← withDefault? fields "docs" (texts? levels) []
    return { name, docs, signer, writable, optional, role, seeds := seeds.map Json.settleItems }

end AccountSlot

namespace Control

mutual

def toJson : Control → Json
  | .mk name widget required docs children choices =>
    .object <|
      [("name", .text name), ("uiType", .text widget.name), ("required", .bool required)] ++
      unlessEmpty "docs" docs .text ++ childMember children ++ unlessEmpty "options" choices .text

/-- The member with the controls of the parts, unless there are none. -/
def childMember : List Control → Json.Members
  | [] => []
  | child :: rest => [("children", .list (toJson child :: toJsonAll rest))]

def toJsonAll : List Control → List Json
  | [] => []
  | control :: rest => toJson control :: toJsonAll rest

end

def keys : List String := ["name", "uiType", "required", "docs", "children", "options"]

mutual

def decode? : Decoder Control
  | 0, _ => none
  | levels + 1, value => do
    let fields ← fields? keys value
    let name ← required? fields "name" (text? levels)
    let widget ← required? fields "uiType" (Widget.decode? levels)
    let required ← required? fields "required" (bool? levels)
    let docs ← withDefault? fields "docs" (texts? levels) []
    let children ← withDefault? fields "children" (decodeAll? levels) []
    let choices ← withDefault? fields "options" (texts? levels) []
    return .mk name widget required docs children choices

/-- Decodes several controls. Their list is a level further down, and each of them one more. -/
def decodeAll? : Decoder (List Control)
  | levels + 1, .list items => items.mapM (decode? levels)
  | _, _ => none

end

end Control

namespace Form

def toJson (form : Form) : Json :=
  .object <|
    [("name", .text form.name)] ++ unlessEmpty "docs" form.docs .text ++
    [("args", .list (Control.toJsonAll form.controls)),
      ("accounts", .list (form.accounts.map AccountSlot.toJson))]

def write (form : Form) : String := form.toJson.pretty

def keys : List String := ["name", "docs", "args", "accounts"]

def decode? : Decoder Form
  | 0, _ => none
  | levels + 1, value => do
    let fields ← fields? keys value
    let name ← required? fields "name" (text? levels)
    let docs ← withDefault? fields "docs" (texts? levels) []
    let controls ← required? fields "args" (listOf? Control.decode? levels)
    let accounts ← required? fields "accounts" (listOf? AccountSlot.decode? levels)
    return { name, docs, controls, accounts }

def read? (text : String) : Option Form :=
  (Json.Sketch.read? text).bind (decode? Json.nestingLimit)

def readAll? (text : String) : Option (List Form) :=
  (Json.Sketch.read? text).bind (listOf? decode? Json.nestingLimit)

end Form

end UiScaffold
