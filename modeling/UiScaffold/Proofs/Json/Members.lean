import Mathlib.Tactic.Common
import UiScaffold.Json.Value

/-!
Looking into objects.

A member is found by its key, and the typed questions (is there a text, a list, the value `true`)
are questions about the value that is found.
-/

set_option autoImplicit false
set_option relaxedAutoImplicit false

namespace UiScaffold.Json

theorem asList?_eq_some {value : Json} {items : List Json} :
    value.asList? = some items ↔ value = .list items := by
  cases value <;> simp [asList?]

theorem asText?_eq_some {value : Json} {text : String} :
    value.asText? = some text ↔ value = .text text := by
  cases value <;> simp [asText?]

private theorem asBool?_eq_some {value : Json} {flag : Bool} :
    value.asBool? = some flag ↔ value = .bool flag := by
  cases value <;> simp [asBool?]

theorem asObject?_eq_some {value : Json} {members : Members} :
    value.asObject? = some members ↔ value = .object members := by
  cases value <;> simp [asObject?]

namespace Members

variable {members rest : Members} {key : String} {value : Json}

@[simp] theorem get?_nil : get? [] key = none := rfl

theorem get?_cons {other : String} :
    get? ((other, value) :: rest) key = if key = other then some value else rest.get? key := by
  unfold get?
  by_cases h : key = other
  · simp [h]
  · simp [List.lookup_cons, beq_eq_false_iff_ne.mpr h, h]

theorem get?_append :
    get? (members ++ rest) key = (members.get? key).orElse fun _ => rest.get? key := by
  unfold get?
  rw [List.lookup_append]
  cases List.lookup key members <;> rfl

theorem list?_eq_some {items : List Json} :
    members.list? key = some items ↔ members.get? key = some (.list items) := by
  simp [list?, Option.bind_eq_some_iff, asList?_eq_some]

theorem list?_eq_none :
    members.list? key = none ↔ ∀ items, members.get? key ≠ some (.list items) := by
  simp only [Option.eq_none_iff_forall_ne_some, ne_eq, list?_eq_some]

theorem text?_eq_some {text : String} :
    members.text? key = some text ↔ members.get? key = some (.text text) := by
  simp [text?, Option.bind_eq_some_iff, asText?_eq_some]

theorem isTrue_eq_true : members.isTrue key = true ↔ members.get? key = some (.bool true) := by
  simp [isTrue, Option.bind_eq_some_iff, asBool?_eq_some]

end Members

end UiScaffold.Json
