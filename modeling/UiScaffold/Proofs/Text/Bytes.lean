import Mathlib.Tactic.Common
import UiScaffold.Text.Slice

/-!
Characters by the bytes that they take.

A number of bytes that some characters take together does not end inside a character: it takes these
characters, or leaves those after them.
-/

set_option autoImplicit false
set_option relaxedAutoImplicit false

namespace UiScaffold.Text

def byteLength : List Char → Nat
  | [] => 0
  | c :: rest => c.utf8Size + byteLength rest

variable {chars before after rest : List Char} {bytes : Nat}

@[simp] theorem byteLength_nil : byteLength [] = 0 := rfl

@[simp] private theorem byteLength_cons (c : Char) :
    byteLength (c :: chars) = c.utf8Size + byteLength chars := rfl

@[simp] theorem byteLength_append :
    byteLength (before ++ after) = byteLength before + byteLength after := by
  induction before with
  | nil => exact (Nat.zero_add _).symm
  | cons c rest ih => rw [List.cons_append, byteLength_cons, ih, byteLength_cons, Nat.add_assoc]

private theorem byteLength_first (c : Char) (rest : List Char) :
    ∃ bytes, byteLength (c :: rest) = bytes + 1 ∧ c.utf8Size ≤ bytes + 1 ∧
      bytes + 1 - c.utf8Size = byteLength rest := by
  have positive := c.utf8Size_pos
  rw [byteLength_cons]
  exact ⟨c.utf8Size + byteLength rest - 1, by omega, by omega, by omega⟩

theorem takeBytes?_append : takeBytes? (byteLength before) (before ++ after) = some before := by
  induction before with
  | nil => rw [byteLength_nil, takeBytes?]
  | cons c rest ih =>
    obtain ⟨bytes, total, fits, left⟩ := byteLength_first c rest
    rw [total, List.cons_append, takeBytes?, if_pos fits, left, ih]
    rfl

theorem dropBytes?_append : dropBytes? (byteLength before) (before ++ after) = some after := by
  induction before with
  | nil => rw [byteLength_nil, dropBytes?, List.nil_append]
  | cons c rest ih =>
    obtain ⟨bytes, total, fits, left⟩ := byteLength_first c rest
    rw [total, List.cons_append, dropBytes?, if_pos fits, left, ih]

private theorem length_le_of_dropBytes? (h : dropBytes? bytes chars = some rest) :
    rest.length ≤ chars.length := by
  fun_induction dropBytes? bytes chars with
  | case1 => exact Nat.le_of_eq (congrArg List.length (Option.some.inj h).symm)
  | case2 => cases h
  | case3 bytes c chars fits ih => exact Nat.le_succ_of_le (ih h)
  | case4 => cases h

theorem length_lt_of_dropBytes? (h : dropBytes? (bytes + 1) chars = some rest) :
    rest.length < chars.length := by
  cases chars with
  | nil => cases h
  | cons c chars =>
    rw [dropBytes?] at h
    split at h
    · exact Nat.lt_succ_of_le (length_le_of_dropBytes? h)
    · cases h

end UiScaffold.Text
