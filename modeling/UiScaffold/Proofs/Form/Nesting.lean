import UiScaffold.Proofs.Descriptor.Levels
import UiScaffold.Proofs.Descriptor.Provenance
import UiScaffold.Proofs.Form.Document

/-!
How deep the forms of a program are nested.

A type of bounded depth has controls of bounded depth: each of its levels adds an object and a list.
The seeds of an account stand further up in the form than they did in the descriptor.
-/

set_option autoImplicit false
set_option relaxedAutoImplicit false

namespace UiScaffold

open Json

private theorem nesting_unlessEmpty_le {α : Type} {key : String} {items : List α} {write : α → Json}
    {levels : Nat} (h : nestingItems (items.map write) ≤ levels) :
    nestingMembers (Record.unlessEmpty key items write) ≤ levels + 1 := by
  cases items with
  | nil => exact Nat.zero_le _
  | cons item rest => exact Nat.max_le.mpr ⟨Nat.succ_le_succ h, Nat.zero_le _⟩

private theorem nesting_texts_le {items : List String} {levels : Nat} :
    nestingItems (items.map .text) ≤ levels := by
  rw [nestingItems_le_iff]
  intro item member
  obtain ⟨text, -, rfl⟩ := List.mem_map.mp member
  exact Nat.zero_le levels

namespace Control

variable {types : List TypeDefinition}

private theorem nesting_toJson_le {control : Control} {levels : Nat}
    (h : nestingItems (control.children.map toJson) ≤ levels) :
    control.toJson.nesting ≤ levels + 2 := by
  rw [toJson_eq]
  refine Nat.succ_le_succ ?_
  rw [members, nestingMembers_append_le_iff, nestingMembers_append_le_iff,
    nestingMembers_append_le_iff]
  exact ⟨⟨⟨Nat.zero_le _, nesting_unlessEmpty_le nesting_texts_le⟩, nesting_unlessEmpty_le h⟩,
    nesting_unlessEmpty_le nesting_texts_le⟩

private theorem nesting_childrenOf_le {levels : Nat} {context : String} {value : Json}
    {type : DataType} (read : DataType.readAt levels context value = .ok type) :
    nestingItems ((childrenOf types type).map toJson) ≤ 2 * levels := by
  induction levels generalizing context value type with
  | zero => cases read
  | succ levels ih =>
    rcases DataType.readAt_cases read with ⟨inner, -, read_inner⟩ | parts
    · have inside := ih read_inner
      omega
    · have inside : ∀ part ∈ type.inner,
          nestingItems ((childrenOf types part).map toJson) ≤ 2 * levels := by
        intro part member
        rcases parts part member with lacks | ⟨_, _, _, _, -, read_part⟩
        · -- What stands for a missing item has no parts.
          cases lacks <;> exact Nat.zero_le _
        · exact ih read_part
      by_cases wrapped : ∃ inner, type = .option inner
      · obtain ⟨inner, rfl⟩ := wrapped
        have under := inside inner List.mem_cons_self
        rw [childrenOf]
        omega
      · rw [childrenOf_eq, DataType.unwrap_eq_self (not_exists.mp wrapped), nestingItems_le_iff]
        intro document member
        obtain ⟨control, there, rfl⟩ := List.mem_map.mp member
        obtain ⟨part, origin, rfl⟩ := List.mem_map.mp there
        exact nesting_toJson_le (inside part.type (DataType.mem_inner_of_mem_parts origin))

private theorem nesting_ofArguments_le (types : List TypeDefinition) {instruction : String}
    {value : Json} {argument : Argument}
    (h : Argument.ofJson instruction value = .ok argument) :
    nestingItems ((childrenOf types argument.type).map toJson) ≤ 2 * (maxTypeDepth + 1) := by
  obtain ⟨context, type, read, rfl⟩ := Argument.ofJson_eq_ok h
  unfold DataType.ofMembers at read
  split at read
  · next inner _ =>
    cases typed : DataType.read context inner with
    | error e =>
      rw [typed] at read
      cases read
    | ok found =>
      rw [typed] at read
      cases read
      exact nesting_childrenOf_le typed
  · cases read
    exact Nat.zero_le _

end Control

namespace AccountSlot

variable {levels : Nat}

private theorem tame_of_declares {entries : List Json} {objects : List Members}
    (declared : Declares entries objects) (tame : ∀ entry ∈ entries, Tame levels entry) :
    ∀ object ∈ objects, Tame levels (.object object) := by
  induction declared generalizing levels with
  | none => exact nofun
  | other _ _ ih => exact ih fun entry member => tame entry (List.mem_cons_of_mem _ member)
  | group found _ _ inner_ih ih =>
    obtain ⟨first, rest⟩ := List.forall_mem_cons.mp tame
    have inner := inner_ih fun entry member => ((first.member found).item member)
    rw [List.forall_mem_append]
    exact ⟨fun object member => (inner object member).mono (by omega), ih rest⟩
  | account _ _ ih =>
    obtain ⟨first, rest⟩ := List.forall_mem_cons.mp tame
    exact List.forall_mem_cons.mpr ⟨first, ih rest⟩

private theorem tame_seeds {object : Members} {slot : AccountSlot}
    (tame : Tame levels (.object object))
    (carried : Carries object slot) {seeds : List Json} (h : slot.seeds = some seeds) :
    Tame (levels - 1) (.list seeds) := by
  rcases (carried.seeds seeds).mp h with found | ⟨-, pda, found, inner⟩
  · exact tame.member found
  · cases pda with
    | object members =>
      exact ((tame.member found).member inner).mono (by omega)
    | null | bool _ | number _ | text _ | list _ => cases inner

private theorem nesting_toJson_le {slot : AccountSlot}
    (h : ∀ seeds, slot.seeds = some seeds → Tame levels (.list seeds)) :
    slot.toJson.nesting ≤ levels + 2 := by
  refine Nat.succ_le_succ ?_
  change nestingMembers slot.members ≤ levels + 1
  rw [members, nestingMembers_append_le_iff, nestingMembers_append_le_iff,
    nestingMembers_append_le_iff]
  refine ⟨⟨⟨Nat.zero_le _, ?_⟩, ?_⟩, nesting_unlessEmpty_le nesting_texts_le⟩
  · cases slot.role with
    | none => exact Nat.zero_le _
    | some role => exact Nat.zero_le _
  · cases seeds : slot.seeds with
    | none => exact Nat.zero_le _
    | some items =>
      have inside := (h items seeds).nesting
      exact Nat.max_le.mpr ⟨Nat.le_succ_of_le inside, Nat.zero_le _⟩

end AccountSlot

namespace Form

variable {text : String} {program : Program} {form : Form}

private theorem tame_chosen {document chosen : Members} {levels : Nat}
    (tame : Tame levels (.object document)) (member : chosen ∈ Program.candidates document) :
    Tame levels (.object chosen) := by
  simp only [Program.candidates, List.mem_cons, List.mem_append, Option.mem_toList] at member
  rcases member with rfl | found | found
  · exact tame
  · obtain ⟨value, there, object⟩ := Option.bind_eq_some_iff.mp found
    rw [asObject?_eq_some.mp object] at there
    exact (tame.member there).mono (by omega)
  · obtain ⟨value, there, object⟩ := Option.bind_eq_some_iff.mp found
    rw [asObject?_eq_some.mp object] at there
    exact (tame.items (List.mem_of_head? there)).mono (by omega)

private theorem exists_instruction (h : Program.ofText text = .ok program)
    (member : form ∈ program.forms) : ∃ instruction index members,
      form = ofInstruction program.types instruction ∧
      Instruction.ofJson index (.object members) = .ok instruction ∧
      Tame (nestingLimit - 2) (.object members) := by
  obtain ⟨instruction, there, rfl⟩ := List.mem_map.mp member
  unfold Program.ofText at h
  cases read : Json.read text with
  | error e =>
    rw [read] at h
    cases h
  | ok json =>
    rw [read] at h
    obtain ⟨document, chosen, values, rfl, located, listed, made⟩ := Program.ofJson_eq_ok h
    obtain ⟨value, origin, index, made⟩ := exists_of_forall₂ made there
    have tame : Tame nestingLimit (.object chosen) :=
      tame_chosen (Tame.of_read read) (Program.mem_candidates_of_locate located).1
    obtain ⟨members, rfl, -⟩ := Instruction.ofJson_eq_ok made
    exact ⟨instruction, index, members, rfl, made, (tame.member listed).item origin⟩

theorem bounded_of_mem_forms (h : Program.ofText text = .ok program)
    (member : form ∈ program.forms) : form.Settled ∧ form.toJson.nesting ≤ nestingLimit := by
  obtain ⟨instruction, index, members, rfl, made, tame⟩ := exists_instruction h member
  obtain ⟨_, ⟨⟩, -, -, accounts, arguments⟩ := Instruction.ofJson_eq_ok made
  obtain ⟨objects, declared, carried⟩ :=
    AccountSlot.exists_declares (Json.Members.items members "accounts")
  have objects_tame := AccountSlot.tame_of_declares declared fun entry there => tame.items there
  have seeds (slot : AccountSlot) (there : slot ∈ instruction.accounts) (items : List Json)
      (present : slot.seeds = some items) : Tame (nestingLimit - 5) (.list items) := by
    rw [accounts] at there
    obtain ⟨object, origin, carries⟩ := exists_of_forall₂ carried there
    exact AccountSlot.tame_seeds (objects_tame object origin) carries present
  refine ⟨fun slot there items present => (seeds slot there items present).settled, ?_⟩
  have slots : nestingItems ((ofInstruction program.types instruction).accounts.map
      AccountSlot.toJson) ≤ nestingLimit - 3 := by
    rw [nestingItems_le_iff]
    intro document there
    obtain ⟨slot, origin, rfl⟩ := List.mem_map.mp there
    exact AccountSlot.nesting_toJson_le (seeds slot origin)
  have controls : nestingItems ((ofInstruction program.types instruction).controls.map
      Control.toJson) ≤ nestingLimit - 3 := by
    rw [nestingItems_le_iff]
    intro document there
    obtain ⟨control, origin, rfl⟩ := List.mem_map.mp there
    change control ∈ Control.ofArguments _ _ at origin
    rw [Control.ofArguments_eq_map] at origin
    obtain ⟨argument, declared, rfl⟩ := List.mem_map.mp origin
    obtain ⟨value, -, read⟩ := exists_of_forall₂ arguments (List.mem_filter.mp declared).1
    have inside := Control.nesting_ofArguments_le program.types read
    exact Nat.le_trans (Control.nesting_toJson_le inside) (by decide)
  rw [toJson_eq]
  refine Nat.succ_le_succ (nestingMembers_append_le_iff.mpr ⟨nestingMembers_append_le_iff.mpr
    ⟨Nat.zero_le _, ?_⟩, ?_⟩)
  · have docs : nestingMembers (Record.unlessEmpty "docs" instruction.docs .text) ≤ 0 + 1 :=
      nesting_unlessEmpty_le nesting_texts_le
    exact Nat.le_trans docs (by decide)
  · have limit : nestingLimit = 127 := rfl
    change max (nestingItems _ + 1) (max (nestingItems _ + 1) 0) ≤ 126
    exact Nat.max_le.mpr ⟨by omega, Nat.max_le.mpr ⟨by omega, Nat.zero_le _⟩⟩

end Form

end UiScaffold
