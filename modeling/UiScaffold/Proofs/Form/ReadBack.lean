import UiScaffold.Proofs.Form.Nesting

/-!
The form that a page embeds is read back.

A form of a program, and a form that was itself read, is written as a text that is read as the same
form: absent and empty members are told apart, and the keys of seeds keep their order. Only doubles
in the seeds are left aside, whose literals need not be read as the double that was written.
-/

set_option autoImplicit false
set_option relaxedAutoImplicit false

namespace UiScaffold

open Json Json.Record

mutual

instance Json.decidableIntegral : (value : Json) → Decidable value.Integral
  | .null | .bool _ | .text _ | .number (.whole ..) => .isTrue trivial
  | .number (.real _) => .isFalse id
  | .list items => decidableIntegralItems items
  | .object members => decidableIntegralMembers members

instance Json.decidableIntegralItems : (items : List Json) → Decidable (IntegralItems items)
  | [] => .isTrue trivial
  | item :: rest =>
    match decidableIntegral item, decidableIntegralItems rest with
    | .isTrue first, .isTrue others => .isTrue ⟨first, others⟩
    | .isFalse first, _ => .isFalse fun h => first h.1
    | _, .isFalse others => .isFalse fun h => others h.2

instance Json.decidableIntegralMembers : (members : List (String × Json)) →
    Decidable (IntegralMembers members)
  | [] => .isTrue trivial
  | (_, value) :: rest =>
    match decidableIntegral value, decidableIntegralMembers rest with
    | .isTrue first, .isTrue others => .isTrue ⟨first, others⟩
    | .isFalse first, _ => .isFalse fun h => first h.1
    | _, .isFalse others => .isFalse fun h => others h.2

end

/-- The seeds of the accounts hold no doubles. -/
def Form.Integral (form : Form) : Prop :=
  ∀ slot ∈ form.accounts, ∀ seeds ∈ slot.seeds, IntegralItems seeds

instance (form : Form) : Decidable form.Integral :=
  inferInstanceAs (Decidable (∀ slot ∈ form.accounts, ∀ seeds ∈ slot.seeds, IntegralItems seeds))

/-- A form of a program whose descriptor was accepted, or a form that was read from a text. -/
inductive Form.Obtained (form : Form) : Prop where
  | made {text : String} {program : Program} (accepted : Program.ofText text = .ok program)
      (member : form ∈ program.forms) : Obtained form
  | read {text : String} (found : Form.read? text = some form) : Obtained form

private theorem integral_append {members others : Members} :
    IntegralMembers (members ++ others) ↔ IntegralMembers members ∧ IntegralMembers others := by
  simp only [integralMembers_iff, List.forall_mem_append]

private theorem integral_map {α : Type} {items : List α} {write : α → Json}
    (h : ∀ item ∈ items, (write item).Integral) : IntegralItems (items.map write) := by
  rw [integralItems_iff]
  intro document member
  obtain ⟨item, there, rfl⟩ := List.mem_map.mp member
  exact h item there

private theorem integral_unlessEmpty {α : Type} {key : String} {items : List α} {write : α → Json}
    (h : ∀ item ∈ items, (write item).Integral) :
    IntegralMembers (unlessEmpty key items write) := by
  unfold unlessEmpty
  split
  · trivial
  · exact ⟨integral_map h, trivial⟩

private theorem integral_texts {key : String} {items : List String} :
    IntegralMembers (unlessEmpty key items .text) :=
  integral_unlessEmpty fun _ _ => trivial

mutual

private theorem Control.integral_toJson : (control : Control) → control.toJson.Integral
  | .mk name widget required docs children choices => by
    have parts : ∀ child ∈ children, child.toJson.Integral := integral_toJsonAll children
    rw [toJson_eq]
    refine integral_append.mpr ⟨integral_append.mpr ⟨integral_append.mpr ⟨?_, integral_texts⟩,
      integral_unlessEmpty parts⟩, integral_texts⟩
    exact ⟨trivial, trivial, trivial, trivial⟩

private theorem Control.integral_toJsonAll : (controls : List Control) →
    ∀ control ∈ controls, control.toJson.Integral
  | [] => nofun
  | control :: rest =>
    List.forall_mem_cons.mpr ⟨integral_toJson control, integral_toJsonAll rest⟩

end

private theorem AccountSlot.integral_toJson {slot : AccountSlot}
    (h : ∀ seeds ∈ slot.seeds, IntegralItems seeds) : slot.toJson.Integral := by
  have role : IntegralMembers (ifPresent "role" slot.role .text) := by
    cases slot.role with
    | none => trivial
    | some role => exact ⟨trivial, trivial⟩
  have seeds : IntegralMembers (ifPresent "seeds" slot.seeds .list) := by
    cases present : slot.seeds with
    | none => trivial
    | some seeds => exact ⟨h seeds present, trivial⟩
  refine integral_append.mpr ⟨integral_append.mpr ⟨integral_append.mpr ⟨?_, role⟩, seeds⟩,
    integral_texts⟩
  exact ⟨trivial, trivial, trivial, trivial, trivial⟩

namespace Form

variable {form : Form}

private theorem integral_toJson (h : form.Integral) : form.toJson.Integral := by
  have controls := integral_map fun control (_ : control ∈ form.controls) => control.integral_toJson
  have accounts := integral_map fun slot there => AccountSlot.integral_toJson (h slot there)
  rw [toJson_eq]
  exact integral_append.mpr ⟨integral_append.mpr ⟨⟨trivial, trivial⟩, integral_texts⟩,
    controls, accounts, trivial⟩

private theorem read?_write (integral : form.Integral) (settled : form.Settled)
    (room : form.toJson.nesting ≤ nestingLimit) : read? form.write = some form := by
  rw [read?, write, Sketch.read?_pretty (integral_toJson integral)]
  exact form.readsBack settled nestingLimit room

private theorem bounded_of_obtained (h : form.Obtained) :
    form.Settled ∧ form.toJson.nesting ≤ nestingLimit := by
  cases h with
  | made accepted member => exact bounded_of_mem_forms accepted member
  | read found =>
    obtain ⟨sketch, read, decoded⟩ := Option.bind_eq_some_iff.mp found
    have sound := Sketch.sound_of_read? read
    exact ⟨settled_of_decode? decoded, fits nestingLimit sketch form sound decoded⟩

/-- A form of a program, or one that was read, never nests deeper than a reader goes, and is read
back from its own text unless its seeds hold doubles; to write it once more changes nothing. -/
theorem read?_write_of_obtained (h : form.Obtained) (integral : form.Integral) :
    form.toJson.nesting ≤ nestingLimit ∧ read? form.write = some form ∧
      (read? form.write).map write = some form.write := by
  obtain ⟨settled, room⟩ := bounded_of_obtained h
  have same := read?_write integral settled room
  exact ⟨room, same, by rw [same, Option.map_some]⟩

def seededText : String :=
  "\x7b\"instructions\":[\x7b\"name\":\"open\",\"docs\":[\"a \\\"b\\\"\"]," ++
    "\"args\":[\x7b\"name\":\"pair\",\"type\":\x7b\"tuple\":[\"u64\"," ++
      "\x7b\"struct\":\x7b\"fields\":" ++
      "[\x7b\"name\":\"k\",\"type\":\"bool\"\x7d]\x7d\x7d]\x7d\x7d]," ++
    "\"accounts\":[\x7b\"name\":\"vault\",\"role\":\"\"," ++
      "\"seeds\":[-5,\x7b\"z\":[],\"a\":null,\"z\":true\x7d]\x7d," ++
      "\x7b\"name\":\"bare\",\"seeds\":[]\x7d,\x7b\"name\":\"other\"\x7d]\x7d]\x7d"

theorem read?_write_of_seeded : ∃ program, Program.ofText seededText = .ok program ∧
    program.forms.length = 1 ∧ ∀ form ∈ program.forms, form.Integral ∧
      form.toJson.nesting ≤ nestingLimit ∧ read? form.write = some form ∧
        (read? form.write).map write = some form.write := by
  have shape : (Program.ofText seededText).toOption.map (fun program =>
      (program.forms.length, decide (∀ form ∈ program.forms, form.Integral))) = some (1, true) := by
    decide +kernel
  cases accepted : Program.ofText seededText with
  | error e =>
    rw [accepted] at shape
    cases shape
  | ok program =>
    rw [accepted] at shape
    obtain ⟨count, integral⟩ := Prod.mk.inj (Option.some.inj shape)
    refine ⟨program, rfl, count, fun form member => ?_⟩
    have sound := of_decide_eq_true integral form member
    exact ⟨sound, read?_write_of_obtained (.made accepted member) sound⟩

end Form

end UiScaffold
