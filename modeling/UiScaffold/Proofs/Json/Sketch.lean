import UiScaffold.Proofs.Json.Reading

/-!
Sketches of written values, and what a sketch that was read can hold.

The sketch of a written value has every part of the value, so that the value is found in it again. A
sketch that was read holds no container in its literals, so that the values that are found in it are
not nested deeper than was asked for.
-/

set_option autoImplicit false
set_option relaxedAutoImplicit false

namespace UiScaffold.Json

namespace Sketch

mutual

def ofJson : Json → Sketch
  | .text content => .text (some content)
  | .list items => .list (ofItems items)
  | .object members => .object (ofMembers members)
  | value => .literal (some value)

def ofItems : List Json → List Sketch
  | [] => []
  | item :: rest => ofJson item :: ofItems rest

def ofMembers : List (String × Json) → List (Option String × Sketch)
  | [] => []
  | (key, value) :: rest => (some key, ofJson value) :: ofMembers rest

end

theorem ofItems_eq_map (items : List Json) : ofItems items = items.map ofJson := by
  induction items with
  | nil => rfl
  | cons item rest ih => rw [ofItems, ih, List.map_cons]

theorem ofMembers_eq_map (members : Members) :
    ofMembers members = members.map fun m => (some m.1, ofJson m.2) := by
  induction members with
  | nil => rfl
  | cons member rest ih => rw [ofMembers, ih, List.map_cons]

private theorem inOutline_makes : inOutline.Makes ofJson some where
  literal value h := by
    cases value with
    | text _ | list _ | object _ => cases h
    | null | bool _ | number _ => rfl
  text _ := rfl
  key _ := rfl
  list items := congrArg Sketch.list (ofItems_eq_map items).symm
  object members := congrArg Sketch.object (ofMembers_eq_map members).symm

theorem read?_pretty_append {value : Json} (integral : value.Integral) {tail : String}
    (blank : ∀ c ∈ tail.toList, isSpace c = true) :
    read? (value.pretty ++ tail) = some (ofJson value) := by
  have room : value.nesting ≤ (value.pretty ++ tail).length + 1 := by
    have := nesting_le_length integral
    rw [String.length_append]
    omega
  have characters : (value.pretty ++ tail).toList = prettyChars 0 value ++ tail.toList := by
    rw [String.toList_append, pretty, String.toList_ofList]
  rw [read?, characters, assemble_pretty_append inOutline_makes integral room blank]
  rfl

theorem read?_pretty {value : Json} (integral : value.Integral) :
    read? value.pretty = some (ofJson value) := by
  have bare : read? (value.pretty ++ "") = some (ofJson value) :=
    read?_pretty_append integral (by simp)
  rwa [String.append_empty] at bare

mutual

theorem toJson?_ofJson {levels : Nat} :
    (value : Json) → value.nesting ≤ levels → (ofJson value).toJson? levels = some value
  | .null, _ | .bool _, _ | .number _, _ | .text _, _ => by rfl
  | .list items, h => by
    obtain ⟨below, rfl⟩ := Nat.exists_eq_add_of_le' (Nat.le_trans (Nat.le_add_left 1 _) h)
    exact congrArg (Option.map Json.list)
      (itemsToJson?_ofItems items (Nat.le_of_succ_le_succ h))
  | .object members, h => by
    obtain ⟨below, rfl⟩ := Nat.exists_eq_add_of_le' (Nat.le_trans (Nat.le_add_left 1 _) h)
    exact congrArg (Option.map Json.object)
      (membersToJson?_ofMembers members (Nat.le_of_succ_le_succ h))

private theorem itemsToJson?_ofItems {levels : Nat} : (items : List Json) →
    nestingItems items ≤ levels → itemsToJson? levels (ofItems items) = some items
  | [], _ => rfl
  | item :: rest, h => by
    have first := toJson?_ofJson item (Nat.le_trans (Nat.le_max_left _ _) h)
    have others := itemsToJson?_ofItems rest (Nat.le_trans (Nat.le_max_right _ _) h)
    rw [ofItems, itemsToJson?, first, others]
    rfl

private theorem membersToJson?_ofMembers {levels : Nat} : (members : List (String × Json)) →
    nestingMembers members ≤ levels → membersToJson? levels (ofMembers members) = some members
  | [], _ => rfl
  | (key, value) :: rest, h => by
    have first := toJson?_ofJson value (Nat.le_trans (Nat.le_max_left _ _) h)
    have others := membersToJson?_ofMembers rest (Nat.le_trans (Nat.le_max_right _ _) h)
    rw [ofMembers, membersToJson?, first, others]
    rfl

end

/-- No literal of the sketch is a container. -/
inductive Sound : Sketch → Prop where
  | literal {value : Option Json} (h : ∀ v ∈ value, v.IsLiteral) : Sound (.literal value)
  | text {content : Option String} : Sound (.text content)
  | list {items : List Sketch} (h : ∀ item ∈ items, Sound item) : Sound (.list items)
  | object {members : List (Option String × Sketch)} (h : ∀ member ∈ members, Sound member.2) :
    Sound (.object members)

mutual

theorem Sound.nesting_le {levels : Nat} {value : Json} : {sketch : Sketch} → sketch.Sound →
    sketch.toJson? levels = some value → value.nesting ≤ levels
  | .literal found, h, made => by
    cases h with
    | literal h =>
      rw [nesting_of_isLiteral (h value made)]
      exact Nat.zero_le levels
  | .text content, _, made => by
    obtain ⟨text, -, rfl⟩ := Option.map_eq_some_iff.mp made
    exact Nat.zero_le levels
  | .list items, h, made => by
    cases h with
    | list h =>
      match levels with
      | below + 1 =>
        obtain ⟨values, items_made, rfl⟩ := Option.map_eq_some_iff.mp made
        exact Nat.succ_le_succ (nestingItems_le h items_made)
  | .object members, h, made => by
    cases h with
    | object h =>
      match levels with
      | below + 1 =>
        obtain ⟨values, members_made, rfl⟩ := Option.map_eq_some_iff.mp made
        exact Nat.succ_le_succ (nestingMembers_le h members_made)

private theorem nestingItems_le {levels : Nat} {values : List Json} : {items : List Sketch} →
    (∀ item ∈ items, item.Sound) → itemsToJson? levels items = some values →
      nestingItems values ≤ levels
  | [], _, made => by
    cases made
    exact Nat.zero_le levels
  | item :: rest, h, made => by
    obtain ⟨value, first, made⟩ := Option.bind_eq_some_iff.mp made
    obtain ⟨values, others, made⟩ := Option.bind_eq_some_iff.mp made
    cases made
    obtain ⟨sound, rest_sound⟩ := List.forall_mem_cons.mp h
    exact Nat.max_le.mpr ⟨sound.nesting_le first, nestingItems_le rest_sound others⟩

private theorem nestingMembers_le {levels : Nat} {values : Members} :
    {members : List (Option String × Sketch)} → (∀ member ∈ members, member.2.Sound) →
      membersToJson? levels members = some values → nestingMembers values ≤ levels
  | [], _, made => by
    cases made
    exact Nat.zero_le levels
  | (key, item) :: rest, h, made => by
    obtain ⟨key, -, made⟩ := Option.bind_eq_some_iff.mp made
    obtain ⟨value, first, made⟩ := Option.bind_eq_some_iff.mp made
    obtain ⟨values, others, made⟩ := Option.bind_eq_some_iff.mp made
    cases made
    obtain ⟨sound, rest_sound⟩ := List.forall_mem_cons.mp h
    exact Nat.max_le.mpr ⟨sound.nesting_le first, nestingMembers_le rest_sound others⟩

end

private theorem inOutline_grants (limit : Nat) :
    inOutline.Grants limit fun _ (sketch : Sketch) => sketch.Sound where
  literal {_ value _} _ literals made := by
    cases made
    refine .literal fun v found => literals v ?_
    cases value with
    | error fault => cases found
    | ok value =>
      cases found
      rfl
  text _ made := by
    cases made
    exact .text
  list _ h := .list h
  object _ h := .object h

theorem sound_of_read? {text : String} {sketch : Sketch} (h : read? text = some sketch) :
    sketch.Sound := by
  unfold read? at h
  cases assembled : assemble inOutline (text.length + 1) text.toList with
  | error fault =>
    rw [assembled] at h
    cases h
  | ok found =>
    rw [assembled] at h
    cases h
    exact (inOutline_grants _).of_assemble assembled

end Sketch

end UiScaffold.Json
