import UiScaffold.Proofs.Descriptor.Depth
import UiScaffold.Proofs.Form.Budget

/-!
The limit to the depth of types is exact.

A chain of steps into inner types is told by the positions that it takes, and comes before another
one if it goes further left at the first place where the two part. A type is refused exactly when it
has a chain beyond the limit, and the refusal names the fields on the first one. A type that is read
is nested no deeper than the limit allows, but for the items that stand for missing ones.
-/

set_option autoImplicit false
set_option relaxedAutoImplicit false

namespace UiScaffold

private theorem Earliest.iff_getElem? {α ε : Type} {fault : α → ε → Prop} {items : List α} {e : ε} :
    Earliest fault items e ↔ ∃ (index : Nat) (a : α), items[index]? = some a ∧ fault a e ∧
      ∀ (earlier : Nat) (b : α), earlier < index → items[earlier]? = some b →
        ∀ e', ¬ fault b e' := by
  induction items with
  | nil => simp [not_nil]
  | cons a rest ih =>
    rw [cons_iff, ih]
    constructor
    · rintro (found | ⟨sound, index, b, there, found, others⟩)
      · exact ⟨0, a, rfl, found, by simp⟩
      · refine ⟨index + 1, b, there, found, ?_⟩
        intro earlier c before at_earlier
        cases earlier with
        | zero =>
          cases at_earlier
          exact sound
        | succ earlier => exact others earlier c (Nat.lt_of_succ_lt_succ before) at_earlier
    · rintro ⟨index, b, there, found, others⟩
      cases index with
      | zero =>
        cases there
        exact .inl found
      | succ index =>
        refine .inr ⟨others 0 a (Nat.succ_pos index) rfl, index, b, there, found, ?_⟩
        intro earlier c before at_earlier
        exact others (earlier + 1) c (Nat.succ_lt_succ before) at_earlier

namespace DataType

/-- A chain of steps into inner types, by the positions that it takes, with the names of the fields
on the way and the value at its end. -/
inductive Descends : Json → List Nat → List String → Json → Prop
  | here {value : Json} : Descends value [] [] value
  | step {value type last : Json} {types : List (Option String × Json)} {index : Nat}
      {name : Option String} {positions : List Nat} {names : List String} :
      Holds value types → types[index]? = some (name, type) → Descends type positions names last →
      Descends value (index :: positions) (name.toList ++ names) last

/-- The names of the fields on the first chain with so many steps, from left to right. -/
def LeadsFirst (steps : Nat) (value : Json) (names : List String) : Prop :=
  ∃ positions last, Descends value positions names last ∧ positions.length = steps ∧
    ∀ others names' last', Descends value others names' last' → others.length = steps →
      ¬ List.Lex (· < ·) others positions

/-- A value without the item that its form asks for, with what is read in the place of the item. -/
inductive LacksItem : Json → DataType → Prop
  | wrapper {members : Json.Members} {kind : String} :
      members.get? "kind" = some (.text kind) → (kind, "item") ∈ wrappers →
      members.get? "item" = none → LacksItem (.object members) (.unknown "missing `item`")
  | array {members : Json.Members} :
      (∀ kind, members.get? "kind" ≠ some (.text kind)) →
      (∀ other ∈ formKeys.takeWhile (· != "array"), members.get? other = none) →
      members.get? "array" = some (.list []) → LacksItem (.object members) (.unknown "array")

private theorem Holds.unique {value : Json} {types types' : List (Option String × Json)}
    (h : Holds value types) (h' : Holds value types') : types = types' :=
  (Outline.inside_of_holds h).symm.trans (Outline.inside_of_holds h')

private theorem exists_nests_iff {steps : Nat} {value : Json} :
    (∃ names, Nests steps value names) ↔
      ∃ positions names last, Descends value positions names last ∧ positions.length = steps := by
  induction steps generalizing value with
  | zero =>
    constructor
    · rintro -
      exact ⟨[], [], value, .here, rfl⟩
    · rintro -
      exact ⟨[], rfl⟩
  | succ steps ih =>
    constructor
    · rintro ⟨names, types, holds, first⟩
      obtain ⟨⟨name, type⟩, member, more, deep, -⟩ := first.exists_fault
      obtain ⟨index, there⟩ := List.mem_iff_getElem?.mp member
      obtain ⟨positions, names', last, chain, length⟩ := ih.mp ⟨more, deep⟩
      exact ⟨index :: positions, _, last, .step holds there chain, by simp [length]⟩
    · rintro ⟨_, _, last, chain, length⟩
      cases chain with
      | here => cases length
      | @step _ type _ types index name positions names holds there chain =>
        obtain ⟨more, deep⟩ := ih.mpr ⟨positions, names, last, chain, Nat.succ.inj length⟩
        have member : (name, type) ∈ types := List.mem_of_getElem? there
        obtain ⟨names, first⟩ : ∃ names, Earliest (fun field names =>
            ∃ more, Nests steps field.2 more ∧ names = field.1.toList ++ more) types names :=
          Earliest.exists_iff.mpr ⟨(name, type), member, name.toList ++ more, more, deep, rfl⟩
        exact ⟨names, types, holds, first⟩

private theorem nests_iff_leadsFirst {steps : Nat} {value : Json} {names : List String} :
    Nests steps value names ↔ LeadsFirst steps value names := by
  induction steps generalizing value names with
  | zero =>
    constructor
    · rintro rfl
      refine ⟨[], value, .here, rfl, ?_⟩
      intro others _ _ _ _ before
      cases before
    · rintro ⟨positions, last, chain, length, -⟩
      cases chain with
      | here => rfl
      | step _ _ _ => cases length
  | succ steps ih =>
    rw [Nests]
    constructor
    · rintro ⟨types, holds, first⟩
      obtain ⟨index, ⟨name, type⟩, there, ⟨more, deep, rfl⟩, earlier⟩ :=
        Earliest.iff_getElem?.mp first
      obtain ⟨positions, last, chain, length, least⟩ := ih.mp deep
      refine ⟨index :: positions, last, .step holds there chain, by simp [length], ?_⟩
      intro others names' last' chain' length' before
      cases chain' with
      | here => cases length'
      | @step _ type' _ types' index' name' positions' names' holds' there' chain' =>
        obtain rfl := holds.unique holds'
        cases before with
        | rel left =>
          obtain ⟨more', deep'⟩ :=
            exists_nests_iff.mpr ⟨positions', names', last', chain', Nat.succ.inj length'⟩
          exact earlier index' (name', type') left there' _ ⟨more', deep', rfl⟩
        | cons before =>
          cases there.symm.trans there'
          exact least positions' names' last' chain' (Nat.succ.inj length') before
    · rintro ⟨_, last, chain, length, least⟩
      cases chain with
      | here => cases length
      | @step _ type _ types index name positions more holds there chain =>
        have deep : Nests steps type more := by
          refine ih.mpr ⟨positions, last, chain, Nat.succ.inj length, ?_⟩
          intro others names' last' chain' length' before
          exact least (index :: others) _ last' (.step holds there chain') (by simp [length'])
            (.cons before)
        refine ⟨types, holds, Earliest.iff_getElem?.mpr
          ⟨index, (name, type), there, ⟨more, deep, rfl⟩, ?_⟩⟩
        rintro earlier ⟨name', type'⟩ left there' names' ⟨more', deep', -⟩
        obtain ⟨others, _, last', chain', length'⟩ := exists_nests_iff.mp ⟨more', deep'⟩
        exact least (earlier :: others) _ last' (.step holds there' chain') (by simp [length'])
          (.rel left)

end DataType

namespace Outline

open DataType (LacksItem formKeys wrappers)

variable {members : Json.Members} {value : Json}

/-- A type without inner types, or one around what stands in the place of a missing item. -/
def Closed (value : Json) (type : DataType) : Prop :=
  type.inner = [] ∨
    ∃ node, (type = .option node ∨ type = .list node) ∧ LacksItem value node

/-- An outline with inner types still unread, or with a type that has no others. -/
def LeafClosed (value : Json) : Outline → Prop
  | .leaf type => Closed value type
  | _ => True

private theorem inner_named (name : String) : (DataType.named name).inner = [] := by
  have of_width : ∀ {signed digits type}, DataType.integerOfWidth? signed digits = some type →
      type.inner = [] := by
    intro signed digits type found
    obtain ⟨bits, -, chosen⟩ := Option.bind_eq_some_iff.mp found
    split at chosen
    · cases chosen
      rfl
    · cases chosen
  unfold DataType.named
  split
  case h_9 =>
    cases found : DataType.integerNamed? name with
    | none => rfl
    | some type =>
      unfold DataType.integerNamed? at found
      split at found
      · exact of_width found
      · exact of_width found
      · cases found
  all_goals rfl

private theorem inner_reference (value : Json) : (reference value).inner = [] := by
  unfold reference
  split
  · rfl
  · cases value.textAt? "name" <;> rfl

private theorem leafClosed_wrap {key : String} {wrapper : Json → Outline}
    {otherwise : DataType → DataType} (unread : ∀ inner, LeafClosed value (wrapper inner))
    (absent : members.get? key = none → Closed value (otherwise (missing key))) :
    LeafClosed value (wrap members key wrapper otherwise) := by
  unfold wrap
  cases found : members.get? key with
  | none => exact absent found
  | some inner => exact unread inner

private theorem leafClosed_ofKind {kind : String}
    (tagged : members.get? "kind" = some (.text kind)) :
    LeafClosed (.object members) (ofKind kind members) := by
  have lacks : (kind, "item") ∈ wrappers → members.get? "item" = none →
      LacksItem (.object members) (missing "item") :=
    fun listed absent => .wrapper tagged listed absent
  unfold ofKind
  split
  case h_1 =>
    cases members.text? "format" with
    | none => exact .inl rfl
    | some format => exact .inl (inner_named format)
  case h_6 | h_7 | h_8 =>
    exact leafClosed_wrap (fun _ => trivial) fun absent =>
      .inr ⟨_, .inl rfl, lacks (by simp [wrappers]) absent⟩
  case h_9 | h_10 =>
    exact leafClosed_wrap (fun _ => trivial) fun absent =>
      .inr ⟨_, .inr rfl, lacks (by simp [wrappers]) absent⟩
  case h_16 => exact .inl (inner_reference _)
  all_goals first
    | exact .inl rfl
    | exact trivial
    | exact leafClosed_wrap (fun _ => trivial) fun _ => .inl rfl

private theorem leafClosed_ofForm (untagged : ∀ kind, members.get? "kind" ≠ some (.text kind)) :
    LeafClosed (.object members) (ofForm members) := by
  unfold ofForm
  cases options : firstOf members ["option", "coption"] with
  | some inner => trivial
  | none =>
  cases lists : firstOf members ["vec", "hashSet", "bTreeSet"] with
  | some inner => trivial
  | none =>
  cases array : members.get? "array" with
  | some items =>
    have first : ∀ other ∈ formKeys.takeWhile (· != "array"), members.get? other = none := by
      simpa [formKeys, and_assoc] using
        And.intro (firstOf_eq_none.mp options) (firstOf_eq_none.mp lists)
    change LeafClosed (.object members) (ofArray items)
    unfold ofArray
    split
    · exact .inr ⟨_, .inr rfl, .array untagged first array⟩
    · trivial
    · trivial
  | none =>
    dsimp only
    repeat' split
    all_goals first
      | exact .inl rfl
      | exact trivial
      | exact .inl (inner_reference _)

theorem leafClosed_ofJson (value : Json) : LeafClosed value (ofJson value) := by
  cases value with
  | text name => exact .inl (inner_named name)
  | object members =>
    cases told : Json.Members.text? members "kind" with
    | some kind =>
      simp only [ofJson, told]
      exact leafClosed_ofKind (Json.Members.text?_eq_some.mp told)
    | none =>
      have untagged : ∀ kind, Json.Members.get? members "kind" ≠ some (.text kind) := by
        intro kind found
        rw [Json.Members.text?_eq_some.mpr found] at told
        cases told
      simp only [ofJson, told]
      exact leafClosed_ofForm untagged
  | null | bool _ | number _ | list _ => exact .inl rfl

end Outline

private theorem DescriptorError.message_typeTooDeep (place : String) :
    (typeTooDeep place).message = "Type of `" ++ place ++ "` is nested deeper than 32 levels" := by
  have limit : maxTypeDepth.repr = "32" := rfl
  have joined : "` is nested deeper than " ++ ("32" ++ " levels") =
      "` is nested deeper than 32 levels" := rfl
  change "Type of `" ++ place ++ "` is nested deeper than " ++ maxTypeDepth.repr ++ " levels" = _
  rw [limit, String.append_assoc, String.append_assoc, joined]

namespace DataType

variable {levels level : Nat} {context : String} {value : Json} {type node : DataType}

/-- A type that is read is read from a value under a wrapper, or its inner types are read one level
further down, but for one that stands for a missing item. -/
theorem readAt_cases (read : readAt (levels + 1) context value = .ok type) :
    (∃ inner, (Outline.ofJson value).inside = [(none, inner)] ∧
      readAt levels context inner = .ok type) ∨
    ∀ part ∈ type.inner, LacksItem value part ∨
      ∃ (index : Nat) (name : Option String) (inner : Json) (place : String),
        (Outline.ofJson value).inside[index]? = some (name, inner) ∧
          readAt levels place inner = .ok part := by
  have closed := Outline.leafClosed_ofJson value
  rw [readAt] at read
  cases outline : Outline.ofJson value with
  | leaf leaf =>
    rw [outline] at read closed
    cases read
    rcases closed with none | ⟨node, around, lacks⟩
    · rw [none]
      exact .inr fun part member => absurd member List.not_mem_nil
    · refine .inr fun part member => .inl ?_
      have same : part = node := by
        rcases around with rfl | rfl <;> exact List.mem_singleton.mp member
      exact same ▸ lacks
  | transparent inner =>
    rw [outline] at read
    exact .inl ⟨inner, rfl, read⟩
  | option inner =>
    rw [outline] at read
    obtain ⟨inner_type, inner_read, rfl⟩ := except_map_eq_ok.mp read
    refine .inr fun part member => .inr ⟨0, none, inner, context, rfl, ?_⟩
    exact List.mem_singleton.mp member ▸ inner_read
  | list item =>
    rw [outline] at read
    obtain ⟨item_type, item_read, rfl⟩ := except_map_eq_ok.mp read
    refine .inr fun part member => .inr ⟨0, none, item, context, rfl, ?_⟩
    exact List.mem_singleton.mp member ▸ item_read
  | struct fields =>
    rw [outline] at read
    obtain ⟨arguments, fields_read, rfl⟩ := except_map_eq_ok.mp read
    refine .inr fun part member => .inr ?_
    obtain ⟨argument, origin, rfl⟩ := List.mem_map.mp member
    obtain ⟨⟨field, index⟩, there, read_field⟩ := exists_of_mem_mapM fields_read origin
    obtain ⟨field_type, read_type, made⟩ := except_bind_eq_ok.mp read_field
    cases made
    rw [(fieldOutline_eq index field context).1] at read_type
    have position : fields[index]? = some field := List.mem_zipIdx_iff_getElem?.mp there
    exact ⟨index, (fieldType field).1, (fieldType field).2, _,
      by rw [Outline.inside, List.getElem?_map, position]; rfl, read_type⟩
  | tuple items =>
    rw [outline] at read
    obtain ⟨item_types, items_read, rfl⟩ := except_map_eq_ok.mp read
    refine .inr fun part member => .inr ?_
    obtain ⟨item, there, read_item⟩ := exists_of_mem_mapM items_read member
    obtain ⟨index, position⟩ := List.mem_iff_getElem?.mp there
    exact ⟨index, none, item, context,
      by rw [Outline.inside, List.getElem?_map, position]; rfl, read_item⟩

/-- No node of a type lies below the level that the reader goes down to, and one that lies there
stands for the missing item of a value one level up. -/
private theorem level_le_of_readAt (read : readAt levels context value = .ok type)
    (lies : LiesAt level type node) : level ≤ levels ∧ (level = levels →
      ∃ positions names last, Descends value positions names last ∧
        positions.length + 1 = levels ∧ LacksItem last node) := by
  induction levels generalizing context value type level with
  | zero => cases read
  | succ levels ih =>
    have holds : ∀ {index : Nat} {field}, (Outline.ofJson value).inside[index]? = some field →
        Holds value (Outline.ofJson value).inside := by
      intro index field there
      apply Outline.holds_of_inside
      intro none
      rw [none] at there
      cases there
    rcases readAt_cases read with ⟨inner, inside, read_inner⟩ | parts
    · obtain ⟨le, -⟩ := ih read_inner lies
      exact ⟨Nat.le_succ_of_le le, by omega⟩
    · cases lies with
      | root => exact ⟨Nat.zero_le _, by omega⟩
      | @inside level _ part _ member lies =>
        rcases parts part member with lacks | ⟨index, name, inner, place, there, read_inner⟩
        · have top : level = 0 ∧ node = part := by
            cases lacks <;> cases lies with
            | root => exact ⟨rfl, rfl⟩
            | inside member _ => cases member
          obtain ⟨rfl, rfl⟩ := top
          refine ⟨by omega, fun deepest => ?_⟩
          exact ⟨[], [], value, .here, by simpa using deepest, lacks⟩
        · obtain ⟨le, deepest⟩ := ih read_inner lies
          refine ⟨Nat.succ_le_succ le, fun bottom => ?_⟩
          obtain ⟨positions, names, last, chain, length, lacks⟩ := deepest (Nat.succ.inj bottom)
          exact ⟨index :: positions, _, last, .step (holds there) there chain,
            by simpa using length, lacks⟩

private theorem orRefuse_eq_error_iff {e : DescriptorError} :
    TooDeep.orRefuse (read context value) = .error e ↔
      ∃ names, LeadsFirst (maxTypeDepth + 1) value names ∧
        e = .typeTooDeep (contextAt context names) := by
  have refused : TooDeep.orRefuse (read context value) = .error e ↔
      ∃ t, read context value = .error t ∧ e = .typeTooDeep t.context := by
    cases read context value <;> simp [TooDeep.orRefuse, eq_comm]
  rw [refused]
  simp only [read, readAt_eq_error_iff, nests_iff_leadsFirst]
  constructor
  · rintro ⟨_, ⟨names, first, rfl⟩, rfl⟩
    exact ⟨names, first, rfl⟩
  · rintro ⟨names, first, rfl⟩
    exact ⟨_, ⟨names, first, rfl⟩, rfl⟩

theorem orRefuse_eq_ok_iff :
    TooDeep.orRefuse (read context value) = .ok type ↔ read context value = .ok type := by
  cases read context value <;> simp [TooDeep.orRefuse]

/-- A type is refused exactly when it has a chain of steps beyond the limit, and in no other way
than with the names of the fields on the first such chain. A type that is read is nested one level
deeper than the limit at most, where only what stands for a missing item can be, and that many
nested calls are enough for all that is done with it later. -/
theorem depth_limit_is_exact (context : String) (value : Json) :
    ((∃ e, TooDeep.orRefuse (read context value) = .error e) ↔
      ∃ positions names last, Descends value positions names last ∧
        positions.length = maxTypeDepth + 1) ∧
    (∀ e, TooDeep.orRefuse (read context value) = .error e ↔
      ∃ names, LeadsFirst (maxTypeDepth + 1) value names ∧
        e = .typeTooDeep (contextAt context names)) ∧
    (∀ place, (DescriptorError.typeTooDeep place).message =
      "Type of `" ++ place ++ "` is nested deeper than 32 levels") ∧
    ∀ type, TooDeep.orRefuse (read context value) = .ok type →
      (∀ level node, LiesAt level type node → level ≤ maxTypeDepth + 1 ∧
        (level = maxTypeDepth + 1 → (∃ what, node = .unknown what) ∧
          ∃ positions names last, Descends value positions names last ∧
            positions.length = maxTypeDepth ∧ LacksItem last node)) ∧
      type.unwrapWithin (maxTypeDepth + 2) = some type.unwrap ∧
      Widget.within (maxTypeDepth + 2) type = some (Widget.ofType type) ∧
      ∀ types name docs optional, ∃ control,
        Control.ofArguments types [.mk name docs optional type] = [control] ∧
        Control.within types (maxTypeDepth + 2) (.mk name docs optional type) = some control := by
  refine ⟨?_, fun e => orRefuse_eq_error_iff, DescriptorError.message_typeTooDeep, ?_⟩
  · rw [← exists_nests_iff]
    simp only [orRefuse_eq_error_iff, nests_iff_leadsFirst]
    exact ⟨fun ⟨_, names, first, _⟩ => ⟨names, first⟩, fun ⟨names, first⟩ => ⟨_, names, first, rfl⟩⟩
  · intro type accepted
    have read_type := orRefuse_eq_ok_iff.mp accepted
    have within : type.Within (maxTypeDepth + 1) :=
      fun level node lies => (level_le_of_readAt read_type lies).1
    refine ⟨?_, unwrapWithin_eq within, Widget.within_eq within, ?_⟩
    · intro level node lies
      obtain ⟨le, deepest⟩ := level_le_of_readAt read_type lies
      refine ⟨le, fun bottom => ?_⟩
      obtain ⟨positions, names, last, chain, length, lacks⟩ := deepest bottom
      have unknown : ∃ what, node = .unknown what := by
        cases lacks <;> exact ⟨_, rfl⟩
      exact ⟨unknown, positions, names, last, chain, Nat.succ.inj length, lacks⟩
    · intro types name docs optional
      exact ⟨_, Control.ofArguments_eq_map [.mk name docs optional type], Control.within_eq within⟩

def bareArray : Nat → Json
  | 0 => .object [("kind", .text "arrayTypeNode")]
  | count + 1 => .object [("vec", bareArray count)]

def lists : Nat → DataType
  | 0 => .unknown "missing `item`"
  | count + 1 => .list (lists count)

private theorem liesAt_lists (count : Nat) :
    LiesAt count (lists count) (.unknown "missing `item`") := by
  induction count with
  | zero => exact .root
  | succ count ih => exact .inside (List.mem_singleton_self _) ih

/-- At the limit, an array without its item is still read, and the deepest node stands for the
item. -/
theorem depth_limit_is_exact_of_bare_array :
    TooDeep.orRefuse (read "deep" (bareArray maxTypeDepth)) = .ok (lists (maxTypeDepth + 1)) ∧
      LiesAt (maxTypeDepth + 1) (lists (maxTypeDepth + 1)) (.unknown "missing `item`") ∧
      (∃ positions names last, Descends (bareArray maxTypeDepth) positions names last ∧
        positions.length = maxTypeDepth ∧ LacksItem last (.unknown "missing `item`")) ∧
      (lists (maxTypeDepth + 1)).unwrapWithin (maxTypeDepth + 2) =
        some (lists (maxTypeDepth + 1)).unwrap := by
  have accepted : TooDeep.orRefuse (read "deep" (bareArray maxTypeDepth)) =
      .ok (lists (maxTypeDepth + 1)) := rfl
  have deepest := liesAt_lists (maxTypeDepth + 1)
  obtain ⟨-, -, -, sound⟩ := depth_limit_is_exact "deep" (bareArray maxTypeDepth)
  obtain ⟨levels, unwrapped, -⟩ := sound _ accepted
  exact ⟨accepted, deepest, ((levels _ _ deepest).2 rfl).2, unwrapped⟩

end DataType

end UiScaffold
