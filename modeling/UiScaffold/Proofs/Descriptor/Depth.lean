import UiScaffold.Proofs.Descriptor.Traversal

/-!
How deep a type is nested.

A type holds other types: the one that it wraps, its fields or its items. What a type holds is told
by its kind, or by the first of its form keys when it has no kind. A type is refused exactly when a
chain of such steps is longer than the levels allow, and the refusal names the fields on the first
such chain.
-/

set_option autoImplicit false
set_option relaxedAutoImplicit false

namespace UiScaffold

/-- A fault of the first item that has one. -/
inductive Earliest {α ε : Type} (fault : α → ε → Prop) : List α → ε → Prop
  | here {a : α} {rest : List α} {e : ε} : fault a e → Earliest fault (a :: rest) e
  | later {a : α} {rest : List α} {e : ε} :
      (∀ e', ¬ fault a e') → Earliest fault rest e → Earliest fault (a :: rest) e

namespace Earliest

variable {α β ε ε' : Type} {fault : α → ε → Prop} {a : α} {items rest : List α} {e : ε}

theorem not_nil : ¬ Earliest fault [] e := by
  intro h
  cases h

theorem cons_iff :
    Earliest fault (a :: rest) e ↔ fault a e ∨ (∀ e', ¬ fault a e') ∧ Earliest fault rest e := by
  constructor
  · rintro (found | ⟨sound, found⟩)
    · exact .inl found
    · exact .inr ⟨sound, found⟩
  · rintro (found | ⟨sound, found⟩)
    · exact .here found
    · exact .later sound found

theorem singleton_iff : Earliest fault [a] e ↔ fault a e := by
  simp [cons_iff, not_nil]

theorem here_iff (found : ∃ e, fault a e) : Earliest fault (a :: rest) e ↔ fault a e := by
  obtain ⟨e', found⟩ := found
  rw [cons_iff]
  exact ⟨fun h => h.resolve_right fun later => later.1 e' found, .inl⟩

theorem later_iff (sound : ∀ e', ¬ fault a e') :
    Earliest fault (a :: rest) e ↔ Earliest fault rest e := by
  simp [cons_iff, sound]

theorem exists_iff : (∃ e, Earliest fault items e) ↔ ∃ a ∈ items, ∃ e, fault a e := by
  induction items with
  | nil => simp [not_nil]
  | cons a rest ih =>
    by_cases found : ∃ e, fault a e
    · obtain ⟨e, found'⟩ := found
      exact ⟨fun _ => ⟨a, List.mem_cons_self, e, found'⟩, fun _ => ⟨e, .here found'⟩⟩
    · have sound : ∀ e, ¬ fault a e := not_exists.mp found
      simp [cons_iff, sound, ih]

theorem exists_fault (h : Earliest fault items e) : ∃ a ∈ items, fault a e := by
  induction h with
  | here found => exact ⟨_, List.mem_cons_self, found⟩
  | later _ _ ih =>
    obtain ⟨a, member, found⟩ := ih
    exact ⟨a, List.mem_cons_of_mem _ member, found⟩

private theorem map_iff {f : β → α} {items : List β} :
    Earliest fault (items.map f) e ↔ Earliest (fun b => fault (f b)) items e := by
  induction items with
  | nil => simp [not_nil]
  | cons b rest ih => rw [List.map_cons, cons_iff, cons_iff, ih]

theorem filterMap_iff {fault' : β → ε → Prop} {f : α → Option β}
    (dropped : ∀ a, f a = none → ∀ e, ¬ fault a e)
    (kept : ∀ a b, f a = some b → ∀ e, fault a e ↔ fault' b e) :
    Earliest fault items e ↔ Earliest fault' (items.filterMap f) e := by
  induction items with
  | nil => simp [not_nil]
  | cons a rest ih =>
    cases made : f a with
    | none => rw [List.filterMap_cons_none made, later_iff (dropped a made), ih]
    | some b =>
      rw [List.filterMap_cons_some made, cons_iff, cons_iff, ih]
      simp only [kept a b made]

private theorem iff_of_iff {fault' : α → ε → Prop}
    (same : ∀ a ∈ items, ∀ e, fault a e ↔ fault' a e) :
    Earliest fault items e ↔ Earliest fault' items e := by
  induction items with
  | nil => simp [not_nil]
  | cons a rest ih =>
    rw [cons_iff, cons_iff, ih fun b hb => same b (List.mem_cons_of_mem a hb)]
    simp only [same a List.mem_cons_self]

theorem tell_iff {fault' : α → ε' → Prop} (tell : ε → ε') {e' : ε'}
    (same : ∀ a ∈ items, ∀ e', fault' a e' ↔ ∃ e, fault a e ∧ e' = tell e) :
    Earliest fault' items e' ↔ ∃ e, Earliest fault items e ∧ e' = tell e := by
  induction items with
  | nil => simp [not_nil]
  | cons a rest ih =>
    have sound : (∀ e', ¬ ∃ e, fault a e ∧ e' = tell e) ↔ ∀ e, ¬ fault a e := by
      refine ⟨fun h e found => h (tell e) ⟨e, found, rfl⟩, ?_⟩
      rintro h _ ⟨e, found, -⟩
      exact h e found
    simp only [cons_iff, same a List.mem_cons_self, sound,
      ih fun b hb => same b (List.mem_cons_of_mem a hb)]
    constructor
    · rintro (⟨e, found, rfl⟩ | ⟨none, e, found, rfl⟩)
      · exact ⟨e, .inl found, rfl⟩
      · exact ⟨e, .inr ⟨none, found⟩, rfl⟩
    · rintro ⟨e, found | ⟨none, found⟩, rfl⟩
      · exact .inl ⟨e, found, rfl⟩
      · exact .inr ⟨none, e, found, rfl⟩

end Earliest

variable {α β ε : Type}

/-- A traversal fails with the error of the first item that fails. -/
theorem mapM_eq_error_iff {f : α → Except ε β} {items : List α} {e : ε} :
    items.mapM f = .error e ↔ Earliest (fun a e => f a = .error e) items e := by
  induction items with
  | nil => simp [Earliest.not_nil, pure, Except.pure]
  | cons a rest ih =>
    rw [List.mapM_cons, except_bind_eq_error, Earliest.cons_iff]
    cases first : f a with
    | error e' => simp
    | ok b =>
      rw [← ih]
      cases more : rest.mapM f <;> simp [bind, Except.bind, pure, Except.pure]

namespace DataType

/-- The kinds of objects that wrap one type, each with the key of that type. -/
def wrappers : List (String × String) :=
  [("optionTypeNode", "item"), ("zeroableOptionTypeNode", "item"),
    ("remainderOptionTypeNode", "item"), ("arrayTypeNode", "item"), ("setTypeNode", "item"),
    ("sizePrefixTypeNode", "type"), ("fixedSizeTypeNode", "type"), ("hiddenPrefixTypeNode", "type"),
    ("hiddenSuffixTypeNode", "type"), ("preOffsetTypeNode", "type"), ("postOffsetTypeNode", "type")]

/-- The form keys of objects without a kind; the first that an object has tells its form. -/
def formKeys : List String :=
  ["option", "coption", "vec", "hashSet", "bTreeSet", "array", "defined", "struct", "tuple"]

/-- The type of a field, with the name of the field if it has one of its own. -/
def fieldType (field : Json) : Option String × Json :=
  match field.textAt? "name", field.get? "type" with
  | some name, some type => (some name, type)
  | _, _ => (none, field)

/-- The types that a value holds under a form key. -/
inductive HoldsUnder : String → Json → List (Option String × Json) → Prop
  | wrapped {key : String} {inner : Json} :
      key ∈ ["option", "coption", "vec", "hashSet", "bTreeSet"] →
        HoldsUnder key inner [(none, inner)]
  | arrayOfItem {item : Json} {rest : List Json} :
      HoldsUnder "array" (.list (item :: rest)) [(none, item)]
  | arrayOf {item : Json} : (∀ items, item ≠ .list items) → HoldsUnder "array" item [(none, item)]
  | struct {value : Json} : HoldsUnder "struct" value ((value.itemsAt "fields").map fieldType)
  | tuple {items : List Json} :
      HoldsUnder "tuple" (.list items) (items.map fun item => (none, item))

/-- The types directly inside a type, in order, each with the name of the field that it is the type
of. Values of no such form hold none. -/
inductive Holds : Json → List (Option String × Json) → Prop
  | wrapped {members : Json.Members} {kind key : String} {inner : Json} :
      members.get? "kind" = some (.text kind) → (kind, key) ∈ wrappers →
      members.get? key = some inner → Holds (.object members) [(none, inner)]
  | struct {members : Json.Members} {kind : String} :
      members.get? "kind" = some (.text kind) → kind ∈ ["structTypeNode", "struct"] →
      Holds (.object members) ((members.items "fields").map fieldType)
  | tuple {members : Json.Members} :
      members.get? "kind" = some (.text "tupleTypeNode") →
      Holds (.object members) ((members.items "items").map fun item => (none, item))
  | form {members : Json.Members} {key : String} {value : Json}
      {inner : List (Option String × Json)} :
      (∀ kind, members.get? "kind" ≠ some (.text kind)) →
      (∀ other ∈ formKeys.takeWhile (· != key), members.get? other = none) →
      members.get? key = some value → HoldsUnder key value inner → Holds (.object members) inner

/-- A type with a type that many steps inside it; the names are those of the fields on the first way
to such a type. -/
def Nests : Nat → Json → List String → Prop
  | 0, _, names => names = []
  | levels + 1, value, names =>
    ∃ inner, Holds value inner ∧ Earliest (fun field names =>
      ∃ more, Nests levels field.2 more ∧ names = field.1.toList ++ more) inner names

end DataType

namespace Outline

open DataType (Holds HoldsUnder fieldType formKeys wrappers)

variable {members : Json.Members} {value : Json} {types : List (Option String × Json)}

def inside : Outline → List (Option String × Json)
  | leaf _ => []
  | transparent inner => [(none, inner)]
  | option inner => [(none, inner)]
  | list item => [(none, item)]
  | struct fields => fields.map fieldType
  | tuple items => items.map fun item => (none, item)

private theorem inside_ofKind {kind key : String} {inner : Json} (listed : (kind, key) ∈ wrappers)
    (found : members.get? key = some inner) : (ofKind kind members).inside = [(none, inner)] := by
  simp only [wrappers, List.mem_cons, Prod.mk.injEq, List.not_mem_nil, or_false] at listed
  rcases listed with ⟨rfl, rfl⟩ | ⟨rfl, rfl⟩ | ⟨rfl, rfl⟩ | ⟨rfl, rfl⟩ | ⟨rfl, rfl⟩ | ⟨rfl, rfl⟩ |
    ⟨rfl, rfl⟩ | ⟨rfl, rfl⟩ | ⟨rfl, rfl⟩ | ⟨rfl, rfl⟩ | ⟨rfl, rfl⟩ <;>
  simp only [ofKind, wrap, found, inside]

private theorem inside_ofForm {key : String}
    (first : ∀ other ∈ formKeys.takeWhile (· != key), members.get? other = none)
    (found : members.get? key = some value) (under : HoldsUnder key value types) :
    (ofForm members).inside = types := by
  cases under with
  | wrapped listed =>
    simp only [List.mem_cons, List.not_mem_nil, or_false] at listed
    rcases listed with rfl | rfl | rfl | rfl | rfl <;> simp [formKeys] at first <;>
      simp [ofForm, firstOf, first, found, inside]
  | arrayOfItem =>
    simp [formKeys] at first
    simp [ofForm, firstOf, first, found, ofArray, inside]
  | arrayOf single =>
    simp [formKeys] at first
    cases value with
    | list items => exact absurd rfl (single items)
    | _ => simp [ofForm, firstOf, first, found, ofArray, inside]
  | struct =>
    simp [formKeys] at first
    simp [ofForm, firstOf, first, found, inside]
  | tuple =>
    simp [formKeys] at first
    simp [ofForm, firstOf, first, Json.Members.list?_eq_some.mpr found, inside]

theorem inside_of_holds (h : Holds value types) : (ofJson value).inside = types := by
  cases h with
  | wrapped kind listed found =>
    simp only [ofJson, Json.Members.text?_eq_some.mpr kind]
    exact inside_ofKind listed found
  | struct kind listed =>
    simp only [ofJson, Json.Members.text?_eq_some.mpr kind]
    simp only [List.mem_cons, List.not_mem_nil, or_false] at listed
    rcases listed with rfl | rfl <;> rfl
  | tuple kind =>
    simp only [ofJson, Json.Members.text?_eq_some.mpr kind]
    rfl
  | @form members key value types untagged first found under =>
    have no_kind : members.text? "kind" = none := by
      rw [Option.eq_none_iff_forall_ne_some]
      intro kind told
      exact untagged kind (Json.Members.text?_eq_some.mp told)
    simp only [ofJson, no_kind]
    exact inside_ofForm first found under

private theorem holds_of_ofKind {kind : String} (tagged : members.get? "kind" = some (.text kind))
    (some_inside : (ofKind kind members).inside ≠ []) :
    Holds (.object members) (ofKind kind members).inside := by
  have wrap_holds : ∀ {key : String} {wrapper : Json → Outline} {otherwise : DataType → DataType},
      (kind, key) ∈ wrappers → (∀ inner, (wrapper inner).inside = [(none, inner)]) →
      (wrap members key wrapper otherwise).inside ≠ [] →
      Holds (.object members) (wrap members key wrapper otherwise).inside := by
    intro key wrapper otherwise listed inner_of some_inside
    unfold wrap at some_inside ⊢
    cases found : members.get? key with
    | none => simp [found, inside] at some_inside
    | some inner =>
      simp only [inner_of]
      exact .wrapped tagged listed found
  unfold ofKind at some_inside ⊢
  split at some_inside
  all_goals first
    | exact absurd rfl some_inside
    | exact wrap_holds (by simp [wrappers]) (fun _ => rfl) some_inside
    | exact .struct tagged (by simp)
    | exact .tuple tagged

private theorem firstOf_eq_some {keys : List String} {inner : Json}
    (found : firstOf members keys = some inner) :
    ∃ key ∈ keys, members.get? key = some inner ∧
      ∀ other ∈ keys.takeWhile (· != key), members.get? other = none := by
  induction keys with
  | nil => cases found
  | cons key rest ih =>
    unfold firstOf at found ih
    rw [List.findSome?_cons] at found
    cases here : members.get? key with
    | some value =>
      rw [here] at found
      cases found
      exact ⟨key, List.mem_cons_self, here, by simp⟩
    | none =>
      rw [here] at found
      obtain ⟨later, listed, there, earlier⟩ := ih found
      have differ : key ≠ later := by
        rintro rfl
        rw [here] at there
        cases there
      refine ⟨later, List.mem_cons_of_mem key listed, there, ?_⟩
      simpa [differ, here] using earlier

theorem firstOf_eq_none {keys : List String} :
    firstOf members keys = none ↔ ∀ key ∈ keys, members.get? key = none :=
  List.findSome?_eq_none_iff

private theorem holds_of_ofForm (untagged : ∀ kind, members.get? "kind" ≠ some (.text kind))
    (some_inside : (ofForm members).inside ≠ []) :
    Holds (.object members) (ofForm members).inside := by
  unfold ofForm at some_inside ⊢
  cases options : firstOf members ["option", "coption"] with
  | some inner =>
    obtain ⟨key, listed, found, first⟩ := firstOf_eq_some options
    refine .form untagged ?_ found (.wrapped ?_)
    · simp only [List.mem_cons, List.not_mem_nil, or_false] at listed
      rcases listed with rfl | rfl
      · simp [formKeys]
      · simpa [formKeys] using first
    · exact List.mem_append_left ["vec", "hashSet", "bTreeSet"] listed
  | none =>
  have no_option := firstOf_eq_none.mp options
  simp only [options] at some_inside ⊢
  cases lists : firstOf members ["vec", "hashSet", "bTreeSet"] with
  | some inner =>
    obtain ⟨key, listed, found, first⟩ := firstOf_eq_some lists
    refine .form untagged ?_ found (.wrapped ?_)
    · simp only [List.mem_cons, List.not_mem_nil, or_false] at listed
      simp only [List.forall_mem_cons] at no_option
      rcases listed with rfl | rfl | rfl <;> simp [formKeys] at first ⊢ <;> simp [no_option, first]
    · exact List.mem_append_right ["option", "coption"] listed
  | none =>
  have no_list := firstOf_eq_none.mp lists
  simp only [lists] at some_inside ⊢
  cases array : members.get? "array" with
  | some value =>
    have first : ∀ other ∈ formKeys.takeWhile (· != "array"), members.get? other = none := by
      simpa [formKeys, and_assoc] using And.intro no_option no_list
    simp only [array] at some_inside ⊢
    cases value with
    | list items =>
      cases items with
      | nil => exact absurd rfl some_inside
      | cons item rest => exact .form untagged first array .arrayOfItem
    | _ => exact .form untagged first array (.arrayOf (by simp))
  | none =>
  simp only [array] at some_inside ⊢
  cases defined : members.get? "defined" with
  | some value => simp [defined, inside] at some_inside
  | none =>
  simp only [defined] at some_inside ⊢
  cases struct : members.get? "struct" with
  | some value =>
    refine .form untagged ?_ struct .struct
    simpa [formKeys, and_assoc] using And.intro no_option (And.intro no_list ⟨array, defined⟩)
  | none =>
  simp only [struct] at some_inside ⊢
  cases tuple : members.list? "tuple" with
  | some items =>
    refine .form untagged ?_ (Json.Members.list?_eq_some.mp tuple) .tuple
    simpa [formKeys, and_assoc] using
      And.intro no_option (And.intro no_list ⟨array, defined, struct⟩)
  | none =>
    simp only [tuple] at some_inside
    split at some_inside <;> exact absurd rfl some_inside

theorem holds_of_inside (some_inside : (ofJson value).inside ≠ []) :
    Holds value (ofJson value).inside := by
  cases value with
  | object members =>
    cases told : Json.Members.text? members "kind" with
    | some kind =>
      simp only [ofJson, told] at some_inside ⊢
      exact holds_of_ofKind (Json.Members.text?_eq_some.mp told) some_inside
    | none =>
      have untagged : ∀ kind, Json.Members.get? members "kind" ≠ some (.text kind) := by
        intro kind found
        rw [Json.Members.text?_eq_some.mpr found] at told
        cases told
      simp only [ofJson, told] at some_inside ⊢
      exact holds_of_ofForm untagged some_inside
  | _ => exact absurd rfl some_inside

end Outline

namespace DataType

def trailOf (names : List String) : String := String.join (names.map fun name => "." ++ name)

/-- The part of a refusal that names the place. -/
def contextAt (context : String) (names : List String) : String := context ++ trailOf names

private theorem contextAt_append (context : String) (first : Option String) (names : List String) :
    contextAt context (first.toList ++ names) =
      contextAt ((first.map fun name => context ++ "." ++ name).getD context) names := by
  cases first with
  | none => rfl
  | some name => simp [contextAt, trailOf, String.join_cons, String.append_assoc]

theorem fieldOutline_eq (index : Nat) (field : Json) (context : String) :
    (FieldOutline.ofJson index field).type = (fieldType field).2 ∧
      (FieldOutline.ofJson index field).context context =
        (((fieldType field).1.map fun name => context ++ "." ++ name).getD context) := by
  cases name : field.textAt? "name" <;> cases type : field.get? "type" <;>
    simp [FieldOutline.ofJson, FieldOutline.context, fieldType, name, type]

theorem nests_succ_iff {levels : Nat} {value : Json} {names : List String} :
    Nests (levels + 1) value names ↔ Earliest (fun field names =>
      ∃ more, Nests levels field.2 more ∧ names = field.1.toList ++ more)
        (Outline.ofJson value).inside names := by
  rw [Nests]
  constructor
  · rintro ⟨inner, holds, first⟩
    rwa [Outline.inside_of_holds holds]
  · intro first
    have some_inside : (Outline.ofJson value).inside ≠ [] := by
      intro none
      rw [none] at first
      cases first
    exact ⟨_, Outline.holds_of_inside some_inside, first⟩

def innerContext (context : String) (first : Option String) : String :=
  (first.map fun name => context ++ "." ++ name).getD context

private theorem readFields_eq_error_iff {read : String → Json → Except TooDeep DataType}
    {context : String} {fields : List Json} {e : TooDeep} :
    readFields read context fields = .error e ↔
      Earliest (fun field e => read (innerContext context field.1) field.2 = .error e)
        (fields.map fieldType) e := by
  have read_field : ∀ field ∈ fields.zipIdx, ∀ e, (do
        let outline := FieldOutline.ofJson field.2 field.1
        let type ← read (outline.context context) outline.type
        return Argument.mk outline.name outline.docs outline.optional type) = .error e ↔
      read (innerContext context (fieldType field.1).1) (fieldType field.1).2 = .error e := by
    intro field _ e
    obtain ⟨type, within⟩ := fieldOutline_eq field.2 field.1 context
    simp only [type, within, innerContext, except_bind_eq_error]
    simp [pure, Except.pure]
  rw [readFields, mapM_eq_error_iff, Earliest.iff_of_iff read_field, Earliest.map_iff]
  have positions : Earliest (fun (field : Json × Nat) e =>
      read (innerContext context (fieldType field.1).1) (fieldType field.1).2 = .error e)
        fields.zipIdx e ↔ Earliest (fun field e =>
          read (innerContext context (fieldType field).1) (fieldType field).2 = .error e)
            (fields.zipIdx.map Prod.fst) e := by
    rw [Earliest.map_iff]
  rw [positions, List.zipIdx_map_fst]

private theorem readAt_succ_eq_error_iff {levels : Nat} {context : String} {value : Json}
    {e : TooDeep} : readAt (levels + 1) context value = .error e ↔
      Earliest (fun field e => readAt levels (innerContext context field.1) field.2 = .error e)
        (Outline.ofJson value).inside e := by
  have map_error : ∀ {α β : Type} {f : α → β} {x : Except TooDeep α},
      f <$> x = .error e ↔ x = .error e := by
    intro α β f x
    cases x <;> simp [Functor.map, Except.map]
  have single : ∀ inner, readAt levels context inner = .error e ↔
      Earliest (fun field e => readAt levels (innerContext context field.1) field.2 = .error e)
        [(none, inner)] e := by
    intro inner
    rw [Earliest.singleton_iff]
    rfl
  rw [readAt]
  cases Outline.ofJson value with
  | leaf type => simp [Outline.inside, Earliest.not_nil]
  | transparent inner => exact single inner
  | option inner => exact map_error.trans (single inner)
  | list item => exact map_error.trans (single item)
  | struct fields => exact map_error.trans readFields_eq_error_iff
  | tuple items =>
    refine map_error.trans (mapM_eq_error_iff.trans ?_)
    rw [Outline.inside, Earliest.map_iff]
    rfl

/-- A type is refused exactly when it is nested too deep, and the refusal names the first place. -/
theorem readAt_eq_error_iff {levels : Nat} {context : String} {value : Json} {e : TooDeep} :
    readAt levels context value = .error e ↔
      ∃ names, Nests levels value names ∧ e = ⟨contextAt context names⟩ := by
  induction levels generalizing context value e with
  | zero => simp [readAt, Nests, contextAt, trailOf, eq_comm]
  | succ levels ih =>
    rw [readAt_succ_eq_error_iff]
    simp only [nests_succ_iff]
    refine Earliest.tell_iff (fun names => TooDeep.mk (contextAt context names)) ?_
    intro field _ e'
    rw [ih]
    constructor
    · rintro ⟨names, deep, rfl⟩
      exact ⟨_, ⟨names, deep, rfl⟩, by rw [contextAt_append, innerContext]⟩
    · rintro ⟨_, ⟨names, deep, rfl⟩, rfl⟩
      exact ⟨names, deep, by rw [contextAt_append, innerContext]⟩

end DataType

end UiScaffold
