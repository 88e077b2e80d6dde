import UiScaffold.Proofs.Descriptor.Candidates
import UiScaffold.Proofs.Json.Nulls

/-!
Where the program stands in a document.

The program that is read stands at a place of the document, and can be changed there. A change that
leaves filled what was filled, and the other programs of the document as they are, moves the choice
to no other place: the changed program is read.
-/

set_option autoImplicit false
set_option relaxedAutoImplicit false

namespace UiScaffold.Program

open Json (Members mapItems mapMembers)

/-- Where a candidate stands in a document. -/
inductive Place where
  | whole
  | nested
  | listed
deriving DecidableEq

namespace Place

def all : List Place := [whole, nested, listed]

def object? (document : Members) : Place → Option Members
  | whole => some document
  | nested => (document.get? "program").bind Json.asObject?
  | listed => (document.items "programs").head?.bind Json.asObject?

/-- The document with the object at a place changed. -/
def change (f : Members → Members) (document : Members) : Place → Members
  | whole => f document
  | nested => document.mapValues fun key => if key = "program" then mapMembers f else id
  | listed => document.mapValues fun key =>
      if key = "programs" then mapItems (List.modifyHead (mapMembers f)) else id

/-- Whether the list of instructions at a place is empty, if there is one. -/
def idle? (document : Members) (place : Place) : Option Bool :=
  (place.object? document).bind fun program => (program.list? "instructions").map List.isEmpty

end Place

/-- The place of the program: the first with instructions, or else the first with a list of them. -/
def place? (document : Members) : Option Place :=
  (Place.all.find? fun place => place.idle? document == some false).orElse fun _ =>
    Place.all.find? fun place => (place.idle? document).isSome

/-- A change of an object that keeps it where it is: it leaves instructions filled that were filled,
the programs inside as they are, and the name. -/
structure Stays (f : Members → Members) (program : Members) : Prop where
  instructions : ∃ step : List Json → List Json,
    (∀ values, (step values).isEmpty = values.isEmpty) ∧
      (f program).get? "instructions" = (program.get? "instructions").map (mapItems step)
  nested : ((f program).get? "program").bind Json.asObject? =
    (program.get? "program").bind Json.asObject?
  listed : (f program).items "programs" = program.items "programs"
  name : (f program).text? "name" = program.text? "name"

variable {document program : Members} {f : Members → Members} {place : Place}

private theorem candidates_eq_objects (document : Members) :
    candidates document = Place.all.filterMap (Place.object? document) := by
  have objects : Place.all.filterMap (Place.object? document) =
      document :: [Place.nested, Place.listed].filterMap (Place.object? document) := rfl
  rw [objects, List.filterMap_cons, List.filterMap_cons, List.filterMap_nil, candidates]
  have nested : (document.get? "program").bind Json.asObject? = Place.nested.object? document := rfl
  have listed : (document.items "programs").head?.bind Json.asObject? =
      Place.listed.object? document := rfl
  rw [nested, listed]
  cases Place.nested.object? document <;> cases Place.listed.object? document <;> rfl

theorem exists_object (chosen : place? document = some place) :
    ∃ program, place.object? document = some program := by
  have there : (place.idle? document).isSome := by
    rw [place?] at chosen
    cases first : Place.all.find? fun place => place.idle? document == some false with
    | some other =>
      have filled : other.idle? document == some false := by simpa using List.find?_some first
      rw [first] at chosen
      obtain rfl := Option.some.inj chosen
      rw [eq_of_beq filled]
      rfl
    | none =>
      rw [first] at chosen
      have found : (Place.all.find? fun place => (place.idle? document).isSome) = some place :=
        chosen
      simpa using List.find?_some found
  cases object : place.object? document with
  | some program => exact ⟨program, rfl⟩
  | none =>
    rw [Place.idle?, object] at there
    cases there

private theorem locate_eq_object (sound : ∀ value, document.get? "instructions" = some value →
      ∃ items, value = .list items) :
    locate document = match (place? document).bind (Place.object? document) with
      | some program => .ok program
      | none => .error .missingInstructions := by
  have filled (place : Place) :
      (place.object? document).any (fun program =>
        decide ((program.list? "instructions").isSome = true ∧
          (!(program.items "instructions").isEmpty) = true)) =
        (place.idle? document == some false) := by
    unfold Place.idle?
    cases place.object? document with
    | none => rfl
    | some program =>
      rw [Option.any_some, Option.bind_some, Members.items]
      cases program.list? "instructions" with
      | none => rfl
      | some items => cases items <;> rfl
  have listed (place : Place) :
      (place.object? document).any (fun program => (program.list? "instructions").isSome) =
        (place.idle? document).isSome := by
    unfold Place.idle?
    cases place.object? document with
    | none => rfl
    | some program => simp
  rw [locate_of_list sound, List.find?_filter, candidates_eq_objects, List.find?_filterMap]
  simp only [filled]
  cases first : Place.all.find? fun place => place.idle? document == some false with
  | some place =>
    have chosen : place? document = some place := by
      rw [place?, first]
      rfl
    obtain ⟨program, object⟩ := exists_object chosen
    rw [chosen, Option.bind_some, object]
  | none =>
    have chosen : place? document = Place.all.find? fun place => (place.idle? document).isSome := by
      rw [place?, first]
      rfl
    have first_listed : ((Place.all.filterMap (Place.object? document)).filter fun c =>
        (c.list? "instructions").isSome).head? =
          (place? document).bind (Place.object? document) := by
      rw [List.head?_filter, List.find?_filterMap, chosen]
      simp only [listed]
    rw [← first_listed]
    cases (Place.all.filterMap (Place.object? document)).filter fun c =>
        (c.list? "instructions").isSome <;> rfl

private theorem Place.object?_change (there : place.object? document = some program) :
    place.object? (place.change f document) = some (f program) := by
  cases place with
  | whole => exact congrArg (fun program => some (f program)) (Option.some.inj there)
  | nested =>
    obtain ⟨value, found, object⟩ := Option.bind_eq_some_iff.mp there
    obtain rfl := Json.asObject?_eq_some.mp object
    rw [Place.object?, Place.change, Members.get?_mapValues, found]
    rfl
  | listed =>
    obtain ⟨value, head, object⟩ := Option.bind_eq_some_iff.mp there
    obtain rfl := Json.asObject?_eq_some.mp object
    have changed : (Place.listed.change f document).items "programs" =
        (document.items "programs").modifyHead (mapMembers f) := by
      rw [Members.items, Place.change, Members.list?, Members.get?_mapValues, Members.items,
        Members.list?]
      rcases document.get? "programs" with - | value
      · rfl
      · cases value <;> rfl
    rw [Place.object?, changed, List.head?_modifyHead, head]
    rfl

theorem refused_of_no_place (none : place? document = none) :
    ∃ e, ofJson (.object document) = .error e := by
  have reads : ofJson (.object document) = locate document >>= ofMembers document := rfl
  by_cases sound : ∀ value, document.get? "instructions" = some value → ∃ items, value = .list items
  · refine ⟨.missingInstructions, ?_⟩
    rw [reads, locate_eq_object sound, none]
    rfl
  · push Not at sound
    obtain ⟨value, found, plain⟩ := sound
    refine ⟨.instructionsNotAList, ?_⟩
    rw [reads, locate_of_notAList found plain]
    rfl

namespace Stays

variable (stays : Stays f program) (there : place.object? document = some program)

include stays there

private theorem own_instructions : ∃ step : List Json → List Json,
    (∀ values, (step values).isEmpty = values.isEmpty) ∧
    (place.change f document).get? "instructions" =
      (document.get? "instructions").map (mapItems step) := by
  have same (value : Json) : mapItems id value = value := by cases value <;> rfl
  cases place with
  | whole =>
    obtain rfl := Option.some.inj there
    exact stays.instructions
  | nested | listed =>
    refine ⟨id, fun _ => rfl, ?_⟩
    rw [Place.change, Members.get?_mapValues]
    exact congrArg (Option.map · (document.get? "instructions"))
      (funext fun value => (same value).symm)

private theorem text?_name : (place.change f document).text? "name" = document.text? "name" := by
  cases place with
  | whole =>
    obtain rfl := Option.some.inj there
    exact stays.name
  | nested | listed =>
    rw [Place.change, Members.text?, Members.get?_mapValues_of_id rfl]
    rfl

private theorem object?_of_ne {other : Place} (elsewhere : other ≠ place)
    (inside : other ≠ .whole) :
    other.object? (place.change f document) = other.object? document := by
  cases other with
  | whole => exact absurd rfl inside
  | nested =>
    cases place with
    | whole =>
      obtain rfl := Option.some.inj there
      exact stays.nested
    | nested => exact absurd rfl elsewhere
    | listed =>
      rw [Place.object?, Place.change, Members.get?_mapValues_of_id rfl]
      rfl
  | listed =>
    cases place with
    | whole =>
      obtain rfl := Option.some.inj there
      exact congrArg (fun items => items.head?.bind Json.asObject?) stays.listed
    | listed => exact absurd rfl elsewhere
    | nested =>
      rw [Place.object?, Place.change, Members.items, Members.list?,
        Members.get?_mapValues_of_id rfl]
      rfl

private theorem idle?_change (other : Place) :
    other.idle? (place.change f document) = other.idle? document := by
  have idle (members members' : Members) (step : List Json → List Json)
      (even : ∀ values, (step values).isEmpty = values.isEmpty)
      (changed : members'.get? "instructions" = (members.get? "instructions").map (mapItems step)) :
      (members'.list? "instructions").map List.isEmpty =
        (members.list? "instructions").map List.isEmpty := by
    rw [Members.list?, changed, Members.list?]
    rcases members.get? "instructions" with - | value
    · rfl
    · cases value with
      | list items => exact congrArg some (even items)
      | _ => rfl
  unfold Place.idle?
  by_cases here : other = place
  · subst here
    obtain ⟨step, even, changed⟩ := stays.instructions
    rw [Place.object?_change there, there]
    exact idle program (f program) step even changed
  · by_cases whole : other = .whole
    · subst whole
      obtain ⟨step, even, changed⟩ := stays.own_instructions there
      exact idle document _ step even changed
    · rw [stays.object?_of_ne there here whole]

private theorem place?_change : place? (place.change f document) = place? document := by
  unfold place?
  simp only [stays.idle?_change there]

/-- The changed program is read in place of the program, under the name that the document lends. -/
theorem locate_change (chosen : place? document = some place) :
    (∃ e, ofJson (.object document) = .error e ∧
      ofJson (.object (place.change f document)) = .error e) ∨
    ∃ values, Selects document program values ∧
      ofJson (.object document) = ofMembers document program ∧
      ofJson (.object (place.change f document)) = ofMembers document (f program) := by
  have reads (document : Members) :
      ofJson (.object document) = locate document >>= ofMembers document := rfl
  obtain ⟨step, -, changed⟩ := stays.own_instructions there
  by_cases sound : ∀ value, document.get? "instructions" = some value → ∃ items, value = .list items
  · have sound' : ∀ value, (place.change f document).get? "instructions" = some value →
        ∃ items, value = .list items := by
      intro value found
      rw [changed] at found
      obtain ⟨before, own, rfl⟩ := Option.map_eq_some_iff.mp found
      obtain ⟨items, rfl⟩ := sound before own
      exact ⟨step items, rfl⟩
    have located : locate document = .ok program := by
      rw [locate_eq_object sound, chosen, Option.bind_some, there]
    have located' : locate (place.change f document) = .ok (f program) := by
      rw [locate_eq_object sound', stays.place?_change there, chosen, Option.bind_some,
        Place.object?_change there]
    have lent :
        ofMembers (place.change f document) (f program) = ofMembers document (f program) := by
      have name : nameIn (place.change f document) (f program) = nameIn document (f program) := by
        unfold nameIn firstText
        simp only [List.findSome?_cons, stays.text?_name there]
      rw [ofMembers_eq, name, ← ofMembers_eq]
    rcases locate_eq sound with ⟨program', values, found, selected⟩ | ⟨refused, -⟩
    · rw [located] at found
      obtain rfl := Except.ok.inj found
      refine .inr ⟨values, selected, ?_, ?_⟩
      · rw [reads, located]
        rfl
      · rw [reads, located', ← lent]
        rfl
    · rw [located] at refused
      cases refused
  · push Not at sound
    obtain ⟨value, found, plain⟩ := sound
    have found' : (place.change f document).get? "instructions" = some value := by
      rw [changed, found]
      cases value with
      | list items => exact absurd rfl (plain items)
      | _ => rfl
    refine .inl ⟨.instructionsNotAList, ?_, ?_⟩
    · rw [reads, locate_of_notAList found plain]
      rfl
    · rw [reads, locate_of_notAList found' plain]
      rfl

end Stays

end UiScaffold.Program
