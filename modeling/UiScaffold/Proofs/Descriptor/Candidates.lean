import UiScaffold.Proofs.Descriptor.Refusal

/-!
Which object of a document is read as the program.

The first candidate with instructions is read, or else the first with an empty list. What is read
from it does not depend on the document around it, but for the name of a program that has none of
its own. So a program may be nested in a document in any of the ways that make it the chosen
candidate.
-/

set_option autoImplicit false
set_option relaxedAutoImplicit false

namespace UiScaffold

namespace Program

def metadataName (program : Json.Members) : Option String :=
  (program.get? "metadata").bind (Json.textAt? · "name")

/-- What a program is called: its own name, or else that of its metadata, or that of the
document. -/
inductive Called (document program : Json.Members) : String → Prop
  | own {name : String} : program.text? "name" = some name → Called document program name
  | metadata {name : String} : program.text? "name" = none → metadataName program = some name →
      Called document program name
  | document {name : String} : program.text? "name" = none → metadataName program = none →
      document.text? "name" = some name → Called document program name
  | nameless : program.text? "name" = none → metadataName program = none →
      document.text? "name" = none → Called document program "unknown_program"

/-- A document around a program: it has no name, and its own instructions are missing or empty. -/
structure IsFrame (document : Json.Members) : Prop where
  unnamed : document.text? "name" = none
  idle : document.get? "instructions" = none ∨ document.get? "instructions" = some (.list [])

/-- The ways to nest a program in a document. In a list it comes first, and no program with
instructions may stand beside the list. -/
inductive Nested (program : Json.Members) : Json.Members → Prop
  | bare : Nested program program
  | single {document : Json.Members} : IsFrame document →
      document.get? "program" = some (.object program) → Nested program document
  | listed {document : Json.Members} {others : List Json} : IsFrame document →
      (∀ other : Json.Members, document.get? "program" = some (.object other) →
        ∀ values, other.get? "instructions" = some (.list values) → values = []) →
      document.get? "programs" = some (.list (.object program :: others)) → Nested program document

variable {document program : Json.Members} {values : List Json}

private theorem candidates_eq (document : Json.Members) : ∃ nested listed : Option Json.Members,
    candidates document = document :: (nested.toList ++ listed.toList) ∧
    (∀ program, nested = some program ↔ document.get? "program" = some (.object program)) ∧
    ∀ program, listed = some program ↔
      ∃ others, document.get? "programs" = some (.list (.object program :: others)) := by
  refine ⟨_, _, rfl, ?_, ?_⟩
  · intro program
    rw [Option.bind_eq_some_iff]
    simp [Json.asObject?_eq_some]
  · intro program
    rw [Option.bind_eq_some_iff]
    simp only [Json.asObject?_eq_some, List.head?_eq_some_iff, exists_eq_right]
    refine exists_congr fun others => ?_
    cases found : document.list? "programs" with
    | none => simp [Json.Members.items, found, ← Json.Members.list?_eq_some]
    | some items => simp [Json.Members.items, found, ← Json.Members.list?_eq_some]

def nameIn (document program : Json.Members) : String :=
  (firstText [(program, "name"), (((program.get? "metadata").bind Json.asObject?).getD [], "name"),
    (document, "name")]).getD defaultName

private theorem called_nameIn (document program : Json.Members) :
    Called document program (nameIn document program) := by
  have metadata :
      (((program.get? "metadata").bind Json.asObject?).getD [] : Json.Members).text? "name" =
        metadataName program := by
    unfold metadataName
    cases program.get? "metadata" with
    | none => rfl
    | some value => cases value <;> rfl
  unfold nameIn firstText
  simp only [List.findSome?_cons, metadata, List.findSome?_nil]
  cases own : program.text? "name" with
  | some name => exact .own own
  | none =>
    cases inner : metadataName program with
    | some name => exact .metadata own inner
    | none =>
      cases outer : document.text? "name" with
      | some name => exact .document own inner outer
      | none => exact .nameless own inner outer

/-- What is read from a candidate is what it says, under the name that it is called. -/
theorem ofMembers_eq (document program : Json.Members) :
    ofMembers document program = (ofMembers [] program).map fun made =>
      { made with name := nameIn document program } := by
  unfold ofMembers
  rw [except_map_bind]
  refine bind_congr fun instructions => ?_
  rw [except_map_bind]
  refine bind_congr fun _ => ?_
  rw [except_map_bind]
  exact bind_congr fun types => rfl

private theorem ofMembers_ne_missing (selected : Selects document program values) :
    ofMembers document program ≠ .error .missingInstructions := by
  intro refused
  obtain ⟨check, member, fault⟩ := ((ofMembers_eq_error_iff selected).mp refused).exists_fault
  simp only [List.mem_cons, List.not_mem_nil, or_false] at member
  rcases member with rfl | rfl | rfl
  · obtain ⟨-, -, first⟩ := fault
    obtain ⟨⟨value, index⟩, -, fault⟩ := first.exists_fault
    change Instruction.Fault index value _ at fault
    cases fault
  · cases fault
  · obtain ⟨-, -, -, first⟩ := fault
    obtain ⟨entry, -, fault⟩ := first.exists_fault
    cases fault

private theorem ofJson_of_selects (own : ∀ value, document.get? "instructions" = some value →
      ∃ items, value = .list items) (selected : Selects document program values) :
    ofJson (.object document) = ofMembers document program := by
  have located : ofJson (.object document) = locate document >>= ofMembers document := rfl
  rw [located]
  rcases locate_eq own with ⟨program', values', found, selected'⟩ | ⟨-, none⟩
  · obtain ⟨rfl, -⟩ := selected.unique selected'
    rw [found]
    rfl
  · exact absurd selected.found.2 (none program selected.found.1 values)

private theorem IsFrame.own_list (h : IsFrame document) {value : Json}
    (there : document.get? "instructions" = some value) : value = .list [] := by
  rcases h.idle with none | empty
  · rw [none] at there
    cases there
  · rw [empty] at there
    cases there
    rfl

private theorem Nested.own_list (h : Nested program document)
    (found : program.get? "instructions" = some (.list values)) :
    ∀ value, document.get? "instructions" = some value → ∃ items, value = .list items := by
  intro value there
  cases h with
  | bare =>
    rw [found] at there
    cases there
    exact ⟨values, rfl⟩
  | single frame _ => exact ⟨[], frame.own_list there⟩
  | listed frame _ _ => exact ⟨[], frame.own_list there⟩

private theorem Nested.selects (h : Nested program document)
    (found : program.get? "instructions" = some (.list values)) (filled : values ≠ []) :
    Selects document program values := by
  obtain ⟨nested, listed, all, nested_iff, listed_iff⟩ := candidates_eq document
  have idle : IsFrame document → ∀ items,
      document.get? "instructions" = some (.list items) → items = [] := by
    intro frame items there
    cases frame.own_list there
    rfl
  cases h with
  | bare =>
    have split : candidates document = [] ++ document :: (nested.toList ++ listed.toList) := all
    exact .filled split found filled nofun
  | single frame inside =>
    rw [(nested_iff program).mpr inside] at all
    have split : candidates document = [document] ++ program :: listed.toList := all
    refine .filled split found filled ?_
    simpa using idle frame
  | listed frame beside inside =>
    rw [(listed_iff program).mpr ⟨_, inside⟩] at all
    have split : candidates document = (document :: nested.toList) ++ program :: [] := all
    refine .filled split found filled ?_
    intro other member items there
    rcases List.mem_cons.mp member with rfl | member
    · exact idle frame items there
    · exact beside other ((nested_iff other).mp (Option.mem_toList.mp member)) items there

private theorem Nested.nameIn_eq (h : Nested program document) :
    nameIn document program = nameIn program program := by
  have outside : IsFrame document → nameIn document program = nameIn program program := by
    intro frame
    unfold nameIn firstText
    simp only [List.findSome?_cons, frame.unnamed]
    cases program.text? "name" with
    | some name => rfl
    | none => rfl
  cases h with
  | bare => rfl
  | single frame _ => exact outside frame
  | listed frame _ _ => exact outside frame

/-- A document whose own instructions are a list or missing is read from the first candidate with
instructions, or else from the first with a list of them, and refused for the want of instructions
when no candidate has one. The document lends its name at most. So a program with instructions is
read, or refused, in the same way wherever it is nested. -/
theorem chosen_candidate_is_read :
    (∀ document : Json.Members,
      (∀ value, document.get? "instructions" = some value → ∃ items, value = .list items) →
      (∃ nested listed : Option Json.Members,
        candidates document = document :: (nested.toList ++ listed.toList) ∧
        (∀ program, nested = some program ↔ document.get? "program" = some (.object program)) ∧
        ∀ program, listed = some program ↔
          ∃ others, document.get? "programs" = some (.list (.object program :: others))) ∧
      (ofJson (.object document) = .error .missingInstructions ↔
        ∀ candidate ∈ candidates document, ∀ items,
          candidate.get? "instructions" ≠ some (.list items)) ∧
      ((∃ candidate ∈ candidates document, ∃ items,
          candidate.get? "instructions" = some (.list items)) →
        ∃ program values name, Selects document program values ∧ Called document program name ∧
          ofJson (.object document) =
            (ofMembers [] program).map fun made => { made with name := name })) ∧
    ∀ program values document, Json.Members.get? program "instructions" = some (.list values) →
      values ≠ [] → Nested program document →
      ofJson (.object document) = ofJson (.object program) := by
  constructor
  · intro document own
    refine ⟨candidates_eq document, ?_, ?_⟩
    · rcases locate_eq own with ⟨program, values, -, selected⟩ | ⟨refused, none⟩
      · rw [ofJson_of_selects own selected]
        constructor
        · intro missing
          exact absurd missing (ofMembers_ne_missing selected)
        · intro none
          exact absurd selected.found.2 (none program selected.found.1 values)
      · have located : ofJson (.object document) = locate document >>= ofMembers document := rfl
        rw [located, refused]
        exact ⟨fun _ => none, fun _ => rfl⟩
    · rintro ⟨candidate, member, items, there⟩
      rcases locate_eq own with ⟨program, values, -, selected⟩ | ⟨-, none⟩
      · refine ⟨program, values, _, selected, called_nameIn document program, ?_⟩
        rw [ofJson_of_selects own selected, ofMembers_eq]
      · exact absurd there (none candidate member items)
  · intro program values document found filled nested
    have alone : Nested program program := .bare
    calc
      ofJson (.object document) = ofMembers document program :=
        ofJson_of_selects (nested.own_list found) (nested.selects found filled)
      _ = ofMembers program program := by
        rw [ofMembers_eq document, nested.nameIn_eq, ← ofMembers_eq program]
      _ = ofJson (.object program) :=
        (ofJson_of_selects (alone.own_list found) (alone.selects found filled)).symm

def runner : Json.Members :=
  [("name", .text "runner"), ("instructions", .list [.object [("name", .text "run")]])]

/-- A document with three candidates, of which the last has an instruction. -/
def crowd : Json.Members :=
  [("instructions", .list []), ("program", .object [("instructions", .null)]),
    ("programs", .list [.object runner, .null])]

theorem chosen_candidate_is_read_of_runner :
    (∀ value, crowd.get? "instructions" = some value → ∃ items, value = .list items) ∧
    (∃ candidate ∈ candidates crowd, ∃ items, candidate.get? "instructions" = some (.list items)) ∧
    (∃ program values name, Selects crowd program values ∧ Called crowd program name ∧
      ofJson (.object crowd) = (ofMembers [] program).map fun made => { made with name := name }) ∧
    ofJson (.object crowd) = ofJson (.object runner) ∧
    ofJson (.object [("program", .object runner)]) = ofJson (.object runner) ∧
    ofJson (.object [("programs", .list [.object runner, .null])]) = ofJson (.object runner) ∧
    ofJson (.object [("instructions", .list []), ("program", .object runner)]) =
      ofJson (.object runner) := by
  have own : ∀ value, crowd.get? "instructions" = some value → ∃ items, value = .list items := by
    rintro value ⟨⟩
    exact ⟨[], rfl⟩
  have candidate : ∃ candidate ∈ candidates crowd, ∃ items,
      candidate.get? "instructions" = some (.list items) :=
    ⟨crowd, List.mem_cons_self, [], rfl⟩
  have beside : ∀ other : Json.Members, crowd.get? "program" = some (.object other) →
      ∀ values, other.get? "instructions" = some (.list values) → values = [] := by
    rintro other ⟨⟩ values ⟨⟩
  obtain ⟨chosen, nested⟩ := chosen_candidate_is_read
  have same := fun document => nested runner _ document rfl (List.cons_ne_nil _ _)
  exact ⟨own, candidate, (chosen crowd own).2.2 candidate,
    same _ (.listed ⟨rfl, .inr rfl⟩ beside rfl),
    same _ (.single ⟨rfl, .inl rfl⟩ rfl),
    same _ (.listed ⟨rfl, .inl rfl⟩ nofun rfl),
    same _ (.single ⟨rfl, .inr rfl⟩ rfl)⟩

end Program

end UiScaffold
